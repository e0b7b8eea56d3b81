import Scenery.Decimal.Fixed
import Scenery.Files.Table
import Scenery.Main
import Scenery.Proofs.Decimal.Rounding
import Scenery.Proofs.Decimal.ReadBack
import Scenery.Proofs.Decimal.Text
import Scenery.Proofs.Single.Text
import Scenery.Proofs.Script.Grammar
import Scenery.Proofs.Script.Products
import Scenery.Proofs.Script.Rendered
import Scenery.Proofs.Script.RoundTrip
import Scenery.Proofs.Scene.Names
import Scenery.Proofs.Scene.Nodes
import Scenery.Proofs.Scene.Runs
import Scenery.Proofs.Scene.WellFormed
import Scenery.Proofs.Scene.Calls
import Scenery.Proofs.Scene.Consistent
import Scenery.Proofs.Scene.Frame
import Scenery.Proofs.Single.Arithmetic
import Scenery.Proofs.Conversion.Boxes
import Scenery.Proofs.Conversion.Convert
import Scenery.Proofs.Except
import Scenery.Proofs.Export.Blocks
import Scenery.Proofs.Export.ReadBack
import Scenery.Proofs.Script.Groups
import Scenery.Proofs.Script.Modes
import Scenery.Proofs.Script.Accounts
import Scenery.Proofs.Conversion.Flat
import Scenery.Proofs.Conversion.History
import Scenery.Proofs.Export.Document
import Scenery.Proofs.Scene.Placement
import Scenery.Proofs.Snapshot.Capture
import Scenery.Proofs.Snapshot.Reload
import Scenery.Proofs.Script.Rewriting
import Scenery.Proofs.Scene.History
import Scenery.Proofs.Scene.Naming
import Scenery.Proofs.Scene.Atomic
import Scenery.Proofs.Export.Location
import Scenery.Proofs.Files.Lawful
import Scenery.Proofs.Files.Table
import Scenery.Proofs.CommandLine.Reading
import Scenery.Proofs.CommandLine.Effects
import Scenery.Proofs.Mesh.Wavefront
import Scenery.Proofs.Conversion.Document
import Scenery.Proofs.Snapshot.Identity
import Scenery.Proofs.Snapshot.Restoring
import Scenery.Proofs.Scene.Cameras
import Scenery.Proofs.Export.Owners
import Scenery.Proofs.Mesh.Queries
import Scenery.Proofs.Geometry.Exact
import Scenery.Proofs.Geometry.Rotation
import Scenery.Proofs.Scene.WorldEdits
import Scenery.Proofs.Command.Loading
import Scenery.Proofs.Text.Spacing
import Scenery.Proofs.Script.Spacing
import Scenery.Proofs.Geometry.Vector
import Scenery.Proofs.Mesh.Area
import Scenery.Proofs.Mesh.Axes
import Scenery.Proofs.Conversion.Standing
import Scenery.Proofs.Mesh.Breakdown
