import Scenery.Export.Location
import Scenery.Mesh.FaceGeometry
import Scenery.Mesh.Wavefront
import Scenery.Scene.Handle
import Scenery.Storage.File

/-!
# Failures

Why an operation on a scene, a snapshot or the settings failed.  A failure is a cause; its words are
given by one function for each kind of cause.
-/

namespace Scenery

/-- What a node lacks for an operation. -/
inductive Lack where
  | notTransform
  | notMesh
  | noRadius
  | noDimensions
  | notConnected
  | noShapeParent
  | noCameraParent
  | singularParent
  | noGenerator
  deriving DecidableEq, Repr

/-- What is missing, in words. -/
def Lack.message : Lack → String
  | notTransform => "is not a transform"
  | notMesh => "is not a mesh"
  | noRadius => "has no radius attribute"
  | noDimensions => "has no width/height/depth attributes"
  | notConnected => "output is not connected to a shape"
  | noShapeParent => "shape has no parent transform"
  | noCameraParent => "camera has no parent transform"
  | singularParent => "parent transform is singular"
  | noGenerator => "box has no generator"

/-- Something expected of the nodes of a scene is not there. -/
inductive ResolutionError where
  | emptyName
  | staleHandle (handle : Handle)
  | node (name : String) (lack : Lack)
  deriving DecidableEq, Repr

def ResolutionError.message : ResolutionError → String
  | emptyName => "node name cannot be empty"
  | staleHandle h => "stale node handle " ++ h.display
  | node name lack => "'" ++ name ++ "': " ++ lack.message

/-- A mesh, or one of its faces, is of no use. -/
inductive GeometryError where
  | mesh (error : MeshError)
  | face (mesh : String) (error : FaceError)
  | wavefront (path : String) (error : Wavefront.Error)
  deriving DecidableEq, Repr

def GeometryError.message : GeometryError → String
  | mesh e => e.message
  | face name e => name ++ ": " ++ e.message
  | wavefront path e => path ++ ": " ++ e.message

/-- The selection is not what an operation needs. -/
inductive SelectionError where
  | nothingSelected
  | notMesh (name : String)
  | unknownObject (name : String)
  deriving DecidableEq, Repr

def SelectionError.message : SelectionError → String
  | nothingSelected => "nothing is selected"
  | notMesh name => "'" ++ name ++ "' is not polygon mesh geometry"
  | unknownObject name => "selected object '" ++ name ++ "' not found"

/-- A command is registered where it should not be, or the other way round. -/
inductive RegistrationError where
  | alreadyRegistered (name : String)
  | notRegistered (name : String)
  | unknownCommand (name : String)
  deriving DecidableEq, Repr

def RegistrationError.message : RegistrationError → String
  | alreadyRegistered name => "command '" ++ name ++ "' is already registered"
  | notRegistered name => "command '" ++ name ++ "' is not registered"
  | unknownCommand name => "unknown command '" ++ name ++ "'"

/-- Why an operation failed. -/
inductive Failure where
  | resolution (cause : ResolutionError)
  | output (cause : OutputError)
  | geometry (cause : GeometryError)
  | selection (cause : SelectionError)
  | registration (cause : RegistrationError)
  | storage (cause : StorageError)
  deriving DecidableEq, Repr

/-- The words of the error, whichever part of the program it comes from. -/
def Failure.message : Failure → String
  | resolution e => "Resolution error: " ++ e.message
  | output e => "IO error: " ++ e.message
  | geometry e => "Geometry error: " ++ e.message
  | selection e => "Selection error: " ++ e.message
  | registration e => "Registration error: " ++ e.message
  | storage e => "Config error: " ++ e.message

/-- The program itself broke down. -/
def Failure.isBreakdown : Failure → Bool
  | geometry (.wavefront _ e) => e.isBreakdown
  | _ => false

end Scenery
