import Scenery.CommandLine.Run
import Scenery.Proofs.Files.Lawful

/-!
# What a run only reads

Settings, snapshots with their meshes, and scripts are read; all files stay as they are.
-/

namespace Scenery.ReadsOnly

variable {σ : Type} [MonadFiles (StateT σ Id)] [LawfulFiles σ]

theorem load {α : Type} [Stored α] (path : String) :
    ReadsOnly (Storage.load path : StateT σ Id (Except StorageError α)) := by
  unfold Storage.load
  split
  · exact pure _
  refine (readText path).bind fun r => ?_
  split
  · exact pure _
  · split <;> exact pure _

theorem loadSettings (path : Option String) :
    ReadsOnly (CommandLine.loadSettings path : StateT σ Id (Except CommandLine.Trouble Settings)) := by
  have hload : ReadsOnly (Storage.loadOrInitial path : StateT σ Id (Except StorageError Settings)) := by
    cases path with
    | none => exact pure _
    | some path => exact load path
  refine hload.bind fun r => ?_
  split
  · exact pure _
  · split <;> exact pure _

/-! ### Snapshots -/

private theorem wavefront (path : String) :
    ReadsOnly (Wavefront.load path : StateT σ Id (Except Wavefront.Error (Mesh Single))) := by
  refine (readBytes path).bind fun r => ?_
  split <;> exact pure _

/-- The shape of an object is looked up in files, if at all. -/
private theorem resolveShape (base : String) (source : ShapeSource) :
    ReadsOnly (Snapshot.resolveShape base source : StateT σ Id (Except Failure ObjectShape)) := by
  cases source with
  | given shape => exact pure _
  | wavefront path =>
    refine (wavefront _).bind fun r => ?_
    split <;> exact pure _

/-- Objects are added one after another, which reads the files of their meshes only. -/
private theorem addObjects (base : String) (os : List SnapshotObject) (s : Scene Single) :
    ReadsOnly (Snapshot.addObjects base s os : StateT σ Id (Except Failure (Scene Single))) := by
  induction os generalizing s with
  | nil => exact pure _
  | cons o rest ih =>
    refine (resolveShape base o.shape).bind fun r => ?_
    split
    · exact pure _
    · split
      · exact pure _
      · exact ih _

theorem loadScene (path : String) :
    ReadsOnly (CommandLine.loadScene path :
      StateT σ Id (Except CommandLine.Trouble (Scene Single))) := by
  have hscene : ReadsOnly (Snapshot.loadScene path : StateT σ Id (Except Failure (Scene Single))) := by
    refine (load path).bind fun r => ?_
    split
    · exact pure _
    refine (addObjects _ _ _).bind fun r => ?_
    split
    · exact pure _
    · split <;> exact pure _
  refine hscene.bind fun r => ?_
  split <;> exact pure _

/-! ### Scripts -/

theorem loadScript (mode : Script.Mode) (path : String) :
    ReadsOnly (Script.load mode path : StateT σ Id Script.FileOutcome) := by
  refine (readText path).bind fun r => ?_
  split <;> exact pure _

end Scenery.ReadsOnly
