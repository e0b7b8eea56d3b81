import Scenery.Conversion.Boxes
import Scenery.Export.Write
import Scenery.Log
import Scenery.Text.Escape

/-!
# Commands

Tools that run on a scene, by name.  A registry holds commands with names that differ; the two
standard commands are loaded into it and unloaded from it together.
-/

namespace Scenery

/-- What a command does. -/
inductive Action where
  /-- Writes the document of the scene. -/
  | exportScene (settings : ExportSettings)
  /-- Adds a box for every face of the selected mesh. -/
  | meshToBoxes (settings : ConversionSettings)
  deriving DecidableEq

/-- A named action. -/
structure Command where
  name : String
  action : Action
  deriving DecidableEq

namespace Command

/-- Name of the command that writes documents. -/
def exportSceneName : String := "bxExportScene"

/-- Name of the command that converts meshes. -/
def meshToBoxesName : String := "bxMeshToBoxes"

/-- The command that writes the scene as a document. -/
def exportScene (settings : ExportSettings) : Command := ⟨exportSceneName, .exportScene settings⟩

/-- The command that makes a box of each face of the selected mesh. -/
def meshToBoxes (settings : ConversionSettings) : Command :=
  ⟨meshToBoxesName, .meshToBoxes settings⟩

/-- What a command gives. -/
inductive Output where
  | exported (report : Export.Report)
  | converted (report : Conversion.Report)
  deriving DecidableEq

/-- Runs an action on a scene.  The scene is given back whether the action succeeds or fails. -/
def run {m : Type → Type} [Monad m] [MonadFiles m] (env : Environment) (s : Scene Single) :
    Action → m (Except Failure Output × Scene Single)
  | .exportScene settings => do
    let r ← Export.run settings env s
    return (r.map .exported, s)
  | .meshToBoxes settings =>
    let (r, s) := (Conversion.convert settings).run s
    return (r.map .converted, s)

end Command

/-- Commands with names that differ, in the order of their registration. -/
@[ext]
structure Registry where
  commands : List Command
  nodup : (commands.map Command.name).Nodup
  deriving DecidableEq

/-- A change of a registry with a result or a failure. -/
abbrev Registering (β : Type) := ExceptT Failure (StateM Registry) β

namespace Registry

/-- The registry without commands. -/
def empty : Registry := ⟨[], List.nodup_nil⟩

/-- The command with a name. -/
def find? (r : Registry) (name : String) : Option Command := r.commands.find? (·.name == name)

/-- A command with the name is there. -/
def contains (r : Registry) (name : String) : Bool := (r.find? name).isSome

/-- The names of the commands, sorted. -/
def names (r : Registry) : List String :=
  (r.commands.map Command.name).mergeSort fun a b => decide (a ≤ b)

/-- A command behind others whose names differ from its own. -/
private theorem nodup_append (r : Registry) {c : Command} (h : ¬r.contains c.name) :
    ((r.commands ++ [c]).map Command.name).Nodup := by
  rw [List.map_append, List.map_singleton, List.nodup_append]
  refine ⟨r.nodup, List.pairwise_singleton _ _, fun name hname other hother => ?_⟩
  obtain ⟨d, hd, rfl⟩ := List.mem_map.1 hname
  rintro rfl
  apply h
  rw [contains, find?, List.find?_isSome]
  exact ⟨d, hd, beq_iff_eq.2 (List.mem_singleton.1 hother)⟩

/-- The registry with one more command, if its name is free. -/
def insert (r : Registry) (c : Command) : Registry :=
  if h : r.contains c.name then r else ⟨r.commands ++ [c], r.nodup_append h⟩

/-- The registry without the command with a name. -/
def erase (r : Registry) (name : String) : Registry :=
  ⟨r.commands.filter (·.name != name), r.nodup.sublist (List.filter_sublist.map _)⟩

/-- Adds a command under a name that is free. -/
def register (c : Command) : Registering Unit := do
  if (← get).contains c.name then
    throw (.registration (.alreadyRegistered c.name))
  modify (·.insert c)

/-- Takes out the command with a name. -/
def deregister (name : String) : Registering Command := do
  match (← get).find? name with
  | none => throw (.registration (.notRegistered name))
  | some c =>
    modify (·.erase name)
    return c

/-- Registers the two standard commands, the one that writes documents first. -/
def load (settings : Settings) : Registering Unit := do
  register (.exportScene settings.exporting)
  register (.meshToBoxes settings.conversion)

/-- Takes out the two standard commands, the one that writes documents first. -/
def unload : Registering Unit := do
  discard (deregister Command.exportSceneName)
  discard (deregister Command.meshToBoxesName)

/-- The record of a failure to load or to unload; it names the command that stood in the way. -/
def failureRecord? (f : Failure) : Option LogRecord :=
  match f with
  | .registration (.alreadyRegistered name) =>
    some ⟨.error, "Failed to register command: " ++ name ++ " (" ++ f.message ++ ")"⟩
  | .registration (.notRegistered name) =>
    some ⟨.error, "Failed to unregister command: " ++ name ++ " (" ++ f.message ++ ")"⟩
  | _ => none

/-- Runs the command with a name on a scene. -/
def invoke {m : Type → Type} [Monad m] [MonadFiles m] (r : Registry) (env : Environment)
    (name : String) (s : Scene Single) : m (Except Failure Command.Output × Scene Single) :=
  match r.find? name with
  | none => return (.error (.registration (.unknownCommand name)), s)
  | some c => Command.run env s c.action

/-- The registry in messages: the sorted names of its commands. -/
def display (r : Registry) : String :=
  "CommandRegistry \x7b commands: [" ++ ", ".intercalate (r.names.map Text.display) ++ "] \x7d"

end Registry

end Scenery
