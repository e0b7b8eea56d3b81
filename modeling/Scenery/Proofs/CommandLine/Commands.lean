import Scenery.CommandLine.Run

/-!
# Commands in a run

A run has a registry of its own with the two standard commands, so a command is there, and taking both
out again does not fail: what a command does is all that happens.
-/

namespace Scenery.CommandLine

variable {m : Type → Type} [Monad m] [LawfulMonad m] [MonadFiles m]
variable (settings : Settings) (env : Environment) (s : Scene Single)

/-- The registry with the standard commands. -/
private def loaded : Registry :=
  (Registry.empty.insert (.exportScene settings.exporting)).insert (.meshToBoxes settings.conversion)

private theorem run_load : (Registry.load settings).run .empty = (.ok (), loaded settings) := rfl

private theorem run_unload : Registry.unload.run (loaded settings) = (.ok (), .empty) := rfl

/-- The command that writes documents leaves the scene. -/
theorem runCommand_exportScene :
    (runCommand settings env Command.exportSceneName s :
      m (Except Trouble Command.Output × Scene Single)) = do
    match ← Export.run settings.exporting env s with
    | .error e =>
      return (.error { message := Command.exportSceneName ++ " failed", causes := e.causes }, s)
    | .ok report => return (.ok (.exported report), s) := by
  -- once loaded, the name leads to the export
  have hinvoke : ((loaded settings).invoke env Command.exportSceneName s :
      m (Except Failure Command.Output × Scene Single)) =
      Export.run settings.exporting env s >>= fun r => pure (r.map .exported, s) := rfl
  unfold runCommand
  rw [run_load]
  dsimp only
  rw [hinvoke, bind_assoc]
  congr 1
  funext r
  rw [pure_bind]
  cases r with
  | error e => rfl
  | ok report =>
    dsimp only [Except.map]
    rw [run_unload]

/-- The command that adds boxes leaves the scene of the conversion, whether that fails or not. -/
theorem runCommand_meshToBoxes :
    (runCommand settings env Command.meshToBoxesName s :
      m (Except Trouble Command.Output × Scene Single)) =
    pure (match (Conversion.convert settings.conversion).run s with
      | (.error e, s') =>
        (.error { message := Command.meshToBoxesName ++ " failed", causes := e.causes }, s')
      | (.ok report, s') => (.ok (.converted report), s')) := by
  have hinvoke : ((loaded settings).invoke env Command.meshToBoxesName s :
      m (Except Failure Command.Output × Scene Single)) =
      pure (((Conversion.convert settings.conversion).run s).1.map .converted,
        ((Conversion.convert settings.conversion).run s).2) := rfl
  unfold runCommand
  rw [run_load]
  dsimp only
  rw [hinvoke, pure_bind]
  rcases (Conversion.convert settings.conversion).run s with ⟨_ | report, s'⟩
  · rfl
  · dsimp only [Except.map]
    rw [run_unload]

end Scenery.CommandLine
