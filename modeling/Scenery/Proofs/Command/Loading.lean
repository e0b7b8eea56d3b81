import Scenery.Command.Registry
import Scenery.Proofs.Except

/-!
# Loading and unloading

The standard commands are loaded one after the other and unloaded in the same order.  The first step
that fails ends it, and the step before it stays done: where only the name of the second command is
taken, the first one is registered all the same, and where only the second one is missing, the first
one is gone.  In all other registries it is all or nothing.

* `run_load`, `run_unload`   what is left of a registry
* `not_allOrNothing_second`  registries in which the second step fails
* `loadsInTurn`              loading and unloading, on any registry
-/

namespace Scenery.Registry

open Command (exportSceneName meshToBoxesName)

variable {r r' : Registry}

/-! ### One command -/

/-- A command whose name is free comes behind the others. -/
theorem commands_insert {c : Command} (h : r.contains c.name = false) :
    (r.insert c).commands = r.commands ++ [c] := by
  rw [insert, dif_neg (Bool.eq_false_iff.1 h)]

theorem commands_erase (r : Registry) (name : String) :
    (r.erase name).commands = r.commands.filter (·.name != name) := rfl

/-- What is found under a name stays; a new command is found under its own. -/
theorem find?_insert (r : Registry) (c : Command) (name : String) :
    (r.insert c).find? name = (r.find? name).or (if c.name = name then some c else none) := by
  cases htaken : r.contains c.name with
  | true =>
    -- nothing is added, and the name of the command has its own already
    rw [insert, dif_pos htaken]
    by_cases h : c.name = name
    · rw [if_pos h, Option.or_of_isSome (h ▸ htaken)]
    · rw [if_neg h, Option.or_none]
  | false =>
    unfold find?
    rw [commands_insert htaken, List.find?_append, List.find?_singleton]
    simp only [beq_iff_eq]

/-- Nothing is found under a name that was taken out; under other names nothing changes. -/
theorem find?_erase (r : Registry) (name other : String) :
    (r.erase name).find? other = if other = name then none else r.find? other := by
  unfold find? erase
  rw [List.find?_filter]
  by_cases h : other = name
  · rw [if_pos h, h, List.find?_eq_none]
    simp
  · rw [if_neg h]
    congr 1
    funext c
    by_cases hc : c.name = other
    · simp [hc, h]
    · simp [hc]

/-- A command that is registered is there, with all that were there before. -/
@[simp] theorem contains_insert (r : Registry) (c : Command) (name : String) :
    (r.insert c).contains name = (r.contains name || c.name == name) := by
  unfold contains
  rw [find?_insert, Option.isSome_or]
  by_cases h : c.name = name <;> simp [h]

/-- Only the command that is taken out is gone. -/
@[simp] theorem contains_erase (r : Registry) (name other : String) :
    (r.erase name).contains other = (other != name && r.contains other) := by
  unfold contains
  rw [find?_erase]
  by_cases h : other = name <;> simp [h]

/-- A command whose name is free can be taken out again, and nothing else goes with it. -/
theorem erase_insert {c : Command} (h : r.contains c.name = false) : (r.insert c).erase c.name = r := by
  have hall : ∀ d ∈ r.commands, (d.name != c.name) = true := by
    simpa [contains, find?] using h
  apply Registry.ext
  rw [commands_erase, commands_insert h, List.filter_append, List.filter_eq_self.2 hall]
  simp

/-- Commands of different names are registered and taken out independently. -/
theorem erase_insert_of_ne {c : Command} {name : String} (h : c.name ≠ name) :
    (r.insert c).erase name = (r.erase name).insert c := by
  cases htaken : r.contains c.name with
  | true =>
    have hstill : (r.erase name).contains c.name = true := by simp [htaken, h]
    rw [insert, dif_pos htaken, insert, dif_pos hstill]
  | false =>
    have hstill : (r.erase name).contains c.name = false := by simp [htaken]
    apply Registry.ext
    rw [commands_insert hstill, commands_erase, commands_erase, commands_insert htaken]
    simp [List.filter_append, h]

private theorem run_get (r : Registry) : (get : Registering Registry).run r = (.ok r, r) := rfl

/-- Registering adds the command, or fails if its name is taken. -/
theorem run_register (c : Command) (r : Registry) : (register c).run r =
    if r.contains c.name then (.error (.registration (.alreadyRegistered c.name)), r)
    else (.ok (), r.insert c) := by
  unfold register
  rw [run_bind_keeping, run_get]
  dsimp only
  cases r.contains c.name with
  | true => rfl
  | false => rfl

/-- Taking out a command fails if it is not there. -/
theorem run_deregister (name : String) (r : Registry) : (discard (deregister name)).run r =
    if r.contains name then (.ok (), r.erase name)
    else (.error (.registration (.notRegistered name)), r) := by
  unfold deregister contains
  rw [Functor.discard, LawfulFunctor.map_const, Function.comp_apply, map_eq_pure_bind, run_bind_keeping,
    run_bind_keeping, run_get]
  dsimp only
  cases r.find? name with
  | none => rfl
  | some c => rfl

/-! ### Both commands -/

/-- What loading does, by the names that are taken. -/
theorem run_load (settings : Settings) (r : Registry) : (load settings).run r =
    if r.contains exportSceneName then
      (.error (.registration (.alreadyRegistered exportSceneName)), r)
    else if r.contains meshToBoxesName then
      (.error (.registration (.alreadyRegistered meshToBoxesName)),
        r.insert (.exportScene settings.exporting))
    else (.ok (), (r.insert (.exportScene settings.exporting)).insert
      (.meshToBoxes settings.conversion)) := by
  have hother : (exportSceneName == meshToBoxesName) = false := by decide
  unfold load
  rw [run_bind_keeping, run_register, Command.exportScene]
  cases r.contains exportSceneName with
  | true => rfl
  | false =>
    rw [if_neg Bool.false_ne_true]
    -- the first command is registered, so only the name of the second one is left to look at
    dsimp only
    rw [run_register, Command.meshToBoxes, contains_insert, hother, Bool.or_false]
    rfl

/-- What unloading does, by the commands that are there. -/
theorem run_unload (r : Registry) : unload.run r =
    if r.contains exportSceneName = false then
      (.error (.registration (.notRegistered exportSceneName)), r)
    else if r.contains meshToBoxesName = false then
      (.error (.registration (.notRegistered meshToBoxesName)), r.erase exportSceneName)
    else (.ok (), (r.erase exportSceneName).erase meshToBoxesName) := by
  have hother : (meshToBoxesName != exportSceneName) = true := by decide
  unfold unload
  rw [run_bind_keeping, run_deregister]
  cases r.contains exportSceneName with
  | false => rfl
  | true =>
    rw [if_pos rfl, if_neg Bool.noConfusion]
    -- taking out the first command leaves the second one
    dsimp only
    rw [run_deregister, contains_erase, hother, Bool.true_and]
    cases r.contains meshToBoxesName with
    | false => rfl
    | true => rfl

/-- Loading succeeds exactly where both names are free. -/
theorem load_eq_ok {settings : Settings} : (load settings).run r = (.ok (), r') ↔
    r.contains exportSceneName = false ∧ r.contains meshToBoxesName = false ∧
      r' = (r.insert (.exportScene settings.exporting)).insert (.meshToBoxes settings.conversion) := by
  rw [run_load]
  constructor
  · intro h
    split at h
    · cases h
    · rename_i hexport
      split at h
      · cases h
      · rename_i hmesh
        cases h
        exact ⟨Bool.eq_false_iff.2 hexport, Bool.eq_false_iff.2 hmesh, rfl⟩
  · intro h
    obtain ⟨hexport, hmesh, rfl⟩ := h
    rw [hexport, hmesh]
    rfl

/-- Loading fails over the first of the two names that is taken. -/
theorem load_eq_error {settings : Settings} {f : Failure}
    (h : (load settings).run r = (.error f, r')) :
    ∃ name, r.contains name = true ∧ f = .registration (.alreadyRegistered name) := by
  rw [run_load] at h
  split at h
  · rename_i hexport
    cases h
    exact ⟨_, hexport, rfl⟩
  · split at h
    · rename_i hmesh
      cases h
      exact ⟨_, hmesh, rfl⟩
    · cases h

/-- Unloading succeeds exactly where both commands are there. -/
theorem unload_eq_ok : unload.run r = (.ok (), r') ↔
    r.contains exportSceneName = true ∧ r.contains meshToBoxesName = true ∧
      r' = (r.erase exportSceneName).erase meshToBoxesName := by
  rw [run_unload]
  constructor
  · intro h
    split at h
    · cases h
    · rename_i hexport
      split at h
      · cases h
      · rename_i hmesh
        cases h
        exact ⟨by simpa using hexport, by simpa using hmesh, rfl⟩
  · intro h
    obtain ⟨hexport, hmesh, rfl⟩ := h
    rw [hexport, hmesh]
    rfl

/-- Unloading fails over the first of the two commands that is missing. -/
theorem unload_eq_error {f : Failure} (h : unload.run r = (.error f, r')) :
    ∃ name, r.contains name = false ∧ f = .registration (.notRegistered name) := by
  rw [run_unload] at h
  split at h
  · rename_i hexport
    cases h
    exact ⟨_, hexport, rfl⟩
  · split at h
    · rename_i hmesh
      cases h
      exact ⟨_, hmesh, rfl⟩
    · cases h

/-! ### All or nothing -/

/-- Both standard commands are there, and every other command is in its place. -/
structure IsLoaded (settings : Settings) (r r' : Registry) : Prop where
  exportScene : r'.find? exportSceneName = some (.exportScene settings.exporting)
  meshToBoxes : r'.find? meshToBoxesName = some (.meshToBoxes settings.conversion)
  others : ∀ name, name ≠ exportSceneName → name ≠ meshToBoxesName → r'.find? name = r.find? name

/-- Neither standard command is there, and every other command is in its place. -/
structure IsUnloaded (r r' : Registry) : Prop where
  exportScene : r'.contains exportSceneName = false
  meshToBoxes : r'.contains meshToBoxesName = false
  others : ∀ name, name ≠ exportSceneName → name ≠ meshToBoxesName → r'.find? name = r.find? name

/-- A change of a registry either does all of what it is to do, or fails for a command that stands in
the way and leaves the registry exactly as it was. -/
def AllOrNothing (r : Registry) (change : Registering Unit) (Done : Registry → Registry → Prop) : Prop :=
  match change.run r with
  | (.ok (), r') => Done r r'
  | (.error f, r') => (∃ cause, f = .registration cause) ∧ r' = r

/-- Where both names are free, both commands can be registered, and this is loading. -/
private theorem isLoaded_insert (settings : Settings) (hexport : r.contains exportSceneName = false)
    (hmesh : r.contains meshToBoxesName = false) :
    IsLoaded settings r ((r.insert (.exportScene settings.exporting)).insert
      (.meshToBoxes settings.conversion)) where
  exportScene := by
    rw [find?_insert, find?_insert, Option.not_isSome_iff_eq_none.1 (Bool.eq_false_iff.1 hexport)]
    rfl
  meshToBoxes := by
    rw [find?_insert, find?_insert, Option.not_isSome_iff_eq_none.1 (Bool.eq_false_iff.1 hmesh)]
    rfl
  others := by
    intro name hname hname'
    rw [find?_insert, find?_insert, Command.exportScene, if_neg hname.symm, Command.meshToBoxes,
      if_neg hname'.symm, Option.or_none, Option.or_none]

/-- Both commands are gone once they are taken out. -/
private theorem isUnloaded_erase (r : Registry) :
    IsUnloaded r ((r.erase exportSceneName).erase meshToBoxesName) where
  exportScene := by simp
  meshToBoxes := by simp
  others := by
    intro name hname hname'
    rw [find?_erase, find?_erase, if_neg hname', if_neg hname]

/-- Loading is all or nothing unless the second name alone is taken. -/
theorem allOrNothing_load_iff (settings : Settings) (r : Registry) :
    AllOrNothing r (load settings) (IsLoaded settings) ↔
      (r.contains meshToBoxesName = true → r.contains exportSceneName = true) := by
  unfold AllOrNothing
  rw [run_load]
  cases hexport : r.contains exportSceneName with
  | true => simp
  | false =>
    cases hmesh : r.contains meshToBoxesName with
    | true =>
      -- the first command is one more than there were
      have hne : r.insert (.exportScene settings.exporting) ≠ r := fun h =>
        absurd (congrArg (List.length ∘ commands) h)
          (by simp [commands_insert (c := .exportScene settings.exporting) hexport])
      simpa using hne
    | false => simpa using isLoaded_insert settings hexport hmesh

/-- Unloading is all or nothing unless the second command alone is missing. -/
theorem allOrNothing_unload_iff (r : Registry) : AllOrNothing r unload IsUnloaded ↔
    (r.contains exportSceneName = true → r.contains meshToBoxesName = true) := by
  unfold AllOrNothing
  rw [run_unload]
  cases hexport : r.contains exportSceneName with
  | false => simp
  | true =>
    cases hmesh : r.contains meshToBoxesName with
    | true => simpa using isUnloaded_erase r
    | false =>
      have hne : r.erase exportSceneName ≠ r := fun h =>
        absurd (hexport.symm.trans (congrArg (contains · exportSceneName) h.symm)) (by simp)
      simpa using hne

/-- With only the name of the second command taken, loading fails and leaves the first one behind; with
only the second command missing, unloading fails and has taken out the first one. -/
theorem not_allOrNothing_second :
    ¬AllOrNothing (empty.insert (.meshToBoxes .default)) (load .default) (IsLoaded .default) ∧
      ¬AllOrNothing (empty.insert (.exportScene .default)) unload IsUnloaded := by
  rw [allOrNothing_load_iff, allOrNothing_unload_iff]
  decide

/-- What was registered under two free names can be taken out again in the same order. -/
private theorem erase_erase_insert {c d : Command} (hc : r.contains c.name = false)
    (hd : r.contains d.name = false) (hne : d.name ≠ c.name) :
    (((r.insert c).insert d).erase c.name).erase d.name = r := by
  rw [erase_insert_of_ne hne, erase_insert hc, erase_insert hd]

/-- Commands that were loaded can be unloaded, which gives the registry back. -/
theorem unload_load {settings : Settings} (h : (load settings).run r = (.ok (), r')) :
    unload.run r' = (.ok (), r) := by
  obtain ⟨hexport, hmesh, rfl⟩ := load_eq_ok.1 h
  refine unload_eq_ok.2 ⟨?_, ?_, ?_⟩
  · simp [Command.exportScene]
  · simp [Command.meshToBoxes]
  · have hne : meshToBoxesName ≠ exportSceneName := by decide
    exact (erase_erase_insert (c := .exportScene settings.exporting)
      (d := .meshToBoxes settings.conversion) hexport hmesh hne).symm

/-! ### Any registry -/

/-- What loading and unloading the standard commands does to a registry. -/
structure LoadsInTurn (settings : Settings) (r : Registry) : Prop where
  /-- Loading succeeds exactly where both names are free. -/
  load_ok_iff : (∃ r', (load settings).run r = (.ok (), r')) ↔
    r.contains exportSceneName = false ∧ r.contains meshToBoxesName = false
  /-- Loading is all or nothing, unless only the second name is taken. -/
  load_iff : AllOrNothing r (load settings) (IsLoaded settings) ↔
    (r.contains meshToBoxesName = true → r.contains exportSceneName = true)
  /-- Where only the second name is taken, the first command stays registered. -/
  load_second : r.contains exportSceneName = false → r.contains meshToBoxesName = true →
    (load settings).run r = (.error (.registration (.alreadyRegistered meshToBoxesName)),
      r.insert (.exportScene settings.exporting))
  /-- Unloading succeeds exactly where both commands are there. -/
  unload_ok_iff : (∃ r', unload.run r = (.ok (), r')) ↔
    r.contains exportSceneName = true ∧ r.contains meshToBoxesName = true
  /-- Unloading is all or nothing, unless only the second command is missing. -/
  unload_iff : AllOrNothing r unload IsUnloaded ↔
    (r.contains exportSceneName = true → r.contains meshToBoxesName = true)
  /-- Where only the second command is missing, the first one stays taken out. -/
  unload_second : r.contains exportSceneName = true → r.contains meshToBoxesName = false →
    unload.run r = (.error (.registration (.notRegistered meshToBoxesName)), r.erase exportSceneName)
  /-- A failure to load is returned, and written down with the command that stood in the way. -/
  load_record : ∀ f r', (load settings).run r = (.error f, r') → ∃ name, r.contains name = true ∧
    f = .registration (.alreadyRegistered name) ∧ failureRecord? f =
      some ⟨.error, "Failed to register command: " ++ name ++ " (" ++ f.message ++ ")"⟩
  /-- A failure to unload is returned, and written down with the command that was missing. -/
  unload_record : ∀ f r', unload.run r = (.error f, r') → ∃ name, r.contains name = false ∧
    f = .registration (.notRegistered name) ∧ failureRecord? f =
      some ⟨.error, "Failed to unregister command: " ++ name ++ " (" ++ f.message ++ ")"⟩
  /-- Unloading what was loaded gives the registry back. -/
  unload_load : ∀ r', (load settings).run r = (.ok (), r') → unload.run r' = (.ok (), r)

/-- On every registry, loading and unloading are all or nothing up to the one case in which the second
command alone stands in the way, and there the step of the first one stays done. -/
theorem loadsInTurn (settings : Settings) (r : Registry) : LoadsInTurn settings r where
  load_ok_iff := by simp [load_eq_ok]
  load_iff := allOrNothing_load_iff settings r
  load_second := by
    intro hexport hmesh
    rw [run_load, hexport, hmesh]
    rfl
  unload_ok_iff := by simp [unload_eq_ok]
  unload_iff := allOrNothing_unload_iff r
  unload_second := by
    intro hexport hmesh
    rw [run_unload, hexport, hmesh]
    rfl
  load_record := by
    intro f r' h
    obtain ⟨name, hname, rfl⟩ := load_eq_error h
    exact ⟨name, hname, rfl, rfl⟩
  unload_record := by
    intro f r' h
    obtain ⟨name, hname, rfl⟩ := unload_eq_error h
    exact ⟨name, hname, rfl, rfl⟩
  unload_load := fun _ h => unload_load h

end Scenery.Registry
