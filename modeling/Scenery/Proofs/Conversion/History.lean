import Scenery.Proofs.Conversion.Convert
import Scenery.Proofs.Conversion.Flat
import Scenery.Proofs.Scene.History

/-!
# What becomes of nodes while calls and conversions are made

A conversion only adds nodes, so nothing becomes of the nodes that are there.  Handles and names stay
good over calls and conversions in any order.

* `ofSteps`               the scenes that arise by calls and conversions
* `exists_calls_ofSteps`  they are the scenes that arise by calls
* `stable_ofSteps`        what users of handles and names may rely on
-/

namespace Scenery.Conversion

open Scene (Call Keeps Stable)

/-! ### Calls and conversions -/

/-- What may be done to a scene. -/
inductive Step where
  | call (c : Call Single)
  | convert (settings : ConversionSettings)

/-- The scene after a step, whether it fails or not. -/
def Step.run (s : Scene Single) : Step → Scene Single
  | call c => c.run s
  | convert settings => ((Conversion.convert settings).run s).2

/-- The scene after some steps, from the empty one on. -/
def ofSteps (steps : List Step) : Scene Single :=
  steps.foldl Step.run .empty

/-- The last step is made on the scene of the others. -/
private theorem ofSteps_snoc (steps : List Step) (step : Step) :
    ofSteps (steps ++ [step]) = step.run (ofSteps steps) := by
  rw [ofSteps, List.foldl_append]
  rfl

/-- A step does what some calls do. -/
theorem Step.exists_calls (step : Step) (s : Scene Single) :
    ∃ calls : List (Call Single), step.run s = calls.foldl Call.run s := by
  cases step with
  | call c => exact ⟨[c], rfl⟩
  | convert settings =>
    obtain ⟨calls, -, hcalls⟩ := madeOf_convert settings s
    exact ⟨calls, hcalls⟩

/-- Conversions lead to no other scenes than calls do. -/
theorem exists_calls_ofSteps (steps : List Step) : ∃ calls, ofSteps steps = Scene.ofCalls calls := by
  induction steps using List.reverseRecOn with
  | nil => exact ⟨[], rfl⟩
  | append_singleton steps step ih =>
    obtain ⟨calls, hcalls⟩ := ih
    obtain ⟨calls', hcalls'⟩ := step.exists_calls (Scene.ofCalls calls)
    refine ⟨calls ++ calls', ?_⟩
    rw [ofSteps_snoc, hcalls, hcalls', Scene.ofCalls, Scene.ofCalls, List.foldl_append]

/-- Calls and conversions, in any order, leave a well-formed scene. -/
theorem wellFormed_ofSteps (steps : List Step) : (ofSteps steps).WellFormed := by
  obtain ⟨calls, hcalls⟩ := exists_calls_ofSteps steps
  rw [hcalls]
  exact Scene.wellFormed_ofCalls calls

/-! ### Nodes -/

variable {did : Call Single → Prop} {s : Scene Single}

/-- Nothing becomes of the nodes before the boxes. -/
theorem keeps_convert (settings : ConversionSettings) (hwell : s.WellFormed) :
    Keeps did s ((convert settings).run s).2 := by
  obtain ⟨gs, hadded⟩ := added_run_convert settings hwell
  apply Keeps.of_extends hadded.old
  rw [hadded.order]
  exact List.prefix_append _ _

/-- A step keeps all nodes but for what a call says itself. -/
theorem Step.keeps {step : Step} (hdid : ∀ c, step = .call c → did c) (hwell : s.WellFormed) :
    Keeps did s (step.run s) := by
  cases step with
  | call c => exact Keeps.call (hdid c rfl) s
  | convert settings => exact keeps_convert settings hwell

/-- Steps keep all nodes but for what the calls among them say themselves. -/
theorem keeps_ofSteps (before more : List Step) :
    Keeps (fun c => .call c ∈ more) (ofSteps before) (ofSteps (before ++ more)) := by
  induction more using List.reverseRecOn with
  | nil =>
    rw [List.append_nil]
    exact .refl _ _
  | append_singleton more step ih =>
    have hfirst := ih.mono fun c hc => List.mem_append_left [step] hc
    have hlast : Keeps (fun c => .call c ∈ more ++ [step]) (ofSteps (before ++ more))
        (step.run (ofSteps (before ++ more))) := by
      refine Step.keeps ?_ (wellFormed_ofSteps _)
      intro c hc
      rw [hc]
      exact List.mem_append_right more (List.mem_singleton_self _)
    rw [← List.append_assoc, ofSteps_snoc]
    exact hfirst.trans hlast

/-- Handles and names stay good from any scene that arises on, whatever steps follow.  Only the calls
among these steps change what there is to a node. -/
theorem stable_ofSteps (before more : List Step) :
    Stable (fun c => .call c ∈ more) (ofSteps before) (ofSteps (before ++ more)) :=
  (keeps_ofSteps before more).stable (wellFormed_ofSteps before) (wellFormed_ofSteps _)

end Scenery.Conversion
