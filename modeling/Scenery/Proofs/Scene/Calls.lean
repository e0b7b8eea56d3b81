import Scenery.Proofs.Scene.Changes
import Scenery.Proofs.Scene.WellFormed

/-!
# Scenes that arise

A scene arises from the empty one by calls of the edits, in any order and with any arguments; a call
that fails leaves what it has changed.  Every such scene is well-formed.

* `Call.run`             the scene after a call
* `Call.change`          a call changes a scene in one of a few ways
* `ofCalls_induction`    what every change keeps holds after any calls
* `wellFormed_ofCalls`   the scene after any calls is well-formed
-/

namespace Scenery.Scene

/-! ### Calls -/

/-- The edits of a scene with their arguments. -/
inductive Call (α : Type) where
  | addTransform (name : String) (parent : Option Handle) (t : Transform α)
  | addSphere (name : String) (t : Transform α) (radius : α)
  | addBox (name : String) (t : Transform α) (d : Dimensions α)
  | addMesh (name : String) (t : Transform α) (m : Mesh α)
  | addCamera (name : String) (t : Transform α)
  | addCameraShape (name : String) (parent : Handle)
  | createBox (d : Dimensions α)
  | disconnectOutput (h : Handle)
  | unparent (h : Handle)
  | select (h : Handle)
  | setSelection (hs : List Handle)
  | clearSelection
  | setFileName (name : Option String)
  | setPosition (h : Handle) (p : Vec3 α) (space : Space)
  | setRotation (h : Handle) (angles : Vec3 α) (space : Space)

variable {α : Type} {s : Scene α}

section

variable [Scalar α]

/-- The scene after a call, whether it fails or not. -/
def Call.run (s : Scene α) : Call α → Scene α
  | addTransform name parent t => ((Scene.addTransform name parent t).run s).2
  | addSphere name t radius => ((Scene.addSphere name t radius).run s).2
  | addBox name t d => ((Scene.addBox name t d).run s).2
  | addMesh name t m => ((Scene.addMesh name t m).run s).2
  | addCamera name t => ((Scene.addCamera name t).run s).2
  | addCameraShape name parent => ((Scene.addCameraShape name parent).run s).2
  | createBox d => ((Scene.createBox d).run s).2
  | disconnectOutput h => ((Scene.disconnectOutput h).run s).2
  | unparent h => ((Scene.unparent h).run s).2
  | select h => ((Scene.select h).run s).2
  | setSelection hs => ((Scene.setSelection hs).run s).2
  | clearSelection => (Scene.clearSelection.run s).2
  | setFileName name => ((Scene.setFileName name).run s).2
  | setPosition h p space => ((Scene.setPosition h p space).run s).2
  | setRotation h angles space => ((Scene.setRotation h angles space).run s).2

/-- The scene after some calls, from the empty one on. -/
def ofCalls (calls : List (Call α)) : Scene α :=
  calls.foldl Call.run empty

end

/-! ### Each call -/

namespace Call

/-- The call leaves the links between nodes alone, and adds objects at the top only. -/
def IsFlat : Call α → Prop
  | addTransform _ parent _ => parent = none
  | addCameraShape _ _ => False
  | disconnectOutput _ => False
  | unparent _ => False
  | _ => True

variable [Scalar α]

/-- A call that names no parent is a flat change. -/
theorem flatChange {c : Call α} (hflat : c.IsFlat) (s : Scene α) : FlatChange s (c.run s) := by
  cases c with
  | addTransform name parent t =>
    obtain rfl : parent = none := hflat
    exact .addTransform name t s
  | addSphere name t radius => exact .addSphere name t radius s
  | addBox name t d => exact .addBox name t d s
  | addMesh name t m => exact .addMesh name t m s
  | addCamera name t => exact .addCamera name t s
  | addCameraShape name parent => exact absurd hflat id
  | createBox d => exact .createBox d s
  | disconnectOutput h => exact absurd hflat id
  | unparent h => exact absurd hflat id
  | select h => exact .setSelection [h] s
  | setSelection hs => exact .setSelection hs s
  | clearSelection => exact .selected (by simp)
  | setFileName name => exact .fileName name
  | setPosition h p space => exact .setPosition h p space s
  | setRotation h angles space => exact .setRotation h angles space s

/-- A call changes a scene, whether it fails or not. -/
theorem change (c : Call α) (s : Scene α) : Change s (c.run s) := by
  by_cases hflat : c.IsFlat
  · exact .flat (flatChange hflat s)
  -- the other calls are the ones about links
  cases c with
  | addTransform name parent t =>
    cases parent with
    | none => exact absurd rfl hflat
    | some h => exact .insert name h (.inl rfl) s
  | addCameraShape name parent => exact .insert name parent (.inr rfl) s
  | disconnectOutput h => exact .disconnectOutput h s
  | unparent h => exact .unparent h s
  | _ => exact absurd trivial hflat

end Call

namespace WellFormed

/-- Another value of a transform changes no link. -/
private theorem setTransform (h : s.WellFormed) {i : Nat} {n : Node α} {t : Transform α}
    (hn : s.nodes[i]? = some n) (ht : n.data = .transform t) (t' : Transform α) :
    (s.setTransform i t').WellFormed := by
  refine h.modifyNode hn rfl rfl rfl ?_ fun _ hj => .inl hj
  intro v
  simp [ht]

/-- Flat changes keep scenes well-formed. -/
theorem flatChange (h : s.WellFormed) {s' : Scene α} (hchange : FlatChange s s') :
    s'.WellFormed := by
  cases hchange with
  | none => exact h
  | transform hname t =>
    exact h.push (hasName_freeName s _) (freeName_ne_empty s hname) (by simp) (by simp)
  | sphere hname t radius => exact h.withGenerated hname t _ (by simp)
  | box hname t d => exact h.withGenerated hname t _ (by simp)
  | mesh hname t hm =>
    refine h.withShape hname t fun v hv => ?_
    cases hv
    exact hm
  | camera hname t => exact h.withShape hname t (by simp)
  | placed hn ht t' => exact h.setTransform hn ht t'
  | selected hplaces => exact h.withSelected hplaces
  | fileName name => exact h.withFileName name

/-- A change keeps a scene well-formed. -/
theorem change (h : s.WellFormed) {s' : Scene α} (hchange : Change s s') : s'.WellFormed := by
  cases hchange with
  | flat hflat => exact h.flatChange hflat
  | @below name hname p hp data hdata =>
    refine h.push (hasName_freeName s name) (freeName_ne_empty s hname) ?_ ?_
    · rintro q ⟨⟩
      exact hp
    · rintro v rfl
      simp [NodeData.kind] at hdata
  | disconnected hn => exact h.modifyNode hn rfl rfl rfl (fun _ => Iff.rfl) (by simp)
  | detached hn hp => exact h.detach hn hp

end WellFormed

/-! ### All calls -/

variable [Scalar α]

/-- What holds of the empty scene, and is kept by every change, holds of every scene that arises. -/
theorem ofCalls_induction {P : Scene α → Prop} (hempty : P empty)
    (hchange : ∀ s s', P s → Change s s' → P s') (calls : List (Call α)) : P (ofCalls calls) :=
  List.foldlRecOn calls Call.run hempty fun s hs c _ => hchange s _ hs (c.change s)

/-- Every scene that arises is well-formed. -/
theorem wellFormed_ofCalls (calls : List (Call α)) : (ofCalls calls).WellFormed :=
  ofCalls_induction WellFormed.empty (fun _ _ h hchange => h.change hchange) calls

end Scenery.Scene
