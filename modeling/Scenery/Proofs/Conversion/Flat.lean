import Mathlib.Logic.Relation
import Scenery.Conversion.Boxes
import Scenery.Proofs.Scene.Calls

/-!
# Conversions are made of calls

Adding boxes to the faces of a mesh does to a scene what some calls do, one after another and however
it ends: each box is an object of its own, and then it is selected, moved and turned.  Such calls keep
objects side by side.

* `MadeOf`               an edit that does what some calls do
* `madeOf_convert`       a conversion is such an edit, and its calls are flat
* `isFlatEdit_convert`   a conversion makes flat changes only
-/

namespace Scenery

namespace Scene

variable {α β γ : Type}

/-- Whether the edit fails or not, it makes flat changes only. -/
def IsFlatEdit (e : Edit α β) : Prop :=
  ∀ s, Relation.ReflTransGen FlatChange s (e.run s).2

variable [Scalar α] {P : Call α → Prop}

/-- Whether the edit fails or not, it does what some calls do; `P` holds of each of them. -/
def MadeOf (P : Call α → Prop) (e : Edit α β) : Prop :=
  ∀ s, ∃ calls : List (Call α), (∀ c ∈ calls, P c) ∧ (e.run s).2 = calls.foldl Call.run s

namespace MadeOf

/-- An edit that is one call. -/
theorem of_call {e : Edit α β} (c : Call α) (hc : P c) (he : ∀ s, (e.run s).2 = c.run s) :
    MadeOf P e := by
  intro s
  refine ⟨[c], ?_, he s⟩
  intro c' hmem
  rwa [List.mem_singleton.1 hmem]

theorem pure (b : β) : MadeOf P (Pure.pure b : Edit α β) :=
  fun _ => ⟨[], by simp, rfl⟩

theorem query (q : Scene α → Except Failure β) : MadeOf P (Scene.query q) := by
  intro s
  rw [run_query]
  exact ⟨[], by simp, rfl⟩

theorem bind {e : Edit α β} {k : β → Edit α γ} (he : MadeOf P e) (hk : ∀ b, MadeOf P (k b)) :
    MadeOf P (e >>= k) := by
  intro s
  obtain ⟨calls, hcalls, hfirst⟩ := he s
  rw [run_bind]
  -- an edit that fails keeps what it has changed
  rcases he : e.run s with ⟨_ | b, s'⟩
  · rw [he] at hfirst
    exact ⟨calls, hcalls, hfirst⟩
  · rw [he] at hfirst
    obtain ⟨calls', hcalls', hsecond⟩ := hk b s'
    refine ⟨calls ++ calls', List.forall_mem_append.2 ⟨hcalls, hcalls'⟩, ?_⟩
    dsimp only at hfirst ⊢
    rw [hsecond, hfirst, List.foldl_append]

theorem mapM {f : γ → Edit α β} (hf : ∀ c, MadeOf P (f c)) (cs : List γ) :
    MadeOf P (cs.mapM f) := by
  induction cs with
  | nil => exact pure []
  | cons c cs ih =>
    rw [List.mapM_cons]
    exact (hf c).bind fun b => ih.bind fun bs => pure _

/-- Flat calls make flat changes. -/
theorem isFlatEdit {e : Edit α β} (he : MadeOf Call.IsFlat e) : IsFlatEdit e := by
  intro s
  obtain ⟨calls, hflat, hrun⟩ := he s
  rw [hrun]
  exact List.foldlRecOn calls Call.run .refl fun s' hchanges c hc =>
    hchanges.tail (Call.flatChange (hflat c hc) s')

end MadeOf

end Scene

namespace Conversion

open Scene (Call IsFlatEdit MadeOf)

variable {α : Type} [Scalar α]

/-- A box is placed by calls. -/
private theorem madeOf_placeBox (settings : ConversionSettings) (g : FaceGeometry α) :
    MadeOf Call.IsFlat (placeBox settings g) := by
  unfold placeBox
  refine (MadeOf.of_call (.createBox _) trivial fun _ => rfl).bind fun box => ?_
  refine (MadeOf.of_call (.select box.transform) trivial fun _ => rfl).bind fun _ => ?_
  refine (MadeOf.of_call (.setPosition box.transform _ .world) trivial fun _ => rfl).bind fun _ => ?_
  exact (MadeOf.of_call (.setRotation box.transform _ .parent) trivial fun _ => rfl).bind fun _ =>
    .pure box

/-- A face is converted by calls: a box is created and placed. -/
private theorem madeOf_convertFace (settings : ConversionSettings) (mesh : Handle) (face : Nat) :
    MadeOf Call.IsFlat (convertFace settings mesh face : Edit α CreatedBox) :=
  (MadeOf.query _).bind fun g => madeOf_placeBox settings g

/-- A conversion does what some flat calls do, also one that fails at some face. -/
theorem madeOf_convert (settings : ConversionSettings) :
    MadeOf Call.IsFlat (convert settings : Edit α Report) := by
  unfold convert convertMesh
  refine (MadeOf.query selectedMesh).bind fun mesh => (MadeOf.query _).bind fun count => ?_
  exact (MadeOf.mapM (madeOf_convertFace settings mesh) (List.range count)).bind fun _ =>
    .pure _

/-- A conversion makes flat changes only, also one that fails at some face. -/
theorem isFlatEdit_convert (settings : ConversionSettings) :
    IsFlatEdit (convert settings : Edit α Report) :=
  (madeOf_convert settings).isFlatEdit

end Conversion

end Scenery
