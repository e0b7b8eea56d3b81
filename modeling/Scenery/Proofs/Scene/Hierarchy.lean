import Mathlib.Logic.Relation
import Scenery.Proofs.Scene.Consistent

/-!
# Above and below

Which nodes stand below a node, and what may stand above one.  A mesh is always made below a transform
of its own and may only lose it, so whatever else happens to a scene, no mesh is below anything but a
transform.

* `Lists`                 the nodes with a property, in the order of their creation
* `mem_descendants`       the walk downwards meets the nodes below a node
* `lists_leafCameras`     the leaf cameras are the cameras without a camera below them
* `meshesPlaced_ofCalls`  only transforms have meshes directly below them
-/

namespace Scenery.Scene

variable {α : Type} {s : Scene α}

/-! ### Lists of nodes -/

/-- The handles of exactly the nodes with a property, in the order of their creation. -/
structure Lists (s : Scene α) (p : Handle → Prop) (hs : List Handle) : Prop where
  sublist : hs.Sublist s.handles
  nodup : hs.Nodup
  mem : ∀ h, h ∈ hs ↔ p h

namespace WellFormed

/-- The nodes of a kind are listed, each once and in order. -/
theorem lists_nodesOfKind (h : s.WellFormed) (k : NodeKind) :
    s.Lists (fun i => s.kind? i = some k) (s.nodesOfKind k) where
  sublist := List.filter_sublist.map Handle.ofPlace
  nodup := h.handles_nodup.sublist (List.filter_sublist.map Handle.ofPlace)
  mem := by
    intro i
    rw [kind?_eq_some, nodesOfKind, handlesWhere, List.mem_map]
    simp only [List.mem_filter, Option.any_eq_true, beq_iff_eq, h.order, List.mem_range]
    constructor
    · intro hi
      obtain ⟨j, ⟨-, n, hn, hk⟩, rfl⟩ := hi
      exact ⟨j, n, rfl, hn, hk⟩
    · intro hi
      obtain ⟨j, n, rfl, hn, hk⟩ := hi
      exact ⟨j, ⟨(Array.getElem?_eq_some_iff.1 hn).1, n, hn, hk⟩, rfl⟩

end WellFormed

/-! ### Below -/

/-- A node is below another one if children lead to it. -/
def IsBelow (s : Scene α) : Handle → Handle → Prop :=
  Relation.TransGen fun p c => c ∈ s.children p

/-- A camera without a camera below it. -/
def IsLeafCamera (s : Scene α) (c : Handle) : Prop :=
  s.kind? c = some .camera ∧ ¬ ∃ d, s.IsBelow c d ∧ s.kind? d = some .camera

namespace WellFormed

/-- A child is found by the walk downwards, since it is younger than its parent. -/
theorem child_bounds (h : s.WellFormed) {i j : Nat} {n : Node α} (hn : s.nodes[i]? = some n)
    (hj : j ∈ n.children) : i < j ∧ j < s.nodes.size := by
  obtain ⟨m, hm, hp⟩ := (h.mem_children i n j hn).1 hj
  exact ⟨h.parent_lt j m i hm hp, (Array.getElem?_eq_some_iff.1 hm).1⟩

/-- The walk downwards meets each child and what is below it. -/
private theorem mem_descendants_iff_child (h : s.WellFormed) {i k : Nat} : k ∈ s.descendants i ↔
    ∃ n j, s.nodes[i]? = some n ∧ j ∈ n.children ∧ (k = j ∨ k ∈ s.descendants j) := by
  conv_lhs => unfold descendants
  cases hn : s.nodes[i]? with
  | none => simp
  | some n =>
    simp only [List.mem_flatMap, Option.some.injEq, exists_and_left, exists_eq_left']
    refine exists_congr fun j => and_congr_right fun hj => ?_
    rw [if_pos (h.child_bounds hn hj), List.mem_cons]

/-- The walk downwards meets the nodes below a node, and no others. -/
theorem mem_descendants (h : s.WellFormed) {i k : Nat} :
    k ∈ s.descendants i ↔ s.IsBelow (Handle.ofPlace i) (Handle.ofPlace k) := by
  constructor
  · -- children have greater places, so the induction is on how many places are left
    intro hk
    induction hleft : s.nodes.size - i using Nat.strongRecOn generalizing i with
    | ind left ih =>
      obtain ⟨n, j, hn, hj, hk⟩ := h.mem_descendants_iff_child.1 hk
      have hbounds := h.child_bounds hn hj
      have hchild : Handle.ofPlace j ∈ s.children (Handle.ofPlace i) :=
        Scene.mem_children.2 ⟨i, n, j, rfl, hn, hj, rfl⟩
      rcases hk with rfl | hk
      · exact .single hchild
      · exact .head hchild (ih _ (by omega) hk rfl)
  · intro hk
    -- the way down is taken apart at its upper end, as the walk does
    generalize hp : Handle.ofPlace i = p at hk
    induction hk using Relation.TransGen.head_induction_on generalizing i with
    | single hchild =>
      subst hp
      obtain ⟨i', n, j, hi, hn, hj, hkj⟩ := Scene.mem_children.1 hchild
      cases Handle.ofPlace_injective hi
      exact h.mem_descendants_iff_child.2 ⟨n, j, hn, hj, .inl (Handle.ofPlace_injective hkj)⟩
    | head hchild _ ih =>
      subst hp
      obtain ⟨i', n, j, hi, hn, hj, rfl⟩ := Scene.mem_children.1 hchild
      cases Handle.ofPlace_injective hi
      exact h.mem_descendants_iff_child.2 ⟨n, j, hn, hj, .inr (ih rfl)⟩

/-- The search for a camera below a node finds one exactly if children lead to one. -/
theorem hasCameraBelow_iff (h : s.WellFormed) {i : Nat} {n : Node α} (hn : s.nodes[i]? = some n) :
    s.hasCameraBelow (Handle.ofPlace i) = true ↔
      ∃ d, s.IsBelow (Handle.ofPlace i) d ∧ s.kind? d = some .camera := by
  have hentry : s.entry? (Handle.ofPlace i) = some (i, n) := entry?_eq_some.2 ⟨rfl, hn⟩
  simp only [hasCameraBelow, hentry, List.any_eq_true, h.mem_descendants, Option.any_eq_true,
    beq_iff_eq]
  constructor
  · intro hk
    obtain ⟨k, hbelow, m, hm, hkind⟩ := hk
    exact ⟨_, hbelow, kind?_eq_some.2 ⟨k, m, rfl, hm, hkind⟩⟩
  · intro hd
    obtain ⟨d, hbelow, hcamera⟩ := hd
    obtain ⟨k, m, rfl, hm, hkind⟩ := kind?_eq_some.1 hcamera
    exact ⟨k, hbelow, m, hm, hkind⟩

/-- The leaf cameras are the cameras without a camera below them. -/
theorem lists_leafCameras (h : s.WellFormed) : s.Lists s.IsLeafCamera s.leafCameras where
  sublist := List.filter_sublist.trans (h.lists_nodesOfKind .camera).sublist
  nodup := (h.lists_nodesOfKind .camera).nodup.filter _
  mem := by
    intro c
    rw [leafCameras, List.mem_filter, (h.lists_nodesOfKind .camera).mem]
    refine and_congr_right fun hcamera => ?_
    obtain ⟨i, n, rfl, hn, -⟩ := kind?_eq_some.1 hcamera
    rw [← h.hasCameraBelow_iff hn, Bool.not_eq_true', Bool.not_eq_true]

end WellFormed

/-! ### Above meshes -/

/-- Only transforms have meshes directly below them. -/
def MeshesPlaced (s : Scene α) : Prop :=
  ∀ (i : Nat) (n : Node α) (p : Nat), s.nodes[i]? = some n → n.kind = .mesh → n.parent = some p →
    ∃ m : Node α, s.nodes[p]? = some m ∧ m.kind = .transform

namespace MeshesPlaced

theorem empty : (empty : Scene α).MeshesPlaced := by
  simp [MeshesPlaced, Scene.empty]

/-- A node is added; a mesh only below a transform. -/
private theorem push (h : s.MeshesPlaced) (name : String) {parent : Option Nat} {data : NodeData α}
    (hparent : ∀ p, parent = some p → p < s.nodes.size)
    (hdata : data.kind = .mesh → ∀ p, parent = some p →
      ∃ m : Node α, s.nodes[p]? = some m ∧ m.kind = .transform) :
    (s.push name parent data).MeshesPlaced := by
  intro i n p hn hmesh hp
  obtain ⟨m, hm, hkind⟩ : ∃ m : Node α, s.nodes[p]? = some m ∧ m.kind = .transform := by
    -- the node is the new one, or an older one with the parent it had
    rcases cases_of_push hparent hn with ⟨-, rfl⟩ | ⟨k, hk, rfl⟩
    · exact hdata hmesh p hp
    · exact h i k p hk hmesh hp
  exact ⟨_, getElem?_push_of_some hm, hkind⟩

/-- What a node holds or feeds is changed, but not of what kind it is. -/
private theorem modifyNode (h : s.MeshesPlaced) (i : Nat) {f : Node α → Node α}
    (hf : ∀ n, s.nodes[i]? = some n → (f n).kind = n.kind ∧ (f n).parent = n.parent) :
    (s.modifyNode i f).MeshesPlaced := by
  have hsame : ∀ (j : Nat) (n : Node α), s.nodes[j]? = some n →
      (if i = j then f n else n).kind = n.kind ∧ (if i = j then f n else n).parent = n.parent := by
    intro j n hn
    split
    · rename_i hij
      subst hij
      exact hf n hn
    · exact ⟨rfl, rfl⟩
  intro j m p hm hmesh hp
  rw [getElem?_modifyNode, Option.map_eq_some_iff] at hm
  obtain ⟨n, hn, rfl⟩ := hm
  obtain ⟨hkind, hparent⟩ := hsame j n hn
  obtain ⟨k, hk, htransform⟩ := h j n p hn (hkind.symm.trans hmesh) (hparent.symm.trans hp)
  refine ⟨_, by rw [getElem?_modifyNode, hk, Option.map_some], ?_⟩
  rw [(hsame p k hk).1, htransform]

/-- A node that still has a parent has the one it had. -/
private theorem detach (h : s.MeshesPlaced) (i p : Nat) : (s.detach i p).MeshesPlaced := by
  intro j m q hm hmesh hq
  rw [getElem?_detach, Option.map_eq_some_iff] at hm
  obtain ⟨n, hn, rfl⟩ := hm
  -- a node that still has a parent had it before
  have hparent : n.parent = some q := by
    dsimp only at hq
    split at hq
    · cases hq
    · exact hq
  obtain ⟨k, hk, htransform⟩ := h j n q hn hmesh hparent
  refine ⟨_, by rw [getElem?_detach, hk, Option.map_some], ?_⟩
  exact htransform

/-- A new object has its mesh, if any, below its transform. -/
private theorem withShape (h : s.MeshesPlaced) (name : String) (t : Transform α)
    (shape : NodeData α) : (s.withShape name t shape).MeshesPlaced := by
  have htransform : (s.push (s.freeName name) none (.transform t)).MeshesPlaced :=
    h.push _ (by simp) (by simp)
  refine htransform.push _ ?_ ?_
  · rintro p ⟨⟩
    rw [size_push]
    omega
  · rintro - p ⟨⟩
    exact ⟨_, getElem?_push_size (by simp), rfl⟩

/-- A new object has its generated mesh below its transform. -/
private theorem withGenerated (h : s.MeshesPlaced) (name : String) (t : Transform α)
    (generatorName : String) (data : NodeData α) :
    (s.withGenerated name t generatorName data).MeshesPlaced := by
  refine ((h.withShape name t (.mesh .empty)).push _ (by simp) (by simp)).modifyNode _ ?_
  exact fun _ _ => ⟨rfl, rfl⟩

/-- A transform stays one, whatever its value. -/
private theorem setTransform (h : s.MeshesPlaced) {i : Nat} {n : Node α} {t : Transform α}
    (hn : s.nodes[i]? = some n) (ht : n.data = .transform t) (t' : Transform α) :
    (s.setTransform i t').MeshesPlaced := by
  refine h.modifyNode i fun m hm => ?_
  rw [hn] at hm
  cases hm
  exact ⟨by rw [Node.kind, Node.kind, ht]; rfl, rfl⟩

/-- No change puts a mesh below anything but a transform. -/
theorem change (h : s.MeshesPlaced) {s' : Scene α} (hchange : Change s s') : s'.MeshesPlaced := by
  cases hchange with
  | flat hflat =>
    cases hflat with
    | none => exact h
    | transform hname t => exact h.push _ (by simp) (by simp)
    | sphere hname t radius => exact h.withGenerated _ _ _ _
    | box hname t d => exact h.withGenerated _ _ _ _
    | mesh hname t hm => exact h.withShape _ _ _
    | camera hname t => exact h.withShape _ _ _
    | placed hn ht t' => exact h.setTransform hn ht t'
    | selected hplaces => exact h
    | fileName name => exact h
  | below hname hp hdata =>
    refine h.push _ ?_ ?_
    · rintro q ⟨⟩
      exact hp
    · intro hmesh
      simp [hmesh] at hdata
  | disconnected hn => exact h.modifyNode _ fun _ _ => ⟨rfl, rfl⟩
  | detached hn hp => exact h.detach _ _

end MeshesPlaced

/-- What stands above the mesh of a generator is a transform. -/
theorem WellFormed.kind?_owner (h : s.WellFormed) (hplaced : s.MeshesPlaced) {g mesh p : Handle}
    (houtput : s.output? g = some mesh) (hparent : s.parent? mesh = some p) :
    s.kind? p = some .transform := by
  obtain ⟨i, n, j, -, hn, hout, -, rfl⟩ := output?_eq_some.1 houtput
  obtain ⟨m, v, hm, hv⟩ := h.output_mesh i n j hn hout
  obtain ⟨j', m', q, hjj, hm', hq, rfl⟩ := parent?_eq_some.1 hparent
  -- the output and the child are one node
  cases Handle.ofPlace_injective hjj
  rw [hm] at hm'
  cases hm'
  obtain ⟨k, hk, hkind⟩ := hplaced j m q hm (by rw [Node.kind, hv]; rfl) hq
  exact kind?_eq_some.2 ⟨q, k, rfl, hk, hkind⟩

/-- In every scene that arises only transforms have meshes directly below them. -/
theorem meshesPlaced_ofCalls [Scalar α] (calls : List (Call α)) : (ofCalls calls).MeshesPlaced :=
  ofCalls_induction MeshesPlaced.empty (fun _ _ h hchange => h.change hchange) calls

end Scenery.Scene
