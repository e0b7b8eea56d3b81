import Mathlib.Data.List.Sort
import Scenery.Proofs.Scene.Calls

/-!
# What scenes guarantee

The facts that a user of scenes may rely on, in terms of handles: names and handles determine each
other, parents and children are two views of one forest, the way up from a node ends, and every
generator has a mesh of its own.

* `Upward`                the nodes on the way up from a node
* `worldMatrix_upward`    a node is placed by the transforms on its way up
* `consistent_ofCalls`    every scene that arises keeps the guarantees
-/

namespace Scenery.Scene

variable {α : Type} {s : Scene α}

/-! ### The way up -/

/-- The places on the way up from a node, the node first and one without a parent last. -/
inductive Upward (s : Scene α) : Nat → List Nat → Prop where
  | root {i : Nat} {n : Node α} (hn : s.nodes[i]? = some n) (hp : n.parent = none) : Upward s i [i]
  | step {i p : Nat} {n : Node α} {path : List Nat} (hn : s.nodes[i]? = some n)
    (hp : n.parent = some p) (above : Upward s p path) : Upward s i (i :: path)

/-- The matrix followed by the transform at a place, if there is one. -/
def followedBy [Scalar α] (s : Scene α) (m : Mat4 α) (i : Nat) : Mat4 α :=
  match (s.nodes[i]?).map Node.data with
  | some (.transform t) => t.toMatrix * m
  | _ => m

namespace WellFormed

/-- The way up ends, since each parent is older than its child. -/
theorem exists_upward (h : s.WellFormed) {i : Nat} (hi : i < s.nodes.size) :
    ∃ path, s.Upward i path := by
  -- parents have smaller places, so the places run out
  induction i using Nat.strongRecOn with
  | ind i ih =>
    have hn : s.nodes[i]? = some s.nodes[i] := Array.getElem?_eq_getElem hi
    cases hp : s.nodes[i].parent with
    | none => exact ⟨[i], .root hn hp⟩
    | some p =>
      have hlt := h.parent_lt i _ p hn hp
      obtain ⟨path, hpath⟩ := ih p hlt (by omega)
      exact ⟨i :: path, .step hn hp hpath⟩

/-- No node is met twice on the way up. -/
theorem upward_sorted (h : s.WellFormed) {i : Nat} {path : List Nat} (hpath : s.Upward i path) :
    path.Pairwise (· > ·) ∧ ∀ j ∈ path, j ≤ i := by
  induction hpath with
  | root hn hp => simp
  | @step i p n path hn hp above ih =>
    have hlt := h.parent_lt i n p hn hp
    obtain ⟨hsorted, hle⟩ := ih
    constructor
    · rw [List.pairwise_cons]
      refine ⟨?_, hsorted⟩
      intro j hj
      have hj' := hle j hj
      omega
    · intro j hj
      rcases List.mem_cons.1 hj with rfl | hj
      · exact Nat.le_refl _
      · have hj' := hle j hj
        omega

/-- The transforms on the way up, one after the other, place a node. -/
theorem placeInWorld_upward [Scalar α] (h : s.WellFormed) {i : Nat} {path : List Nat}
    (hpath : s.Upward i path) (m : Mat4 α) : s.placeInWorld i m = path.foldl s.followedBy m := by
  -- the matrix grows on the way, so it is general in the induction
  induction hpath generalizing m with
  | @root i n hn hp =>
    unfold placeInWorld
    simp only [hn, hp, List.foldl_cons, List.foldl_nil, followedBy, Option.map_some]
    cases n.data <;> rfl
  | @step i p n path hn hp above ih =>
    have hlt := h.parent_lt i n p hn hp
    unfold placeInWorld
    simp only [hn, hp, if_pos hlt, List.foldl_cons, followedBy, Option.map_some, ih]
    cases n.data <;> rfl

/-- The placement of a node in the world comes from its whole way up. -/
theorem worldMatrix_upward [Scalar α] (h : s.WellFormed) {i : Nat} {path : List Nat}
    (hpath : s.Upward i path) :
    s.worldMatrix (Handle.ofPlace i) = .ok (path.foldl s.followedBy 1) := by
  obtain ⟨n, hn⟩ : ∃ n, s.nodes[i]? = some n := by
    cases hpath with
    | root hn _ => exact ⟨_, hn⟩
    | step hn _ _ => exact ⟨_, hn⟩
  rw [worldMatrix, entry_ofPlace hn, ← h.placeInWorld_upward hpath]
  rfl

end WellFormed

/-! ### Guarantees -/

/-- The handles of all nodes in the order of their creation. -/
def handles (s : Scene α) : List Handle := s.order.map Handle.ofPlace

/-- The place of the mesh that a generator feeds, as the generator has it. -/
def outputPlace? (s : Scene α) (g : Handle) : Option Nat := (s.node? g).bind Node.output

/-- What holds in every scene. -/
structure Consistent [Scalar α] (s : Scene α) : Prop where
  /-- The order of creation has every node, exactly once, and nothing else. -/
  order_nodup : s.order.Nodup
  mem_order : ∀ i, i ∈ s.order ↔ s.holds i = true
  name_ne_empty : ∀ h, s.name h ≠ .ok ""
  name_inj : ∀ h h' name, s.name h = .ok name → s.name h' = .ok name → h = h'
  find?_iff : ∀ name h, s.find? name = some h ↔ s.name h = .ok name
  mem_children_iff : ∀ p c, c ∈ s.children p ↔ s.parent? c = some p
  children_nodup : ∀ p, (s.children p).Nodup
  /-- Children are in the order of their creation. -/
  children_sublist : ∀ p, (s.children p).Sublist s.handles
  /-- A parent was created before its child. -/
  parent_before : ∀ p c, s.parent? c = some p → [p, c].Sublist s.handles
  /-- The way up from a node ends, meets no node twice and gives the placement of the node. -/
  upward : ∀ i, s.holds i = true → ∃ path, s.Upward i path ∧ path.Nodup ∧
    s.worldMatrix (Handle.ofPlace i) = .ok (path.foldl s.followedBy 1)
  output_mesh : ∀ g j, s.outputPlace? g = some j → s.kind? (Handle.ofPlace j) = some .mesh
  output_inj : ∀ g g' j, s.outputPlace? g = some j → s.outputPlace? g' = some j → g = g'
  mesh_valid : ∀ h m, s.mesh h = .ok m → m.validate = .ok ()
  selected_live : ∀ i ∈ s.selected, s.holds i = true

namespace WellFormed

/-- A place is held exactly if it is one of the places. -/
private theorem holds_iff {i : Nat} : s.holds i = true ↔ i < s.nodes.size := by
  simp [holds]

/-- Places in ascending order stand in the order of creation. -/
private theorem sublist_handles (h : s.WellFormed) {places : List Nat}
    (hsorted : places.Pairwise (· < ·)) (hlt : ∀ i ∈ places, i < s.nodes.size) :
    (places.map Handle.ofPlace).Sublist s.handles := by
  have hnodup : places.Nodup := hsorted.imp Nat.ne_of_lt
  have hsubset : places ⊆ List.range s.nodes.size := by
    intro i hi
    exact List.mem_range.2 (hlt i hi)
  rw [handles, h.order]
  apply List.Sublist.map
  -- both lists are ascending, so having the same members in them is enough
  exact List.sublist_of_subperm_of_pairwise (List.subperm_of_subset hnodup hsubset) hsorted
    List.pairwise_lt_range

/-- The children of a node are handles of the scene, in the same order. -/
private theorem children_sublist (h : s.WellFormed) (p : Handle) :
    (s.children p).Sublist s.handles := by
  unfold children
  split
  · exact List.nil_sublist _
  · rename_i n hn
    obtain ⟨i, -, hn⟩ := node?_eq_some.1 hn
    apply h.sublist_handles (h.children_sorted i n hn)
    intro c hc
    obtain ⟨m, hm, -⟩ := (h.mem_children i n c hn).1 hc
    exact (Array.getElem?_eq_some_iff.1 hm).1

theorem handles_nodup (h : s.WellFormed) : s.handles.Nodup := by
  rw [handles, h.order]
  exact List.nodup_range.map fun _ _ => Handle.ofPlace_injective

/-- The node with a name is found by it. -/
theorem find?_iff (h : s.WellFormed) (name : String) (i : Handle) :
    s.find? name = some i ↔ s.name i = .ok name := by
  rw [name_eq_ok, find?, Option.map_eq_some_iff]
  constructor
  · intro hfind
    obtain ⟨j, hj, hij⟩ := hfind
    obtain ⟨n, hn, hname⟩ := (h.lookup name j).1 hj
    exact ⟨j, n, hij.symm, hn, hname⟩
  · intro hname
    obtain ⟨j, n, hij, hn, hname⟩ := hname
    exact ⟨j, (h.lookup name j).2 ⟨n, hn, hname⟩, hij.symm⟩

/-- No two nodes have one name. -/
theorem name_inj (h : s.WellFormed) {i i' : Handle} {name : String} (hi : s.name i = .ok name)
    (hi' : s.name i' = .ok name) : i = i' := by
  rw [← h.find?_iff] at hi hi'
  rw [hi] at hi'
  exact Option.some.inj hi'

/-- A name is taken exactly if some node has it. -/
theorem hasName_iff (h : s.WellFormed) {name : String} :
    s.hasName name = true ↔ ∃ i, s.name i = .ok name := by
  simp only [← h.find?_iff, hasName, find?, Option.isSome_iff_exists, Option.map_eq_some_iff]
  constructor
  · rintro ⟨i, hi⟩
    exact ⟨_, i, hi, rfl⟩
  · rintro ⟨_, i, hi, -⟩
    exact ⟨i, hi⟩

/-- A node is a child of another exactly if that is its parent. -/
theorem mem_children_iff (h : s.WellFormed) (p c : Handle) :
    c ∈ s.children p ↔ s.parent? c = some p := by
  rw [Scene.mem_children, parent?_eq_some]
  constructor
  · intro hc
    obtain ⟨i, n, j, hp, hn, hj, hc⟩ := hc
    obtain ⟨m, hm, hparent⟩ := (h.mem_children i n j hn).1 hj
    exact ⟨j, m, i, hc, hm, hparent, hp⟩
  · intro hp
    obtain ⟨j, m, i, hc, hm, hparent, hp⟩ := hp
    have hlt := h.parent_lt j m i hm hparent
    have hj := (Array.getElem?_eq_some_iff.1 hm).1
    have hi : i < s.nodes.size := by omega
    have hn : s.nodes[i]? = some s.nodes[i] := Array.getElem?_eq_getElem hi
    exact ⟨i, _, j, hp, hn, (h.mem_children i _ j hn).2 ⟨m, hm, hparent⟩, hc⟩

/-- The place that a generator feeds is kept by the generator. -/
private theorem outputPlace?_eq_some {g : Handle} {j : Nat} (hj : s.outputPlace? g = some j) :
    ∃ i n, g = Handle.ofPlace i ∧ s.nodes[i]? = some n ∧ n.output = some j := by
  obtain ⟨n, hnode, hout⟩ := Option.bind_eq_some_iff.1 hj
  obtain ⟨i, hg, hn⟩ := node?_eq_some.1 hnode
  exact ⟨i, n, hg, hn, hout⟩

/-- What a well-formed scene keeps on places, its users see on handles. -/
theorem consistent [Scalar α] (h : s.WellFormed) : s.Consistent where
  order_nodup := by
    rw [h.order]
    exact List.nodup_range
  mem_order := by
    intro i
    rw [h.order, List.mem_range, holds_iff]
  name_ne_empty := by
    intro i hname
    obtain ⟨j, n, -, hn, hempty⟩ := name_eq_ok.1 hname
    exact h.named j n hn hempty
  name_inj := fun _ _ _ hi hi' => h.name_inj hi hi'
  find?_iff := h.find?_iff
  mem_children_iff := h.mem_children_iff
  children_nodup := fun p => h.handles_nodup.sublist (h.children_sublist p)
  children_sublist := h.children_sublist
  parent_before := by
    intro p c hp
    obtain ⟨j, m, i, rfl, hm, hparent, rfl⟩ := parent?_eq_some.1 hp
    have hlt := h.parent_lt j m i hm hparent
    have hj := (Array.getElem?_eq_some_iff.1 hm).1
    show ([i, j].map Handle.ofPlace).Sublist s.handles
    apply h.sublist_handles
    · simpa using hlt
    · intro k hk
      simp only [List.mem_cons, List.not_mem_nil, or_false] at hk
      omega
  -- places grow smaller on the way up, so none is met twice
  upward := by
    intro i hi
    obtain ⟨path, hpath⟩ := h.exists_upward (holds_iff.1 hi)
    have hnodup : path.Nodup := (h.upward_sorted hpath).1.imp fun hgt => Nat.ne_of_gt hgt
    exact ⟨path, hpath, hnodup, h.worldMatrix_upward hpath⟩
  output_mesh := by
    intro g j hj
    obtain ⟨i, n, -, hn, hout⟩ := outputPlace?_eq_some hj
    obtain ⟨m, v, hm, hv⟩ := h.output_mesh i n j hn hout
    rw [kind?, node?_ofPlace, hm, Option.map_some, Node.kind, hv]
    rfl
  -- the places of the two generators are the same, so their handles are
  output_inj := by
    intro g g' j hj hj'
    obtain ⟨i, n, hg, hn, hout⟩ := outputPlace?_eq_some hj
    obtain ⟨i', n', hg', hn', hout'⟩ := outputPlace?_eq_some hj'
    rw [hg, hg', h.output_inj i n i' n' j hn hn' hout hout']
  mesh_valid := by
    intro i m hm
    obtain ⟨j, n, -, hn, hv⟩ := mesh_eq_ok.1 hm
    exact h.mesh_valid j n m hn hv
  selected_live := by
    intro i hi
    exact holds_iff.2 (h.selected i hi)

end WellFormed

/-- Every scene that arises, by any calls with any arguments, keeps the guarantees. -/
theorem consistent_ofCalls [Scalar α] (calls : List (Call α)) : (ofCalls calls).Consistent :=
  (wellFormed_ofCalls calls).consistent

end Scenery.Scene
