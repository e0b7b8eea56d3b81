import Mathlib.Data.PFun
import Scenery.Proofs.Scene.Hierarchy

/-!
# The search for a camera

The search for a camera below a node keeps a list of pending nodes.  It takes the last of them off, and
unless that is a camera, the children of it become pending.  Nothing in the search keeps it from going
on for ever or from meeting a node twice; that it does neither is due to the scene, which is a forest.

* `cameraSearch`            the search, with the nodes that it takes off
* `nodup_descendants`       no node is below another one in two ways
* `cameraSearch_places`     the search ends, and finds a camera exactly if there is one
* `exists_leafCamera`       every camera has a leaf camera at or below it
* `leafCameras_ofCalls`     searches and leaf cameras in every scene that arises
-/

namespace Scenery.Scene

variable {α : Type} {s : Scene α}

/-- One turn of the search, on the pending nodes and those that were taken off before: it takes the
last pending node off, or ends. -/
def searchTurn (s : Scene α) : List Handle × List Handle →
    (List Handle × Bool) ⊕ (List Handle × List Handle) := fun (pending, taken) =>
  match pending.getLast? with
  | none => .inl (taken, false)
  | some c =>
    if s.kind? c = some .camera then .inl (taken ++ [c], true)
    else .inr (pending.dropLast ++ s.children c, taken ++ [c])

/-- The search for a camera among pending nodes and those below them: turn after turn, until one ends
it.  It gives the nodes that were taken off, from the first on, and whether the last of them is a
camera; a search that goes on for ever gives nothing. -/
def cameraSearch (s : Scene α) (pending taken : List Handle) : Part (List Handle × Bool) :=
  PFun.fix s.searchTurn (pending, taken)

/-- With nothing left to search, no camera is found. -/
theorem cameraSearch_nil (s : Scene α) (taken : List Handle) :
    s.cameraSearch [] taken = .some (taken, false) := by
  rw [Part.eq_some_iff]
  exact PFun.fix_stop (Part.mem_some _)

/-- A pending node is a camera, or its children become pending. -/
theorem cameraSearch_concat (s : Scene α) (pending taken : List Handle) (c : Handle) :
    s.cameraSearch (pending ++ [c]) taken =
      if s.kind? c = some .camera then .some (taken ++ [c], true)
      else s.cameraSearch (pending ++ s.children c) (taken ++ [c]) := by
  have hturn : s.searchTurn (pending ++ [c], taken) =
      if s.kind? c = some .camera then .inl (taken ++ [c], true)
      else .inr (pending ++ s.children c, taken ++ [c]) := by
    simp only [searchTurn, List.getLast?_concat, List.dropLast_concat]
  by_cases hcamera : s.kind? c = some .camera
  · rw [if_pos hcamera] at hturn ⊢
    rw [Part.eq_some_iff]
    exact PFun.fix_stop (Part.mem_some_iff.2 hturn.symm)
  · rw [if_neg hcamera] at hturn ⊢
    exact PFun.fix_fwd_eq (Part.mem_some_iff.2 hturn.symm)

/-- What a search below a node gives: it ends, it takes only nodes below the node off and none of them
twice, and it finds a camera exactly if one is below the node. -/
structure Searched (s : Scene α) (p : Handle) (taken : List Handle) (found : Bool) : Prop where
  run : s.cameraSearch (s.children p) [] = .some (taken, found)
  nodup : taken.Nodup
  below : ∀ d ∈ taken, s.IsBelow p d
  found_iff : found = true ↔ ∃ d, s.IsBelow p d ∧ s.kind? d = some .camera

/-- The nodes at some places, each with what is below it. -/
def atOrBelow (s : Scene α) (places : List Nat) : List Nat :=
  places.flatMap fun i => i :: s.descendants i

/-- A node is at or below another one. -/
private def IsAtOrBelow (s : Scene α) : Handle → Handle → Prop :=
  Relation.ReflTransGen fun p c => c ∈ s.children p

namespace WellFormed

/-! ### The forest -/

/-- A node below another one is younger. -/
theorem lt_of_isBelow (h : s.WellFormed) {i k : Nat}
    (hk : s.IsBelow (Handle.ofPlace i) (Handle.ofPlace k)) : i < k := by
  have hstep : ∀ {p c : Handle}, c ∈ s.children p → p.index < c.index := by
    intro p c hc
    obtain ⟨i, n, j, rfl, hn, hj, rfl⟩ := Scene.mem_children.1 hc
    exact Nat.succ_lt_succ (h.child_bounds hn hj).1
  -- the way down is a chain of such steps
  have hlt : ∀ {p c : Handle}, s.IsBelow p c → p.index < c.index := by
    intro p c hc
    induction hc with
    | single hchild => exact hstep hchild
    | tail _ hchild ih => exact Nat.lt_trans ih (hstep hchild)
  exact Nat.succ_lt_succ_iff.1 (hlt hk)

/-- What is below a node: its children, each with what is below it. -/
private theorem descendants_eq (h : s.WellFormed) {i : Nat} {n : Node α} (hn : s.nodes[i]? = some n) :
    s.descendants i = s.atOrBelow n.children := by
  conv_lhs => unfold descendants
  rw [hn]
  apply List.flatMap_congr
  intro j hj
  rw [if_pos (h.child_bounds hn hj)]

/-- A node among the descendants stands below. -/
private theorem isAtOrBelow_of_mem (h : s.WellFormed) {j k : Nat} (hk : k ∈ j :: s.descendants j) :
    s.IsAtOrBelow (Handle.ofPlace j) (Handle.ofPlace k) := by
  rcases List.mem_cons.1 hk with rfl | hk
  · exact .refl
  · exact (h.mem_descendants.1 hk).to_reflTransGen

/-- The way up from a node is one way only. -/
private theorem parent_unique (h : s.WellFormed) {p q c : Handle} (hp : c ∈ s.children p)
    (hq : c ∈ s.children q) : p = q := by
  rw [h.mem_children_iff] at hp hq
  rw [hp] at hq
  exact Option.some.inj hq

/-- No child of a node is below another one. -/
private theorem sibling_eq (h : s.WellFormed) {p a b : Handle} (ha : a ∈ s.children p)
    (hb : b ∈ s.children p) (hab : s.IsAtOrBelow a b) : a = b := by
  rcases Relation.reflTransGen_iff_eq_or_transGen.1 hab with rfl | hab
  · rfl
  -- else the parent of `b`, which is that of `a`, is at or below `a`, and so below itself
  obtain ⟨q, haq, hqb⟩ := Relation.TransGen.tail'_iff.1 hab
  obtain rfl : q = p := h.parent_unique hqb hb
  have hbelow : s.IsBelow q q := Relation.TransGen.head' ha haq
  obtain ⟨i, n, j, rfl, -, -, -⟩ := Scene.mem_children.1 ha
  exact absurd (h.lt_of_isBelow hbelow) (Nat.lt_irrefl i)

/-- Two children of one node have nothing in common below them. -/
private theorem sibling_eq_of_below (h : s.WellFormed) {p a b k : Handle} (ha : a ∈ s.children p)
    (hb : b ∈ s.children p) (hak : s.IsAtOrBelow a k) (hbk : s.IsAtOrBelow b k) : a = b := by
  have hunique : Relator.RightUnique (Function.swap fun p c => c ∈ s.children p) := by
    intro c q q' hq hq'
    exact h.parent_unique hq hq'
  -- as both are on the way up from `k`, one of them is on the way up from the other
  rcases Relation.ReflTransGen.total_of_right_unique hunique hak.swap hbk.swap with hba | hab
  · exact (h.sibling_eq hb ha (Relation.reflTransGen_swap.1 hba)).symm
  · exact h.sibling_eq ha hb (Relation.reflTransGen_swap.1 hab)

/-- No node is below another one in two ways. -/
theorem nodup_descendants (h : s.WellFormed) (i : Nat) : (s.descendants i).Nodup := by
  -- children have greater places, so the induction is on how many places are left
  induction hleft : s.nodes.size - i using Nat.strongRecOn generalizing i with
  | ind left ih =>
    cases hn : s.nodes[i]? with
    | none =>
      unfold descendants
      rw [hn]
      exact List.nodup_nil
    | some n =>
      have hchild : ∀ j ∈ n.children, Handle.ofPlace j ∈ s.children (Handle.ofPlace i) := by
        intro j hj
        exact Scene.mem_children.2 ⟨i, n, j, rfl, hn, hj, rfl⟩
      rw [h.descendants_eq hn, atOrBelow, List.nodup_flatMap]
      constructor
      · intro j hj
        have hbounds := h.child_bounds hn hj
        rw [List.nodup_cons]
        refine ⟨fun hself => ?_, ih _ (by omega) j rfl⟩
        exact Nat.lt_irrefl j (h.lt_of_isBelow (h.mem_descendants.1 hself))
      · apply (h.children_sorted i n hn).imp_of_mem
        intro j j' hj hj' hlt k hk hk'
        have heq := h.sibling_eq_of_below (hchild j hj) (hchild j' hj') (h.isAtOrBelow_of_mem hk)
          (h.isAtOrBelow_of_mem hk')
        have := Handle.ofPlace_injective heq
        omega

/-! ### The search -/

/-- A search takes off pending nodes and nodes below them, each no more often than it is there, and
finds a camera exactly if one of these nodes is one. -/
private theorem cameraSearch_places (h : s.WellFormed) {places : List Nat}
    (hplaces : ∀ j ∈ places, j < s.nodes.size) (taken : List Handle) :
    ∃ (walk : List Nat) (found : Bool),
      s.cameraSearch (places.map Handle.ofPlace) taken =
        .some (taken ++ walk.map Handle.ofPlace, found) ∧
      walk.Subperm (s.atOrBelow places) ∧
      (found = true ↔ ∃ j ∈ s.atOrBelow places, s.kind? (Handle.ofPlace j) = some .camera) := by
  -- each turn takes one node away from those that are pending or below a pending node
  induction hleft : (s.atOrBelow places).length using Nat.strongRecOn
    generalizing places taken with
  | ind left ih =>
    rcases List.eq_nil_or_concat' places with rfl | ⟨rest, j, rfl⟩
    · refine ⟨[], false, ?_, List.nil_subperm, by simp [atOrBelow]⟩
      rw [List.map_nil, cameraSearch_nil, List.append_nil]
    obtain ⟨hrest, hj⟩ : (∀ k ∈ rest, k < s.nodes.size) ∧ j < s.nodes.size := by
      simpa [or_imp, forall_and] using hplaces
    have hn : s.nodes[j]? = some s.nodes[j] := Array.getElem?_eq_getElem hj
    have hnow : s.atOrBelow (rest ++ [j]) = s.atOrBelow rest ++ j :: s.descendants j := by
      simp [atOrBelow]
    rw [List.map_append, List.map_singleton, cameraSearch_concat, hnow]
    by_cases hcamera : s.kind? (Handle.ofPlace j) = some .camera
    · refine ⟨[j], true, by rw [if_pos hcamera]; rfl, ?_, ?_⟩
      · exact List.singleton_subperm_iff.2 (by simp)
      · simp only [true_iff]
        exact ⟨j, by simp, hcamera⟩
    · -- the children take the place of the node
      have hnext : s.atOrBelow (rest ++ s.nodes[j].children) = s.atOrBelow rest ++ s.descendants j := by
        rw [h.descendants_eq hn, atOrBelow, List.flatMap_append]
        rfl
      have hkids : s.children (Handle.ofPlace j) = s.nodes[j].children.map Handle.ofPlace := by
        rw [children, node?_ofPlace, hn]
      have hplaces' : ∀ k ∈ rest ++ s.nodes[j].children, k < s.nodes.size := by
        intro k hk
        rcases List.mem_append.1 hk with hk | hk
        · exact hrest k hk
        · exact (h.child_bounds hn hk).2
      have hless : (s.atOrBelow (rest ++ s.nodes[j].children)).length < left := by
        rw [← hleft, hnow, hnext, List.length_append, List.length_append, List.length_cons]
        omega
      obtain ⟨walk, found, hrun, hwalk, hfound⟩ := ih _ hless hplaces' (taken ++ [Handle.ofPlace j]) rfl
      rw [hnext] at hwalk hfound
      refine ⟨j :: walk, found, ?_, ?_, ?_⟩
      · rw [if_neg hcamera, hkids, ← List.map_append, hrun, List.map_cons, List.append_assoc]
        rfl
      · exact ((List.subperm_cons j).2 hwalk).trans List.perm_middle.symm.subperm
      · rw [hfound]
        -- the node is no camera, so one of the others is
        simp only [List.mem_append, List.mem_cons, or_and_right, exists_or, exists_eq_left, hcamera,
          false_or]

/-- The search below a node finds what the scene says. -/
theorem exists_searched (h : s.WellFormed) (p : Handle) :
    ∃ taken, s.Searched p taken (s.hasCameraBelow p) := by
  cases hp : s.node? p with
  | none =>
    -- nothing is below a stale handle
    have hentry : s.entry? p = none := Option.map_eq_none_iff.1 hp
    have hkids : s.children p = [] := by rw [children, hp]
    have hfound : s.hasCameraBelow p = false := by rw [hasCameraBelow, hentry]
    refine ⟨[], by rw [hkids, hfound, cameraSearch_nil], List.nodup_nil, by simp, ?_⟩
    rw [hfound]
    simp only [Bool.false_eq_true, false_iff, not_exists, not_and]
    intro d hd
    obtain ⟨c, hc, -⟩ := Relation.TransGen.head'_iff.1 hd
    rw [hkids] at hc
    cases hc
  | some n =>
    obtain ⟨i, rfl, hn⟩ := node?_eq_some.1 hp
    have hkids : s.children (Handle.ofPlace i) = n.children.map Handle.ofPlace := by
      rw [children, hp]
    obtain ⟨walk, found, hrun, hwalk, hfound⟩ :=
      h.cameraSearch_places (fun j hj => (h.child_bounds hn hj).2) []
    rw [← h.descendants_eq hn] at hwalk hfound
    -- the search finds a camera exactly if there is one below
    obtain rfl : found = s.hasCameraBelow (Handle.ofPlace i) := by
      rw [Bool.eq_iff_iff, hfound, h.hasCameraBelow_iff hn]
      constructor
      · intro hj
        obtain ⟨j, hj, hcamera⟩ := hj
        exact ⟨_, h.mem_descendants.1 hj, hcamera⟩
      · intro hd
        obtain ⟨d, hbelow, hcamera⟩ := hd
        obtain ⟨j, m, rfl, -, -⟩ := kind?_eq_some.1 hcamera
        exact ⟨j, h.mem_descendants.2 hbelow, hcamera⟩
    refine ⟨walk.map Handle.ofPlace, by rw [hkids, hrun, List.nil_append], ?_, ?_,
      h.hasCameraBelow_iff hn⟩
    · obtain ⟨walk', hperm, hsub⟩ := hwalk
      have hnodup : walk.Nodup := hperm.nodup_iff.1 ((h.nodup_descendants i).sublist hsub)
      exact hnodup.map fun _ _ => Handle.ofPlace_injective
    · intro d hd
      obtain ⟨k, hk, rfl⟩ := List.mem_map.1 hd
      exact h.mem_descendants.1 (hwalk.subset hk)

/-! ### Leaf cameras -/

/-- Every camera is a leaf camera or has one below it. -/
theorem exists_leafCamera (h : s.WellFormed) {c : Handle} (hc : s.kind? c = some .camera) :
    ∃ d ∈ s.leafCameras, d = c ∨ s.IsBelow c d := by
  obtain ⟨i, n, rfl, hn, -⟩ := kind?_eq_some.1 hc
  -- cameras below are younger, so the induction is on how many places are left
  induction hleft : s.nodes.size - i using Nat.strongRecOn generalizing i n with
  | ind left ih =>
    by_cases hbelow : ∃ d, s.IsBelow (Handle.ofPlace i) d ∧ s.kind? d = some .camera
    · obtain ⟨d, hd, hcamera⟩ := hbelow
      obtain ⟨j, m, rfl, hm, -⟩ := kind?_eq_some.1 hcamera
      have hij := h.lt_of_isBelow hd
      have hj := (Array.getElem?_eq_some_iff.1 hm).1
      obtain ⟨leaf, hleaf, heq | hlow⟩ := ih _ (by omega) j m hcamera hm rfl
      · exact ⟨leaf, hleaf, .inr (heq ▸ hd)⟩
      · exact ⟨leaf, hleaf, .inr (hd.trans hlow)⟩
    · exact ⟨_, (h.lists_leafCameras.mem _).2 ⟨hc, hbelow⟩, .inl rfl⟩

end WellFormed

/-- In every scene that arises, the search for a camera below any node ends without taking a node off
twice, and finds a camera exactly if there is one.  So the leaf cameras are the cameras without a camera
below them, each listed once in the order of creation, and every camera has one of them at or below
it. -/
theorem leafCameras_ofCalls [Scalar α] (calls : List (Call α)) :
    (∀ p, ∃ taken, (ofCalls calls).Searched p taken ((ofCalls calls).hasCameraBelow p)) ∧
    (ofCalls calls).Lists (ofCalls calls).IsLeafCamera (ofCalls calls).leafCameras ∧
    ∀ c, (ofCalls calls).kind? c = some .camera →
      ∃ d ∈ (ofCalls calls).leafCameras, d = c ∨ (ofCalls calls).IsBelow c d := by
  have h := wellFormed_ofCalls calls
  exact ⟨h.exists_searched, h.lists_leafCameras, fun _ hc => h.exists_leafCamera hc⟩

end Scenery.Scene
