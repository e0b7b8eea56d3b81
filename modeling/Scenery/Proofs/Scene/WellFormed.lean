import Scenery.Proofs.Scene.Runs

/-!
# Well-formed scenes

A scene keeps the same facts several times: a node knows its parent and the parent its children, and
the names stand in the nodes and in a table.  `WellFormed` says on places that all of them agree.  The
changes of which edits are made keep it: a node added, a node changed without its links, and a node
taken away from its parent.

* `WellFormed.push`         a node with a free name is added
* `WellFormed.modifyNode`   what a node holds or feeds is changed
* `WellFormed.detach`       a node loses its parent
* `WellFormed.withGenerated`   a shape comes with the generator that feeds it
-/

namespace Scenery.Scene

variable {α : Type} {s : Scene α}

/-- The order, the names, the links and the selection of a scene agree with its nodes. -/
structure WellFormed (s : Scene α) : Prop where
  /-- The nodes stand at their places in the order of their creation. -/
  order : s.order = List.range s.nodes.size
  named : ∀ (i : Nat) (n : Node α), s.nodes[i]? = some n → n.name ≠ ""
  /-- The table of names has the nodes, and nothing else. -/
  lookup : ∀ (name : String) (i : Nat),
    s.names.lookup name = some i ↔ ∃ n : Node α, s.nodes[i]? = some n ∧ n.name = name
  /-- A node was created after its parent. -/
  parent_lt : ∀ (i : Nat) (n : Node α) (p : Nat), s.nodes[i]? = some n → n.parent = some p → p < i
  mem_children : ∀ (p : Nat) (n : Node α) (c : Nat), s.nodes[p]? = some n →
    (c ∈ n.children ↔ ∃ m : Node α, s.nodes[c]? = some m ∧ m.parent = some p)
  children_sorted : ∀ (p : Nat) (n : Node α), s.nodes[p]? = some n → n.children.Pairwise (· < ·)
  /-- Generators feed meshes. -/
  output_mesh : ∀ (g : Nat) (n : Node α) (j : Nat), s.nodes[g]? = some n → n.output = some j →
    ∃ (m : Node α) (v : Mesh α), s.nodes[j]? = some m ∧ m.data = .mesh v
  /-- No mesh is fed by two generators. -/
  output_inj : ∀ (g : Nat) (n : Node α) (g' : Nat) (n' : Node α) (j : Nat), s.nodes[g]? = some n →
    s.nodes[g']? = some n' → n.output = some j → n'.output = some j → g = g'
  mesh_valid : ∀ (i : Nat) (n : Node α) (v : Mesh α), s.nodes[i]? = some n → n.data = .mesh v →
    v.validate = .ok ()
  selected : ∀ i ∈ s.selected, i < s.nodes.size

/-- The node at a place is a mesh that no generator feeds. -/
def IsUnfed (s : Scene α) (j : Nat) : Prop :=
  (∃ (m : Node α) (v : Mesh α), s.nodes[j]? = some m ∧ m.data = .mesh v) ∧
    ∀ (g : Nat) (n : Node α), s.nodes[g]? = some n → n.output ≠ some j

namespace WellFormed

private theorem lt_size {i : Nat} {n : Node α} (hn : s.nodes[i]? = some n) : i < s.nodes.size :=
  (Array.getElem?_eq_some_iff.1 hn).1

theorem empty : (empty : Scene α).WellFormed where
  order := rfl
  named := by simp [Scene.empty]
  lookup := by simp [Scene.empty]
  parent_lt := by simp [Scene.empty]
  mem_children := by simp [Scene.empty]
  children_sorted := by simp [Scene.empty]
  output_mesh := by simp [Scene.empty]
  output_inj := by simp [Scene.empty]
  mesh_valid := by simp [Scene.empty]
  selected := by simp [Scene.empty]

/-- Other nodes may be selected. -/
theorem withSelected (h : s.WellFormed) {places : List Nat} (hplaces : ∀ i ∈ places, i < s.nodes.size) :
    ({ s with selected := places } : Scene α).WellFormed :=
  { h with selected := hplaces }

/-- The name of the file does not matter. -/
theorem withFileName (h : s.WellFormed) (name : Option String) :
    ({ s with fileName := name } : Scene α).WellFormed :=
  { h with }

/-! ### A node added -/

section push

variable {name : String} {parent : Option Nat} {data : NodeData α}

/-- After a node is put in, the table of names finds the old nodes and the new one. -/
private theorem lookup_push (h : s.WellFormed) (hfree : s.hasName name = false)
    (hparent : ∀ p, parent = some p → p < s.nodes.size) (other : String) (i : Nat) :
    (s.push name parent data).names.lookup other = some i ↔
      ∃ n : Node α, (s.push name parent data).nodes[i]? = some n ∧ n.name = other := by
  have hnone : s.names.lookup name = none := by simpa [hasName] using hfree
  rw [names_push, List.lookup_cons]
  by_cases hother : other = name
  · -- the new entry is that of the new node, as no older node has the name
    subst hother
    simp only [beq_self_eq_true, Option.some.injEq]
    constructor
    · intro heq
      subst heq
      exact ⟨_, getElem?_push_size hparent, rfl⟩
    · intro hm
      obtain ⟨m, hm, hname⟩ := hm
      rcases cases_of_push hparent hm with ⟨rfl, -⟩ | ⟨n, hn, rfl⟩
      · rfl
      · have hold := (h.lookup other i).2 ⟨n, hn, hname⟩
        rw [hnone] at hold
        cases hold
  · -- other names are looked up behind the new entry
    simp only [beq_false_of_ne hother, h.lookup]
    constructor
    · intro hn
      obtain ⟨n, hn, hname⟩ := hn
      exact ⟨_, getElem?_push_of_some hn, hname⟩
    · intro hm
      obtain ⟨m, hm, hname⟩ := hm
      rcases cases_of_push hparent hm with ⟨-, rfl⟩ | ⟨n, hn, rfl⟩
      · exact absurd hname.symm hother
      · exact ⟨n, hn, hname⟩

/-- After a node is put in, the children of each node are those that have it for their parent. -/
private theorem mem_children_push (h : s.WellFormed)
    (hparent : ∀ p, parent = some p → p < s.nodes.size) {p : Nat} {m : Node α}
    (hm : (s.push name parent data).nodes[p]? = some m) (c : Nat) :
    c ∈ m.children ↔ ∃ k : Node α, (s.push name parent data).nodes[c]? = some k ∧ k.parent = some p := by
  rcases cases_of_push hparent hm with ⟨rfl, rfl⟩ | ⟨n, hn, rfl⟩
  · -- nothing is below the new node yet, since parents are older than their children
    simp only [List.not_mem_nil, false_iff, not_exists, not_and]
    intro k hk hkparent
    rcases cases_of_push hparent hk with ⟨-, rfl⟩ | ⟨n, hn, rfl⟩
    · have hlt := hparent _ hkparent
      omega
    · have hlt := h.parent_lt c n _ hn hkparent
      have hc := lt_size hn
      omega
  · -- the children are the old ones, with the new node behind them if this is its parent
    rw [List.mem_append, h.mem_children p n c hn]
    constructor
    · intro hk
      rcases hk with ⟨k, hk, hkparent⟩ | hnew
      · exact ⟨_, getElem?_push_of_some hk, hkparent⟩
      · split at hnew
        · rename_i hp
          rw [List.mem_singleton.1 hnew]
          exact ⟨_, getElem?_push_size hparent, hp⟩
        · cases hnew
    · intro hk
      obtain ⟨k, hk, hkparent⟩ := hk
      rcases cases_of_push hparent hk with ⟨rfl, rfl⟩ | ⟨l, hl, rfl⟩
      · right
        rw [if_pos hkparent]
        exact List.mem_singleton.2 rfl
      · exact .inl ⟨l, hl, hkparent⟩

/-- A node with a free name is added below a node that is there, or at the top. -/
theorem push (h : s.WellFormed) (hfree : s.hasName name = false) (hname : name ≠ "")
    (hparent : ∀ p, parent = some p → p < s.nodes.size)
    (hdata : ∀ v, data = .mesh v → v.validate = .ok ()) :
    (s.push name parent data).WellFormed where
  order := by
    rw [order_push, size_push, h.order, List.range_succ, List.size_toArray]
  named := by
    intro i m hm
    rcases cases_of_push hparent hm with ⟨-, rfl⟩ | ⟨n, hn, rfl⟩
    · exact hname
    · exact h.named i n hn
  lookup := lookup_push h hfree hparent
  parent_lt := by
    intro i m p hm hp
    rcases cases_of_push hparent hm with ⟨rfl, rfl⟩ | ⟨n, hn, rfl⟩
    · exact hparent p hp
    · exact h.parent_lt i n p hn hp
  mem_children := fun p m c hm => mem_children_push h hparent hm c
  children_sorted := by
    intro p m hm
    rcases cases_of_push hparent hm with ⟨-, rfl⟩ | ⟨n, hn, rfl⟩
    · exact List.Pairwise.nil
    · rw [List.pairwise_append]
      refine ⟨h.children_sorted p n hn, ?_, ?_⟩
      · split
        · exact List.pairwise_singleton _ _
        · exact List.Pairwise.nil
      · -- the new node is the youngest
        intro c hc d hd
        obtain ⟨k, hk, -⟩ := (h.mem_children p n c hn).1 hc
        have hlt := lt_size hk
        split at hd
        · rw [List.mem_singleton.1 hd]
          exact hlt
        · cases hd
  output_mesh := by
    intro g m j hm hj
    rcases cases_of_push hparent hm with ⟨-, rfl⟩ | ⟨n, hn, rfl⟩
    · cases hj
    · obtain ⟨k, v, hk, hv⟩ := h.output_mesh g n j hn hj
      exact ⟨_, v, getElem?_push_of_some hk, hv⟩
  output_inj := by
    intro g m g' m' j hm hm' hj hj'
    -- the new node feeds nothing
    rcases cases_of_push hparent hm with ⟨-, rfl⟩ | ⟨n, hn, rfl⟩
    · cases hj
    rcases cases_of_push hparent hm' with ⟨-, rfl⟩ | ⟨n', hn', rfl⟩
    · cases hj'
    · exact h.output_inj g n g' n' j hn hn' hj hj'
  mesh_valid := by
    intro i m v hm hv
    rcases cases_of_push hparent hm with ⟨-, rfl⟩ | ⟨n, hn, rfl⟩
    · exact hdata v hv
    · exact h.mesh_valid i n v hn hv
  selected := by
    intro i hi
    rw [selected_push] at hi
    have hlt := h.selected i hi
    rw [size_push]
    omega

end push

/-! ### A node changed -/

section modifyNode

variable {i : Nat} {n : Node α} {f : Node α → Node α}

/-- The changed node has the links of the old one and is a mesh exactly if that was. -/
private structure SameLinks (n m : Node α) : Prop where
  name : m.name = n.name
  parent : m.parent = n.parent
  children : m.children = n.children
  mesh : ∀ v, m.data = .mesh v ↔ n.data = .mesh v

private theorem SameLinks.refl (n : Node α) : SameLinks n n :=
  ⟨rfl, rfl, rfl, fun _ => Iff.rfl⟩

/-- After one node was changed, each node comes from an old one with the same links. -/
private theorem of_modifyNode (hn : s.nodes[i]? = some n) (hf : SameLinks n (f n)) {j : Nat}
    {m : Node α} (hm : (s.modifyNode i f).nodes[j]? = some m) :
    ∃ k, s.nodes[j]? = some k ∧ SameLinks k m ∧ (m = k ∨ i = j ∧ m = f n) := by
  rw [getElem?_modifyNode, Option.map_eq_some_iff] at hm
  obtain ⟨k, hk, rfl⟩ := hm
  by_cases hj : i = j
  · subst hj
    rw [hn] at hk
    cases hk
    rw [if_pos rfl]
    exact ⟨n, hn, hf, .inr ⟨rfl, rfl⟩⟩
  · rw [if_neg hj]
    exact ⟨k, hk, .refl k, .inl rfl⟩

/-- After one node was changed, each old node is still there, with the same links. -/
private theorem to_modifyNode (hn : s.nodes[i]? = some n) (hf : SameLinks n (f n)) {j : Nat}
    {k : Node α} (hk : s.nodes[j]? = some k) :
    ∃ m, (s.modifyNode i f).nodes[j]? = some m ∧ SameLinks k m := by
  obtain ⟨m, hm⟩ : ∃ m, (s.modifyNode i f).nodes[j]? = some m := by
    rw [← Option.isSome_iff_exists, getElem?_modifyNode, hk]
    rfl
  obtain ⟨l, hl, hlinks, -⟩ := of_modifyNode hn hf hm
  rw [hk] at hl
  cases hl
  exact ⟨m, hm, hlinks⟩

/-- A node may be changed in what it holds, as long as no mesh comes or goes, and may feed a mesh that
no generator feeds. -/
theorem modifyNode (h : s.WellFormed) (hn : s.nodes[i]? = some n) (hname : (f n).name = n.name)
    (hparent : (f n).parent = n.parent) (hchildren : (f n).children = n.children)
    (hmesh : ∀ v, (f n).data = .mesh v ↔ n.data = .mesh v)
    (houtput : ∀ j, (f n).output = some j → n.output = some j ∨ s.IsUnfed j) :
    (s.modifyNode i f).WellFormed := by
  have hf : SameLinks n (f n) := ⟨hname, hparent, hchildren, hmesh⟩
  -- what a node feeds it fed before, or it is the changed one and feeds a mesh that was free
  have hfed : ∀ (g : Nat) (m : Node α) (j : Nat), (s.modifyNode i f).nodes[g]? = some m →
      m.output = some j →
        (∃ k, s.nodes[g]? = some k ∧ k.output = some j) ∨ i = g ∧ s.IsUnfed j := by
    intro g m j hm hj
    obtain ⟨k, hk, -, rfl | ⟨rfl, rfl⟩⟩ := of_modifyNode hn hf hm
    · exact .inl ⟨m, hk, hj⟩
    · rcases houtput j hj with hold | hunfed
      · exact .inl ⟨n, hn, hold⟩
      · exact .inr ⟨rfl, hunfed⟩
  constructor
  case order => rw [size_modifyNode]; exact h.order
  case selected => rw [size_modifyNode]; exact h.selected
  case named =>
    intro j m hm
    obtain ⟨k, hk, hlinks, -⟩ := of_modifyNode hn hf hm
    rw [hlinks.name]
    exact h.named j k hk
  case lookup =>
    intro name j
    rw [names_modifyNode, h.lookup]
    constructor
    · intro hk
      obtain ⟨k, hk, rfl⟩ := hk
      obtain ⟨m, hm, hlinks⟩ := to_modifyNode hn hf hk
      exact ⟨m, hm, hlinks.name⟩
    · intro hm
      obtain ⟨m, hm, rfl⟩ := hm
      obtain ⟨k, hk, hlinks, -⟩ := of_modifyNode hn hf hm
      exact ⟨k, hk, hlinks.name.symm⟩
  case parent_lt =>
    intro j m p hm hp
    obtain ⟨k, hk, hlinks, -⟩ := of_modifyNode hn hf hm
    rw [hlinks.parent] at hp
    exact h.parent_lt j k p hk hp
  -- a child is linked to its parent on both sides, and neither side has changed
  case mem_children =>
    intro p m c hm
    obtain ⟨k, hk, hlinks, -⟩ := of_modifyNode hn hf hm
    rw [hlinks.children, h.mem_children p k c hk]
    constructor
    · intro hl
      obtain ⟨l, hl, hp⟩ := hl
      obtain ⟨l', hl', hlinks'⟩ := to_modifyNode hn hf hl
      exact ⟨l', hl', by rw [hlinks'.parent, hp]⟩
    · intro hl'
      obtain ⟨l', hl', hp⟩ := hl'
      obtain ⟨l, hl, hlinks', -⟩ := of_modifyNode hn hf hl'
      exact ⟨l, hl, by rw [← hlinks'.parent, hp]⟩
  case children_sorted =>
    intro p m hm
    obtain ⟨k, hk, hlinks, -⟩ := of_modifyNode hn hf hm
    rw [hlinks.children]
    exact h.children_sorted p k hk
  case output_mesh =>
    intro g m j hm hj
    have hmesh : ∃ (l : Node α) (v : Mesh α), s.nodes[j]? = some l ∧ l.data = .mesh v := by
      rcases hfed g m j hm hj with ⟨k, hk, hkj⟩ | ⟨-, hunfed⟩
      · exact h.output_mesh g k j hk hkj
      · exact hunfed.1
    obtain ⟨l, v, hl, hv⟩ := hmesh
    obtain ⟨l', hl', hlinks⟩ := to_modifyNode hn hf hl
    exact ⟨l', v, hl', (hlinks.mesh v).2 hv⟩
  case output_inj =>
    intro g m g' m' j hm hm' hj hj'
    -- only the changed node can feed a mesh that was free, so two such are the same
    rcases hfed g m j hm hj with ⟨k, hk, hkj⟩ | ⟨rfl, hunfed⟩
    · rcases hfed g' m' j hm' hj' with ⟨k', hk', hkj'⟩ | ⟨rfl, hunfed⟩
      · exact h.output_inj g k g' k' j hk hk' hkj hkj'
      · exact absurd hkj (hunfed.2 g k hk)
    · rcases hfed g' m' j hm' hj' with ⟨k', hk', hkj'⟩ | ⟨rfl, -⟩
      · exact absurd hkj' (hunfed.2 g' k' hk')
      · rfl
  case mesh_valid =>
    intro j m v hm hv
    obtain ⟨k, hk, hlinks, -⟩ := of_modifyNode hn hf hm
    exact h.mesh_valid j k v hk ((hlinks.mesh v).1 hv)

end modifyNode

/-! ### A node taken away from its parent -/

/-- After a node was taken from its parent, each node comes from an old one. -/
private theorem of_detach {i p j : Nat} {m : Node α} (hm : (s.detach i p).nodes[j]? = some m) :
    ∃ n, s.nodes[j]? = some n ∧ m =
      { n with
        parent := if i = j then none else n.parent
        children := if p = j then n.children.filter (· ≠ i) else n.children } := by
  rw [getElem?_detach, Option.map_eq_some_iff] at hm
  obtain ⟨n, hn, rfl⟩ := hm
  exact ⟨n, hn, rfl⟩

/-- After a node was taken from its parent, each old node is still there, without the link. -/
private theorem to_detach {j : Nat} {n : Node α} (i p : Nat) (hn : s.nodes[j]? = some n) :
    (s.detach i p).nodes[j]? = some
      { n with
        parent := if i = j then none else n.parent
        children := if p = j then n.children.filter (· ≠ i) else n.children } := by
  rw [getElem?_detach, hn]
  rfl

/-- A node loses its parent, and the parent loses it. -/
theorem detach (h : s.WellFormed) {i p : Nat} {n : Node α} (hn : s.nodes[i]? = some n)
    (hp : n.parent = some p) : (s.detach i p).WellFormed := by
  constructor
  case order => rw [size_detach]; exact h.order
  case selected => rw [size_detach]; exact h.selected
  case named =>
    intro j m hm
    obtain ⟨k, hk, rfl⟩ := of_detach hm
    exact h.named j k hk
  case lookup =>
    intro name j
    rw [show (s.detach i p).names = s.names from rfl, h.lookup]
    constructor
    · intro hk
      obtain ⟨k, hk, rfl⟩ := hk
      exact ⟨_, to_detach i p hk, rfl⟩
    · intro hm
      obtain ⟨m, hm, rfl⟩ := hm
      obtain ⟨k, hk, rfl⟩ := of_detach hm
      exact ⟨k, hk, rfl⟩
  -- a parent that is left is the one the node had
  case parent_lt =>
    intro j m q hm hq
    obtain ⟨k, hk, rfl⟩ := of_detach hm
    dsimp only at hq
    split at hq
    · cases hq
    · exact h.parent_lt j k q hk hq
  case mem_children =>
    intro q m c hm
    obtain ⟨k, hk, rfl⟩ := of_detach hm
    dsimp only
    -- only the pair of the node and its parent is taken out, on both sides
    have hmem : c ∈ (if p = q then k.children.filter (· ≠ i) else k.children) ↔
        c ∈ k.children ∧ c ≠ i := by
      split
      · simp
      · rename_i hpq
        refine ⟨fun hc => ⟨hc, ?_⟩, And.left⟩
        intro heq
        subst heq
        obtain ⟨l, hl, hlq⟩ := (h.mem_children q k c hk).1 hc
        rw [hn] at hl
        cases hl
        rw [hp] at hlq
        exact hpq (Option.some.inj hlq)
    rw [hmem, h.mem_children q k c hk]
    constructor
    · intro hl
      obtain ⟨⟨l, hl, hlq⟩, hci⟩ := hl
      exact ⟨_, to_detach i p hl, by rw [← hlq]; exact if_neg (Ne.symm hci)⟩
    · intro hm
      obtain ⟨m, hm, hmq⟩ := hm
      obtain ⟨l, hl, rfl⟩ := of_detach hm
      dsimp only at hmq
      split at hmq
      · cases hmq
      · rename_i hic
        exact ⟨⟨l, hl, hmq⟩, Ne.symm hic⟩
  -- taking out a child keeps the others in order
  case children_sorted =>
    intro q m hm
    obtain ⟨k, hk, rfl⟩ := of_detach hm
    have hsorted := h.children_sorted q k hk
    dsimp only
    split
    · exact hsorted.filter _
    · exact hsorted
  case output_mesh =>
    intro g m j hm hj
    obtain ⟨k, hk, rfl⟩ := of_detach hm
    obtain ⟨l, v, hl, hv⟩ := h.output_mesh g k j hk hj
    exact ⟨_, v, to_detach i p hl, hv⟩
  case output_inj =>
    intro g m g' m' j hm hm' hj hj'
    obtain ⟨k, hk, rfl⟩ := of_detach hm
    obtain ⟨k', hk', rfl⟩ := of_detach hm'
    exact h.output_inj g k g' k' j hk hk' hj hj'
  case mesh_valid =>
    intro j m v hm hv
    obtain ⟨k, hk, rfl⟩ := of_detach hm
    exact h.mesh_valid j k v hk hv

/-! ### Several nodes added -/

/-- A transform with a shape below it. -/
theorem withShape (h : s.WellFormed) {name : String} (hname : name ≠ "") (t : Transform α)
    {shape : NodeData α} (hshape : ∀ v, shape = .mesh v → v.validate = .ok ()) :
    (s.withShape name t shape).WellFormed := by
  have htransform : (s.push (s.freeName name) none (.transform t)).WellFormed :=
    h.push (hasName_freeName s name) (freeName_ne_empty s hname) (by simp) (by simp)
  have hne : s.freeName name ++ "Shape" ≠ "" := by simp
  show (Scene.push _ _ (some s.nodes.size) shape).WellFormed
  -- the second node goes below the first, which is there by then
  refine htransform.push (hasName_freeName _ _) (freeName_ne_empty _ hne) ?_ hshape
  rintro p ⟨⟩
  rw [size_push]
  omega

/-- No generator feeds the mesh of a new shape, as outputs go to nodes that were there before. -/
theorem isUnfed_withShape (h : s.WellFormed) (name : String) (t : Transform α) (m : Mesh α) :
    (s.withShape name t (.mesh m)).IsUnfed (s.nodes.size + 1) := by
  have hshape := getElem?_withShape_shape s name t (.mesh m)
  refine ⟨⟨_, _, hshape, rfl⟩, ?_⟩
  intro g n hn hout
  have hg := lt_size hn
  rw [size_withShape] at hg
  rcases Nat.lt_or_ge g s.nodes.size with hold | hnew
  · rw [getElem?_withShape_of_lt name t _ hold] at hn
    obtain ⟨m, v, hm, -⟩ := h.output_mesh g n _ hn hout
    have hlt := lt_size hm
    omega
  · obtain rfl | rfl : g = s.nodes.size ∨ g = s.nodes.size + 1 := by omega
    · rw [getElem?_withShape_transform] at hn
      cases hn
      cases hout
    · rw [hshape] at hn
      cases hn
      cases hout

/-- A transform, an empty mesh and a generator that feeds it. -/
theorem withGenerated (h : s.WellFormed) {name : String} (hname : name ≠ "") (t : Transform α)
    (generatorName : String) {data : NodeData α} (hdata : ∀ v, data ≠ .mesh v) :
    (s.withGenerated name t generatorName data).WellFormed := by
  have hempty : ∀ v : Mesh α, NodeData.mesh Mesh.empty = .mesh v → v.validate = .ok () := by
    rintro v ⟨⟩
    rfl
  have hshape := h.withShape hname t hempty
  have hunfed := isUnfed_withShape h name t .empty
  unfold Scene.withGenerated
  dsimp only
  generalize hadded : s.withShape name t (.mesh .empty) = added at hshape hunfed ⊢
  have hsize : added.nodes.size = s.nodes.size + 2 := by rw [← hadded, size_withShape]
  -- the generator has a name that is free and holds no mesh
  have hall : (added.push (added.nextName generatorName) none data).WellFormed :=
    hshape.push (hasName_nextName _ _) (nextName_ne_empty _ _) (by simp)
      (fun v hv => absurd hv (hdata v))
  have hgenerator : (added.push (added.nextName generatorName) none data).nodes[s.nodes.size + 2]? =
      some ⟨added.nextName generatorName, none, [], none, data⟩ := by
    rw [← hsize, getElem?_push_size (by simp)]
  -- the generator is connected last, to a mesh that nothing feeds yet
  refine hall.modifyNode hgenerator rfl rfl rfl (fun _ => Iff.rfl) ?_
  rintro j ⟨⟩
  right
  obtain ⟨⟨m, v, hm, hv⟩, hfree⟩ := hunfed
  refine ⟨⟨_, v, getElem?_push_of_some hm, hv⟩, ?_⟩
  intro g n hn hout
  rcases cases_of_push (by simp) hn with ⟨-, rfl⟩ | ⟨k, hk, rfl⟩
  · cases hout
  · exact hfree g k hk hout

end WellFormed

end Scenery.Scene
