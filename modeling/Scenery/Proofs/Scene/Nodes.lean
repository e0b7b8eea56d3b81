import Scenery.Proofs.Except
import Scenery.Scene.Edit

/-!
# Nodes after a change

What stands at each place once a node has been added, changed or taken away from its parent.

* `entry?_eq_some`       a handle names the node at its place
* `getElem?_push_size`   a node that was added stands at the last place
* `cases_of_push`        the nodes after one was added
* `getElem?_detach`      the nodes after one lost its parent
-/

namespace Scenery

namespace Handle

theorem ofPlace_injective {i j : Nat} (h : ofPlace i = ofPlace j) : i = j := by
  simpa [ofPlace] using h

@[simp] theorem ofPlace_inj {i j : Nat} : ofPlace i = ofPlace j ↔ i = j :=
  ⟨ofPlace_injective, congrArg ofPlace⟩

end Handle

namespace Scene

variable {α : Type} {s : Scene α} {h : Handle} {i : Nat} {n : Node α}

/-! ### Handles -/

/-- A handle names the node at its place. -/
theorem entry?_eq_some : s.entry? h = some (i, n) ↔ h = Handle.ofPlace i ∧ s.nodes[i]? = some n := by
  simp only [Option.bind_eq_some_iff, entry?, Option.map_eq_some_iff, Prod.mk.injEq]
  constructor
  · intro he
    obtain ⟨j, hj, m, hm, rfl, rfl⟩ := he
    exact ⟨Handle.eq_ofPlace_of_place? hj, hm⟩
  · intro hn
    obtain ⟨rfl, hn⟩ := hn
    exact ⟨i, Handle.place?_ofPlace i, n, hn, rfl, rfl⟩

/-- A handle is resolved exactly if it is that of a place with a node. -/
theorem entry_eq_ok : s.entry h = .ok (i, n) ↔ h = Handle.ofPlace i ∧ s.nodes[i]? = some n := by
  rw [← entry?_eq_some, entry]
  cases s.entry? h <;> simp

/-- The node at the handle of a place. -/
theorem entry_ofPlace (hn : s.nodes[i]? = some n) : s.entry (Handle.ofPlace i) = .ok (i, n) :=
  entry_eq_ok.2 ⟨rfl, hn⟩

/-- A handle names a node exactly if it is that of its place. -/
theorem node?_eq_some : s.node? h = some n ↔ ∃ i, h = Handle.ofPlace i ∧ s.nodes[i]? = some n := by
  simp only [node?, Option.map_eq_some_iff, Prod.exists, entry?_eq_some]
  constructor
  · intro hm
    obtain ⟨i, m, hm, rfl⟩ := hm
    exact ⟨i, hm⟩
  · intro hn
    obtain ⟨i, hn⟩ := hn
    exact ⟨i, n, hn, rfl⟩

/-- The handle of a place names what is there. -/
@[simp] theorem node?_ofPlace (s : Scene α) (i : Nat) : s.node? (Handle.ofPlace i) = s.nodes[i]? := by
  cases hn : s.nodes[i]? with
  | none =>
    rw [Option.eq_none_iff_forall_ne_some]
    intro n hs
    obtain ⟨j, hj, hnode⟩ := node?_eq_some.1 hs
    cases Handle.ofPlace_injective hj
    rw [hn] at hnode
    cases hnode
  | some n => exact node?_eq_some.2 ⟨i, rfl, hn⟩

/-- A name is found exactly if the handle names a node with it. -/
theorem name_eq_ok {name : String} :
    s.name h = .ok name ↔ ∃ i n, h = Handle.ofPlace i ∧ s.nodes[i]? = some n ∧ n.name = name := by
  rw [Scene.name, map_eq_ok]
  simp only [Prod.exists, entry_eq_ok, and_assoc]

/-- A parent is found exactly if the handle names a node that has it. -/
theorem parent?_eq_some {p : Handle} : s.parent? h = some p ↔
    ∃ i n j, h = Handle.ofPlace i ∧ s.nodes[i]? = some n ∧ n.parent = some j ∧
      p = Handle.ofPlace j := by
  simp only [parent?, Option.map_eq_some_iff, Option.bind_eq_some_iff, node?_eq_some]
  constructor
  · intro hp
    obtain ⟨j, ⟨n, ⟨i, hi, hn⟩, hj⟩, rfl⟩ := hp
    exact ⟨i, n, j, hi, hn, hj, rfl⟩
  · intro hp
    obtain ⟨i, n, j, hi, hn, hj, rfl⟩ := hp
    exact ⟨j, ⟨n, ⟨i, hi, hn⟩, hj⟩, rfl⟩

/-- The mesh that a generator feeds, as long as there is a node at its place. -/
theorem output?_eq_some {mesh : Handle} : s.output? h = some mesh ↔
    ∃ i n j, h = Handle.ofPlace i ∧ s.nodes[i]? = some n ∧ n.output = some j ∧ s.holds j = true ∧
      mesh = Handle.ofPlace j := by
  simp only [output?, Option.map_eq_some_iff, Option.filter_eq_some_iff, Option.bind_eq_some_iff,
    node?_eq_some]
  constructor
  · intro hm
    obtain ⟨j, ⟨⟨n, ⟨i, hi, hn⟩, hj⟩, hholds⟩, rfl⟩ := hm
    exact ⟨i, n, j, hi, hn, hj, hholds, rfl⟩
  · intro hm
    obtain ⟨i, n, j, hi, hn, hj, hholds, rfl⟩ := hm
    exact ⟨j, ⟨⟨n, ⟨i, hi, hn⟩, hj⟩, hholds⟩, rfl⟩

/-- A child is listed exactly if the handle names a node that lists it. -/
theorem mem_children {c : Handle} : c ∈ s.children h ↔
    ∃ i n j, h = Handle.ofPlace i ∧ s.nodes[i]? = some n ∧ j ∈ n.children ∧ c = Handle.ofPlace j := by
  rw [children]
  constructor
  · intro hc
    cases hn : s.node? h with
    | none =>
      rw [hn] at hc
      cases hc
    | some n =>
      rw [hn] at hc
      obtain ⟨j, hj, rfl⟩ := List.mem_map.1 hc
      obtain ⟨i, hi, hnode⟩ := node?_eq_some.1 hn
      exact ⟨i, n, j, hi, hnode, hj, rfl⟩
  · intro hc
    obtain ⟨i, n, j, rfl, hn, hj, rfl⟩ := hc
    rw [node?_ofPlace, hn]
    exact List.mem_map_of_mem hj

/-- What a node holds, seen as one kind of data. -/
theorem aspect_eq_ok {β : Type} {lack : Lack} {view : NodeData α → Option β} {b : β} :
    s.aspect h lack view = .ok b ↔
      ∃ i n, h = Handle.ofPlace i ∧ s.nodes[i]? = some n ∧ view n.data = some b := by
  unfold aspect
  simp only [bind_eq_ok, Prod.exists, entry_eq_ok, and_assoc]
  refine exists_congr fun i => exists_congr fun n => and_congr_right fun _ => and_congr_right fun _ => ?_
  cases view n.data <;> simp

/-- A transform is found exactly if the handle names a node that holds it. -/
theorem transform_eq_ok {t : Transform α} : s.transform h = .ok t ↔
    ∃ i n, h = Handle.ofPlace i ∧ s.nodes[i]? = some n ∧ n.data = .transform t := by
  rw [transform, aspect_eq_ok]
  refine exists_congr fun i => exists_congr fun n => and_congr_right fun _ => and_congr_right fun _ => ?_
  cases n.data <;> simp

/-- A mesh is found exactly if the handle names a node that holds it. -/
theorem mesh_eq_ok {m : Mesh α} : s.mesh h = .ok m ↔
    ∃ i n, h = Handle.ofPlace i ∧ s.nodes[i]? = some n ∧ n.data = .mesh m := by
  rw [mesh, aspect_eq_ok]
  refine exists_congr fun i => exists_congr fun n => and_congr_right fun _ => and_congr_right fun _ => ?_
  cases n.data <;> simp

/-- A kind is found exactly if the handle names a node of it. -/
theorem kind?_eq_some {h : Handle} {k : NodeKind} : s.kind? h = some k ↔
    ∃ i n, h = Handle.ofPlace i ∧ s.nodes[i]? = some n ∧ n.kind = k := by
  simp only [kind?, Option.map_eq_some_iff, node?_eq_some]
  constructor
  · intro hk
    obtain ⟨n, ⟨i, hi, hn⟩, hk⟩ := hk
    exact ⟨i, n, hi, hn, hk⟩
  · intro hk
    obtain ⟨i, n, hi, hn, hk⟩ := hk
    exact ⟨n, ⟨i, hi, hn⟩, hk⟩

/-- A node is of a kind exactly if it holds the data of that kind. -/
private theorem kind?_iff_aspect {β : Type} {h : Handle} {k : NodeKind} {lack : Lack}
    {view : NodeData α → Option β} (hview : ∀ d, d.kind = k ↔ ∃ b, view d = some b) :
    s.kind? h = some k ↔ ∃ b, s.aspect h lack view = .ok b := by
  simp only [kind?_eq_some, aspect_eq_ok, Node.kind, hview]
  constructor
  · intro hk
    obtain ⟨i, n, hi, hn, b, hb⟩ := hk
    exact ⟨b, i, n, hi, hn, hb⟩
  · intro hb
    obtain ⟨b, i, n, hi, hn, hb⟩ := hb
    exact ⟨i, n, hi, hn, b, hb⟩

/-- Nodes of this kind are those that hold a transform. -/
theorem kind?_eq_transform {h : Handle} :
    s.kind? h = some .transform ↔ ∃ t, s.transform h = .ok t :=
  kind?_iff_aspect fun d => by cases d <;> simp [NodeData.kind]

theorem kind?_eq_sphere {h : Handle} : s.kind? h = some .sphere ↔ ∃ r, s.radius h = .ok r :=
  kind?_iff_aspect fun d => by cases d <;> simp [NodeData.kind]

theorem kind?_eq_box {h : Handle} : s.kind? h = some .box ↔ ∃ d, s.dimensions h = .ok d :=
  kind?_iff_aspect fun d => by cases d <;> simp [NodeData.kind]

theorem kind?_eq_mesh {h : Handle} : s.kind? h = some .mesh ↔ ∃ m, s.mesh h = .ok m :=
  kind?_iff_aspect fun d => by cases d <;> simp [NodeData.kind]

/-! ### One node changed -/

@[simp] theorem size_modifyNode (s : Scene α) (i : Nat) (f : Node α → Node α) :
    (s.modifyNode i f).nodes.size = s.nodes.size := by
  simp [modifyNode]

@[simp] theorem order_modifyNode (s : Scene α) (i : Nat) (f : Node α → Node α) :
    (s.modifyNode i f).order = s.order := rfl

@[simp] theorem names_modifyNode (s : Scene α) (i : Nat) (f : Node α → Node α) :
    (s.modifyNode i f).names = s.names := rfl

@[simp] theorem fileName_modifyNode (s : Scene α) (i : Nat) (f : Node α → Node α) :
    (s.modifyNode i f).fileName = s.fileName := rfl

/-- Changing a node changes this one only. -/
theorem getElem?_modifyNode (s : Scene α) (i : Nat) (f : Node α → Node α) (j : Nat) :
    (s.modifyNode i f).nodes[j]? = (s.nodes[j]?).map fun n => if i = j then f n else n := by
  simp only [modifyNode, Array.getElem?_modify]
  split
  · rfl
  · simp

/-- The other nodes stay. -/
theorem getElem?_modifyNode_of_ne {f : Node α → Node α} {j : Nat} (h : i ≠ j) :
    (s.modifyNode i f).nodes[j]? = s.nodes[j]? := by
  simp [getElem?_modifyNode, h]

theorem getElem?_modifyNode_self (hn : s.nodes[i]? = some n) (f : Node α → Node α) :
    (s.modifyNode i f).nodes[i]? = some (f n) := by
  simp [getElem?_modifyNode, hn]

/-- The scene with another transform at a place. -/
def setTransform (s : Scene α) (i : Nat) (t : Transform α) : Scene α :=
  s.modifyNode i fun n => { n with data := .transform t }

/-! ### A node added -/

variable (name : String) (parent : Option Nat) (data : NodeData α)

@[simp] theorem size_push (s : Scene α) :
    (s.push name parent data).nodes.size = s.nodes.size + 1 := by
  cases parent <;> simp [push]

@[simp] theorem order_push (s : Scene α) :
    (s.push name parent data).order = s.order ++ [s.nodes.size] := by
  cases parent <;> rfl

@[simp] theorem names_push (s : Scene α) :
    (s.push name parent data).names = (name, s.nodes.size) :: s.names := by
  cases parent <;> rfl

@[simp] theorem selected_push (s : Scene α) :
    (s.push name parent data).selected = s.selected := by
  cases parent <;> rfl

@[simp] theorem fileName_push (s : Scene α) :
    (s.push name parent data).fileName = s.fileName := by
  cases parent <;> rfl

variable {name parent data}

/-- The nodes that were there keep their places; the parent has one more child. -/
theorem getElem?_push_of_lt {j : Nat} (h : j < s.nodes.size) :
    (s.push name parent data).nodes[j]? = (s.nodes[j]?).map fun n =>
      { n with children := n.children ++ if parent = some j then [s.nodes.size] else [] } := by
  have hne : j ≠ s.nodes.size := by omega
  cases parent with
  | none => simp [push, Array.getElem?_push, hne]
  | some p =>
    simp only [push, getElem?_modifyNode, Array.getElem?_push, if_neg hne, Option.some.injEq]
    congr 1
    funext n
    split
    · rfl
    · simp

/-- The new node is at the end. -/
theorem getElem?_push_size (h : ∀ p, parent = some p → p < s.nodes.size) :
    (s.push name parent data).nodes[s.nodes.size]? = some ⟨name, parent, [], none, data⟩ := by
  cases parent with
  | none => simp [push]
  | some p =>
    -- the parent is another node, so the new one is not changed again
    have hp := h p rfl
    have hne : p ≠ s.nodes.size := by omega
    simp only [push, getElem?_modifyNode_of_ne hne, Array.getElem?_push_size]

/-- A node of the scene after an addition is the new one or was there before. -/
theorem cases_of_push (h : ∀ p, parent = some p → p < s.nodes.size) {j : Nat} {m : Node α}
    (hm : (s.push name parent data).nodes[j]? = some m) :
    (j = s.nodes.size ∧ m = ⟨name, parent, [], none, data⟩) ∨
      ∃ n, s.nodes[j]? = some n ∧ m =
        { n with children := n.children ++ if parent = some j then [s.nodes.size] else [] } := by
  by_cases hj : j = s.nodes.size
  · subst hj
    rw [getElem?_push_size h] at hm
    cases hm
    exact .inl ⟨rfl, rfl⟩
  · right
    have hlt := (Array.getElem?_eq_some_iff.1 hm).1
    rw [size_push] at hlt
    rw [getElem?_push_of_lt (by omega), Option.map_eq_some_iff] at hm
    obtain ⟨n, hn, rfl⟩ := hm
    exact ⟨n, hn, rfl⟩

/-- A node that was there before an addition is still there. -/
theorem getElem?_push_of_some {j : Nat} (hn : s.nodes[j]? = some n) :
    (s.push name parent data).nodes[j]? = some
      { n with children := n.children ++ if parent = some j then [s.nodes.size] else [] } := by
  rw [getElem?_push_of_lt (Array.getElem?_eq_some_iff.1 hn).1, hn]
  rfl

/-! ### A node taken away from its parent -/

@[simp] theorem size_detach (s : Scene α) (i p : Nat) :
    (s.detach i p).nodes.size = s.nodes.size := by
  simp [detach]

/-- One node has no parent, and another has it no more among its children. -/
theorem getElem?_detach (s : Scene α) (i p j : Nat) :
    (s.detach i p).nodes[j]? = (s.nodes[j]?).map fun n =>
      { n with
        parent := if i = j then none else n.parent
        children := if p = j then n.children.filter (· ≠ i) else n.children } := by
  simp only [detach, getElem?_modifyNode, Option.map_map]
  congr 1
  funext n
  simp only [Function.comp_apply]
  split <;> split <;> rfl

end Scene

end Scenery
