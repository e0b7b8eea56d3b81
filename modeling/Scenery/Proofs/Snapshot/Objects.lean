import Mathlib.Logic.Relation
import Scenery.Proofs.Scene.Calls
import Scenery.Proofs.Scene.Placement
import Scenery.Snapshot.Basic

/-!
# Scenes of objects side by side

A scene to which objects were added one after the other, each under a name that was free: this is how a
snapshot is built, and how any scene without links between objects can be built.

* `withObject`          the scene with one more object
* `Built`               the scene of some objects
* `Built.flatChange`    after a flat change a scene is still one of objects
-/

namespace Scenery

/-- The mesh of a shape, if it has one of its own, is valid. -/
def ObjectShape.IsValid : ObjectShape → Prop
  | .mesh m => m.validate = .ok ()
  | _ => True

namespace Scene

/-- The scene with an object. -/
def withObject (s : Scene Single) (name : String) (t : Transform Single) : ObjectShape → Scene Single
  | .empty => s.push (s.freeName name) none (.transform t)
  | .sphere radius => s.withGenerated name t "polySphere" (.sphere radius)
  | .box d => s.withGenerated name t "polyCube" (.box d)
  | .camera => s.withShape name t .camera
  | .mesh m => s.withShape name t (.mesh m)

variable {s : Scene Single} {name : String} {t : Transform Single} {shape : ObjectShape}

/-- Loading an object is a flat change. -/
theorem flatChange_withObject (hname : name ≠ "") (t : Transform Single) (hshape : shape.IsValid) :
    FlatChange s (s.withObject name t shape) := by
  cases shape with
  | empty => exact .transform hname t
  | sphere radius => exact .sphere hname t radius
  | box d => exact .box hname t d
  | camera => exact .camera hname t
  | mesh m => exact .mesh hname t hshape

/-- An object that is added under a name that is taken gets the name that is free for it. -/
theorem withObject_freeName (s : Scene Single) (name : String) (t : Transform Single)
    (shape : ObjectShape) : s.withObject (s.freeName name) t shape = s.withObject name t shape := by
  have hfree := freeName_of_not_hasName (hasName_freeName s name)
  cases shape <;> simp only [withObject, withGenerated, withShape, hfree]

/-- What is selected and the file name have nothing to do with the objects. -/
theorem withObject_with (s : Scene Single) (fileName : Option String) (selected : List Nat)
    (name : String) (t : Transform Single) (shape : ObjectShape) :
    ({ s with fileName, selected } : Scene Single).withObject name t shape =
      { s.withObject name t shape with fileName, selected } := by
  cases shape <;> rfl

@[simp] theorem selected_withObject (s : Scene Single) (name : String) (t : Transform Single)
    (shape : ObjectShape) : (s.withObject name t shape).selected = s.selected := by
  cases shape <;> rfl

/-! ### Nodes of an object -/

/-- The older nodes do not change. -/
theorem getElem?_withObject_of_lt {j : Nat} (hj : j < s.nodes.size) :
    (s.withObject name t shape).nodes[j]? = s.nodes[j]? := by
  cases shape with
  | empty => simp [withObject, getElem?_push_of_lt hj]
  | sphere radius => exact getElem?_withGenerated_of_lt _ _ _ _ hj
  | box d => exact getElem?_withGenerated_of_lt _ _ _ _ hj
  | camera => exact getElem?_withShape_of_lt _ _ _ hj
  | mesh m => exact getElem?_withShape_of_lt _ _ _ hj

/-- A loaded object has one node at least. -/
theorem size_withObject (s : Scene Single) (name : String) (t : Transform Single)
    (shape : ObjectShape) : s.nodes.size < (s.withObject name t shape).nodes.size := by
  cases shape <;> simp [withObject]

/-- The new transform, which has no parent. -/
theorem getElem?_withObject_transform (s : Scene Single) (name : String) (t : Transform Single)
    (shape : ObjectShape) : ∃ cs, (s.withObject name t shape).nodes[s.nodes.size]? =
      some ⟨s.freeName name, none, cs, none, .transform t⟩ := by
  cases shape with
  | empty => exact ⟨_, getElem?_push_size (by simp)⟩
  | sphere radius => exact ⟨_, getElem?_withGenerated_transform ..⟩
  | box d => exact ⟨_, getElem?_withGenerated_transform ..⟩
  | camera => exact ⟨_, getElem?_withShape_transform ..⟩
  | mesh m => exact ⟨_, getElem?_withShape_transform ..⟩

/-- A new node behind the transform of an object is none itself, and feeds nothing but the shape. -/
structure IsBehind (s : Scene Single) (n : Node Single) : Prop where
  kind : n.kind ≠ .transform
  output : ∀ j, n.output = some j → j = s.nodes.size + 1

/-- Behind the transform of an object there is its shape. -/
private theorem isBehind_withShape {data : NodeData Single} (hdata : data.kind ≠ .transform) {j : Nat}
    (hj : s.nodes.size < j) {n : Node Single} (hn : (s.withShape name t data).nodes[j]? = some n) :
    IsBehind s n := by
  have hlt := (Array.getElem?_eq_some_iff.1 hn).1
  rw [size_withShape] at hlt
  obtain rfl : j = s.nodes.size + 1 := by omega
  have hshape := getElem?_withShape_shape s name t data
  rw [hshape] at hn
  cases hn
  exact ⟨hdata, by simp⟩

/-- Behind the transform of an object there are its mesh and the generator, which feeds the mesh. -/
private theorem isBehind_withGenerated {generatorName : String} {data : NodeData Single}
    (hdata : data.kind ≠ .transform) {j : Nat} (hj : s.nodes.size < j) {n : Node Single}
    (hn : (s.withGenerated name t generatorName data).nodes[j]? = some n) : IsBehind s n := by
  have hlt := (Array.getElem?_eq_some_iff.1 hn).1
  rw [size_withGenerated] at hlt
  obtain rfl | rfl : j = s.nodes.size + 1 ∨ j = s.nodes.size + 2 := by omega
  · have hshape := getElem?_withGenerated_shape s name t generatorName data
    rw [hshape] at hn
    cases hn
    exact ⟨by simp [Node.kind, NodeData.kind], by simp⟩
  · have hgenerator := getElem?_withGenerated_generator s name t generatorName data
    rw [hgenerator] at hn
    cases hn
    exact ⟨hdata, by simp [eq_comm]⟩

/-- Behind the transform of a loaded object there is no other transform. -/
theorem isBehind_withObject {j : Nat} (hj : s.nodes.size < j) {n : Node Single}
    (hn : (s.withObject name t shape).nodes[j]? = some n) : IsBehind s n := by
  cases shape with
  | empty =>
    have hlt := (Array.getElem?_eq_some_iff.1 hn).1
    rw [withObject, size_push] at hlt
    omega
  | sphere radius => exact isBehind_withGenerated (by simp [NodeData.kind]) hj hn
  | box d => exact isBehind_withGenerated (by simp [NodeData.kind]) hj hn
  | camera => exact isBehind_withShape (by simp [NodeData.kind]) hj hn
  | mesh m => exact isBehind_withShape (by simp [NodeData.kind]) hj hn

/-- Of the nodes of a new object only the transform has a property of some transforms. -/
theorem filter_order_withObject (h : s.WellFormed) (hname : name ≠ "") (hshape : shape.IsValid)
    {p : Node Single → Bool} (hp : ∀ n, n.kind ≠ .transform → p n = false)
    (htransform : ∀ cs, p ⟨s.freeName name, none, cs, none, .transform t⟩ = true) :
    (s.withObject name t shape).order.filter (fun i => ((s.withObject name t shape).nodes[i]?).any p) =
      s.order.filter (fun i => (s.nodes[i]?).any p) ++ [s.nodes.size] := by
  have hadded := h.flatChange (flatChange_withObject hname t hshape)
  obtain ⟨k, hk⟩ := Nat.exists_eq_add_of_lt (size_withObject s name t shape)
  obtain ⟨cs, hnew⟩ := getElem?_withObject_transform s name t shape
  rw [hadded.order, hk, Nat.add_assoc, List.range_add, List.filter_append, h.order]
  congr 1
  · -- the older nodes are what they were
    apply List.filter_congr
    intro i hi
    rw [getElem?_withObject_of_lt (List.mem_range.1 hi)]
  · -- behind the transform there is none
    rw [List.range_succ_eq_map, List.map_cons, Nat.add_zero, List.filter_cons_of_pos]
    · congr 1
      rw [List.filter_eq_nil_iff]
      intro j hj hmem
      obtain ⟨_, hbehind, rfl⟩ := List.mem_map.1 hj
      obtain ⟨i, -, rfl⟩ := List.mem_map.1 hbehind
      obtain ⟨n, hn, hpn⟩ := (Option.any_eq_true ..).1 hmem
      have hkind := (isBehind_withObject (by omega) hn).kind
      rw [hp n hkind] at hpn
      cases hpn
    · rw [hnew]
      exact htransform cs

/-! ### Placing -/

/-- An older transform is placed before or after an object is added. -/
theorem setTransform_withObject {i : Nat} (hi : i < s.nodes.size) (t' : Transform Single) :
    (s.withObject name t shape).setTransform i t' =
      (s.setTransform i t').withObject name t shape := by
  cases shape with
  | empty =>
    unfold withObject
    rw [setTransform_push hi, freeName_congr (names_setTransform ..)]
  | sphere radius => exact setTransform_withGenerated _ _ _ _ _ hi
  | box d => exact setTransform_withGenerated _ _ _ _ _ hi
  | camera => exact setTransform_withShape _ _ _ _ hi
  | mesh m => exact setTransform_withShape _ _ _ _ hi

/-- The transform of a new object is placed. -/
theorem setTransform_withObject_self (s : Scene Single) (name : String) (t t' : Transform Single)
    (shape : ObjectShape) :
    (s.withObject name t shape).setTransform s.nodes.size t' = s.withObject name t' shape := by
  cases shape with
  | empty => exact setTransform_push_self ..
  | sphere radius => exact setTransform_withGenerated_self ..
  | box d => exact setTransform_withGenerated_self ..
  | camera => exact setTransform_withShape_self ..
  | mesh m => exact setTransform_withShape_self ..

end Scene

namespace Snapshot

open Scene (FlatChange)

/-! ### Scenes of objects -/

/-- The scene of some objects, which were added in their order to the empty scene. -/
inductive Built : List SnapshotObject → Scene Single → Prop where
  | nil : Built [] .empty
  | snoc {os : List SnapshotObject} {s : Scene Single} (h : Built os s) {name : String}
    (hname : name ≠ "") (hfree : s.hasName name = false) (t : Transform Single) {shape : ObjectShape}
    (hshape : shape.IsValid) :
    Built (os ++ [⟨name, t, .given shape⟩]) (s.withObject name t shape)

namespace Built

variable {os : List SnapshotObject} {s : Scene Single}

/-- A scene that is built of objects is well-formed. -/
theorem wellFormed (h : Built os s) : s.WellFormed := by
  induction h with
  | nil => exact .empty
  | snoc _ hname _ t hshape ih => exact ih.flatChange (Scene.flatChange_withObject hname t hshape)

/-- One more object, under the name that is free for it. -/
theorem withObject (h : Built os s) {name : String} (hname : name ≠ "") (t : Transform Single)
    {shape : ObjectShape} (hshape : shape.IsValid) :
    ∃ os', Built os' (s.withObject name t shape) := by
  rw [← Scene.withObject_freeName]
  exact ⟨_, h.snoc (Scene.freeName_ne_empty s hname) (Scene.hasName_freeName s name) t hshape⟩

/-- A transform that is placed may as well have been added there. -/
theorem setTransform (h : Built os s) {i : Nat} {n : Node Single} (hn : s.nodes[i]? = some n)
    (hkind : n.kind = .transform) (t' : Transform Single) :
    ∃ os', Built os' (s.setTransform i t') := by
  induction h with
  | nil => simp [Scene.empty] at hn
  | @snoc os s h name hname hfree t shape hshape ih =>
    rcases Nat.lt_trichotomy i s.nodes.size with hi | hi | hi
    · -- an older object is placed, and this one is added after that
      rw [Scene.getElem?_withObject_of_lt hi] at hn
      obtain ⟨os', hos'⟩ := ih hn
      rw [Scene.setTransform_withObject hi]
      exact ⟨_, hos'.snoc hname hfree t hshape⟩
    · subst hi
      rw [Scene.setTransform_withObject_self]
      exact ⟨_, h.snoc hname hfree t' hshape⟩
    · exact absurd hkind (Scene.isBehind_withObject hi hn).kind

end Built

/-- The scene has objects only, side by side; it may have any file name, and any of its nodes may be
selected. -/
inductive IsFlat : Scene Single → Prop where
  | mk {os : List SnapshotObject} {s : Scene Single} (h : Built os s) (fileName : Option String)
    {selected : List Nat} (hselected : ∀ i ∈ selected, i < s.nodes.size) :
    IsFlat { s with fileName, selected }

namespace IsFlat

variable {s s' : Scene Single}

theorem empty : IsFlat .empty :=
  .mk .nil none (List.forall_mem_nil _)

/-- A loaded object keeps a scene flat. -/
private theorem withObject (h : IsFlat s) {name : String} (hname : name ≠ "") (t : Transform Single)
    (shape : ObjectShape) (hshape : shape.IsValid) : IsFlat (s.withObject name t shape) := by
  obtain ⟨hbuilt, fileName, hselected⟩ := h
  obtain ⟨os', hbuilt'⟩ := hbuilt.withObject hname t hshape
  rw [Scene.withObject_with]
  exact .mk hbuilt' fileName fun i hi => Nat.lt_trans (hselected i hi) (Scene.size_withObject ..)

/-- After a flat change there are still objects only. -/
theorem flatChange (h : IsFlat s) (hchange : FlatChange s s') : IsFlat s' := by
  cases hchange with
  | none => exact h
  | transform hname t => exact h.withObject hname t .empty trivial
  | sphere hname t radius => exact h.withObject hname t (.sphere radius) trivial
  | box hname t d => exact h.withObject hname t (.box d) trivial
  | camera hname t => exact h.withObject hname t .camera trivial
  | mesh hname t hm => exact h.withObject hname t (.mesh _) hm
  -- an object with another transform is an object all the same
  | @placed i n t hn ht t' =>
    obtain ⟨hbuilt, fileName, hselected⟩ := h
    obtain ⟨os', hbuilt'⟩ := hbuilt.setTransform hn (by rw [Node.kind, ht]; rfl) t'
    refine .mk hbuilt' fileName fun j hj => ?_
    rw [Scene.size_setTransform]
    exact hselected j hj
  | selected hplaces =>
    obtain ⟨hbuilt, fileName, -⟩ := h
    exact .mk hbuilt fileName hplaces
  | fileName name =>
    obtain ⟨hbuilt, -, hselected⟩ := h
    exact .mk hbuilt name hselected

/-- A flat scene is well-formed. -/
theorem wellFormed (h : IsFlat s) : s.WellFormed := by
  obtain ⟨hbuilt, fileName, hselected⟩ := h
  exact (hbuilt.wellFormed.withFileName fileName).withSelected hselected

/-- Flat changes keep a scene flat, one after another. -/
theorem flatChanges (h : IsFlat s) (hchanges : Relation.ReflTransGen FlatChange s s') : IsFlat s' := by
  induction hchanges with
  | refl => exact h
  | tail _ hchange ih => exact ih.flatChange hchange

end IsFlat

end Snapshot

end Scenery
