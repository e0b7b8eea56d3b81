import Scenery.Proofs.Scene.Changes

/-!
# When transforms are placed

Where a transform is placed does not depend on when: placing one and then adding other nodes comes to
the same as adding them first, and a transform that is placed may as well have been added there.

* `setTransform_push`, `setTransform_withShape`, `setTransform_withGenerated`   an older transform is
  placed before or after nodes are added
* `setTransform_push_self`, `setTransform_withShape_self`, `setTransform_withGenerated_self`   the new
  transform is placed
-/

namespace Scenery.Scene

variable {α : Type} {s : Scene α} {i : Nat}

/-! ### Arrays -/

/-- Changing an element of an array does not meet one that is added. -/
private theorem modify_push {β : Type} {xs : Array β} (hi : i < xs.size) (f : β → β) (x : β) :
    (xs.push x).modify i f = (xs.modify i f).push x := by
  apply Array.ext_getElem?
  intro j
  simp only [Array.getElem?_modify, Array.getElem?_push, Array.size_modify]
  split
  · split
    · omega
    · rfl
  · rfl

/-- An element may be changed before it is added. -/
private theorem modify_push_self {β : Type} (xs : Array β) (f : β → β) (x : β) :
    (xs.push x).modify xs.size f = xs.push (f x) := by
  apply Array.ext_getElem?
  intro j
  simp only [Array.getElem?_modify, Array.getElem?_push]
  by_cases hj : j = xs.size
  · simp [hj]
  · simp [hj, Ne.symm hj]

/-- Two changes of an array may be made in either order if the changes of an element may. -/
private theorem modify_comm {β : Type} (xs : Array β) (i j : Nat) {f g : β → β}
    (hfg : ∀ x, f (g x) = g (f x)) : (xs.modify i f).modify j g = (xs.modify j g).modify i f := by
  apply Array.ext_getElem?
  intro k
  simp only [Array.getElem?_modify]
  split <;> split <;> simp [hfg, Function.comp_def]

/-! ### Single nodes -/

@[simp] theorem size_setTransform (s : Scene α) (i : Nat) (t : Transform α) :
    (s.setTransform i t).nodes.size = s.nodes.size :=
  size_modifyNode ..

@[simp] theorem names_setTransform (s : Scene α) (i : Nat) (t : Transform α) :
    (s.setTransform i t).names = s.names := rfl

/-- An older transform is placed before or after a node is added. -/
theorem setTransform_push (hi : i < s.nodes.size) (t : Transform α) (name : String)
    (parent : Option Nat) (data : NodeData α) :
    (s.push name parent data).setTransform i t = (s.setTransform i t).push name parent data := by
  have hpush (n : Node α) := modify_push hi (fun n => { n with data := .transform t }) n
  cases parent with
  | none => simp only [push, setTransform, modifyNode, Array.size_modify, hpush]
  | some p =>
    simp only [push, setTransform, modifyNode, Array.size_modify]
    rw [modify_comm, hpush]
    -- the parent may be the transform itself, but then only its children change
    intro n
    rfl

/-- A transform is placed after it was added. -/
theorem setTransform_push_self (name : String) (t t' : Transform α) :
    (s.push name none (.transform t)).setTransform s.nodes.size t' =
      s.push name none (.transform t') := by
  simp only [push, setTransform, modifyNode, modify_push_self]

/-! ### Objects -/

/-- The names of a new shape and of its transform depend on the names in the scene only. -/
private theorem names_withShape_congr {s' : Scene α} (hnames : s'.names = s.names)
    (hsize : s'.nodes.size = s.nodes.size) (name : String) (t t' : Transform α)
    (shape : NodeData α) :
    (s'.withShape name t' shape).names = (s.withShape name t shape).names := by
  have hfirst (added : String) : (s'.push added none (.transform t')).names =
      (s.push added none (.transform t)).names := by
    rw [names_push, names_push, hnames, hsize]
  simp only [withShape, names_push, size_push, freeName_congr hnames, freeName_congr (hfirst _),
    hnames, hsize]

variable (name : String) (shape : NodeData α) (t t' : Transform α)

/-- An older transform is placed before or after a shape is added. -/
theorem setTransform_withShape (hi : i < s.nodes.size) :
    (s.withShape name t shape).setTransform i t' = (s.setTransform i t').withShape name t shape := by
  have hnames (added : String) : ((s.setTransform i t').push added none (.transform t)).names =
      (s.push added none (.transform t)).names := by
    rw [names_push, names_push, names_setTransform, size_setTransform]
  unfold withShape
  dsimp only
  rw [setTransform_push (by rw [size_push]; omega), setTransform_push hi, size_setTransform,
    freeName_congr (names_setTransform ..), freeName_congr (hnames _)]

/-- The transform of a new shape is placed. -/
theorem setTransform_withShape_self :
    (s.withShape name t shape).setTransform s.nodes.size t' = s.withShape name t' shape := by
  have hnames (added : String) : (s.push added none (.transform t')).names =
      (s.push added none (.transform t)).names := by
    rw [names_push, names_push]
  unfold withShape
  dsimp only
  rw [setTransform_push (by rw [size_push]; omega), setTransform_push_self,
    freeName_congr (hnames _)]

/-- What a generator feeds has nothing to do with where transforms are placed. -/
private theorem setTransform_connect (s : Scene α) (i g j : Nat) (t : Transform α) :
    (s.modifyNode g fun n => { n with output := some j }).setTransform i t =
      (s.setTransform i t).modifyNode g fun n => { n with output := some j } := by
  simp only [setTransform, modifyNode, Scene.mk.injEq, and_self, and_true]
  exact modify_comm _ _ _ fun _ => rfl

variable (generatorName : String) (data : NodeData α)

/-- An older transform is placed before or after a generated shape is added. -/
theorem setTransform_withGenerated (hi : i < s.nodes.size) :
    (s.withGenerated name t generatorName data).setTransform i t' =
      (s.setTransform i t').withGenerated name t generatorName data := by
  have hnames := names_withShape_congr (names_setTransform s i t') (size_setTransform s i t') name t t
    (.mesh .empty)
  unfold withGenerated
  dsimp only
  rw [setTransform_connect, setTransform_push (by rw [size_withShape]; omega),
    setTransform_withShape _ _ _ _ hi, size_setTransform, nextName_congr hnames]

/-- The transform of a new generated shape is placed. -/
theorem setTransform_withGenerated_self :
    (s.withGenerated name t generatorName data).setTransform s.nodes.size t' =
      s.withGenerated name t' generatorName data := by
  have hnames := names_withShape_congr (rfl : s.names = s.names) rfl name t t' (.mesh .empty)
  unfold withGenerated
  dsimp only
  rw [setTransform_connect, setTransform_push (by rw [size_withShape]; omega),
    setTransform_withShape_self, nextName_congr hnames]

end Scenery.Scene
