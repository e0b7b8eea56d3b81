import Scenery.Files.Table
import Scenery.Proofs.Snapshot.Loading

/-!
# Objects under their own names

The objects of a snapshot keep their names when it is loaded, and are selected by them, as long as no
shape and no generator takes the name of an object first.

* `KeepsNames`           the transforms have the names of the objects
* `keepsIdentity_iff`    when the objects of a snapshot are found again under their names
-/

namespace Scenery.Snapshot

variable {fileName : Option String} {os : List SnapshotObject} {s : Scene Single}

/-- The transforms of a scene have the names of some objects, in their order. -/
def KeepsNames (os : List SnapshotObject) (s : Scene Single) : Prop :=
  List.Forall₂ (fun i o => s.name i = .ok o.name) (s.nodesOfKind .transform) os

/-- No shape and no generator has the name of an object. -/
def NamesTransforms (os : List SnapshotObject) (s : Scene Single) : Prop :=
  ∀ n ∈ s.nodes, ∀ o ∈ os, n.name = o.name → n.kind = .transform

instance (os : List SnapshotObject) (s : Scene Single) : Decidable (NamesTransforms os s) :=
  inferInstanceAs (Decidable (∀ n ∈ s.nodes, ∀ o ∈ os, n.name = o.name → n.kind = .transform))

/-- What has the name of an object is the transform of the object. -/
private theorem KeepsNames.namesTransforms (h : KeepsNames os s) (hs : s.WellFormed) :
    NamesTransforms os s := by
  intro n hn o ho hname
  obtain ⟨i, hi, rfl⟩ := Array.mem_iff_getElem.1 hn
  have hnode : s.nodes[i]? = some s.nodes[i] := Array.getElem?_eq_getElem hi
  obtain ⟨j, hj, hjname⟩ := exists_mem_of_forall₂ h.flip ho
  rw [(hs.lists_nodesOfKind .transform).mem,
    ← hs.name_inj (Scene.name_eq_ok.2 ⟨i, _, rfl, hnode, hname⟩) hjname, Scene.kind?,
    Scene.node?_ofPlace, hnode] at hj
  exact Option.some.inj hj

/-- Each object keeps its name, if it is not one that a shape or a generator has. -/
private theorem Loaded.keepsNames (h : Loaded fileName os s)
    (hnodup : (os.map SnapshotObject.name).Nodup) (hnames : NamesTransforms os s) : KeepsNames os s := by
  induction h with
  | nil => exact .nil
  | @snoc os s h o hname shape hgives hshape ih =>
    have hwell := h.wellFormed
    rw [List.map_append, List.nodup_append] at hnodup
    obtain ⟨hnodup, -, hdistinct⟩ := hnodup
    -- the older nodes are in the larger scene too
    have holder {i : Nat} {n : Node Single} (hn : s.nodes[i]? = some n) :
        n ∈ (s.withObject o.name o.transform shape).nodes := by
      refine Array.mem_of_getElem? (i := i) ?_
      rw [Scene.getElem?_withObject_of_lt (Array.getElem?_eq_some_iff.1 hn).1, hn]
    have hkept : KeepsNames os s := by
      refine ih hnodup fun n hn o' ho' => ?_
      obtain ⟨i, hi⟩ := Array.getElem?_of_mem hn
      exact hnames n (holder hi) o' (List.mem_append_left _ ho')
    -- a node with the name of the new object would be the transform of an older one
    have hfree : s.hasName o.name = false := by
      rw [← Bool.not_eq_true, hwell.hasName_iff]
      rintro ⟨_, hname⟩
      obtain ⟨i, n, rfl, hn, hname'⟩ := Scene.name_eq_ok.1 hname
      have hkind := hnames n (holder hn) o (by simp) hname'
      have hmem := ((hwell.lists_nodesOfKind .transform).mem _).2
        (Scene.kind?_eq_some.2 ⟨i, n, rfl, hn, hkind⟩)
      obtain ⟨o', ho', hi⟩ := exists_mem_of_forall₂ hkept hmem
      exact hdistinct _ (List.mem_map_of_mem ho') o.name (by simp) (Except.ok.inj (hi.symm.trans hname))
    unfold KeepsNames
    rw [transforms_withObject hwell hname hshape]
    refine List.rel_append (hkept.imp fun i o' hi => name_withObject hi o shape) (.cons ?_ .nil)
    rw [name_withObject_size, Scene.freeName_of_not_hasName hfree]

/-- The objects of a snapshot are found again in a scene under their names: these are the names of their
transforms, and where an object's name stands in the selection, its transform is selected. -/
structure KeepsIdentity (snapshot : Snapshot) (s : Scene Single) : Prop where
  names : KeepsNames snapshot.objects s
  selection : ∀ (k i : Nat) (o : SnapshotObject), snapshot.objects[i]? = some o →
    snapshot.selection[k]? = some o.name → s.selection[k]? = (s.nodesOfKind .transform)[i]?

/-- Objects that keep their names are selected by them. -/
private theorem keepsIdentity_iff_keepsNames {snapshot : Snapshot} (hs : s.WellFormed) {places : List Nat}
    (hplaces : ∀ i ∈ places, i < s.nodes.size) (hselected : AreNames s places snapshot.selection) :
    KeepsIdentity snapshot { s with selected := places } ↔ KeepsNames snapshot.objects s := by
  refine ⟨KeepsIdentity.names, fun h => ⟨h, fun k i o ho hk => ?_⟩⟩
  obtain ⟨t, ht, hname⟩ := exists_getElem?_of_forall₂ h.flip ho
  obtain ⟨p, hp, hname'⟩ := exists_getElem?_of_forall₂ hselected.flip hk
  rw [selection_withSelected hplaces, List.getElem?_map, hp, Option.map_some, hs.name_inj hname' hname]
  exact ht.symm

/-- A snapshot whose objects have different names is loaded with one transform for each object.  The
objects are found again under their names exactly if no shape and no generator got the name of one. -/
theorem keepsIdentity_iff {base : String} {snapshot : Snapshot} {files : FileTable} {s : Scene Single}
    (hnodup : (snapshot.objects.map SnapshotObject.name).Nodup)
    (hrun : ((toScene base snapshot : StateT FileTable Id (Except Failure (Scene Single))).run files).1 =
      .ok s) :
    (s.nodesOfKind .transform).length = snapshot.objects.length ∧
      (KeepsIdentity snapshot s ↔ NamesTransforms snapshot.objects s) := by
  obtain ⟨built, places, hbuilt, hplaces, hselected, rfl⟩ := exists_loaded hrun
  refine ⟨hbuilt.length_transforms, ?_⟩
  rw [keepsIdentity_iff_keepsNames hbuilt.wellFormed hplaces hselected]
  exact ⟨fun h => h.namesTransforms hbuilt.wellFormed, hbuilt.keepsNames hnodup⟩

/-- A sphere and an object without a shape; the latter is selected. -/
def sphereAndEmpty (name : String) : Snapshot where
  fileName := none
  objects := [⟨"a", Transform.identity, .given (.sphere 1)⟩, ⟨name, Transform.identity, .given .empty⟩]
  selection := [name]

/-- The nodes of both objects, one of which is selected. -/
def sphereAndEmptyScene (name : String) (selected : Nat) : Scene Single :=
  { (Scene.empty.withObject "a" Transform.identity (.sphere 1)).withObject name Transform.identity .empty
    with selected := [selected] }

/-- With a name that has nothing to do with the sphere the second object is found again. -/
theorem keepsIdentity_sphereAndEmpty :
    ((sphereAndEmpty "b").objects.map SnapshotObject.name).Nodup ∧
    ((toScene "." (sphereAndEmpty "b") :
      StateT FileTable Id (Except Failure (Scene Single))).run .empty).1 =
        .ok (sphereAndEmptyScene "b" 3) ∧
    KeepsIdentity (sphereAndEmpty "b") (sphereAndEmptyScene "b" 3) := by
  have hrun : ((toScene "." (sphereAndEmpty "b") :
      StateT FileTable Id (Except Failure (Scene Single))).run .empty).1 =
        .ok (sphereAndEmptyScene "b" 3) := by decide
  exact ⟨by decide, hrun, (keepsIdentity_iff (by decide) hrun).2.2 (by decide)⟩

/-- The mesh of a sphere can take the name of the second object, which gets another one; and it is the
mesh that is selected. -/
theorem not_keepsIdentity_shapeName :
    ((sphereAndEmpty "aShape").objects.map SnapshotObject.name).Nodup ∧
    (∀ o ∈ (sphereAndEmpty "aShape").objects, o.name ≠ "") ∧
    ((toScene "." (sphereAndEmpty "aShape") :
      StateT FileTable Id (Except Failure (Scene Single))).run .empty).1 =
        .ok (sphereAndEmptyScene "aShape" 1) ∧
    (sphereAndEmptyScene "aShape" 1).name (Handle.ofPlace 3) = .ok "aShape1" ∧
    (sphereAndEmptyScene "aShape" 1).kind? (Handle.ofPlace 1) = some .mesh ∧
    ¬KeepsIdentity (sphereAndEmpty "aShape") (sphereAndEmptyScene "aShape" 1) := by
  refine ⟨by decide, by decide, by decide, by decide, by decide, fun h => ?_⟩
  have hselection := h.selection 0 1 _ rfl rfl
  revert hselection
  decide

end Scenery.Snapshot
