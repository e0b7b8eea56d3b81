import Scenery.Files.Table
import Scenery.Proofs.Snapshot.Loading

/-!
# Scenes that are saved and loaded

Every scene has a snapshot, whatever its nodes are linked to.  The objects of the snapshot can always be
added again; but they are made of the transforms at the top only, while any node may be selected.  So
loading fails if a selected node has a name that no node of the objects gets.

* `exists_captureShape`   every transform has a shape that can be added again
* `exists_ofScene`        every scene has a snapshot
* `restore_ofCalls`       the snapshots that can be loaded
-/

namespace Scenery.Snapshot

variable {s : Scene Single}

/-! ### Capturing -/

/-- The shape of a mesh is always captured, and is valid. -/
private theorem exists_captureMesh (h : s.WellFormed) {mesh : Handle} (hmesh : s.kind? mesh = some .mesh) :
    ∃ shape, captureMesh s mesh = .ok shape ∧ shape.IsValid := by
  unfold captureMesh
  cases hfind : generatorOf? s mesh with
  | none =>
    obtain ⟨m, hm⟩ := Scene.kind?_eq_mesh.1 hmesh
    obtain ⟨i, n, -, hn, hdata⟩ := Scene.mesh_eq_ok.1 hm
    exact ⟨.mesh m, map_eq_ok.2 ⟨m, hm, rfl⟩, h.mesh_valid i n m hn hdata⟩
  | some g =>
    dsimp only
    split
    · rename_i hsphere
      obtain ⟨r, hr⟩ := Scene.kind?_eq_sphere.1 hsphere
      exact ⟨.sphere r, map_eq_ok.2 ⟨r, hr, rfl⟩, trivial⟩
    · -- a generator that is no sphere is a box
      rename_i hsphere
      have hmem : g ∈ s.nodesOfKind .sphere ++ s.nodesOfKind .box := List.mem_of_find?_eq_some hfind
      rw [List.mem_append, (h.lists_nodesOfKind .sphere).mem, (h.lists_nodesOfKind .box).mem] at hmem
      obtain ⟨d, hd⟩ := Scene.kind?_eq_box.1 (hmem.resolve_left hsphere)
      exact ⟨.box d, map_eq_ok.2 ⟨d, hd, rfl⟩, trivial⟩

/-- The shape of a transform is always captured, and is valid. -/
theorem exists_captureShape (h : s.WellFormed) (transform : Handle) :
    ∃ shape, captureShape s transform = .ok shape ∧ shape.IsValid := by
  unfold captureShape
  split
  · exact ⟨.empty, rfl, trivial⟩
  · split
    · exact ⟨.camera, rfl, trivial⟩
    · rename_i hmesh
      exact exists_captureMesh h hmesh
    · exact ⟨.empty, rfl, trivial⟩

/-- A transform is always captured as an object that can be added. -/
private theorem exists_captureObject (h : s.WellFormed) {root : Handle}
    (hroot : s.kind? root = some .transform) :
    ∃ o, captureObject s root = .ok o ∧ s.name root = .ok o.name ∧ IsAddable o := by
  obtain ⟨i, n, rfl, hn, -⟩ := Scene.kind?_eq_some.1 hroot
  obtain ⟨t, ht⟩ := Scene.kind?_eq_transform.1 hroot
  obtain ⟨shape, hshape, hvalid⟩ := exists_captureShape h (Handle.ofPlace i)
  have hname : s.name (Handle.ofPlace i) = .ok n.name := Scene.name_eq_ok.2 ⟨i, n, rfl, hn, rfl⟩
  refine ⟨⟨n.name, t, .given shape⟩, ?_, hname, h.named i n hn, shape, rfl, hvalid⟩
  unfold captureObject
  rw [ht, hname, hshape]
  rfl

/-- The snapshot has an object for each transform at the top and the name of each selected node, and its
objects can be added again. -/
structure IsSnapshot (s : Scene Single) (snapshot : Snapshot) : Prop where
  objects : List.Forall₂ (fun root o => s.name root = .ok o.name)
    (s.roots.filter (s.kind? · = some .transform)) snapshot.objects
  addable : ∀ o ∈ snapshot.objects, IsAddable o
  selection : List.Forall₂ (fun i name => s.name i = .ok name) s.selection snapshot.selection

/-- Every scene has a snapshot. -/
theorem exists_ofScene (h : s.WellFormed) : ∃ snapshot, ofScene s = .ok snapshot ∧ IsSnapshot s snapshot := by
  obtain ⟨objects, hobjects⟩ : ∃ objects, List.Forall₂
      (fun root o => captureObject s root = .ok o ∧ s.name root = .ok o.name ∧ IsAddable o)
      (s.roots.filter (s.kind? · = some .transform)) objects :=
    exists_forall₂.2 fun root hroot =>
      exists_captureObject h (of_decide_eq_true (List.mem_filter.1 hroot).2)
  obtain ⟨selection, hselection⟩ : ∃ selection,
      List.Forall₂ (fun i name => s.name i = .ok name) s.selection selection := by
    refine exists_forall₂.2 fun i hi => ?_
    obtain ⟨j, hj, rfl⟩ := List.mem_map.1 hi
    have hlt : j < s.nodes.size := of_decide_eq_true (List.mem_filter.1 hj).2
    exact ⟨_, Scene.name_eq_ok.2 ⟨j, _, rfl, Array.getElem?_eq_getElem hlt, rfl⟩⟩
  refine ⟨⟨s.savedName?, objects, selection⟩, ?_, hobjects.imp fun _ _ ho => ho.2.1, fun o ho => ?_,
    hselection⟩
  · unfold ofScene
    simp only [bind_eq_ok, mapM_eq_ok]
    exact ⟨objects, hobjects.imp fun _ _ ho => ho.1, selection, hselection, rfl⟩
  · obtain ⟨root, -, -, -, haddable⟩ := exists_mem_of_forall₂ hobjects.flip ho
    exact haddable

/-! ### Restoring -/

/-- The objects of a snapshot are added again, and then the selection decides. -/
private theorem IsSnapshot.toScene {snapshot : Snapshot} (h : IsSnapshot s snapshot) :
    ∃ built, Loaded snapshot.fileName snapshot.objects built ∧
      ∀ (m : Type → Type) [Monad m] [LawfulMonad m] [MonadFiles m] (base : String),
        (Snapshot.toScene base snapshot : m (Except Failure (Scene Single))) =
          pure (((selectNames snapshot.selection).run built).1.map
            fun _ => ((selectNames snapshot.selection).run built).2) := by
  have hempty : Loaded snapshot.fileName [] { Scene.empty with fileName := snapshot.fileName } := .nil
  obtain ⟨built, hbuilt, hadded⟩ := hempty.addObjects h.addable
  rw [List.nil_append] at hbuilt
  refine ⟨built, hbuilt, fun m _ _ _ base => ?_⟩
  unfold Snapshot.toScene
  simp only [hadded, pure_bind]
  rcases (selectNames snapshot.selection).run built with ⟨_ | _, s'⟩ <;> rfl

/-- A selected transform at the top has the name of an object. -/
private theorem IsSnapshot.hasName {snapshot : Snapshot} (h : IsSnapshot s snapshot) {built : Scene Single}
    (hbuilt : Loaded snapshot.fileName snapshot.objects built)
    (htop : ∀ i ∈ s.selection, i ∈ s.roots ∧ s.kind? i = some .transform) :
    ∀ name ∈ snapshot.selection, built.hasName name = true := by
  intro name hname
  obtain ⟨i, hi, hiname⟩ := exists_mem_of_forall₂ h.selection.flip hname
  obtain ⟨hroot, hkind⟩ := htop i hi
  obtain ⟨o, ho, honame⟩ := exists_mem_of_forall₂ h.objects
    (List.mem_filter.2 ⟨hroot, decide_eq_true hkind⟩)
  obtain rfl : o.name = name := Except.ok.inj (honame.symm.trans hiname)
  exact hbuilt.hasName ho

/-- Every scene that arises has a snapshot, and the objects of the snapshot can be added again, wherever
it lies.  It can be loaded exactly if each selected name is that of a node then, and if not, such a name is
to blame; so it can be loaded if only transforms at the top are selected. -/
theorem restore_ofCalls (calls : List (Scene.Call Single)) :
    ∃ snapshot built result, ofScene (Scene.ofCalls calls) = .ok snapshot ∧
      Loaded snapshot.fileName snapshot.objects built ∧
      (∀ (m : Type → Type) [Monad m] [LawfulMonad m] [MonadFiles m] (base : String),
        (toScene base snapshot : m (Except Failure (Scene Single))) = pure result) ∧
      ((∃ s', result = .ok s') ↔ ∀ name ∈ snapshot.selection, built.hasName name = true) ∧
      (∀ e, result = .error e → ∃ name ∈ snapshot.selection, built.hasName name = false ∧
        e = .selection (.unknownObject name)) ∧
      ((∀ i ∈ (Scene.ofCalls calls).selection, i ∈ (Scene.ofCalls calls).roots ∧
        (Scene.ofCalls calls).kind? i = some .transform) → ∃ s', result = .ok s') := by
  obtain ⟨snapshot, hcapture, hsnapshot⟩ := exists_ofScene (Scene.wellFormed_ofCalls calls)
  obtain ⟨built, hbuilt, hload⟩ := hsnapshot.toScene
  refine ⟨snapshot, built, _, hcapture, hbuilt, hload, ?_⟩
  -- objects keep the names of their transforms, which is all that a selection of them needs
  have htop := hsnapshot.hasName hbuilt
  rcases selectNames_cases hbuilt.wellFormed snapshot.selection with
    ⟨name, hname, hmissing, hselect⟩ | ⟨places, hplaces, hnames, hselect⟩
  · have hnot : ¬∀ name ∈ snapshot.selection, built.hasName name = true := by
      intro hall
      rw [hall name hname] at hmissing
      cases hmissing
    rw [hselect]
    refine ⟨iff_of_false (fun ⟨_, h⟩ => nomatch h) hnot, ?_, fun h => absurd (htop h) hnot⟩
    rintro _ ⟨⟩
    exact ⟨name, hname, hmissing, rfl⟩
  · -- the selected places have the selected names
    have hall : ∀ name ∈ snapshot.selection, built.hasName name = true := by
      intro name hname
      obtain ⟨i, -, hi⟩ := exists_mem_of_forall₂ hnames.flip hname
      exact hbuilt.wellFormed.hasName_iff.2 ⟨_, hi⟩
    rw [hselect]
    exact ⟨iff_of_true ⟨_, rfl⟩ hall, fun _ => nofun, fun _ => ⟨_, rfl⟩⟩

/-- A transform below another one, which is selected. -/
def childSelected : List (Scene.Call Single) :=
  [.addTransform "g" none Transform.identity,
    .addTransform "child" (some (Handle.ofPlace 0)) Transform.identity, .select (Handle.ofPlace 1)]

/-- The snapshot of a scene in which a transform below another one is selected cannot be loaded. -/
theorem not_restore_childSelected :
    ∃ snapshot, ofScene (Scene.ofCalls childSelected) = .ok snapshot ∧
      ∀ base files, ((toScene base snapshot :
        StateT FileTable Id (Except Failure (Scene Single))).run files).1 =
          .error (.selection (.unknownObject "child")) := by
  refine ⟨⟨none, [⟨"g", Transform.identity, .given .empty⟩], ["child"]⟩, by decide, ?_⟩
  intro base files
  rfl

end Scenery.Snapshot
