import Scenery.Proofs.Files.Lawful
import Scenery.Proofs.Scene.Frame
import Scenery.Proofs.Scene.Hierarchy
import Scenery.Proofs.Snapshot.Objects

/-!
# Scenes that are loaded

A snapshot is loaded object by object.  An object whose name a node of the scene has by then gets another
one, and that node need not be an object: shapes and generators have names too.

* `Loaded`               the scene of some objects, under whatever names they got
* `addObject_eq_ok`      the objects that can be added
* `Loaded.of_addObjects` the objects that are loaded, whatever is in the files
* `selectNames_cases`    the selection, or the name that is to blame
* `exists_loaded`        the scene that is loaded
-/

namespace Scenery

/-- The shape comes from the source: it is the one that is given, or a mesh. -/
inductive ShapeSource.Gives : ShapeSource → ObjectShape → Prop where
  | given (shape : ObjectShape) : Gives (.given shape) shape
  | wavefront (path : String) (m : Mesh Single) : Gives (.wavefront path) (.mesh m)

namespace Snapshot

variable {fileName : Option String} {os : List SnapshotObject} {s s' : Scene Single}

/-! ### Scenes of objects -/

/-- The scene of some objects, which were added in their order. -/
inductive Loaded (fileName : Option String) : List SnapshotObject → Scene Single → Prop where
  | nil : Loaded fileName [] { Scene.empty with fileName }
  | snoc {os : List SnapshotObject} {s : Scene Single} (h : Loaded fileName os s) {o : SnapshotObject}
    (hname : o.name ≠ "") {shape : ObjectShape} (hgives : o.shape.Gives shape) (hshape : shape.IsValid) :
    Loaded fileName (os ++ [o]) (s.withObject o.name o.transform shape)

namespace Loaded

theorem wellFormed (h : Loaded fileName os s) : s.WellFormed := by
  induction h with
  | nil => exact Scene.WellFormed.empty.withFileName fileName
  | snoc _ hname _ hshape ih => exact ih.flatChange (Scene.flatChange_withObject hname _ hshape)

end Loaded

/-- A loaded object leaves the old nodes. -/
theorem extends_withObject (s : Scene Single) (o : SnapshotObject) (shape : ObjectShape) :
    (s.withObject o.name o.transform shape).Extends s :=
  fun _ hi => Scene.getElem?_withObject_of_lt hi

/-- An object comes with one transform. -/
theorem transforms_withObject (h : s.WellFormed) {o : SnapshotObject} (hname : o.name ≠ "")
    {shape : ObjectShape} (hshape : shape.IsValid) :
    (s.withObject o.name o.transform shape).nodesOfKind .transform =
      s.nodesOfKind .transform ++ [Handle.ofPlace s.nodes.size] := by
  unfold Scene.nodesOfKind Scene.handlesWhere
  rw [Scene.filter_order_withObject h hname hshape (fun n hn => beq_false_of_ne hn) fun _ => rfl,
    List.map_append]
  rfl

/-- There is one transform for each object. -/
theorem Loaded.length_transforms (h : Loaded fileName os s) :
    (s.nodesOfKind .transform).length = os.length := by
  induction h with
  | nil => rfl
  | snoc h hname hgives hshape ih =>
    rw [transforms_withObject h.wellFormed hname hshape, List.length_append, List.length_append, ih]
    rfl

/-! ### Names -/

/-- A loaded object leaves the names of the old nodes. -/
theorem name_withObject {i : Handle} {name : String} (hi : s.name i = .ok name)
    (o : SnapshotObject) (shape : ObjectShape) :
    (s.withObject o.name o.transform shape).name i = .ok name := by
  obtain ⟨j, n, rfl, hn, hname⟩ := Scene.name_eq_ok.1 hi
  rw [(extends_withObject s o shape).name (Array.getElem?_eq_some_iff.1 hn).1, hi]

/-- The transform of a new object has the name that is free. -/
theorem name_withObject_size (s : Scene Single) (o : SnapshotObject) (shape : ObjectShape) :
    (s.withObject o.name o.transform shape).name (Handle.ofPlace s.nodes.size) =
      .ok (s.freeName o.name) := by
  obtain ⟨cs, hn⟩ := Scene.getElem?_withObject_transform s o.name o.transform shape
  exact Scene.name_eq_ok.2 ⟨_, _, rfl, hn, rfl⟩

/-- Each object's name is the name of some node, be it another one that took the name before. -/
theorem Loaded.hasName (h : Loaded fileName os s) {o : SnapshotObject} (ho : o ∈ os) :
    s.hasName o.name = true := by
  induction h with
  | nil => cases ho
  | @snoc os s h last hname shape hgives hshape ih =>
    have hadded := (h.snoc hname hgives hshape).wellFormed
    rw [hadded.hasName_iff]
    have hkept (hold : s.hasName o.name = true) :
        ∃ i, (s.withObject last.name last.transform shape).name i = .ok o.name := by
      obtain ⟨i, hi⟩ := h.wellFormed.hasName_iff.1 hold
      exact ⟨i, name_withObject hi last shape⟩
    rcases List.mem_append.1 ho with ho | ho
    · exact hkept (ih ho)
    · obtain rfl := List.mem_singleton.1 ho
      cases htaken : s.hasName o.name with
      | true => exact hkept htaken
      | false =>
        refine ⟨_, (name_withObject_size s o shape).trans ?_⟩
        rw [Scene.freeName_of_not_hasName htaken]

/-! ### Loading -/

/-- A step that fails does not succeed when its result is dropped. -/
private theorem not_run_discard {β : Type} {e : Edit Single β} {f : Failure} {s₁ : Scene Single}
    (he : e.run s = (.error f, s₁)) (hrun : (discard e).run s = (.ok (), s')) : False := by
  have herror := (Scene.run_map_error he fun _ => ()).symm.trans hrun
  cases herror

/-- An object with a name and a valid shape is added. -/
theorem run_addObject {name : String} (hname : name ≠ "") (t : Transform Single)
    {shape : ObjectShape} (hshape : shape.IsValid) (s : Scene Single) :
    (addObject name t shape).run s = (.ok (), s.withObject name t shape) := by
  cases shape with
  | empty => exact Scene.run_map_ok (Scene.run_insert_root hname) _
  | sphere radius => exact Scene.run_map_ok (Scene.run_addGenerated hname "polySphere") _
  | box d => exact Scene.run_map_ok (Scene.run_addGenerated hname "polyCube") _
  | camera => exact Scene.run_map_ok (Scene.run_addCamera hname) _
  | mesh m => exact Scene.run_map_ok (Scene.run_addMesh hname hshape) _

/-- An object can be added exactly if it has a name and its mesh, if it has one of its own, is valid. -/
theorem addObject_eq_ok {name : String} {t : Transform Single} {shape : ObjectShape} :
    (addObject name t shape).run s = (.ok (), s') ↔
      name ≠ "" ∧ shape.IsValid ∧ s' = s.withObject name t shape := by
  constructor
  · intro hrun
    -- with an empty name, or with a mesh that is not valid, adding fails
    have hvalid : name ≠ "" ∧ shape.IsValid := by
      cases shape with
      | empty =>
        refine ⟨?_, trivial⟩
        rintro rfl
        exact not_run_discard (Scene.run_insert_empty none (.transform t) s) hrun
      | sphere radius =>
        rcases Scene.addGenerated_cases name t "polySphere" (.sphere radius) s with ⟨e, he⟩ | ⟨hname, -⟩
        · exact (not_run_discard he hrun).elim
        · exact ⟨hname, trivial⟩
      | box d =>
        rcases Scene.addGenerated_cases name t "polyCube" (.box d) s with ⟨e, he⟩ | ⟨hname, -⟩
        · exact (not_run_discard he hrun).elim
        · exact ⟨hname, trivial⟩
      | camera =>
        rcases Scene.addCamera_cases name t s with ⟨e, he⟩ | ⟨hname, -⟩
        · exact (not_run_discard he hrun).elim
        · exact ⟨hname, trivial⟩
      | mesh m =>
        rcases Scene.addMesh_cases name t m s with ⟨e, he⟩ | ⟨hname, hm, -⟩
        · exact (not_run_discard he hrun).elim
        · exact ⟨hname, hm⟩
    rw [run_addObject hvalid.1 t hvalid.2] at hrun
    exact ⟨hvalid.1, hvalid.2, (Prod.ext_iff.1 hrun).2.symm⟩
  · rintro ⟨hname, hshape, rfl⟩
    exact run_addObject hname t hshape s

/-- The object has a name and a valid shape of its own. -/
def IsAddable (o : SnapshotObject) : Prop :=
  o.name ≠ "" ∧ ∃ shape, o.shape = .given shape ∧ shape.IsValid

/-- Objects with names and valid shapes of their own are added without a look at any file. -/
theorem Loaded.addObjects (h : Loaded fileName os s) {more : List SnapshotObject}
    (hmore : ∀ o ∈ more, IsAddable o) :
    ∃ s', Loaded fileName (os ++ more) s' ∧
      ∀ (m : Type → Type) [Monad m] [LawfulMonad m] [MonadFiles m] (base : String),
        (Snapshot.addObjects base s more : m (Except Failure (Scene Single))) = pure (.ok s') := by
  induction more generalizing os s with
  | nil =>
    rw [List.append_nil]
    exact ⟨s, h, fun m _ _ _ base => rfl⟩
  | cons o more ih =>
    obtain ⟨⟨hname, shape, hgiven, hshape⟩, hmore⟩ := List.forall_mem_cons.1 hmore
    have hgives : o.shape.Gives shape := hgiven ▸ .given shape
    obtain ⟨s', hs', hrun⟩ := ih (h.snoc hname hgives hshape) hmore
    rw [List.append_assoc, List.singleton_append] at hs'
    refine ⟨s', hs', fun m _ _ _ base => ?_⟩
    unfold Snapshot.addObjects
    simp only [hgiven, resolveShape, pure_bind, run_addObject hname o.transform hshape, hrun]

section

variable {σ : Type} [MonadFiles (StateT σ Id)]

/-- A source gives its shape, or a mesh that the files have. -/
private theorem gives_of_resolveShape {base : String} {source : ShapeSource} {shape : ObjectShape} {files : σ}
    (hrun : ((resolveShape base source : StateT σ Id (Except Failure ObjectShape)).run files).1 =
      .ok shape) : source.Gives shape := by
  cases source with
  | given shape =>
    cases hrun
    exact .given shape
  | wavefront path =>
    unfold resolveShape at hrun
    dsimp only at hrun
    rw [run_bind_state] at hrun
    generalize ((Wavefront.load (String.ofList (Path.join base.toList path.toList)) :
      StateT σ Id (Except Wavefront.Error (Mesh Single))).run files) = loaded at hrun
    obtain ⟨_ | mesh, files₁⟩ := loaded
    · cases hrun
    · cases hrun
      exact .wavefront path mesh

/-- What is loaded is a scene of the objects, whatever is in the files. -/
theorem Loaded.of_addObjects (h : Loaded fileName os s) {base : String} {more : List SnapshotObject}
    {files : σ} (hrun : ((Snapshot.addObjects base s more :
      StateT σ Id (Except Failure (Scene Single))).run files).1 = .ok s') :
    Loaded fileName (os ++ more) s' := by
  induction more generalizing os s files with
  | nil =>
    cases hrun
    rwa [List.append_nil]
  | cons o more ih =>
    unfold Snapshot.addObjects at hrun
    rw [run_bind_state] at hrun
    cases hresolved : ((resolveShape base o.shape :
        StateT σ Id (Except Failure ObjectShape)).run files).1 with
    -- a shape that cannot be resolved ends the loading
    | error e =>
      rw [hresolved] at hrun
      cases hrun
    | ok shape =>
      rw [hresolved] at hrun
      dsimp only at hrun
      rcases hadd : (Snapshot.addObject o.name o.transform shape).run s with ⟨_ | _, s₁⟩
      · rw [hadd] at hrun
        cases hrun
      · rw [hadd] at hrun
        obtain ⟨hname, hshape, rfl⟩ := addObject_eq_ok.1 hadd
        have hall := ih (h.snoc hname (gives_of_resolveShape hresolved) hshape) hrun
        rwa [List.append_assoc] at hall

end

/-! ### Selecting -/

/-- The names of the nodes at some places. -/
def AreNames (s : Scene Single) : List Nat → List String → Prop :=
  List.Forall₂ fun i name => s.name (Handle.ofPlace i) = .ok name

/-- The names of selected nodes are found again. -/
theorem run_selectNames (h : s.WellFormed) {places : List Nat} {names : List String}
    (hplaces : ∀ i ∈ places, i < s.nodes.size) (hnames : AreNames s places names) :
    (selectNames names).run s = (.ok (), { s with selected := places }) := by
  -- no two nodes have one name, so each name leads back to its node
  have hfound : names.mapM (selectedNode s) = .ok (places.map Handle.ofPlace) := by
    rw [mapM_eq_ok, List.forall₂_map_right_iff]
    refine (List.Forall₂.imp ?_ hnames).flip
    intro i name hname
    show selectedNode s name = _
    rw [selectedNode, (h.find?_iff name _).2 hname]
  unfold selectNames
  rw [Scene.run_bind, Scene.run_query, hfound]
  exact Scene.run_setSelection hplaces

/-- The selected nodes are those at the places that are kept. -/
theorem selection_withSelected {places : List Nat} (hplaces : ∀ i ∈ places, i < s.nodes.size)
    (fileName : Option String) :
    Scene.selection { s with fileName, selected := places } = places.map Handle.ofPlace := by
  unfold Scene.selection
  rw [List.filter_eq_self.2]
  intro i hi
  exact decide_eq_true (hplaces i hi)

/-- A selected name is looked up among all nodes of the scene. -/
private theorem selectedNode_eq_ok (h : s.WellFormed) {name : String} {i : Handle} :
    selectedNode s name = .ok i ↔ s.name i = .ok name := by
  rw [← h.find?_iff, selectedNode]
  cases s.find? name <;> simp

/-- A selected name is refused exactly if no node has it. -/
private theorem selectedNode_eq_error {name : String} {e : Failure} :
    selectedNode s name = .error e ↔
      s.hasName name = false ∧ e = .selection (.unknownObject name) := by
  unfold selectedNode Scene.hasName Scene.find?
  cases s.names.lookup name <;> simp [eq_comm]

/-- The nodes with some names are selected, or one of the names is to blame. -/
theorem selectNames_cases (h : s.WellFormed) (names : List String) :
    (∃ name ∈ names, s.hasName name = false ∧
      (selectNames names).run s = (.error (.selection (.unknownObject name)), s)) ∨
    ∃ places, (∀ i ∈ places, i < s.nodes.size) ∧ AreNames s places names ∧
      (selectNames names).run s = (.ok (), { s with selected := places }) := by
  cases hnodes : names.mapM (selectedNode s) with
  -- the first name without a node stops the selection
  | error e =>
    obtain ⟨name, hmem, he⟩ := exists_of_mapM_eq_error hnodes
    obtain ⟨hmissing, rfl⟩ := selectedNode_eq_error.1 he
    refine .inl ⟨name, hmem, hmissing, ?_⟩
    unfold selectNames
    rw [Scene.run_bind, Scene.run_query, hnodes]
  -- every name has its node, and all of them are selected at once
  | ok nodes =>
    rw [mapM_eq_ok] at hnodes
    obtain ⟨places, hplaces⟩ : ∃ places, List.Forall₂
        (fun name i => s.name (Handle.ofPlace i) = .ok name) names places := by
      refine exists_forall₂.2 fun name hname => ?_
      obtain ⟨node, hnode⟩ := exists_forall₂.1 ⟨nodes, hnodes⟩ name hname
      rw [selectedNode_eq_ok h] at hnode
      obtain ⟨i, n, rfl, -⟩ := Scene.name_eq_ok.1 hnode
      exact ⟨i, hnode⟩
    have hnames : AreNames s places names := hplaces.flip
    have hlt : ∀ i ∈ places, i < s.nodes.size := by
      intro i hi
      obtain ⟨name, hname⟩ := exists_forall₂.1 ⟨_, hnames⟩ i hi
      obtain ⟨j, n, hij, hn, -⟩ := Scene.name_eq_ok.1 hname
      cases Handle.ofPlace_injective hij
      exact (Array.getElem?_eq_some_iff.1 hn).1
    exact .inr ⟨places, hlt, hnames, run_selectNames h hlt hnames⟩

section

variable {σ : Type} [MonadFiles (StateT σ Id)]

/-- A scene that is loaded has the objects of the snapshot, and the nodes with the selected names are
selected. -/
theorem exists_loaded {base : String} {snapshot : Snapshot} {files : σ}
    (hrun : ((Snapshot.toScene base snapshot :
      StateT σ Id (Except Failure (Scene Single))).run files).1 = .ok s) :
    ∃ built places, Loaded snapshot.fileName snapshot.objects built ∧
      (∀ i ∈ places, i < built.nodes.size) ∧ AreNames built places snapshot.selection ∧
      s = { built with selected := places } := by
  unfold Snapshot.toScene at hrun
  rw [run_bind_state] at hrun
  cases hadded : ((Snapshot.addObjects base { Scene.empty with fileName := snapshot.fileName }
      snapshot.objects : StateT σ Id (Except Failure (Scene Single))).run files).1 with
  | error e =>
    rw [hadded] at hrun
    cases hrun
  | ok built =>
    have hbuilt := Loaded.nil.of_addObjects hadded
    rw [List.nil_append] at hbuilt
    rw [hadded] at hrun
    dsimp only at hrun
    rcases selectNames_cases hbuilt.wellFormed snapshot.selection with
      ⟨name, -, -, hselect⟩ | ⟨places, hplaces, hnames, hselect⟩
    · -- a name that is missing would have failed the loading
      rw [hselect] at hrun
      cases hrun
    · rw [hselect] at hrun
      cases hrun
      exact ⟨built, places, hbuilt, hplaces, hnames, rfl⟩

end

end Snapshot

end Scenery
