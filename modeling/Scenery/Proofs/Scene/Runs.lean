import Scenery.Proofs.Scene.Names
import Scenery.Proofs.Scene.Nodes

/-!
# What edits do

The result of each edit and the scene that it leaves.  An edit of one node either fails and leaves the
scene as it was or changes it in one way; the edits that add several nodes fail only where they have
not begun.

* `insert_below_cases`   a single node below another one
* `run_addGenerated`     a transform, a mesh and the generator that feeds it
* `run_createBox`        a box under a numbered name
-/

namespace Scenery.Scene

variable {α β γ : Type} {s s' : Scene α}

/-! ### Steps of an edit -/

theorem run_pure (b : β) (s : Scene α) : (pure b : Edit α β).run s = (.ok b, s) := rfl

/-- The second step runs on the scene that the first one leaves, unless the first one fails. -/
theorem run_bind (e : Edit α β) (k : β → Edit α γ) (s : Scene α) :
    (e >>= k).run s =
      match e.run s with
      | (.ok b, s') => (k b).run s'
      | (.error f, s') => (.error f, s') := by
  rw [run_bind_keeping]
  rcases e.run s with ⟨b | f, s'⟩ <;> rfl

/-- After a step that succeeds, the rest is run. -/
theorem run_bind_ok {e : Edit α β} {b : β} (h : e.run s = (.ok b, s')) (k : β → Edit α γ) :
    (e >>= k).run s = (k b).run s' := by
  rw [run_bind, h]

/-- After a step that fails, nothing is run. -/
theorem run_bind_error {e : Edit α β} {f : Failure} (h : e.run s = (.error f, s'))
    (k : β → Edit α γ) : (e >>= k).run s = (.error f, s') := by
  rw [run_bind, h]

theorem run_map_ok {e : Edit α β} {b : β} (h : e.run s = (.ok b, s')) (f : β → γ) :
    (f <$> e).run s = (.ok (f b), s') := by
  rw [map_eq_pure_bind, run_bind_ok h, run_pure]

theorem run_map_error {e : Edit α β} {x : Failure} (h : e.run s = (.error x, s')) (f : β → γ) :
    (f <$> e).run s = (.error x, s') := by
  rw [map_eq_pure_bind, run_bind_error h]

theorem run_map_snd (e : Edit α β) (f : β → γ) (s : Scene α) :
    ((f <$> e).run s).2 = (e.run s).2 := by
  rw [map_eq_pure_bind, run_bind]
  rcases e.run s with ⟨_ | b, s'⟩ <;> rfl

theorem run_get (s : Scene α) : (get : Edit α (Scene α)).run s = (.ok s, s) := rfl

theorem run_query (q : Scene α → Except Failure β) (s : Scene α) : (query q).run s = (q s, s) := by
  unfold query
  rw [run_bind, run_get]
  cases h : q s with
  | error e => simp only [h]; rfl
  | ok b => simp only [h]; rfl

theorem run_placeOf (h : Handle) (s : Scene α) :
    (placeOf h).run s = ((s.entry h).map Prod.fst, s) := by
  unfold placeOf
  rw [run_bind, run_query]
  cases s.entry h <;> rfl

theorem run_modify (f : Scene α → Scene α) (s : Scene α) :
    (modify f : Edit α Unit).run s = (.ok (), f s) := rfl

/-! ### Single nodes -/

/-- The place of a node that is there; a stale handle is a failure. -/
theorem placeOf_cases (h : Handle) (s : Scene α) :
    (∃ e, (placeOf h).run s = (.error e, s)) ∨
      ∃ i n, h = Handle.ofPlace i ∧ s.nodes[i]? = some n ∧ (placeOf h).run s = (.ok i, s) := by
  rw [run_placeOf]
  cases he : s.entry h with
  | error e => exact .inl ⟨e, rfl⟩
  | ok e =>
    obtain ⟨i, n⟩ := e
    obtain ⟨rfl, hn⟩ := entry_eq_ok.1 he
    exact .inr ⟨i, n, rfl, hn, rfl⟩

/-- The handle of a place is resolved to it. -/
theorem placeOf_ofPlace {i : Nat} {n : Node α} (hn : s.nodes[i]? = some n) :
    (placeOf (Handle.ofPlace i)).run s = (.ok i, s) := by
  rw [run_placeOf, entry_ofPlace hn]
  rfl

variable {name : String} {data : NodeData α}

/-- A node without a parent. -/
theorem run_insert_root (hname : name ≠ "") :
    (insert name none data).run s =
      (.ok (Handle.ofPlace s.nodes.size), s.push (s.freeName name) none data) := by
  have hempty : name.isEmpty = false := by simpa using hname
  simp only [insert, hempty, Bool.false_eq_true, ↓reduceIte]
  rw [run_bind_ok (run_pure none s), run_bind, run_get]
  rfl

/-- A node below another one. -/
theorem run_insert_below (hname : name ≠ "") {p : Nat} {n : Node α} (hp : s.nodes[p]? = some n) :
    (insert name (some (Handle.ofPlace p)) data).run s =
      (.ok (Handle.ofPlace s.nodes.size), s.push (s.freeName name) (some p) data) := by
  have hempty : name.isEmpty = false := by simpa using hname
  simp only [insert, hempty, Bool.false_eq_true, ↓reduceIte]
  rw [run_bind_ok (run_map_ok (placeOf_ofPlace hp) some), run_bind, run_get]
  rfl

/-- No node gets the empty name. -/
theorem run_insert_empty (parent : Option Handle) (data : NodeData α) (s : Scene α) :
    (insert "" parent data).run s = (.error (.resolution .emptyName), s) := rfl

/-- A node is added with a free name below a node that is there, or the scene stays. -/
theorem insert_below_cases (name : String) (parent : Handle) (data : NodeData α) (s : Scene α) :
    (∃ e, (insert name (some parent) data).run s = (.error e, s)) ∨
      ∃ p, parent = Handle.ofPlace p ∧ p < s.nodes.size ∧ name ≠ "" ∧
        (insert name (some parent) data).run s =
          (.ok (Handle.ofPlace s.nodes.size), s.push (s.freeName name) (some p) data) := by
  by_cases hname : name = ""
  · subst hname
    exact .inl ⟨_, run_insert_empty (some parent) data s⟩
  -- a stale parent is found before anything is added
  rcases placeOf_cases parent s with ⟨e, he⟩ | ⟨i, n, rfl, hn, -⟩
  · left
    refine ⟨e, ?_⟩
    have hempty : name.isEmpty = false := by simpa using hname
    simp only [insert, hempty, Bool.false_eq_true, ↓reduceIte]
    rw [run_bind_error (run_map_error he some)]
  · right
    exact ⟨i, rfl, (Array.getElem?_eq_some_iff.1 hn).1, hname, run_insert_below hname hn⟩

/-- A generator is cut off from its mesh, or the scene stays. -/
theorem disconnectOutput_cases (h : Handle) (s : Scene α) :
    (∃ e, (disconnectOutput h).run s = (.error e, s)) ∨
      ∃ i n, h = Handle.ofPlace i ∧ s.nodes[i]? = some n ∧ (disconnectOutput h).run s =
        (.ok (), s.modifyNode i fun n => { n with output := none }) := by
  unfold disconnectOutput
  rcases placeOf_cases h s with ⟨e, he⟩ | ⟨i, n, hh, hn, hi⟩
  · exact .inl ⟨e, by rw [run_bind_error he]⟩
  · exact .inr ⟨i, n, hh, hn, by rw [run_bind_ok hi, run_modify]⟩

/-- A node is taken away from its parent, or the scene stays. -/
theorem unparent_cases (h : Handle) (s : Scene α) :
    (∃ r, (unparent h).run s = (r, s)) ∨
      ∃ i n p, h = Handle.ofPlace i ∧ s.nodes[i]? = some n ∧ n.parent = some p ∧
        (unparent h).run s = (.ok (), s.detach i p) := by
  unfold unparent
  rw [run_bind, run_query]
  cases he : s.entry h with
  | error e => exact .inl ⟨_, rfl⟩
  | ok e =>
    obtain ⟨i, n⟩ := e
    obtain ⟨rfl, hn⟩ := entry_eq_ok.1 he
    dsimp only
    cases hp : n.parent with
    | none => exact .inl ⟨_, rfl⟩
    | some p => exact .inr ⟨i, n, p, rfl, hn, hp, run_modify ..⟩

/-! ### Several nodes -/

/-- The scene with a transform and a shape below it, which is named after it. -/
def withShape (s : Scene α) (name : String) (t : Transform α) (shape : NodeData α) : Scene α :=
  let added := s.push (s.freeName name) none (.transform t)
  added.push (added.freeName (s.freeName name ++ "Shape")) (some s.nodes.size) shape

/-- The name of the shape in `withShape`. -/
def shapeName (s : Scene α) (name : String) (t : Transform α) : String :=
  (s.push (s.freeName name) none (.transform t)).freeName (s.freeName name ++ "Shape")

/-- The scene with a transform, an empty mesh below it and a generator that feeds the mesh. -/
def withGenerated (s : Scene α) (name : String) (t : Transform α) (generatorName : String)
    (data : NodeData α) : Scene α :=
  let added := s.withShape name t (.mesh .empty)
  (added.push (added.nextName generatorName) none data).modifyNode (s.nodes.size + 2) fun n =>
    { n with output := some (s.nodes.size + 1) }

@[simp] theorem size_withShape (s : Scene α) (name : String) (t : Transform α) (shape : NodeData α) :
    (s.withShape name t shape).nodes.size = s.nodes.size + 2 := by
  simp [withShape]

@[simp] theorem size_withGenerated (s : Scene α) (name : String) (t : Transform α)
    (generatorName : String) (data : NodeData α) :
    (s.withGenerated name t generatorName data).nodes.size = s.nodes.size + 3 := by
  simp [withGenerated]

/-- A node that was added without a parent. -/
private theorem getElem?_push_root (s : Scene α) (name : String) (data : NodeData α) :
    (s.push name none data).nodes[s.nodes.size]? = some ⟨name, none, [], none, data⟩ :=
  getElem?_push_size (by simp)

/-- The three nodes of an object come last, in the order in which they were made. -/
theorem order_withGenerated (s : Scene α) (name : String) (t : Transform α) (generatorName : String)
    (data : NodeData α) :
    (s.withGenerated name t generatorName data).order = s.order ++ List.range' s.nodes.size 3 := by
  simp [withGenerated, withShape, List.range'_succ]

/-- A new object leaves the name of the file. -/
theorem fileName_withGenerated (s : Scene α) (name : String) (t : Transform α)
    (generatorName : String) (data : NodeData α) :
    (s.withGenerated name t generatorName data).fileName = s.fileName := by
  simp [withGenerated, withShape]

section

variable (s) (name : String) (t : Transform α) (shape : NodeData α)

/-- The transform of the new shape. -/
theorem getElem?_withShape_transform :
    (s.withShape name t shape).nodes[s.nodes.size]? =
      some ⟨s.freeName name, none, [s.nodes.size + 1], none, .transform t⟩ := by
  unfold withShape
  rw [getElem?_push_of_some (getElem?_push_size (by simp)), if_pos rfl, size_push, List.nil_append]

/-- The new shape. -/
theorem getElem?_withShape_shape :
    (s.withShape name t shape).nodes[s.nodes.size + 1]? =
      some ⟨s.shapeName name t, some s.nodes.size, [], none, shape⟩ := by
  have hsize := size_push (s.freeName name) none (.transform t) s
  have hparent : ∀ p, some s.nodes.size = some p →
      p < (s.push (s.freeName name) none (.transform t)).nodes.size := by
    rintro p ⟨⟩
    omega
  rw [withShape, ← hsize, getElem?_push_size hparent]
  rfl

variable {s}

/-- The nodes that were there before a shape was added do not change. -/
theorem getElem?_withShape_of_lt {j : Nat} (hj : j < s.nodes.size) :
    (s.withShape name t shape).nodes[j]? = s.nodes[j]? := by
  unfold withShape
  rw [getElem?_push_of_lt (by rw [size_push]; omega), getElem?_push_of_lt hj]
  have hne : s.nodes.size ≠ j := by omega
  simp [hne]

variable (s) (generatorName : String) (data : NodeData α)

/-- The transform of the new shape. -/
theorem getElem?_withGenerated_transform :
    (s.withGenerated name t generatorName data).nodes[s.nodes.size]? =
      some ⟨s.freeName name, none, [s.nodes.size + 1], none, .transform t⟩ := by
  unfold withGenerated
  rw [getElem?_modifyNode_of_ne (by omega),
    getElem?_push_of_some (getElem?_withShape_transform s name t _)]
  simp

/-- The new mesh. -/
theorem getElem?_withGenerated_shape :
    (s.withGenerated name t generatorName data).nodes[s.nodes.size + 1]? =
      some ⟨s.shapeName name t, some s.nodes.size, [], none, .mesh .empty⟩ := by
  unfold withGenerated
  rw [getElem?_modifyNode_of_ne (by omega),
    getElem?_push_of_some (getElem?_withShape_shape s name t _)]
  simp

/-- The new generator feeds the new mesh. -/
theorem getElem?_withGenerated_generator :
    (s.withGenerated name t generatorName data).nodes[s.nodes.size + 2]? =
      some ⟨(s.withShape name t (.mesh .empty)).nextName generatorName, none, [],
        some (s.nodes.size + 1), data⟩ := by
  have hsize := size_withShape s name t (.mesh .empty)
  have hlast := getElem?_push_root (s.withShape name t (.mesh .empty))
    ((s.withShape name t (.mesh .empty)).nextName generatorName) data
  rw [hsize] at hlast
  exact getElem?_modifyNode_self hlast _

variable {s}

/-- The nodes that were there before a generator was added do not change. -/
theorem getElem?_withGenerated_of_lt {j : Nat} (hj : j < s.nodes.size) :
    (s.withGenerated name t generatorName data).nodes[j]? = s.nodes[j]? := by
  unfold withGenerated
  rw [getElem?_modifyNode_of_ne (by omega),
    getElem?_push_of_lt (by rw [size_withShape]; omega), getElem?_withShape_of_lt name t _ hj]
  simp

end

/-- A shape is put in below its transform, under a free name that is made of the transform's. -/
private theorem run_addShape {i : Nat} {n : Node α} (hn : s.nodes[i]? = some n) :
    (addShape (Handle.ofPlace i) data).run s =
      (.ok (Handle.ofPlace s.nodes.size), s.push (s.freeName (n.name ++ "Shape")) (some i) data) := by
  have hname : s.name (Handle.ofPlace i) = .ok n.name := name_eq_ok.2 ⟨i, n, rfl, hn, rfl⟩
  have hne : n.name ++ "Shape" ≠ "" := by simp
  unfold addShape
  rw [run_bind, run_query, hname]
  exact run_insert_below hne hn

/-- A generator that is made to feed a shape. -/
private theorem run_connectOutput {i j : Nat} {n m : Node α} (hn : s.nodes[i]? = some n)
    (hm : s.nodes[j]? = some m) :
    (connectOutput (Handle.ofPlace i) (Handle.ofPlace j)).run s =
      (.ok (), s.modifyNode i fun n => { n with output := some j }) := by
  unfold connectOutput
  rw [run_bind_ok (placeOf_ofPlace hn), run_bind_ok (placeOf_ofPlace hm), run_modify]

variable {t : Transform α}

/-- The two nodes of a shape that has no generator. -/
private theorem run_withShape (hname : name ≠ "") {shape : NodeData α} (k : Handle → Handle → Edit α β) :
    (do
      let transform ← addTransform name none t
      let added ← addShape transform shape
      k transform added : Edit α β).run s =
    (k (Handle.ofPlace s.nodes.size) (Handle.ofPlace (s.nodes.size + 1))).run
      (s.withShape name t shape) := by
  -- the shape is named after the name that the transform was given
  unfold addTransform
  rw [run_bind_ok (run_insert_root hname), run_bind_ok (run_addShape (getElem?_push_root ..))]
  simp only [size_push]
  rfl

/-- A transform, an empty mesh below it and a generator that feeds the mesh. -/
theorem run_addGenerated (hname : name ≠ "") (generatorName : String) :
    (addGenerated name t generatorName data).run s =
      (.ok ⟨Handle.ofPlace s.nodes.size, Handle.ofPlace (s.nodes.size + 1),
        some (Handle.ofPlace (s.nodes.size + 2))⟩, s.withGenerated name t generatorName data) := by
  unfold addGenerated
  rw [run_withShape hname, run_bind, run_get]
  generalize hadded : s.withShape name t (.mesh .empty) = added
  have hsize : added.nodes.size = s.nodes.size + 2 := by rw [← hadded, size_withShape]
  -- the name for the generator is free, so it is the one that is asked for
  have hfree := freeName_of_not_hasName (hasName_nextName added generatorName)
  have hgenerator : (insert (added.nextName generatorName) none data).run added =
      (.ok (Handle.ofPlace (s.nodes.size + 2)), added.push (added.nextName generatorName) none data) := by
    rw [run_insert_root (nextName_ne_empty added generatorName), hfree, hsize]
  dsimp only
  rw [run_bind_ok hgenerator]
  have hlast := getElem?_push_root added (added.nextName generatorName) data
  rw [hsize] at hlast
  obtain ⟨m, hm⟩ : ∃ m, (added.push (added.nextName generatorName) none data).nodes[s.nodes.size + 1]? =
      some m := by
    rw [← Option.isSome_iff_exists]
    simp [hsize]
  rw [run_bind_ok (run_connectOutput hlast hm), run_pure, withGenerated, hadded]

/-- Without a name nothing is generated. -/
theorem addGenerated_cases (name : String) (t : Transform α) (generatorName : String)
    (data : NodeData α) (s : Scene α) :
    (∃ e, (addGenerated name t generatorName data).run s = (.error e, s)) ∨
      name ≠ "" ∧ ∃ p, (addGenerated name t generatorName data).run s =
        (.ok p, s.withGenerated name t generatorName data) := by
  by_cases hname : name = ""
  · subst hname
    exact .inl ⟨_, rfl⟩
  · exact .inr ⟨hname, _, run_addGenerated hname generatorName⟩

/-- A valid mesh under a transform of its own. -/
theorem run_addMesh (hname : name ≠ "") {m : Mesh α} (hvalid : m.validate = .ok ()) :
    (addMesh name t m).run s = (.ok ⟨Handle.ofPlace s.nodes.size,
      Handle.ofPlace (s.nodes.size + 1), none⟩, s.withShape name t (.mesh m)) := by
  unfold addMesh
  rw [hvalid]
  exact run_withShape hname _

/-- A camera under a transform of its own. -/
theorem run_addCamera (hname : name ≠ "") :
    (addCamera name t).run s = (.ok ⟨Handle.ofPlace s.nodes.size,
      Handle.ofPlace (s.nodes.size + 1), none⟩, s.withShape name t .camera) :=
  run_withShape hname _

/-- A mesh is added only if it is valid. -/
theorem addMesh_cases (name : String) (t : Transform α) (m : Mesh α) (s : Scene α) :
    (∃ e, (addMesh name t m).run s = (.error e, s)) ∨
      name ≠ "" ∧ m.validate = .ok () ∧
        ∃ p, (addMesh name t m).run s = (.ok p, s.withShape name t (.mesh m)) := by
  -- the mesh is looked at before the first node is added
  cases hvalid : m.validate with
  | error e =>
    unfold addMesh
    rw [hvalid]
    exact .inl ⟨_, rfl⟩
  | ok u =>
    by_cases hname : name = ""
    · subst hname
      unfold addMesh
      rw [hvalid]
      exact .inl ⟨_, rfl⟩
    · exact .inr ⟨hname, rfl, _, run_addMesh hname hvalid⟩

/-- Adding a camera fails and leaves the scene, or adds an object with a camera. -/
theorem addCamera_cases (name : String) (t : Transform α) (s : Scene α) :
    (∃ e, (addCamera name t).run s = (.error e, s)) ∨
      name ≠ "" ∧ ∃ p, (addCamera name t).run s = (.ok p, s.withShape name t .camera) := by
  by_cases hname : name = ""
  · subst hname
    exact .inl ⟨_, rfl⟩
  · exact .inr ⟨hname, _, run_addCamera hname⟩

/-- A box is always added, as its name is free. -/
theorem run_createBox [Scalar α] (d : Dimensions α) (s : Scene α) :
    (createBox d).run s =
      (.ok ⟨Handle.ofPlace s.nodes.size, Handle.ofPlace (s.nodes.size + 1),
        Handle.ofPlace (s.nodes.size + 2)⟩,
        s.withGenerated (s.nextName "pCube") Transform.identity "polyCube" (.box d)) := by
  have hname := nextName_ne_empty s "pCube"
  unfold createBox addBox
  rw [run_bind_ok (run_get s), run_bind_ok (run_addGenerated hname "polyCube"), run_pure]

/-! ### Selection -/

/-- A list of handles is resolved as a whole or not at all. -/
private theorem mapM_placeOf_cases (hs : List Handle) (s : Scene α) :
    (∃ e, (hs.mapM placeOf).run s = (.error e, s)) ∨
      ∃ places : List Nat, (∀ i ∈ places, i < s.nodes.size) ∧
        (hs.mapM placeOf).run s = (.ok places, s) := by
  -- the first stale handle ends the search, and finding a place changes nothing
  induction hs with
  | nil => exact .inr ⟨[], by simp, rfl⟩
  | cons h hs ih =>
    rw [List.mapM_cons]
    rcases placeOf_cases h s with ⟨e, he⟩ | ⟨i, n, -, hn, hi⟩
    · exact .inl ⟨e, by rw [run_bind_error he]⟩
    rw [run_bind_ok hi]
    rcases ih with ⟨e, he⟩ | ⟨places, hplaces, hrun⟩
    · exact .inl ⟨e, by rw [run_bind_error he]⟩
    · refine .inr ⟨i :: places, ?_, by rw [run_bind_ok hrun, run_pure]⟩
      rw [List.forall_mem_cons]
      exact ⟨(Array.getElem?_eq_some_iff.1 hn).1, hplaces⟩

/-- Nodes that are there are selected, or the scene stays. -/
theorem setSelection_cases (hs : List Handle) (s : Scene α) :
    (∃ e, (setSelection hs).run s = (.error e, s)) ∨
      ∃ places : List Nat, (∀ i ∈ places, i < s.nodes.size) ∧
        (setSelection hs).run s = (.ok (), { s with selected := places }) := by
  unfold setSelection
  rcases mapM_placeOf_cases hs s with ⟨e, he⟩ | ⟨places, hplaces, hrun⟩
  · exact .inl ⟨e, by rw [run_bind_error he]⟩
  · exact .inr ⟨places, hplaces, by rw [run_bind_ok hrun, run_modify]⟩

/-- Nodes that are there can be selected. -/
theorem run_setSelection {places : List Nat} (hplaces : ∀ i ∈ places, i < s.nodes.size) :
    (setSelection (places.map Handle.ofPlace)).run s = (.ok (), { s with selected := places }) := by
  have hfound : ((places.map Handle.ofPlace).mapM placeOf).run s = (.ok places, s) := by
    induction places with
    | nil => rfl
    | cons i places ih =>
      obtain ⟨hi, hrest⟩ := List.forall_mem_cons.1 hplaces
      rw [List.map_cons, List.mapM_cons, run_bind_ok (placeOf_ofPlace (Array.getElem?_eq_getElem hi)),
        run_bind_ok (ih hrest), run_pure]
  unfold setSelection
  rw [run_bind_ok hfound, run_modify]

/-- A node that is there can be selected. -/
theorem run_select {i : Nat} {n : Node α} (hn : s.nodes[i]? = some n) :
    (select (Handle.ofPlace i)).run s = (.ok (), { s with selected := [i] }) :=
  run_setSelection (List.forall_mem_singleton.2 (Array.getElem?_eq_some_iff.1 hn).1)

/-! ### Placement -/

/-- A transform at a place is changed. -/
theorem run_modifyTransform {i : Nat} {n : Node α} (hn : s.nodes[i]? = some n) {t : Transform α}
    (ht : n.data = .transform t) (f : Transform α → Transform α) :
    (modifyTransform (Handle.ofPlace i) f).run s =
      (.ok (), s.setTransform i (f t)) := by
  have htransform := transform_eq_ok.2 ⟨i, n, rfl, hn, ht⟩
  unfold modifyTransform
  rw [run_bind_ok (placeOf_ofPlace hn), run_bind, run_query, htransform]
  exact run_modify ..

/-- A transform is changed, or the scene stays. -/
theorem modifyTransform_cases (h : Handle) (f : Transform α → Transform α) (s : Scene α) :
    (∃ e, (modifyTransform h f).run s = (.error e, s)) ∨
      ∃ i n t, h = Handle.ofPlace i ∧ s.nodes[i]? = some n ∧ n.data = .transform t ∧
        (modifyTransform h f).run s = (.ok (), s.setTransform i (f t)) := by
  rcases placeOf_cases h s with ⟨e, he⟩ | ⟨i, n, rfl, hn, hi⟩
  · left
    unfold modifyTransform
    exact ⟨e, by rw [run_bind_error he]⟩
  cases ht : s.transform (Handle.ofPlace i) with
  | error e =>
    left
    unfold modifyTransform
    exact ⟨e, by rw [run_bind_ok hi, run_bind, run_query, ht]⟩
  | ok t =>
    right
    obtain ⟨j, m, hj, hm, hdata⟩ := transform_eq_ok.1 ht
    -- the handle names one node only, so both queries found the same
    cases Handle.ofPlace_injective hj
    exact ⟨i, m, t, rfl, hm, hdata, run_modifyTransform hm hdata f⟩

/-- An edit that leaves the scene, followed by the change of a transform. -/
private theorem bind_modifyTransform_cases {e : Edit α β} (he : (e.run s).2 = s) (h : Handle)
    (f : β → Transform α → Transform α) :
    (∃ x, (e >>= fun b => modifyTransform h (f b)).run s = (.error x, s)) ∨
      ∃ i n t, h = Handle.ofPlace i ∧ s.nodes[i]? = some n ∧ n.data = .transform t ∧
        ∃ t', (e >>= fun b => modifyTransform h (f b)).run s = (.ok (), s.setTransform i t') := by
  rw [run_bind]
  rcases hrun : e.run s with ⟨_ | b, s'⟩
  · rw [hrun] at he
    subst he
    exact .inl ⟨_, rfl⟩
  · rw [hrun] at he
    obtain rfl : s = s' := he.symm
    rcases modifyTransform_cases h (f b) s with herror | ⟨i, n, t, hh, hn, ht, hok⟩
    · exact .inl herror
    · exact .inr ⟨i, n, t, hh, hn, ht, _, hok⟩

variable [Scalar α]

/-- Finding a point in the space of the parent leaves the scene. -/
private theorem localPoint_snd (h : Handle) (p : Vec3 α) (space : Space) (s : Scene α) :
    ((localPoint h p space).run s).2 = s := by
  cases space with
  | parent => rfl
  | world =>
    unfold localPoint
    rw [run_bind, run_query]
    cases s.parentMatrix h with
    | error e => rfl
    | ok matrix =>
      dsimp only
      cases matrix.inverse? with
      | some inverse => rfl
      | none =>
        dsimp only
        rw [run_bind, run_query]
        cases s.name h <;> rfl

/-- Angles are computed without a change. -/
private theorem localAngles_snd (h : Handle) (angles : Vec3 α) (space : Space) (s : Scene α) :
    ((localAngles h angles space).run s).2 = s := by
  cases space with
  | parent => rfl
  | world =>
    unfold localAngles
    rw [run_bind, run_query]
    cases s.parentMatrix h <;> rfl

/-- A transform is moved, or the scene stays. -/
theorem setPosition_cases (h : Handle) (p : Vec3 α) (space : Space) (s : Scene α) :
    (∃ e, (setPosition h p space).run s = (.error e, s)) ∨
      ∃ i n t, h = Handle.ofPlace i ∧ s.nodes[i]? = some n ∧ n.data = .transform t ∧
        ∃ t', (setPosition h p space).run s = (.ok (), s.setTransform i t') :=
  bind_modifyTransform_cases (localPoint_snd h p space s) h _

/-- A transform is turned, or the scene stays. -/
theorem setRotation_cases (h : Handle) (angles : Vec3 α) (space : Space) (s : Scene α) :
    (∃ e, (setRotation h angles space).run s = (.error e, s)) ∨
      ∃ i n t, h = Handle.ofPlace i ∧ s.nodes[i]? = some n ∧ n.data = .transform t ∧
        ∃ t', (setRotation h angles space).run s = (.ok (), s.setTransform i t') :=
  bind_modifyTransform_cases (localAngles_snd h angles space s) h _

/-- A transform without a parent is moved in the world by way of the inverse of the identity. -/
theorem run_setPosition_root {inverse : Mat4 α} (hinverse : (1 : Mat4 α).inverse? = some inverse)
    {i : Nat} {n : Node α} (hn : s.nodes[i]? = some n) (hp : n.parent = none) {t : Transform α}
    (ht : n.data = .transform t) (p : Vec3 α) :
    (setPosition (Handle.ofPlace i) p .world).run s =
      (.ok (), s.setTransform i { t with position := inverse.applyPoint p }) := by
  have hmatrix : s.parentMatrix (Handle.ofPlace i) = .ok 1 := by
    unfold parentMatrix
    rw [entry_ofPlace hn]
    simp only [bind, Except.bind, hp]
    rfl
  have hlocal : (localPoint (Handle.ofPlace i) p .world).run s = (.ok (inverse.applyPoint p), s) := by
    unfold localPoint
    rw [run_bind, run_query, hmatrix]
    simp only [hinverse]
    rfl
  unfold setPosition
  rw [run_bind_ok hlocal, run_modifyTransform hn ht]

/-- A transform is turned in the space of its parent. -/
theorem run_setRotation_parent {i : Nat} {n : Node α} (hn : s.nodes[i]? = some n) {t : Transform α}
    (ht : n.data = .transform t) (angles : Vec3 α) :
    (setRotation (Handle.ofPlace i) angles .parent).run s =
      (.ok (), s.setTransform i { t with rotation := angles }) := by
  unfold setRotation localAngles
  rw [run_bind_ok (run_pure angles s), run_modifyTransform hn ht]

end Scenery.Scene
