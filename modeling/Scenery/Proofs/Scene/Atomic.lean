import Scenery.Proofs.Scene.Calls

/-!
# All or nothing

An edit that fails leaves the scene as it was, also if it adds several nodes one after the other; an
edit that succeeds has added all of its nodes, with the links between them.

* `Adds`                nodes were added at the end of a scene
* `AllOrNothing`        a failure leaves the scene, and a success adds all nodes
* `Call.edit`           the edit that a call makes
* `Call.added`          the nodes that a call is to add
* `Call.allOrNothing`   every call is of this kind
-/

namespace Scenery

variable {α β γ : Type}

/-- The node without its name, which a scene chooses. -/
def Node.unnamed (n : Node α) : Node α := { n with name := "" }

namespace Scene

variable {s s' : Scene α}

/-! ### What is added -/

/-- The nodes of a shape with its transform, the first one at a place; see `withShape`. -/
def shapeNodes (place : Nat) (t : Transform α) (shape : NodeData α) : List (Node α) :=
  [⟨"", none, [place + 1], none, .transform t⟩, ⟨"", some place, [], none, shape⟩]

/-- The nodes of a generated shape, the first one at a place; see `withGenerated`. -/
def generatedNodes (place : Nat) (t : Transform α) (data : NodeData α) : List (Node α) :=
  shapeNodes place t (.mesh .empty) ++ [⟨"", none, [], some (place + 1), data⟩]

/-- Nodes were added at the end of a scene; they are the last ones in the order and the latest in the
table of names. -/
structure Adds (s s' : Scene α) (added : List (Node α)) : Prop where
  size : s'.nodes.size = s.nodes.size + added.length
  nodes : ∀ k, (s'.nodes[s.nodes.size + k]?).map Node.unnamed = added[k]?
  order : s'.order = s.order ++ List.range' s.nodes.size added.length
  names : s'.names.map Prod.snd =
    (List.range' s.nodes.size added.length).reverse ++ s.names.map Prod.snd

namespace Adds

/-- Nodes were changed at most, and none was added. -/
private theorem nil (hsize : s'.nodes.size = s.nodes.size) (horder : s'.order = s.order)
    (hnames : s'.names = s.names) : Adds s s' [] where
  size := hsize
  nodes k := by simp [hsize]
  order := by simp [horder]
  names := by simp [hnames]

protected theorem refl (s : Scene α) : Adds s s [] := nil rfl rfl rfl

theorem modifyNode (s : Scene α) (i : Nat) (f : Node α → Node α) : Adds s (s.modifyNode i f) [] :=
  nil (size_modifyNode s i f) rfl rfl

theorem detach (s : Scene α) (i p : Nat) : Adds s (s.detach i p) [] :=
  nil (size_detach s i p) rfl rfl

theorem withSelected (s : Scene α) (places : List Nat) : Adds s { s with selected := places } [] :=
  nil rfl rfl rfl

theorem withFileName (s : Scene α) (name : Option String) : Adds s { s with fileName := name } [] :=
  nil rfl rfl rfl

/-- A node that is put in is the one that is added. -/
theorem push {parent : Option Nat} (hparent : ∀ p, parent = some p → p < s.nodes.size) (name : String)
    (data : NodeData α) : Adds s (s.push name parent data) [⟨"", parent, [], none, data⟩] where
  size := by simp
  nodes k := by
    cases k with
    | zero =>
      rw [Nat.add_zero, getElem?_push_size hparent]
      rfl
    | succ k => simp
  order := by simp
  names := by simp

/-- An object with a shape adds its transform and its shape. -/
theorem withShape (s : Scene α) (name : String) (t : Transform α) (shape : NodeData α) :
    Adds s (s.withShape name t shape) (shapeNodes s.nodes.size t shape) where
  size := size_withShape s name t shape
  nodes k := by
    match k with
    | 0 =>
      rw [Nat.add_zero, getElem?_withShape_transform]
      rfl
    | 1 =>
      have hshape := getElem?_withShape_shape s name t shape
      rw [hshape]
      rfl
    | k + 2 => simp [shapeNodes]
  order := by simp [Scene.withShape, shapeNodes, List.range'_succ]
  names := by simp [Scene.withShape, shapeNodes, List.range'_succ]

/-- An object with a generator adds its transform, the mesh and the generator. -/
theorem withGenerated (s : Scene α) (name : String) (t : Transform α) (generatorName : String)
    (data : NodeData α) :
    Adds s (s.withGenerated name t generatorName data) (generatedNodes s.nodes.size t data) where
  size := size_withGenerated s name t generatorName data
  nodes k := by
    match k with
    | 0 =>
      rw [Nat.add_zero, getElem?_withGenerated_transform]
      rfl
    | 1 =>
      have hshape := getElem?_withGenerated_shape s name t generatorName data
      rw [hshape]
      rfl
    | 2 =>
      have hgenerator := getElem?_withGenerated_generator s name t generatorName data
      rw [hgenerator]
      rfl
    -- beyond the three nodes there is nothing
    | k + 3 => simp [generatedNodes, shapeNodes]
  order := order_withGenerated s name t generatorName data
  names := by simp [Scene.withGenerated, Scene.withShape, generatedNodes, shapeNodes, List.range'_succ]

end Adds

/-! ### Edits -/

/-- An edit of a scene that fails leaves the scene, and one that succeeds adds all of some nodes. -/
def AllOrNothing (s : Scene α) (e : Edit α β) (added : List (Node α)) : Prop :=
  match e.run s with
  | (.error _, s') => s' = s
  | (.ok _, s') => Adds s s' added

namespace AllOrNothing

variable {e : Edit α β} {added : List (Node α)}

/-- A call that fails and leaves the scene is all or nothing. -/
theorem error {f : Failure} (h : e.run s = (.error f, s)) : AllOrNothing s e added := by
  rw [AllOrNothing, h]

/-- A call that succeeds is all or nothing if it adds what it should. -/
theorem ok {b : β} (h : e.run s = (.ok b, s')) (hadds : Adds s s' added) :
    AllOrNothing s e added := by
  rw [AllOrNothing, h]
  exact hadds

/-- It does not matter what is made of the result. -/
theorem map (h : AllOrNothing s e added) (f : β → γ) : AllOrNothing s (f <$> e) added := by
  unfold AllOrNothing at h
  rcases hrun : e.run s with ⟨x | b, s'⟩
  · rw [hrun] at h
    obtain rfl : s' = s := h
    exact error (run_map_error hrun f)
  · rw [hrun] at h
    exact ok (run_map_ok hrun f) h

theorem insert (name : String) (parent : Option Handle) (data : NodeData α) (s : Scene α) :
    AllOrNothing s (Scene.insert name parent data)
      [⟨"", parent.bind Handle.place?, [], none, data⟩] := by
  cases parent with
  | none =>
    by_cases hname : name = ""
    · subst hname
      exact error (run_insert_empty none data s)
    · exact ok (run_insert_root hname) (.push (by simp) _ data)
  | some h =>
    rcases insert_below_cases name h data s with ⟨f, hf⟩ | ⟨p, rfl, hp, -, hok⟩
    · exact error hf
    · rw [Option.bind_some, Handle.place?_ofPlace]
      exact ok hok (.push (by simpa using hp) _ data)

theorem addGenerated (name : String) (t : Transform α) (generatorName : String) (data : NodeData α)
    (s : Scene α) :
    AllOrNothing s (Scene.addGenerated name t generatorName data)
      (generatedNodes s.nodes.size t data) := by
  rcases addGenerated_cases name t generatorName data s with ⟨f, hf⟩ | ⟨-, p, hok⟩
  · exact error hf
  · exact ok hok (.withGenerated s name t generatorName data)

theorem addMesh (name : String) (t : Transform α) (m : Mesh α) (s : Scene α) :
    AllOrNothing s (Scene.addMesh name t m) (shapeNodes s.nodes.size t (.mesh m)) := by
  rcases addMesh_cases name t m s with ⟨f, hf⟩ | ⟨-, -, p, hok⟩
  · exact error hf
  · exact ok hok (.withShape s name t (.mesh m))

theorem addCamera (name : String) (t : Transform α) (s : Scene α) :
    AllOrNothing s (Scene.addCamera name t) (shapeNodes s.nodes.size t .camera) := by
  rcases addCamera_cases name t s with ⟨f, hf⟩ | ⟨-, p, hok⟩
  · exact error hf
  · exact ok hok (.withShape s name t .camera)

theorem disconnectOutput (h : Handle) (s : Scene α) :
    AllOrNothing s (Scene.disconnectOutput h) [] := by
  rcases disconnectOutput_cases h s with ⟨f, hf⟩ | ⟨i, n, -, -, hok⟩
  · exact error hf
  · exact ok hok (.modifyNode s i _)

theorem unparent (h : Handle) (s : Scene α) : AllOrNothing s (Scene.unparent h) [] := by
  rcases unparent_cases h s with ⟨r, hr⟩ | ⟨i, n, p, -, -, -, hok⟩
  -- a stale handle and a node without a parent: the scene stays in both cases
  · cases r with
    | error f => exact error hr
    | ok u => exact ok hr (.refl s)
  · exact ok hok (.detach s i p)

/-- Selecting nodes is all or nothing: all handles are resolved before the selection changes. -/
theorem setSelection (hs : List Handle) (s : Scene α) :
    AllOrNothing s (Scene.setSelection hs) [] := by
  rcases setSelection_cases hs s with ⟨f, hf⟩ | ⟨places, -, hok⟩
  · exact error hf
  · exact ok hok (.withSelected s places)

variable [Scalar α]

theorem setPosition (h : Handle) (p : Vec3 α) (space : Space) (s : Scene α) :
    AllOrNothing s (Scene.setPosition h p space) [] := by
  rcases setPosition_cases h p space s with ⟨f, hf⟩ | ⟨i, n, t, -, -, -, t', hok⟩
  · exact error hf
  · exact ok hok (.modifyNode s i _)

theorem setRotation (h : Handle) (angles : Vec3 α) (space : Space) (s : Scene α) :
    AllOrNothing s (Scene.setRotation h angles space) [] := by
  rcases setRotation_cases h angles space s with ⟨f, hf⟩ | ⟨i, n, t, -, -, -, t', hok⟩
  · exact error hf
  · exact ok hok (.modifyNode s i _)

end AllOrNothing

/-! ### Calls -/

namespace Call

variable [Scalar α]

/-- The nodes that a call is to add to a scene, the first one at a place. -/
def added (place : Nat) : Call α → List (Node α)
  | addTransform _ parent t => [⟨"", parent.bind Handle.place?, [], none, .transform t⟩]
  | addSphere _ t radius => generatedNodes place t (.sphere radius)
  | addBox _ t d => generatedNodes place t (.box d)
  | addMesh _ t m => shapeNodes place t (.mesh m)
  | addCamera _ t => shapeNodes place t .camera
  | addCameraShape _ parent => [⟨"", parent.place?, [], none, .camera⟩]
  | createBox d => generatedNodes place .identity (.box d)
  | _ => []

/-- The edit that a call makes, without its result. -/
def edit : Call α → Edit α Unit
  | addTransform name parent t => discard (Scene.addTransform name parent t)
  | addSphere name t radius => discard (Scene.addSphere name t radius)
  | addBox name t d => discard (Scene.addBox name t d)
  | addMesh name t m => discard (Scene.addMesh name t m)
  | addCamera name t => discard (Scene.addCamera name t)
  | addCameraShape name parent => discard (Scene.addCameraShape name parent)
  | createBox d => discard (Scene.createBox d)
  | disconnectOutput h => Scene.disconnectOutput h
  | unparent h => Scene.unparent h
  | select h => Scene.select h
  | setSelection hs => Scene.setSelection hs
  | clearSelection => Scene.clearSelection
  | setFileName name => Scene.setFileName name
  | setPosition h p space => Scene.setPosition h p space
  | setRotation h angles space => Scene.setRotation h angles space

/-- The scene that the edit leaves is the one after the call. -/
theorem run_edit_snd (c : Call α) (s : Scene α) : (c.edit.run s).2 = c.run s := by
  -- the calls whose result is dropped; the others are their edits
  cases c <;> first | rfl | exact run_map_snd ..

end Call

end Scene

end Scenery
