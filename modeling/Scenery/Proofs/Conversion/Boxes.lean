import Scenery.Conversion.Boxes
import Scenery.Proofs.Mesh.Valid
import Scenery.Proofs.Scene.Calls
import Scenery.Proofs.Scene.Frame
import Scenery.Proofs.Single.Arithmetic

/-!
# Boxes on all faces

The conversion asks for the geometry of a face and adds a box, face after face.  The boxes are new
nodes, so they change no answer about the mesh; and a face that cannot be converted ends the work with
the boxes of the faces before it in the scene.

* `run_placeBox`       one box
* `Added`              the scene with boxes for some faces
* `run_convertFaces`   faces that all get boxes
-/

namespace Scenery.Conversion

open Scene (Extends)

/-! ### Boxes in a scene -/

section

variable {α : Type}

/-- The handles of the box whose transform stands at a place. -/
def boxAt (i : Nat) : CreatedBox :=
  ⟨Handle.ofPlace i, Handle.ofPlace (i + 1), Handle.ofPlace (i + 2)⟩

/-- The nodes from a place on are a cube: a transform without a parent, a mesh below it, and the
generator that feeds the mesh. -/
structure IsCube (s : Scene α) (i : Nat) (t : Transform α) (side : α) : Prop where
  transform : ∃ name, s.nodes[i]? = some ⟨name, none, [i + 1], none, .transform t⟩
  shape : ∃ name, s.nodes[i + 1]? = some ⟨name, some i, [], none, .mesh .empty⟩
  generator : ∃ name, s.nodes[i + 2]? = some ⟨name, none, [], some (i + 1), .box ⟨side, side, side⟩⟩

/-- A cube stays a cube when nodes are added. -/
private theorem IsCube.extends {s s' : Scene α} {i : Nat} {t : Transform α} {side : α}
    (h : IsCube s i t side) (hold : s'.Extends s) : IsCube s' i t side := by
  have hkeep {j : Nat} {n : Node α} (hn : s.nodes[j]? = some n) : s'.nodes[j]? = some n := by
    rw [hold j (Array.getElem?_eq_some_iff.1 hn).1, hn]
  obtain ⟨transformName, htransform⟩ := h.transform
  obtain ⟨shapeName, hshape⟩ := h.shape
  obtain ⟨generatorName, hgenerator⟩ := h.generator
  exact ⟨⟨_, hkeep htransform⟩, ⟨_, hkeep hshape⟩, ⟨_, hkeep hgenerator⟩⟩

/-- The transform of a cube is replaced. -/
private theorem IsCube.setTransform {s : Scene α} {i : Nat} {t : Transform α} {side : α}
    (h : IsCube s i t side) (t' : Transform α) : IsCube (s.setTransform i t') i t' side := by
  obtain ⟨transformName, htransform⟩ := h.transform
  obtain ⟨shapeName, hshape⟩ := h.shape
  obtain ⟨generatorName, hgenerator⟩ := h.generator
  refine ⟨⟨_, Scene.getElem?_modifyNode_self htransform _⟩, ⟨shapeName, ?_⟩, ⟨generatorName, ?_⟩⟩
  · rw [Scene.setTransform, Scene.getElem?_modifyNode_of_ne (by omega), hshape]
  · rw [Scene.setTransform, Scene.getElem?_modifyNode_of_ne (by omega), hgenerator]

variable [Scalar α]

/-- A scene to which cubes were added for faces with the given geometries, and nothing else.  The
points at which they stand have passed through `place`. -/
structure Added (place : Vec3 α → Vec3 α) (s : Scene α) (gs : List (FaceGeometry α))
    (s' : Scene α) : Prop where
  old : s'.Extends s
  size : s'.nodes.size = s.nodes.size + 3 * gs.length
  order : s'.order = s.order ++ List.range' s.nodes.size (3 * gs.length)
  cube : ∀ (k : Nat) (g : FaceGeometry α), gs[k]? = some g →
    IsCube s' (s.nodes.size + 3 * k) ⟨place g.centroid, (FaceFrame.ofGeometry g).angles⟩ g.area
  /-- The last cube is selected. -/
  selected : s'.selected =
    if gs.length = 0 then s.selected else [s.nodes.size + 3 * (gs.length - 1)]
  fileName : s'.fileName = s.fileName

variable {s s' s'' : Scene α} {place : Vec3 α → Vec3 α} {gs : List (FaceGeometry α)}

theorem Added.refl (place : Vec3 α → Vec3 α) (s : Scene α) : Added place s [] s where
  old := .refl s
  size := rfl
  order := by simp
  cube := by simp
  selected := rfl
  fileName := rfl

/-- A scene with cubes to which one more was added. -/
theorem Added.snoc (h : Added place s gs s') {g : FaceGeometry α} (h' : Added place s' [g] s'') :
    Added place s (gs ++ [g]) s'' where
  old := by
    intro i hi
    have hsize := h.size
    rw [h'.old i (by omega), h.old i hi]
  size := by
    have hsize := h.size
    have hsize' := h'.size
    simp only [List.length_append, List.length_singleton] at hsize' ⊢
    omega
  order := by
    rw [h'.order, h.order, h.size, List.append_assoc, List.length_append, List.length_singleton,
      Nat.mul_add, List.range'_append_1]
  cube := by
    intro k g' hk
    -- the box is an earlier one, which the last step kept, or the last one
    rcases Nat.lt_or_ge k gs.length with hlt | hge
    · rw [List.getElem?_append_left hlt] at hk
      exact (h.cube k g' hk).extends h'.old
    · have hlast := h'.cube 0 g rfl
      rw [List.getElem?_append_right hge] at hk
      obtain ⟨hzero, hg⟩ := List.getElem?_eq_some_iff.1 hk
      have hk' : k = gs.length := by
        rw [List.length_singleton] at hzero
        omega
      subst hk'
      simp only [Nat.sub_self, List.getElem_cons_zero] at hg
      subst hg
      rw [h.size] at hlast
      exact hlast
  -- the last box is selected, whatever was selected before it
  selected := by
    have hselected := h'.selected
    have hsize := h.size
    simp only [List.length_singleton, List.length_append] at hselected ⊢
    rw [if_neg (by omega)] at hselected ⊢
    rw [hselected, hsize]
    simp
  fileName := by rw [h'.fileName, h.fileName]

/-! ### One box -/

/-- A new cube at the origin. -/
private theorem run_createCube (side : α) (s : Scene α) :
    ∃ s', (Scene.createBox (.cube side)).run s = (.ok (boxAt s.nodes.size), s') ∧ s'.Extends s ∧
      s'.nodes.size = s.nodes.size + 3 ∧ s'.order = s.order ++ List.range' s.nodes.size 3 ∧
      IsCube s' s.nodes.size Transform.identity side ∧ s'.fileName = s.fileName := by
  refine ⟨_, Scene.run_createBox _ s, ?_, Scene.size_withGenerated .., Scene.order_withGenerated ..,
    ?_, Scene.fileName_withGenerated ..⟩
  · intro i hi
    exact Scene.getElem?_withGenerated_of_lt _ _ _ _ hi
  · exact ⟨⟨_, Scene.getElem?_withGenerated_transform ..⟩, ⟨_, Scene.getElem?_withGenerated_shape ..⟩,
      ⟨_, Scene.getElem?_withGenerated_generator ..⟩⟩

/-- A box for a face is added, and nothing in the scene can prevent it. -/
theorem run_placeBox {inverse : Mat4 α} (hinverse : (1 : Mat4 α).inverse? = some inverse)
    (settings : ConversionSettings) (g : FaceGeometry α) (s : Scene α) :
    ∃ s', (placeBox settings g).run s = (.ok (boxAt s.nodes.size), s') ∧
      Added inverse.applyPoint s [g] s' := by
  have hdimensions : boxDimensions settings g = .cube g.area := by
    unfold boxDimensions
    cases settings.sizeRule
    rfl
  obtain ⟨created, hcreate, hold, hsize, horder, hcube, hfile⟩ := run_createCube g.area s
  -- the transform is selected, moved and turned
  obtain ⟨name, htransform⟩ := hcube.transform
  have hselect := Scene.run_select htransform
  obtain ⟨selected, hselected⟩ :
      ∃ selected : Scene α, selected = { created with selected := [s.nodes.size] } := ⟨_, rfl⟩
  rw [← hselected] at hselect
  have hcube' : IsCube selected s.nodes.size Transform.identity g.area := by
    rw [hselected]
    exact ⟨hcube.transform, hcube.shape, hcube.generator⟩
  obtain ⟨name, htransform⟩ := hcube'.transform
  have hmove := Scene.run_setPosition_root hinverse htransform rfl rfl g.centroid
  have hmoved := hcube'.setTransform ⟨inverse.applyPoint g.centroid, 0⟩
  obtain ⟨name, htransform⟩ := hmoved.transform
  have hturn := Scene.run_setRotation_parent htransform rfl (FaceFrame.ofGeometry g).angles
  have hturned := hmoved.setTransform ⟨inverse.applyPoint g.centroid, (FaceFrame.ofGeometry g).angles⟩
  -- the transform is set twice: it is moved first and turned then
  refine ⟨(selected.setTransform s.nodes.size ⟨inverse.applyPoint g.centroid, 0⟩).setTransform
    s.nodes.size ⟨inverse.applyPoint g.centroid, (FaceFrame.ofGeometry g).angles⟩, ?_, ?_⟩
  · unfold placeBox
    rw [hdimensions, Scene.run_bind_ok hcreate]
    exact (Scene.run_bind_ok hselect _).trans <| (Scene.run_bind_ok hmove _).trans <|
      (Scene.run_bind_ok hturn _).trans (Scene.run_pure _ _)
  · rw [hselected] at hturned ⊢
    constructor
    case old =>
      intro i hi
      have hne : s.nodes.size ≠ i := by omega
      simp only [Scene.setTransform, Scene.getElem?_modifyNode_of_ne hne]
      exact hold i hi
    case size => simpa [Scene.setTransform] using hsize
    case order => exact horder
    -- only the first of the three nodes was changed afterwards, and it is the transform
    case cube =>
      intro k g' hk
      have hkzero : k = 0 := by
        have hlt := (List.getElem?_eq_some_iff.1 hk).1
        rw [List.length_singleton] at hlt
        omega
      subst hkzero
      cases hk
      exact hturned
    case selected => rfl
    case fileName => exact hfile

/-! ### All faces -/

variable {mesh : Nat} (settings : ConversionSettings)

/-- A face with a geometry gets the next box; its geometry is that of the scene before all boxes. -/
private theorem run_convertFace {inverse : Mat4 α} (hinverse : (1 : Mat4 α).inverse? = some inverse)
    (hmesh : mesh < s.nodes.size) (h : Added inverse.applyPoint s gs s') {face : Nat}
    {g : FaceGeometry α} (hg : s.faceGeometry (Handle.ofPlace mesh) face = .ok g) :
    ∃ s'', (convertFace settings (Handle.ofPlace mesh) face).run s' =
        (.ok (boxAt (s.nodes.size + 3 * gs.length)), s'') ∧
      Added inverse.applyPoint s (gs ++ [g]) s'' := by
  obtain ⟨s'', hrun, hadded⟩ := run_placeBox hinverse settings g s'
  rw [h.size] at hrun
  refine ⟨s'', ?_, h.snoc hadded⟩
  unfold convertFace
  rw [Scene.run_bind, Scene.run_query, h.old.faceGeometry hmesh, hg]
  exact hrun

/-- A face without a geometry ends the conversion. -/
theorem run_convertFace_error (hmesh : mesh < s.nodes.size) (hold : s'.Extends s)
    {face : Nat} {e : Failure} (he : s.faceGeometry (Handle.ofPlace mesh) face = .error e) :
    (convertFace settings (Handle.ofPlace mesh) face).run s' = (.error e, s') := by
  unfold convertFace
  rw [Scene.run_bind, Scene.run_query, hold.faceGeometry hmesh, he]

/-- Faces with geometries get one box after the other. -/
theorem run_convertFaces {inverse : Mat4 α} (hinverse : (1 : Mat4 α).inverse? = some inverse)
    (hmesh : mesh < s.nodes.size) {faces : List Nat} {more : List (FaceGeometry α)}
    (hfaces : List.Forall₂ (fun face g => s.faceGeometry (Handle.ofPlace mesh) face = .ok g) faces more)
    (h : Added inverse.applyPoint s gs s') :
    ∃ s'', (faces.mapM (convertFace settings (Handle.ofPlace mesh))).run s' =
        (.ok ((List.range' gs.length more.length).map fun k => boxAt (s.nodes.size + 3 * k)), s'') ∧
      Added inverse.applyPoint s (gs ++ more) s'' := by
  -- the boxes so far are the invariant; each face adds one behind them
  induction hfaces generalizing gs s' with
  | nil => exact ⟨s', rfl, by rwa [List.append_nil]⟩
  | @cons face g faces more hg hfaces ih =>
    obtain ⟨s₁, hrun, hadded⟩ := run_convertFace settings hinverse hmesh h hg
    obtain ⟨s₂, hrest, hall⟩ := ih hadded
    rw [List.append_assoc, List.singleton_append] at hall
    refine ⟨s₂, ?_, hall⟩
    rw [List.length_append, List.length_singleton] at hrest
    rw [List.mapM_cons, Scene.run_bind_ok hrun, Scene.run_bind_ok hrest, Scene.run_pure,
      List.length_cons, List.range'_succ, List.map_cons]

end

end Scenery.Conversion
