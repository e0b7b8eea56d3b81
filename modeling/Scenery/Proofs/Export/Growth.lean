import Scenery.Proofs.Export.Document
import Scenery.Proofs.Scene.Frame

/-!
# Documents of scenes that grow

The block of a generator or of a camera is made of the nodes that it feeds and that stand above it, and
whether a camera has a block depends on the nodes below it.  None of them is lost or changed when nodes
are added beside them; so the blocks stay, and so do the failures.

* `Extends.hasCameraBelow`    the cameras below a node stay the same
* `cameraBlocks_of_extends`   the blocks of cameras stay the same
* `designBlocks_of_extends`   the blocks of new boxes stand behind those of the generators before
* `document_of_extends`       what becomes of the document, or of its failure
-/

namespace Scenery

/-! ### Queries -/

namespace Scene

variable {α : Type} {s s' : Scene α} {i : Nat}

namespace WellFormed

/-- What is below a node is in the scene. -/
theorem lt_of_mem_descendants (h : s.WellFormed) {k : Nat} (hk : k ∈ s.descendants i) :
    k < s.nodes.size := by
  obtain ⟨p, -, hchild⟩ := Relation.TransGen.tail'_iff.1 (h.mem_descendants.1 hk)
  obtain ⟨q, n, j, -, hn, hj, hkj⟩ := Scene.mem_children.1 hchild
  cases Handle.ofPlace_injective hkj
  exact (h.child_bounds hn hj).2

/-- The parent of an old node is an old node. -/
theorem exists_parent_lt (h : s.WellFormed) (hi : i < s.nodes.size) {p : Handle}
    (hp : s.parent? (Handle.ofPlace i) = some p) : ∃ j < s.nodes.size, p = Handle.ofPlace j := by
  obtain ⟨k, n, j, hk, hn, hj, rfl⟩ := parent?_eq_some.1 hp
  cases Handle.ofPlace_injective hk
  exact ⟨j, Nat.lt_trans (h.parent_lt i n j hn hj) hi, rfl⟩

/-- A node of some kind stands at a place. -/
theorem exists_place_of_mem (h : s.WellFormed) {k : NodeKind} {g : Handle} (hg : g ∈ s.nodesOfKind k) :
    ∃ i < s.nodes.size, g = Handle.ofPlace i := by
  obtain ⟨i, n, rfl, hn, -⟩ := kind?_eq_some.1 (((h.lists_nodesOfKind k).mem g).1 hg)
  exact ⟨i, (Array.getElem?_eq_some_iff.1 hn).1, rfl⟩

/-- The nodes of a larger scene with a property are those of the smaller one, followed by new ones. -/
theorem handlesWhere_of_extends (h : s.WellFormed) (hold : s'.Extends s) {more : List Nat}
    (horder : s'.order = s.order ++ more) (p : Node α → Bool) : s'.handlesWhere p =
      s.handlesWhere p ++ (more.filter fun i => (s'.nodes[i]?).any p).map Handle.ofPlace := by
  unfold handlesWhere
  rw [horder, List.filter_append, List.map_append]
  congr 2
  apply List.filter_congr
  intro i hi
  rw [h.order, List.mem_range] at hi
  rw [hold i hi]

end WellFormed

namespace Extends

/-- An old generator feeds what it fed. -/
theorem output? (h : s'.Extends s) (hs : s.WellFormed) (hi : i < s.nodes.size) :
    s'.output? (Handle.ofPlace i) = s.output? (Handle.ofPlace i) := by
  unfold Scene.output?
  rw [h.node? hi, node?_ofPlace, Array.getElem?_eq_getElem hi, Option.bind_some]
  cases houtput : s.nodes[i].output with
  | none => rfl
  | some j =>
    -- the mesh that is fed is in both scenes
    obtain ⟨m, v, hm, -⟩ := hs.output_mesh i _ j (Array.getElem?_eq_getElem hi) houtput
    have hj := (Array.getElem?_eq_some_iff.1 hm).1
    have hj' := (Array.getElem?_eq_some_iff.1 ((h j hj).trans hm)).1
    have hholds : s'.holds j = s.holds j := by simp [holds, hj, hj']
    rw [Option.filter_some, Option.filter_some, hholds]

/-- The walk downwards only meets children that the node had before. -/
private theorem descendants (h : s'.Extends s) (hs : s.WellFormed) (hi : i < s.nodes.size) :
    s'.descendants i = s.descendants i := by
  induction hleft : s.nodes.size - i using Nat.strongRecOn generalizing i with
  | ind left ih =>
    unfold Scene.descendants
    rw [h i hi, Array.getElem?_eq_getElem hi]
    apply List.flatMap_congr
    intro j hj
    have hbounds := hs.child_bounds (Array.getElem?_eq_getElem hi) hj
    have hj' := (Array.getElem?_eq_some_iff.1
      ((h j hbounds.2).trans (Array.getElem?_eq_getElem hbounds.2))).1
    rw [if_pos hbounds, if_pos ⟨hbounds.1, hj'⟩, ih _ (by omega) hbounds.2 rfl]

/-- No camera comes below an old node. -/
theorem hasCameraBelow (h : s'.Extends s) (hs : s.WellFormed) (hi : i < s.nodes.size) :
    s'.hasCameraBelow (Handle.ofPlace i) = s.hasCameraBelow (Handle.ofPlace i) := by
  have hn : s.nodes[i]? = some s.nodes[i] := Array.getElem?_eq_getElem hi
  have hentry := entry?_eq_some.2 ⟨rfl, hn⟩
  have hentry' := entry?_eq_some.2 ⟨rfl, (h i hi).trans hn⟩
  unfold Scene.hasCameraBelow
  rw [hentry, hentry']
  dsimp only
  rw [h.descendants hs hi]
  rw [Bool.eq_iff_iff, List.any_eq_true, List.any_eq_true]
  refine exists_congr fun j => and_congr_right fun hj => ?_
  rw [h j (hs.lt_of_mem_descendants hj)]

end Extends

end Scene

/-! ### Blocks -/

namespace Export

variable {α : Type} {s s' : Scene α} {i : Nat} {settings : ExportSettings}

/-- What an old node lacks is said in the same words. -/
private theorem lacking_of_extends {β : Type} (h : s'.Extends s) (hi : i < s.nodes.size) (lack : Lack) :
    (lacking s' (Handle.ofPlace i) lack : Except Failure β) = lacking s (Handle.ofPlace i) lack := by
  unfold lacking
  rw [h.displayName hi]

/-- An old generator keeps its owner. -/
private theorem owningTransform_of_extends (h : s'.Extends s) (hs : s.WellFormed)
    (hi : i < s.nodes.size) :
    owningTransform s' (Handle.ofPlace i) = owningTransform s (Handle.ofPlace i) := by
  unfold owningTransform
  rw [h.output? hs hi]
  cases houtput : s.output? (Handle.ofPlace i) with
  | none => exact lacking_of_extends h hi _
  | some mesh =>
    obtain ⟨_, _, j, -, -, -, hholds, rfl⟩ := Scene.output?_eq_some.1 houtput
    have hj : j < s.nodes.size := of_decide_eq_true hholds
    dsimp only
    rw [h.parent? hj]
    cases hparent : s.parent? (Handle.ofPlace j) with
    | none => exact lacking_of_extends h hj _
    | some p =>
      obtain ⟨k, hk, rfl⟩ := hs.exists_parent_lt hj hparent
      dsimp only
      rw [h.kind? hk, lacking_of_extends h hk]

/-- An old generator keeps its design. -/
private theorem designBlock_of_extends (h : s'.Extends s) (hs : s.WellFormed) (hi : i < s.nodes.size)
    (shape : Shape α) :
    designBlock settings s' (Handle.ofPlace i) shape = designBlock settings s (Handle.ofPlace i) shape := by
  unfold designBlock
  rw [owningTransform_of_extends h hs hi]
  cases howner : owningTransform s (Handle.ofPlace i) with
  | error e => rfl
  | ok p =>
    obtain ⟨k, n, rfl, hn, -⟩ := Scene.kind?_eq_some.1 (owningTransform_eq_ok.1 howner).2
    have hk := (Array.getElem?_eq_some_iff.1 hn).1
    simp only [bind, Except.bind, h.name hk, h.position hk, h.rotation hk]

/-- An old camera keeps its block. -/
private theorem cameraBlock_of_extends (h : s'.Extends s) (hs : s.WellFormed) (hi : i < s.nodes.size) :
    cameraBlock s' (Handle.ofPlace i) = cameraBlock s (Handle.ofPlace i) := by
  unfold cameraBlock
  rw [h.parent? hi]
  cases hparent : s.parent? (Handle.ofPlace i) with
  | none => exact lacking_of_extends h hi _
  | some p =>
    obtain ⟨k, hk, rfl⟩ := hs.exists_parent_lt hi hparent
    simp only [h.name hk, h.position hk, h.rotation hk]

/-- Without new cameras, the blocks of cameras stay the same. -/
theorem cameraBlocks_of_extends (h : s'.Extends s) (hs : s.WellFormed)
    (hcameras : s'.nodesOfKind .camera = s.nodesOfKind .camera) : cameraBlocks s' = cameraBlocks s := by
  have hleaves : s'.leafCameras = s.leafCameras := by
    unfold Scene.leafCameras
    rw [hcameras]
    apply List.filter_congr
    intro c hc
    obtain ⟨i, hi, rfl⟩ := hs.exists_place_of_mem hc
    rw [h.hasCameraBelow hs hi]
  unfold cameraBlocks
  rw [hleaves, mapM_congr fun c hc => ?_]
  obtain ⟨i, hi, rfl⟩ := hs.exists_place_of_mem (List.mem_filter.1 hc).1
  exact cameraBlock_of_extends h hs hi

/-- An old generator of spheres keeps its block. -/
private theorem sphereBlock_of_extends (h : s'.Extends s) (hs : s.WellFormed) (hi : i < s.nodes.size) :
    sphereBlock settings s' (Handle.ofPlace i) = sphereBlock settings s (Handle.ofPlace i) := by
  unfold sphereBlock Scene.radius
  rw [h.aspect hi]
  exact bind_congr fun r => designBlock_of_extends h hs hi _

variable [Scalar α]

/-- An old generator of boxes keeps its block. -/
private theorem boxBlock_of_extends (h : s'.Extends s) (hs : s.WellFormed) (hi : i < s.nodes.size) :
    boxBlock settings s' (Handle.ofPlace i) = boxBlock settings s (Handle.ofPlace i) := by
  unfold boxBlock Scene.dimensions
  rw [h.aspect hi]
  exact bind_congr fun d => designBlock_of_extends h hs hi _

/-- With new boxes and no new spheres, the blocks of the boxes stand behind those of the generators
before. -/
theorem designBlocks_of_extends (h : s'.Extends s) (hs : s.WellFormed)
    (hspheres : s'.nodesOfKind .sphere = s.nodesOfKind .sphere) {more : List Handle}
    (hboxes : s'.nodesOfKind .box = s.nodesOfKind .box ++ more) {new : List (Block α)}
    (hnew : more.mapM (boxBlock settings s') = .ok new) :
    designBlocks settings s' = (designBlocks settings s).map fun d => ⟨d.blocks ++ new⟩ := by
  have hsphereBlocks : (s.nodesOfKind .sphere).mapM (sphereBlock settings s') =
      (s.nodesOfKind .sphere).mapM (sphereBlock settings s) := by
    refine mapM_congr fun g hg => ?_
    obtain ⟨i, hi, rfl⟩ := hs.exists_place_of_mem hg
    exact sphereBlock_of_extends h hs hi
  have hboxBlocks : (s.nodesOfKind .box).mapM (boxBlock settings s') =
      (s.nodesOfKind .box).mapM (boxBlock settings s) := by
    refine mapM_congr fun g hg => ?_
    obtain ⟨i, hi, rfl⟩ := hs.exists_place_of_mem hg
    exact boxBlock_of_extends h hs hi
  unfold designBlocks
  rw [hspheres, hsphereBlocks, hboxes, List.mapM_append, hboxBlocks, hnew]
  -- the new blocks are there, so only the others can fail
  cases (s.nodesOfKind .sphere).mapM (sphereBlock settings s) with
  | error e => rfl
  | ok spheres =>
    cases (s.nodesOfKind .box).mapM (boxBlock settings s) with
    | error e => rfl
    | ok boxes => simp [bind, Except.bind, pure, Except.pure, Except.map]

/-- What becomes of the document when boxes are added to a scene: a failure stays, and otherwise the
blocks of the boxes stand behind the design blocks before. -/
theorem document_of_extends (h : s'.Extends s) (hs : s.WellFormed)
    (hcameras : s'.nodesOfKind .camera = s.nodesOfKind .camera)
    (hspheres : s'.nodesOfKind .sphere = s.nodesOfKind .sphere) {more : List Handle}
    (hboxes : s'.nodesOfKind .box = s.nodesOfKind .box ++ more) {new : List (DesignBlock α)}
    (hnew : more.mapM (boxBlock settings s') = .ok (new.map .design)) :
    (∀ e, document settings s = .error e → document settings s' = .error e) ∧
    ∀ d, document settings s = .ok d → ∃ cameras spheres boxes,
      List.Forall₂ (IsCamera s) s.leafCameras cameras ∧
      List.Forall₂ (IsDesign settings s) (s.nodesOfKind .sphere) spheres ∧
      List.Forall₂ (IsDesign settings s) (s.nodesOfKind .box) boxes ∧
      d = ⟨arrange settings.blockOrder cameras (spheres ++ boxes)⟩ ∧
      document settings s' = .ok ⟨arrange settings.blockOrder cameras (spheres ++ boxes ++ new)⟩ := by
  have hcameraBlocks := cameraBlocks_of_extends h hs hcameras
  have hdesignBlocks := designBlocks_of_extends h hs hspheres hboxes hnew
  constructor
  · -- both parts fail or succeed as they did, and the first failure is reported
    intro e he
    unfold document at he ⊢
    rw [hcameraBlocks, hdesignBlocks]
    cases hc : cameraBlocks s with
    | error _ => rwa [hc] at he
    | ok cameras =>
      cases hd : designBlocks settings s with
      | error _ => rwa [hc, hd] at he
      | ok designs =>
        rw [hc, hd] at he
        cases horder : settings.blockOrder <;> simp [horder, bind, Except.bind, pure, Except.pure] at he
  · -- the old blocks come out again, with the new ones behind the old boxes
    intro d hd
    obtain ⟨cameras, spheres, boxes, hc, hsp, hbx, rfl⟩ := (document_eq_ok hs).1 hd
    refine ⟨cameras, spheres, boxes, hc, hsp, hbx, rfl, ?_⟩
    unfold document
    rw [hcameraBlocks, hdesignBlocks, cameraBlocks_eq_ok.2 ⟨cameras, hc, rfl⟩,
      (designBlocks_eq_ok hs).2 ⟨spheres, boxes, hsp, hbx, rfl⟩]
    have happend (xs ys : List (Block α)) : (⟨xs⟩ ++ ⟨ys⟩ : Document α) = ⟨xs ++ ys⟩ := rfl
    cases settings.blockOrder <;>
      simp [arrange, bind, Except.bind, pure, Except.pure, Except.map, happend]

end Export

end Scenery
