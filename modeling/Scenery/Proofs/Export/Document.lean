import Scenery.Proofs.Export.Blocks
import Scenery.Proofs.Scene.Hierarchy

/-!
# The document of any scene

Which blocks the document of a scene has, and when there is none.  Every generator needs a mesh with a
parent, and every leaf camera a transform as parent; nothing else can prevent the document.

* `mem_document`       what each block is made of
* `IsDocument`         the blocks of a document, in order
* `document_ofCalls`   a document is complete, and missing only for a reason
-/

namespace Scenery.Export

open Scene (Call ofCalls)

variable {α : Type} {s : Scene α}

/-! ### Failures -/

/-- A failure says that something is missing in the scene. -/
def IsResolution (e : Failure) : Prop := ∃ cause, e = .resolution cause

/-- A handle that names no node cannot be resolved. -/
private theorem entry_fails (s : Scene α) (h : Handle) : FailsWith IsResolution (s.entry h) := by
  unfold Scene.entry
  split
  · exact .ok _
  · exact .error ⟨_, rfl⟩

/-- The name of a node is missing only if the handle cannot be resolved. -/
private theorem name_fails (s : Scene α) (h : Handle) : FailsWith IsResolution (s.name h) :=
  (entry_fails s h).map _

/-- What a node holds is missing only if the handle, or the kind of the node, cannot be resolved. -/
private theorem aspect_fails {β : Type} (s : Scene α) (h : Handle) (lack : Lack)
    (view : NodeData α → Option β) : FailsWith IsResolution (s.aspect h lack view) := by
  refine (entry_fails s h).bind fun e => ?_
  obtain ⟨i, n⟩ := e
  dsimp only
  split
  · exact .ok _
  · exact .error ⟨_, rfl⟩

/-- To lack something is to fail to resolve it. -/
private theorem lacking_fails {β : Type} (s : Scene α) (h : Handle) (lack : Lack) :
    FailsWith IsResolution (lacking s h lack : Except Failure β) :=
  .error ⟨_, rfl⟩

/-- The name and the placement of a node, and what is made of them. -/
private theorem placement_fails {β : Type} (s : Scene α) (h : Handle)
    (k : String → Vec3 α → Vec3 α → β) :
    FailsWith IsResolution (do
      let name ← s.name h
      let position ← s.position h
      let rotation ← s.rotation h
      return k name position rotation) :=
  (name_fails s h).bind fun _ => ((aspect_fails s h _ _).map _).bind fun _ =>
    ((aspect_fails s h _ _).map _).bind fun _ => .ok _

/-- A design fails only over nodes that cannot be resolved. -/
private theorem designBlock_fails (settings : ExportSettings) (s : Scene α) (g : Handle)
    (shape : Shape α) : FailsWith IsResolution (designBlock settings s g shape) := by
  have howning : FailsWith IsResolution (owningTransform s g) := by
    unfold owningTransform
    split
    · exact lacking_fails _ _ _
    split
    · exact lacking_fails _ _ _
    split
    · exact .ok _
    · exact lacking_fails _ _ _
  exact howning.bind fun p => placement_fails s p _

/-- A camera fails only over nodes that cannot be resolved. -/
private theorem cameraBlock_fails (s : Scene α) (c : Handle) :
    FailsWith IsResolution (cameraBlock s c) := by
  unfold cameraBlock
  split
  · exact lacking_fails _ _ _
  · exact placement_fails s _ _

/-- A document is missing only because something is missing in the scene. -/
theorem document_fails [Scalar α] (settings : ExportSettings) (s : Scene α) :
    FailsWith IsResolution (document settings s) := by
  have hcameras : FailsWith IsResolution (cameraBlocks s) :=
    (FailsWith.mapM (cameraBlock_fails s) _).bind fun _ => .ok _
  have hdesigns : FailsWith IsResolution (designBlocks settings s) := by
    refine FailsWith.bind (.mapM (fun g => ?_) _) fun _ => FailsWith.bind (.mapM (fun g => ?_) _)
      fun _ => .ok _
    · exact (aspect_fails s g _ _).bind fun _ => designBlock_fails settings s g _
    · exact (aspect_fails s g _ _).bind fun _ => designBlock_fails settings s g _
  refine hcameras.bind fun cameras => hdesigns.bind fun designs => ?_
  split <;> exact .ok _

/-! ### Blocks of both kinds -/

/-- The blocks of both kinds in the order of the settings. -/
def arrange (order : BlockOrder) (cameras : List (CameraBlock α)) (designs : List (DesignBlock α)) :
    List (Block α) :=
  match order with
  | .camerasFirst => cameras.map .camera ++ designs.map .design
  | .designBlocksFirst => designs.map .design ++ cameras.map .camera

/-- Arranging keeps the designs in their order. -/
theorem designBlocks_arrange (order : BlockOrder) (cameras : List (CameraBlock α))
    (designs : List (DesignBlock α)) :
    Document.designBlocks ⟨arrange order cameras designs⟩ = designs := by
  cases order <;> simp [arrange, Document.designBlocks, Function.comp_def, Block.design?]

/-- Arranging keeps the cameras in their order. -/
theorem cameraBlocks_arrange (order : BlockOrder) (cameras : List (CameraBlock α))
    (designs : List (DesignBlock α)) :
    Document.cameraBlocks ⟨arrange order cameras designs⟩ = cameras := by
  cases order <;> simp [arrange, Document.cameraBlocks, Function.comp_def, Block.camera?]

/-- The arranged blocks are the cameras and the designs. -/
private theorem mem_arrange {order : BlockOrder} {cameras : List (CameraBlock α)}
    {designs : List (DesignBlock α)} {b : Block α} : b ∈ arrange order cameras designs ↔
      (∃ camera ∈ cameras, .camera camera = b) ∨ ∃ design ∈ designs, .design design = b := by
  cases order with
  | camerasFirst => simp [arrange]
  | designBlocksFirst => simp [arrange, or_comm]

/-- The camera blocks are those of the leaf cameras, one by one. -/
theorem cameraBlocks_eq_ok {d : Document α} : cameraBlocks s = .ok d ↔
    ∃ cameras, List.Forall₂ (IsCamera s) s.leafCameras cameras ∧ ⟨cameras.map .camera⟩ = d := by
  unfold cameraBlocks
  simp only [bind_eq_ok, mapM_eq_ok_map fun c _ b => cameraBlock_eq_ok_iff]
  constructor
  · intro hd
    obtain ⟨_, ⟨cameras, hcameras, rfl⟩, hd⟩ := hd
    cases hd
    exact ⟨cameras, hcameras, rfl⟩
  · intro hd
    obtain ⟨cameras, hcameras, rfl⟩ := hd
    exact ⟨_, ⟨cameras, hcameras, rfl⟩, rfl⟩

variable [Scalar α] {settings : ExportSettings}

/-! ### Documents -/

/-- A generator has a block exactly if its mesh is below a node, since that is a transform then. -/
private theorem exists_isDesign (h : s.WellFormed) (hplaced : s.MeshesPlaced) {g : Handle}
    (hg : s.kind? g = some .sphere ∨ s.kind? g = some .box) :
    (∃ design, IsDesign settings s g design) ↔ ∃ p, IsOwner s g p := by
  constructor
  · intro hd
    obtain ⟨_, p, _, _, _, hp, -⟩ := hd
    exact ⟨p, hp⟩
  · intro hp
    obtain ⟨p, mesh, houtput, hparent⟩ := hp
    -- a generator has a shape in any case
    obtain ⟨shape, hshape⟩ : ∃ shape, HasShape s g shape := by
      rcases hg with hg | hg
      · obtain ⟨r, hr⟩ := Scene.kind?_eq_sphere.1 hg
        exact ⟨_, .sphere hr⟩
      · obtain ⟨d, hd⟩ := Scene.kind?_eq_box.1 hg
        exact ⟨_, .box hd⟩
    have htransform : s.kind? p = some .transform :=
      h.kind?_owner hplaced houtput hparent
    obtain ⟨name, t, hname, ht⟩ := kind?_transform_iff.1 htransform
    exact ⟨_, p, name, t, shape, ⟨mesh, houtput, hparent⟩, hname, ht, hshape, rfl⟩

/-- The design blocks are those of the spheres and then of the boxes, one by one. -/
theorem designBlocks_eq_ok (h : s.WellFormed) {d : Document α} :
    designBlocks settings s = .ok d ↔ ∃ spheres boxes,
      List.Forall₂ (IsDesign settings s) (s.nodesOfKind .sphere) spheres ∧
      List.Forall₂ (IsDesign settings s) (s.nodesOfKind .box) boxes ∧
      ⟨(spheres ++ boxes).map .design⟩ = d := by
  -- each kind is listed on its own, and a listed node has the kind that its block needs
  have hspheres {blocks} : (s.nodesOfKind .sphere).mapM (sphereBlock settings s) = .ok blocks ↔
      ∃ designs, List.Forall₂ (IsDesign settings s) (s.nodesOfKind .sphere) designs ∧
        designs.map .design = blocks :=
    mapM_eq_ok_map fun g hg b => sphereBlock_eq_ok_iff (((h.lists_nodesOfKind .sphere).mem g).1 hg)
  have hboxes {blocks} : (s.nodesOfKind .box).mapM (boxBlock settings s) = .ok blocks ↔
      ∃ designs, List.Forall₂ (IsDesign settings s) (s.nodesOfKind .box) designs ∧
        designs.map .design = blocks :=
    mapM_eq_ok_map fun g hg b => boxBlock_eq_ok_iff (((h.lists_nodesOfKind .box).mem g).1 hg)
  unfold designBlocks
  simp only [bind_eq_ok, hspheres, hboxes, List.map_append]
  constructor
  · intro hd
    obtain ⟨_, ⟨spheres, hspheres, rfl⟩, _, ⟨boxes, hboxes, rfl⟩, hd⟩ := hd
    cases hd
    exact ⟨spheres, boxes, hspheres, hboxes, rfl⟩
  · intro hd
    obtain ⟨spheres, boxes, hspheres, hboxes, rfl⟩ := hd
    exact ⟨_, ⟨spheres, hspheres, rfl⟩, _, ⟨boxes, hboxes, rfl⟩, rfl⟩

/-- A document has the blocks of the leaf cameras and of the generators, arranged as the settings say. -/
theorem document_eq_ok (h : s.WellFormed) {d : Document α} : document settings s = .ok d ↔
    ∃ cameras spheres boxes, List.Forall₂ (IsCamera s) s.leafCameras cameras ∧
      List.Forall₂ (IsDesign settings s) (s.nodesOfKind .sphere) spheres ∧
      List.Forall₂ (IsDesign settings s) (s.nodesOfKind .box) boxes ∧
      ⟨arrange settings.blockOrder cameras (spheres ++ boxes)⟩ = d := by
  unfold document
  simp only [bind_eq_ok, cameraBlocks_eq_ok, designBlocks_eq_ok h]
  -- both kinds of blocks are made before they are put in order
  have harrange (cameras : List (CameraBlock α)) (designs : List (DesignBlock α)) :
      (match settings.blockOrder with
        | .camerasFirst => pure (⟨cameras.map .camera⟩ ++ ⟨designs.map .design⟩)
        | .designBlocksFirst => pure (⟨designs.map .design⟩ ++ ⟨cameras.map .camera⟩) :
          Except Failure (Document α)) = .ok d ↔ ⟨arrange settings.blockOrder cameras designs⟩ = d := by
    cases settings.blockOrder <;> exact Iff.of_eq (Except.ok.injEq _ _)
  constructor
  · intro hd
    obtain ⟨_, ⟨cameras, hcameras, rfl⟩, _, ⟨spheres, boxes, hspheres, hboxes, rfl⟩, hd⟩ := hd
    exact ⟨cameras, spheres, boxes, hcameras, hspheres, hboxes, (harrange ..).1 hd⟩
  · intro hd
    obtain ⟨cameras, spheres, boxes, hcameras, hspheres, hboxes, hd⟩ := hd
    exact ⟨_, ⟨cameras, hcameras, rfl⟩, _, ⟨spheres, boxes, hspheres, hboxes, rfl⟩, (harrange ..).2 hd⟩

/-- Every block of a document has the name and the placement of a transform, and a design block has
the sizes of a generator and the material of the settings. -/
theorem mem_document (h : s.WellFormed) {d : Document α} (hd : document settings s = .ok d)
    {b : Block α} (hb : b ∈ d.blocks) : ∃ name t, IsPlaced s name t ∧
      (b = .camera ⟨name, t.position, t.rotation⟩ ∨ ∃ shape, IsGenerated s shape ∧
        b = .design ⟨name, shape, t.position, t.rotation, settings.material⟩) := by
  obtain ⟨cameras, spheres, boxes, hc, hsp, hbx, rfl⟩ := (document_eq_ok h).1 hd
  rcases mem_arrange.1 hb with ⟨camera, hmem, rfl⟩ | ⟨design, hmem, rfl⟩
  · obtain ⟨c, p, name, t, -, hname, ht, rfl⟩ := exists_forall₂.1 ⟨_, hc.flip⟩ camera hmem
    exact ⟨name, t, isPlaced_of_queries hname ht, .inl rfl⟩
  · have hdesigns := List.rel_append hsp hbx
    obtain ⟨g, p, name, t, shape, -, hname, ht, hshape, rfl⟩ :=
      exists_forall₂.1 ⟨_, hdesigns.flip⟩ design hmem
    exact ⟨name, t, isPlaced_of_queries hname ht, .inr ⟨shape, hshape.isGenerated, rfl⟩⟩

/-- A document is there exactly if each generator and each leaf camera has a block. -/
private theorem exists_document (h : s.WellFormed) : (∃ d, document settings s = .ok d) ↔
    (∀ g, s.kind? g = some .sphere ∨ s.kind? g = some .box → ∃ design, IsDesign settings s g design) ∧
      ∀ c, s.IsLeafCamera c → ∃ camera, IsCamera s c camera := by
  have hspheres := (h.lists_nodesOfKind .sphere).mem
  have hboxes := (h.lists_nodesOfKind .box).mem
  have hcameras := h.lists_leafCameras.mem
  simp only [document_eq_ok h]
  constructor
  · intro hd
    obtain ⟨_, cameras, spheres, boxes, hc, hsp, hbx, -⟩ := hd
    refine ⟨fun g hg => ?_, fun c hleaf => exists_forall₂.1 ⟨_, hc⟩ c ((hcameras c).2 hleaf)⟩
    rcases hg with hg | hg
    · exact exists_forall₂.1 ⟨_, hsp⟩ g ((hspheres g).2 hg)
    · exact exists_forall₂.1 ⟨_, hbx⟩ g ((hboxes g).2 hg)
  · -- one by one the nodes have their blocks, so each of the lists has
    intro hall
    obtain ⟨hdesign, hcamera⟩ := hall
    obtain ⟨cameras, hc⟩ := exists_forall₂.2 fun c hc => hcamera c ((hcameras c).1 hc)
    obtain ⟨spheres, hsp⟩ := exists_forall₂.2 fun g hg => hdesign g (.inl ((hspheres g).1 hg))
    obtain ⟨boxes, hbx⟩ := exists_forall₂.2 fun g hg => hdesign g (.inr ((hboxes g).1 hg))
    exact ⟨_, cameras, spheres, boxes, hc, hsp, hbx, rfl⟩

/-- The document of a scene: one block for each generator, spheres before boxes, and one for each leaf
camera, both in the order of creation. -/
structure IsDocument (settings : ExportSettings) (s : Scene α) (d : Document α) : Prop where
  designs : ∃ spheres boxes, s.Lists (fun g => s.kind? g = some .sphere) spheres ∧
    s.Lists (fun g => s.kind? g = some .box) boxes ∧
    List.Forall₂ (IsDesign settings s) (spheres ++ boxes) d.designBlocks
  cameras : ∃ cameras, s.Lists s.IsLeafCamera cameras ∧
    List.Forall₂ (IsCamera s) cameras d.cameraBlocks
  blocks : d.blocks = arrange settings.blockOrder d.cameraBlocks d.designBlocks

/-- The document of a well-formed scene has the blocks that it should have, in their order. -/
theorem isDocument (h : s.WellFormed) {d : Document α} (hd : document settings s = .ok d) :
    IsDocument settings s d := by
  obtain ⟨cameras, spheres, boxes, hc, hsp, hbx, rfl⟩ := (document_eq_ok h).1 hd
  constructor
  case designs =>
    rw [designBlocks_arrange]
    exact ⟨_, _, h.lists_nodesOfKind .sphere, h.lists_nodesOfKind .box, List.rel_append hsp hbx⟩
  case cameras =>
    rw [cameraBlocks_arrange]
    exact ⟨_, h.lists_leafCameras, hc⟩
  case blocks => rw [designBlocks_arrange, cameraBlocks_arrange]

/-- Settings with another order of the blocks give a document with the same blocks. -/
private theorem document_blockOrder (h : s.WellFormed) {d : Document α}
    (hd : document settings s = .ok d) (order : BlockOrder) :
    document { settings with blockOrder := order } s =
      .ok ⟨arrange order d.cameraBlocks d.designBlocks⟩ := by
  obtain ⟨cameras, spheres, boxes, hc, hsp, hbx, rfl⟩ := (document_eq_ok h).1 hd
  rw [designBlocks_arrange, cameraBlocks_arrange]
  exact (document_eq_ok h).2 ⟨cameras, spheres, boxes, hc, hsp, hbx, rfl⟩

/-- In every scene that arises, a document is there exactly if each generator feeds a mesh with a
parent and each leaf camera has a transform as parent.  If not, the failure says what is missing; if
so, the document is complete, and the order in the settings only moves its blocks. -/
theorem document_ofCalls (settings : ExportSettings) (calls : List (Call α)) :
    ((∃ d, document settings (ofCalls calls) = .ok d) ↔
      (∀ g, (ofCalls calls).kind? g = some .sphere ∨ (ofCalls calls).kind? g = some .box →
        ∃ p, IsOwner (ofCalls calls) g p) ∧
      ∀ c, (ofCalls calls).IsLeafCamera c →
        ∃ p, (ofCalls calls).parent? c = some p ∧ (ofCalls calls).kind? p = some .transform) ∧
    (∀ e, document settings (ofCalls calls) = .error e → IsResolution e) ∧
    ∀ d, document settings (ofCalls calls) = .ok d → IsDocument settings (ofCalls calls) d ∧
      ∀ order, document { settings with blockOrder := order } (ofCalls calls) =
        .ok ⟨arrange order d.cameraBlocks d.designBlocks⟩ := by
  have h := Scene.wellFormed_ofCalls calls
  have hplaced := Scene.meshesPlaced_ofCalls calls
  refine ⟨?_, document_fails settings _, fun d hd => ⟨isDocument h hd, document_blockOrder h hd⟩⟩
  rw [exists_document h]
  exact and_congr (forall_congr' fun g => forall_congr' fun hg => exists_isDesign h hplaced hg)
    (forall_congr' fun c => forall_congr' fun _ => exists_isCamera)

end Scenery.Export
