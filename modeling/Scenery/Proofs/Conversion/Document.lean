import Scenery.Proofs.Conversion.Convert
import Scenery.Proofs.Export.Growth

/-!
# The document after a conversion

The boxes that a conversion adds are new nodes behind those before, so nothing that the document is made
of changes; and each of them feeds a mesh below a transform, so it has a block.

* `Added.nodesOfKind_box`     the generators of the new boxes stand behind those before
* `IsCube.exists_block`       the block of a new box
* `document_convert_ofCalls`  the document after the conversion, from the one before
-/

namespace Scenery.Conversion

open Export (boxBlock IsCamera IsDesign arrange document)
open Scene (Call ofCalls)

variable {α : Type} [Scalar α] {s s' : Scene α} {place : Vec3 α → Vec3 α} {gs : List (FaceGeometry α)}

/-! ### Generators -/

/-- Where the nodes of a kind are in the cube from a place on: its three nodes are of different kinds. -/
private def placesOfKind (i : Nat) : NodeKind → List Nat
  | .transform => [i]
  | .mesh => [i + 1]
  | .box => [i + 2]
  | .sphere | .camera => []

omit [Scalar α] in
/-- Of the three nodes of a box, one has each of the kinds. -/
private theorem IsCube.filter_kind {i : Nat} {t : Transform α} {side : α} (h : IsCube s i t side)
    (kind : NodeKind) : [i, i + 1, i + 2].filter (fun j => (s.nodes[j]?).any (·.kind == kind)) =
      placesOfKind i kind := by
  obtain ⟨_, htransform⟩ := h.transform
  obtain ⟨_, hshape⟩ := h.shape
  obtain ⟨_, hgenerator⟩ := h.generator
  simp only [List.filter_cons, List.filter_nil, htransform, hshape, hgenerator, Option.any_some, Node.kind,
    NodeData.kind]
  cases kind <;> rfl

/-- Three places for each box are all the places that the boxes take. -/
private theorem range'_mul_three (n count : Nat) : List.range' n (3 * count) =
    (List.range count).flatMap fun k => [n + 3 * k, n + 3 * k + 1, n + 3 * k + 2] := by
  induction count with
  | zero => rfl
  | succ count ih =>
    rw [Nat.mul_succ, ← List.range'_append_1, ih, List.range_succ, List.flatMap_append]
    rfl

/-- The nodes of a kind after boxes were added: those before, and those in the new cubes. -/
private theorem Added.nodesOfKind (h : Added place s gs s') (hs : s.WellFormed) (kind : NodeKind) :
    s'.nodesOfKind kind = s.nodesOfKind kind ++
      ((List.range gs.length).flatMap fun k => placesOfKind (s.nodes.size + 3 * k) kind).map
        Handle.ofPlace := by
  unfold Scene.nodesOfKind
  rw [hs.handlesWhere_of_extends h.old h.order, range'_mul_three, List.filter_flatMap]
  congr 2
  apply List.flatMap_congr
  intro k hk
  have hlt := List.mem_range.1 hk
  exact (h.cube k _ (List.getElem?_eq_getElem hlt)).filter_kind kind

/-- The new generators come behind the old ones, in the order of the faces. -/
theorem Added.nodesOfKind_box (h : Added place s gs s') (hs : s.WellFormed) :
    s'.nodesOfKind .box = s.nodesOfKind .box ++
      (List.range gs.length).map fun k => Handle.ofPlace (s.nodes.size + 3 * k + 2) := by
  rw [h.nodesOfKind hs, List.map_flatMap, List.map_eq_flatMap]
  rfl

/-- There are no new nodes of a kind that no node of a cube has. -/
private theorem Added.nodesOfKind_eq (h : Added place s gs s') (hs : s.WellFormed) {kind : NodeKind}
    (hkind : ∀ i, placesOfKind i kind = []) : s'.nodesOfKind kind = s.nodesOfKind kind := by
  rw [h.nodesOfKind hs]
  simp [hkind]

/-! ### Blocks -/

variable {settings : ExportSettings}

/-- A cube has a block. -/
theorem IsCube.exists_block {i : Nat} {t : Transform α} {side : α} (h : IsCube s i t side)
    (settings : ExportSettings) : ∃ name, s.name (Handle.ofPlace i) = .ok name ∧
      s.transform (Handle.ofPlace i) = .ok t ∧
      boxBlock settings s (Handle.ofPlace (i + 2)) = .ok (.design ⟨name,
        .box (side * Scalar.half) (side * Scalar.half) (side * Scalar.half), t.position, t.rotation,
        settings.material⟩) := by
  obtain ⟨name, htransform⟩ := h.transform
  obtain ⟨_, hshape⟩ := h.shape
  obtain ⟨_, hgenerator⟩ := h.generator
  have hname := Scene.name_eq_ok.2 ⟨i, _, rfl, htransform, rfl⟩
  have ht := Scene.transform_eq_ok.2 ⟨i, _, rfl, htransform, rfl⟩
  have hdimensions : s.dimensions (Handle.ofPlace (i + 2)) = .ok ⟨side, side, side⟩ :=
    Scene.aspect_eq_ok.2 ⟨i + 2, _, rfl, hgenerator, rfl⟩
  -- the generator feeds the mesh below the transform
  have howner : Export.IsOwner s (Handle.ofPlace (i + 2)) (Handle.ofPlace i) := by
    have hholds : s.holds (i + 1) = true :=
      decide_eq_true (Array.getElem?_eq_some_iff.1 hshape).1
    exact ⟨Handle.ofPlace (i + 1),
      Scene.output?_eq_some.2 ⟨i + 2, _, i + 1, rfl, hgenerator, rfl, hholds, rfl⟩,
      Scene.parent?_eq_some.2 ⟨i + 1, _, i, rfl, hshape, rfl, rfl⟩⟩
  refine ⟨name, hname, ht, ?_⟩
  rw [Export.boxBlock_eq_ok_iff (Scene.kind?_eq_box.2 ⟨_, hdimensions⟩)]
  exact ⟨_, ⟨_, name, t, _, howner, hname, ht, .box hdimensions, rfl⟩, rfl⟩

/-- The block of a box that was added to the scene `s` for a face: it is named and placed as the transform
of the box in the scene `s'`, and its three sizes are half the area of the face. -/
def IsFaceBlock (settings : ExportSettings) (s s' : Scene α) (mesh : Handle) (face : Nat)
    (box : CreatedBox) (b : DesignBlock α) : Prop :=
  ∃ g name t, s.faceGeometry mesh face = .ok g ∧ s'.name box.transform = .ok name ∧
    s'.transform box.transform = .ok t ∧ b = ⟨name,
      .box (g.area * Scalar.half) (g.area * Scalar.half) (g.area * Scalar.half), t.position, t.rotation,
      settings.material⟩

/-- Boxes that were added for faces have blocks. -/
theorem Added.exists_blocks (h : Added place s gs s') {mesh : Handle}
    (hgs : List.Forall₂ (fun face g => s.faceGeometry mesh face = .ok g) (List.range gs.length) gs)
    (settings : ExportSettings) : ∃ new,
      List.Forall₂ (fun face b => IsFaceBlock settings s s' mesh face (boxAt (s.nodes.size + 3 * face)) b)
        (List.range gs.length) new ∧
      ((List.range gs.length).map fun k => Handle.ofPlace (s.nodes.size + 3 * k + 2)).mapM
        (boxBlock settings s') = .ok (new.map .design) := by
  -- each face has its geometry and, three places apart, its box
  have hblocks : ∀ k ∈ List.range gs.length, ∃ b,
      IsFaceBlock settings s s' mesh k (boxAt (s.nodes.size + 3 * k)) b ∧
      boxBlock settings s' (Handle.ofPlace (s.nodes.size + 3 * k + 2)) = .ok (.design b) := by
    intro k hk
    have hlt := List.mem_range.1 hk
    have hg : s.faceGeometry mesh k = .ok gs[k] := by
      have hface := hgs.get (by rwa [List.length_range]) hlt
      rwa [List.get_eq_getElem, List.getElem_range] at hface
    obtain ⟨name, hname, ht, hblock⟩ :=
      (h.cube k _ (List.getElem?_eq_getElem hlt)).exists_block settings
    exact ⟨_, ⟨gs[k], name, _, hg, hname, ht, rfl⟩, hblock⟩
  obtain ⟨new, hnew⟩ := exists_forall₂.2 hblocks
  refine ⟨new, hnew.imp fun _ _ hb => hb.1, ?_⟩
  rw [mapM_eq_ok, List.forall₂_map_left_iff, List.forall₂_map_right_iff]
  exact hnew.imp fun _ _ hb => hb.2

/-! ### Documents -/

/-- The document after a conversion that succeeds, in every scene that arises.  There is a new block for
each face, in the order of the faces, directly behind those of the boxes before.  All other blocks stay
as they were and where they were; and if there was no document, there is none for the same reason. -/
theorem document_convert_ofCalls (conversion : ConversionSettings) (settings : ExportSettings)
    (calls : List (Call Single)) {report : Report} {s' : Scene Single}
    (hrun : (convert conversion).run (ofCalls calls) = (.ok report, s')) :
    (ofCalls calls).faceCount report.mesh = .ok report.boxes.length ∧ ∃ new,
      List.Forall₂ (fun face b => ∃ box, report.boxes[face]? = some box ∧
        IsFaceBlock settings (ofCalls calls) s' report.mesh face box b)
        (List.range report.boxes.length) new ∧
      (∀ e, document settings (ofCalls calls) = .error e → document settings s' = .error e) ∧
      ∀ d, document settings (ofCalls calls) = .ok d → ∃ cameras spheres boxes,
        List.Forall₂ (IsCamera (ofCalls calls)) (ofCalls calls).leafCameras cameras ∧
        List.Forall₂ (IsDesign settings (ofCalls calls)) ((ofCalls calls).nodesOfKind .sphere) spheres ∧
        List.Forall₂ (IsDesign settings (ofCalls calls)) ((ofCalls calls).nodesOfKind .box) boxes ∧
        d = ⟨arrange settings.blockOrder cameras (spheres ++ boxes)⟩ ∧
        document settings s' = .ok ⟨arrange settings.blockOrder cameras (spheres ++ boxes ++ new)⟩ := by
  have hwell := Scene.wellFormed_ofCalls calls
  obtain ⟨gs, hadded, hcount, hgs, hboxes⟩ := added_of_convert hwell hrun
  obtain ⟨new, hfaces, hnew⟩ := hadded.exists_blocks hgs settings
  have hlength : report.boxes.length = gs.length := by
    rw [hboxes, List.length_map, List.length_range]
  rw [hlength]
  refine ⟨hcount, new, ?_, Export.document_of_extends hadded.old hwell
    (hadded.nodesOfKind_eq hwell fun _ => rfl) (hadded.nodesOfKind_eq hwell fun _ => rfl)
    (hadded.nodesOfKind_box hwell) hnew⟩
  -- the box for a face is the one at its number
  refine ((List.forall₂_and_left _ _).2 ⟨fun face => List.mem_range.1, hfaces⟩).imp fun face b hb => ?_
  refine ⟨_, ?_, hb.2⟩
  rw [hboxes, List.getElem?_map, List.getElem?_range hb.1, Option.map_some]

/-- The usual settings, with the cameras behind the design blocks. -/
def designsFirst : ExportSettings := { ExportSettings.default with blockOrder := .designBlocksFirst }

/-- A mesh with one face. -/
def panel : Mesh Single := ⟨#[⟨0, 0, 0⟩, ⟨1, 0, 0⟩, ⟨0, 1, 0⟩], #[], #[⟨[0, 1, 2], []⟩]⟩

/-- A box, the mesh, which is selected, and a camera. -/
def wallAndPanel : List (Call Single) :=
  [.addBox "wall" Transform.identity (.cube 1), .addMesh "panel" Transform.identity panel,
    .addCamera "view" Transform.identity, .select (Handle.ofPlace 3)]

/-- The block of the new box comes between that of the old one and the camera. -/
theorem document_convert_wallAndPanel : ∃ report s' b,
    (convert .default).run (ofCalls wallAndPanel) = (.ok report, s') ∧
    document designsFirst (ofCalls wallAndPanel) =
      .ok ⟨[.design ⟨"wall", .box Scalar.half Scalar.half Scalar.half, 0, 0, "grey"⟩,
        .camera ⟨"view", 0, 0⟩]⟩ ∧
    document designsFirst s' =
      .ok ⟨[.design ⟨"wall", .box Scalar.half Scalar.half Scalar.half, 0, 0, "grey"⟩, .design b,
        .camera ⟨"view", 0, 0⟩]⟩ := by
  have hselected : selectedMesh (ofCalls wallAndPanel) = .ok (Handle.ofPlace 4) := by decide
  have hpanel : (ofCalls wallAndPanel).mesh (Handle.ofPlace 4) = .ok panel := by decide
  obtain ⟨m, gs, hmesh, hconverted⟩ := run_convert .default (Scene.wellFormed_ofCalls wallAndPanel)
    (selectedMesh_eq_ok.1 hselected)
  cases hpanel.symm.trans hmesh
  have hreport := hconverted.complete (by decide)
  rcases hrun : (convert .default).run (ofCalls wallAndPanel) with ⟨result, s'⟩
  rw [hrun] at hreport
  obtain rfl : result = _ := hreport
  -- the panel has one face, so one block is new
  obtain ⟨-, new, hnew, -, hgrown⟩ :=
    document_convert_ofCalls .default designsFirst wallAndPanel hrun
  obtain ⟨b, rfl⟩ : ∃ b, new = [b] := List.length_eq_one_iff.1 hnew.length_eq.symm
  have hbefore : document designsFirst (ofCalls wallAndPanel) =
      .ok ⟨[.design ⟨"wall", .box Scalar.half Scalar.half Scalar.half, 0, 0, "grey"⟩,
          .camera ⟨"view", 0, 0⟩]⟩ := by decide +kernel
  -- the blocks before the conversion are those of the document, taken apart by kind
  obtain ⟨cameras, spheres, boxes, -, -, -, hblocks, hafter⟩ := hgrown _ hbefore
  have hcameras := congrArg Document.cameraBlocks hblocks
  have hdesigns := congrArg Document.designBlocks hblocks
  rw [Export.cameraBlocks_arrange] at hcameras
  rw [Export.designBlocks_arrange] at hdesigns
  rw [← hcameras, ← hdesigns] at hafter
  exact ⟨_, s', b, rfl, hbefore, hafter⟩

end Scenery.Conversion
