import Scenery.Proofs.Conversion.Boxes

/-!
# The conversion of the selected mesh

The first selected node says which mesh is converted.  The faces before the first one with fewer than
three vertices get boxes; that face, if there is one, ends the conversion.

* `selectedMesh_eq_ok`   which mesh is converted
* `run_convertMesh`      the faces that get boxes, and the answer
* `added_run_convert`    what any conversion has added
* `added_of_convert`     what a conversion that succeeds has added
* `convert_ofCalls`      the conversion in every scene that arises
-/

namespace Scenery.Conversion

/-! ### The selected mesh -/

section

variable {α : Type} {s : Scene α} {mesh : Handle}

/-- The mesh to convert: the first selected node, or the first mesh below it if it is a transform. -/
def IsTarget (s : Scene α) (mesh : Handle) : Prop :=
  ∃ first rest, s.selection = first :: rest ∧
    (s.kind? first = some .mesh ∧ mesh = first ∨ s.kind? first = some .transform ∧
      (s.children first).find? (fun child => s.kind? child = some .mesh) = some mesh)

/-- The selected mesh is the one that a conversion is to take. -/
theorem selectedMesh_eq_ok : selectedMesh s = .ok mesh ↔ IsTarget s mesh := by
  unfold selectedMesh IsTarget
  cases s.selection with
  | nil => simp
  | cons first rest =>
    simp only [List.cons.injEq]
    constructor
    · intro h
      refine ⟨first, rest, ⟨rfl, rfl⟩, ?_⟩
      split at h
      · rename_i hkind
        cases h
        exact .inl ⟨hkind, rfl⟩
      · rename_i hkind
        split at h
        · rename_i found hfind
          cases h
          exact .inr ⟨hkind, hfind⟩
        · cases h
      · cases h
    · intro h
      -- the kind of the first node decides which of the two cases it is
      obtain ⟨_, _, ⟨rfl, rfl⟩, ⟨hkind, rfl⟩ | ⟨hkind, hfind⟩⟩ := h
      · simp only [hkind]
      · simp only [hkind, hfind]

/-- Without a mesh the selection is to blame. -/
theorem selectedMesh_cases (s : Scene α) :
    (∃ mesh, selectedMesh s = .ok mesh) ∨ ∃ e, selectedMesh s = .error (.selection e) := by
  unfold selectedMesh
  split
  · exact .inr ⟨_, rfl⟩
  · dsimp only
    split
    · exact .inl ⟨_, rfl⟩
    · split
      · exact .inl ⟨_, rfl⟩
      · exact .inr ⟨_, rfl⟩
    · exact .inr ⟨_, rfl⟩

/-- The mesh to convert is there. -/
private theorem IsTarget.exists_mesh (h : IsTarget s mesh) :
    ∃ i m, mesh = Handle.ofPlace i ∧ i < s.nodes.size ∧ s.mesh mesh = .ok m := by
  have hkind : s.kind? mesh = some .mesh := by
    obtain ⟨first, rest, -, ⟨hkind, rfl⟩ | ⟨-, hfind⟩⟩ := h
    · exact hkind
    · simpa using List.find?_some hfind
  obtain ⟨m, hm⟩ := Scene.kind?_eq_mesh.1 hkind
  obtain ⟨i, n, rfl, hi, -⟩ := Scene.mesh_eq_ok.1 hm
  exact ⟨i, m, rfl, (Array.getElem?_eq_some_iff.1 hi).1, hm⟩

end

/-! ### The faces of a mesh -/

section

variable {α : Type} [Scalar α] {s : Scene α} {mesh : Nat} {m : Mesh α} {place : Vec3 α → Vec3 α}

/-- A face that has a geometry in its mesh has one in the scene. -/
private theorem exists_sceneGeometry (hmesh : s.mesh (Handle.ofPlace mesh) = .ok m) {face : Nat}
    (hg : ∃ g, m.faceGeometry face = .ok g) :
    ∃ g, s.faceGeometry (Handle.ofPlace mesh) face = .ok g := by
  obtain ⟨g, hg⟩ := hg
  obtain ⟨i, n, hi, hn, -⟩ := Scene.mesh_eq_ok.1 hmesh
  unfold Scene.faceGeometry Scene.worldMatrix
  rw [hmesh, hi, Scene.entry_ofPlace hn]
  simp only [bind, Except.bind, hg]
  exact ⟨_, rfl⟩

/-- A face that has none in its mesh has none in the scene, and the failure names the mesh. -/
private theorem sceneGeometry_error (hmesh : s.mesh (Handle.ofPlace mesh) = .ok m) {face : Nat}
    {e : FaceError} (he : m.faceGeometry face = .error e) :
    s.faceGeometry (Handle.ofPlace mesh) face =
      .error (.geometry (.face (s.displayName (Handle.ofPlace mesh)) e)) := by
  unfold Scene.faceGeometry
  rw [hmesh]
  simp only [bind, Except.bind, he]

/-- The geometries of faces that all have one. -/
private theorem exists_geometries {faces : List Nat}
    (h : ∀ face ∈ faces, ∃ g, s.faceGeometry (Handle.ofPlace mesh) face = .ok g) :
    ∃ gs, List.Forall₂ (fun face g => s.faceGeometry (Handle.ofPlace mesh) face = .ok g) faces gs := by
  induction faces with
  | nil => exact ⟨[], .nil⟩
  | cons face faces ih =>
    rw [List.forall_mem_cons] at h
    obtain ⟨g, hg⟩ := h.1
    obtain ⟨gs, hgs⟩ := ih h.2
    exact ⟨g :: gs, .cons hg hgs⟩

/-- In a valid mesh all leading faces have a geometry. -/
private theorem exists_leadingGeometries (hmesh : s.mesh (Handle.ofPlace mesh) = .ok m)
    (hvalid : m.validate = .ok ()) :
    ∃ gs, List.Forall₂ (fun face g => s.faceGeometry (Handle.ofPlace mesh) face = .ok g)
      (List.range m.leadingPolygons) gs := by
  apply exists_geometries
  intro face hface
  obtain ⟨f, hf, hthree⟩ := Mesh.three_le_of_lt_leadingPolygons (List.mem_range.1 hface)
  exact exists_sceneGeometry hmesh (Mesh.exists_faceGeometry hvalid hf hthree)

/-- The numbers before one, the number and the rest. -/
private theorem exists_range_eq_append {k n : Nat} (h : k < n) :
    ∃ rest, List.range n = List.range k ++ k :: rest := by
  refine ⟨List.range' (k + 1) (n - k - 1), ?_⟩
  rw [List.range_eq_range', List.range_eq_range', List.range'_eq_append_iff]
  refine ⟨k, Nat.le_of_lt h, rfl, ?_⟩
  rw [eq_comm, List.range'_eq_cons_iff]
  exact ⟨by omega, by omega, rfl⟩

/-- What the conversion of a mesh makes of a scene, and what it answers.  The geometries are those of
the faces that get boxes, in the scene before. -/
structure Converted (place : Vec3 α → Vec3 α) (s : Scene α) (mesh : Handle) (m : Mesh α)
    (gs : List (FaceGeometry α)) (out : Except Failure Report × Scene α) : Prop where
  geometries : List.Forall₂ (fun face g => s.faceGeometry mesh face = .ok g)
    (List.range m.leadingPolygons) gs
  added : Added place s gs out.2
  complete : m.leadingPolygons = m.faceCount →
    out.1 = .ok ⟨mesh, (List.range m.faceCount).map fun k => boxAt (s.nodes.size + 3 * k)⟩
  aborted : m.leadingPolygons < m.faceCount → ∃ f, m.faces[m.leadingPolygons]? = some f ∧
    out.1 = .error (.geometry (.face (s.displayName mesh)
      (.tooFewVertices m.leadingPolygons f.positions.length)))

/-- The leading faces of a valid mesh get boxes, and the face behind them ends the conversion. -/
theorem run_convertMesh {inverse : Mat4 α} (hinverse : (1 : Mat4 α).inverse? = some inverse)
    (settings : ConversionSettings) (hsize : mesh < s.nodes.size)
    (hmesh : s.mesh (Handle.ofPlace mesh) = .ok m) (hvalid : m.validate = .ok ()) :
    ∃ gs, Converted inverse.applyPoint s (Handle.ofPlace mesh) m gs
      ((convertMesh settings (Handle.ofPlace mesh)).run s) := by
  obtain ⟨gs, hgs⟩ := exists_leadingGeometries hmesh hvalid
  have hlength : gs.length = m.leadingPolygons := by
    rw [← hgs.length_eq, List.length_range]
  obtain ⟨s', hrun, hadded⟩ := run_convertFaces settings hinverse hsize hgs (.refl _ s)
  rw [List.nil_append] at hadded
  rw [List.length_nil, ← List.range_eq_range', hlength] at hrun
  have hcount : s.faceCount (Handle.ofPlace mesh) = .ok m.faceCount := by
    rw [Scene.faceCount, hmesh]
    rfl
  unfold convertMesh
  rw [Scene.run_bind, Scene.run_query, hcount]
  dsimp only
  rcases Nat.eq_or_lt_of_le m.leadingPolygons_le with hall | hlt
  · -- every face is a polygon, so all of them are converted
    rw [hall] at hrun
    rw [Scene.run_bind_ok hrun, Scene.run_pure]
    exact ⟨gs, hgs, hadded, fun _ => rfl, fun hlt => by omega⟩
  · -- the faces are the leading ones, the one that ends the conversion, and the rest
    obtain ⟨rest, hsplit⟩ := exists_range_eq_append hlt
    obtain ⟨f, hf, hfew⟩ := Mesh.lt_three_of_leadingPolygons hlt
    -- the boxes changed no answer about the mesh, so the face fails as it did before them
    have hstop := run_convertFace_error settings hsize hadded.old
      (sceneGeometry_error hmesh (Mesh.faceGeometry_of_lt hf hfew))
    have hfaces : ((List.range m.faceCount).mapM
        (convertFace settings (Handle.ofPlace mesh))).run s =
          (.error (.geometry (.face (s.displayName (Handle.ofPlace mesh))
            (.tooFewVertices m.leadingPolygons f.positions.length))), s') := by
      rw [hsplit, List.mapM_append, Scene.run_bind_ok hrun, List.mapM_cons]
      exact Scene.run_bind_error (Scene.run_bind_error hstop _) _
    rw [Scene.run_bind_error hfaces]
    exact ⟨gs, hgs, hadded, fun hall => by omega, fun _ => ⟨f, hf, rfl⟩⟩

end

/-! ### The conversion in scenes that arise -/

/-- Without a mesh to convert the selection is to blame, and nothing changes. -/
private theorem run_convert_error {s : Scene Single} (settings : ConversionSettings)
    (hnone : ∀ mesh, ¬IsTarget s mesh) :
    ∃ e, (convert settings).run s = (.error (.selection e), s) := by
  rcases selectedMesh_cases s with ⟨mesh, hmesh⟩ | ⟨e, he⟩
  · exact absurd (selectedMesh_eq_ok.1 hmesh) (hnone mesh)
  · refine ⟨e, ?_⟩
    unfold convert
    rw [Scene.run_bind, Scene.run_query, he]

/-- The mesh that is selected is valid, so its leading faces get boxes. -/
theorem run_convert {s : Scene Single} (settings : ConversionSettings) (hwell : s.WellFormed)
    {mesh : Handle} (htarget : IsTarget s mesh) : ∃ m gs, s.mesh mesh = .ok m ∧
      Converted (1 : Mat4 Single).applyPoint s mesh m gs ((convert settings).run s) := by
  have hselected := selectedMesh_eq_ok.2 htarget
  obtain ⟨i, m, rfl, hi, hmesh⟩ := htarget.exists_mesh
  obtain ⟨j, n, -, hn, hdata⟩ := Scene.mesh_eq_ok.1 hmesh
  have hvalid := hwell.mesh_valid j n m hn hdata
  obtain ⟨gs, hconverted⟩ := run_convertMesh Mat4.inverse?_one settings hi hmesh hvalid
  refine ⟨m, gs, hmesh, ?_⟩
  unfold convert
  rw [Scene.run_bind, Scene.run_query, hselected]
  exact hconverted

/-- Whatever a conversion answers, it has added boxes and nothing else. -/
theorem added_run_convert {s : Scene Single} (settings : ConversionSettings) (hwell : s.WellFormed) :
    ∃ gs, Added (1 : Mat4 Single).applyPoint s gs ((convert settings).run s).2 := by
  by_cases htarget : ∃ mesh, IsTarget s mesh
  · obtain ⟨mesh, htarget⟩ := htarget
    obtain ⟨m, gs, -, hconverted⟩ := run_convert settings hwell htarget
    exact ⟨gs, hconverted.added⟩
  · obtain ⟨e, he⟩ := run_convert_error settings (not_exists.1 htarget)
    rw [he]
    exact ⟨[], .refl _ s⟩

/-- A conversion that succeeds has added one box for each face, at the places behind those before. -/
theorem added_of_convert {s s' : Scene Single} {settings : ConversionSettings} {report : Report}
    (hwell : s.WellFormed) (hrun : (convert settings).run s = (.ok report, s')) :
    ∃ gs, Added (1 : Mat4 Single).applyPoint s gs s' ∧ s.faceCount report.mesh = .ok gs.length ∧
      List.Forall₂ (fun face g => s.faceGeometry report.mesh face = .ok g) (List.range gs.length) gs ∧
      report.boxes = (List.range gs.length).map fun k => boxAt (s.nodes.size + 3 * k) := by
  by_cases htarget : ∃ mesh, IsTarget s mesh
  · obtain ⟨mesh, htarget⟩ := htarget
    obtain ⟨m, gs, hmesh, hgeometries, hadded, hcomplete, haborted⟩ := run_convert settings hwell htarget
    have hcount : s.faceCount mesh = .ok m.faceCount := by
      rw [Scene.faceCount, hmesh]
      rfl
    have hlength := hgeometries.length_eq
    rw [List.length_range] at hlength
    rw [hrun] at hadded hcomplete haborted
    rcases Nat.eq_or_lt_of_le m.leadingPolygons_le with hall | hlt
    · cases hcomplete hall
      rw [hall] at hlength hgeometries
      rw [hlength] at hcount hgeometries
      exact ⟨gs, hadded, hcount, hgeometries, by rw [hlength]⟩
    · -- a face without three vertices would have aborted the conversion
      obtain ⟨f, -, herror⟩ := haborted hlt
      cases herror
  · obtain ⟨e, he⟩ := run_convert_error settings (not_exists.1 htarget)
    rw [he] at hrun
    cases hrun

/-- The conversion in every scene that arises.  Without a mesh to convert it blames the selection and
changes nothing.  Otherwise it does what `Converted` says; the boxes stand at the centroids, which pass
through the identity matrix, and that changes no number. -/
theorem convert_ofCalls (settings : ConversionSettings) (calls : List (Scene.Call Single)) :
    ((∀ mesh, ¬IsTarget (Scene.ofCalls calls) mesh) → ∃ e,
      (convert settings).run (Scene.ofCalls calls) = (.error (.selection e), Scene.ofCalls calls)) ∧
    ∀ mesh, IsTarget (Scene.ofCalls calls) mesh → ∃ m gs,
      (Scene.ofCalls calls).mesh mesh = .ok m ∧
      Converted (1 : Mat4 Single).applyPoint (Scene.ofCalls calls) mesh m gs
        ((convert settings).run (Scene.ofCalls calls)) ∧
      ∀ g ∈ gs, (∀ x ∈ g.centroid.toList, x.isFinite = true) →
        ((1 : Mat4 Single).applyPoint g.centroid).eq g.centroid = true := by
  have hwell := Scene.wellFormed_ofCalls calls
  revert hwell
  generalize Scene.ofCalls calls = s
  intro hwell
  refine ⟨run_convert_error settings, fun mesh htarget => ?_⟩
  obtain ⟨m, gs, hmesh, hconverted⟩ := run_convert settings hwell htarget
  exact ⟨m, gs, hmesh, hconverted, fun g _ hfinite => Mat4.applyPoint_one hfinite⟩

end Scenery.Conversion
