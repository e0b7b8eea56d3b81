import Scenery.Proofs.Export.Document

/-!
# One transform for each generator

A mesh is made below a new transform of its own, and meshes are put below nothing else.  So no two
meshes are directly below one node; and as no two generators feed one mesh, the way from a generator
over its mesh to the transform above leads to a different transform for each generator.

* `isMeshBelow_of_change`   a mesh below a node was there before, or both of them are new
* `meshesApart_ofCalls`     no two meshes are directly below one node
* `isOwner_inj`             no two generators have one transform
* `owners_ofCalls`          the transforms of generators, and the names of the design blocks
-/

namespace Scenery

/-! ### Meshes below nodes -/

namespace Scene

variable {α : Type} {s s' : Scene α}

/-- The node at place `i` is a mesh directly below the one at place `p`. -/
def IsMeshBelow (s : Scene α) (i p : Nat) : Prop :=
  ∃ n : Node α, s.nodes[i]? = some n ∧ n.kind = .mesh ∧ n.parent = some p

/-- A node that is added is a mesh below a node only if it is added as one. -/
private theorem isMeshBelow_of_push {name : String} {parent : Option Nat} {data : NodeData α}
    (hparent : ∀ p, parent = some p → p < s.nodes.size) (hdata : data.kind ≠ .mesh) {i p : Nat}
    (h : (s.push name parent data).IsMeshBelow i p) : s.IsMeshBelow i p := by
  obtain ⟨n, hn, hmesh, hp⟩ := h
  rcases cases_of_push hparent hn with ⟨-, rfl⟩ | ⟨m, hm, rfl⟩
  · exact absurd hmesh hdata
  · exact ⟨m, hm, hmesh, hp⟩

/-- A node that keeps its kind and its parent makes no other mesh stand below a node. -/
private theorem isMeshBelow_of_modifyNode {j : Nat} {f : Node α → Node α} {i p : Nat}
    (h : (s.modifyNode j f).IsMeshBelow i p)
    (hf : ∀ n, s.nodes[j]? = some n → (f n).kind = n.kind ∧ (f n).parent = n.parent) :
    s.IsMeshBelow i p := by
  obtain ⟨m, hm, hmesh, hp⟩ := h
  rw [getElem?_modifyNode, Option.map_eq_some_iff] at hm
  obtain ⟨n, hn, rfl⟩ := hm
  by_cases hij : j = i
  · subst hij
    rw [if_pos rfl] at hmesh hp
    exact ⟨n, hn, (hf n hn).1 ▸ hmesh, (hf n hn).2 ▸ hp⟩
  · rw [if_neg hij] at hmesh hp
    exact ⟨n, hn, hmesh, hp⟩

/-- A node that loses its parent brings no mesh below a node. -/
private theorem isMeshBelow_of_detach {j q i p : Nat} (h : (s.detach j q).IsMeshBelow i p) :
    s.IsMeshBelow i p := by
  obtain ⟨m, hm, hmesh, hp⟩ := h
  rw [getElem?_detach, Option.map_eq_some_iff] at hm
  obtain ⟨n, hn, rfl⟩ := hm
  by_cases hij : j = i
  · simp [hij] at hp
  · exact ⟨n, hn, hmesh, by simpa [hij] using hp⟩

/-- The new shape is below the new transform. -/
private theorem isMeshBelow_of_withShape {name : String} {t : Transform α} {shape : NodeData α}
    {i p : Nat} (h : (s.withShape name t shape).IsMeshBelow i p) :
    s.IsMeshBelow i p ∨ i = s.nodes.size + 1 ∧ p = s.nodes.size := by
  obtain ⟨n, hn, hmesh, hp⟩ := h
  have hi := (Array.getElem?_eq_some_iff.1 hn).1
  rw [size_withShape] at hi
  by_cases hold : i < s.nodes.size
  · rw [getElem?_withShape_of_lt name t _ hold] at hn
    exact .inl ⟨n, hn, hmesh, hp⟩
  by_cases htransform : i = s.nodes.size
  · rw [htransform, getElem?_withShape_transform] at hn
    cases hn
    cases hp
  · obtain rfl : i = s.nodes.size + 1 := by omega
    rw [getElem?_withShape_shape] at hn
    cases hn
    exact .inr ⟨rfl, (Option.some.inj hp).symm⟩

/-- A new object with a generator brings one mesh, which stands below the new transform. -/
private theorem isMeshBelow_of_withGenerated {name : String} {t : Transform α}
    {generatorName : String} {data : NodeData α} (hdata : data.kind ≠ .mesh) {i p : Nat}
    (h : (s.withGenerated name t generatorName data).IsMeshBelow i p) :
    s.IsMeshBelow i p ∨ i = s.nodes.size + 1 ∧ p = s.nodes.size := by
  unfold Scene.withGenerated at h
  dsimp only at h
  have hpushed := isMeshBelow_of_modifyNode h fun _ _ => ⟨rfl, rfl⟩
  exact isMeshBelow_of_withShape (isMeshBelow_of_push (by simp) hdata hpushed)

/-- After a change, a mesh below a node was there before, or both of them are new. -/
theorem isMeshBelow_of_change (hchange : Change s s') {i p : Nat} (h : s'.IsMeshBelow i p) :
    s.IsMeshBelow i p ∨ i = s.nodes.size + 1 ∧ p = s.nodes.size := by
  cases hchange with
  | flat hflat =>
    cases hflat with
    | none => exact .inl h
    | transform hname t => exact .inl (isMeshBelow_of_push (by simp) (by simp [NodeData.kind]) h)
    | sphere hname t radius => exact isMeshBelow_of_withGenerated (by simp [NodeData.kind]) h
    | box hname t d => exact isMeshBelow_of_withGenerated (by simp [NodeData.kind]) h
    | mesh hname t hm => exact isMeshBelow_of_withShape h
    | camera hname t => exact isMeshBelow_of_withShape h
    | @placed j n t hn ht t' =>
      refine .inl (isMeshBelow_of_modifyNode h fun m hm => ?_)
      rw [hn] at hm
      cases hm
      exact ⟨by rw [Node.kind, Node.kind, ht]; rfl, rfl⟩
    | selected hplaces => exact .inl h
    | fileName name => exact .inl h
  | @below name hname q hq data hdata =>
    -- a node that is put below a given parent is no mesh
    refine .inl (isMeshBelow_of_push ?_ ?_ h)
    · intro p hp
      cases hp
      exact hq
    · intro hmesh
      simp [hmesh] at hdata
  | disconnected hn => exact .inl (isMeshBelow_of_modifyNode h fun _ _ => ⟨rfl, rfl⟩)
  | detached hn hp => exact .inl (isMeshBelow_of_detach h)

/-- No two meshes are directly below one node. -/
def MeshesApart (s : Scene α) : Prop :=
  ∀ i j p, s.IsMeshBelow i p → s.IsMeshBelow j p → i = j

/-- Every change keeps meshes apart: no two of them stand below one node. -/
private theorem MeshesApart.change (h : s.MeshesApart) (hwf : s.WellFormed) (hchange : Change s s') :
    s'.MeshesApart := by
  -- nothing was below the new transform before, as it was not there
  have hfresh : ∀ i, ¬ s.IsMeshBelow i s.nodes.size := by
    intro i hi
    obtain ⟨n, hn, -, hp⟩ := hi
    have hlt := hwf.parent_lt i n _ hn hp
    have hi' := (Array.getElem?_eq_some_iff.1 hn).1
    omega
  intro i j p hi hj
  rcases isMeshBelow_of_change hchange hi with hi | ⟨rfl, rfl⟩
  · rcases isMeshBelow_of_change hchange hj with hj | ⟨rfl, rfl⟩
    · exact h i j p hi hj
    · exact absurd hi (hfresh i)
  · rcases isMeshBelow_of_change hchange hj with hj | ⟨rfl, -⟩
    · exact absurd hj (hfresh j)
    · rfl

/-- In every scene that arises no two meshes are directly below one node. -/
theorem meshesApart_ofCalls [Scalar α] (calls : List (Call α)) : (ofCalls calls).MeshesApart := by
  have hboth : (ofCalls calls).WellFormed ∧ (ofCalls calls).MeshesApart := by
    apply ofCalls_induction (P := fun s => s.WellFormed ∧ s.MeshesApart)
    · refine ⟨WellFormed.empty, ?_⟩
      intro i j p hi
      obtain ⟨n, hn, -⟩ := hi
      simp [Scene.empty] at hn
    · intro s s' h hchange
      exact ⟨h.1.change hchange, h.2.change h.1 hchange⟩
  exact hboth.2

end Scene

/-! ### Owners -/

namespace Export

open Scene (Call ofCalls)

variable {α : Type} {s : Scene α}

/-- No two generators have one transform. -/
theorem isOwner_inj (h : s.WellFormed) (hapart : s.MeshesApart) {g g' p : Handle}
    (hg : IsOwner s g p) (hg' : IsOwner s g' p) : g = g' := by
  obtain ⟨mesh, hout, hparent⟩ := hg
  obtain ⟨mesh', hout', hparent'⟩ := hg'
  obtain ⟨i, n, j, rfl, hn, hj, -, rfl⟩ := Scene.output?_eq_some.1 hout
  obtain ⟨i', n', j', rfl, hn', hj', -, rfl⟩ := Scene.output?_eq_some.1 hout'
  -- both meshes are below `p`, so they are one mesh, and it has one generator
  have hbelow : ∀ {g : Nat} {n : Node α} {j : Nat}, s.nodes[g]? = some n → n.output = some j →
      s.parent? (Handle.ofPlace j) = some p → ∃ q, p = Handle.ofPlace q ∧ s.IsMeshBelow j q := by
    intro g n j hn hj hparent
    obtain ⟨m, v, hm, hv⟩ := h.output_mesh g n j hn hj
    obtain ⟨k, m', q, hjk, hm', hq, hp⟩ := Scene.parent?_eq_some.1 hparent
    cases Handle.ofPlace_injective hjk
    rw [hm] at hm'
    cases hm'
    exact ⟨q, hp, m, hm, by rw [Node.kind, hv]; rfl, hq⟩
  obtain ⟨q, rfl, hmesh⟩ := hbelow hn hj hparent
  obtain ⟨q', hq, hmesh'⟩ := hbelow hn' hj' hparent'
  cases Handle.ofPlace_injective hq
  cases hapart j j' q hmesh hmesh'
  rw [h.output_inj i n i' n' j hn hn' hj hj']

/-- What comes of asking for the transform of a generator: its mesh is missing, the mesh has lost its
parent, or the parent is a transform. -/
inductive IsOwning (s : Scene α) (g : Handle) : Except Failure Handle → Prop where
  | notConnected (hout : s.output? g = none) :
    IsOwning s g (.error (.resolution (.node (s.displayName g) .notConnected)))
  | noParent {mesh : Handle} (hout : s.output? g = some mesh) (hparent : s.parent? mesh = none) :
    IsOwning s g (.error (.resolution (.node (s.displayName mesh) .noShapeParent)))
  | transform {mesh p : Handle} (hout : s.output? g = some mesh) (hparent : s.parent? mesh = some p)
    (hkind : s.kind? p = some .transform) : IsOwning s g (.ok p)

/-- The lookup of the owner ends in one of the ways that are told apart. -/
theorem isOwning_owningTransform (h : s.WellFormed) (hplaced : s.MeshesPlaced) (g : Handle) :
    IsOwning s g (owningTransform s g) := by
  unfold owningTransform
  cases hout : s.output? g with
  | none => exact .notConnected hout
  | some mesh =>
    dsimp only
    cases hparent : s.parent? mesh with
    | none => exact .noParent hout hparent
    | some p =>
      have hkind := h.kind?_owner hplaced hout hparent
      dsimp only
      rw [if_pos hkind]
      exact .transform hout hparent hkind

variable [Scalar α] {settings : ExportSettings}

/-- The design blocks of a document have different names, since names and transforms determine each
other. -/
theorem nodup_names (h : s.WellFormed) (hapart : s.MeshesApart) {d : Document α}
    (hd : document settings s = .ok d) : (d.designBlocks.map DesignBlock.name).Nodup := by
  obtain ⟨spheres, boxes, hspheres, hboxes, hdesigns⟩ := (isDocument h hd).designs
  have hgenerators : (spheres ++ boxes).Nodup := by
    rw [List.nodup_append]
    refine ⟨hspheres.nodup, hboxes.nodup, ?_⟩
    intro g hg g' hg' heq
    -- no generator is of both kinds
    have hsphere := (hspheres.mem g).1 hg
    rw [heq, (hboxes.mem g').1 hg'] at hsphere
    cases hsphere
  apply nodup_map_of_forall₂ hdesigns hgenerators
  intro g g' b b' hb hb' hname
  obtain ⟨p, name, t, shape, hp, hpname, -, -, rfl⟩ := hb
  obtain ⟨p', name', t', shape', hp', hpname', -, -, rfl⟩ := hb'
  obtain rfl : name = name' := hname
  cases h.name_inj hpname hpname'
  exact isOwner_inj h hapart hp hp'

/-- In every scene that arises, a generator without a transform lacks its mesh, or the mesh its parent,
and what stands above the mesh is never anything but a transform.  No two generators have one
transform, so the design blocks of a document have different names. -/
theorem owners_ofCalls (calls : List (Call α)) :
    (∀ g, IsOwning (ofCalls calls) g (owningTransform (ofCalls calls) g)) ∧
    (∀ g g' p, owningTransform (ofCalls calls) g = .ok p →
      owningTransform (ofCalls calls) g' = .ok p → g = g') ∧
    ∀ settings d, document settings (ofCalls calls) = .ok d →
      (d.designBlocks.map DesignBlock.name).Nodup := by
  have h := Scene.wellFormed_ofCalls calls
  have hplaced := Scene.meshesPlaced_ofCalls calls
  have hapart := Scene.meshesApart_ofCalls calls
  refine ⟨isOwning_owningTransform h hplaced, ?_, fun settings d hd => nodup_names h hapart hd⟩
  intro g g' p hg hg'
  exact isOwner_inj h hapart (owningTransform_eq_ok.1 hg).1 (owningTransform_eq_ok.1 hg').1

end Export

end Scenery
