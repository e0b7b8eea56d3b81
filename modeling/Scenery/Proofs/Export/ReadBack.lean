import Scenery.Proofs.Export.Document
import Scenery.Proofs.Scene.Calls
import Scenery.Proofs.Script.RoundTrip
import Scenery.Proofs.Single.Arithmetic

/-!
# Reading exported documents

The document of a scene with plain names and numbers can be read again, except perhaps for the
material.  Settings are valid with any material that is not empty and holds no quotation mark, but a
material with blanks, or one that is too long, is not read.

* `isLegible_document_iff`     which documents are legible
* `read_render_document_iff`   which documents are read again
-/

namespace Scenery

/-- The numbers of a node that documents contain. -/
def NodeData.numbers {α : Type} : NodeData α → List α
  | transform t => t.position.toList ++ t.rotation.toList
  | sphere r => [r]
  | box d => d.toList
  | mesh _ => []
  | camera => []

/-- The name of a node holds no blank, and its numbers are finite. -/
def Node.IsPlain (n : Node Single) : Prop :=
  Text.BlankFree n.name.toList ∧ ∀ x ∈ n.data.numbers, x.isFinite = true

instance (n : Node Single) : Decidable n.IsPlain :=
  inferInstanceAs (Decidable (_ ∧ _))

namespace Export

open Script (IsMaterial)
open Text (IsWord)

variable {settings : ExportSettings} {s : Scene Single} {d : Document Single}

/-- A transform gives a block a word for a name and numbers that are legible. -/
private theorem IsPlaced.isLegible (hs : s.WellFormed) (hplain : ∀ n ∈ s.nodes, n.IsPlain)
    {name : String} {t : Transform Single} (h : IsPlaced s name t) :
    IsWord name.toList ∧ ∀ x ∈ t.position.toList ++ t.rotation.toList, x.IsLegible := by
  obtain ⟨i, n, hn, rfl, hdata⟩ := h
  obtain ⟨hblank, hfinite⟩ := hplain n (Array.mem_of_getElem? hn)
  have hempty : n.name.toList ≠ [] := by
    have hname := hs.named i n hn
    simpa using hname
  refine ⟨⟨hempty, hblank⟩, ?_⟩
  intro x hx
  rw [hdata] at hfinite
  exact Single.IsFinite.isLegible (hfinite x hx)

/-- The sizes of a shape are legible: those of a box are no larger than the dimensions. -/
private theorem IsGenerated.isLegible (hplain : ∀ n ∈ s.nodes, n.IsPlain) {shape : Shape Single}
    (h : IsGenerated s shape) : ∀ x ∈ shape.values, x.IsLegible := by
  cases h with
  | @sphere i n r hn hdata =>
    have hfinite := (hplain n (Array.mem_of_getElem? hn)).2
    rw [hdata] at hfinite
    intro x hx
    exact Single.IsFinite.isLegible (hfinite x hx)
  | @box i n d hn hdata =>
    have hfinite := (hplain n (Array.mem_of_getElem? hn)).2
    rw [hdata] at hfinite
    have hhalf : ∀ x ∈ d.toList, (x * Scalar.half).IsLegible := by
      intro x hx
      exact Single.IsFinite.isLegible (Single.isFinite_mul_half (hfinite x hx))
    simp only [Dimensions.toList, List.forall_mem_cons] at hhalf
    simp only [Shape.values, Dimensions.halves, List.forall_mem_cons]
    exact ⟨hhalf.1, hhalf.2.1, hhalf.2.2.1, by simp⟩

/-- Of what a document consists only the material can be illegible. -/
private theorem isLegible_iff_of_mem (hs : s.WellFormed) (hplain : ∀ n ∈ s.nodes, n.IsPlain)
    (hd : document settings s = .ok d) {b : Block Single} (hb : b ∈ d.blocks) :
    b.IsLegible ↔ (b.design? = none ∨ IsMaterial settings.material) := by
  obtain ⟨name, t, ht, rfl | ⟨shape, hshape, rfl⟩⟩ := mem_document hs hd hb
  · obtain ⟨hname, hnumbers⟩ := ht.isLegible hs hplain
    simp only [Block.design?, true_or, iff_true]
    exact ⟨hname, hnumbers⟩
  · obtain ⟨hname, hnumbers⟩ := ht.isLegible hs hplain
    have hvalues := hshape.isLegible hplain
    simp only [Block.design?, reduceCtorEq, false_or]
    constructor
    · intro h
      exact h.1.2
    · intro hmaterial
      refine ⟨⟨hname, hmaterial⟩, ?_⟩
      rw [Block.numbers, List.append_assoc, List.forall_mem_append]
      exact ⟨hvalues, hnumbers⟩

/-- The document of a scene with plain nodes is legible exactly if it needs no material or the material
can be read. -/
theorem isLegible_document_iff (hs : s.WellFormed) (hplain : ∀ n ∈ s.nodes, n.IsPlain)
    (hd : document settings s = .ok d) :
    d.IsLegible ↔ d.designBlocks = [] ∨ IsMaterial settings.material := by
  have hblocks : d.IsLegible ↔ ∀ b ∈ d.blocks, b.design? = none ∨ IsMaterial settings.material :=
    forall₂_congr fun b hb => isLegible_iff_of_mem hs hplain hd hb
  rw [hblocks, Document.designBlocks, List.filterMap_eq_nil_iff]
  by_cases hmaterial : IsMaterial settings.material
  · simp [hmaterial]
  · simp [hmaterial]

/-- The exported document of a scene whose nodes are plain comes back, for a strict reader, exactly if it
has no design blocks or the material holds no blank and is not too long. -/
theorem read_render_document_iff (settings : ExportSettings) (calls : List (Scene.Call Single))
    (hplain : ∀ n ∈ (Scene.ofCalls calls).nodes, n.IsPlain) {d : Document Single}
    (hd : document settings (Scene.ofCalls calls) = .ok d) :
    (∃ d', (Script.read .strict (d.render settings.numberFormat)).result = .ok d' ∧ d'.eq d = true) ↔
      d.designBlocks = [] ∨ IsMaterial settings.material := by
  rw [Script.exists_read_render_iff]
  exact isLegible_document_iff (Scene.wellFormed_ofCalls calls) hplain hd

/-- A scene with one sphere. -/
def oneSphere : List (Scene.Call Single) :=
  [.addSphere "ball" Transform.identity 1]

/-- Its document. -/
def sphereDocument (material : String) : Document Single :=
  ⟨[.design ⟨"ball", .sphere 1, 0, 0, material⟩]⟩

/-- With the material of the default settings the document of a sphere comes back. -/
theorem read_render_sphere :
    (∀ n ∈ (Scene.ofCalls oneSphere).nodes, n.IsPlain) ∧
    document .default (Scene.ofCalls oneSphere) = .ok (sphereDocument "grey") ∧
    ∃ d', (Script.read .strict ((sphereDocument "grey").render .full)).result = .ok d' ∧
      d'.eq (sphereDocument "grey") = true :=
  ⟨by decide, by decide,
    (read_render_document_iff .default oneSphere (by decide) (by decide)).2 (.inr (by decide))⟩

/-- A material of two words is valid, but the document of a sphere that has it does not come back. -/
theorem not_read_render_twoWords :
    ({ ExportSettings.default with material := "dark grey" }).validate = .ok () ∧
    (∀ n ∈ (Scene.ofCalls oneSphere).nodes, n.IsPlain) ∧
    document { ExportSettings.default with material := "dark grey" } (Scene.ofCalls oneSphere) =
      .ok (sphereDocument "dark grey") ∧
    ¬∃ d', (Script.read .strict ((sphereDocument "dark grey").render .full)).result = .ok d' ∧
      d'.eq (sphereDocument "dark grey") = true := by
  refine ⟨by decide, by decide, by decide, ?_⟩
  rw [Script.exists_read_render_iff]
  decide

end Export

end Scenery
