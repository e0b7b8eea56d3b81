import Scenery.Export.Blocks
import Scenery.Proofs.Except
import Scenery.Proofs.Scene.Nodes

/-!
# Where blocks come from

A block takes its name and placement from a transform, and its sizes from a generator.  The material is
that of the settings.

* `IsCamera`, `cameraBlock_eq_ok_iff`   the block of a camera
* `IsDesign`, `sphereBlock_eq_ok_iff`, `boxBlock_eq_ok_iff`   the block of a generator
* `IsPlaced`, `IsGenerated`             the nodes behind a block
-/

namespace Scenery.Export

variable {α : Type} {s : Scene α}

/-! ### Placements -/

/-- There is a transform with a name and a value. -/
def IsPlaced (s : Scene α) (name : String) (t : Transform α) : Prop :=
  ∃ (i : Nat) (n : Node α), s.nodes[i]? = some n ∧ n.name = name ∧ n.data = .transform t

/-- A node of which the name and the placement are known is a transform. -/
theorem isPlaced_of_queries {p : Handle} {name : String} {t : Transform α}
    (hname : s.name p = .ok name) (ht : s.transform p = .ok t) : IsPlaced s name t := by
  obtain ⟨i, n, rfl, hn, hdata⟩ := Scene.transform_eq_ok.1 ht
  obtain ⟨j, m, hij, hm, hname⟩ := Scene.name_eq_ok.1 hname
  -- both queries are about one handle, so about one node
  cases Handle.ofPlace_injective hij
  rw [hn] at hm
  cases hm
  exact ⟨i, n, hn, hname, hdata⟩

/-- The name and the placement of a transform, and what is made of them. -/
private theorem placement_eq_ok {β : Type} (h : Handle) (k : String → Vec3 α → Vec3 α → β) {b : β} :
    (do
      let name ← s.name h
      let position ← s.position h
      let rotation ← s.rotation h
      return k name position rotation : Except Failure β) = .ok b ↔
    ∃ name t, s.name h = .ok name ∧ s.transform h = .ok t ∧ k name t.position t.rotation = b := by
  simp only [bind_eq_ok, Scene.position, Scene.rotation, map_eq_ok]
  constructor
  · intro hb
    obtain ⟨name, hname, _, ⟨t, ht, rfl⟩, _, ⟨t', ht', rfl⟩, hb⟩ := hb
    -- position and rotation are those of one transform
    rw [ht] at ht'
    cases ht'
    cases hb
    exact ⟨name, t, hname, ht, rfl⟩
  · intro hb
    obtain ⟨name, t, hname, ht, rfl⟩ := hb
    exact ⟨name, hname, _, ⟨t, ht, rfl⟩, _, ⟨t, ht, rfl⟩, rfl⟩

/-- A transform has a name and a placement. -/
theorem kind?_transform_iff {p : Handle} : s.kind? p = some .transform ↔
    ∃ name t, s.name p = .ok name ∧ s.transform p = .ok t := by
  rw [Scene.kind?_eq_transform]
  constructor
  · intro hp
    obtain ⟨t, ht⟩ := hp
    obtain ⟨i, n, hi, hn, -⟩ := Scene.transform_eq_ok.1 ht
    exact ⟨n.name, t, Scene.name_eq_ok.2 ⟨i, n, hi, hn, rfl⟩, ht⟩
  · intro hp
    obtain ⟨-, t, -, ht⟩ := hp
    exact ⟨t, ht⟩

/-! ### Cameras -/

/-- The block of a camera has the name and the placement of its parent. -/
def IsCamera (s : Scene α) (c : Handle) (b : CameraBlock α) : Prop :=
  ∃ p name t, s.parent? c = some p ∧ s.name p = .ok name ∧ s.transform p = .ok t ∧
    b = ⟨name, t.position, t.rotation⟩

/-- The block of a camera says where it is and how it is turned. -/
theorem cameraBlock_eq_ok_iff {c : Handle} {b : Block α} :
    cameraBlock s c = .ok b ↔ ∃ camera, IsCamera s c camera ∧ .camera camera = b := by
  unfold cameraBlock IsCamera
  cases hp : s.parent? c with
  | none => simp [lacking]
  | some p =>
    refine (placement_eq_ok p fun name position rotation =>
      Block.camera ⟨name, position, rotation⟩).trans ?_
    constructor
    · intro hb
      obtain ⟨name, t, hname, ht, rfl⟩ := hb
      exact ⟨_, ⟨p, name, t, rfl, hname, ht, rfl⟩, rfl⟩
    · intro hb
      obtain ⟨_, ⟨p, name, t, ⟨⟩, hname, ht, rfl⟩, rfl⟩ := hb
      exact ⟨name, t, hname, ht, rfl⟩

/-- A camera has a block exactly if its parent is a transform. -/
theorem exists_isCamera {c : Handle} : (∃ camera, IsCamera s c camera) ↔
    ∃ p, s.parent? c = some p ∧ s.kind? p = some .transform := by
  simp only [kind?_transform_iff]
  constructor
  · intro hb
    obtain ⟨_, p, name, t, hp, hname, ht, -⟩ := hb
    exact ⟨p, hp, name, t, hname, ht⟩
  · intro hp
    obtain ⟨p, hp, name, t, hname, ht⟩ := hp
    exact ⟨_, p, name, t, hp, hname, ht, rfl⟩

/-! ### Generators -/

/-- The transform above the mesh that a generator feeds. -/
def IsOwner (s : Scene α) (g p : Handle) : Prop :=
  ∃ mesh, s.output? g = some mesh ∧ s.parent? mesh = some p

/-- The owner is found if the generator feeds a mesh below a transform. -/
theorem owningTransform_eq_ok {g p : Handle} :
    owningTransform s g = .ok p ↔ IsOwner s g p ∧ s.kind? p = some .transform := by
  unfold owningTransform IsOwner
  cases houtput : s.output? g with
  | none => simp [lacking]
  | some mesh =>
    dsimp only
    cases hparent : s.parent? mesh with
    | none => simp [lacking, hparent]
    | some q =>
      dsimp only
      split
      · rename_i hkind
        simp only [Except.ok.injEq, Option.some.injEq, exists_eq_left', hparent]
        exact ⟨fun hq => ⟨hq, hq ▸ hkind⟩, And.left⟩
      · rename_i hkind
        simp only [lacking, reduceCtorEq, Option.some.injEq, exists_eq_left', hparent, false_iff]
        exact fun hq => hkind (hq.1 ▸ hq.2)

/-- The design of a generator has the name and the placement of its owner. -/
private theorem designBlock_eq_ok_iff {settings : ExportSettings} {g : Handle} {shape : Shape α}
    {b : Block α} : designBlock settings s g shape = .ok b ↔
      ∃ p name t, IsOwner s g p ∧ s.name p = .ok name ∧ s.transform p = .ok t ∧
        .design ⟨name, shape, t.position, t.rotation, settings.material⟩ = b := by
  unfold designBlock
  rw [bind_eq_ok]
  refine exists_congr fun p => ?_
  rw [owningTransform_eq_ok, and_assoc]
  simp only [exists_and_left]
  refine and_congr_right fun _ => ?_
  refine (and_congr_right fun _ => placement_eq_ok p fun name position rotation =>
    Block.design ⟨name, shape, position, rotation, settings.material⟩).trans ?_
  -- the placement can be asked for only at transforms
  constructor
  · intro hb
    obtain ⟨-, name, t, hname, ht, hb⟩ := hb
    exact ⟨name, hname, t, ht, hb⟩
  · intro hb
    obtain ⟨name, hname, t, ht, hb⟩ := hb
    exact ⟨kind?_transform_iff.2 ⟨name, t, hname, ht⟩, name, t, hname, ht, hb⟩

variable [Scalar α]

/-- The shape of a generator: a sphere with its radius, or a box with the halves of its dimensions. -/
inductive HasShape (s : Scene α) (g : Handle) : Shape α → Prop where
  | sphere {r : α} (h : s.radius g = .ok r) : HasShape s g (.sphere r)
  | box {d : Dimensions α} (h : s.dimensions g = .ok d) :
    HasShape s g (.box (d.width * Scalar.half) (d.height * Scalar.half) (d.depth * Scalar.half))

/-- The sizes of a shape are those of a generator: the radius of a sphere, or the halves of the
dimensions of a box. -/
inductive IsGenerated (s : Scene α) : Shape α → Prop where
  | sphere {i : Nat} {n : Node α} {r : α} (hn : s.nodes[i]? = some n) (hdata : n.data = .sphere r) :
    IsGenerated s (.sphere r)
  | box {i : Nat} {n : Node α} {d : Dimensions α} (hn : s.nodes[i]? = some n)
    (hdata : n.data = .box d) : IsGenerated s (.box d.halves.width d.halves.height d.halves.depth)

/-- The shape that a generator has is one that can be generated. -/
theorem HasShape.isGenerated {g : Handle} {shape : Shape α} (h : HasShape s g shape) :
    IsGenerated s shape := by
  cases h with
  | sphere hr =>
    obtain ⟨i, n, -, hn, hview⟩ := Scene.aspect_eq_ok.1 hr
    refine .sphere hn ?_
    cases hdata : n.data <;> simp_all
  | box hd =>
    obtain ⟨i, n, -, hn, hview⟩ := Scene.aspect_eq_ok.1 hd
    refine .box hn ?_
    cases hdata : n.data <;> simp_all

/-- The block of a generator has its shape, and the name and the placement of the transform above its
mesh. -/
def IsDesign (settings : ExportSettings) (s : Scene α) (g : Handle) (b : DesignBlock α) : Prop :=
  ∃ p name t shape, IsOwner s g p ∧ s.name p = .ok name ∧ s.transform p = .ok t ∧ HasShape s g shape ∧
    b = ⟨name, shape, t.position, t.rotation, settings.material⟩

variable {settings : ExportSettings}

/-- A block of which the shape is asked for first. -/
private theorem bind_designBlock_eq_ok {β : Type} {g : Handle} {query : Except Failure β}
    {shape : β → Shape α} (hshape : ∀ sh, HasShape s g sh ↔ ∃ b, query = .ok b ∧ sh = shape b)
    {b : Block α} : (query >>= fun x => designBlock settings s g (shape x)) = .ok b ↔
      ∃ design, IsDesign settings s g design ∧ .design design = b := by
  simp only [bind_eq_ok, designBlock_eq_ok_iff]
  constructor
  · intro hb
    obtain ⟨x, hx, p, name, t, hp, hname, ht, rfl⟩ := hb
    exact ⟨_, ⟨p, name, t, _, hp, hname, ht, (hshape _).2 ⟨x, hx, rfl⟩, rfl⟩, rfl⟩
  · intro hb
    obtain ⟨_, ⟨p, name, t, sh, hp, hname, ht, hsh, rfl⟩, rfl⟩ := hb
    obtain ⟨x, hx, rfl⟩ := (hshape sh).1 hsh
    exact ⟨x, hx, p, name, t, hp, hname, ht, rfl⟩

/-- A generator of spheres gives the design with its own shape. -/
theorem sphereBlock_eq_ok_iff {g : Handle} (hg : s.kind? g = some .sphere) {b : Block α} :
    sphereBlock settings s g = .ok b ↔ ∃ design, IsDesign settings s g design ∧ .design design = b := by
  refine bind_designBlock_eq_ok fun sh => ⟨fun hsh => ?_, fun hsh => ?_⟩
  · cases hsh with
    | sphere hr => exact ⟨_, hr, rfl⟩
    | box hd =>
      rw [Scene.kind?_eq_box.2 ⟨_, hd⟩] at hg
      cases hg
  · obtain ⟨r, hr, rfl⟩ := hsh
    exact .sphere hr

/-- A generator of boxes gives the design with its own shape. -/
theorem boxBlock_eq_ok_iff {g : Handle} (hg : s.kind? g = some .box) {b : Block α} :
    boxBlock settings s g = .ok b ↔ ∃ design, IsDesign settings s g design ∧ .design design = b := by
  refine bind_designBlock_eq_ok fun sh => ⟨fun hsh => ?_, fun hsh => ?_⟩
  · cases hsh with
    | sphere hr =>
      rw [Scene.kind?_eq_sphere.2 ⟨_, hr⟩] at hg
      cases hg
    | box hd => exact ⟨_, hd, rfl⟩
  · obtain ⟨d, hd, rfl⟩ := hsh
    exact .box hd

end Scenery.Export
