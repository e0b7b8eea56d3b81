import Scenery.Proofs.Geometry.Rotation
import Scenery.Proofs.Scene.Hierarchy

/-!
# Edits in world space

A transform can be moved and turned to a place and to angles in the world, whatever is above it.  The
edit undoes the placement of the parent, which is computed from the way up; so that the transform lands
where it was asked to rests on the same way up being taken when its placement is asked for again.

* `relocates_setTransform`    another transform at a place moves that node and what is below it only
* `foldl_followedBy`          what is above a node turns it and moves it
* `exists_isPlaced_ofCalls`   transforms land where edits in world space put them
-/

namespace Scenery.Scene

section

variable {α : Type} {s : Scene α} {i k : Nat} {path : List Nat}

/-! ### Another transform at a place -/

/-- The way up follows links, and another transform leaves them alone. -/
theorem Upward.setTransform (hpath : s.Upward k path) (i : Nat) (t : Transform α) :
    (s.setTransform i t).Upward k path := by
  have hlinks : ∀ {j : Nat} {n : Node α}, s.nodes[j]? = some n →
      ∃ m, (s.setTransform i t).nodes[j]? = some m ∧ m.parent = n.parent := by
    intro j n hn
    refine ⟨_, by rw [Scene.setTransform, getElem?_modifyNode, hn, Option.map_some], ?_⟩
    split <;> rfl
  induction hpath with
  | root hn hp =>
    obtain ⟨m, hm, hparent⟩ := hlinks hn
    exact .root hm (hparent.trans hp)
  | step hn hp _ ih =>
    obtain ⟨m, hm, hparent⟩ := hlinks hn
    exact .step hm (hparent.trans hp) ih

/-- The way up from a node meets the nodes that it is below. -/
theorem WellFormed.isBelow_of_upward (h : s.WellFormed) (hpath : s.Upward k path) (hi : i ∈ path) :
    i = k ∨ s.IsBelow (Handle.ofPlace i) (Handle.ofPlace k) := by
  induction hpath with
  | root hn hp => exact .inl (List.mem_singleton.1 hi)
  | @step k p n path hn hp above ih =>
    have hchild : Handle.ofPlace k ∈ s.children (Handle.ofPlace p) :=
      (h.mem_children_iff _ _).2 (parent?_eq_some.2 ⟨k, n, p, rfl, hn, hp, rfl⟩)
    rcases List.mem_cons.1 hi with rfl | hi
    · exact .inl rfl
    · right
      rcases ih hi with rfl | hbelow
      · exact .single hchild
      · exact .tail hbelow hchild

variable [Scalar α]

/-- A way up that does not meet a place does not depend on the transform there. -/
theorem foldl_followedBy_setTransform (hi : i ∉ path) (t : Transform α) (m : Mat4 α) :
    path.foldl (s.setTransform i t).followedBy m = path.foldl s.followedBy m := by
  apply List.foldl_ext
  intro m j hj
  have hne : i ≠ j := fun hij => hi (hij ▸ hj)
  unfold followedBy
  rw [Scene.setTransform, getElem?_modifyNode_of_ne hne]

/-- A transform is placed by its matrix and what is above it. -/
theorem WellFormed.worldMatrix_transform (h : s.WellFormed) {n : Node α} (hn : s.nodes[i]? = some n)
    {t : Transform α} (ht : n.data = .transform t) (hpath : s.Upward i (i :: path)) :
    s.worldMatrix (Handle.ofPlace i) = .ok (path.foldl s.followedBy (t.toMatrix * 1)) := by
  have hfollowed : s.followedBy 1 i = t.toMatrix * 1 := by
    unfold followedBy
    rw [hn, Option.map_some, ht]
  rw [h.worldMatrix_upward hpath, List.foldl_cons, hfollowed]

/-- What is above a node gives the placement of its parent. -/
theorem WellFormed.exists_above (h : s.WellFormed) {n : Node α} (hn : s.nodes[i]? = some n) :
    ∃ above, s.Upward i (i :: above) ∧
      s.parentMatrix (Handle.ofPlace i) = .ok (above.foldl s.followedBy 1) := by
  cases hp : n.parent with
  | none =>
    refine ⟨[], .root hn hp, ?_⟩
    unfold parentMatrix
    rw [entry_ofPlace hn]
    simp only [bind, Except.bind, hp]
    rfl
  | some p =>
    -- the parent is older, so its own way up is there
    have hlt := h.parent_lt i n p hn hp
    have hi := (Array.getElem?_eq_some_iff.1 hn).1
    obtain ⟨above, habove⟩ := h.exists_upward (Nat.lt_trans hlt hi)
    refine ⟨above, .step hn hp habove, ?_⟩
    rw [← h.placeInWorld_upward habove]
    unfold parentMatrix
    rw [entry_ofPlace hn]
    simp only [bind, Except.bind, hp]
    rfl

/-- The transform at a handle is placed anew, by a matrix in the world.  The other nodes are as they
were, and those that are not below the transform are where they were. -/
structure Relocates (s s' : Scene α) (h : Handle) (m : Mat4 α) : Prop where
  world : s'.worldMatrix h = .ok m
  node : ∀ k, k ≠ h → s'.node? k = s.node? k
  transform : ∀ k, k ≠ h → s'.transform k = s.transform k
  others : ∀ k, k ≠ h → ¬ s.IsBelow h k → s'.worldMatrix k = s.worldMatrix k

omit [Scalar α] in
/-- Another transform changes the entry of its own node only. -/
private theorem entry?_setTransform {h : Handle} (hne : h ≠ Handle.ofPlace i) (t : Transform α) :
    Scene.entry? (s.setTransform i t) h = s.entry? h := by
  apply Option.ext
  intro e
  obtain ⟨j, n⟩ := e
  rw [entry?_eq_some, entry?_eq_some]
  apply and_congr_right
  intro hj
  have hij : i ≠ j := fun hij => hne (by rw [hj, hij])
  rw [Scene.setTransform, getElem?_modifyNode_of_ne hij]

/-- Another transform at a place changes the placement of that node and those below it only. -/
theorem WellFormed.relocates_setTransform (h : s.WellFormed) {n : Node α}
    (hn : s.nodes[i]? = some n) {t : Transform α} (ht : n.data = .transform t) {t' : Transform α}
    {m : Mat4 α} (hworld : (s.setTransform i t').worldMatrix (Handle.ofPlace i) = .ok m) :
    s.Relocates (s.setTransform i t') (Handle.ofPlace i) m where
  world := hworld
  node := by
    intro k hk
    unfold node?
    rw [entry?_setTransform hk]
  transform := by
    intro k hk
    unfold Scene.transform aspect entry
    rw [entry?_setTransform hk]
  others := by
    intro k hk hbelow
    cases he : s.entry? k with
    | none =>
      unfold worldMatrix entry
      rw [entry?_setTransform hk, he]
      rfl
    | some e =>
      obtain ⟨j, m⟩ := e
      obtain ⟨rfl, hj⟩ := entry?_eq_some.1 he
      obtain ⟨path, hpath⟩ := h.exists_upward (Array.getElem?_eq_some_iff.1 hj).1
      -- a node elsewhere does not have the moved one on its way up
      have hi : i ∉ path := by
        intro hi
        rcases h.isBelow_of_upward hpath hi with rfl | hk'
        · exact hk rfl
        · exact hbelow hk'
      have h' := h.flatChange (.placed hn ht t')
      rw [h'.worldMatrix_upward (hpath.setTransform i t'), h.worldMatrix_upward hpath,
        foldl_followedBy_setTransform hi]

end

/-! ### Exact arithmetic -/

variable {s : Scene ℝ} {i : Nat} {n : Node ℝ} {t : Transform ℝ}

/-- A node that something is followed by turns it and moves it. -/
private theorem followedBy_ofParts (s : Scene ℝ) (i : Nat) : ∃ r p, r.IsRotation ∧
    ∀ l t, s.followedBy (.ofParts l t) i = .ofParts (r * l) (r.apply t + p) := by
  unfold followedBy
  split
  · rename_i placed _
    refine ⟨_, placed.position, Transform.isRotation_rotationOf placed.rotation, ?_⟩
    intro l t
    rw [Transform.toMatrix_eq, Mat4.ofParts_mul]
  · refine ⟨1, 0, .one, ?_⟩
    intro l t
    rw [one_mul, Mat3.apply_one, add_zero]

/-- What the nodes on a way up do to a placement is to turn it and to move it. -/
theorem foldl_followedBy (s : Scene ℝ) (path : List Nat) : ∃ r p, r.IsRotation ∧
    ∀ l t, path.foldl s.followedBy (.ofParts l t) = .ofParts (r * l) (r.apply t + p) := by
  induction path with
  | nil =>
    refine ⟨1, 0, .one, ?_⟩
    intro l t
    rw [one_mul, Mat3.apply_one, add_zero, List.foldl_nil]
  | cons i path ih =>
    obtain ⟨r, p, hr, hpath⟩ := ih
    obtain ⟨r', p', hr', hi⟩ := followedBy_ofParts s i
    refine ⟨r * r', r.apply p' + p, hr.mul hr', ?_⟩
    intro l t
    rw [List.foldl_cons, hi, hpath, mul_assoc, Mat3.apply_add, Mat3.apply_mul, add_assoc]

/-- What is above a transform turns and moves it, whichever transform it is. -/
structure IsUnder (s : Scene ℝ) (i : Nat) (r : Mat3 ℝ) (p : Vec3 ℝ) : Prop where
  rotation : r.IsRotation
  parent : s.parentMatrix (Handle.ofPlace i) = .ok (.ofParts r p)
  world : ∀ t, s.transform (Handle.ofPlace i) = .ok t → s.worldMatrix (Handle.ofPlace i) =
    .ok (.ofParts (r * Transform.rotationOf t.rotation) (r.apply t.position + p))
  relocates : ∀ t, s.Relocates (s.setTransform i t) (Handle.ofPlace i)
    (.ofParts (r * Transform.rotationOf t.rotation) (r.apply t.position + p))

/-- The way up from a transform is the same whichever transform it is. -/
private theorem WellFormed.exists_isUnder (h : s.WellFormed) (hn : s.nodes[i]? = some n)
    (ht : n.data = .transform t) : ∃ r p, s.IsUnder i r p := by
  obtain ⟨above, hpath, hparent⟩ := h.exists_above hn
  obtain ⟨r, p, hr, habove⟩ := foldl_followedBy s above
  -- no node is above itself, so the way up does not depend on the transform at its lower end
  have hi : i ∉ above := fun hi =>
    Nat.lt_irrefl i ((List.pairwise_cons.1 (h.upward_sorted hpath).1).1 i hi)
  have hone : (1 : Mat4 ℝ) = .ofParts 1 0 := rfl
  have hmatrix (t : Transform ℝ) : above.foldl s.followedBy (t.toMatrix * 1) =
      .ofParts (r * Transform.rotationOf t.rotation) (r.apply t.position + p) := by
    rw [Transform.toMatrix_eq, hone, Mat4.ofParts_mul, habove, mul_one, Mat3.apply_zero, zero_add]
  refine ⟨r, p, hr, ?_, ?_, ?_⟩
  · rw [hparent, hone, habove, mul_one, Mat3.apply_zero, zero_add]
  · intro u hu
    obtain ⟨j, m, hj, hm, hu⟩ := transform_eq_ok.1 hu
    cases Handle.ofPlace_injective hj
    rw [h.worldMatrix_transform hm hu hpath, hmatrix]
  · intro u
    apply h.relocates_setTransform hn ht
    have h' := h.flatChange (.placed hn ht u)
    have hn' := getElem?_modifyNode_self hn fun n => { n with data := NodeData.transform u }
    rw [h'.worldMatrix_transform hn' rfl (hpath.setTransform i u), foldl_followedBy_setTransform hi,
      hmatrix]

/-- A transform in the world: how it is turned and where it is, and what edits in world space do. -/
structure IsPlaced (s : Scene ℝ) (h : Handle) (r : Mat3 ℝ) (p : Vec3 ℝ) : Prop where
  rotation : r.IsRotation
  world : s.worldMatrix h = .ok (.ofParts r p)
  /-- A move is to the point that is given, and turns nothing. -/
  setPosition : ∀ v, ∃ s', (Scene.setPosition h v .world).run s = (.ok (), s') ∧
    s.Relocates s' h (.ofParts r v)
  /-- A turn is to the angles that are given, and moves nothing. -/
  setRotation : ∀ angles, ∃ s', (Scene.setRotation h angles .world).run s = (.ok (), s') ∧
    s.Relocates s' h (.ofParts (Transform.rotationOf angles) p)

namespace IsUnder

variable {r : Mat3 ℝ} {p : Vec3 ℝ}

/-- A position in the world is turned and moved back into the frame of the parent. -/
private theorem run_setPosition (h : s.IsUnder i r p) (hn : s.nodes[i]? = some n)
    (ht : n.data = .transform t) (v : Vec3 ℝ) :
    (setPosition (Handle.ofPlace i) v .world).run s = (.ok (), s.setTransform i
      { t with position := r.transpose.apply v + -r.transpose.apply p }) := by
  have hlocal : (localPoint (Handle.ofPlace i) v .world).run s =
      (.ok (r.transpose.apply v + -r.transpose.apply p), s) := by
    unfold localPoint
    rw [run_bind, run_query, h.parent]
    simp only [Mat4.inverse?_ofParts h.rotation, Mat4.applyPoint_ofParts]
    rfl
  unfold setPosition
  rw [run_bind_ok hlocal, run_modifyTransform hn ht]

/-- A rotation in the world is turned back into the frame of the parent. -/
private theorem run_setRotation (h : s.IsUnder i r p) (hn : s.nodes[i]? = some n)
    (ht : n.data = .transform t) (angles : Vec3 ℝ) :
    (setRotation (Handle.ofPlace i) angles .world).run s = (.ok (), s.setTransform i
      { t with rotation := Transform.anglesOf (r.transpose * Transform.rotationOf angles) }) := by
  have hlinear : (Mat4.ofParts r p).linear = r := rfl
  have hlocal : (localAngles (Handle.ofPlace i) angles .world).run s =
      (.ok (Transform.anglesOf (r.transpose * Transform.rotationOf angles)), s) := by
    unfold localAngles
    rw [run_bind, run_query, h.parent]
    simp only [hlinear, h.rotation.closestRotation]
    rfl
  unfold setRotation
  rw [run_bind_ok hlocal, run_modifyTransform hn ht]

/-- The edits find the transform that what is above it takes to where it was asked to be. -/
private theorem isPlaced (h : s.IsUnder i r p) (hn : s.nodes[i]? = some n)
    (ht : n.data = .transform t) : s.IsPlaced (Handle.ofPlace i)
      (r * Transform.rotationOf t.rotation) (r.apply t.position + p) where
  rotation := h.rotation.mul (Transform.isRotation_rotationOf _)
  world := h.world t (transform_eq_ok.2 ⟨i, n, rfl, hn, ht⟩)
  setPosition := by
    intro v
    -- the frame of the parent is undone and applied again
    have hv : r.apply (r.transpose.apply v + -r.transpose.apply p) + p = v := by
      rw [Mat3.apply_add, Mat3.apply_neg, h.rotation.apply_transpose, h.rotation.apply_transpose,
        neg_add_cancel_right]
    have hrelocates := h.relocates { t with position := r.transpose.apply v + -r.transpose.apply p }
    rw [hv] at hrelocates
    exact ⟨_, h.run_setPosition hn ht v, hrelocates⟩
  setRotation := by
    intro angles
    -- the angles are read off a rotation, from which they give it back
    have hangles : r * Transform.rotationOf
        (Transform.anglesOf (r.transpose * Transform.rotationOf angles)) =
        Transform.rotationOf angles := by
      rw [Transform.rotationOf_anglesOf
        (h.rotation.transpose.mul (Transform.isRotation_rotationOf angles)), ← mul_assoc,
        h.rotation.mul_transpose, one_mul]
    have hrelocates := h.relocates
      { t with rotation := Transform.anglesOf (r.transpose * Transform.rotationOf angles) }
    rw [hangles] at hrelocates
    exact ⟨_, h.run_setRotation hn ht angles, hrelocates⟩

end IsUnder

/-- In every scene that arises, a transform lands where an edit in world space puts it, whatever is
above it, and only what is below it follows. -/
theorem exists_isPlaced_ofCalls (calls : List (Call ℝ)) {h : Handle}
    (hkind : (ofCalls calls).kind? h = some .transform) : ∃ r p, (ofCalls calls).IsPlaced h r p := by
  obtain ⟨t, ht⟩ := kind?_eq_transform.1 hkind
  obtain ⟨i, n, rfl, hn, hdata⟩ := transform_eq_ok.1 ht
  obtain ⟨r, p, hunder⟩ := (wellFormed_ofCalls calls).exists_isUnder hn hdata
  exact ⟨_, _, hunder.isPlaced hn hdata⟩

/-- A transform below a camera that is below a turned transform. -/
noncomputable def cameraArm : List (Call ℝ) :=
  [.addTransform "rig" none ⟨.unitX, .unitY⟩, .addCameraShape "eye" (Handle.ofPlace 0),
    .addTransform "arm" (some (Handle.ofPlace 1)) Transform.identity]

/-- An arm of a camera: the transform at its end has a place in the world. -/
theorem exists_isPlaced_cameraArm :
    (ofCalls cameraArm).kind? (Handle.ofPlace 2) = some .transform ∧
      ∃ r p, (ofCalls cameraArm).IsPlaced (Handle.ofPlace 2) r p := by
  have hkind : (ofCalls cameraArm).kind? (Handle.ofPlace 2) = some .transform := rfl
  exact ⟨hkind, exists_isPlaced_ofCalls cameraArm hkind⟩

end Scenery.Scene
