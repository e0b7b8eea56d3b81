import Scenery.Proofs.Scene.Hierarchy
import Scenery.Proofs.Snapshot.Objects

/-!
# Snapshots of objects

The snapshot of a scene of objects describes just these objects.  Each of them is found by its
transform, and its shape by what is below the transform and by what feeds that.

* `IsObject`            the nodes from a place on are an object
* `captureObject_eq`    such an object is described as what it is
* `Built.capture`       the objects of a scene are described in their order
-/

namespace Scenery.Snapshot

variable {s : Scene Single}

/-! ### Objects in a scene -/

/-- The nodes from a place on are an object: a transform at the top, the shape below it if there is
one, and behind them the generator that feeds a mesh if there is one. -/
inductive IsObject (s : Scene Single) (i : Nat) : SnapshotObject → Prop where
  | empty {name : String} {t : Transform Single}
    (htransform : s.nodes[i]? = some ⟨name, none, [], none, .transform t⟩) :
    IsObject s i ⟨name, t, .given .empty⟩
  | camera {name shapeName : String} {t : Transform Single}
    (htransform : s.nodes[i]? = some ⟨name, none, [i + 1], none, .transform t⟩)
    (hshape : s.nodes[i + 1]? = some ⟨shapeName, some i, [], none, .camera⟩) :
    IsObject s i ⟨name, t, .given .camera⟩
  | mesh {name shapeName : String} {t : Transform Single} {m : Mesh Single}
    (htransform : s.nodes[i]? = some ⟨name, none, [i + 1], none, .transform t⟩)
    (hshape : s.nodes[i + 1]? = some ⟨shapeName, some i, [], none, .mesh m⟩)
    (hunfed : s.IsUnfed (i + 1)) :
    IsObject s i ⟨name, t, .given (.mesh m)⟩
  | sphere {name shapeName generatorName : String} {t : Transform Single} {radius : Single}
    (htransform : s.nodes[i]? = some ⟨name, none, [i + 1], none, .transform t⟩)
    (hshape : s.nodes[i + 1]? = some ⟨shapeName, some i, [], none, .mesh .empty⟩)
    (hgenerator : s.nodes[i + 2]? = some ⟨generatorName, none, [], some (i + 1), .sphere radius⟩) :
    IsObject s i ⟨name, t, .given (.sphere radius)⟩
  | box {name shapeName generatorName : String} {t : Transform Single} {d : Dimensions Single}
    (htransform : s.nodes[i]? = some ⟨name, none, [i + 1], none, .transform t⟩)
    (hshape : s.nodes[i + 1]? = some ⟨shapeName, some i, [], none, .mesh .empty⟩)
    (hgenerator : s.nodes[i + 2]? = some ⟨generatorName, none, [], some (i + 1), .box d⟩) :
    IsObject s i ⟨name, t, .given (.box d)⟩

/-- A new object is one. -/
theorem isObject_withObject (h : s.WellFormed) {name : String} (hfree : s.hasName name = false)
    (t : Transform Single) (shape : ObjectShape) :
    IsObject (s.withObject name t shape) s.nodes.size ⟨name, t, .given shape⟩ := by
  have hname := Scene.freeName_of_not_hasName hfree
  have hshape (data : NodeData Single) := Scene.getElem?_withShape_transform s name t data
  have hgenerated (generatorName : String) (data : NodeData Single) :=
    Scene.getElem?_withGenerated_transform s name t generatorName data
  simp only [hname] at hshape hgenerated
  -- the nodes of each shape stand where its pattern has them
  cases shape with
  | empty =>
    have hroot : (s.push (s.freeName name) none (.transform t)).nodes[s.nodes.size]? =
        some ⟨s.freeName name, none, [], none, .transform t⟩ :=
      Scene.getElem?_push_size (by simp)
    rw [hname] at hroot
    unfold Scene.withObject
    rw [hname]
    exact .empty hroot
  | camera =>
    have hcamera := Scene.getElem?_withShape_shape s name t .camera
    exact .camera (hshape _) hcamera
  | mesh m =>
    have hmesh := Scene.getElem?_withShape_shape s name t (.mesh m)
    exact .mesh (hshape _) hmesh (h.isUnfed_withShape name t m)
  | sphere radius =>
    have hmesh := Scene.getElem?_withGenerated_shape s name t "polySphere" (.sphere radius)
    have hgenerator :=
      Scene.getElem?_withGenerated_generator s name t "polySphere" (.sphere radius)
    exact .sphere (hgenerated _ _) hmesh hgenerator
  | box d =>
    have hmesh := Scene.getElem?_withGenerated_shape s name t "polyCube" (.box d)
    have hgenerator := Scene.getElem?_withGenerated_generator s name t "polyCube" (.box d)
    exact .box (hgenerated _ _) hmesh hgenerator

/-- The nodes of a new object feed no older mesh. -/
private theorem isUnfed_withObject {j : Nat} (hj : s.IsUnfed j) (name : String)
    (t : Transform Single) (shape : ObjectShape) : (s.withObject name t shape).IsUnfed j := by
  obtain ⟨⟨m, v, hm, hv⟩, hunfed⟩ := hj
  have hlt := (Array.getElem?_eq_some_iff.1 hm).1
  refine ⟨⟨m, v, by rw [Scene.getElem?_withObject_of_lt hlt, hm], hv⟩, ?_⟩
  intro g n hn hout
  -- an older node, the new transform, or what is behind it
  rcases Nat.lt_trichotomy g s.nodes.size with hg | hg | hg
  · rw [Scene.getElem?_withObject_of_lt hg] at hn
    exact hunfed g n hn hout
  · subst hg
    obtain ⟨cs, htransform⟩ := Scene.getElem?_withObject_transform s name t shape
    rw [htransform] at hn
    cases hn
    cases hout
  · have hnew := (Scene.isBehind_withObject hg hn).output j hout
    omega

/-- An older object stays one. -/
theorem IsObject.withObject {i : Nat} {o : SnapshotObject} (ho : IsObject s i o) (name : String)
    (t : Transform Single) (shape : ObjectShape) : IsObject (s.withObject name t shape) i o := by
  have hkeep {j : Nat} {n : Node Single} (hn : s.nodes[j]? = some n) :
      (s.withObject name t shape).nodes[j]? = some n := by
    rw [Scene.getElem?_withObject_of_lt (Array.getElem?_eq_some_iff.1 hn).1, hn]
  cases ho with
  | empty htransform => exact .empty (hkeep htransform)
  | camera htransform hshape => exact .camera (hkeep htransform) (hkeep hshape)
  | mesh htransform hshape hunfed =>
    exact .mesh (hkeep htransform) (hkeep hshape) (isUnfed_withObject hunfed name t shape)
  | sphere htransform hshape hgenerator =>
    exact .sphere (hkeep htransform) (hkeep hshape) (hkeep hgenerator)
  | box htransform hshape hgenerator =>
    exact .box (hkeep htransform) (hkeep hshape) (hkeep hgenerator)

/-! ### Shapes -/

/-- The generator that feeds a mesh is found, since no other one feeds it. -/
private theorem generatorOf?_eq_some (h : s.WellFormed) {g j : Nat} {n : Node Single}
    (hn : s.nodes[g]? = some n) (hkind : n.kind = .sphere ∨ n.kind = .box)
    (hout : n.output = some j) :
    generatorOf? s (Handle.ofPlace j) = some (Handle.ofPlace g) := by
  obtain ⟨m, v, hm, -⟩ := h.output_mesh g n j hn hout
  have hholds : s.holds j = true := decide_eq_true (Array.getElem?_eq_some_iff.1 hm).1
  have houtput : s.output? (Handle.ofPlace g) = some (Handle.ofPlace j) :=
    Scene.output?_eq_some.2 ⟨g, n, j, rfl, hn, hout, hholds, rfl⟩
  have hmem : Handle.ofPlace g ∈ s.nodesOfKind .sphere ++ s.nodesOfKind .box := by
    rw [List.mem_append, (h.lists_nodesOfKind .sphere).mem, (h.lists_nodesOfKind .box).mem]
    simp only [Scene.kind?_eq_some]
    exact hkind.imp (fun hk => ⟨g, n, rfl, hn, hk⟩) fun hk => ⟨g, n, rfl, hn, hk⟩
  unfold generatorOf?
  cases hfind : (s.nodesOfKind .sphere ++ s.nodesOfKind .box).find?
      (s.output? · = some (Handle.ofPlace j)) with
  | none => exact absurd (decide_eq_true houtput) (List.find?_eq_none.1 hfind _ hmem)
  | some g' =>
    have hfound : s.output? g' = some (Handle.ofPlace j) := by simpa using List.find?_some hfind
    obtain ⟨i, n', j', rfl, hn', hout', -, hj'⟩ := Scene.output?_eq_some.1 hfound
    cases Handle.ofPlace_injective hj'
    -- two generators that feed one mesh are the same
    rw [h.output_inj i n' g n j hn' hn hout' hout]

/-- A mesh that no generator feeds has no generator. -/
private theorem generatorOf?_eq_none {j : Nat} (hunfed : s.IsUnfed j) :
    generatorOf? s (Handle.ofPlace j) = none := by
  unfold generatorOf?
  rw [List.find?_eq_none]
  intro g _ hg
  obtain ⟨i, n, j', -, hn, hout, -, hj'⟩ := Scene.output?_eq_some.1 (of_decide_eq_true hg)
  cases Handle.ofPlace_injective hj'
  exact hunfed.2 i n hn hout

/-- The kind of a node is that of the node at its place. -/
private theorem kind?_ofPlace {i : Nat} {n : Node Single} (hn : s.nodes[i]? = some n) :
    s.kind? (Handle.ofPlace i) = some n.kind := by
  rw [Scene.kind?, Scene.node?_ofPlace, hn]
  rfl

/-- The children of a node are those that the node at its place lists. -/
private theorem children_ofPlace {i : Nat} {n : Node Single} (hn : s.nodes[i]? = some n) :
    s.children (Handle.ofPlace i) = n.children.map Handle.ofPlace := by
  rw [Scene.children, Scene.node?_ofPlace, hn]

/-- The shape of a transform above a mesh is that of the mesh. -/
private theorem captureShape_mesh {i j : Nat} {n m : Node Single} (hn : s.nodes[i]? = some n)
    (hchildren : n.children = [j]) (hm : s.nodes[j]? = some m) (hkind : m.kind = .mesh) :
    captureShape s (Handle.ofPlace i) = captureMesh s (Handle.ofPlace j) := by
  unfold captureShape
  simp only [children_ofPlace hn, hchildren, List.map_cons, kind?_ofPlace hm, hkind]

/-- A mesh that is fed is described by its generator. -/
private theorem captureMesh_generated (h : s.WellFormed) {g j : Nat} {n : Node Single}
    (hn : s.nodes[g]? = some n) (hout : n.output = some j) :
    (∀ radius, n.data = .sphere radius →
      captureMesh s (Handle.ofPlace j) = .ok (.sphere radius)) ∧
    ∀ d, n.data = .box d → captureMesh s (Handle.ofPlace j) = .ok (.box d) := by
  constructor
  · -- the generator that feeds the mesh is found, and its kind gives the shape
    intro radius hdata
    have hkind : n.kind = .sphere := by rw [Node.kind, hdata]; rfl
    have hradius : s.radius (Handle.ofPlace g) = .ok radius :=
      Scene.aspect_eq_ok.2 ⟨g, n, rfl, hn, by rw [hdata]⟩
    unfold captureMesh
    simp only [generatorOf?_eq_some h hn (.inl hkind) hout, kind?_ofPlace hn, hkind, ↓reduceIte,
      hradius]
    rfl
  · intro d hdata
    have hkind : n.kind = .box := by rw [Node.kind, hdata]; rfl
    have hdimensions : s.dimensions (Handle.ofPlace g) = .ok d :=
      Scene.aspect_eq_ok.2 ⟨g, n, rfl, hn, by rw [hdata]⟩
    unfold captureMesh
    simp only [generatorOf?_eq_some h hn (.inr hkind) hout, kind?_ofPlace hn, hkind,
      Option.some.injEq, reduceCtorEq, ↓reduceIte, hdimensions]
    rfl

/-- A transform with a shape that is described. -/
private theorem captureObject_of_shape {i : Nat} {n : Node Single} {t : Transform Single}
    (hn : s.nodes[i]? = some n) (ht : n.data = .transform t) {shape : ObjectShape}
    (hshape : captureShape s (Handle.ofPlace i) = .ok shape) :
    captureObject s (Handle.ofPlace i) = .ok ⟨n.name, t, .given shape⟩ := by
  unfold captureObject
  rw [Scene.transform_eq_ok.2 ⟨i, n, rfl, hn, ht⟩, Scene.name_eq_ok.2 ⟨i, n, rfl, hn, rfl⟩, hshape]
  rfl

/-- An object is described as what it is. -/
theorem captureObject_eq (h : s.WellFormed) {i : Nat} {o : SnapshotObject} (ho : IsObject s i o) :
    captureObject s (Handle.ofPlace i) = .ok o := by
  cases ho with
  | empty htransform =>
    refine captureObject_of_shape htransform rfl ?_
    unfold captureShape
    rw [children_ofPlace htransform]
    rfl
  | camera htransform hshape =>
    refine captureObject_of_shape htransform rfl ?_
    unfold captureShape
    simp only [children_ofPlace htransform, List.map_cons, kind?_ofPlace hshape]
    rfl
  -- nothing feeds the mesh, so its own faces are captured
  | @mesh name shapeName t m htransform hshape hunfed =>
    have hmesh : s.mesh (Handle.ofPlace (i + 1)) = .ok m :=
      Scene.mesh_eq_ok.2 ⟨i + 1, _, rfl, hshape, rfl⟩
    refine captureObject_of_shape htransform rfl ?_
    rw [captureShape_mesh htransform rfl hshape rfl, captureMesh, generatorOf?_eq_none hunfed]
    dsimp only
    rw [hmesh]
    rfl
  | sphere htransform hshape hgenerator =>
    refine captureObject_of_shape htransform rfl ?_
    rw [captureShape_mesh htransform rfl hshape rfl]
    exact (captureMesh_generated h hgenerator rfl).1 _ rfl
  | box htransform hshape hgenerator =>
    refine captureObject_of_shape htransform rfl ?_
    rw [captureShape_mesh htransform rfl hshape rfl]
    exact (captureMesh_generated h hgenerator rfl).2 _ rfl

/-! ### All objects -/

/-- The places of the transforms without a parent. -/
def topPlaces (s : Scene Single) : List Nat :=
  s.order.filter fun i => (s.nodes[i]?).any fun n => n.parent.isNone && decide (n.kind = .transform)

/-- A snapshot looks at the transforms without a parent. -/
private theorem roots_filter_eq (s : Scene Single) :
    s.roots.filter (s.kind? · = some .transform) = (topPlaces s).map Handle.ofPlace := by
  unfold Scene.roots Scene.handlesWhere topPlaces
  rw [List.filter_map, List.filter_filter]
  congr 1
  apply List.filter_congr
  intro i _
  simp only [Function.comp_apply, Scene.kind?, Scene.node?_ofPlace]
  cases s.nodes[i]? with
  | none => rfl
  | some n => simp [Bool.and_comm]

/-- A new object has one transform without a parent. -/
private theorem topPlaces_withObject (h : s.WellFormed) {name : String} (hname : name ≠ "")
    (t : Transform Single) {shape : ObjectShape} (hshape : shape.IsValid) :
    topPlaces (s.withObject name t shape) = topPlaces s ++ [s.nodes.size] :=
  Scene.filter_order_withObject h hname hshape (fun n hn => by simp [hn]) fun _ => rfl

/-- In a scene of objects the transforms without a parent are those of the objects. -/
theorem Built.objects {os : List SnapshotObject} (h : Built os s) :
    List.Forall₂ (IsObject s) (topPlaces s) os := by
  induction h with
  | nil => exact .nil
  | @snoc os s h name hname hfree t shape hshape ih =>
    rw [topPlaces_withObject h.wellFormed hname t hshape]
    refine List.rel_append (ih.imp fun i o ho => ho.withObject name t shape) (.cons ?_ .nil)
    exact isObject_withObject h.wellFormed hfree t shape

/-- The objects of a scene are described in their order. -/
theorem Built.capture {os : List SnapshotObject} (h : Built os s) :
    (s.roots.filter (s.kind? · = some .transform)).mapM (captureObject s) = .ok os := by
  rw [roots_filter_eq, mapM_eq_ok, List.forall₂_map_left_iff]
  exact h.objects.imp fun i o ho => captureObject_eq h.wellFormed ho

end Scenery.Snapshot
