import Scenery.Proofs.Scene.Nodes

/-!
# What queries depend on

A query of a node reads the node and those above it, which are older.  So scenes that agree on all the
nodes that one of them has answer queries of these nodes alike, whatever was added to the other.

* `Extends.faceGeometry`   the faces of a mesh do not change when nodes are added
-/

namespace Scenery.Scene

variable {α : Type} {s s' : Scene α}

/-- All nodes of a scene are in another one too, at the same places and unchanged. -/
def Extends (s' s : Scene α) : Prop :=
  ∀ i, i < s.nodes.size → s'.nodes[i]? = s.nodes[i]?

theorem Extends.refl (s : Scene α) : s.Extends s :=
  fun _ _ => rfl

variable {i : Nat}

/-- Old handles are resolved as before. -/
theorem Extends.entry (h : s'.Extends s) (hi : i < s.nodes.size) :
    s'.entry (Handle.ofPlace i) = s.entry (Handle.ofPlace i) := by
  have hentry : s'.entry? (Handle.ofPlace i) = s.entry? (Handle.ofPlace i) := by
    simp only [Handle.place?_ofPlace, entry?, Option.bind_some, h i hi]
  unfold Scene.entry
  rw [hentry]

/-- Old nodes are still there, unchanged. -/
theorem Extends.node? (h : s'.Extends s) (hi : i < s.nodes.size) :
    s'.node? (Handle.ofPlace i) = s.node? (Handle.ofPlace i) := by
  rw [node?_ofPlace, node?_ofPlace, h i hi]

theorem Extends.name (h : s'.Extends s) (hi : i < s.nodes.size) :
    s'.name (Handle.ofPlace i) = s.name (Handle.ofPlace i) := by
  unfold Scene.name
  rw [h.entry hi]

theorem Extends.displayName (h : s'.Extends s) (hi : i < s.nodes.size) :
    s'.displayName (Handle.ofPlace i) = s.displayName (Handle.ofPlace i) := by
  unfold Scene.displayName
  rw [h.node? hi]

theorem Extends.kind? (h : s'.Extends s) (hi : i < s.nodes.size) :
    s'.kind? (Handle.ofPlace i) = s.kind? (Handle.ofPlace i) := by
  unfold Scene.kind?
  rw [h.node? hi]

theorem Extends.parent? (h : s'.Extends s) (hi : i < s.nodes.size) :
    s'.parent? (Handle.ofPlace i) = s.parent? (Handle.ofPlace i) := by
  unfold Scene.parent?
  rw [h.node? hi]

/-- What an old node holds is what it held. -/
theorem Extends.aspect {β : Type} (h : s'.Extends s) (hi : i < s.nodes.size) (lack : Lack)
    (view : NodeData α → Option β) :
    s'.aspect (Handle.ofPlace i) lack view = s.aspect (Handle.ofPlace i) lack view := by
  unfold Scene.aspect
  rw [h.entry hi]

theorem Extends.position (h : s'.Extends s) (hi : i < s.nodes.size) :
    s'.position (Handle.ofPlace i) = s.position (Handle.ofPlace i) := by
  unfold Scene.position transform
  rw [h.aspect hi]

theorem Extends.rotation (h : s'.Extends s) (hi : i < s.nodes.size) :
    s'.rotation (Handle.ofPlace i) = s.rotation (Handle.ofPlace i) := by
  unfold Scene.rotation transform
  rw [h.aspect hi]

/-- The placement of a node is computed from nodes that are not younger. -/
private theorem Extends.placeInWorld [Scalar α] (h : s'.Extends s) (hi : i < s.nodes.size)
    (m : Mat4 α) : s'.placeInWorld i m = s.placeInWorld i m := by
  -- the way up only meets older nodes, and those are the same in both scenes
  induction i using Nat.strongRecOn generalizing m with
  | ind i ih =>
    unfold Scene.placeInWorld
    rw [h i hi]
    cases s.nodes[i]? with
    | none => rfl
    | some n =>
      dsimp only
      cases n.parent with
      | none => rfl
      | some p =>
        dsimp only
        split
        · rename_i hlt
          exact ih p hlt (by omega) _
        · rfl

/-- Old nodes stay where they were in the world, since their ancestors are old, too. -/
theorem Extends.worldMatrix [Scalar α] (h : s'.Extends s) (hi : i < s.nodes.size) :
    s'.worldMatrix (Handle.ofPlace i) = s.worldMatrix (Handle.ofPlace i) := by
  have hn : s.nodes[i]? = some s.nodes[i] := Array.getElem?_eq_getElem hi
  unfold Scene.worldMatrix
  rw [h.entry hi, entry_ofPlace hn]
  simp only [bind, Except.bind, h.placeInWorld hi]

/-- The geometry of a face is the same in every scene that has the nodes of the first one. -/
theorem Extends.faceGeometry [Scalar α] (h : s'.Extends s) (hi : i < s.nodes.size) (face : Nat) :
    s'.faceGeometry (Handle.ofPlace i) face = s.faceGeometry (Handle.ofPlace i) face := by
  unfold Scene.faceGeometry mesh
  rw [h.aspect hi, h.displayName hi, h.worldMatrix hi]

end Scenery.Scene
