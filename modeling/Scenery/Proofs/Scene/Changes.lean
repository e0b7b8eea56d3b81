import Scenery.Proofs.Scene.Runs

/-!
# Changes of scenes

All that an edit can do to a scene, whether it fails or not.  A flat change adds an object at the top,
places a transform, or leaves the nodes alone; the others put a node below another one or cut a link.
What holds of every change holds after every edit, so an invariant of scenes needs no look at the edits.

* `FlatChange`                the changes that keep objects side by side
* `Change`                    all changes
* `FlatChange.addSphere` etc. what an edit leaves is a changed scene
-/

namespace Scenery.Scene

variable {α : Type} {s : Scene α}

/-- A change that leaves the links between nodes alone; added nodes are linked to each other only. -/
inductive FlatChange (s : Scene α) : Scene α → Prop where
  | none : FlatChange s s
  | transform {name : String} (hname : name ≠ "") (t : Transform α) :
    FlatChange s (s.push (s.freeName name) .none (.transform t))
  | sphere {name : String} (hname : name ≠ "") (t : Transform α) (radius : α) :
    FlatChange s (s.withGenerated name t "polySphere" (.sphere radius))
  | box {name : String} (hname : name ≠ "") (t : Transform α) (d : Dimensions α) :
    FlatChange s (s.withGenerated name t "polyCube" (.box d))
  | mesh {name : String} (hname : name ≠ "") (t : Transform α) {m : Mesh α}
    (hm : m.validate = .ok ()) : FlatChange s (s.withShape name t (.mesh m))
  | camera {name : String} (hname : name ≠ "") (t : Transform α) :
    FlatChange s (s.withShape name t .camera)
  | placed {i : Nat} {n : Node α} {t : Transform α} (hn : s.nodes[i]? = some n)
    (ht : n.data = .transform t) (t' : Transform α) : FlatChange s (s.setTransform i t')
  | selected {places : List Nat} (hplaces : ∀ i ∈ places, i < s.nodes.size) :
    FlatChange s { s with selected := places }
  | fileName (name : Option String) : FlatChange s { s with fileName := name }

/-- A change of a scene. -/
inductive Change (s : Scene α) : Scene α → Prop where
  | flat {s' : Scene α} (h : FlatChange s s') : Change s s'
  /-- A transform or a camera below a node. -/
  | below {name : String} (hname : name ≠ "") {p : Nat} (hp : p < s.nodes.size) {data : NodeData α}
    (hdata : data.kind = .transform ∨ data.kind = .camera) :
    Change s (s.push (s.freeName name) (some p) data)
  | disconnected {i : Nat} {n : Node α} (hn : s.nodes[i]? = some n) :
    Change s (s.modifyNode i fun n => { n with output := none })
  | detached {i p : Nat} {n : Node α} (hn : s.nodes[i]? = some n) (hp : n.parent = some p) :
    Change s (s.detach i p)

namespace FlatChange

theorem addTransform (name : String) (t : Transform α) (s : Scene α) :
    FlatChange s ((Scene.addTransform name .none t).run s).2 := by
  by_cases hname : name = ""
  · subst hname
    exact .none
  · unfold Scene.addTransform
    rw [run_insert_root hname]
    exact .transform hname t

theorem addSphere (name : String) (t : Transform α) (radius : α) (s : Scene α) :
    FlatChange s ((Scene.addSphere name t radius).run s).2 := by
  unfold Scene.addSphere
  rcases addGenerated_cases name t "polySphere" (.sphere radius) s with ⟨e, he⟩ | ⟨hname, p, hok⟩
  · rw [he]
    exact .none
  · rw [hok]
    exact .sphere hname t radius

theorem addBox (name : String) (t : Transform α) (d : Dimensions α) (s : Scene α) :
    FlatChange s ((Scene.addBox name t d).run s).2 := by
  unfold Scene.addBox
  rcases addGenerated_cases name t "polyCube" (.box d) s with ⟨e, he⟩ | ⟨hname, p, hok⟩
  · rw [he]
    exact .none
  · rw [hok]
    exact .box hname t d

theorem addMesh (name : String) (t : Transform α) (m : Mesh α) (s : Scene α) :
    FlatChange s ((Scene.addMesh name t m).run s).2 := by
  rcases addMesh_cases name t m s with ⟨e, he⟩ | ⟨hname, hvalid, p, hok⟩
  · rw [he]
    exact .none
  · rw [hok]
    exact .mesh hname t hvalid

theorem addCamera (name : String) (t : Transform α) (s : Scene α) :
    FlatChange s ((Scene.addCamera name t).run s).2 := by
  rcases addCamera_cases name t s with ⟨e, he⟩ | ⟨hname, p, hok⟩
  · rw [he]
    exact .none
  · rw [hok]
    exact .camera hname t

theorem setSelection (hs : List Handle) (s : Scene α) :
    FlatChange s ((Scene.setSelection hs).run s).2 := by
  rcases setSelection_cases hs s with ⟨e, he⟩ | ⟨places, hplaces, hok⟩
  · rw [he]
    exact .none
  · rw [hok]
    exact .selected hplaces

variable [Scalar α]

/-- Creating a box under a name of its own is flat. -/
theorem createBox (d : Dimensions α) (s : Scene α) : FlatChange s ((Scene.createBox d).run s).2 := by
  rw [run_createBox]
  exact .box (nextName_ne_empty s _) _ d

theorem setPosition (h : Handle) (p : Vec3 α) (space : Space) (s : Scene α) :
    FlatChange s ((Scene.setPosition h p space).run s).2 := by
  rcases setPosition_cases h p space s with ⟨e, he⟩ | ⟨i, n, t, -, hn, ht, t', hok⟩
  · rw [he]
    exact .none
  · rw [hok]
    exact .placed hn ht t'

theorem setRotation (h : Handle) (angles : Vec3 α) (space : Space) (s : Scene α) :
    FlatChange s ((Scene.setRotation h angles space).run s).2 := by
  rcases setRotation_cases h angles space s with ⟨e, he⟩ | ⟨i, n, t, -, hn, ht, t', hok⟩
  · rw [he]
    exact .none
  · rw [hok]
    exact .placed hn ht t'

end FlatChange

namespace Change

/-- A node that is added below another one, if that is there. -/
theorem insert (name : String) (parent : Handle) {data : NodeData α}
    (hdata : data.kind = .transform ∨ data.kind = .camera) (s : Scene α) :
    Change s ((Scene.insert name (some parent) data).run s).2 := by
  rcases insert_below_cases name parent data s with ⟨e, he⟩ | ⟨p, -, hp, hname, hok⟩
  · rw [he]
    exact .flat .none
  · rw [hok]
    exact .below hname hp hdata

/-- Disconnecting an output changes one node and no link between parent and child. -/
theorem disconnectOutput (h : Handle) (s : Scene α) :
    Change s ((Scene.disconnectOutput h).run s).2 := by
  rcases disconnectOutput_cases h s with ⟨e, he⟩ | ⟨i, n, -, hn, hok⟩
  · rw [he]
    exact .flat .none
  · rw [hok]
    exact .disconnected hn

/-- Taking a node from its parent is a change. -/
theorem unparent (h : Handle) (s : Scene α) : Change s ((Scene.unparent h).run s).2 := by
  rcases unparent_cases h s with ⟨r, he⟩ | ⟨i, n, p, -, hn, hp, hok⟩
  · rw [he]
    exact .flat .none
  · rw [hok]
    exact .detached hn hp

end Change

end Scenery.Scene
