import Scenery.Proofs.Scene.Consistent
import Scenery.Proofs.Scene.Frame

/-!
# What becomes of nodes

Nodes are never removed, renamed or brought into another order.  What else there is to a node changes
only by a call about this very node: it may lose its parent or what it feeds, and a transform may be
placed anew.

* `Node.Becomes`   what may become of a node by some calls
* `Keeps`          what may become of all nodes of a scene
* `Keeps.call`     one call
* `Keeps.stable`   what users of handles and names see of it
-/

namespace Scenery

open Scene (Call)

variable {α : Type}

/-- Some call moves or turns the node at a handle; `did` says which calls were made. -/
def Scene.Placed (did : Call α → Prop) (h : Handle) : Prop :=
  (∃ p space, did (.setPosition h p space)) ∨ ∃ angles space, did (.setRotation h angles space)

/-- What may become of the node at a handle by some calls; `did` says which.  It may also get or lose
children. -/
structure Node.Becomes (did : Call α → Prop) (h : Handle) (n n' : Node α) : Prop where
  name : n'.name = n.name
  parent : n'.parent = n.parent ∨ did (.unparent h) ∧ n'.parent = none
  output : n'.output = n.output ∨ did (.disconnectOutput h) ∧ n'.output = none
  data : n'.data = n.data ∨
    Scene.Placed did h ∧ ∃ t t', n.data = .transform t ∧ n'.data = .transform t'

namespace Node.Becomes

variable {did did' : Call α → Prop} {h : Handle} {n n' n'' : Node α}

theorem refl (did : Call α → Prop) (h : Handle) (n : Node α) : n.Becomes did h n :=
  ⟨rfl, .inl rfl, .inl rfl, .inl rfl⟩

theorem trans (hfirst : n.Becomes did h n') (hsecond : n'.Becomes did h n'') :
    n.Becomes did h n'' where
  name := hsecond.name.trans hfirst.name
  parent := by
    -- a parent that is lost is not found again
    rcases hsecond.parent with hp | hp
    · rw [hp]
      exact hfirst.parent
    · exact .inr hp
  output := by
    rcases hsecond.output with hout | hout
    · rw [hout]
      exact hfirst.output
    · exact .inr hout
  data := by
    rcases hsecond.data with hdata | ⟨hplaced, t, t', ht, ht'⟩
    · rw [hdata]
      exact hfirst.data
    · -- what is placed now was a transform before
      rcases hfirst.data with hdata | ⟨-, u, -, hu, -⟩
      · exact .inr ⟨hplaced, t, t', hdata ▸ ht, ht'⟩
      · exact .inr ⟨hplaced, u, t', hu, ht'⟩

/-- More calls may do more. -/
theorem mono (hdid : ∀ c, did c → did' c) (hn : n.Becomes did h n') : n.Becomes did' h n' where
  name := hn.name
  parent := hn.parent.imp_right fun ⟨hc, hp⟩ => ⟨hdid _ hc, hp⟩
  output := hn.output.imp_right fun ⟨hc, hout⟩ => ⟨hdid _ hc, hout⟩
  data := by
    refine hn.data.imp_right fun ⟨hplaced, htransforms⟩ => ⟨?_, htransforms⟩
    exact hplaced.imp (fun ⟨p, space, hc⟩ => ⟨p, space, hdid _ hc⟩)
      fun ⟨angles, space, hc⟩ => ⟨angles, space, hdid _ hc⟩

/-- A node never changes its kind. -/
theorem kind (hn : n.Becomes did h n') : n'.kind = n.kind := by
  rcases hn.data with hdata | ⟨-, t, t', ht, ht'⟩
  · rw [Node.kind, Node.kind, hdata]
  · rw [Node.kind, Node.kind, ht, ht']
    rfl

end Node.Becomes

namespace Scene

/-- What may become of the nodes of a scene by some calls; `did` says which.  New nodes come last. -/
structure Keeps (did : Call α → Prop) (s s' : Scene α) : Prop where
  nodes : ∀ (i : Nat) (n : Node α), s.nodes[i]? = some n →
    ∃ n', s'.nodes[i]? = some n' ∧ n.Becomes did (Handle.ofPlace i) n'
  order : s.order <+: s'.order

variable {did did' : Call α → Prop} {s s' s'' : Scene α}

namespace Keeps

/-- A scene that only grows keeps what it had. -/
theorem of_extends (h : s'.Extends s) (horder : s.order <+: s'.order) : Keeps did s s' where
  nodes i n hn := ⟨n, by rw [h i (Array.getElem?_eq_some_iff.1 hn).1, hn], .refl ..⟩
  order := horder

theorem refl (did : Call α → Prop) (s : Scene α) : Keeps did s s :=
  of_extends (.refl s) (List.prefix_refl _)

/-- What two runs keep, both of them keep. -/
theorem trans (hfirst : Keeps did s s') (hsecond : Keeps did s' s'') : Keeps did s s'' where
  nodes i n hn := by
    obtain ⟨n', hn', hbecomes⟩ := hfirst.nodes i n hn
    obtain ⟨n'', hn'', hbecomes'⟩ := hsecond.nodes i n' hn'
    exact ⟨n'', hn'', hbecomes.trans hbecomes'⟩
  order := hfirst.order.trans hsecond.order

/-- The more calls are allowed for, the less is said to be kept. -/
theorem mono (hdid : ∀ c, did c → did' c) (h : Keeps did s s') : Keeps did' s s' where
  nodes i n hn := by
    obtain ⟨n', hn', hbecomes⟩ := h.nodes i n hn
    exact ⟨n', hn', hbecomes.mono hdid⟩
  order := h.order

/-! ### Single changes -/

/-- A node that is added is the last one; its parent has one child more. -/
private theorem push (name : String) (parent : Option Nat) (data : NodeData α) :
    Keeps did s (s.push name parent data) where
  nodes i n hn := ⟨_, getElem?_push_of_some hn, ⟨rfl, .inl rfl, .inl rfl, .inl rfl⟩⟩
  order := by
    rw [order_push]
    exact List.prefix_append _ _

/-- One node is changed as it may be. -/
private theorem modifyNode {i : Nat} {n : Node α} (hn : s.nodes[i]? = some n) {f : Node α → Node α}
    (hf : n.Becomes did (Handle.ofPlace i) (f n)) : Keeps did s (s.modifyNode i f) where
  nodes j m hm := by
    by_cases hij : i = j
    · subst hij
      rw [hn] at hm
      cases hm
      exact ⟨f n, getElem?_modifyNode_self hn f, hf⟩
    · exact ⟨m, by rw [getElem?_modifyNode_of_ne hij, hm], .refl ..⟩
  order := List.prefix_refl _

/-- Taking a node from its parent is allowed to the calls that do this. -/
private theorem detach (i p : Nat) (hdid : did (.unparent (Handle.ofPlace i))) :
    Keeps did s (s.detach i p) where
  nodes j n hn := by
    have hdetached := getElem?_detach s i p j
    rw [hn, Option.map_some] at hdetached
    refine ⟨_, hdetached, ⟨rfl, ?_, .inl rfl, .inl rfl⟩⟩
    -- the node that is taken away has no parent after that, and the others keep theirs
    dsimp only
    split
    · rename_i hij
      subst hij
      exact .inr ⟨hdid, rfl⟩
    · exact .inl rfl
  order := List.prefix_refl _

/-- A new object leaves the old nodes. -/
private theorem withShape (name : String) (t : Transform α) (shape : NodeData α) :
    Keeps did s (s.withShape name t shape) :=
  (push (s.freeName name) none (.transform t)).trans (push _ (some s.nodes.size) shape)

/-- The generator is connected after it was added, so no older node gets an output. -/
private theorem withGenerated (name : String) (t : Transform α) (generatorName : String)
    (data : NodeData α) : Keeps did s (s.withGenerated name t generatorName data) := by
  refine of_extends (fun i hi => getElem?_withGenerated_of_lt _ _ _ _ hi) ?_
  rw [order_withGenerated]
  exact List.prefix_append _ _

/-- The transform of a node changes only through calls that place it. -/
private theorem setTransform {i : Nat} {n : Node α} {t : Transform α} (hn : s.nodes[i]? = some n)
    (ht : n.data = .transform t) (t' : Transform α) (hdid : Placed did (Handle.ofPlace i)) :
    Keeps did s (s.setTransform i t') :=
  modifyNode hn ⟨rfl, .inl rfl, .inl rfl, .inr ⟨hdid, t, t', ht, rfl⟩⟩

/-! ### Edits -/

private theorem insert (name : String) (parent : Option Handle) (data : NodeData α) (s : Scene α) :
    Keeps did s ((Scene.insert name parent data).run s).2 := by
  cases parent with
  | none =>
    by_cases hname : name = ""
    · subst hname
      exact refl did s
    · rw [run_insert_root hname]
      exact push (s.freeName name) none data
  | some h =>
    rcases insert_below_cases name h data s with ⟨e, he⟩ | ⟨p, -, -, -, hok⟩
    · rw [he]
      exact refl did s
    · rw [hok]
      exact push (s.freeName name) (some p) data

private theorem addGenerated (name : String) (t : Transform α) (generatorName : String)
    (data : NodeData α) (s : Scene α) :
    Keeps did s ((Scene.addGenerated name t generatorName data).run s).2 := by
  rcases addGenerated_cases name t generatorName data s with ⟨e, he⟩ | ⟨-, p, hok⟩
  · rw [he]
    exact refl did s
  · rw [hok]
    exact withGenerated ..

private theorem addMesh (name : String) (t : Transform α) (m : Mesh α) (s : Scene α) :
    Keeps did s ((Scene.addMesh name t m).run s).2 := by
  rcases addMesh_cases name t m s with ⟨e, he⟩ | ⟨-, -, p, hok⟩
  · rw [he]
    exact refl did s
  · rw [hok]
    exact withShape ..

private theorem addCamera (name : String) (t : Transform α) (s : Scene α) :
    Keeps did s ((Scene.addCamera name t).run s).2 := by
  rcases addCamera_cases name t s with ⟨e, he⟩ | ⟨-, p, hok⟩
  · rw [he]
    exact refl did s
  · rw [hok]
    exact withShape ..

/-- Disconnecting an output is one of the calls that may change it. -/
private theorem disconnectOutput {h : Handle} (hdid : did (.disconnectOutput h)) (s : Scene α) :
    Keeps did s ((Scene.disconnectOutput h).run s).2 := by
  rcases disconnectOutput_cases h s with ⟨e, he⟩ | ⟨i, n, rfl, hn, hok⟩
  · rw [he]
    exact refl did s
  · rw [hok]
    exact modifyNode hn ⟨rfl, .inl rfl, .inr ⟨hdid, rfl⟩, .inl rfl⟩

/-- Taking a node from its parent is one of the calls that may change the parent. -/
private theorem unparent {h : Handle} (hdid : did (.unparent h)) (s : Scene α) :
    Keeps did s ((Scene.unparent h).run s).2 := by
  rcases unparent_cases h s with ⟨r, he⟩ | ⟨i, n, p, rfl, -, -, hok⟩
  · rw [he]
    exact refl did s
  · rw [hok]
    exact detach i p hdid

private theorem setSelection (hs : List Handle) (s : Scene α) :
    Keeps did s ((Scene.setSelection hs).run s).2 := by
  rcases setSelection_cases hs s with ⟨e, he⟩ | ⟨places, -, hok⟩
  · rw [he]
    exact refl did s
  · rw [hok]
    exact of_extends (fun _ _ => rfl) (List.prefix_refl _)

variable [Scalar α]

/-- Setting a position is one of the calls that place a node. -/
private theorem setPosition {h : Handle} {p : Vec3 α} {space : Space}
    (hdid : did (.setPosition h p space)) (s : Scene α) :
    Keeps did s ((Scene.setPosition h p space).run s).2 := by
  rcases setPosition_cases h p space s with ⟨e, he⟩ | ⟨i, n, t, rfl, hn, ht, t', hok⟩
  · rw [he]
    exact refl did s
  · rw [hok]
    exact setTransform hn ht t' (.inl ⟨p, space, hdid⟩)

private theorem setRotation {h : Handle} {angles : Vec3 α} {space : Space}
    (hdid : did (.setRotation h angles space)) (s : Scene α) :
    Keeps did s ((Scene.setRotation h angles space).run s).2 := by
  rcases setRotation_cases h angles space s with ⟨e, he⟩ | ⟨i, n, t, rfl, hn, ht, t', hok⟩
  · rw [he]
    exact refl did s
  · rw [hok]
    exact setTransform hn ht t' (.inr ⟨angles, space, hdid⟩)

/-- A call keeps all nodes but for what it says itself, whether it fails or not. -/
theorem call {c : Call α} (hdid : did c) (s : Scene α) : Keeps did s (c.run s) := by
  cases c with
  | addTransform name parent t => exact insert name parent _ s
  | addSphere name t radius => exact addGenerated name t _ _ s
  | addBox name t d => exact addGenerated name t _ _ s
  | addMesh name t m => exact addMesh name t m s
  | addCamera name t => exact addCamera name t s
  | addCameraShape name parent => exact insert name (some parent) _ s
  -- a box has a name of its own, but is added as other objects are
  | createBox d =>
    show Keeps did s ((Scene.createBox d).run s).2
    rw [run_createBox]
    exact withGenerated ..
  | disconnectOutput h => exact disconnectOutput hdid s
  | unparent h => exact unparent hdid s
  | select h => exact setSelection [h] s
  | setSelection hs => exact setSelection hs s
  | clearSelection => exact of_extends (fun _ _ => rfl) (List.prefix_refl _)
  | setFileName name => exact of_extends (fun _ _ => rfl) (List.prefix_refl _)
  | setPosition h p space => exact setPosition hdid s
  | setRotation h angles space => exact setRotation hdid s

end Keeps

/-! ### Handles and names -/

/-- What users of handles and names may rely on while calls are made; `did` says which calls. -/
structure Stable (did : Call α → Prop) (s s' : Scene α) : Prop where
  isLive : ∀ h, s.isLive h = true → s'.isLive h = true
  name : ∀ h, s.isLive h = true → s'.name h = s.name h
  kind : ∀ h, s.isLive h = true → s'.kind? h = s.kind? h
  find : ∀ h name, s.name h = .ok name → s'.find? name = some h
  nodesOfKind : ∀ kind, s.nodesOfKind kind <+: s'.nodesOfKind kind
  parent : ∀ h, s.isLive h = true →
    s'.parent? h = s.parent? h ∨ did (.unparent h) ∧ s'.parent? h = none
  output : ∀ h, s.isLive h = true →
    s'.output? h = s.output? h ∨ did (.disconnectOutput h) ∧ s'.output? h = none
  transform : ∀ h, s.isLive h = true → ¬Placed did h → s'.transform h = s.transform h
  radius : ∀ h, s.isLive h = true → s'.radius h = s.radius h
  dimensions : ∀ h, s.isLive h = true → s'.dimensions h = s.dimensions h
  mesh : ∀ h, s.isLive h = true → s'.mesh h = s.mesh h

/-- A handle is live exactly if it names a node. -/
theorem isLive_iff {h : Handle} :
    s.isLive h = true ↔ ∃ i n, h = Handle.ofPlace i ∧ s.nodes[i]? = some n := by
  rw [isLive, Option.isSome_iff_exists, Prod.exists]
  simp only [entry?_eq_some]

namespace Keeps

variable {h : Handle}

/-- A node that was there is still there, and is what may have become of it. -/
private theorem exists_node (hkeeps : Keeps did s s') (hlive : s.isLive h = true) :
    ∃ i n n', h = Handle.ofPlace i ∧ s.nodes[i]? = some n ∧ s'.nodes[i]? = some n' ∧
      n.Becomes did h n' := by
  obtain ⟨i, n, rfl, hn⟩ := isLive_iff.1 hlive
  obtain ⟨n', hn', hbecomes⟩ := hkeeps.nodes i n hn
  exact ⟨i, n, n', rfl, hn, hn', hbecomes⟩

/-- A live handle stays live. -/
theorem isLive (hkeeps : Keeps did s s') (hlive : s.isLive h = true) : s'.isLive h = true := by
  obtain ⟨i, n, n', rfl, -, hn', -⟩ := hkeeps.exists_node hlive
  exact isLive_iff.2 ⟨i, n', rfl, hn'⟩

/-- A live node keeps its name. -/
theorem name (hkeeps : Keeps did s s') (hlive : s.isLive h = true) : s'.name h = s.name h := by
  obtain ⟨i, n, n', rfl, hn, hn', hbecomes⟩ := hkeeps.exists_node hlive
  simp only [Scene.name, entry_ofPlace hn, entry_ofPlace hn', Except.map, hbecomes.name]

/-- A node keeps its name. -/
theorem name_eq_ok (hkeeps : Keeps did s s') {name : String} (hname : s.name h = .ok name) :
    s'.name h = .ok name := by
  obtain ⟨i, n, hi, hn, -⟩ := Scene.name_eq_ok.1 hname
  rw [hkeeps.name (isLive_iff.2 ⟨i, n, hi, hn⟩), hname]

/-- A live node keeps its kind. -/
private theorem kind (hkeeps : Keeps did s s') (hlive : s.isLive h = true) :
    s'.kind? h = s.kind? h := by
  obtain ⟨i, n, n', rfl, hn, hn', hbecomes⟩ := hkeeps.exists_node hlive
  simp only [kind?, node?_ofPlace, hn, hn', Option.map_some, hbecomes.kind]

/-- A live node keeps its parent, or is taken from it by a call that does this. -/
private theorem parent (hkeeps : Keeps did s s') (hlive : s.isLive h = true) :
    s'.parent? h = s.parent? h ∨ did (.unparent h) ∧ s'.parent? h = none := by
  obtain ⟨i, n, n', rfl, hn, hn', hbecomes⟩ := hkeeps.exists_node hlive
  simp only [parent?, node?_ofPlace, hn, hn', Option.bind_some]
  rcases hbecomes.parent with hp | ⟨hdid, hp⟩
  · exact .inl (by rw [hp])
  · exact .inr ⟨hdid, by rw [hp, Option.map_none]⟩

/-- The mesh that a generator feeds is there before and after. -/
private theorem output (hwell : s.WellFormed) (hkeeps : Keeps did s s')
    (hlive : s.isLive h = true) :
    s'.output? h = s.output? h ∨ did (.disconnectOutput h) ∧ s'.output? h = none := by
  obtain ⟨i, n, n', rfl, hn, hn', hbecomes⟩ := hkeeps.exists_node hlive
  simp only [output?, node?_ofPlace, hn, hn', Option.bind_some]
  rcases hbecomes.output with hout | ⟨hdid, hout⟩
  · left
    rw [hout]
    cases hj : n.output with
    | none => rfl
    | some j =>
      obtain ⟨m, -, hm, -⟩ := hwell.output_mesh i n j hn hj
      obtain ⟨m', hm', -⟩ := hkeeps.nodes j m hm
      have hholds : s.holds j = true := decide_eq_true (Array.getElem?_eq_some_iff.1 hm).1
      have hholds' : s'.holds j = true := decide_eq_true (Array.getElem?_eq_some_iff.1 hm').1
      rw [Option.filter_some, Option.filter_some, hholds, hholds']
  · exact .inr ⟨hdid, by rw [hout, Option.filter_none, Option.map_none]⟩

/-- What a node holds is seen as before, in a view that no placing changes or if nothing was placed. -/
private theorem aspect {β : Type} (hkeeps : Keeps did s s') (hlive : s.isLive h = true) (lack : Lack)
    {view : NodeData α → Option β}
    (hview : ¬Placed did h ∨ ∀ t t', view (.transform t') = view (.transform t)) :
    s'.aspect h lack view = s.aspect h lack view := by
  obtain ⟨i, n, n', rfl, hn, hn', hbecomes⟩ := hkeeps.exists_node hlive
  have hsame : view n'.data = view n.data := by
    rcases hbecomes.data with hdata | ⟨hplaced, t, t', ht, ht'⟩
    · rw [hdata]
    · rcases hview with hnot | hview
      · exact absurd hplaced hnot
      · rw [ht, ht', hview]
  simp only [Scene.aspect, entry_ofPlace hn, entry_ofPlace hn', bind, Except.bind, hsame,
    hbecomes.name]

/-- The nodes of a kind come first among those that there are later. -/
private theorem nodesOfKind (hwell : s.WellFormed) (hkeeps : Keeps did s s') (k : NodeKind) :
    s.nodesOfKind k <+: s'.nodesOfKind k := by
  have hfilter : (s.order.filter fun i => (s.nodes[i]?).any (·.kind == k)) =
      s.order.filter fun i => (s'.nodes[i]?).any (·.kind == k) := by
    apply List.filter_congr
    intro i hi
    rw [hwell.order, List.mem_range] at hi
    have hn : s.nodes[i]? = some s.nodes[i] := Array.getElem?_eq_getElem hi
    obtain ⟨n', hn', hbecomes⟩ := hkeeps.nodes i _ hn
    rw [hn, hn', Option.any_some, Option.any_some, hbecomes.kind]
  unfold Scene.nodesOfKind handlesWhere
  rw [hfilter]
  exact (hkeeps.order.filter _).map _

/-- What becomes of the nodes, as users of handles and names see it. -/
theorem stable (hkeeps : Keeps did s s') (hwell : s.WellFormed) (hwell' : s'.WellFormed) :
    Stable did s s' where
  isLive _ hlive := hkeeps.isLive hlive
  name _ hlive := hkeeps.name hlive
  kind _ hlive := hkeeps.kind hlive
  find h name hname := (hwell'.find?_iff name h).2 (hkeeps.name_eq_ok hname)
  nodesOfKind := hkeeps.nodesOfKind hwell
  parent _ hlive := hkeeps.parent hlive
  output _ hlive := hkeeps.output hwell hlive
  transform _ hlive hnot := hkeeps.aspect hlive _ (.inl hnot)
  radius _ hlive := hkeeps.aspect hlive _ (.inr fun _ _ => rfl)
  dimensions _ hlive := hkeeps.aspect hlive _ (.inr fun _ _ => rfl)
  mesh _ hlive := hkeeps.aspect hlive _ (.inr fun _ _ => rfl)

end Keeps

end Scene

end Scenery
