import Scenery.Files.Table
import Scenery.Proofs.CommandLine.Commands
import Scenery.Proofs.Conversion.Flat
import Scenery.Proofs.Snapshot.Capture
import Scenery.Proofs.Snapshot.Loading

/-!
# Scenes that are saved and built again

A scene of objects and the one that is built from its snapshot have the same nodes at the same places.
The snapshot keeps no names of shapes and generators, but they come about in the same way again, as each
object is added to the same scene as before.

* `Built.toScene`     the scene that a snapshot of objects describes
* `Built.ofScene`     the snapshot of a scene of objects
* `ofFlatSteps`       the scenes to which this applies
* `reload_ofFlatSteps` saving and building again gives such a scene back
-/

namespace Scenery.Snapshot

variable {os : List SnapshotObject} {s : Scene Single} {fileName : Option String}

/-! ### Building -/

section

variable {m : Type → Type} [Monad m] [LawfulMonad m] [MonadFiles m]

/-- The objects of a scene are added to the empty scene one by one, and the others after them. -/
theorem Built.addObjects (h : Built os s) (base : String) (fileName : Option String)
    (rest : List SnapshotObject) :
    (Snapshot.addObjects base { Scene.empty with fileName } (os ++ rest) :
      m (Except Failure (Scene Single))) = Snapshot.addObjects base { s with fileName } rest := by
  -- the last object of the scene is the first of the remaining ones
  induction h generalizing rest with
  | nil => rfl
  | @snoc os s h name hname hfree t shape hshape ih =>
    rw [List.append_assoc, List.singleton_append, ih]
    conv_lhs => unfold Snapshot.addObjects
    simp only [resolveShape, pure_bind, run_addObject hname t hshape]
    rw [Scene.withObject_with s fileName s.selected, ← Scene.selected_withObject s name t shape]

end

/-! ### Snapshots of objects -/

/-- The nodes at places have names. -/
private theorem exists_areNames {places : List Nat} (hplaces : ∀ i ∈ places, i < s.nodes.size) :
    ∃ names, AreNames s places names :=
  exists_forall₂.2 fun i hi =>
    ⟨_, Scene.name_eq_ok.2 ⟨i, _, rfl, Array.getElem?_eq_getElem (hplaces i hi), rfl⟩⟩

/-- The snapshot of a scene of objects. -/
theorem Built.ofScene (h : Built os s) {places : List Nat} {names : List String}
    (hplaces : ∀ i ∈ places, i < s.nodes.size) (hnames : AreNames s places names)
    (fileName : Option String) : Snapshot.ofScene { s with fileName, selected := places } =
      .ok ⟨fileName.filter (!·.isEmpty), os, names⟩ := by
  have hnamed : (places.map Handle.ofPlace).mapM s.name = .ok names := by
    rw [mapM_eq_ok, List.forall₂_map_left_iff]
    exact hnames
  unfold Snapshot.ofScene
  rw [selection_withSelected hplaces]
  simp only [bind_eq_ok]
  exact ⟨os, h.capture, names, hnamed, rfl⟩

/-- The scene that a snapshot of objects describes. -/
theorem Built.toScene {m : Type → Type} [Monad m] [LawfulMonad m] [MonadFiles m] (h : Built os s)
    {places : List Nat} {names : List String} (hplaces : ∀ i ∈ places, i < s.nodes.size)
    (hnames : AreNames s places names) (fileName : Option String) (base : String) :
    (Snapshot.toScene base ⟨fileName, os, names⟩ : m (Except Failure (Scene Single))) =
      pure (.ok { s with fileName, selected := places }) := by
  have hadded := h.addObjects (m := m) base fileName []
  rw [List.append_nil] at hadded
  have hselect := run_selectNames (s := { s with fileName }) (h.wellFormed.withFileName fileName)
    hplaces hnames
  unfold Snapshot.toScene
  simp only [hadded, Snapshot.addObjects, pure_bind, hselect]

/-! ### Scenes without links between objects -/

/-- What may be done to a scene without linking objects to each other. -/
inductive FlatStep where
  | call (c : Scene.Call Single) (hflat : c.IsFlat)
  | convert (settings : ConversionSettings)

/-- The scene after a step, whether it fails or not. -/
def FlatStep.run (s : Scene Single) : FlatStep → Scene Single
  | call c _ => c.run s
  | convert settings => ((Conversion.convert settings).run s).2

/-- The scene after some steps, from the empty one on. -/
def ofFlatSteps (steps : List FlatStep) : Scene Single :=
  steps.foldl FlatStep.run .empty

/-- A step that is flat keeps a scene flat. -/
private theorem IsFlat.run (h : IsFlat s) (step : FlatStep) : IsFlat (step.run s) := by
  cases step with
  | call c hflat => exact h.flatChange (Scene.Call.flatChange hflat s)
  | convert settings => exact h.flatChanges (Conversion.isFlatEdit_convert settings s)

/-- After any steps a scene has objects only. -/
theorem isFlat_ofFlatSteps (steps : List FlatStep) : IsFlat (ofFlatSteps steps) :=
  List.foldlRecOn steps FlatStep.run IsFlat.empty fun _ h step _ => h.run step

/-- Another scene has the same nodes in the same order of creation, under the same names, the same
selection and the same file name. -/
structure SameContent (s' s : Scene Single) : Prop where
  nodes : s'.nodes = s.nodes
  order : s'.order = s.order
  names : ∀ name, s'.find? name = s.find? name
  selection : s'.selection = s.selection
  savedName : s'.savedName? = s.savedName?

/-- A scene of objects is what its snapshot describes. -/
private theorem IsFlat.reload {s : Scene Single} (h : IsFlat s) :
    ∃ snapshot s', ofScene s = .ok snapshot ∧
      (∀ (m : Type → Type) [Monad m] [LawfulMonad m] [MonadFiles m] (base : String),
        (toScene base snapshot : m (Except Failure (Scene Single))) = pure (.ok s')) ∧
      SameContent s' s ∧ ofScene s' = .ok snapshot := by
  obtain ⟨hbuilt, fileName, hplaces⟩ := h
  obtain ⟨names, hnames⟩ := exists_areNames hplaces
  -- the empty file name is not kept, and a scene with it was not saved
  have hagain := hbuilt.ofScene hplaces hnames (fileName.filter (!·.isEmpty))
  rw [Option.filter_filter] at hagain
  simp only [Bool.and_self] at hagain
  refine ⟨_, _, hbuilt.ofScene hplaces hnames fileName,
    fun m _ _ _ base => hbuilt.toScene hplaces hnames _ base,
    ⟨rfl, rfl, fun _ => rfl, rfl, ?_⟩, hagain⟩
  unfold Scene.savedName?
  simp only [Option.filter_filter, Bool.and_self]

/-! ### Scenes of snapshots -/

/-- The scene arises by steps that link no objects to each other. -/
def ArisesFlat (s : Scene Single) : Prop := ∃ steps, s = ofFlatSteps steps

namespace ArisesFlat

variable {s s' : Scene Single}

private theorem run (h : ArisesFlat s) (step : FlatStep) : ArisesFlat (step.run s) := by
  obtain ⟨steps, rfl⟩ := h
  exact ⟨steps ++ [step], by rw [ofFlatSteps, ofFlatSteps, List.foldl_append]; rfl⟩

/-- A scene that arises by flat steps is well-formed. -/
theorem wellFormed (h : ArisesFlat s) : s.WellFormed := by
  obtain ⟨steps, rfl⟩ := h
  exact (isFlat_ofFlatSteps steps).wellFormed

/-- A further flat call goes on from such a scene. -/
private theorem call (h : ArisesFlat s) (c : Scene.Call Single) (hflat : c.IsFlat) :
    ArisesFlat (c.run s) :=
  h.run (.call c hflat)

/-- An object that is added leaves a scene in which it stands beside the others. -/
private theorem addObject (h : ArisesFlat s) (name : String) (t : Transform Single)
    (shape : ObjectShape) : ArisesFlat ((Snapshot.addObject name t shape).run s).2 := by
  have hdiscard {β : Type} (e : Edit Single β) : ((discard e).run s).2 = (e.run s).2 :=
    Scene.run_map_snd e _ s
  -- each shape is added by one flat call, whose result is dropped
  cases shape with
  | empty =>
    rw [Snapshot.addObject, hdiscard]
    exact h.call (.addTransform name none t) rfl
  | sphere radius =>
    rw [Snapshot.addObject, hdiscard]
    exact h.call (.addSphere name t radius) trivial
  | box d =>
    rw [Snapshot.addObject, hdiscard]
    exact h.call (.addBox name t d) trivial
  | camera =>
    rw [Snapshot.addObject, hdiscard]
    exact h.call (.addCamera name t) trivial
  | mesh m =>
    rw [Snapshot.addObject, hdiscard]
    exact h.call (.addMesh name t m) trivial

/-- What is loaded are objects that are added. -/
private theorem of_loaded {fileName : Option String} (h : Loaded fileName os s) : ArisesFlat s := by
  induction h with
  | nil =>
    have hempty : ArisesFlat .empty := ⟨[], rfl⟩
    exact hempty.call (.setFileName fileName) trivial
  | @snoc os s h o hname shape hgives hshape ih =>
    have hadded := ih.addObject o.name o.transform shape
    rwa [run_addObject hname o.transform hshape] at hadded

variable {σ : Type} [MonadFiles (StateT σ Id)]

/-- The scene that is built from a snapshot has objects only, whatever is in the files. -/
private theorem toScene {base : String} {snapshot : Snapshot} {files : σ}
    (hrun : ((Snapshot.toScene base snapshot :
      StateT σ Id (Except Failure (Scene Single))).run files).1 = .ok s) :
    ArisesFlat s := by
  obtain ⟨built, places, hbuilt, hplaces, -, rfl⟩ := exists_loaded hrun
  have hselected := (of_loaded hbuilt).call (.setSelection (places.map Handle.ofPlace)) trivial
  rwa [Scene.Call.run, Scene.run_setSelection hplaces] at hselected

/-- The scene of a snapshot file has objects only. -/
theorem loadScene {path : String} {files : σ}
    (hrun : ((CommandLine.loadScene path :
      StateT σ Id (Except CommandLine.Trouble (Scene Single))).run files).1 = .ok s) :
    ArisesFlat s := by
  unfold CommandLine.loadScene Snapshot.loadScene at hrun
  rw [run_bind_state, run_bind_state] at hrun
  cases hloaded : ((Storage.load path :
      StateT σ Id (Except StorageError Snapshot)).run files).1 with
  | error e =>
    rw [hloaded] at hrun
    cases hrun
  | ok snapshot =>
    rw [hloaded] at hrun
    dsimp only at hrun
    generalize ((Storage.load path :
      StateT σ Id (Except StorageError Snapshot)).run files).2 = files₁ at hrun
    generalize ((Path.parent? path.toList).map String.ofList).getD "." = base at hrun
    cases hbuilt : ((Snapshot.toScene base snapshot :
        StateT σ Id (Except Failure (Scene Single))).run files₁).1 with
    | error e =>
      rw [hbuilt] at hrun
      cases hrun
    | ok s₁ =>
      rw [hbuilt] at hrun
      cases hrun
      exact toScene hbuilt

/-- Selecting an object by its name goes on from such a scene. -/
private theorem selectObject (h : ArisesFlat s) {name : Option String}
    (hselect : CommandLine.selectObject name s = .ok s') : ArisesFlat s' := by
  unfold CommandLine.selectObject at hselect
  split at hselect
  · cases hselect
    exact h
  split at hselect
  · cases hselect
  · rename_i handle _
    have hselected := h.call (.select handle) trivial
    rcases hrun : (Scene.select handle).run s with ⟨_ | _, s₁⟩
    · rw [hrun] at hselect
      cases hselect
    · rw [hrun] at hselect
      cases hselect
      rwa [Scene.Call.run, hrun] at hselected

end ArisesFlat

/-- A scene that arises by steps that link no objects is, with all its nodes, what its snapshot
describes.  The scenes of snapshots arise so, and those to which boxes were added for a request. -/
theorem reload_ofFlatSteps :
    (∀ steps, ∃ snapshot s', ofScene (ofFlatSteps steps) = .ok snapshot ∧
      (∀ (m : Type → Type) [Monad m] [LawfulMonad m] [MonadFiles m] (base : String),
        (toScene base snapshot : m (Except Failure (Scene Single))) = pure (.ok s')) ∧
      SameContent s' (ofFlatSteps steps) ∧ ofScene s' = .ok snapshot) ∧
    (∀ base snapshot files s, ((toScene base snapshot :
        StateT FileTable Id (Except Failure (Scene Single))).run files).1 = .ok s → ArisesFlat s) ∧
    ∀ path files s selected s₁ settings env files₁, ((CommandLine.loadScene path :
        StateT FileTable Id (Except CommandLine.Trouble (Scene Single))).run files).1 = .ok s →
      CommandLine.selectObject selected s = .ok s₁ →
      ArisesFlat ((CommandLine.runCommand settings env Command.meshToBoxesName s₁ :
        StateT FileTable Id
          (Except CommandLine.Trouble Command.Output × Scene Single)).run files₁).1.2 := by
  refine ⟨fun steps => (isFlat_ofFlatSteps steps).reload, fun _ _ _ _ => ArisesFlat.toScene, ?_⟩
  intro path files s selected s₁ settings env files₁ hload hselect
  -- the scene that the command leaves does not depend on what it reports
  obtain ⟨r, hrun⟩ : ∃ r, (CommandLine.runCommand settings env Command.meshToBoxesName s₁ :
      StateT FileTable Id (Except CommandLine.Trouble Command.Output × Scene Single)) =
      pure (r, ((Conversion.convert settings.conversion).run s₁).2) := by
    rw [CommandLine.runCommand_meshToBoxes]
    rcases (Conversion.convert settings.conversion).run s₁ with ⟨_ | report, s'⟩ <;> exact ⟨_, rfl⟩
  rw [hrun]
  exact ((ArisesFlat.loadScene hload).selectObject hselect).run (.convert settings.conversion)

end Scenery.Snapshot
