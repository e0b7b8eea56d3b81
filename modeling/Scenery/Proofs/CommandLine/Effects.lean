import Scenery.Proofs.CommandLine.Commands
import Scenery.Proofs.CommandLine.Reading
import Scenery.Proofs.Export.Document
import Scenery.Proofs.Export.Location
import Scenery.Proofs.Files.Table
import Scenery.Proofs.Snapshot.Reload

/-!
# Which files a run changes

A run writes at most one file, and that last: the document of a scene, or the snapshot of an edited
scene where one is asked for.  If anything fails before, all files stay as they are.

* `IsAsked`           the request that some words make
* `DocumentWritten`   what a successful request for a document leaves behind
* `BoxesSaved`        what a request for boxes may leave behind
* `fileEffects_run`   every run changes no other files than that
-/

namespace Scenery

variable {σ : Type} [MonadFiles (StateT σ Id)] [LawfulFiles σ]

/-! ### Steps that write -/

/-- A value is written into one file, or no file changes. -/
theorem Storage.save_cases {α : Type} [Stored α] (path : String) (a : α) (t : σ) :
    (∃ e, (Storage.save path a : StateT σ Id (Except StorageError Unit)).run t = (.error e, t)) ∨
      ∃ f text t', StorageFormat.ofPath? path = some f ∧ Storage.write? f a = some text ∧
        (Storage.save path a : StateT σ Id (Except StorageError Unit)).run t = (.ok (), t') ∧
        Wrote t t' path text.toUTF8 := by
  unfold Storage.save
  split
  next => exact .inl ⟨_, rfl⟩
  next f hf =>
    split
    next => exact .inl ⟨_, rfl⟩
    next text htext =>
      rw [run_bind_state]
      rcases writeText_cases path text t with ⟨e, he⟩ | ⟨t', hok, hwrote⟩
      · rw [he]
        exact .inl ⟨_, rfl⟩
      · rw [hok]
        exact .inr ⟨f, text, t', hf, htext, rfl, hwrote⟩

namespace Export

variable {settings : ExportSettings} {env : Environment} {s : Scene Single}

/-- A document that is to be written is that of the scene, and its path is known. -/
theorem exists_of_plan {p : Plan} (h : plan settings env s = .ok p) :
    ∃ d base root, document settings s = .ok d ∧ s.savedName?.bind baseName? = some base ∧
      IsRoot settings env root ∧ p = ⟨⟨documentPath settings root base, d.designBlocks.length,
        d.cameraBlocks.length⟩, d.render settings.numberFormat⟩ := by
  obtain ⟨d, hd, h⟩ := bind_eq_ok.1 h
  obtain ⟨path, hpath, h⟩ := bind_eq_ok.1 h
  cases h
  unfold outputPath at hpath
  split at hpath
  next path' hlocation =>
    cases hpath
    obtain ⟨base, root, hbase, hroot, rfl⟩ := documentPath_of_location hlocation
    exact ⟨d, base, root, hd, hbase, hroot, rfl⟩
  next => cases hpath

/-- A document is written at its path, or no file changes. -/
theorem run_cases (settings : ExportSettings) (env : Environment) (s : Scene Single) (t : σ) :
    (∃ e, (run settings env s : StateT σ Id (Except Failure Report)).run t = (.error e, t)) ∨
      ∃ p t', plan settings env s = .ok p ∧
        (run settings env s : StateT σ Id (Except Failure Report)).run t = (.ok p.report, t') ∧
        Wrote t t' p.report.path p.text.toUTF8 := by
  unfold run
  cases hplan : plan settings env s with
  | error e => exact .inl ⟨e, rfl⟩
  | ok p =>
    dsimp only
    rw [run_bind_state]
    rcases writeText_cases p.report.path p.text t with ⟨e, he⟩ | ⟨t', hok, hwrote⟩
    · rw [he]
      exact .inl ⟨_, rfl⟩
    · rw [hok]
      exact .inr ⟨p, t', rfl, rfl, hwrote⟩

end Export

namespace CommandLine

/-! ### Words -/

/-- The words name a command behind options of the program, and give it an argument and options. -/
def Asks (words : List String) (c : CommandSpec) (argument : String) (g : Given) : Prop :=
  ∃ g' rest, readOptions [logLevelOption] .nothing words = .ok (g', c.name :: rest) ∧
    c.read rest = .ok (argument, g)

/-- The words make a request, which has the argument and the options that they give. -/
def IsAsked (words : List String) : Request → Prop
  | .writeDocument r => ∃ g, Asks words exportCommand r.snapshot g ∧
    r.settings = g.value? "config" ∧ r.root = g.value? "root" ∧
    r.order = (g.value? "order").bind (List.lookup · orderWords) ∧ r.compact = g.isOn "compact"
  | .makeBoxes r => ∃ g, Asks words boxesCommand r.snapshot g ∧
    r.settings = g.value? "config" ∧ r.selected = g.value? "select" ∧ r.save = g.value? "save"
  | .inspect r => ∃ g, Asks words inspectCommand r.script g ∧ r.strict = g.isOn "strict"
  | .help _ => True

/-- The request of a command has what the command was given. -/
private theorem isAsked_of_command? {words rest : List String} {g' g : Given} {c : CommandSpec}
    {meaning : Meaning} {name argument : String}
    (hwords : readOptions [logLevelOption] .nothing words = .ok (g', name :: rest))
    (hcommand : command? name = some (c, meaning)) (hread : c.read rest = .ok (argument, g)) :
    IsAsked words (meaning argument g) := by
  have hname : c.name = name := by simpa using List.find?_some hcommand
  subst hname
  have hasks : Asks words c argument g := ⟨g', rest, hwords, hread⟩
  have hmem := List.mem_of_find?_eq_some hcommand
  simp only [commands, List.mem_cons, Prod.mk.injEq, List.not_mem_nil, or_false] at hmem
  rcases hmem with ⟨rfl, rfl⟩ | ⟨rfl, rfl⟩ | ⟨rfl, rfl⟩
  · exact ⟨g, hasks, rfl, rfl, rfl, rfl⟩
  · exact ⟨g, hasks, rfl, rfl, rfl⟩
  · exact ⟨g, hasks, rfl⟩

/-- A request that is read from the words of a command line is asked for by them. -/
theorem isAsked_ofWords {words : List String} {request : Request}
    (h : Request.ofWords words = .ok request) : IsAsked words request := by
  unfold Request.ofWords at h
  split at h
  next => cases h; exact trivial
  next => cases h
  next => cases h
  next g' name rest hwords =>
    split at h
    next =>
      -- nothing but help comes of the word for it
      unfold helpOn at h
      split at h
      next => cases h; exact trivial
      next =>
        split at h
        next => cases h; exact trivial
        next => cases h
        next => cases h
    next =>
      split at h
      next => cases h
      next c meaning hcommand =>
        split at h
        next => cases h; exact trivial
        next => cases h
        -- what is left is a command with its argument and options
        next argument g hread =>
          cases h
          exact isAsked_of_command? hwords hcommand hread

/-! ### Documents -/

/-- The settings and the scene of a request, as they are in the files. -/
structure Loads (t : σ) (settingsPath : Option String) (snapshot : String) (settings : Settings)
    (s : Scene Single) : Prop where
  settings : ((loadSettings settingsPath : StateT σ Id (Except Trouble Settings)).run t).1 =
    .ok settings
  scene : ((loadScene snapshot : StateT σ Id (Except Trouble (Scene Single))).run t).1 = .ok s

/-- The document of the scene was written below the content root, and no other file has changed; what
was printed tells the number of generators and of leaf cameras.  The choices of the request go before
those of the settings. -/
def DocumentWritten (env : Environment) (r : ExportRequest) (t t' : σ) (printed : String) : Prop :=
  ∃ settings s root base d spheres boxes cameras,
    Loads t r.settings r.snapshot settings s ∧
    Export.IsRoot
      { settings.exporting with rootOverride := r.root <|> settings.exporting.rootOverride } env root ∧
    s.savedName?.bind Export.baseName? = some base ∧
    Export.document
      { settings.exporting with blockOrder := r.order.getD settings.exporting.blockOrder } s = .ok d ∧
    Wrote t t' (Export.documentPath settings.exporting root base)
      (d.render (if r.compact then .compact else settings.exporting.numberFormat)).toUTF8 ∧
    s.Lists (fun g => s.kind? g = some .sphere) spheres ∧
    s.Lists (fun g => s.kind? g = some .box) boxes ∧ s.Lists s.IsLeafCamera cameras ∧
    printed = "Exported " ++ toString (spheres.length + boxes.length) ++ " design block(s) and " ++
      toString cameras.length ++ " camera(s) to " ++
      Export.documentPath settings.exporting root base ++ "\n"

/-- A request for a document writes it, or stops before any file has changed. -/
theorem writeDocument_cases (env : Environment) (r : ExportRequest) (t : σ) :
    (∃ trouble, (writeDocument (fun name => pure (env name)) r : StateT σ Id Ending).run t =
      (.stopped trouble, t)) ∨
    ∃ t' printed, (writeDocument (fun name => pure (env name)) r : StateT σ Id Ending).run t =
      (.done printed, t') ∧ DocumentWritten env r t t' printed := by
  unfold writeDocument
  -- up to the command all is reading, so the command starts with the files of the start
  rw [(ReadsOnly.loadSettings r.settings).run_bind]
  cases hsettings : ((loadSettings r.settings : StateT σ Id (Except Trouble Settings)).run t).1 with
  | error trouble => exact .inl ⟨trouble, rfl⟩
  | ok settings =>
    dsimp only
    rw [(ReadsOnly.loadScene r.snapshot).run_bind]
    cases hscene : ((loadScene r.snapshot : StateT σ Id (Except Trouble (Scene Single))).run t).1 with
    | error trouble => exact .inl ⟨trouble, rfl⟩
    | ok s =>
      dsimp only
      rw [pure_bind, runCommand_exportScene, bind_assoc, run_bind_state]
      -- the export fails before it writes, or it writes one file
      rcases Export.run_cases (r.adjust settings).exporting
        (fun _ => env (r.adjust settings).exporting.rootVariable) s t with
        ⟨e, he⟩ | ⟨p, t', hplan, hok, hwrote⟩
      · rw [he]
        exact .inl ⟨_, rfl⟩
      · rw [hok]
        refine .inr ⟨t', exportedLine p.report, rfl, ?_⟩
        obtain ⟨d, base, root, hd, hbase, hroot, rfl⟩ := Export.exists_of_plan hplan
        -- a scene that was loaded arises by edits, so its document lists its generators and cameras
        obtain ⟨⟨spheres, boxes, hspheres, hboxes, hdesigns⟩, ⟨cameras, hcameras, hblocks⟩, -⟩ :=
          Export.isDocument (Snapshot.ArisesFlat.loadScene hscene).wellFormed hd
        refine ⟨settings, s, root, base, d, spheres, boxes, cameras, ⟨hsettings, hscene⟩, hroot, hbase,
          hd, hwrote, hspheres, hboxes, hcameras, ?_⟩
        rw [← List.length_append, hdesigns.length_eq, hblocks.length_eq]
        rfl

/-! ### Boxes -/

/-- The snapshot of the scene with the boxes was written where the request says, after all else had
succeeded, and no other file has changed. -/
def BoxesSaved (r : BoxesRequest) (t t' : σ) : Prop :=
  ∃ path settings s selected report edited snapshot f text, r.save = some path ∧
    Loads t r.settings r.snapshot settings s ∧ selectObject r.selected s = .ok selected ∧
    (Conversion.convert settings.conversion).run selected = (.ok report, edited) ∧
    Snapshot.ofScene edited = .ok snapshot ∧ StorageFormat.ofPath? path = some f ∧
    Storage.write? f snapshot = some text ∧ Wrote t t' path text.toUTF8

/-- A scene is saved where a path is given for it, or no file changes. -/
private theorem saveEdited_cases (printed : String) (path : Option String) (s : Scene Single) (t : σ) :
    ((saveEdited printed path s : StateT σ Id Ending).run t).2 = t ∨
      ∃ p snapshot f text, path = some p ∧ Snapshot.ofScene s = .ok snapshot ∧
        StorageFormat.ofPath? p = some f ∧ Storage.write? f snapshot = some text ∧
        Wrote t ((saveEdited printed path s : StateT σ Id Ending).run t).2 p text.toUTF8 := by
  unfold saveEdited
  cases path with
  | none => exact .inl rfl
  | some path =>
    cases hsnapshot : Snapshot.ofScene s with
    | error e => exact .inl rfl
    | ok snapshot =>
      dsimp only
      rw [run_bind_state]
      rcases Storage.save_cases path snapshot t with ⟨e, he⟩ | ⟨f, text, t', hf, htext, hok, hwrote⟩
      · rw [he]
        exact .inl rfl
      · rw [hok]
        exact .inr ⟨path, snapshot, f, text, rfl, rfl, hf, htext, hwrote⟩

/-- A request for boxes changes no file, unless all succeeds and the scene is to be saved. -/
theorem makeBoxes_cases (r : BoxesRequest) (t : σ) :
    ((makeBoxes r : StateT σ Id Ending).run t).2 = t ∨
      BoxesSaved r t ((makeBoxes r : StateT σ Id Ending).run t).2 := by
  unfold makeBoxes
  -- the conversion works on the scene in memory; only saving comes back to files
  rw [(ReadsOnly.loadSettings r.settings).run_bind]
  cases hsettings : ((loadSettings r.settings : StateT σ Id (Except Trouble Settings)).run t).1 with
  | error trouble => exact .inl rfl
  | ok settings =>
    dsimp only
    rw [(ReadsOnly.loadScene r.snapshot).run_bind]
    cases hscene : ((loadScene r.snapshot : StateT σ Id (Except Trouble (Scene Single))).run t).1 with
    | error trouble => exact .inl rfl
    | ok s =>
      dsimp only
      cases hselect : selectObject r.selected s with
      | error trouble => exact .inl rfl
      | ok selected =>
        dsimp only
        rw [runCommand_meshToBoxes, pure_bind]
        rcases hconvert : (Conversion.convert settings.conversion).run selected with
          ⟨e | report, edited⟩
        · exact .inl rfl
        dsimp only
        cases convertedLine report edited with
        | error trouble => exact .inl rfl
        | ok line =>
          dsimp only
          -- the edited scene is written only where that is asked for
          rcases saveEdited_cases line r.save edited t with
            hsame | ⟨path, snapshot, f, text, hpath, hsnapshot, hf, htext, hwrote⟩
          · exact .inl hsame
          · exact .inr ⟨path, settings, s, selected, report, edited, snapshot, f, text, hpath,
              ⟨hsettings, hscene⟩, hselect, hconvert, hsnapshot, hf, htext, hwrote⟩

/-! ### Whole runs -/

/-- Inspecting writes no file. -/
private theorem readsOnly_inspect (r : InspectRequest) :
    ReadsOnly (inspect r : StateT σ Id Ending) := by
  refine (ReadsOnly.loadSettings none).bind fun settings => ?_
  split
  · exact .pure _
  refine (ReadsOnly.loadScript _ r.script).bind fun script => ?_
  split <;> exact .pure _

/-- What may have become of the files after a run of some words, and what was printed. -/
def FileEffects (env : Environment) (words : List String) (t : σ) (o : Outcome) (t' : σ) : Prop :=
  match Request.ofWords words with
  | .error _ => o.exitCode = 2 ∧ o.printed = "" ∧ t' = t
  | .ok request => IsAsked words request ∧
    match request with
    | .writeDocument r =>
      o.exitCode = 0 ∧ DocumentWritten env r t t' o.printed ∨
        o.exitCode ≠ 0 ∧ o.printed = "" ∧ t' = t
    | .makeBoxes r => t' = t ∨ BoxesSaved r t t'
    | .inspect _ => t' = t
    | .help _ => t' = t

/-- A run changes no file but the one that it is to write.  A document is written if and only if the run
ends well; if it does not, nothing was printed and all files are as before.  The snapshot of a scene
with boxes is written only if one is asked for and all else has succeeded, and scripts are only read. -/
theorem fileEffects_run (env : Environment) (words : List String) (t : σ) :
    FileEffects env words t
      ((run (fun name => pure (env name)) words : StateT σ Id Outcome).run t).1
      ((run (fun name => pure (env name)) words : StateT σ Id Outcome).run t).2 := by
  unfold FileEffects run
  cases hwords : Request.ofWords words with
  | error e => exact ⟨rfl, rfl, rfl⟩
  | ok request =>
    refine ⟨isAsked_ofWords hwords, ?_⟩
    dsimp only
    -- the report at the end changes no file, so the effects are those of the request
    rw [run_bind_state]
    cases request with
    | writeDocument r =>
      unfold follow
      rcases writeDocument_cases env r t with ⟨trouble, hstopped⟩ | ⟨t', printed, hdone, hwritten⟩
      · rw [hstopped]
        exact .inr ⟨trouble.exitCode_ne_zero, rfl, rfl⟩
      · rw [hdone]
        exact .inl ⟨rfl, hwritten⟩
    | makeBoxes r => exact makeBoxes_cases r t
    | inspect r => exact readsOnly_inspect r t
    | help text => exact rfl

/-- The snapshot of a ball, and a directory for its document. -/
def ballFiles : FileTable :=
  let snapshot := "(file_name: Some(\"level.mb\"), " ++
    "objects: [(name: \"ball\", shape: Sphere(radius: 2.0))])"
  (FileTable.empty.withFile ["scene.ron".toList] snapshot.toUTF8).withDirectory
    ["out".toList, "assets".toList, "scene".toList]

/-- The document of the ball is to be written. -/
def ballWords : List String := ["export", "scene.ron", "--root", "out", "--compact"]

/-- The document of the ball, with whole numbers. -/
def ballText : String :=
  "@dblock ball\n$shape 2\n$pos 0 0 0\n$rot 0 0 0\n$material \"grey\"\n:dblock_commit\n\n"

/-- A run that exports the scene with a ball: it succeeds, and the document is the one file it
writes. -/
theorem fileEffects_ball :
    let ended := (run (fun _ => pure none) ballWords : StateT FileTable Id Outcome).run ballFiles
    ended.1 = ⟨0, "Exported 1 design block(s) and 0 camera(s) to out/assets/scene/level.scene\n", ""⟩ ∧
      ended.2.content? ["out".toList, "assets".toList, "scene".toList, "level.scene".toList] =
        some ballText.toUTF8 ∧
      FileEffects (fun _ => none) ballWords ballFiles ended.1 ended.2 :=
  ⟨by decide +kernel, by decide +kernel, fileEffects_run (fun _ => none) ballWords ballFiles⟩

end CommandLine

end Scenery
