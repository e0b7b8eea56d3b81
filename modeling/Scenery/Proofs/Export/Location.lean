import Scenery.Export.Location
import Scenery.Proofs.Path

/-!
# Documents lie below the content root

A document lies in the directory of the settings below the content root, and its name is the base name
of the scene with the extension of the settings.  The directory in a scene's file name has no influence,
unless the file name has no last component: then all of the file name up to its first point is taken.

* `IsBase`          the base name of a scene, and that there is one
* `IsLocated`       where a document lies, and when it has no place
* `isLocated_iff`   the file names for which this is so
-/

namespace Scenery.Export

variable {s : ExportSettings} {env : Environment} {fileName : Option String} {root base : String}

/-! ### Base names -/

/-- The base name of a scene: the last component of its file name up to the first point, if that leaves
anything. -/
def IsBase (fileName : Option String) (base : String) : Prop :=
  ∃ name short, fileName = some name ∧ Path.fileName? name.toList = some short ∧
    base.toList = short.takeWhile (· ≠ '.') ∧ base ≠ ""

/-- The file name has a last component, or nothing before its first point. -/
def HasShortName (fileName : Option String) : Prop :=
  ∀ name, fileName = some name →
    (Path.fileName? name.toList).isSome ∨ name.toList.takeWhile (· ≠ '.') = []

/-- A name for the document is what stands before the first point of the last component. -/
theorem isBase_some {name : String} : IsBase (some name) base ↔
    ∃ short, Path.fileName? name.toList = some short ∧ base.toList = short.takeWhile (· ≠ '.') ∧
      base ≠ "" := by
  unfold IsBase
  constructor
  · rintro ⟨_, short, ⟨⟩, h⟩
    exact ⟨short, h⟩
  · rintro ⟨short, h⟩
    exact ⟨name, short, rfl, h⟩

/-- A base name is a name without points. -/
theorem IsBase.isName (h : IsBase fileName base) : Path.IsName base.toList ∧ '.' ∉ base.toList := by
  obtain ⟨name, short, -, hshort, hbase, hne⟩ := h
  have hpoint : '.' ∉ base.toList := by
    rw [hbase]
    exact Path.notMem_takeWhile_ne _ _
  refine ⟨⟨?_, ?_, ?_, ?_⟩, hpoint⟩
  -- it is a part of the last component, which has no slashes
  · rw [hbase]
    intro hmem
    exact (Path.isName_of_fileName? hshort).slashFree ((List.takeWhile_sublist _).mem hmem)
  · simpa using hne
  · intro h
    simp [h] at hpoint
  · intro h
    simp [h] at hpoint

/-- The name that is found is what stands before the first point, of the last component or of the
whole text. -/
theorem baseName?_eq_some {name : String} : baseName? name = some base ↔
    base.toList = ((Path.fileName? name.toList).getD name.toList).takeWhile (· ≠ '.') ∧
      base ≠ "" := by
  unfold baseName?
  dsimp only
  generalize ((Path.fileName? name.toList).getD name.toList).takeWhile (· ≠ '.') = text
  cases text with
  | nil => simp
  | cons c text =>
    have hnil : (c :: text).isEmpty = false := rfl
    rw [hnil, if_neg Bool.false_ne_true, Option.some.injEq, ← String.toList_inj, String.toList_ofList,
      eq_comm]
    refine (and_iff_left_of_imp fun hbase => ?_).symm
    rintro rfl
    cases hbase

/-- No name is found where nothing stands before the first point. -/
theorem baseName?_eq_none {name : String} : baseName? name = none ↔
    ((Path.fileName? name.toList).getD name.toList).takeWhile (· ≠ '.') = [] := by
  unfold baseName?
  dsimp only
  split <;> simp_all

/-- The base name that is taken is the right one. -/
theorem bind_baseName?_eq_some (h : HasShortName fileName) :
    fileName.bind baseName? = some base ↔ IsBase fileName base := by
  cases fileName with
  | none => simp [IsBase]
  | some name =>
    rw [Option.bind_some, baseName?_eq_some, isBase_some]
    cases hshort : Path.fileName? name.toList with
    | some short => simp
    | none =>
      -- nothing is left of the file name, so it has no base name in either sense
      have hempty : name.toList.takeWhile (· ≠ '.') = [] := by
        rcases h name rfl with hsome | hempty
        · rw [hshort] at hsome
          cases hsome
        · exact hempty
      rw [Option.getD_none, hempty]
      simp

/-! ### Content roots -/

/-- The content root is that of the settings, else what is in the environment, unless that is empty. -/
def IsRoot (s : ExportSettings) (env : Environment) (root : String) : Prop :=
  s.rootOverride = some root ∨
    s.rootOverride = none ∧ env s.rootVariable = some root ∧ root ≠ ""

/-- Neither the settings nor the environment have a content root. -/
def IsRootless (s : ExportSettings) (env : Environment) : Prop :=
  s.rootOverride = none ∧ ∀ root, env s.rootVariable = some root → root = ""

/-- The root of the content is found in the settings or in the environment, or it is missing. -/
theorem contentRoot_cases (s : ExportSettings) (env : Environment) :
    (∃ root, contentRoot s env = .ok root ∧ IsRoot s env root ∧ ¬ IsRootless s env) ∨
      contentRoot s env = .error (.missingRoot s.rootVariable) ∧ IsRootless s env := by
  unfold contentRoot IsRoot IsRootless
  cases hoverride : s.rootOverride with
  | some root => exact .inl ⟨root, rfl, .inl rfl, by simp⟩
  | none =>
    cases henv : env s.rootVariable with
    | none => exact .inr ⟨rfl, rfl, by simp⟩
    | some value =>
      by_cases hvalue : value = ""
      · subst hvalue
        exact .inr ⟨rfl, rfl, by simp⟩
      · have hkept : (some value).filter (!·.isEmpty) = some value := by
          simp [hvalue]
        exact .inl ⟨value, by rw [hkept], .inr ⟨rfl, rfl, hvalue⟩, by simp [hvalue]⟩

/-! ### Documents -/

/-- A path is a file with a name in a directory; directories are compared by their components. -/
def IsFileIn (path directory name : List Char) : Prop :=
  Path.fileName? path = some name ∧
    ∃ d, Path.parent? path = some d ∧ Path.steps d = Path.steps directory

/-- Extensions that pass the check are parts of file names. -/
theorem extension_of_validate (h : s.validate = .ok ()) :
    s.extension.toList ≠ [] ∧ '/' ∉ s.extension.toList := by
  unfold ExportSettings.validate at h
  split at h
  next => cases h
  next hextension =>
    simp only [Bool.or_eq_true, not_or, List.any_eq_true] at hextension
    refine ⟨by simpa using hextension.1, fun hmem => hextension.2 ⟨'/', hmem, by decide⟩⟩

/-- A document lies in the directory of the settings below the content root. -/
theorem documentPath_isFileIn (h : s.validate = .ok ()) (hbase : IsBase fileName base) (root : String) :
    IsFileIn (documentPath s root base).toList (Path.join root.toList s.directory.toList)
      (base.toList ++ '.' :: s.extension.toList) := by
  obtain ⟨hname, hpoint⟩ := hbase.isName
  obtain ⟨hextension, hslash⟩ := extension_of_validate h
  have hfile : Path.IsName (base.toList ++ '.' :: s.extension.toList) := by
    refine ⟨?_, by simp, ?_, ?_⟩
    · simp [hname.slashFree, hslash]
    all_goals
      intro heq
      cases hlist : base.toList with
      | nil => exact hname.ne_nil hlist
      | cons c rest => simp_all
  unfold documentPath
  rw [String.toList_ofList, Path.join_eq_append hname.head?,
    Path.withExtension_append hname hpoint hextension]
  exact ⟨Path.fileName?_append hfile _, Path.parent?_append hfile _⟩

/-! ### Locations -/

/-- A document lies below the content root under the base name of its scene, and it has no place only if
there is no base name or no content root. -/
structure IsLocated (s : ExportSettings) (env : Environment) (fileName : Option String) : Prop where
  path : ∀ p, location s env fileName = .ok p →
    ∃ base root, IsBase fileName base ∧ fileName.bind baseName? = some base ∧
      base.toList ≠ [] ∧ '.' ∉ base.toList ∧ '/' ∉ base.toList ∧ IsRoot s env root ∧
        IsFileIn p.toList (Path.join root.toList s.directory.toList)
          (base.toList ++ '.' :: s.extension.toList)
  unsaved : location s env fileName = .error .unsavedScene ↔ ∀ base, ¬ IsBase fileName base
  missing : location s env fileName = .error (.missingRoot s.rootVariable) ↔
    (∃ base, IsBase fileName base) ∧ IsRootless s env
  error : ∀ e, location s env fileName = .error e →
    e = .unsavedScene ∨ e = .missingRoot s.rootVariable

/-- The location is looked up in two steps: the name of the scene first, then the root. -/
theorem location_eq (s : ExportSettings) (env : Environment) (fileName : Option String) :
    location s env fileName =
      match fileName.bind baseName? with
      | none => .error .unsavedScene
      | some base => (contentRoot s env).map (documentPath s · base) := by
  unfold location
  cases fileName.bind baseName? with
  | none => rfl
  | some base =>
    dsimp only
    cases contentRoot s env <;> rfl

/-- A document that has a place lies below the content root, under the base name that was taken. -/
theorem documentPath_of_location {p : String} (h : location s env fileName = .ok p) :
    ∃ base root, fileName.bind baseName? = some base ∧ IsRoot s env root ∧
      documentPath s root base = p := by
  rw [location_eq] at h
  split at h
  next => cases h
  next base hbase =>
    rcases contentRoot_cases s env with ⟨root, hok, hroot, -⟩ | ⟨hmissing, -⟩
    · rw [hok] at h
      exact ⟨base, root, hbase, hroot, Except.ok.inj h⟩
    · rw [hmissing] at h
      cases h

/-- A location is missing for want of a name exactly if the scene has none. -/
theorem location_eq_unsaved :
    location s env fileName = .error .unsavedScene ↔ fileName.bind baseName? = none := by
  rw [location_eq]
  cases fileName.bind baseName? with
  | none => simp
  | some base =>
    dsimp only
    rcases contentRoot_cases s env with ⟨root, hok, -⟩ | ⟨hmissing, -⟩
    · simp [hok, Except.map]
    · simp [hmissing, Except.map]

/-- With a last component, or nothing before the first point, a scene's document is where it should be. -/
private theorem isLocated_of_hasShortName (hvalid : s.validate = .ok ()) (h : HasShortName fileName) :
    IsLocated s env fileName := by
  have hlocation := location_eq s env fileName
  cases hfound : fileName.bind baseName? with
  | none =>
    -- without a name the root does not matter
    have hnone : ∀ base, ¬ IsBase fileName base := by
      intro base hbase
      have hsome := (bind_baseName?_eq_some h).2 hbase
      rw [hfound] at hsome
      cases hsome
    rw [hfound] at hlocation
    exact {
      path := by simp [hlocation]
      unsaved := iff_of_true hlocation hnone
      missing := iff_of_false (by simp [hlocation]) fun hbase => hnone _ hbase.1.choose_spec
      error := by simp [hlocation] }
  | some base =>
    have hbase := (bind_baseName?_eq_some h).1 hfound
    have hunsaved : ¬ ∀ base, ¬ IsBase fileName base := fun hnone => hnone base hbase
    rw [hfound] at hlocation
    -- with a name it does
    rcases contentRoot_cases s env with ⟨root, hok, hroot, hrootless⟩ | ⟨hmissing, hrootless⟩
    · rw [hok] at hlocation
      have hname := hbase.isName
      refine {
        path := ?_
        unsaved := iff_of_false (by simp [hlocation, Except.map]) hunsaved
        missing := iff_of_false (by simp [hlocation, Except.map]) fun hbase => hrootless hbase.2
        error := by simp [hlocation, Except.map] }
      intro p hp
      obtain rfl : documentPath s root base = p := Except.ok.inj (hlocation.symm.trans hp)
      exact ⟨base, root, hbase, hfound, hname.1.ne_nil, hname.2, hname.1.slashFree, hroot,
        documentPath_isFileIn hvalid hbase root⟩
    · rw [hmissing] at hlocation
      exact {
        path := by simp [hlocation, Except.map]
        unsaved := iff_of_false (by simp [hlocation, Except.map]) hunsaved
        missing := iff_of_true hlocation ⟨⟨base, hbase⟩, hrootless⟩
        error := by simp [hlocation, Except.map] }

/-- A file name without a last component has no base name. -/
private theorem not_isBase {name : String} (h : Path.fileName? name.toList = none) (base : String) :
    ¬ IsBase (some name) base := by
  rw [isBase_some, h]
  simp

/-- The document of a scene lies below the content root, under the base name of the scene, exactly if
the scene's file name has a last component or nothing before its first point. -/
theorem isLocated_iff (hvalid : s.validate = .ok ()) :
    IsLocated s env fileName ↔ HasShortName fileName := by
  constructor
  · intro h name hname
    subst hname
    cases hshort : Path.fileName? name.toList with
    | some short => exact .inl rfl
    | none =>
      -- there is no base name, so none may be taken from the directories
      have hnone := location_eq_unsaved.1 (h.unsaved.2 (not_isBase hshort))
      rw [Option.bind_some, baseName?_eq_none, hshort] at hnone
      exact .inr hnone
  · exact isLocated_of_hasShortName hvalid

/-- The default settings with a content root. -/
def contentSettings : ExportSettings :=
  { ExportSettings.default with rootOverride := some "/content" }

/-- A scene that was saved in a folder under a name with two points: the document is named by what
stands before the first one. -/
theorem isLocated_level :
    contentSettings.validate = .ok () ∧
      location contentSettings (fun _ => none) (some "projects/level01.v2.mb") =
        .ok "/content/assets/scene/level01.scene" ∧
      IsLocated contentSettings (fun _ => none) (some "projects/level01.v2.mb") := by
  refine ⟨rfl, rfl, (isLocated_iff rfl).2 ?_⟩
  -- the last component is a name with two points in it
  rintro name ⟨⟩
  exact .inl (by decide)

/-- Without a last component the document of a scene lies where the scene's directory is, outside the
content root, though there is no base name. -/
theorem not_isLocated_parent :
    contentSettings.validate = .ok () ∧
      location contentSettings (fun _ => none) (some "/tmp/..") = .ok "/tmp.scene" ∧
      ¬ (∃ name, IsFileIn "/tmp.scene".toList (Path.join "/content".toList "assets/scene".toList) name) ∧
      ¬ IsLocated contentSettings (fun _ => none) (some "/tmp/..") := by
  have hnone := not_isBase (show Path.fileName? "/tmp/..".toList = none by decide)
  refine ⟨rfl, rfl, ?_, fun h => ?_⟩
  · rintro ⟨name, -, d, hd, hsteps⟩
    have hparent : Path.parent? "/tmp.scene".toList = some ['/'] := by decide
    obtain rfl : ['/'] = d := Option.some.inj (hparent.symm.trans hd)
    revert hsteps
    decide
  · have hunsaved := location_eq_unsaved.1 (h.unsaved.2 hnone)
    revert hunsaved
    decide

end Scenery.Export
