import Scenery.Path

/-!
# Components of paths

Two paths lead to the same place if their components agree, whatever slashes and points stand between
them.  A name below a directory is the last component, and the directory is the rest.

* `steps`              the components by which paths are compared
* `splitLast_append`   a directory and a name are found again
* `fileName?_append`   the last component of a path below a directory
* `parent?_append`     the directory of a path below it
-/

namespace Scenery.Path

variable {path directory name : List Char}

/-! ### Components -/

/-- A piece between slashes that counts. -/
def isComponent (piece : List Char) : Bool := piece ≠ [] ∧ piece ≠ ['.']

/-- The components of a path are what stands between its slashes, without the empty ones and the
points. -/
theorem components_eq_splitOn (path : List Char) :
    components path = (path.splitOn '/').filter isComponent := by
  have hpieces : path.foldr (fun c pieces =>
      if c = '/' then [] :: pieces else (c :: pieces.headD []) :: pieces.tail) [[]] =
      path.splitOn '/' := by
    induction path with
    | nil => rfl
    | cons c path ih =>
      rw [List.foldr_cons, ih, List.splitOn_cons_eq_if_modifyHead]
      obtain ⟨first, rest, hsplit⟩ := List.exists_cons_of_ne_nil (List.splitOn_ne_nil '/' path)
      simp [hsplit]
  unfold components
  rw [hpieces]
  rfl

@[simp] theorem components_nil : components [] = [] := by
  rw [components_eq_splitOn]
  rfl

/-- A slash divides the components of a path. -/
theorem components_append_slash (path path' : List Char) :
    components (path ++ '/' :: path') = components path ++ components path' := by
  simp only [components_eq_splitOn, List.splitOn_append_cons_self, List.filter_append]

/-- What stands in front of the components: a slash for the root, a point for where one is. -/
def anchor (path : List Char) : List (List Char) :=
  if path.head? = some '/' then [['/']]
  else if path = ['.'] ∨ path.take 2 = ['.', '/'] then [['.']]
  else []

/-- The components by which paths are compared: only in front slashes and points are among them. -/
def steps (path : List Char) : List (List Char) := anchor path ++ components path

/-- Whether a path starts at the root is told by its front. -/
theorem anchor_append_slash (hpath : path ≠ []) (path' : List Char) :
    anchor (path ++ '/' :: path') = anchor path := by
  obtain ⟨c, rest, rfl⟩ := List.exists_cons_of_ne_nil hpath
  cases rest <;> simp [anchor]

/-! ### Ends of paths -/

/-- Slashes at the end of a path bring no component. -/
@[simp] theorem components_trimEnd (s : List Char) :
    components (trimEnd s).reverse = components s.reverse := by
  induction s using trimEnd.induct with
  | case1 rest ih =>
    rw [trimEnd, ih, List.reverse_cons, components_append_slash, components_nil, List.append_nil]
  | case2 rest ih =>
    rw [trimEnd, ih, List.reverse_cons, List.reverse_cons, List.append_assoc, List.singleton_append,
      components_append_slash]
    have hpoint : components ['.'] = [] := by decide
    rw [hpoint, List.append_nil]
  | case3 s => rw [trimEnd]; all_goals assumption

/-- Slashes at the end do not matter to where a path starts. -/
theorem anchor_trimEnd {s : List Char} (hs : trimEnd s ≠ []) :
    anchor (trimEnd s).reverse = anchor s.reverse := by
  induction s using trimEnd.induct with
  | case1 rest ih =>
    rw [trimEnd] at hs ⊢
    have hrest : rest.reverse ≠ [] := by
      rintro h
      simp_all [trimEnd]
    rw [ih hs, List.reverse_cons, anchor_append_slash hrest]
  | case2 rest ih =>
    rw [trimEnd] at hs ⊢
    have hrest : rest.reverse ≠ [] := by
      rintro h
      simp_all [trimEnd]
    rw [ih hs, List.reverse_cons, List.reverse_cons, List.append_assoc, List.singleton_append,
      anchor_append_slash hrest]
  | case3 s => rw [trimEnd]; all_goals assumption

/-- Only a root has nothing before the slashes at its end. -/
theorem head?_of_trimEnd {s : List Char} (hs : trimEnd s = []) :
    s = [] ∨ s.reverse.head? = some '/' := by
  induction s using trimEnd.induct with
  | case1 rest ih =>
    rw [trimEnd] at hs
    rcases ih hs with rfl | hhead
    · exact .inr rfl
    · right
      simp [hhead]
  | case2 rest ih =>
    rw [trimEnd] at hs
    rcases ih hs with rfl | hhead
    · exact .inr rfl
    · right
      simp [hhead]
  | case3 s h h' =>
    rw [trimEnd] at hs
    · exact .inl hs
    all_goals assumption

/-! ### Names below directories -/

/-- A component that names a file: not a way to a directory. -/
structure IsName (name : List Char) : Prop where
  slashFree : '/' ∉ name
  ne_nil : name ≠ []
  ne_point : name ≠ ['.']
  ne_points : name ≠ ['.', '.']

/-- The text in front of a name in a directory, which ends in a slash if there is any. -/
def behind (directory : List Char) : List Char :=
  if directory = [] ∨ directory.getLast? = some '/' then directory else directory ++ ['/']

/-- What is put before a name: nothing behind no directory, else the directory with one slash. -/
theorem behind_cases (directory : List Char) :
    behind directory = [] ∧ directory = [] ∨ ∃ d, behind directory = d ++ ['/'] ∧
      (directory = d ++ ['/'] ∨ directory = d ∧ d ≠ []) := by
  unfold behind
  split
  next h =>
    rcases h with rfl | h
    · exact .inl ⟨rfl, rfl⟩
    · obtain ⟨d, hd⟩ := List.getLast?_eq_some_iff.1 h
      exact .inr ⟨d, hd, .inl hd⟩
  next h => exact .inr ⟨directory, rfl, .inr ⟨rfl, fun hnil => h (.inl hnil)⟩⟩

/-- A slash behind a directory leads no further. -/
theorem steps_behind (directory : List Char) : steps (behind directory) = steps directory := by
  rcases behind_cases directory with ⟨h, rfl⟩ | ⟨d, h, rfl | ⟨rfl, hd⟩⟩
  · rw [h]
  · rw [h]
  · rw [h, steps, anchor_append_slash hd, components_append_slash, components_nil, List.append_nil,
      steps]

/-- A relative path is put behind the directory. -/
theorem join_eq_append (hpath : path.head? ≠ some '/') :
    join directory path = behind directory ++ path := by
  unfold join behind
  rw [if_neg hpath]
  split
  · rfl
  · rw [List.append_assoc, List.singleton_append]

/-- A name does not start with a slash. -/
theorem IsName.head? (h : IsName name) : name.head? ≠ some '/' :=
  fun hhead => h.slashFree (List.mem_of_mem_head? hhead)

/-- A name has no slashes and points at its end to leave out. -/
private theorem trimEnd_name (h : IsName name) (rest : List Char) :
    trimEnd (name.reverse ++ rest) = name.reverse ++ rest := by
  obtain ⟨c, front, hname⟩ := List.exists_cons_of_ne_nil (mt List.reverse_eq_nil_iff.1 h.ne_nil)
  have hmem : ∀ x ∈ c :: front, x ≠ '/' := by
    intro x hx
    rintro rfl
    exact h.slashFree (List.mem_reverse.1 (hname ▸ hx))
  rw [hname, List.cons_append, trimEnd]
  · intro r hr
    exact hmem c List.mem_cons_self (List.cons.inj hr).1
  -- a point comes with more before it, which is no slash
  · intro r hr
    obtain rfl := (List.cons.inj hr).1
    cases front with
    | nil => exact h.ne_point (List.reverse_eq_iff.1 hname)
    | cons x front => exact hmem x (by simp) (List.cons.inj (List.cons.inj hr).2).1

/-- A directory and a name below it are found again. -/
theorem splitLast_append (h : IsName name) (directory : List Char) :
    splitLast (behind directory ++ name) = (behind directory, name) := by
  have hmem : ∀ x ∈ name.reverse, decide (x ≠ '/') = true := by
    intro x hx
    rw [decide_eq_true_iff]
    rintro rfl
    exact h.slashFree (List.mem_reverse.1 hx)
  have hstop : (behind directory).reverse.takeWhile (· ≠ '/') = [] ∧
      (behind directory).reverse.dropWhile (· ≠ '/') = (behind directory).reverse := by
    rcases behind_cases directory with ⟨hd, -⟩ | ⟨d, hd, -⟩ <;> simp [hd]
  unfold splitLast
  dsimp only
  rw [List.reverse_append, trimEnd_name h, List.takeWhile_append_of_pos hmem,
    List.dropWhile_append_of_pos hmem, hstop.1, hstop.2]
  simp

/-- The last component of a directory with a name is that name. -/
theorem fileName?_append (h : IsName name) (directory : List Char) :
    fileName? (behind directory ++ name) = some name := by
  unfold fileName?
  rw [splitLast_append h]
  simp [h.ne_nil, h.ne_point, h.ne_points]

/-- The directory of a path below it, but for slashes and points at its end. -/
theorem parent?_append (h : IsName name) (directory : List Char) :
    ∃ d, parent? (behind directory ++ name) = some d ∧ steps d = steps directory := by
  rw [← steps_behind directory]
  unfold parent?
  rw [splitLast_append h]
  dsimp only
  rw [if_neg h.ne_nil]
  refine ⟨_, rfl, ?_⟩
  generalize behind directory = d
  have hcomponents : components (trimEnd d.reverse).reverse = components d := by simp
  split
  -- nothing but a root stands in front of the name
  next hroot =>
    obtain ⟨htrimmed, hd⟩ := hroot
    have htrim : trimEnd d.reverse = [] := List.reverse_eq_nil_iff.1 htrimmed
    have hhead : d.head? = some '/' := by simpa [hd] using head?_of_trimEnd htrim
    rw [htrimmed, components_nil] at hcomponents
    rw [steps, steps, ← hcomponents, anchor, anchor, if_pos hhead]
    rfl
  next hroot =>
    by_cases hd : d = []
    · subst hd
      rfl
    · have htrim : trimEnd d.reverse ≠ [] := fun htrim => hroot ⟨by rw [htrim]; rfl, hd⟩
      have hanchor := anchor_trimEnd htrim
      rw [List.reverse_reverse] at hanchor
      rw [steps, steps, hcomponents, hanchor]

/-- What stands before the first of some characters has none of them. -/
theorem notMem_takeWhile_ne (c : Char) (s : List Char) : c ∉ s.takeWhile (· ≠ c) := by
  intro hmem
  have hne := List.all_eq_true.1 List.all_takeWhile _ hmem
  simp at hne

/-- Only names are last components. -/
theorem isName_of_fileName? (h : fileName? path = some name) : IsName name := by
  unfold fileName? at h
  dsimp only at h
  split at h
  next => cases h
  next hname =>
    obtain rfl := Option.some.inj h
    simp only [not_or] at hname
    refine ⟨?_, hname.1, hname.2.1, hname.2.2⟩
    unfold splitLast
    exact fun hmem => notMem_takeWhile_ne _ _ (List.mem_reverse.1 hmem)

/-! ### Extensions -/

/-- A name without points gets the extension at its end. -/
theorem withExtension_append (h : IsName name) (hpoint : '.' ∉ name) {extension : List Char}
    (hextension : extension ≠ []) (directory : List Char) :
    withExtension (behind directory ++ name) extension =
      behind directory ++ (name ++ '.' :: extension) := by
  have hmem : ∀ x ∈ name.reverse, decide (x ≠ '.') = true := by
    intro x hx
    rw [decide_eq_true_iff]
    rintro rfl
    exact hpoint (List.mem_reverse.1 hx)
  -- a name without a point has no extension that would be replaced
  have hsplit : splitExtension name = (name, none) := by
    have htake : name.reverse.takeWhile (· ≠ '.') = name.reverse := by
      simpa using @List.takeWhile_append_of_pos _ _ name.reverse [] hmem
    unfold splitExtension
    dsimp only
    rw [htake]
    simp
  unfold withExtension
  rw [fileName?_append h, splitLast_append h]
  dsimp only
  rw [hsplit, if_neg hextension]
  simp

end Scenery.Path
