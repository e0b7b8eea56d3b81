import Scenery.Files.Table
import Scenery.Proofs.Except
import Scenery.Proofs.Files.Lawful

/-!
# Tables of files are file systems

A file that is put into a table is found there again, by the same path, and all other entries stay.

* `lookup?_insert`   the entries after one was put into a table
* `read_eq_ok`       a file that is read is an entry of the table
* `write_eq_ok`      what writing a file into a table does
-/

namespace Scenery.FileTable

variable {t t' : FileTable} {p q : List (List Char)} {path : List Char} {content : ByteArray}

/-! ### Entries -/

/-- Replacing the entries of a key leaves the other ones. -/
private theorem lookup_replace (entries : List (List (List Char) × FileEntry)) (e : FileEntry) :
    (entries.map fun old => if old.1 == p then (p, e) else old).lookup q =
      if q = p then (entries.lookup p).map fun _ => e else entries.lookup q := by
  induction entries with
  | nil => simp
  | cons old entries ih =>
    obtain ⟨key, old⟩ := old
    rw [List.map_cons]
    -- the first entry is the one that is replaced, or it is passed over
    by_cases hkey : key = p
    · subst hkey
      by_cases hq : q = key
      · subst hq
        simp
      · have hne : (q == key) = false := by simpa using hq
        simpa [List.lookup_cons, hne, hq] using ih
    · have hne : (key == p) = false := by simpa using hkey
      simp only [hne, Bool.false_eq_true, ↓reduceIte, List.lookup_cons, ih]
      by_cases hq : q = p
      · subst hq
        have hne' : (q == key) = false := by simpa using fun h => hkey h.symm
        simp [hne']
      · simp [hq]

/-- A path that is not the root is looked up among the entries. -/
private theorem lookup?_of_ne_nil (hq : q ≠ []) (t : FileTable) : t.lookup? q = t.entries.lookup q := by
  cases q with
  | nil => exact absurd rfl hq
  | cons c rest => rfl

/-- The new entry is found, and the others stay; the root is no entry. -/
theorem lookup?_insert (hp : p ≠ []) (t : FileTable) (e : FileEntry) (q : List (List Char)) :
    (t.insert p e).lookup? q = if q = p then some e else t.lookup? q := by
  by_cases hq : q = []
  · subst hq
    rw [if_neg (Ne.symm hp)]
    rfl
  -- behind the root, paths are looked up among the entries
  rw [lookup?_of_ne_nil hq, lookup?_of_ne_nil hq]
  unfold insert
  split
  next hany =>
    -- an entry that is there already is replaced
    have hsome : ∃ old, t.entries.lookup p = some old := by
      rw [← Option.isSome_iff_exists, List.lookup_isSome_iff]
      simpa using hany
    obtain ⟨old, hold⟩ := hsome
    rw [lookup_replace, hold]
    rfl
  next hany =>
    -- a new entry comes last, where no older one hides it
    have hnone : t.entries.lookup p = none := by
      rw [List.lookup_eq_none_iff]
      intro old hmem
      rw [bne_iff_ne]
      rintro rfl
      exact hany (List.any_eq_true.2 ⟨old, hmem, BEq.rfl⟩)
    rw [List.lookup_append]
    by_cases hqp : q = p
    · subst hqp
      simp [hnone]
    · have hne : (q == p) = false := by simpa using hqp
      simp [hqp, List.lookup_cons, hne]

/-! ### Paths -/

section

variable (hp : t.lookup? p ≠ some .directory)
include hp

private theorem ne_nil_of_lookup? : p ≠ [] := by
  rintro rfl
  exact hp rfl

/-- A file that is put where no directory is leaves the directories. -/
private theorem requireDirectory_insert {d : List (List Char)} (h : t.requireDirectory d = .ok ()) :
    (t.insert p (.file content)).requireDirectory d = .ok () := by
  unfold requireDirectory at h ⊢
  have hdir : t.lookup? d = some .directory := by
    split at h
    · cases h
    · cases h
    · assumption
  have hne : d ≠ p := by
    rintro rfl
    exact hp hdir
  rw [lookup?_insert (ne_nil_of_lookup? hp), if_neg hne, hdir]

/-- A path that was resolved is resolved in the same way after a file was written. -/
private theorem resolve_insert {rest dir : List (List Char)} (h : t.resolve dir rest = .ok q) :
    (t.insert p (.file content)).resolve dir rest = .ok q := by
  induction rest generalizing dir with
  | nil => exact h
  | cons c rest ih =>
    unfold resolve at h ⊢
    obtain ⟨⟨⟩, hdir, h⟩ := bind_eq_ok.1 h
    rw [requireDirectory_insert hp hdir]
    show (if _ then _ else _) = _
    -- the way goes on in the same directory in both tables
    split at h
    next hup =>
      rw [if_pos hup]
      split at h
      next => cases h
      next hroot =>
        rw [if_neg hroot]
        exact ih h
    next hup =>
      rw [if_neg hup]
      split at h
      next => cases h
      next hlong =>
        rw [if_neg hlong]
        exact ih h

/-- A path that leads somewhere leads there still. -/
private theorem locate_insert (h : t.locate path = .ok q) :
    (t.insert p (.file content)).locate path = .ok q := by
  unfold locate at h ⊢
  split at h
  next => cases h
  next hlong =>
    rw [if_neg hlong]
    split at h
    next hroot =>
      rw [if_pos hroot]
      exact h
    next hroot =>
      rw [if_neg hroot]
      exact resolve_insert hp h

end

/-! ### Files -/

/-- What a file holds. -/
def content? (t : FileTable) (p : List (List Char)) : Option ByteArray :=
  match t.lookup? p with
  | some (.file content) => some content
  | _ => none

/-- A file that is read is the one at the place that the path leads to. -/
theorem read_eq_ok (h : t.read path = .ok content) :
    ∃ p, t.locate path = .ok p ∧ t.content? p = some content := by
  obtain ⟨p, hp, h⟩ := bind_eq_ok.1 h
  refine ⟨p, hp, ?_⟩
  unfold content?
  split at h
  next => cases h
  next => cases h
  next old hfile =>
    split at h
    next =>
      cases h
      rw [hfile]
    next => cases h

/-- A file that is written holds the content, and no other file has changed. -/
theorem write_eq_ok (h : t.write path content = .ok t') :
    ∃ p, t.locate path = .ok p ∧ t'.locate path = .ok p ∧ t'.content? p = some content ∧
      ∀ q, q ≠ p → t'.content? q = t.content? q := by
  obtain ⟨p, hp, h⟩ := bind_eq_ok.1 h
  split at h
  next => cases h
  next =>
    obtain ⟨_, -, h⟩ := bind_eq_ok.1 h
    cases h
  next =>
    split at h
    next => cases h
    -- what is at the place is a file, or nothing yet
    next hfile =>
      cases h
      have hlookup := lookup?_insert (ne_nil_of_lookup? hfile) t (.file content)
      refine ⟨p, hp, locate_insert hfile hp, ?_, fun q hq => ?_⟩
      · unfold content?
        rw [hlookup, if_pos rfl]
      · unfold content?
        rw [hlookup, if_neg hq]

/-- Writing changes the table, unless it fails. -/
private theorem run_writeBytes (path : String) (content : ByteArray) (t : FileTable) :
    (MonadFiles.writeBytes path content : StateT FileTable Id (Except FileError Unit)).run t =
      match t.write path.toList content with
      | .error e => (.error e, t)
      | .ok t' => (.ok (), t') := by
  have hget : (get : StateT FileTable Id FileTable).run t = (t, t) := rfl
  dsimp only [MonadFiles.writeBytes]
  rw [run_bind_state, hget]
  dsimp only
  cases t.write path.toList content <;> rfl

instance : LawfulFiles FileTable where
  File := List (List Char)
  file? t path := (t.locate path.toList).toOption
  content? := content?
  readBytes_state path t := rfl
  readBytes_ok {path t content} h := by
    obtain ⟨p, hp, hcontent⟩ := read_eq_ok h
    exact ⟨p, by rw [hp]; rfl, hcontent⟩
  writeBytes_error {path content t t' e} h := by
    rw [run_writeBytes] at h
    split at h
    next => exact (Prod.ext_iff.1 h).2.symm
    next => cases h
  writeBytes_ok {path content t t'} h := by
    rw [run_writeBytes] at h
    split at h
    next => cases h
    next written hwrite =>
      cases h
      obtain ⟨p, hp, hp', hcontent, hrest⟩ := write_eq_ok hwrite
      exact ⟨p, by rw [hp]; rfl, by rw [hp']; rfl, hcontent, hrest⟩

end Scenery.FileTable
