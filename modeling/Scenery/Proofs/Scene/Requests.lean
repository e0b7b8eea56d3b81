import Mathlib.Data.List.DropRight
import Scenery.Proofs.Scene.Counter

/-!
# Requests for names

For a new node a name is asked for, or a number for a stem.  A name that is taken loses the digits at
its end, and a number takes their place: the least positive one that gives a name which is not taken, as
long as the counter of the search has it.

* `IsStem`                     what is left of a name for a number
* `Request.IsMet`              what a new node should be called
* `Request.Gives`              what a machine calls it
* `Request.exists_isMet_iff`   when the two are the same
* `Request.gives_none_iff`     when a machine breaks down instead
-/

namespace Scenery.Scene

/-! ### Stems -/

/-- The stem of a name: what is left of it without the digits at its end, or all of it if there is
nothing else. -/
inductive IsStem : String → String → Prop where
  | digits {name : String} (hdigits : ∀ c ∈ name.toList, c.isDigit = true) : IsStem name name
  | cut {before digits : List Char} {last : Char} (hlast : last.isDigit = false)
      (hdigits : ∀ c ∈ digits, c.isDigit = true) :
      IsStem (String.ofList (before ++ last :: digits)) (String.ofList (before ++ [last]))

/-- The stem of a name is what is left when its last digits are taken off. -/
theorem isStem_stem (name : String) : IsStem name (stem name) := by
  have hsplit := List.rdropWhile_append_rtakeWhile (p := Char.isDigit) (l := name.toList)
  show IsStem name (if (name.toList.rdropWhile Char.isDigit).isEmpty then name else
    String.ofList (name.toList.rdropWhile Char.isDigit))
  rcases List.eq_nil_or_concat (name.toList.rdropWhile Char.isDigit) with hnil | ⟨before, last, hkept⟩
  · rw [hnil]
    exact .digits (List.rdropWhile_eq_nil_iff.1 hnil)
  · rw [List.concat_eq_append] at hkept
    have hlast := List.rdropWhile_last_not Char.isDigit name.toList (by simp [hkept])
    simp only [hkept, List.getLast_append_singleton, Bool.not_eq_true] at hlast
    have hdigits : ∀ c ∈ name.toList.rtakeWhile Char.isDigit, c.isDigit = true :=
      fun c hc => List.mem_rtakeWhile_imp hc
    have hcut := @IsStem.cut before _ last hlast hdigits
    -- what is kept and the digits behind it are the whole name
    rw [List.append_cons, ← hkept, hsplit, String.ofList_toList] at hcut
    rw [hkept] at hcut ⊢
    simpa using hcut

/-- A name has one stem. -/
theorem isStem_iff {name other : String} : IsStem name other ↔ other = stem name := by
  constructor
  · intro h
    unfold stem
    -- the digits are dropped from the end up to the last other character
    cases h with
    | digits hdigits =>
      have hdrop : name.toList.reverse.dropWhile Char.isDigit = [] :=
        List.dropWhile_eq_nil_iff.2 fun c hc => hdigits c (List.mem_reverse.1 hc)
      rw [hdrop]
      rfl
    | @cut before digits last hlast hdigits =>
      have hdrop : (String.ofList (before ++ last :: digits)).toList.reverse.dropWhile Char.isDigit =
          last :: before.reverse := by
        rw [String.toList_ofList, List.reverse_append, List.reverse_cons, List.append_assoc,
          List.dropWhile_append_of_pos fun c hc => hdigits c (List.mem_reverse.1 hc)]
        simp [hlast]
      rw [hdrop]
      simp
  · intro h
    rw [h]
    exact isStem_stem name

/-! ### Requests -/

/-- What is asked for a new node: a name, or a number for a stem. -/
inductive Request where
  | name (asked : String)
  | number (stem : String)

variable {o : Overflow} {taken : Set String} {request : Request}

/-- What a new node should be called on a request while some names are taken. -/
def Request.IsMet (taken : Set String) : Request → String → Prop
  | name asked, given => (asked ∉ taken → given = asked) ∧ (asked ∈ taken → ∃ (stem : String) (n : Nat),
      IsStem asked stem ∧ IsLeastNumber taken stem n ∧ given = numbered stem n)
  | number stem, given => ∃ n : Nat, IsLeastNumber taken stem n ∧ given = numbered stem n

/-- How the search for a number ends for a stem: with a name, or with a breakdown. -/
def GivesNumber (o : Overflow) (taken : Set String) (stem : String) (given? : Option String) : Prop :=
  ∃ n?, Search o taken stem 1 n? ∧ given? = n?.map fun n => numbered stem n.toInt

/-- What a machine calls a new node on a request while some names are taken, unless it breaks down. -/
def Request.Gives (o : Overflow) (taken : Set String) : Request → Option String → Prop
  | name asked, given? => (asked ∉ taken → given? = some asked) ∧
      (asked ∈ taken → GivesNumber o taken (stem asked) given?)
  | number stem, given? => GivesNumber o taken stem given?

/-- If a request needs a number, the counter has one. -/
def Request.HasRoom (o : Overflow) (taken : Set String) : Request → Prop
  | name asked => asked ∈ taken → HasNumber o taken (stem asked)
  | number stem => HasNumber o taken stem

/-- The search has one outcome. -/
theorem GivesNumber.unique {stem : String} {given? given?' : Option String}
    (h : GivesNumber o taken stem given?) (h' : GivesNumber o taken stem given?') :
    given? = given?' := by
  obtain ⟨n?, hn, rfl⟩ := h
  obtain ⟨n?', hn', rfl⟩ := h'
  rw [hn.unique hn']

/-- A name that the search gives is free. -/
theorem GivesNumber.notMem {stem given : String} (h : GivesNumber o taken stem (some given)) :
    given ∉ taken := by
  obtain ⟨n?, hn, hgiven⟩ := h
  obtain ⟨n, rfl, rfl⟩ := Option.map_eq_some_iff.1 hgiven.symm
  exact hn.of_some.1

/-- Where the search ends with overflow checks, it ends in the same way without them. -/
theorem GivesNumber.wraps {stem given : String} (h : GivesNumber .stops taken stem (some given)) :
    GivesNumber .wraps taken stem (some given) := by
  obtain ⟨n?, hn, hgiven⟩ := h
  obtain ⟨n, rfl, rfl⟩ := Option.map_eq_some_iff.1 hgiven.symm
  exact ⟨some n, hn.wraps, rfl⟩

/-- The name that is given has the least number exactly if the counter has a number. -/
theorem exists_givesNumber_least_iff {stem : String} :
    (∃ given, GivesNumber o taken stem (some given) ∧
      ∃ n : Nat, IsLeastNumber taken stem n ∧ given = numbered stem n) ↔ HasNumber o taken stem := by
  rw [← exists_search_least_iff]
  constructor
  · rintro ⟨given, ⟨n?, hsearch, hgiven⟩, m, hleast, rfl⟩
    obtain ⟨n, rfl, hname⟩ := Option.map_eq_some_iff.1 hgiven.symm
    exact ⟨n, m, hsearch, numbered_injective hname, hleast⟩
  · rintro ⟨n, m, hsearch, hm, hleast⟩
    exact ⟨_, ⟨some n, hsearch, rfl⟩, m, hleast, congrArg (numbered stem) hm⟩

/-- With overflow checks the search breaks down exactly if all numbers are taken. -/
theorem givesNumber_none_iff {stem : String} :
    GivesNumber .stops taken stem none ↔ ¬HasNumber .stops taken stem := by
  rw [← search_stops_eq_none_iff]
  constructor
  · rintro ⟨n?, hsearch, hnone⟩
    rwa [Option.map_eq_none_iff.1 hnone.symm] at hsearch
  · exact fun hsearch => ⟨none, hsearch, rfl⟩

namespace Request

/-- A machine does one thing on a request. -/
theorem Gives.unique {given? given?' : Option String} (h : request.Gives o taken given?)
    (h' : request.Gives o taken given?') : given? = given?' := by
  cases request with
  | name asked =>
    by_cases htaken : asked ∈ taken
    · exact (h.2 htaken).unique (h'.2 htaken)
    · rw [h.1 htaken, h'.1 htaken]
  | number stem => exact GivesNumber.unique h h'

/-- A new node never gets a name that is taken. -/
theorem Gives.notMem {given : String} (h : request.Gives o taken (some given)) : given ∉ taken := by
  cases request with
  | name asked =>
    by_cases htaken : asked ∈ taken
    · exact (h.2 htaken).notMem
    · cases h.1 htaken
      exact htaken
  | number stem => exact GivesNumber.notMem h

/-- A machine calls a new node as it should be called exactly if the counter has room for the request. -/
theorem exists_isMet_iff :
    (∃ given, request.Gives o taken (some given) ∧ request.IsMet taken given) ↔
      request.HasRoom o taken := by
  cases request with
  | number stem => exact exists_givesNumber_least_iff
  | name asked =>
    by_cases htaken : asked ∈ taken
    · -- the name is taken, so all depends on the number for its stem
      simp only [Gives, IsMet, HasRoom, htaken, not_true_eq_false, false_implies, true_and,
        forall_const, isStem_iff]
      rw [← exists_givesNumber_least_iff]
      simp
    · refine iff_of_true ⟨asked, ⟨fun _ => rfl, ?_⟩, ⟨fun _ => rfl, ?_⟩⟩ ?_ <;>
        exact fun h => absurd h htaken

/-- The machine that looks at its results breaks down exactly if the counter has no room. -/
theorem gives_none_iff : request.Gives .stops taken none ↔ ¬request.HasRoom .stops taken := by
  cases request with
  | number stem => exact givesNumber_none_iff
  | name asked =>
    by_cases htaken : asked ∈ taken
    · simp [Gives, HasRoom, htaken, givesNumber_none_iff]
    · simp [Gives, HasRoom, htaken]

/-- A name that is given by a machine that looks at its results is given by the other one, too. -/
theorem Gives.wraps {given : String} (h : request.Gives .stops taken (some given)) :
    request.Gives .wraps taken (some given) := by
  cases request with
  | name asked => exact ⟨h.1, fun htaken => (h.2 htaken).wraps⟩
  | number stem => exact GivesNumber.wraps h

end Request

end Scenery.Scene
