import Mathlib.Order.Bounds.Basic
import Scenery.Scene.Edit

/-!
# Free names

Whatever names a scene has, a new node gets one that none of its nodes bears.  The numbers of the count
are pairwise different, and so are the names that they give to a stem: one more of them than there are
entries in the table cannot all be taken.

* `counted_eq`         the count as far as it goes up
* `nextName_spec`      the numbered name for a new node is the first free one of the count
* `hasName_nextName`   the numbered name for a new node is free
* `hasName_freeName`   the name that a new node gets is free
-/

namespace Scenery.Scene

variable {α : Type}

/-! ### The count -/

/-- Up to the largest number of the counter, the number at each place is one more than the place. -/
theorem counted_eq {k : Nat} (h : k < 2147483647) : counted k = k + 1 := by
  unfold counted
  rw [if_pos (by omega), Int32.toInt_ofNat', Int.bmod_def, Int32.size]
  omega

/-- Behind the largest number, the counter comes up from the least one. -/
theorem counted_eq_sub {k : Nat} (h : 2147483647 ≤ k) (h' : k < 4294967296) :
    counted k = k + 1 - 4294967296 := by
  unfold counted
  rw [if_pos h', Int32.toInt_ofNat', Int.bmod_def, Int32.size]
  omega

/-- Beyond one turn of the counter, places count themselves. -/
theorem counted_of_le {k : Nat} (h : 4294967296 ≤ k) : counted k = k := by
  unfold counted
  rw [if_neg (by omega)]

/-- Later numbers are greater, unless the counter has gone around between the two. -/
theorem counted_lt_iff {k l : Nat} (h : k < l) :
    counted k < counted l ↔ (0 < counted k → 0 < counted l) := by
  -- each of the two is on its way up, or on its way up again, or behind all numbers
  have hcases (j : Nat) : j < 2147483647 ∧ counted j = j + 1 ∨
      2147483647 ≤ j ∧ j < 4294967296 ∧ counted j = j + 1 - 4294967296 ∨
      4294967296 ≤ j ∧ counted j = j := by
    by_cases hup : j < 2147483647
    · exact .inl ⟨hup, counted_eq hup⟩
    · by_cases hagain : j < 4294967296
      · exact .inr (.inl ⟨by omega, hagain, counted_eq_sub (by omega) hagain⟩)
      · exact .inr (.inr ⟨by omega, counted_of_le (by omega)⟩)
  have hk := hcases k
  have hl := hcases l
  omega

/-- No number stands at two places of the count. -/
theorem counted_injective {k l : Nat} (h : counted k = counted l) : k = l := by
  rcases Nat.lt_trichotomy k l with hlt | heq | hlt
  · have hiff := counted_lt_iff hlt
    rw [h] at hiff
    exact absurd (hiff.2 id) (Int.lt_irrefl _)
  · exact heq
  · have hiff := counted_lt_iff hlt
    rw [h] at hiff
    exact absurd (hiff.2 id) (Int.lt_irrefl _)

/-- A natural number is written without a minus. -/
private theorem repr_ne_minus (n : Nat) (cs : List Char) : n.repr.toList ≠ '-' :: cs := by
  intro h
  have hminus : '-' ∈ Nat.toDigits 10 n := by
    rw [← Nat.toList_repr, h]
    exact List.mem_cons_self
  exact absurd (Nat.isDigit_of_mem_toDigits (by decide) (by decide) hminus) (by decide)

/-- Different natural numbers are written differently. -/
private theorem natRepr_injective {n m : Nat} (h : n.repr.toList = m.repr.toList) : n = m := by
  rw [Nat.toList_repr, Nat.toList_repr] at h
  rw [← Nat.ofDigitChars_ten_toDigits (n := n), h, Nat.ofDigitChars_ten_toDigits]

/-- A number is told by its decimals and its sign. -/
private theorem intRepr_injective {n m : Int} (h : n.repr.toList = m.repr.toList) : n = m := by
  have hminus (k : Nat) : (Int.negSucc k).repr.toList = '-' :: (k + 1).repr.toList := by
    rw [Int.repr, String.toList_append]
    rfl
  cases n with
  | ofNat n =>
    cases m with
    | ofNat m => exact congrArg Int.ofNat (natRepr_injective h)
    | negSucc m => exact absurd (h.trans (hminus m)) (repr_ne_minus n _)
  | negSucc n =>
    cases m with
    | ofNat m => exact absurd (h.symm.trans (hminus n)) (repr_ne_minus m _)
    | negSucc m =>
      rw [hminus, hminus] at h
      exact congrArg Int.negSucc (Nat.succ.inj (natRepr_injective (List.cons.inj h).2))

/-- Numbers give different names to one stem. -/
theorem numbered_injective {stem : String} {n m : Int} (h : numbered stem n = numbered stem m) :
    n = m := by
  have hlists : stem.toList ++ n.repr.toList = stem.toList ++ m.repr.toList := by
    rw [← String.toList_append, ← String.toList_append]
    exact congrArg String.toList h
  exact intRepr_injective (List.append_cancel_left hlists)

/-- A numbered name has a digit at least. -/
theorem numbered_ne_empty (stem : String) (n : Int) : numbered stem n ≠ "" := by
  intro h
  have hlist : stem.toList ++ n.repr.toList = [] := by
    rw [← String.toList_append]
    exact congrArg String.toList h
  have hrepr : n.repr.toList = [] := (List.append_eq_nil_iff.1 hlist).2
  cases n with
  | ofNat m =>
    rw [Int.repr, Nat.toList_repr] at hrepr
    exact Nat.toDigits_ne_nil hrepr
  | negSucc m => simp [Int.repr] at hrepr

/-! ### The search -/

/-- A name that is taken has an entry in the table. -/
private theorem mem_of_hasName {s : Scene α} {name : String} (h : s.hasName name = true) :
    name ∈ s.names.map Prod.fst := by
  rw [hasName, List.lookup_isSome_iff] at h
  obtain ⟨e, he, heq⟩ := h
  rw [beq_iff_eq] at heq
  exact List.mem_map.2 ⟨e, he, heq.symm⟩

/-- The names that the first places of the count give to a stem. -/
def countedNames (stem : String) (k : Nat) : List String :=
  (List.range k).map fun i => numbered stem (counted i)

/-- Different places give different names, so no two of them share an entry of a table. -/
theorem nodup_countedNames (stem : String) (k : Nat) : (countedNames stem k).Nodup := by
  rw [countedNames, List.Nodup, List.pairwise_map]
  exact List.nodup_range.imp fun hne h => hne (counted_injective (numbered_injective h))

/-- The search for a place of the count that makes a stem a free name. -/
private def findPlace (s : Scene α) (stem : String) : Option Nat :=
  (List.range (s.names.length + 1)).find? fun k => !s.hasName (numbered stem (counted k))

/-- The search ends, as the candidates are more than the entries of the table. -/
private theorem exists_findPlace (s : Scene α) (stem : String) : ∃ k, s.findPlace stem = some k := by
  cases hfind : s.findPlace stem with
  | some k => exact ⟨k, rfl⟩
  | none =>
    exfalso
    have htaken : countedNames stem (s.names.length + 1) ⊆ s.names.map Prod.fst := by
      intro c hc
      obtain ⟨k, hk, rfl⟩ := List.mem_map.1 hc
      have hk' := List.find?_eq_none.1 hfind k hk
      exact mem_of_hasName (by simpa using hk')
    have hlen := (nodup_countedNames stem _).length_le_of_subset htaken
    rw [countedNames, List.length_map, List.length_map, List.length_range] at hlen
    omega

/-- The names in the table of a scene. -/
def tabled (s : Scene α) : Set String :=
  {name | s.hasName name = true}

/-- The first place of the count that makes a stem a name which is not taken. -/
def IsFirstPlace (taken : Set String) (stem : String) (k : Nat) : Prop :=
  IsLeast {k | numbered stem (counted k) ∉ taken} k

/-- The places before the first one that gives a free name give names which are taken. -/
theorem IsFirstPlace.taken_of_lt {taken : Set String} {stem : String} {k i : Nat}
    (h : IsFirstPlace taken stem k) (hi : i < k) : numbered stem (counted i) ∈ taken :=
  not_not.1 fun hfree => Nat.not_le_of_lt hi (h.2 hfree)

/-- The numbered name is that of the first place, as the candidates are looked at one by one. -/
theorem nextName_spec (s : Scene α) (name : String) : ∃ k, IsFirstPlace s.tabled (stem name) k ∧
    s.nextName name = numbered (stem name) (counted k) := by
  obtain ⟨k, hfind⟩ := exists_findPlace s (stem name)
  obtain ⟨hfree, -, hbefore⟩ := List.find?_range_eq_some.1 hfind
  refine ⟨k, ⟨by simpa [tabled] using hfree, fun i hi => ?_⟩, ?_⟩
  · -- a place before would have been found instead
    apply Nat.le_of_not_lt
    intro hlt
    have htaken := hbefore i hlt
    rw [Bool.not_not] at htaken
    exact hi htaken
  · rw [nextName, List.find?_map]
    show ((s.findPlace (stem name)).map _).getD _ = _
    rw [hfind]
    rfl

/-- The numbered name for a new node is free. -/
theorem hasName_nextName (s : Scene α) (name : String) : s.hasName (s.nextName name) = false := by
  obtain ⟨k, hk, hname⟩ := nextName_spec s name
  rw [hname]
  exact Bool.eq_false_iff.2 hk.1

theorem nextName_ne_empty (s : Scene α) (name : String) : s.nextName name ≠ "" := by
  obtain ⟨k, -, hname⟩ := nextName_spec s name
  rw [hname]
  exact numbered_ne_empty _ _

/-- The name that a new node gets is free. -/
theorem hasName_freeName (s : Scene α) (name : String) : s.hasName (s.freeName name) = false := by
  rw [freeName]
  split
  · exact hasName_nextName s name
  · rename_i h
    exact Bool.eq_false_iff.2 h

/-- A new node gets a name if one is asked for. -/
theorem freeName_ne_empty (s : Scene α) {name : String} (h : name ≠ "") : s.freeName name ≠ "" := by
  rw [freeName]
  split
  · exact nextName_ne_empty s name
  · exact h

/-- A free name is given as it is asked for. -/
theorem freeName_of_not_hasName {s : Scene α} {name : String} (h : s.hasName name = false) :
    s.freeName name = name := by
  rw [freeName, h]
  rfl

/-! ### What names depend on -/

/-- The numbered name depends on the names in the scene only. -/
theorem nextName_congr {s s' : Scene α} (h : s'.names = s.names) (name : String) :
    s'.nextName name = s.nextName name := by
  unfold nextName hasName
  rw [h]

/-- The name that a new node gets depends on the names in the scene only. -/
theorem freeName_congr {s s' : Scene α} (h : s'.names = s.names) (name : String) :
    s'.freeName name = s.freeName name := by
  unfold freeName hasName
  rw [h, nextName_congr h]

end Scenery.Scene
