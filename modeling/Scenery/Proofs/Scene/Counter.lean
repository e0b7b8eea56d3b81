import Mathlib.Data.Nat.Find
import Scenery.Proofs.Except
import Scenery.Proofs.Scene.Names

/-!
# The counter of numbered names

The number for a name is searched by a loop: the counter gives a number and moves on to the next one,
and then the name with the number is looked at.  Moving on from the largest number leaves the type of
the counter, and this happens before the largest number is looked at.  A machine that looks at its
results breaks down there; another one goes on with the least number.

* `Search`                       the loop on a machine
* `search_wraps`                 the numbered name is the one that the loop finds where results wrap
* `exists_search_least_iff`      when the loop finds the least positive number
* `search_stops_eq_none_iff`     when the loop breaks down
-/

namespace Scenery.Scene

variable {taken : Set String} {stem : String} {o : Overflow}

/-! ### The loop -/

/-- The counter one further, unless the machine breaks down over that. -/
def advance (o : Overflow) (n : Int32) : Option Int32 :=
  if o = .stops ∧ (n + 1).toInt ≠ n.toInt + 1 then none else some (n + 1)

/-- The search for a free name from a number on: how it ends, with the number of the name or with a
breakdown. -/
inductive Search (o : Overflow) (taken : Set String) (stem : String) : Int32 → Option Int32 → Prop where
  | breaks {n : Int32} (hmove : advance o n = none) : Search o taken stem n none
  | finds {n n' : Int32} (hmove : advance o n = some n') (hfree : numbered stem n.toInt ∉ taken) :
    Search o taken stem n (some n)
  | goesOn {n n' : Int32} {r : Option Int32} (hmove : advance o n = some n')
    (htaken : numbered stem n.toInt ∈ taken) (hrest : Search o taken stem n' r) : Search o taken stem n r

namespace Search

variable {n : Int32} {r r' : Option Int32}

/-- A search ends in one way. -/
theorem unique (h : Search o taken stem n r) (h' : Search o taken stem n r') : r = r' := by
  induction h with
  | breaks hmove =>
    cases h' with
    | breaks => rfl
    | finds hmove' => cases hmove.symm.trans hmove'
    | goesOn hmove' => cases hmove.symm.trans hmove'
  | finds hmove hfree =>
    cases h' with
    | breaks hmove' => cases hmove.symm.trans hmove'
    | finds => rfl
    | goesOn _ htaken => exact absurd htaken hfree
  | goesOn hmove htaken _ ih =>
    cases h' with
    | breaks hmove' => cases hmove.symm.trans hmove'
    | finds _ hfree => exact absurd htaken hfree
    | goesOn hmove' _ hrest' =>
      cases hmove.symm.trans hmove'
      exact ih hrest'

/-- The name that is found is free, and the counter could move on from its number. -/
theorem of_some {m : Int32} (h : Search o taken stem n (some m)) :
    numbered stem m.toInt ∉ taken ∧ advance o m ≠ none := by
  generalize hr : some m = r at h
  induction h with
  | breaks => cases hr
  | finds hmove hfree =>
    cases hr
    exact ⟨hfree, by simp [hmove]⟩
  | goesOn _ _ _ ih => exact ih hr

/-- A machine on which results wrap finds what one finds that looks at them. -/
theorem wraps {m : Int32} (h : Search .stops taken stem n (some m)) :
    Search .wraps taken stem n (some m) := by
  have hmoves {i i' : Int32} (hmove : advance .stops i = some i') : advance .wraps i = some i' := by
    unfold advance at hmove ⊢
    split at hmove
    · cases hmove
    · rw [if_neg (by simp), hmove]
  generalize hr : some m = r at h
  induction h with
  | breaks => cases hr
  | finds hmove hfree =>
    cases hr
    exact .finds (hmoves hmove) hfree
  | goesOn hmove htaken _ ih => exact .goesOn (hmoves hmove) htaken (ih hr)

end Search

/-! ### Places of the count -/

/-- The largest number of which the counter can give the name. -/
def lastNumber : Overflow → Nat
  | .stops => 2147483646
  | .wraps => 2147483647

/-- No number beyond the positive ones of 32 bits is reached. -/
theorem lastNumber_le (o : Overflow) : lastNumber o ≤ 2147483647 := by
  cases o <;> decide

/-- Before its last number, the counter stays in its type or goes around. -/
private theorem wraps_or_lt {k : Nat} (h : k < lastNumber o) : o = .wraps ∨ k < 2147483646 := by
  cases o with
  | stops => exact .inr h
  | wraps => exact .inl rfl

/-- The number at a place of the count as the counter has it. -/
def numberAt (k : Nat) : Int32 := Int32.ofNat (k + 1)

/-- The number at a place, as an integer, is what is counted there. -/
theorem toInt_numberAt {k : Nat} (h : k < 4294967296) : (numberAt k).toInt = counted k :=
  (if_pos h).symm

/-- From a place the counter moves on to the next one, if it does not leave its type or wraps. -/
theorem advance_numberAt {k : Nat} (h : o = .wraps ∨ k < 2147483646) :
    advance o (numberAt k) = some (numberAt (k + 1)) := by
  have hnext : numberAt k + 1 = numberAt (k + 1) := by
    rw [numberAt, numberAt, Int32.ofNat_add (k + 1) 1]
    rfl
  unfold advance
  rw [hnext, if_neg]
  rintro ⟨rfl, hne⟩
  have hk : k < 2147483646 := h.resolve_left nofun
  rw [toInt_numberAt (by omega), toInt_numberAt (by omega), counted_eq (by omega),
    counted_eq (by omega)] at hne
  omega

/-- The machine that looks at its results breaks down over the largest number. -/
theorem advance_largest : advance .stops (numberAt 2147483646) = none := by decide +kernel

/-- The search comes to a place if the names of all places before it are taken. -/
theorem Search.of_places {k : Nat} {r : Option Int32} (hk : k < 4294967296)
    (hmove : o = .wraps ∨ k ≤ 2147483646) (htaken : ∀ i < k, numbered stem (counted i) ∈ taken)
    (h : Search o taken stem (numberAt k) r) : Search o taken stem 1 r := by
  induction k with
  | zero => exact h
  | succ k ih =>
    -- the place before is passed, so the search from it ends in the same way
    have hplace : numbered stem (numberAt k).toInt ∈ taken := by
      rw [toInt_numberAt (by omega)]
      exact htaken k (Nat.lt_succ_self k)
    have hadvance : advance o (numberAt k) = some (numberAt (k + 1)) :=
      advance_numberAt (hmove.imp_right fun hle => by omega)
    refine ih (by omega) (hmove.imp_right fun hle => by omega) ?_ (.goesOn hadvance hplace h)
    exact fun i hi => htaken i (Nat.lt_succ_of_lt hi)

/-- The search finds the first place, if the counter gets past it. -/
theorem IsFirstPlace.search {k : Nat} (h : IsFirstPlace taken stem k) (hk : k < 4294967296)
    (hmove : o = .wraps ∨ k < 2147483646) : Search o taken stem 1 (some (numberAt k)) := by
  refine Search.of_places hk (hmove.imp_right Nat.le_of_lt) (fun i hi => h.taken_of_lt hi) ?_
  refine .finds (advance_numberAt hmove) ?_
  rw [toInt_numberAt hk]
  exact h.1

/-- Where results wrap, the numbered name for a new node is the one that the search finds, if the first
free place of the count has a number of the counter. -/
theorem search_wraps {α : Type} (s : Scene α) (name : String)
    (h : ∀ k, IsFirstPlace s.tabled (Scene.stem name) k → k < 4294967296) :
    ∃ n, Search .wraps s.tabled (Scene.stem name) 1 (some n) ∧
      s.nextName name = numbered (Scene.stem name) n.toInt := by
  obtain ⟨k, hk, hname⟩ := nextName_spec s name
  refine ⟨numberAt k, hk.search (h k hk) (.inl rfl), ?_⟩
  rw [hname, toInt_numberAt (h k hk)]

/-! ### The least number -/

/-- The least positive number that makes a stem a name which is not taken. -/
def IsLeastNumber (taken : Set String) (stem : String) (n : Nat) : Prop :=
  IsLeast {m : Nat | 0 < m ∧ numbered stem m ∉ taken} n

/-- The counter has a number for a free name, and can move on from it. -/
def HasNumber (o : Overflow) (taken : Set String) (stem : String) : Prop :=
  ∃ n : Nat, 0 < n ∧ n ≤ lastNumber o ∧ numbered stem n ∉ taken

/-- If the counter has a number, the least one stands at the first place of the count. -/
theorem HasNumber.exists_least (h : HasNumber o taken stem) :
    ∃ k, k < lastNumber o ∧ IsFirstPlace taken stem k ∧ IsLeastNumber taken stem (k + 1) := by
  classical
  obtain ⟨n, hpos, hle, hfree⟩ := h
  have hlast := lastNumber_le o
  have hsome : ∃ k : Nat, numbered stem (k + 1 : Nat) ∉ taken :=
    ⟨n - 1, by rwa [Nat.sub_add_cancel hpos]⟩
  have hmin (i : Nat) (hi : numbered stem (i + 1 : Nat) ∉ taken) : Nat.find hsome ≤ i :=
    Nat.find_min' hsome hi
  have hk : Nat.find hsome < lastNumber o := by
    have hn := hmin (n - 1) (by rwa [Nat.sub_add_cancel hpos])
    omega
  -- up to the least free number, the counter counts as numbers do
  have hcounted (i : Nat) (hi : i ≤ Nat.find hsome) : counted i = (i + 1 : Nat) := by
    rw [counted_eq (by omega)]
    rfl
  refine ⟨Nat.find hsome, hk, ⟨?_, fun i hi => ?_⟩, ⟨Nat.succ_pos _, Nat.find_spec hsome⟩, ?_⟩
  · show numbered stem (counted _) ∉ taken
    rw [hcounted _ (Nat.le_refl _)]
    exact Nat.find_spec hsome
  · by_contra hlt
    have hle := Nat.le_of_lt (Nat.lt_of_not_le hlt)
    have hi' : numbered stem (counted i) ∉ taken := hi
    rw [hcounted i hle] at hi'
    exact hlt (hmin i hi')
  · rintro m ⟨hm, hmfree⟩
    have hm' := hmin (m - 1) (by rwa [Nat.sub_add_cancel hm])
    omega

/-- The search finds the least positive number exactly if the counter has a number for a free name. -/
theorem exists_search_least_iff :
    (∃ (n : Int32) (m : Nat), Search o taken stem 1 (some n) ∧ n.toInt = m ∧ IsLeastNumber taken stem m) ↔
      HasNumber o taken stem := by
  constructor
  · rintro ⟨n, m, hsearch, hm, hleast⟩
    obtain ⟨-, hmove⟩ := hsearch.of_some
    have hlt : n.toInt < 2147483648 := n.toInt_lt
    refine ⟨m, hleast.1.1, ?_, hleast.1.2⟩
    cases o with
    | wraps =>
      show m ≤ 2147483647
      omega
    | stops =>
      -- the largest number cannot be found, as the counter cannot move on from it
      have hne : n ≠ numberAt 2147483646 := by
        rintro rfl
        exact hmove advance_largest
      have hne' : n.toInt ≠ (numberAt 2147483646).toInt := fun heq => hne (Int32.toInt_inj.1 heq)
      rw [toInt_numberAt (by omega), counted_eq (by omega)] at hne'
      show m ≤ 2147483646
      omega
  · intro h
    obtain ⟨k, hk, hfirst, hleast⟩ := h.exists_least
    have hlast := lastNumber_le o
    refine ⟨numberAt k, k + 1, hfirst.search (by omega) (wraps_or_lt hk), ?_, hleast⟩
    rw [toInt_numberAt (by omega), counted_eq (by omega)]
    rfl

/-- The machine that looks at its results breaks down over a search exactly if the counter has no number
for a free name; otherwise the search ends with one. -/
theorem search_stops_eq_none_iff : Search .stops taken stem 1 none ↔ ¬HasNumber .stops taken stem := by
  constructor
  · intro h hnumber
    obtain ⟨n, -, hfound, -⟩ := exists_search_least_iff.2 hnumber
    cases h.unique hfound
  · intro h
    refine Search.of_places (k := 2147483646) (by decide) (.inr (Nat.le_refl _)) ?_
      (.breaks advance_largest)
    intro i hi
    rw [counted_eq (by omega)]
    by_contra hfree
    exact h ⟨i + 1, Nat.succ_pos i, hi, hfree⟩

end Scenery.Scene
