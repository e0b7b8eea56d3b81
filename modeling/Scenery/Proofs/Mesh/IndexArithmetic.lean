import Scenery.Proofs.Mesh.Corners

/-!
# Arithmetic of indices

The place that an index means is found by operations on integers of 64 bits and on words as long as
the machine has them for the length of a list.  Over one index alone an operation leaves its type:
the least integer has no opposite.  A program that looks at its results breaks down there; in one that
does not, the least integer comes out again, which is the length of no list.

* `locate`                    the place of an index, operation by operation
* `isExact_iff`               the indices for which each operation stays in its type
* `locateToken_of_not_least`  what any other token means is the same on every machine
* `locateToken_of_least`      what becomes of the least integer
-/

namespace Scenery.Wavefront

/-! ### Operations -/

/-- The result of an operation on integers of 64 bits, which should be `exact`. -/
def checked (o : Overflow) (exact : Int) (result : Int64) : Except Fault Int64 :=
  if o = .stops ∧ result.toInt ≠ exact then .error .overflow else .ok result

/-- The word of so many bits with the value of an integer. -/
def toWord? (w : Nat) (k : Int64) : Option (BitVec w) :=
  if ((BitVec.ofInt w k.toInt).toNat : Int) = k.toInt then some (BitVec.ofInt w k.toInt) else none

variable {w : Nat}

/-- The difference of two words, if it is one. -/
def subtract? (a b : BitVec w) : Option (BitVec w) := if b ≤ a then some (a - b) else none

/-- The place, among `count` values, that an index means, by the operations of a machine. -/
def locate (o : Overflow) (index : Int64) (count : BitVec w) : Except Fault (Option (BitVec w)) :=
  if index = 0 then .ok none
  else if 0 < index then do
    let place ← checked o (index.toInt - 1) (index - 1)
    return (toWord? w place).filter (· < count)
  else do
    let back ← checked o (-index.toInt) (-index)
    return ((toWord? w back).bind (subtract? count)).filter (· < count)

/-- The place that an index token means, by the operations of a machine. -/
def locateToken (o : Overflow) (token : List Char) (count : BitVec w) : Except Fault Nat :=
  match integer? token with
  | none => .error (.badIndex (String.ofList token))
  | some i => do
    match ← locate o (Int64.ofInt i) count with
    | none => .error (.indexOutOfBounds i)
    | some p => .ok p.toNat

/-! ### Results in their types -/

variable {o : Overflow} {index : Int64} {count : BitVec w}

private theorem leastInteger_le_toInt (k : Int64) : leastInteger ≤ k.toInt := k.le_toInt

private theorem toInt_lt (k : Int64) : k.toInt < -leastInteger := k.toInt_lt

private theorem toInt_ofInt {x : Int} (h : leastInteger ≤ x) (h' : x < -leastInteger) :
    (Int64.ofInt x).toInt = x := Int64.toInt_ofInt_of_le h h'

private theorem eq_minValue_iff : index = Int64.minValue ↔ index.toInt = leastInteger :=
  Int64.toInt_inj.symm

/-- An operation gives a result of its type, whatever would become of others. -/
private theorem checked_eq_ok {exact : Int} {result : Int64} (h : result.toInt = exact) :
    checked o exact result = .ok result := if_neg fun hne => hne.2 h

/-- One can be taken off any positive index. -/
private theorem toInt_sub_one (h : 0 < index) : (index - 1).toInt = index.toInt - 1 := by
  have hpos : 0 < index.toInt := Int64.lt_iff_toInt_lt.1 h
  exact Int64.toInt_sub_of_le index 1 (by decide) (Int64.le_iff_toInt_le.2 hpos)

/-- Every integer but the least one has an opposite. -/
private theorem toInt_neg (h : index ≠ Int64.minValue) : (-index).toInt = -index.toInt := by
  have hlower := leastInteger_le_toInt index
  have hupper := toInt_lt index
  have hleast : index.toInt ≠ leastInteger := fun heq => h (eq_minValue_iff.2 heq)
  have hopposite : -index = Int64.ofInt (-index.toInt) := by
    rw [← Int64.neg_ofInt, Int64.ofInt_toInt]
  rw [hopposite, toInt_ofInt (by omega) (by omega)]

/-! ### Words -/

/-- A word is converted to another width exactly if its value fits. -/
private theorem toWord?_eq_some {k : Int64} {word : BitVec w} :
    toWord? w k = some word ↔ (word.toNat : Int) = k.toInt := by
  unfold toWord?
  constructor
  · intro h
    split at h
    · rename_i hvalue
      rwa [← Option.some.inj h]
    · cases h
  · intro h
    have hword : BitVec.ofInt w k.toInt = word := by
      rw [← h, BitVec.ofInt_natCast, BitVec.ofNat_toNat, BitVec.setWidth_eq]
    rw [hword, if_pos h]

/-- Counting back from the end gives the word that is so much less. -/
private theorem bind_subtract?_eq_some {back : Int64} {word : BitVec w} (h : 0 < back.toInt) :
    (toWord? w back).bind (subtract? count) = some word ↔
      (word.toNat : Int) = count.toNat - back.toInt := by
  unfold subtract?
  simp only [Option.bind_eq_some_iff, toWord?_eq_some, Option.ite_none_right_eq_some,
    Option.some.injEq]
  constructor
  · rintro ⟨b, hb, hle, rfl⟩
    have hsub := BitVec.toNat_sub_of_le hle
    rw [BitVec.le_def] at hle
    omega
  · intro hword
    -- a count back of one at least leaves less than the whole count
    have hle : word ≤ count := by
      rw [BitVec.le_def]
      omega
    have hsub := BitVec.toNat_sub_of_le hle
    have hback : count - word ≤ count := by
      rw [BitVec.le_def]
      omega
    refine ⟨count - word, by omega, hback, ?_⟩
    apply BitVec.eq_of_toNat_eq
    rw [BitVec.toNat_sub_of_le hback]
    omega

/-- The word with some value is kept if it is a place. -/
private theorem map_toNat_filter_eq_some {place : Option (BitVec w)} {value : Int}
    (h : ∀ word, place = some word ↔ (word.toNat : Int) = value) {i : Nat} :
    (place.filter (· < count)).map BitVec.toNat = some i ↔ i < count.toNat ∧ (i : Int) = value := by
  simp only [Option.map_eq_some_iff, Option.filter_eq_some_iff, decide_eq_true_eq, h, BitVec.lt_def]
  constructor
  · rintro ⟨word, ⟨hvalue, hlt⟩, rfl⟩
    exact ⟨hlt, hvalue⟩
  · rintro ⟨hlt, hvalue⟩
    have hword : (BitVec.ofNat w i).toNat = i :=
      (BitVec.toNat_ofNat i w).trans (Nat.mod_eq_of_lt (Nat.lt_trans hlt count.isLt))
    exact ⟨BitVec.ofNat w i, by rw [hword]; exact ⟨hvalue, hlt⟩, hword⟩

/-! ### One index -/

/-- The operations give the place that the index means, whatever would become of overflows. -/
def IsExact (index : Int64) (count : BitVec w) : Prop :=
  ∀ o, ∃ place, locate o index count = .ok place ∧
    place.map BitVec.toNat = resolve? index.toInt count.toNat

/-- Apart from the least word, the arithmetic of an index never leaves the words. -/
private theorem isExact_of_ne (h : index ≠ Int64.minValue) (count : BitVec w) :
    IsExact index count := by
  intro o
  unfold locate
  split
  · rename_i hzero
    rw [hzero]
    exact ⟨none, rfl, rfl⟩
  rename_i hne
  split
  · rename_i hpos
    -- counted from the front: one less than a positive word is a word
    rw [checked_eq_ok (toInt_sub_one hpos)]
    refine ⟨_, rfl, Option.ext fun i => ?_⟩
    have hplace : ∀ word, toWord? w (index - 1) = some word ↔
        (word.toNat : Int) = index.toInt - 1 := by
      intro word
      rw [toWord?_eq_some, toInt_sub_one hpos]
    rw [map_toNat_filter_eq_some hplace, resolve?_eq_some]
    have hk : 0 < index.toInt := Int64.lt_iff_toInt_lt.1 hpos
    omega
  · rename_i hpos
    have hk : index.toInt < 0 := by
      have hnpos : ¬0 < index.toInt := fun hk => hpos (Int64.lt_iff_toInt_lt.2 hk)
      have hnzero : index.toInt ≠ 0 := fun hk => hne (Int64.toInt_inj.1 hk)
      omega
    -- counted from the end: only the least word has no opposite
    rw [checked_eq_ok (toInt_neg h)]
    refine ⟨_, rfl, Option.ext fun i => ?_⟩
    have hplace : ∀ word, (toWord? w (-index)).bind (subtract? count) = some word ↔
        (word.toNat : Int) = count.toNat - -index.toInt := by
      intro word
      rw [bind_subtract?_eq_some (by rw [toInt_neg h]; omega), toInt_neg h]
    rw [map_toNat_filter_eq_some hplace, resolve?_eq_some]
    omega

/-- The least integer has no opposite, so the program breaks down where it looks at its results. -/
theorem locate_stops_minValue (count : BitVec w) :
    locate .stops Int64.minValue count = .error .overflow := rfl

/-- The least integer is its own opposite where results go around, and no word has a value below
zero. -/
theorem locate_wraps_minValue (count : BitVec w) :
    locate .wraps Int64.minValue count = .ok none := by
  have hnone : toWord? w Int64.minValue = none := by
    rw [Option.eq_none_iff_forall_ne_some]
    intro word hword
    have hvalue := toWord?_eq_some.1 hword
    have hleast : Int64.minValue.toInt = leastInteger := rfl
    rw [hleast] at hvalue
    unfold leastInteger at hvalue
    omega
  show Except.ok (((toWord? w Int64.minValue).bind (subtract? count)).filter (· < count)) = _
  rw [hnone]
  rfl

/-- Every operation stays in its type exactly if the index is not the least integer. -/
theorem isExact_iff : IsExact index count ↔ index ≠ Int64.minValue := by
  constructor
  · rintro h rfl
    obtain ⟨place, hplace, -⟩ := h .stops
    cases hplace
  · exact fun h => isExact_of_ne h count

/-! ### Tokens -/

/-- The token stands for the least integer. -/
def IsLeast (token : List Char) : Prop := integer? token = some leastInteger

variable {token : List Char}

/-- An index is an integer of 64 bits. -/
private theorem integer?_bounds {i : Int} (h : integer? token = some i) :
    leastInteger ≤ i ∧ i < -leastInteger := by
  unfold integer? at h
  unfold leastInteger
  dsimp only at h
  split at h
  · cases h
  split at h
  · split at h
    · cases h
      omega
    · cases h
  · split at h
    · cases h
      omega
    · cases h

/-- On every machine the least integer means no place. -/
theorem locateToken_of_least (h : IsLeast token) (count : BitVec w) : locateToken o token count =
    .error (match o with | .stops => .overflow | .wraps => .indexOutOfBounds leastInteger) := by
  have hindex : Int64.ofInt leastInteger = Int64.minValue := rfl
  unfold locateToken
  rw [h]
  dsimp only
  rw [hindex]
  cases o with
  | stops =>
    rw [locate_stops_minValue]
    rfl
  | wraps =>
    rw [locate_wraps_minValue]
    rfl

/-- Any other token means the same on every machine. -/
theorem locateToken_of_not_least (h : ¬IsLeast token) (count : BitVec w) :
    locateToken o token count = place token count.toNat := by
  unfold locateToken place
  cases htoken : integer? token with
  | none => rfl
  | some i =>
    obtain ⟨hlower, hupper⟩ := integer?_bounds htoken
    have hi : i ≠ leastInteger := fun heq => h (by rw [IsLeast, htoken, heq])
    have hvalue := toInt_ofInt hlower hupper
    have hindex : Int64.ofInt i ≠ Int64.minValue := fun heq => hi (hvalue ▸ eq_minValue_iff.1 heq)
    obtain ⟨place, hplace, hexact⟩ := isExact_of_ne hindex count o
    rw [hvalue] at hexact
    dsimp only
    rw [hplace, ← hexact, if_neg hi]
    cases place <;> rfl

end Scenery.Wavefront
