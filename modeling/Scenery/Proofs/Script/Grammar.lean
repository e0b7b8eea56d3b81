import Mathlib.Data.List.Forall2
import Mathlib.Data.List.Induction
import Scenery.Script.Statement

/-!
# The grammar of lines

Which lines are statements, what their words denote, and which fault is reported for the others.  The
grammar says it of the words as a whole; the reader goes from word to word and stops at the first one
that is bad.

* `IsBad`            a word that cannot stand where it does
* `IsValue`          the value of words, or their fault
* `ofWords_eq_iff`   the reader of values follows the grammar
* `ofLine?_grammar`  the reader of lines does
-/

namespace Scenery.Script

/-! ### Words -/

/-- The text in a word that begins with a quote: what follows, without one quote at its end. -/
inductive HasContent : List Char → List Char → Prop where
  | closed (content : List Char) : HasContent ('"' :: (content ++ ['"'])) content
  | unclosed {content : List Char} (hend : content.getLast? ≠ some '"') :
      HasContent ('"' :: content) content

/-- The word begins like a number: with a digit, a minus or a point. -/
def isNumeric (w : List Char) : Bool :=
  w.head?.any fun c => c.isDigit || c == '-' || c == '.'

/-- The number that a word denotes. -/
inductive Denotes : List Char → Single → Prop where
  | literal {w : List Char} {x : Single} (hx : Single.ofText? w = some x) : Denotes w x
  | hex {mark : Char} {ds : List Char} {n : Nat} (hmark : mark = 'x' ∨ mark = 'X')
      (hn : hexWord? ds = some n) : Denotes ('0' :: mark :: ds) (Single.ofNat n)
  | minusHex {mark : Char} {ds : List Char} {n : Nat} (hmark : mark = 'x' ∨ mark = 'X')
      (hn : hexWord? ds = some n) : Denotes ('-' :: '0' :: mark :: ds) (Single.ofNat n).neg

/-- A word cannot stand behind the words before it, and the fault says why. -/
inductive IsBad (before : List (List Char)) : List Char → Fault → Prop where
  | long {w content : List Char} (hw : HasContent w content)
      (hlong : 255 < (String.ofList content).utf8ByteSize) :
      IsBad before w (.textTooLong (String.ofList content))
  | many {w : List Char} (hw : isNumeric w = true) (hmany : 64 ≤ before.countP isNumeric) :
      IsBad before w .tooManyNumbers
  | notNumber {w : List Char} (hw : isNumeric w = true) (hfew : before.countP isNumeric < 64)
      (hnone : ∀ x, ¬Denotes w x) : IsBad before w (.invalidNumber (String.ofList w))
  | neither {w : List Char} (hw : isNumeric w = false) (hquote : ∀ content, ¬HasContent w content) :
      IsBad before w (.invalidToken (String.ofList w))

/-! ### Values -/

/-- All words can stand where they do. -/
def AllGood (words : List (List Char)) : Prop :=
  ∀ before w after fault, words = before ++ w :: after → ¬IsBad before w fault

/-- The value of words, or their fault. -/
inductive IsValue (words : List (List Char)) : Except Fault Value → Prop where
  | bad {before after : List (List Char)} {w : List Char} {fault : Fault}
      (hwords : words = before ++ w :: after) (hgood : AllGood before) (hbad : IsBad before w fault) :
      IsValue words (.error fault)
  | mixed {w w' content : List Char} (hgood : AllGood words) (hw : w ∈ words)
      (hcontent : HasContent w content) (hw' : w' ∈ words) (hnumeric : isNumeric w' = true) :
      IsValue words (.error .mixedValues)
  | text {w content : List Char} (hgood : AllGood words) (hno : ∀ w ∈ words, isNumeric w = false)
      (hlast : words.getLast? = some w) (hcontent : HasContent w content) :
      IsValue words (.ok (.text (String.ofList content)))
  | numbers {xs : List Single} (hgood : AllGood words) (hall : ∀ w ∈ words, isNumeric w = true)
      (hxs : List.Forall₂ Denotes words xs) (hlength : xs.length ≤ 64) :
      IsValue words (.ok (.numbers xs))

/-! ### Reading words -/

/-- A word is a text exactly if it has a content between quotation marks. -/
theorem ofWord_eq_text {w content : List Char} :
    Token.ofWord w = .text content ↔ HasContent w content := by
  constructor
  · intro h
    unfold Token.ofWord at h
    split at h
    · rename_i rest
      cases h
      split
      · -- the closing quotation mark is taken off
        rename_i hlast
        obtain ⟨content, rfl⟩ := List.getLast?_eq_some_iff.1 hlast
        rw [List.dropLast_concat]
        exact .closed content
      · rename_i hlast
        exact .unclosed hlast
    · split at h <;> cases h
    · cases h
  · intro h
    cases h with
    | closed => simp [Token.ofWord]
    | unclosed hend => simp [Token.ofWord, hend]

/-- A word is taken for a number by its first character. -/
theorem ofWord_eq_number {w : List Char} : Token.ofWord w = .number ↔ isNumeric w = true := by
  unfold Token.ofWord isNumeric
  split
  · simp
  · rename_i c rest _
    show _ ↔ (c.isDigit || c == '-' || c == '.') = true
    split <;> simp [*]
  · simp

/-- A word with a text does not begin like a number. -/
private theorem HasContent.not_isNumeric {w content : List Char} (h : HasContent w content) :
    isNumeric w = false := by
  cases h <;> rfl

/-- A word has one content. -/
private theorem HasContent.unique {w content content' : List Char} (h : HasContent w content)
    (h' : HasContent w content') : content' = content := by
  have heq := (ofWord_eq_text.2 h').symm.trans (ofWord_eq_text.2 h)
  cases heq
  rfl

/-- No literal has the mark of a hexadecimal number. -/
private theorem ofText?_mark {mark : Char} (hmark : mark = 'x' ∨ mark = 'X') (ds : List Char) :
    Single.ofText? ('0' :: mark :: ds) = none ∧ Single.ofText? ('-' :: '0' :: mark :: ds) = none := by
  have hmagnitude : Magnitude.ofText? ('0' :: mark :: ds) = none := by
    rcases hmark with rfl | rfl <;> simp [Magnitude.ofText?, Magnitude.decimal?, Magnitude.spanDigits]
  constructor
  · simp [Single.ofText?, Magnitude.spanSign, hmagnitude]
  · simp [Single.ofText?, Magnitude.spanSign, hmagnitude]

/-- A word without that mark behind a zero is read as a literal. -/
private theorem number?_of_ofText? {w : List Char} {x : Single} (hx : Single.ofText? w = some x) :
    number? w = some x := by
  unfold number?
  split
  rename_i negative digits hsign
  split
  · rename_i mark ds
    split
    · rename_i hmark
      exfalso
      -- the word is the digits, or a minus before them
      split at hsign
      · cases hsign
        rw [(ofText?_mark hmark ds).2] at hx
        cases hx
      · cases hsign
        rw [(ofText?_mark hmark ds).1] at hx
        cases hx
    · exact hx
  · exact hx

/-- A word is read as the number that it denotes. -/
theorem number?_eq_some {w : List Char} {x : Single} : number? w = some x ↔ Denotes w x := by
  constructor
  · intro h
    unfold number? at h
    -- behind the sign there is a mark for digits in base sixteen, or a decimal
    split at h
    rename_i negative digits hsign
    split at h
    · rename_i mark ds
      split at h
      · rename_i hmark
        obtain ⟨n, hn, rfl⟩ := Option.map_eq_some_iff.1 h
        split at hsign
        · cases hsign
          exact .minusHex hmark hn
        · cases hsign
          exact .hex hmark hn
      · exact .literal h
    · exact .literal h
  · intro h
    cases h with
    | literal hx => exact number?_of_ofText? hx
    | hex hmark hn => simp [number?, hmark, hn]
    | minusHex hmark hn => simp [number?, hmark, hn]

/-- A word denotes one number. -/
private theorem denotes_rightUnique : Relator.RightUnique Denotes := by
  intro w x x' hx hx'
  rw [← number?_eq_some] at hx hx'
  rw [hx] at hx'
  exact Option.some.inj hx'

/-! ### Good words -/

variable {words after : List (List Char)} {w : List Char}

theorem allGood_nil : AllGood [] := by
  intro before w after fault hwords
  simp at hwords

/-- A word more is good if it can stand behind the others. -/
theorem allGood_concat : AllGood (words ++ [w]) ↔ AllGood words ∧ ∀ fault, ¬IsBad words w fault := by
  constructor
  · intro h
    refine ⟨?_, fun fault => h words w [] fault rfl⟩
    intro before v after fault hwords
    exact h before v (after ++ [w]) fault (by simp [hwords])
  · intro h before v after fault hwords
    -- the word in question is the last one, or one of the others
    rcases List.eq_nil_or_concat after with rfl | ⟨after, u, rfl⟩
    · obtain ⟨rfl, hw⟩ := List.append_inj' hwords rfl
      cases hw
      exact h.2 fault
    · rw [List.concat_eq_append, ← List.cons_append, ← List.append_assoc] at hwords
      exact h.1 before v after fault (List.append_inj' hwords rfl).1

/-- If not all words are good, there is a first bad one. -/
theorem exists_first_bad (h : ¬AllGood words) : ∃ before w after fault,
    words = before ++ w :: after ∧ AllGood before ∧ IsBad before w fault := by
  induction words using List.reverseRecOn with
  | nil => exact absurd allGood_nil h
  | append_singleton words w ih =>
    by_cases hgood : AllGood words
    · rw [allGood_concat, not_and, not_forall] at h
      obtain ⟨fault, hbad⟩ := h hgood
      exact ⟨words, w, [], fault, rfl, hgood, not_not.1 hbad⟩
    · obtain ⟨before, v, after, fault, hwords, hbefore, hbad⟩ := ih hgood
      exact ⟨before, v, after ++ [w], fault, by simp [hwords], hbefore, hbad⟩

/-! ### Reading values -/

/-- What the reader holds after some words: the numbers, the last one first, and the last text. -/
structure Gathered (words : List (List Char)) (numbers : List Single) (text : Option String) :
    Prop where
  denoted : List.Forall₂ Denotes (words.filter isNumeric) numbers.reverse
  few : numbers.length ≤ 64
  last : text = none ∧ (∀ w ∈ words, isNumeric w = true) ∨
    ∃ w content, (words.filter (!isNumeric ·)).getLast? = some w ∧ HasContent w content ∧
      text = some (String.ofList content)

variable {numbers : List Single} {text : Option String}

/-- As many numbers are gathered as there are words that are numeric. -/
private theorem Gathered.length_eq (h : Gathered words numbers text) :
    words.countP isNumeric = numbers.length := by
  rw [List.countP_eq_length_filter, h.denoted.length_eq, List.length_reverse]

/-- The reader stops at a bad word. -/
private theorem gather_of_isBad (h : Gathered words numbers text) {fault : Fault}
    (hbad : IsBad words w fault) (after : List (List Char)) :
    gather numbers text (w :: after) = .error fault := by
  have hlength := h.length_eq
  unfold gather
  -- each way to be bad is one check of the reader, with the numbers so far counted in words
  cases hbad with
  | long hw hlong =>
    rw [ofWord_eq_text.2 hw]
    exact if_pos hlong
  | many hw hmany =>
    rw [hlength] at hmany
    rw [ofWord_eq_number.2 hw]
    exact if_pos hmany
  | notNumber hw hfew hnone =>
    have hnumber : number? w = none := by
      rw [Option.eq_none_iff_forall_ne_some]
      exact fun x hx => hnone x (number?_eq_some.1 hx)
    rw [hlength] at hfew
    rw [ofWord_eq_number.2 hw, hnumber]
    exact if_neg (Nat.not_le.2 hfew)
  | neither hw hquote =>
    -- the word announces neither a text nor a number
    cases hword : Token.ofWord w with
    | text content => exact absurd (ofWord_eq_text.1 hword) (hquote content)
    | number =>
      rw [ofWord_eq_number.1 hword] at hw
      cases hw
    | other => rfl

/-- The reader takes in a word that is not bad. -/
private theorem gather_of_good (h : Gathered words numbers text)
    (hgood : ∀ fault, ¬IsBad words w fault) :
    ∃ numbers' text', Gathered (words ++ [w]) numbers' text' ∧
      ∀ after, gather numbers text (w :: after) = gather numbers' text' after := by
  cases hword : Token.ofWord w with
  -- a text replaces the one before
  | text content =>
    have hcontent := ofWord_eq_text.1 hword
    have hnot := hcontent.not_isNumeric
    have hlast : (words ++ [w]).filter (!isNumeric ·) = words.filter (!isNumeric ·) ++ [w] := by
      simp [List.filter_append, hnot]
    refine ⟨numbers, some (String.ofList content), ⟨?_, h.few, ?_⟩, ?_⟩
    · simpa [List.filter_append, hnot] using h.denoted
    · rw [hlast, List.getLast?_concat]
      exact .inr ⟨w, content, rfl, hcontent, rfl⟩
    · intro after
      rw [gather, hword]
      exact if_neg fun hlong => hgood _ (.long hcontent hlong)
  -- a number is put in front of those before
  | number =>
    have hnumeric := ofWord_eq_number.1 hword
    have hfew : numbers.length < 64 := by
      rw [← h.length_eq]
      exact Nat.lt_of_not_le fun hmany => hgood _ (.many hnumeric hmany)
    obtain ⟨x, hx⟩ : ∃ x, Denotes w x := by
      by_contra hnone
      rw [not_exists] at hnone
      exact hgood _ (.notNumber hnumeric (h.length_eq ▸ hfew) hnone)
    refine ⟨x :: numbers, text, ⟨?_, hfew, ?_⟩, ?_⟩
    · rw [List.filter_append, List.reverse_cons]
      refine List.rel_append h.denoted ?_
      simpa [hnumeric] using hx
    · simpa [List.filter_append, hnumeric, or_imp, forall_and] using h.last
    · intro after
      rw [gather, hword, number?_eq_some.2 hx]
      exact if_neg (Nat.not_le.2 hfew)
  -- any other word would be bad
  | other =>
    exfalso
    apply hgood _ (.neither _ _)
    · rw [← Bool.not_eq_true, ← ofWord_eq_number, hword]
      simp
    · intro content hcontent
      rw [ofWord_eq_text.2 hcontent] at hword
      cases hword

/-- The reader takes in good words. -/
private theorem exists_gathered (h : AllGood words) : ∃ numbers text, Gathered words numbers text ∧
    ∀ after, Value.ofWords (words ++ after) = gather numbers text after := by
  induction words using List.reverseRecOn with
  | nil => exact ⟨[], none, ⟨.nil, by simp, .inl ⟨rfl, by simp⟩⟩, fun after => rfl⟩
  | append_singleton words w ih =>
    -- the reader comes to the last word with what it has gathered from the others
    rw [allGood_concat] at h
    obtain ⟨numbers, text, hgathered, hread⟩ := ih h.1
    obtain ⟨numbers', text', hgathered', hword⟩ := gather_of_good hgathered h.2
    refine ⟨numbers', text', hgathered', ?_⟩
    intro after
    rw [List.append_assoc, List.singleton_append, hread, hword]

/-- Good words have the value of what the reader holds at the end. -/
private theorem exists_gathered_end (h : AllGood words) : ∃ numbers text,
    Gathered words numbers text ∧ Value.ofWords words = gather numbers text [] := by
  obtain ⟨numbers, text, hgathered, hread⟩ := exists_gathered h
  have hend := hread []
  rw [List.append_nil] at hend
  exact ⟨numbers, text, hgathered, hend⟩

/-- The first bad word is the fault. -/
private theorem ofWords_of_bad {before : List (List Char)} {fault : Fault} (hgood : AllGood before)
    (hbad : IsBad before w fault) (after : List (List Char)) :
    Value.ofWords (before ++ w :: after) = .error fault := by
  obtain ⟨numbers, text, hgathered, hread⟩ := exists_gathered hgood
  rw [hread, gather_of_isBad hgathered hbad]

/-- Without numeric words, nothing is filtered out. -/
private theorem filter_of_not_isNumeric (hno : ∀ w ∈ words, isNumeric w = false) :
    words.filter (!isNumeric ·) = words := by
  rw [List.filter_eq_self]
  intro w hw
  rw [hno w hw]
  rfl

/-- No numbers are gathered exactly if no word is numeric. -/
private theorem Gathered.numbers_eq_nil (h : Gathered words numbers text) :
    numbers = [] ↔ ∀ w ∈ words, isNumeric w = false := by
  rw [← List.length_eq_zero_iff, ← h.length_eq, List.countP_eq_zero]
  simp

/-- What the reader gives for good words. -/
private theorem isValue_of_allGood (hgood : AllGood words) : IsValue words (Value.ofWords words) := by
  obtain ⟨numbers, text, hgathered, hend⟩ := exists_gathered_end hgood
  rw [hend]
  rcases hgathered.last with ⟨rfl, hall⟩ | ⟨w, content, hlast, hcontent, rfl⟩
  · have hdenoted := hgathered.denoted
    rw [List.filter_eq_self.2 hall] at hdenoted
    exact .numbers hgood hall hdenoted (by simpa using hgathered.few)
  · have hmem := List.mem_of_getLast? hlast
    have hw := (List.mem_filter.1 hmem).1
    cases hnumbers : numbers with
    | nil =>
      have hno := hgathered.numbers_eq_nil.1 hnumbers
      rw [filter_of_not_isNumeric hno] at hlast
      exact .text hgood hno hlast hcontent
    | cons x numbers =>
      -- some word denotes a number, so it begins like one
      have hsome : ¬∀ w ∈ words, isNumeric w = false := by
        rw [← hgathered.numbers_eq_nil, hnumbers]
        simp
      obtain ⟨w', hw', hnumeric⟩ : ∃ w' ∈ words, isNumeric w' = true := by
        simpa using hsome
      exact .mixed hgood hw hcontent hw' hnumeric

/-- The value of words is what the reader gives. -/
private theorem IsValue.ofWords_eq {r : Except Fault Value} (h : IsValue words r) :
    Value.ofWords words = r := by
  cases h with
  | bad hwords hgood hbad =>
    rw [hwords]
    exact ofWords_of_bad hgood hbad _
  | mixed hgood hw hcontent hw' hnumeric =>
    obtain ⟨numbers, text, hgathered, hend⟩ := exists_gathered_end hgood
    rw [hend]
    rcases hgathered.last with ⟨rfl, hall⟩ | ⟨w, content, -, -, rfl⟩
    · have hboth := hall _ hw
      rw [hcontent.not_isNumeric] at hboth
      cases hboth
    · cases numbers with
      | nil =>
        have hboth := hgathered.numbers_eq_nil.1 rfl _ hw'
        rw [hnumeric] at hboth
        cases hboth
      | cons x numbers => rfl
  | @text w content hgood hno hlast hcontent =>
    obtain ⟨numbers, text, hgathered, hend⟩ := exists_gathered_end hgood
    rw [hend, hgathered.numbers_eq_nil.2 hno]
    have hw := List.mem_of_getLast? hlast
    rcases hgathered.last with ⟨-, hall⟩ | ⟨w', content', hlast', hcontent', rfl⟩
    · -- the words would all be numeric, and none is
      have hboth := hno w hw
      rw [hall w hw] at hboth
      cases hboth
    · rw [filter_of_not_isNumeric hno, hlast] at hlast'
      cases hlast'
      rw [hcontent.unique hcontent']
      rfl
  | @numbers xs hgood hall hxs hlength =>
    obtain ⟨numbers, text, hgathered, hend⟩ := exists_gathered_end hgood
    rw [hend]
    rcases hgathered.last with ⟨rfl, -⟩ | ⟨w, content, hlast, hcontent, rfl⟩
    · -- each word denotes one number only
      have hdenoted := hgathered.denoted
      rw [List.filter_eq_self.2 hall] at hdenoted
      rw [← denotes_rightUnique.forall₂ hdenoted hxs]
      rfl
    · have hmem := List.mem_filter.1 (List.mem_of_getLast? hlast)
      rw [hall w hmem.1] at hmem
      cases hmem.2

/-- The reader of values follows the grammar. -/
theorem ofWords_eq_iff {r : Except Fault Value} : Value.ofWords words = r ↔ IsValue words r := by
  constructor
  · intro h
    rw [← h]
    by_cases hgood : AllGood words
    · exact isValue_of_allGood hgood
    · obtain ⟨before, w, after, fault, hwords, hbefore, hbad⟩ := exists_first_bad hgood
      have hfault := ofWords_of_bad hbefore hbad after
      rw [← hwords] at hfault
      rw [hfault]
      exact .bad hwords hbefore hbad
  · exact IsValue.ofWords_eq

/-! ### Lines -/

/-- The statement of the words of a line, or the fault of its values. -/
inductive IsReading : List (List Char) → Except Fault (Option Statement) → Prop where
  | blank : IsReading [] (.ok none)
  | comment {c : Char} {w : List Char} {rest : List (List Char)}
      (hc : c ≠ '@' ∧ c ≠ '$' ∧ c ≠ ':') : IsReading ((c :: w) :: rest) (.ok none)
  | creates (type : List Char) (rest : List (List Char)) :
      IsReading (('@' :: type) :: rest)
        (.ok (some (.create (String.ofList type) (String.ofList (rest.headD [])))))
  | sets (name : List Char) {rest : List (List Char)} {v : Value} (hv : IsValue rest (.ok v)) :
      IsReading (('$' :: name) :: rest) (.ok (some (.attribute (String.ofList name) v)))
  | runs (name : List Char) {rest : List (List Char)} {v : Value} (hv : IsValue rest (.ok v)) :
      IsReading ((':' :: name) :: rest) (.ok (some (.command (String.ofList name) v)))
  | fails {c : Char} {name : List Char} {rest : List (List Char)} {fault : Fault}
      (hc : c = '$' ∨ c = ':') (hfault : IsValue rest (.error fault)) :
      IsReading ((c :: name) :: rest) (.error fault)

/-- What the reader makes of the words of a line is a reading by the grammar. -/
private theorem isReading_ofWords? (hwords : [] ∉ words) :
    IsReading words (Statement.ofWords? words) := by
  unfold Statement.ofWords?
  split
  · exact .creates _ _
  · rename_i name rest
    cases hvalue : Value.ofWords rest with
    | error fault => exact .fails (.inl rfl) (ofWords_eq_iff.1 hvalue)
    | ok v => exact .sets name (ofWords_eq_iff.1 hvalue)
  · rename_i name rest
    cases hvalue : Value.ofWords rest with
    | error fault => exact .fails (.inr rfl) (ofWords_eq_iff.1 hvalue)
    | ok v => exact .runs name (ofWords_eq_iff.1 hvalue)
  · -- a line that starts with none of the three marks says nothing
    rename_i hcreate hattribute hcommand
    match words, hwords with
    | [], _ => exact .blank
    | [] :: rest, hwords => exact absurd (List.mem_cons_self ..) hwords
    | (c :: w) :: rest, _ =>
      refine .comment ⟨?_, ?_, ?_⟩
      · rintro rfl
        exact hcreate w rest rfl
      · rintro rfl
        exact hattribute w rest rfl
      · rintro rfl
        exact hcommand w rest rfl

/-- The grammar leaves one reading, and it is that of the reader. -/
private theorem IsReading.ofWords?_eq {r : Except Fault (Option Statement)} (h : IsReading words r) :
    Statement.ofWords? words = r := by
  cases h with
  | blank => rfl
  | comment hc => simp [Statement.ofWords?, hc.1, hc.2.1, hc.2.2]
  | creates type rest => rfl
  | sets name hv =>
    rw [← ofWords_eq_iff] at hv
    simp [Statement.ofWords?, hv]
  | runs name hv =>
    rw [← ofWords_eq_iff] at hv
    simp [Statement.ofWords?, hv]
  | fails hc hfault =>
    rw [← ofWords_eq_iff] at hfault
    rcases hc with rfl | rfl <;> simp [Statement.ofWords?, hfault, bind, Except.bind]

/-- The reader of lines follows the grammar.  In particular, a line is no statement and no fault exactly
if it is blank or begins with another mark, and a line that creates an object has no fault. -/
theorem ofLine?_grammar (line : List Char) :
    (∀ r, Statement.ofLine? line = r ↔ IsReading (Text.words line) r) ∧
    (Statement.ofLine? line = .ok none ↔ ∀ w rest, Text.words line = w :: rest →
      w.head? ≠ some '@' ∧ w.head? ≠ some '$' ∧ w.head? ≠ some ':') ∧
    ∀ type rest, Text.words line = ('@' :: type) :: rest →
      ∃ s, Statement.ofLine? line = .ok (some s) := by
  have hiff (r : Except Fault (Option Statement)) :
      Statement.ofLine? line = r ↔ IsReading (Text.words line) r := by
    unfold Statement.ofLine?
    constructor
    · intro h
      rw [← h]
      exact isReading_ofWords? fun hmem => Text.words_nonempty line [] hmem rfl
    · exact IsReading.ofWords?_eq
  refine ⟨hiff, ?_, ?_⟩
  · rw [hiff]
    constructor
    · intro h w rest hwords
      rw [hwords] at h
      cases h with
      | comment hc => simpa using hc
    · intro h
      cases hwords : Text.words line with
      | nil => exact .blank
      | cons w rest =>
        have hw := h w rest hwords
        cases w with
        | nil => exact absurd rfl (Text.words_nonempty line [] (by simp [hwords]))
        | cons c w => exact .comment (by simpa using hw)
  · -- the words behind the name of a new object are not looked at
    intro type rest hwords
    have hreading := IsReading.creates type rest
    rw [← hwords, ← hiff] at hreading
    exact ⟨_, hreading⟩

end Scenery.Script
