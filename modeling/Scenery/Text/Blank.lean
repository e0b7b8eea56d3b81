/-!
# Blanks and words

The characters that separate words, and the division of a line into words.  Everything works on
lists of characters, so that statements about texts are statements about lists.

* `words_nonempty`   no word is empty
* `words_blankFree`  no word holds a blank
-/

namespace Scenery.Text

/-- The characters with the Unicode property `White_Space`. -/
def isBlank (c : Char) : Bool :=
  let n := c.toNat
  (0x9 ≤ n && n ≤ 0xD) || n == 0x20 || n == 0x85 || n == 0xA0 || n == 0x1680 ||
    (0x2000 ≤ n && n ≤ 0x200A) || n == 0x2028 || n == 0x2029 || n == 0x202F || n == 0x205F ||
    n == 0x3000

/-- The maximal blank-free pieces of a text, in order. -/
def words : List Char → List (List Char)
  | [] => []
  | [c] => if isBlank c then [] else [[c]]
  | c :: d :: rest =>
    if isBlank c then words (d :: rest)
    else if isBlank d then [c] :: words (d :: rest)
    else match words (d :: rest) with
      | [] => [[c]]
      | w :: ws => (c :: w) :: ws

/-- A text without the blanks at its two ends. -/
def trim (s : List Char) : List Char :=
  ((s.dropWhile isBlank).reverse.dropWhile isBlank).reverse

/-- No word is empty. -/
theorem words_nonempty (s : List Char) : ∀ w ∈ words s, w ≠ [] := by
  fun_induction words s <;> simp_all

/-- No word holds a blank. -/
theorem words_blankFree (s : List Char) : ∀ w ∈ words s, ∀ c ∈ w, isBlank c = false := by
  fun_induction words s <;> grind

end Scenery.Text
