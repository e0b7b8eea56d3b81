import Scenery.Storage.Datum

/-!
# Schemas of stored data

What a reader of stored data looks for.  The languages of the data write the same value in several
ways, so that a text can only be read by someone who knows what it should hold.
-/

namespace Scenery

mutual

/-- What is to be read. -/
inductive Schema where
  | text
  | number
  /-- A number that counts. -/
  | index
  /-- So many numbers. -/
  | tuple (size : Nat)
  /-- So many numbers, behind which a language that does not fix the size of a tuple may have more.
  -/
  | leading (size : Nat)
  | list (item : Schema)
  /-- A value that may be missing. -/
  | optional (content : Schema)
  /-- Fields in any order, any of which may be left out. -/
  | record (name : String) (fields : List (String × Schema))
  | choice (alternatives : List (String × Schema.Alternative))

/-- What belongs to the word of an alternative. -/
inductive Schema.Alternative where
  | word
  | variant (fields : List (String × Schema))
  | wrapped (content : Schema)

end

/-- One of some words. -/
def Schema.words (words : List String) : Schema := .choice (words.map (·, .word))

end Scenery
