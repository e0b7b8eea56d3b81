import Scenery.Storage.Datum

/-!
# Writing TOML

The plain values of a table come first, each on a line of its own, and then the tables in it, each
under its header and after an empty line.

* `text?`   the text of a record
-/

namespace Scenery.Toml

/-! ### Texts -/

/-- The longest run of a character. -/
def longestRun (c : Char) (s : List Char) : Nat :=
  (s.foldl (fun (run, longest) d =>
    if d = c then (run + 1, max longest (run + 1)) else (0, longest)) (0, 0)).2

/-- A character that no text holds without an escape. -/
def needsEscape (c : Char) : Bool :=
  (c.toNat < 0x20 && c != '\t' && c != '\n') || c.toNat == 0x7F

/-- A code point as an escape. -/
def codeEscape (c : Char) : List Char :=
  let digits := (Nat.toDigits 16 c.toNat).map Char.toUpper
  ['\\', 'u'] ++ List.replicate (4 - digits.length) '0' ++ digits

/-- A character other than a double quote, as a text with escapes holds it. -/
def escaped (long : Bool) (c : Char) : List Char :=
  match c with
  | '\x08' => ['\\', 'b']
  | '\t' => ['\\', 't']
  | '\n' => if long then ['\n'] else ['\\', 'n']
  | '\x0c' => ['\\', 'f']
  | '\r' => ['\\', 'r']
  | '\\' => ['\\', '\\']
  | c => if needsEscape c then codeEscape c else [c]

/-- The content of a text with escapes, behind so many double quotes.  A text on many lines holds
two in a row as they are. -/
def escapedContent (long : Bool) : Nat → List Char → List Char
  | _, [] => []
  | run, c :: rest =>
    if c = '"' then
      if long && run < 2 then '"' :: escapedContent long (run + 1) rest
      else '\\' :: '"' :: escapedContent long 0 rest
    else escaped long c ++ escapedContent long 0 rest

/-- A text between delimiters of one quote, or of three, behind which the first line is left empty
if the text has an end of line. -/
def delimited (long : Bool) (quote : Char) (s content : List Char) : List Char :=
  let delimiter := List.replicate (if long then 3 else 1) quote
  delimiter ++ (if long && s.contains '\n' then ['\n'] else []) ++ content ++ delimiter

/-- A text in the first of its forms that needs no escape but that of a tab, or else with escapes.
-/
def quoted (s : List Char) : List Char :=
  let controls := s.any needsEscape
  let newline := s.contains '\n'
  let backslash := s.contains '\\'
  let singles := longestRun '\'' s
  let doubles := longestRun '"' s
  let basic (long : Bool) := delimited long '"' s (escapedContent long 0 s)
  let literal (long : Bool) := delimited long '\'' s s
  if !controls && !backslash && doubles = 0 && !newline then basic false
  else if !controls && singles = 0 && !newline then literal false
  else if !controls && !backslash && doubles ≤ 2 then basic true
  else if !controls && singles ≤ 2 then literal true
  else basic newline

/-! ### Numbers and arrays -/

/-- Numbers are always written around a point and keep a `.0`. -/
def numbers : Layout := ⟨true, none, "nan"⟩

/-- A number, which readers take as one of double precision. -/
def numberText (x : Single) : String := String.ofList (x.textIn numbers .double)

/-- An array of more than one item has each on a line of its own. -/
def arrayText : List String → String
  | [] => "[]"
  | [item] => "[" ++ item ++ "]"
  | items => "[\n" ++ String.join (items.map fun item => "    " ++ item ++ ",\n") ++ "]"

/-! ### Tables -/

/-- What a value becomes. -/
inductive Node where
  | plain (text : String)
  | table (entries : List (String × Node))
  | tables (items : List (List (String × Node)))

namespace Node

/-- The text of a node that is written on one line. -/
def text? : Node → Option String
  | plain s => some s
  | _ => none

/-- The entries of a node that is a table. -/
def entries? : Node → Option (List (String × Node))
  | table es => some es
  | _ => none

/-- A list of tables, or of anything else. -/
def ofItems (items : List Node) : Node :=
  match items, items.mapM entries? with
  | _ :: _, some ts => tables ts
  | _, _ => plain (arrayText (items.filterMap text?))

mutual

/-- What a value becomes; nothing where it is missing. -/
def ofDatum? : Datum → Option Node
  | .text s => some (plain (String.ofList (quoted s.toList)))
  | .number x => some (plain (numberText x))
  | .index n => some (plain (toString n))
  | .tuple xs => some (plain (arrayText (xs.map numberText)))
  | .list items => some (ofItems (ofList items))
  | .record fields => some (table (ofFields fields))
  | .optional none => none
  | .optional (some d) => ofDatum? d
  | .word name => some (plain (String.ofList (quoted name.toList)))
  | .variant name fields => some (table [(name, table (ofFields fields))])
  | .wrapped name content =>
    match ofDatum? content with
    | some n => some (table [(name, n)])
    | none => some (table [])

/-- What the items of a list become, without those that are missing. -/
def ofList : List Datum → List Node
  | [] => []
  | d :: rest =>
    match ofDatum? d with
    | some n => n :: ofList rest
    | none => ofList rest

/-- What the fields of a record become, without those that are missing. -/
def ofFields : List (String × Datum) → List (String × Node)
  | [] => []
  | (name, d) :: rest =>
    match ofDatum? d with
    | some n => (name, n) :: ofFields rest
    | none => ofFields rest

end

end Node

/-- The lines of the plain values of a table. -/
def plainLines (entries : List (String × Node)) : String :=
  String.join (entries.filterMap fun (name, n) => n.text?.map fun s => name ++ " = " ++ s ++ "\n")

/-- The name of a table in its header. -/
def pathText (path : List String) : String := ".".intercalate path

mutual

/-- The blocks of lines below the header of a table. -/
def blocksBelow (path : List String) : List (String × Node) → List String
  | [] => []
  | (name, n) :: rest => blocks (path ++ [name]) n ++ blocksBelow path rest

/-- The blocks of lines of a value.  A table that holds nothing but tables has no header. -/
def blocks (path : List String) : Node → List String
  | .plain _ => []
  | .table entries =>
    let lines := plainLines entries
    -- a table without any entry has a header, as nothing else would show it
    let own :=
      if lines.isEmpty && !entries.isEmpty then [] else ["[" ++ pathText path ++ "]\n" ++ lines]
    own ++ blocksBelow path entries
  | .tables items => blocksOfEach path items

/-- The blocks of lines of the tables of a list. -/
def blocksOfEach (path : List String) : List (List (String × Node)) → List String
  | [] => []
  | entries :: rest =>
    ("[[" ++ pathText path ++ "]]\n" ++ plainLines entries) ::
      (blocksBelow path entries ++ blocksOfEach path rest)

end

/-- The text of the table of some entries. -/
def print (entries : List (String × Node)) : String :=
  let lines := plainLines entries
  "\n".intercalate ((if lines.isEmpty then [] else [lines]) ++ blocksBelow [] entries)

/-- The text of a record, if all its integers have 64 bits. -/
def text? (d : Datum) : Option String :=
  if d.indices.all (· < 0x8000000000000000) then
    match Node.ofDatum? d with
    | some (.table entries) => some (print entries)
    | _ => none
  else none

end Scenery.Toml
