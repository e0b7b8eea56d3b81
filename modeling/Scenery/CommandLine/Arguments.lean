/-!
# Arguments

A command takes one argument and options.  An option is given by its name behind two dashes, or by
its letter behind one, and has a value or is a switch.  Values follow as the next word or in the
same one; after two dashes alone every word is an argument.

* `CommandSpec.read`   what some words give to a command
-/

namespace Scenery.CommandLine

/-- What the value of an option may be. -/
inductive ValueKind where
  | text
  /-- A path is not empty. -/
  | path
  | word (choices : List String)

/-- A value is of a kind. -/
def ValueKind.admits : ValueKind → String → Bool
  | text, _ => true
  | path, v => !v.isEmpty
  | word choices, v => choices.contains v

/-- An option of a command. -/
structure OptionSpec where
  name : String
  letter : Option Char
  /-- Name and kind of the value; a switch has none. -/
  value : Option (String × ValueKind)
  help : String

/-- A command with its argument, which is a path. -/
structure CommandSpec where
  name : String
  about : String
  argument : String
  argumentHelp : String
  options : List OptionSpec

/-- Why words do not fit a command. -/
inductive UsageError where
  | missingCommand
  | unknownCommand (word : String)
  | unexpected (word : String)
  | missingArgument (name : String)
  | missingValue (option : String)
  | badValue (name value : String)
  /-- A switch was given a value. -/
  | needlessValue (option : String)
  | repeated (option : String)
  deriving DecidableEq, Repr

def UsageError.message : UsageError → String
  | missingCommand => "a command is required"
  | unknownCommand w => "unrecognized command '" ++ w ++ "'"
  | unexpected w => "unexpected argument '" ++ w ++ "'"
  | missingArgument name => "the argument <" ++ name ++ "> is required"
  | missingValue option => "a value is required for '--" ++ option ++ "'"
  | badValue name value => "invalid value '" ++ value ++ "' for '" ++ name ++ "'"
  | needlessValue option => "'--" ++ option ++ "' takes no value"
  | repeated option => "'--" ++ option ++ "' cannot be used more than once"

/-- What ends the reading of words. -/
inductive Interruption where
  | help
  | error (cause : UsageError)
  deriving DecidableEq, Repr

/-- What has been given to a command. -/
structure Given where
  argument : Option String
  /-- Names of options with their values; a switch has the empty one. -/
  options : List (String × String)
  deriving DecidableEq, Repr

namespace Given

/-- Nothing has been given. -/
def nothing : Given := ⟨none, []⟩

/-- The value of an option. -/
def value? (g : Given) (name : String) : Option String := g.options.lookup name

/-- A switch is on. -/
def isOn (g : Given) (name : String) : Bool := (g.value? name).isSome

/-- Gives an option, which may be done once. -/
def withOption (g : Given) (o : OptionSpec) (v : String) : Except Interruption Given :=
  if g.isOn o.name then .error (.error (.repeated o.name))
  else if o.value.all fun (_, kind) => kind.admits v then
    .ok { g with options := g.options ++ [(o.name, v)] }
  else .error (.error (.badValue o.name v))

/-- Gives the argument, which may be done once. -/
def withArgument (g : Given) (v : String) : Except Interruption Given :=
  if g.argument.isSome then .error (.error (.unexpected v))
  else if ValueKind.path.admits v then .ok { g with argument := some v }
  else .error (.error (.badValue "argument" v))

end Given

/-- What a word is by its look. -/
inductive WordKind where
  | plain
  /-- Two dashes alone. -/
  | separator
  /-- The name of an option and perhaps a value behind an equals sign. -/
  | named (name : String) (value : Option String)
  /-- Letters of options, and perhaps a value behind the last one. -/
  | letters (content : List Char)
  deriving DecidableEq, Repr

/-- The look of a word. -/
def WordKind.of (word : String) : WordKind :=
  match word.toList with
  | ['-', '-'] => separator
  | '-' :: '-' :: rest =>
    let name := rest.takeWhile (· ≠ '=')
    let value := (rest.drop name.length).tail
    named (String.ofList name)
      (if name.length < rest.length then some (String.ofList value) else none)
  | '-' :: c :: rest => letters (c :: rest)
  | _ => plain

/-- An option with its value, and whether the value was the next word. -/
abbrev Taken := Except Interruption (Given × Bool)

/-- Gives an option whose value is the next word, if that looks like one. -/
def takeNext (g : Given) (o : OptionSpec) (next : Option String) : Taken :=
  match next with
  | none => .error (.error (.missingValue o.name))
  | some v =>
    if WordKind.of v = .plain then (g.withOption o v).map (·, true)
    else .error (.error (.missingValue o.name))

/-- Gives the option of a name. -/
def takeNamed (options : List OptionSpec) (g : Given) (name : String) (value next : Option String) :
    Taken :=
  if name = "help" then
    .error (if value.isSome then .error (.needlessValue name) else .help)
  else
    match options.find? (·.name = name), value with
    | none, _ => .error (.error (.unexpected ("--" ++ name)))
    | some o, some v =>
      if o.value.isSome then (g.withOption o v).map (·, false)
      else .error (.error (.needlessValue name))
    | some o, none =>
      if o.value.isSome then takeNext g o next else (g.withOption o "").map (·, false)

/-- Gives the options of some letters.  What follows the letter of an option with a value is that
value, without an equals sign in front of it. -/
def takeLetters (options : List OptionSpec) (next : Option String) (g : Given) :
    List Char → Taken
  | [] => .ok (g, false)
  | 'h' :: _ => .error .help
  | c :: rest =>
    match options.find? (·.letter = some c) with
    | none => .error (.error (.unexpected ("-" ++ String.singleton c)))
    | some o =>
      if o.value.isSome then
        match rest with
        | [] => takeNext g o next
        | '=' :: v => (g.withOption o (String.ofList v)).map (·, false)
        | v => (g.withOption o (String.ofList v)).map (·, false)
      else
        match g.withOption o "" with
        | .ok g => takeLetters options next g rest
        | .error e => .error e

/-- Gives the options of a word, if it holds any. -/
def takeOptions? (options : List OptionSpec) (g : Given) (word : String) (next : Option String) :
    Option Taken :=
  match WordKind.of word with
  | .plain | .separator => none
  | .named name value => some (takeNamed options g name value next)
  | .letters content => some (takeLetters options next g content)

/-- The words behind one that holds options. -/
def wordsBehind (usedNext : Bool) (rest : List String) : List String :=
  if usedNext then rest.tail else rest

/-- Passing over an option leaves no more words than there were. -/
theorem length_wordsBehind (usedNext : Bool) (rest : List String) :
    (wordsBehind usedNext rest).length ≤ rest.length := by
  cases usedNext <;> simp [wordsBehind]

/-- Reads options up to the first word that holds none. -/
def readOptions (options : List OptionSpec) (g : Given) :
    List String → Except Interruption (Given × List String)
  | [] => .ok (g, [])
  | word :: rest =>
    match takeOptions? options g word rest.head? with
    | none => .ok (g, word :: rest)
    | some (.error e) => .error e
    | some (.ok (g, usedNext)) => readOptions options g (wordsBehind usedNext rest)
termination_by words => words.length
decreasing_by
  have := length_wordsBehind usedNext rest
  simp only [List.length_cons]
  omega

/-- Reads options and arguments, and after two dashes arguments alone. -/
def readWords (options : List OptionSpec) (g : Given) : List String → Except Interruption Given
  | [] => .ok g
  | word :: rest =>
    match takeOptions? options g word rest.head? with
    | some (.error e) => .error e
    | some (.ok (g, usedNext)) => readWords options g (wordsBehind usedNext rest)
    | none =>
      if WordKind.of word = .separator then rest.foldlM Given.withArgument g
      else
        match g.withArgument word with
        | .ok g => readWords options g rest
        | .error e => .error e
termination_by words => words.length
decreasing_by
  · have := length_wordsBehind usedNext rest
    simp only [List.length_cons]
    omega
  · simp

/-- What some words give to a command, which needs its argument. -/
def CommandSpec.read (c : CommandSpec) (words : List String) :
    Except Interruption (String × Given) := do
  let g ← readWords c.options .nothing words
  match g.argument with
  | none => .error (.error (.missingArgument c.argument))
  | some a => .ok (a, g)

/-! ### Help -/

/-- An option as the help shows it. -/
def OptionSpec.usage (o : OptionSpec) : String :=
  (match o.letter with
    | some c => "-" ++ String.singleton c ++ ", "
    | none => "    ") ++ "--" ++ o.name ++
  (match o.value with
    | some (name, _) => " <" ++ name ++ ">"
    | none => "")

/-- What an option is for, with the words that its value may be. -/
def OptionSpec.description (o : OptionSpec) : String :=
  match o.value with
  | some (_, .word choices) => o.help ++ " [possible values: " ++ ", ".intercalate choices ++ "]"
  | _ => o.help

/-- Rows of two columns under a heading. -/
def helpSection (heading : String) (rows : List (String × String)) : String :=
  let width := rows.foldl (fun w row => max w row.1.length) 0
  heading ++ ":\n" ++ String.join (rows.map fun (left, right) =>
    "  " ++ left ++ String.ofList (List.replicate (width - left.length + 2) ' ') ++ right ++ "\n")

/-- The row of the help itself. -/
def helpRow : String × String := ("-h, --help", "Print help")

/-- The rows of some options. -/
def optionRows (options : List OptionSpec) : List (String × String) :=
  options.map (fun o => (o.usage, o.description)) ++ [helpRow]

/-- The help of a command of a program. -/
def CommandSpec.helpText (program : String) (c : CommandSpec) : String :=
  c.about ++ "\n\nUsage: " ++ program ++ " " ++ c.name ++ " [OPTIONS] <" ++ c.argument ++ ">\n\n" ++
    helpSection "Arguments" [("<" ++ c.argument ++ ">", c.argumentHelp)] ++ "\n" ++
    helpSection "Options" (optionRows c.options)

end Scenery.CommandLine
