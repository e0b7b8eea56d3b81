import Scenery.CommandLine.Arguments
import Scenery.Settings

/-!
# Requests

What the program is asked to do, as its arguments tell.

* `Request.ofWords`   the request of the words of a command line
-/

namespace Scenery.CommandLine

/-- Writes the document of a scene. -/
structure ExportRequest where
  snapshot : String
  settings : Option String
  root : Option String
  order : Option BlockOrder
  compact : Bool
  deriving DecidableEq, Repr

/-- Adds boxes to a scene. -/
structure BoxesRequest where
  snapshot : String
  settings : Option String
  /-- Name of the object to select. -/
  selected : Option String
  /-- Path of the snapshot of the edited scene. -/
  save : Option String
  deriving DecidableEq, Repr

/-- Lists the blocks of a script. -/
structure InspectRequest where
  script : String
  strict : Bool
  deriving DecidableEq, Repr

/-- What the program is asked to do. -/
inductive Request where
  | writeDocument (request : ExportRequest)
  | makeBoxes (request : BoxesRequest)
  | inspect (request : InspectRequest)
  /-- Prints a text of help. -/
  | help (text : String)
  deriving DecidableEq, Repr

/-- Name of the program. -/
def programName : String := "scene_cli"

/-! ### Options -/

/-- Sets the level of the log for one run. -/
def logLevelOption : OptionSpec :=
  ⟨"log-level", none, some ("LEVEL", .text), "Log level (error, warn, info, debug, trace)"⟩

/-- Names the file with the settings. -/
def settingsOption : OptionSpec :=
  ⟨"config", some 'c', some ("FILE", .path), "Tools configuration file (.toml or .ron)"⟩

/-- Names the content root, in place of the environment and of the settings. -/
def rootOption : OptionSpec :=
  ⟨"root", some 'r', some ("DIR", .path),
    "Content root (defaults to the BX_ROOT environment variable)"⟩

/-- The words for the order of blocks. -/
def orderWords : List (String × BlockOrder) :=
  [("cameras-first", .camerasFirst), ("design-blocks-first", .designBlocksFirst)]

/-- Chooses the order of the blocks. -/
def orderOption : OptionSpec :=
  ⟨"order", none, some ("ORDER", .word (orderWords.map Prod.fst)), "Block order"⟩

/-- Chooses the short form of numbers. -/
def compactOption : OptionSpec :=
  ⟨"compact", none, none, "Write integral values without a trailing .0"⟩

/-- Names the object that is converted, in place of the stored selection. -/
def selectOption : OptionSpec :=
  ⟨"select", some 's', some ("NAME", .text), "Object to convert (overrides the snapshot selection)"⟩

/-- Names the file for the scene with the boxes. -/
def saveOption : OptionSpec :=
  ⟨"save", none, some ("FILE", .path), "Write the edited scene to a new snapshot"⟩

/-- Makes the reader stop at the first faulty line. -/
def strictOption : OptionSpec := ⟨"strict", none, none, "Fail on the first malformed line"⟩

/-! ### Commands -/

/-- What `exportScene` takes from the command line. -/
def exportCommand : CommandSpec :=
  { name := "export"
    about := "Write the scene's spheres, boxes and leaf cameras as a scene script"
    argument := "SNAPSHOT"
    argumentHelp := "Scene snapshot file (.ron or .toml)"
    options := [settingsOption, logLevelOption, rootOption, orderOption, compactOption] }

/-- What `meshToBoxes` takes from the command line. -/
def boxesCommand : CommandSpec :=
  { name := "mesh-to-boxes"
    about := "Create one box per face of the selected mesh"
    argument := "SNAPSHOT"
    argumentHelp := "Scene snapshot file (.ron or .toml)"
    options := [settingsOption, logLevelOption, selectOption, saveOption] }

/-- Reading a document only lists its blocks. -/
def inspectCommand : CommandSpec :=
  { name := "inspect"
    about := "Read a scene script and list its blocks"
    argument := "FILE"
    argumentHelp := "Scene script file"
    options := [logLevelOption, strictOption] }

/-- What a command is asked to do by its argument and options. -/
abbrev Meaning := String → Given → Request

/-- A document is to be written. -/
def exportMeaning : Meaning := fun snapshot g =>
  .writeDocument
    { snapshot
      settings := g.value? settingsOption.name
      root := g.value? rootOption.name
      order := (g.value? orderOption.name).bind (List.lookup · orderWords)
      compact := g.isOn compactOption.name }

/-- Boxes are to be added. -/
def boxesMeaning : Meaning := fun snapshot g =>
  .makeBoxes
    { snapshot
      settings := g.value? settingsOption.name
      selected := g.value? selectOption.name
      save := g.value? saveOption.name }

/-- Blocks are to be listed. -/
def inspectMeaning : Meaning := fun script g =>
  .inspect { script, strict := g.isOn strictOption.name }

/-- All commands with what they mean. -/
def commands : List (CommandSpec × Meaning) :=
  [(exportCommand, exportMeaning), (boxesCommand, boxesMeaning), (inspectCommand, inspectMeaning)]

/-- The command of a name. -/
def command? (name : String) : Option (CommandSpec × Meaning) := commands.find? (·.1.name = name)

/-- The help of the program. -/
def helpText : String :=
  "Exports scene scripts and converts mesh faces to boxes for the bx engine\n\nUsage: " ++
    programName ++ " [OPTIONS] <COMMAND>\n\n" ++
    helpSection "Commands" (commands.map (fun (c, _) => (c.name, c.about)) ++
      [("help", "Print this message or the help of the given subcommand(s)")]) ++ "\n" ++
    helpSection "Options" (optionRows [logLevelOption])

/-! ### From words to requests -/

/-- The help that some words behind `help` ask for. -/
def helpOn : List String → Except UsageError Request
  | [] => .ok (.help helpText)
  | name :: rest =>
    match command? name, rest with
    | some (c, _), [] => .ok (.help (c.helpText programName))
    | some _, word :: _ => .error (.unknownCommand word)
    | none, _ => .error (.unknownCommand name)

/-- The request of the words of a command line. -/
def Request.ofWords (words : List String) : Except UsageError Request :=
  match readOptions [logLevelOption] .nothing words with
  | .error .help => .ok (.help helpText)
  | .error (.error e) => .error e
  | .ok (_, []) => .error .missingCommand
  | .ok (_, name :: rest) =>
    if name = "help" then helpOn rest
    else
      match command? name with
      | none => .error (.unknownCommand name)
      | some (c, meaning) =>
        match c.read rest with
        | .error .help => .ok (.help (c.helpText programName))
        | .error (.error e) => .error e
        | .ok (argument, g) => .ok (meaning argument g)

end Scenery.CommandLine
