import Scenery.NumberFormat

/-!
# Settings

What a user chooses: how much is logged, where and how documents are written, and how boxes are
sized.  `ExportSettings.validate` tells which choices make no sense.
-/

namespace Scenery

/-- Which blocks of a document come first. -/
inductive BlockOrder where
  | camerasFirst
  | designBlocksFirst
  deriving DecidableEq, Repr

/-- How large the box of a face is. -/
inductive BoxSizeRule where
  /-- All sides are as long as the area of the face is large. -/
  | faceArea
  deriving DecidableEq, Repr

/-- Settings of the log. -/
structure LoggingSettings where
  /-- Name of the level up to which records are kept. -/
  level : String
  deriving DecidableEq, Repr

/-- Settings for writing documents. -/
structure ExportSettings where
  /-- Name of the environment variable with the content root. -/
  rootVariable : String
  /-- The content root, if it does not come from the environment. -/
  rootOverride : Option String
  /-- Directory of the documents below the content root. -/
  directory : String
  /-- Extension of the documents' file names. -/
  extension : String
  /-- Material of all design blocks. -/
  material : String
  blockOrder : BlockOrder
  numberFormat : NumberFormat
  deriving DecidableEq, Repr

/-- Settings for making boxes of meshes. -/
structure ConversionSettings where
  sizeRule : BoxSizeRule
  deriving DecidableEq, Repr

/-- All settings of the program. -/
structure Settings where
  logging : LoggingSettings
  exporting : ExportSettings
  conversion : ConversionSettings
  deriving DecidableEq, Repr

/-- Informative records are kept, debugging ones are not. -/
def LoggingSettings.default : LoggingSettings := ⟨"info"⟩

/-- Documents go below the content root, with the cameras first. -/
def ExportSettings.default : ExportSettings :=
  { rootVariable := "BX_ROOT"
    rootOverride := none
    directory := "assets/scene"
    extension := "scene"
    material := "grey"
    blockOrder := .camerasFirst
    numberFormat := .full }

/-- Boxes are as large as the faces. -/
def ConversionSettings.default : ConversionSettings := ⟨.faceArea⟩

/-- What the program does without a file of settings. -/
def Settings.default : Settings := ⟨.default, .default, .default⟩

/-- A choice that makes no sense. -/
inductive SettingsError where
  | extension (value : String)
  | material (value : String)
  | noRoot
  deriving DecidableEq, Repr

def SettingsError.message : SettingsError → String
  | extension v => "Invalid scene extension: '" ++ v ++ "'"
  | material v => "Invalid default material: '" ++ v ++ "'"
  | noRoot => "Either root_override or root_env_var must be set"

/-- An extension is a part of a file name without points, a material can be quoted, and a content
root can be found. -/
def ExportSettings.validate (s : ExportSettings) : Except SettingsError Unit :=
  if s.extension.isEmpty || s.extension.toList.any (fun c => c == '.' || c == '/' || c == '\\') then
    .error (.extension s.extension)
  else if s.material.isEmpty || s.material.toList.any (· == '"') then
    .error (.material s.material)
  else if s.rootOverride.isNone && s.rootVariable.isEmpty then .error .noRoot
  else .ok ()

/-- Only the settings for documents can make no sense. -/
def Settings.validate (s : Settings) : Except SettingsError Unit := s.exporting.validate

end Scenery
