import Scenery.Settings
import Scenery.Storage.File

/-!
# Settings in files

All settings have a value by themselves, so any part of a file may be missing.
-/

namespace Scenery

/-- All orders of blocks. -/
def BlockOrder.all : List BlockOrder := [camerasFirst, designBlocksFirst]

/-- All formats of numbers. -/
def NumberFormat.all : List NumberFormat := [full, compact]

/-- All sizes of boxes. -/
def BoxSizeRule.all : List BoxSizeRule := [faceArea]

/-- The word for an order of blocks. -/
def BlockOrder.word : BlockOrder → String
  | camerasFirst => "CamerasFirst"
  | designBlocksFirst => "DesignBlocksFirst"

/-- The word for a format of numbers. -/
def NumberFormat.word : NumberFormat → String
  | full => "Repr"
  | compact => "Compact"

/-- The word for a size of boxes. -/
def BoxSizeRule.word : BoxSizeRule → String
  | faceArea => "FaceArea"

namespace LoggingSettings

def schema : Schema := .record "LoggingConfig" [("level", .text)]

def encode (s : LoggingSettings) : Datum := .record [("level", .text s.level)]

def decode (d : Datum) : Option LoggingSettings := do
  let fields ← d.fields?
  return ⟨← Datum.orElse fields "level" default.level Datum.text?⟩

end LoggingSettings

namespace ExportSettings

def schema : Schema :=
  .record "ExportConfig" [("root_env_var", .text), ("root_override", .optional .text),
    ("scene_subdir", .text), ("extension", .text), ("default_material", .text),
    ("block_order", .words (BlockOrder.all.map BlockOrder.word)),
    ("float_format", .words (NumberFormat.all.map NumberFormat.word))]

def encode (s : ExportSettings) : Datum :=
  .record [("root_env_var", .text s.rootVariable),
    ("root_override", .optional (s.rootOverride.map .text)),
    ("scene_subdir", .text s.directory),
    ("extension", .text s.extension),
    ("default_material", .text s.material),
    ("block_order", .word s.blockOrder.word),
    ("float_format", .word s.numberFormat.word)]

def decode (d : Datum) : Option ExportSettings := do
  let fields ← d.fields?
  return {
    rootVariable := ← Datum.orElse fields "root_env_var" default.rootVariable Datum.text?
    rootOverride := ← Datum.orElse fields "root_override" default.rootOverride
      (Datum.optional? Datum.text?)
    directory := ← Datum.orElse fields "scene_subdir" default.directory Datum.text?
    extension := ← Datum.orElse fields "extension" default.extension Datum.text?
    material := ← Datum.orElse fields "default_material" default.material Datum.text?
    blockOrder := ← Datum.orElse fields "block_order" default.blockOrder
      (Datum.word? BlockOrder.word BlockOrder.all)
    numberFormat := ← Datum.orElse fields "float_format" default.numberFormat
      (Datum.word? NumberFormat.word NumberFormat.all) }

end ExportSettings

namespace ConversionSettings

def schema : Schema :=
  .record "ConvertConfig" [("size_rule", .words (BoxSizeRule.all.map BoxSizeRule.word))]

def encode (s : ConversionSettings) : Datum := .record [("size_rule", .word s.sizeRule.word)]

def decode (d : Datum) : Option ConversionSettings := do
  let fields ← d.fields?
  return ⟨← Datum.orElse fields "size_rule" default.sizeRule
    (Datum.word? BoxSizeRule.word BoxSizeRule.all)⟩

end ConversionSettings

namespace Settings

/-- A file of settings holds one record for each part of them. -/
def schema : Schema :=
  .record "ToolsConfig" [("logging", LoggingSettings.schema), ("export", ExportSettings.schema),
    ("convert", ConversionSettings.schema)]

def encode (s : Settings) : Datum :=
  .record [("logging", s.logging.encode), ("export", s.exporting.encode),
    ("convert", s.conversion.encode)]

def decode (d : Datum) : Option Settings := do
  let fields ← d.fields?
  return {
    logging := ← Datum.orElse fields "logging" default.logging LoggingSettings.decode
    exporting := ← Datum.orElse fields "export" default.exporting ExportSettings.decode
    conversion := ← Datum.orElse fields "convert" default.conversion ConversionSettings.decode }

instance : Stored Settings := ⟨default, schema, encode, decode⟩

end Settings

end Scenery
