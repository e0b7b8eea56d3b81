import Scenery.Document.Basic
import Scenery.NumberFormat
import Scenery.Script.Keyword

/-!
# Writing documents

The text of a document, one statement a line and a blank line after each block.
-/

namespace Scenery

open Script

namespace Block

/-- The lines of a block, the blank one included. -/
def lines (f : NumberFormat) : Block Single → List String
  | design b =>
    ["@" ++ Keyword.designBlock ++ " " ++ b.name,
      "$" ++ Keyword.shape ++ " " ++ f.join b.shape.values,
      "$" ++ Keyword.position ++ " " ++ f.join b.position.toList,
      "$" ++ Keyword.rotation ++ " " ++ f.join b.rotation.toList,
      "$" ++ Keyword.material ++ " \"" ++ b.material ++ "\"",
      ":" ++ Keyword.commit,
      ""]
  | camera b =>
    ["@" ++ Keyword.camera ++ " " ++ b.name,
      "$" ++ Keyword.position ++ " " ++ f.join b.position.toList,
      "$" ++ Keyword.rotation ++ " " ++ f.join b.rotation.toList,
      ""]

end Block

namespace Document

/-- The text of a document. -/
def render (f : NumberFormat) (d : Document Single) : String :=
  String.join ((d.blocks.flatMap (Block.lines f)).map (· ++ "\n"))

end Document

end Scenery
