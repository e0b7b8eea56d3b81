/-!
# Words of scene scripts

The words that scene scripts give a meaning to, as they are written after the character that tells
the kind of the statement.
-/

namespace Scenery.Script.Keyword

/-- Object type of design blocks. -/
def designBlock : String := "dblock"

/-- Object type of cameras. -/
def camera : String := "camera"

/-- Command that completes a design block. -/
def commit : String := "dblock_commit"

/-- Attribute with the sizes of a shape. -/
def shape : String := "shape"

/-- Attribute with a position. -/
def position : String := "pos"

/-- Attribute with Euler angles in degrees. -/
def rotation : String := "rot"

/-- Attribute with the name of a material. -/
def material : String := "material"

end Scenery.Script.Keyword
