/-!
# Lines

A newline ends a line, and a carriage return directly before it belongs to the line end.  Text after
the last newline is a line of its own if there is any.
-/

namespace Scenery.Text

/-- The lines of a text, without their line ends. -/
def lines : List Char → List (List Char)
  | [] => []
  | '\n' :: rest => [] :: lines rest
  | '\r' :: '\n' :: rest => [] :: lines rest
  | c :: rest =>
    match lines rest with
    | [] => [[c]]
    | l :: ls => (c :: l) :: ls

end Scenery.Text
