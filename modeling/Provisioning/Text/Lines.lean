/-!
The lines of a text.
-/

namespace Provisioning.Text

def withoutReturn (line : List Char) : List Char :=
  if line.getLast? = some '\r' then line.dropLast else line

/-- A line ends with a line feed, and the last one may do without. -/
def lines (text : String) : List String :=
  let pieces := text.splitOn "\n"
  let pieces := if pieces.getLast? = some "" then pieces.dropLast else pieces
  pieces.map fun piece => String.ofList (withoutReturn piece.toList)

end Provisioning.Text
