/-!
The lines of a text. A line ends with a line feed, and a carriage return right before it belongs to the
end; nothing after the last line feed is no line.
-/

namespace Harvest.Text

/-- A line whose characters come in reverse, without a carriage return at its end. -/
def closeLine : List Char → List Char
  | '\r' :: r => r.reverse
  | r => r.reverse

/-- The lines of a text, given the reversed characters of the current one. -/
def linesFrom (current : List Char) : List Char → List (List Char)
  | [] => if current.isEmpty then [] else [current.reverse]
  | '\n' :: rest => closeLine current :: linesFrom [] rest
  | c :: rest => linesFrom (c :: current) rest

def lines (text : String) : List String := (linesFrom [] text.toList).map String.ofList

end Harvest.Text
