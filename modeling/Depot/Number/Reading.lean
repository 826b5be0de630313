import Depot.Number.Exact
import Depot.Text.Blank
import Depot.Text.Digits
/-!
# Numbers in settings

The number at the front of a text: blanks, a sign and decimal digits are read,
and whatever follows the digits is ignored.
-/
namespace Depot.Number

/-- Splits off an optional sign: whether it is a minus, and what follows. -/
private def signed : List Char → Bool × List Char
  | '-' :: rest => (true, rest)
  | '+' :: rest => (false, rest)
  | rest => (false, rest)

/-- The integer at the front of a text, if the text begins with one. -/
def integerAtFront? (s : String) : Option Float :=
  let (negative, rest) := signed (Text.trimStart s.toList)
  match rest.takeWhile Char.isDigit with
  | [] => none
  | digits => some (ofDecimal negative (Text.digitsValue digits) 0)

end Depot.Number
