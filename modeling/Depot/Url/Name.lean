import Depot.Text.Assigned
import Depot.Text.CaseFold
import Depot.Text.Direction
import Depot.Text.Joining
import Depot.Text.Normal
import Depot.Url.Punycode
/-!
# Names of hosts

A name is a row of labels between full stops. Names that a reader takes for the
same are the same: capitals, wide letters and other drawings of a character are
replaced, characters that are not shown are dropped, and the rest is put into its
composed form. A label beyond ASCII must begin with a letter, join its letters
only where the script does, and keep to one direction of writing; a label that is
written in punycode must stand for such a label in its only form.
-/
namespace Depot.Url.Name

/-- Keeps the letters before it and after it apart. -/
def nonJoiner : Char := '\u200C'

/-- Joins the letters before it and after it. -/
def joiner : Char := '\u200D'

/-- Characters that stay as they are, although comparisons replace or ignore them. -/
def keptCharacters : List Char := ['\u00DF', '\u03C2', nonJoiner, joiner]

/-- The full stops of other scripts. -/
def fullStops : List Char := ['\u3002', '\uFF0E', '\uFF61']

/-- The characters that names are written with but that do not count. -/
def ignoredTable : String := "
AD 34F 180B-180D 180F 200B 2060 2064 FE00-FE0F FEFF 1BCA0-1BCA3 E0100-E01EF"

def ignoredSpans : Array (Text.Span Unit) := Text.Span.table (fun _ => ()) ignoredTable

/-- The characters that have no place in a name: those that control how text is shown or are not
shown themselves, those for private use, and letters whose small letter or parts have changed. -/
def excludedTable : String := "
80-9F 4C0 600-605 61C 6DD 70F 890-891 8E2 10A0-10C5 115F-1160 1680 17B4-17B5 1806 180E 200E-200F
2028-202E 2061-2063 2066-206F 2132 2183 2FF0-2FFB 3164 D800-F8FF FDD0-FDEF FFA0 FFF9-FFFF 110BD
110CD 13430-1343F 1D173-1D17A 1FFFE-1FFFF 2F868 2F874 2F91F 2F95F 2F9BF 2FFFE-2FFFF E0001
E0020-E007F F0000-10FFFF"

def excludedSpans : Array (Text.Span Unit) := Text.Span.table (fun _ => ()) excludedTable

/-- The form in which a character is compared: composed, without case and without drawing. -/
def comparedForm (c : Char) : List Char :=
  Text.composed true ((Text.composed true [c]).flatMap Text.caseFold)

/-- What a character counts as in a name, if a name may hold it. A drawing of a full stop among
other characters is no full stop. -/
def counted? (c : Char) : Option (List Char) :=
  if c.toNat < 0x80 then some [c.toLower]
  else if keptCharacters.contains c then some [c]
  else if fullStops.contains c then some ['.']
  else if Text.Span.covers ignoredSpans c then some []
  else if Text.Span.covers excludedSpans c || !Text.isAssigned c then none
  else
    let form := comparedForm c
    if form.any fun d => d = '.' || fullStops.contains d then none else some form

/-- The form of a name that all names which count as the same have in common. -/
def plain? (cs : List Char) : Option (List Char) :=
  (cs.mapM counted?).map fun forms => Text.composed false forms.flatten

/-- Whether a character silences the vowel of the letter before it. -/
def isVirama (c : Char) : Bool := Text.combiningClass c = Text.virama && !Text.isRecent c

/-- Whether the first joiner of a label stands where the script has a use for it: after a mark that
silences a vowel, or, if it keeps letters apart, among letters that would be joined. -/
def joinsWell (label : List Char) : Bool :=
  let isJoiner (c : Char) : Bool := c = nonJoiner || c = joiner
  let front := label.takeWhile (!isJoiner ·)
  match label.dropWhile (!isJoiner ·) with
  | [] => true
  | c :: back =>
    front.getLast?.any isVirama ||
      (c = nonJoiner && front.any Text.joinsForward && back.any Text.joinsBackward)

/-- The directions that any label may hold. -/
def isNeutral (d : Text.Direction) : Bool :=
  [.europeanNumber, .europeanSeparator, .commonSeparator, .europeanTerminator, .neutral, .boundary,
    .mark].contains d

/-- Whether a label with a letter that is written from right to left keeps to one direction, which
its first character sets. What counts goes up to the last character that is no mark. From left to
right, that one may go either way and those before it may not; from right to left, it is a letter
or a number, and only one kind of numbers is there. -/
def keepsDirection (label : List Char) : Bool :=
  let directions := label.map Text.Direction.ofChar?
  let body := (directions.reverse.dropWhile (· = some .mark)).reverse
  if directions.head? = some (some .left) then
    body.dropLast.all (·.any fun d => d = .left || isNeutral d)
  else
    body.all (·.any fun d => d.isRightward || isNeutral d) &&
      !(body.contains (some .europeanNumber) && body.contains (some .arabicNumber)) &&
      body.getLast?.any (·.any fun d => d.isRightward || d = .europeanNumber)

/-- Whether a label beyond ASCII, in its plain form, may be part of a name. -/
def isLabel (label : List Char) : Bool :=
  match label with
  | [] => false
  | first :: _ =>
    !label.contains '.' && !(Text.isMark first && !Text.isRecent first) &&
      if label.any fun c => c = nonJoiner || c = joiner then joinsWell label
      else
        !label.any (fun c => (Text.Direction.ofChar? c).any (·.isRightward)) ||
          keepsDirection label

def isAscii (cs : List Char) : Bool := cs.all (·.toNat < 0x80)

/-- What marks a label that is written in punycode. -/
def encodedMark : List Char := "xn--".toList

/-- Whether a text in punycode stands for a label in its plain form. -/
def isEncoded (cs : List Char) : Bool :=
  match Punycode.decode? cs with
  | none => false
  | some label => plain? label = some label && isLabel label

/-- Whether a part of a plain name may stand between its full stops. -/
def isPart (part : List Char) : Bool :=
  if encodedMark.isPrefixOf part then isAscii part && isEncoded (part.drop encodedMark.length)
  else isAscii part || isLabel part

/-- The plain form of a name, if all its parts may stand in it and one of its characters counts. -/
def ofText? (cs : List Char) : Option (List Char) := do
  let name ← plain? cs
  if !name.isEmpty && (name.splitOn '.').all isPart then some name else none

end Depot.Url.Name
