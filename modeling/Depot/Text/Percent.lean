/-!
# Percent encoding

The letters, the digits and `- _ . ! ~ * ' ( )` stand for themselves. Of every
other character each byte of its UTF-8 form is written `%` and two upper-case
hexadecimal digits.
-/
namespace Depot.Text.Percent

/-- The marks that need no encoding. -/
def plainMarks : List Char := ['-', '_', '.', '!', '~', '*', '\x27', '(', ')']

def isPlain (c : Char) : Bool := c.isAlphanum || plainMarks.contains c

/-- A hexadecimal digit, upper case. -/
def hexDigit (n : Nat) : Char :=
  if n < 10 then Char.ofNat ('0'.toNat + n) else Char.ofNat ('A'.toNat + (n - 10))

def encodeByte (b : UInt8) : List Char :=
  ['%', hexDigit (b.toNat / 16), hexDigit (b.toNat % 16)]

def encodeChar (c : Char) : List Char :=
  if isPlain c then [c] else (String.utf8EncodeChar c).flatMap encodeByte

def encode (s : String) : String :=
  String.ofList (s.toList.flatMap encodeChar)

end Depot.Text.Percent
