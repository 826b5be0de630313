import Depot.Number.Shortest
import Depot.Value.Basic
/-!
# JSON texts

The JSON text of a value has no blanks and the members in their order. Absent
members are left out, absent items are `null`, as are numbers that are not
finite and dates that do not exist; a secret is its mark.
-/
namespace Depot.Value

/-- The four hexadecimal digits of a code below `2 ^ 16`, lower case. -/
def hexQuad (n : Nat) : List Char :=
  let digit (k : Nat) := Nat.digitChar (n / Nat.pow 16 k % 16)
  [digit 3, digit 2, digit 1, digit 0]

/-- A character inside quotes: quotes, backslashes and control characters are escaped. -/
def quoteChar (c : Char) : List Char :=
  if c = '\x22' then ['\\', '\x22']
  else if c = '\\' then ['\\', '\\']
  else if c = '\x08' then ['\\', 'b']
  else if c = '\x0C' then ['\\', 'f']
  else if c = '\n' then ['\\', 'n']
  else if c = '\r' then ['\\', 'r']
  else if c = '\t' then ['\\', 't']
  else if c.toNat < 0x20 then '\\' :: 'u' :: hexQuad c.toNat
  else [c]

/-- A text in quotes. -/
def quote (s : String) : List Char :=
  '\x22' :: s.toList.flatMap quoteChar ++ ['\x22']

/-- The parts separated by commas. -/
def commas : List (List Char) → List Char
  | [] => []
  | [part] => part
  | part :: rest => part ++ ',' :: commas rest

mutual

/-- The characters of a value's JSON text; an absent value is written as an item. -/
def write : Value → List Char
  | .absent => "null".toList
  | .null => "null".toList
  | .bool b => if b then "true".toList else "false".toList
  | .number x => if x.isFinite then (Number.text x).toList else "null".toList
  | .text s => quote s
  | .moment (some t) => quote t.text
  | .moment none => "null".toList
  | .secret s => quote s.text
  | .list items => '[' :: commas (writeItems items) ++ [']']
  | .record fields => '\x7B' :: commas (writeFields fields) ++ ['\x7D']

def writeItems : List Value → List (List Char)
  | [] => []
  | v :: rest => write v :: writeItems rest

/-- The members that are present, each with its name in quotes. -/
def writeFields : List (String × Value) → List (List Char)
  | [] => []
  | (k, v) :: rest =>
    if v.isAbsent then writeFields rest
    else (quote k ++ ':' :: write v) :: writeFields rest

end

theorem write_record (fields : List (String × Value)) :
    (record fields).write = '\x7B' :: commas (writeFields fields) ++ ['\x7D'] := by
  rw [write]

theorem write_list (items : List Value) :
    (list items).write = '[' :: commas (writeItems items) ++ [']'] := by
  rw [write]

theorem writeFields_cons {v : Value} (present : v.isAbsent = false) (k : String)
    (rest : List (String × Value)) :
    writeFields ((k, v) :: rest) = (quote k ++ ':' :: v.write) :: writeFields rest := by
  simp [writeFields, present]

theorem writeFields_cons_absent {v : Value} (absent : v.isAbsent = true) (k : String)
    (rest : List (String × Value)) : writeFields ((k, v) :: rest) = writeFields rest := by
  simp [writeFields, absent]

/-- The JSON text of a value; the absent value has none. -/
def json? : Value → Option String
  | .absent => none
  | v => some (String.ofList (write v))

/-- The JSON text of a value, empty for the absent one. -/
def json (v : Value) : String := v.json?.getD ""

end Depot.Value
