import Depot.Text.Digits
/-!
# Spans of code points

A property of characters is kept as a table: a text of words between blanks, in
ascending order of code points. The word `61-7A` stands for the code points from
the first number to the last, `AA` for a single one; what follows an equals sign
is the value that a span has. A span is found by halving the table.
-/
namespace Depot.Text

/-- The code points from `first` to `last`, and the value that belongs to them. -/
structure Span (α : Type) where
  first : Nat
  last : Nat
  value : α

/-- The number that hexadecimal digits stand for. -/
def hexNumber (s : String) : Nat :=
  s.foldl (fun n c => 16 * n + (hexValue? c).getD 0) 0

/-- The characters that are written as code points with full stops between them. -/
def charsOfCodes (s : String) : List Char :=
  if s.isEmpty then [] else (s.splitOn ".").map (Char.ofNat ∘ hexNumber)

/-- The characters of a list, the last one moved on by a number of code points. -/
def moveLast (count : Nat) (cs : List Char) : List Char :=
  match cs.getLast? with
  | none => []
  | some c => cs.dropLast ++ [Char.ofNat (c.toNat + count)]

/-- The words of a table. -/
def tableWords (table : String) : List String :=
  (table.splitToList Char.isWhitespace).filter (!·.isEmpty)

namespace Span

/-- The span that a word stands for; `value` reads what follows the equals sign. -/
def ofWord (value : String → α) (word : String) : Span α :=
  let parts := word.splitOn "="
  let bounds := (parts.headD "").splitOn "-"
  let first := hexNumber (bounds.headD "")
  { first := first
    last := (bounds[1]?.map hexNumber).getD first
    value := value (parts.getD 1 "") }

/-- The spans of a table. -/
def table (value : String → α) (text : String) : Array (Span α) :=
  ((tableWords text).map (ofWord value)).toArray

/-- The span that covers a code point, among those at the places from `low` up to `high`. -/
def findBetween? (spans : Array (Span α)) (code low high : Nat) : Option (Span α) :=
  if _ : low < high then
    match spans[(low + high) / 2]? with
    | none => none
    | some span =>
      if code < span.first then findBetween? spans code low ((low + high) / 2)
      else if span.last < code then findBetween? spans code ((low + high) / 2 + 1) high
      else some span
  else none
termination_by high - low

/-- The span of an ascending table that covers a code point. -/
def find? (spans : Array (Span α)) (code : Nat) : Option (Span α) :=
  findBetween? spans code 0 spans.size

/-- Whether a table has a span for a character. -/
def covers (spans : Array (Span α)) (c : Char) : Bool :=
  (find? spans c.toNat).isSome

theorem bounds_of_findBetween? {spans : Array (Span α)} {code low high : Nat} {span : Span α}
    (h : findBetween? spans code low high = some span) :
    span.first ≤ code ∧ code ≤ span.last := by
  fun_induction findBetween? spans code low high with
  | case1 => simp at h
  | case2 low high _ s _ _ ih => exact ih h
  | case3 low high _ s _ _ _ ih => exact ih h
  | case4 low high _ s _ h₁ h₂ =>
    obtain rfl := Option.some.inj h
    exact ⟨Nat.le_of_not_lt h₁, Nat.le_of_not_lt h₂⟩
  | case5 => simp at h

end Span

end Depot.Text
