import Depot.Failure.Precondition
import Depot.Number.Exact
/-!
# Chunks

Content is split into consecutive chunks of one size; the last one holds what is
left.
-/
namespace Depot.Chunks

/-- The number of chunks of `size` bytes that `length` bytes take. -/
def count (length size : Nat) : Nat := (length + size - 1) / size

/-- Chunk `i` of the content, counted from zero. -/
def chunk (content : ByteArray) (size i : Nat) : ByteArray :=
  content.extract (i * size) (min ((i + 1) * size) content.size)

def split (content : ByteArray) (size : Nat) : List ByteArray :=
  (List.range (count content.size size)).map (chunk content size)

/-- The places below `length` that are a multiple of `size` away from `start`, at most `budget`. -/
def places (size length : Float) : (budget : Nat) → (start : Float) → List Float
  | 0, _ => []
  | budget + 1, start =>
    if start < length then start :: places size length budget (start + size) else []

/-- The whole bytes in front of a place. -/
def bytesBefore (place : Float) : Nat := (Number.truncate? place).elim 0 Int.toNat

/-- Splits content at the multiples of a size that need not be a natural number, rounded down. -/
def splitUnevenly (content : ByteArray) (size : Float) : List ByteArray :=
  let length := Float.ofNat content.size
  let budget := bytesBefore (length / size) + 2
  (places size length budget 0.0).map fun start =>
    content.extract (bytesBefore start) (bytesBefore (Number.minimum (start + size) length))

/-- Splits content into chunks of a size that has to be positive. -/
def splitChecked (content : ByteArray) (size : Float) : Outcome (List ByteArray) :=
  if size ≤ 0.0 then .error Precondition.chunkSizePositive.failure
  else
    match Number.natural? size with
    | some n => .ok (split content n)
    | none => .ok (splitUnevenly content size)

end Depot.Chunks
