import Mathlib.Algebra.Order.Floor.Div
import Depot.Drive.Chunks
/-!
# Chunks make up their content

Chunks of one size are as long as they should be, and put together again they are the
content, also where a character of a text ends up in two of them.
-/
namespace Depot.Chunks
variable {content : ByteArray} {size i : Nat}

def join (chunks : List ByteArray) : ByteArray := chunks.foldl (· ++ ·) ByteArray.empty

theorem join_append_singleton (chunks : List ByteArray) (b : ByteArray) :
    join (chunks ++ [b]) = join chunks ++ b := by
  simp [join]

theorem size_chunk (content : ByteArray) (size i : Nat) :
    (chunk content size i).size = min ((i + 1) * size) content.size - i * size := by
  rw [chunk, ByteArray.size_extract, Nat.min_eq_left (Nat.min_le_right ..)]

theorem count_eq (length size : Nat) : count length size = length ⌈/⌉ size := by
  rw [Nat.ceilDiv_eq_add_pred_div, count]

theorem lt_count_iff (h : 0 < size) (length : Nat) : i < count length size ↔ i * size < length := by
  have := ceilDiv_le_iff_le_mul h (b := length) (c := i)
  rw [← count_eq] at this
  rw [← Nat.not_le, this, Nat.not_le, Nat.mul_comm]

theorem size_chunk_pos (h : 0 < size) (hi : i < count content.size size) :
    0 < (chunk content size i).size := by
  have start := (lt_count_iff h content.size).mp hi
  rw [size_chunk, Nat.add_mul, Nat.one_mul]
  omega

theorem size_chunk_le (content : ByteArray) (size i : Nat) :
    (chunk content size i).size ≤ size := by
  rw [size_chunk, Nat.add_mul, Nat.one_mul]
  omega

/-- Every chunk that another one follows is full. -/
theorem size_chunk_eq (h : 0 < size) (hi : i + 1 < count content.size size) :
    (chunk content size i).size = size := by
  have start := (lt_count_iff h content.size).mp hi
  rw [size_chunk, Nat.min_eq_left (Nat.le_of_lt start), Nat.add_mul, Nat.one_mul]
  omega

/-- The first chunks, put together, are the front of the content. -/
theorem join_chunks (content : ByteArray) (size k : Nat) :
    join ((List.range k).map (chunk content size)) =
      content.extract 0 (min (k * size) content.size) := by
  induction k with
  | zero =>
    rw [Nat.zero_mul, Nat.zero_min, ByteArray.extract_same]
    rfl
  | succ k ih =>
    rw [List.range_succ, List.map_append, List.map_singleton, join_append_singleton, ih, chunk]
    by_cases inside : k * size ≤ content.size
    · rw [Nat.min_eq_left inside, ByteArray.extract_append_extract, Nat.zero_min, Nat.max_eq_right]
      rw [Nat.add_mul]
      omega
    · have past : content.extract (k * size) (min ((k + 1) * size) content.size) =
          ByteArray.empty := by
        rw [ByteArray.extract_eq_empty_iff]
        omega
      rw [past, ByteArray.append_empty, Nat.add_mul, Nat.min_eq_right, Nat.min_eq_right] <;> omega

theorem join_split (h : 0 < size) (content : ByteArray) : join (split content size) = content := by
  have all : content.size ≤ count content.size size * size := by
    rw [← Nat.not_lt, ← lt_count_iff h]
    exact Nat.lt_irrefl _
  rw [split, join_chunks, Nat.min_eq_right all, ByteArray.extract_zero_size]

end Depot.Chunks
