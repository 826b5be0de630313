/-!
# Reading UTF-8

Bytes are read as UTF-8. Each maximal run that begins a character but does not
complete it, and each byte that begins none, becomes one replacement character;
one byte order mark in front is dropped.
-/
namespace Depot.Text.Utf8

/-- What a leading byte announces: bytes to follow, its own bits, the range of the next byte. -/
structure Lead where
  needed : Nat
  bits : Nat
  low : Nat
  high : Nat

def lead? (b : Nat) : Option Lead :=
  if 0xC2 ≤ b ∧ b ≤ 0xDF then some ⟨1, b - 0xC0, 0x80, 0xBF⟩
  else if b = 0xE0 then some ⟨2, 0, 0xA0, 0xBF⟩
  else if b = 0xED then some ⟨2, 0xD, 0x80, 0x9F⟩
  else if 0xE1 ≤ b ∧ b ≤ 0xEF then some ⟨2, b - 0xE0, 0x80, 0xBF⟩
  else if b = 0xF0 then some ⟨3, 0, 0x90, 0xBF⟩
  else if b = 0xF4 then some ⟨3, 4, 0x80, 0x8F⟩
  else if 0xF1 ≤ b ∧ b ≤ 0xF3 then some ⟨3, b - 0xF0, 0x80, 0xBF⟩
  else none

/-- Reads the `needed` bytes after a leading byte; stops in front of one that does not belong. -/
def follow (bits low high : Nat) : Nat → List UInt8 → Option Nat × List UInt8
  | 0, rest => (some bits, rest)
  | _ + 1, [] => (none, [])
  | needed + 1, b :: rest =>
    if low ≤ b.toNat ∧ b.toNat ≤ high then
      follow (bits * 64 + (b.toNat - 0x80)) 0x80 0xBF needed rest
    else (none, b :: rest)

theorem length_follow_le (bits low high needed : Nat) (bytes : List UInt8) :
    (follow bits low high needed bytes).2.length ≤ bytes.length := by
  induction needed generalizing bits low high bytes with
  | zero => simp [follow]
  | succ needed ih =>
    cases bytes with
    | nil => simp [follow]
    | cons b rest =>
      simp only [follow]
      split
      · exact Nat.le_succ_of_le (ih ..)
      · exact Nat.le_refl _

/-- Stands for bytes that are no character. -/
def replacement : Char := '\uFFFD'

def decodeList : List UInt8 → List Char
  | [] => []
  | b :: rest =>
    if b.toNat < 0x80 then Char.ofNat b.toNat :: decodeList rest
    else
      match lead? b.toNat with
      | none => replacement :: decodeList rest
      | some l =>
        let r := follow l.bits l.low l.high l.needed rest
        (r.1.map Char.ofNat).getD replacement :: decodeList r.2
termination_by bytes => bytes.length
decreasing_by
  · simp
  · simp
  · simpa using Nat.lt_succ_of_le (length_follow_le ..)

/-- Drops one byte order mark. -/
def dropMark : List UInt8 → List UInt8
  | 0xEF :: 0xBB :: 0xBF :: rest => rest
  | bytes => bytes

def decode (bytes : ByteArray) : String :=
  String.ofList (decodeList (dropMark bytes.data.toList))

end Depot.Text.Utf8
