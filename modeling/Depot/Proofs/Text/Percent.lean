import Depot.Text.Percent
/-!
# Reading percent encoding

The bytes that an encoded text stands for are those of the text itself, so that different texts are
encoded differently. An encoded text consists of characters that stand for themselves and of percent
signs.
-/
namespace Depot.Text.Percent

/-- What a hexadecimal digit stands for, in upper or lower case. -/
def hexValue (c : Char) : Nat :=
  if c.isDigit then c.toNat - '0'.toNat else c.toUpper.toNat - 'A'.toNat + 10

/-- The bytes that a text with percent signs stands for. -/
def bytes : List Char → List UInt8
  | [] => []
  | '%' :: a :: b :: rest => UInt8.ofNat (16 * hexValue a + hexValue b) :: bytes rest
  | c :: rest => String.utf8EncodeChar c ++ bytes rest

theorem hexValue_hexDigit : ∀ n < 16, hexValue (hexDigit n) = n := by decide

theorem isPlain_hexDigit : ∀ n < 16, isPlain (hexDigit n) = true := by decide

theorem bytes_encodeByte (b : UInt8) (rest : List Char) :
    bytes (encodeByte b ++ rest) = b :: bytes rest := by
  have high : b.toNat / 16 < 16 := by have := b.toNat_lt; omega
  have low : b.toNat % 16 < 16 := Nat.mod_lt _ (by decide)
  have whole : 16 * (b.toNat / 16) + b.toNat % 16 = b.toNat := Nat.div_add_mod ..
  rw [encodeByte, List.cons_append, List.cons_append, List.cons_append, List.nil_append, bytes,
    hexValue_hexDigit _ high, hexValue_hexDigit _ low, whole, UInt8.ofNat_toNat]

/-- A reading that takes a percent sign with two digits for their byte, and a plain character for
itself, takes an encoded text for the bytes of the text. -/
theorem read_encode {read : List Char → List UInt8} (empty : read [] = [])
    (byte : ∀ b rest, read (encodeByte b ++ rest) = b :: read rest)
    (plain : ∀ c rest, isPlain c = true → read (c :: rest) = String.utf8EncodeChar c ++ read rest)
    (s : String) : read (encode s).toList = s.toList.flatMap String.utf8EncodeChar := by
  have read_bytes (bs : List UInt8) (rest : List Char) :
      read (bs.flatMap encodeByte ++ rest) = bs ++ read rest := by
    induction bs with
    | nil => rfl
    | cons b bs ih => rw [List.flatMap_cons, List.append_assoc, byte, ih, List.cons_append]
  have read_char (c : Char) (rest : List Char) :
      read (encodeChar c ++ rest) = String.utf8EncodeChar c ++ read rest := by
    rw [encodeChar]
    split
    · rename_i h
      exact plain c rest h
    · exact read_bytes _ rest
  rw [encode, String.toList_ofList]
  induction s.toList with
  | nil => exact empty
  | cons c cs ih => rw [List.flatMap_cons, List.flatMap_cons, read_char, ih]

theorem ne_percent_of_isPlain {c : Char} (h : isPlain c = true) : c ≠ '%' := by
  rintro rfl
  revert h
  decide

/-- An encoded text stands for the bytes of the text. -/
theorem bytes_encode (s : String) :
    bytes (encode s).toList = s.toList.flatMap String.utf8EncodeChar := by
  refine read_encode rfl bytes_encodeByte (fun c rest plain => ?_) s
  rw [bytes]
  exact fun a b rest' h => absurd h (ne_percent_of_isPlain plain)

theorem encode_injective {s t : String} (h : encode s = encode t) : s = t := by
  have bytes : s.toList.flatMap String.utf8EncodeChar = t.toList.flatMap String.utf8EncodeChar := by
    rw [← bytes_encode, ← bytes_encode, h]
  have encoded : s.toList.utf8Encode = t.toList.utf8Encode := congrArg List.toByteArray bytes
  rw [String.utf8Encode_toList, String.utf8Encode_toList] at encoded
  exact String.toByteArray_inj.mp encoded

theorem isPlain_or_percent_of_mem {s : String} {c : Char} (h : c ∈ (encode s).toList) :
    isPlain c = true ∨ c = '%' := by
  rw [encode, String.toList_ofList] at h
  obtain ⟨x, -, h⟩ := List.mem_flatMap.mp h
  rw [encodeChar] at h
  split at h
  · rename_i plain
    rw [List.mem_singleton.mp h]
    exact .inl plain
  · obtain ⟨b, -, h⟩ := List.mem_flatMap.mp h
    have high : b.toNat / 16 < 16 := by have := b.toNat_lt; omega
    have low : b.toNat % 16 < 16 := Nat.mod_lt _ (by decide)
    simp only [encodeByte, List.mem_cons, List.not_mem_nil, or_false] at h
    obtain rfl | rfl | rfl := h
    · exact .inr rfl
    · exact .inl (isPlain_hexDigit _ high)
    · exact .inl (isPlain_hexDigit _ low)

theorem notMem_encode {c : Char} (special : isPlain c = false) (other : c ≠ '%') (s : String) :
    c ∉ (encode s).toList := by
  intro h
  rcases isPlain_or_percent_of_mem h with plain | percent
  · rw [special] at plain
    cases plain
  · exact other percent

end Depot.Text.Percent
