import Depot.Proofs.Number.Text
import Depot.Value.Json
import Depot.Value.Parsing
/-!
# Reading what was written

The JSON text of a value can be read, whatever the value holds: no character of a text within it ends
that text, and nothing in it is a control character.
-/
namespace Depot.Value
open Number

/-- Whether there is no control character among these characters, so that they stay on their line. -/
def ControlFree (cs : List Char) : Prop := ∀ c ∈ cs, 0x20 ≤ c.toNat

namespace ControlFree
variable {cs ds : List Char}

theorem cons {c : Char} (visible : 0x20 ≤ c.toNat) (hc : ControlFree cs) : ControlFree (c :: cs) :=
  List.forall_mem_cons.mpr ⟨visible, hc⟩

theorem append (hc : ControlFree cs) (hd : ControlFree ds) : ControlFree (cs ++ ds) :=
  List.forall_mem_append.mpr ⟨hc, hd⟩

theorem of_digits (digits : AreDigits ds) : ControlFree ds := by
  intro c mem
  have digit := digits c mem
  simp only [Char.isDigit, Bool.and_eq_true, decide_eq_true_eq, ge_iff_le,
    UInt32.le_iff_toNat_le] at digit
  exact Nat.le_trans (by decide) digit.1

/-- Parts between commas. -/
theorem commas {parts : List (List Char)} (each : ∀ part ∈ parts, ControlFree part) :
    ControlFree (commas parts) := by
  induction parts with
  | nil => exact fun _ mem => absurd mem List.not_mem_nil
  | cons part parts ih =>
    obtain ⟨first, others⟩ := List.forall_mem_cons.mp each
    cases parts with
    | nil => exact first
    | cons next parts => exact first.append (.cons (by decide) (ih others))

end ControlFree

/-- What may stand behind a value in a JSON text. -/
def EndsValue (rest : List Char) : Prop := ∀ c ∈ rest.head?, c = ',' ∨ c = ']' ∨ c = '\x7D'

theorem EndsValue.isDigit_eq_false {rest : List Char} (ends : EndsValue rest) :
    ∀ c ∈ rest.head?, c.isDigit = false := by
  intro c first
  rcases ends c first with rfl | rfl | rfl <;> rfl

/-! ## Numbers -/

theorem digitsValue_toDigits (n : Nat) : Text.digitsValue (Nat.toDigits 10 n) = n := by
  have same := Nat.ofDigitChars_ten_toDigits (n := n)
  rw [Nat.ofDigitChars_eq_foldl] at same
  exact same

theorem splitDigits_append {ds rest : List Char} (digits : AreDigits ds)
    (stop : ∀ c ∈ rest.head?, c.isDigit = false) : splitDigits (ds ++ rest) = (ds, rest) := by
  rw [splitDigits, List.takeWhile_append_of_pos digits, List.dropWhile_append_of_pos digits]
  cases rest with
  | nil => simp
  | cons c cs =>
    have other : c.isDigit = false := stop c rfl
    simp [other]

/-- The double nearest to a numeral. -/
def numeralValue (n : Numeral) : Float :=
  Number.ofDecimal n.negative (Text.digitsValue (n.whole ++ n.fraction))
    (n.exponent.getD 0 - n.fraction.length)

theorem readFraction_append (n : Numeral) {rest : List Char}
    (stop : ∀ c ∈ rest.head?, c.isDigit = false ∧ c ≠ '.') :
    readFraction (n.fractionText ++ rest) = some (n.fraction, rest) := by
  unfold Numeral.fractionText
  split
  case isTrue empty =>
    rw [List.nil_append, empty]
    unfold readFraction
    split
    case h_1 => exact absurd rfl (stop '.' rfl).2
    case h_2 => rfl
  case isFalse some_digit =>
    rw [List.cons_append, readFraction,
      splitDigits_append n.fraction_digits fun c first => (stop c first).1]
    cases fraction : n.fraction with
    | nil => exact absurd fraction some_digit
    | cons => rfl

theorem readExponent_digits {ds rest : List Char} (digits : AreDigits ds) (ne_nil : ds ≠ [])
    (ends : EndsValue rest) :
    readExponent ('e' :: '+' :: (ds ++ rest)) = some ((Text.digitsValue ds : Int), rest) ∧
      readExponent ('e' :: '-' :: (ds ++ rest)) = some (-(Text.digitsValue ds : Int), rest) := by
  have cut := splitDigits_append digits ends.isDigit_eq_false
  cases ds with
  | nil => exact absurd rfl ne_nil
  | cons d ds => constructor <;> simp only [readExponent, readSign, cut] <;> rfl

theorem readExponent_append (n : Numeral) {rest : List Char} (ends : EndsValue rest) :
    readExponent (n.exponentText ++ rest) = some (n.exponent.getD 0, rest) := by
  unfold Numeral.exponentText
  cases n.exponent with
  | none =>
    cases rest with
    | nil => rfl
    | cons c cs => rcases ends c rfl with rfl | rfl | rfl <;> rfl
  | some e =>
    obtain ⟨plus, minus⟩ := readExponent_digits (.toDigits e.natAbs) Nat.toDigits_ne_nil ends
    rw [digitsValue_toDigits] at plus minus
    by_cases below : e < 0
    · have same : -(e.natAbs : Int) = e := by omega
      simp only [below, if_true, List.cons_append, minus, same]
      rfl
    · have same : (e.natAbs : Int) = e := by omega
      simp only [below, if_false, List.cons_append, plus, same]
      rfl

/-- A numeral without its sign begins with a digit. -/
theorem exists_body_eq_cons (n : Numeral) : ∃ d cs, n.body = d :: cs ∧ d.isDigit = true := by
  cases whole : n.whole with
  | nil => exact absurd whole n.ne_nil
  | cons d ds =>
    refine ⟨d, ds ++ (n.fractionText ++ n.exponentText), by rw [Numeral.body, whole]; rfl, ?_⟩
    exact n.whole_digits d (whole ▸ List.mem_cons_self ..)

theorem controlFree_numeral (n : Numeral) : ControlFree n.toList := by
  have whole := ControlFree.of_digits n.whole_digits
  have fraction := ControlFree.of_digits n.fraction_digits
  have fraction_text : ControlFree n.fractionText := by
    unfold Numeral.fractionText
    split
    · exact .of_digits .nil
    · exact fraction.cons (by decide)
  have exponent_text : ControlFree n.exponentText := by
    unfold Numeral.exponentText
    split
    · exact .of_digits .nil
    · have digits := fun e : Int => ControlFree.of_digits (.toDigits e.natAbs)
      split
      all_goals exact ((digits _).cons (by decide)).cons (by decide)
  have body : ControlFree n.body := whole.append (fraction_text.append exponent_text)
  unfold Numeral.toList
  split
  · exact body.cons (by decide)
  · exact body

/-- A numeral is read to its end. -/
theorem readNumber_append (n : Numeral) {rest : List Char} (ends : EndsValue rest) :
    readNumber (n.toList ++ rest) = some (numeralValue n, rest) := by
  -- neither part goes on in what is behind it
  have behind_fraction : ∀ c ∈ (n.exponentText ++ rest).head?, c.isDigit = false ∧ c ≠ '.' := by
    unfold Numeral.exponentText
    split
    · intro c first
      rcases ends c first with rfl | rfl | rfl <;> decide
    · rintro c ⟨⟩
      decide
  have behind_whole : ∀ c ∈ (n.fractionText ++ (n.exponentText ++ rest)).head?,
      c.isDigit = false := by
    unfold Numeral.fractionText
    split
    · exact fun c first => (behind_fraction c first).1
    · rintro c ⟨⟩
      rfl
  have cut : splitDigits (n.body ++ rest) = (n.whole, n.fractionText ++ (n.exponentText ++ rest)) := by
    rw [Numeral.body, List.append_assoc, List.append_assoc]
    exact splitDigits_append n.whole_digits behind_whole
  have proper : ¬ (n.whole = [] ∨ (n.whole.head? = some '0' ∧ n.whole.length > 1)) := by
    rintro (empty | ⟨zero, longer⟩)
    · exact n.ne_nil empty
    · exact absurd (n.front zero) (Nat.ne_of_gt longer)
  have fraction := readFraction_append n behind_fraction
  have exponent := readExponent_append n ends
  unfold readNumber Numeral.toList
  cases sign : n.negative with
  | true => simp [cut, proper, fraction, exponent, numeralValue, sign]
  | false =>
    obtain ⟨d, cs, body, digit⟩ := exists_body_eq_cons n
    have other : d ≠ '-' := by
      rintro rfl
      cases digit
    rw [body, List.cons_append] at cut
    rw [body]
    dsimp only [bind, pure]
    split
    case h_1 same => exact absurd (List.cons.inj same).1 other
    case h_2 => simp [cut, proper, fraction, exponent, numeralValue, sign]

/-! ## Texts -/

/-- What stands for a character: an escape of one letter, its code, or the character itself. -/
theorem quoteChar_cases (c : Char) :
    (∃ d, quoteChar c = ['\\', d] ∧ escape? d = some c.toNat) ∨
    (c.toNat < 0x20 ∧ quoteChar c = '\\' :: 'u' :: hexQuad c.toNat) ∨
    (c ≠ '\x22' ∧ c ≠ '\\' ∧ 0x20 ≤ c.toNat ∧ quoteChar c = [c]) := by
  unfold quoteChar
  split
  case isTrue => subst c; exact .inl ⟨_, rfl, rfl⟩
  case isFalse quote =>
    split
    case isTrue => subst c; exact .inl ⟨_, rfl, rfl⟩
    case isFalse slash =>
      iterate 5
        split
        · subst c; exact .inl ⟨_, rfl, rfl⟩
      split
      case isTrue control => exact .inr (.inl ⟨control, rfl⟩)
      case isFalse visible => exact .inr (.inr ⟨quote, slash, Nat.le_of_not_lt visible, rfl⟩)

theorem exists_hexQuad_eq : ∀ n < 0x20, ∃ a b c d, hexQuad n = [a, b, c, d] ∧
    hexQuad? a b c d = some n := by
  intro n small
  refine ⟨_, _, _, _, rfl, ?_⟩
  revert n
  decide

theorem visible_of_escape? {d : Char} {n : Nat} (known : escape? d = some n) : 0x20 ≤ d.toNat := by
  unfold escape? at known
  split at known
  case isTrue same => rcases same with rfl | rfl | rfl <;> decide
  case isFalse =>
    iterate 5
      split at known
      · subst d; decide
    cases known

theorem controlFree_hexQuad (n : Nat) : ControlFree (hexQuad n) := by
  have visible : ∀ k < 16, 0x20 ≤ (Nat.digitChar k).toNat := by decide
  intro c mem
  simp only [hexQuad, List.mem_cons, List.not_mem_nil, or_false] at mem
  rcases mem with rfl | rfl | rfl | rfl <;> exact visible _ (Nat.mod_lt _ (by decide))

theorem controlFree_quote (s : String) : ControlFree (quote s) := by
  have each (c : Char) : ControlFree (quoteChar c) := by
    rcases quoteChar_cases c with ⟨d, written, known⟩ | ⟨control, written⟩ |
      ⟨-, -, visible, written⟩ <;> rw [written]
    · exact .cons (by decide) (List.forall_mem_singleton.mpr (visible_of_escape? known))
    · exact .cons (by decide) (.cons (by decide) (controlFree_hexQuad c.toNat))
    · exact List.forall_mem_singleton.mpr visible
  have inside : ControlFree (s.toList.flatMap quoteChar) := by
    intro c mem
    obtain ⟨c', -, mem⟩ := List.mem_flatMap.mp mem
    exact each c' c mem
  exact .append (inside.cons (by decide)) (List.forall_mem_singleton.mpr (by decide))

/-- Whatever stands for a character is read as its code. -/
theorem readCodes_quoteChar (c : Char) (rest : List Char) :
    readCodes (quoteChar c ++ rest) =
      (readCodes rest).bind fun x => some (c.toNat :: x.1, x.2) := by
  rcases quoteChar_cases c with ⟨d, written, known⟩ | ⟨control, written⟩ |
    ⟨quote, slash, visible, written⟩
  · have other : d ≠ 'u' := by
      rintro rfl
      cases known
    simp [written, readCodes, other, known]
  · obtain ⟨a, b, c', d, digits, read⟩ := exists_hexQuad_eq c.toNat control
    simp [written, digits, readCodes, read]
  · have visible : ¬ c.toNat < 0x20 := Nat.not_lt.mpr visible
    simp [written, readCodes, slash, visible]

theorem joinPairs_map (cs : List Char) : joinPairs (cs.map Char.toNat) = cs := by
  have whole (c : Char) : ¬ (0xD800 ≤ c.toNat ∧ c.toNat < 0xE000) := by
    intro half
    rcases c.valid with below | above
    · exact absurd half.1 (Nat.not_le.mpr below)
    · exact absurd half.2 (Nat.not_lt.mpr above.1)
  induction cs with
  | nil => rfl
  | cons c cs ih =>
    cases cs with
    | nil => simp [joinPairs, whole]
    | cons d cs =>
      have alone : ¬ (0xD800 ≤ c.toNat ∧ c.toNat < 0xDC00 ∧ 0xDC00 ≤ d.toNat ∧
          d.toNat < 0xE000) := by
        have := whole c
        omega
      rw [List.map_cons] at ih
      rw [List.map_cons, List.map_cons, joinPairs, if_neg alone, if_neg (whole c), ih,
        Char.ofNat_toNat]

/-- A text is read up to its closing quote. -/
theorem readText_append (s : String) (rest : List Char) :
    readText (s.toList.flatMap quoteChar ++ '\x22' :: rest) = some (s, rest) := by
  have codes (cs : List Char) :
      readCodes (cs.flatMap quoteChar ++ '\x22' :: rest) = some (cs.map Char.toNat, rest) := by
    induction cs with
    | nil => rfl
    | cons c cs ih =>
      rw [List.flatMap_cons, List.append_assoc, readCodes_quoteChar, ih]
      rfl
  rw [readText, codes, Option.map_some]
  simp only [joinPairs_map, String.ofList_toList]

/-! ## Values -/

/-- Whether these characters begin with one that a value can begin with. -/
def BeginsValue (cs : List Char) : Prop :=
  ∃ c rest, cs = c :: rest ∧ c ∉ [' ', '\t', '\n', '\r', ']']

theorem BeginsValue.append {cs : List Char} (begins : BeginsValue cs) (rest : List Char) :
    BeginsValue (cs ++ rest) := by
  obtain ⟨c, cs, rfl, other⟩ := begins
  exact ⟨c, cs ++ rest, rfl, other⟩

theorem BeginsValue.skipSpace_eq {cs : List Char} (begins : BeginsValue cs) : skipSpace cs = cs := by
  obtain ⟨c, cs, rfl, other⟩ := begins
  refine List.dropWhile_cons_of_neg ?_
  rw [decide_eq_true_iff]
  rintro (rfl | rfl | rfl | rfl) <;> exact other (by decide)

/-- Whether these characters, none of them a control character, are read as a value within as many
steps as there are characters. -/
structure Spells (cs : List Char) (v : Value) : Prop where
  begins : BeginsValue cs
  plain : ControlFree cs
  read : ∀ steps rest, cs.length ≤ steps → EndsValue rest →
    readValue steps (cs ++ rest) = some (v, rest)

theorem Spells.of_succ {cs : List Char} {v : Value} (begins : BeginsValue cs)
    (plain : ControlFree cs) (read : ∀ {steps rest}, cs.length ≤ steps + 1 → EndsValue rest →
      readValue (steps + 1) (cs ++ rest) = some (v, rest)) : Spells cs v where
  begins := begins
  plain := plain
  read steps rest enough ends := by
    obtain ⟨c, cs, rfl, -⟩ := begins
    cases steps with
    | zero => exact absurd enough (Nat.not_succ_le_zero _)
    | succ steps => exact read enough ends

theorem spells_null : Spells "null".toList .null :=
  .of_succ ⟨'n', _, rfl, by decide⟩ (by simp [ControlFree]) fun _ _ => rfl

theorem spells_bool (b : Bool) : Spells (if b then "true".toList else "false".toList) (.bool b) := by
  cases b with
  | true => exact .of_succ ⟨'t', _, rfl, by decide⟩ (by simp [ControlFree]) fun _ _ => rfl
  | false => exact .of_succ ⟨'f', _, rfl, by decide⟩ (by simp [ControlFree]) fun _ _ => rfl

theorem spells_quote (s : String) : Spells (quote s) (.text s) := by
  refine .of_succ ⟨'\x22', _, rfl, by decide⟩ (controlFree_quote s) fun {steps rest} _ _ => ?_
  have text := readText_append s rest
  simp [quote, readValue, skipSpace, text]

theorem spells_text (s : String) : Spells (text s).write (.text s) := by
  rw [write]
  exact spells_quote s

theorem spells_numeral (n : Numeral) : Spells n.toList (.number (numeralValue n)) := by
  obtain ⟨c, cs, text, first⟩ : ∃ c cs, n.toList = c :: cs ∧ (c.isDigit = true ∨ c = '-') := by
    obtain ⟨d, ds, body, digit⟩ := exists_body_eq_cons n
    unfold Numeral.toList
    split
    · exact ⟨'-', n.body, rfl, .inr rfl⟩
    · exact ⟨d, ds, body, .inl digit⟩
  have begins : BeginsValue n.toList := by
    refine ⟨c, cs, text, fun other => ?_⟩
    simp only [List.mem_cons, List.not_mem_nil, or_false] at other
    rcases other with rfl | rfl | rfl | rfl | rfl <;> exact absurd first (by decide)
  refine .of_succ begins (controlFree_numeral n) fun {steps rest} _ ends => ?_
  have number := readNumber_append n ends
  rw [readValue, (begins.append rest).skipSpace_eq]
  rw [text] at number ⊢
  split
  case h_7 =>
    rw [number]
    rfl
  all_goals
    rename_i same
    obtain ⟨rfl, -⟩ := List.cons.inj same
    exact absurd first (by decide)

/-! ## Lists and records -/

section Parts
variable {parts : List (List Char)}

theorem commas_cons_cons (part next : List Char) (parts : List (List Char)) :
    commas (part :: next :: parts) = part ++ ',' :: commas (next :: parts) := rfl

theorem BeginsValue.commas {part : List Char} (begins : BeginsValue part)
    (parts : List (List Char)) : BeginsValue (commas (part :: parts)) := by
  cases parts with
  | nil => exact begins
  | cons next parts => exact begins.append _

/-- Values between commas are read as the items of a list. Every part leaves a step for each of its
characters and one for the comma, so the rest has as many as it needs. -/
theorem readItems_append {vs : List Value} (each : List.Forall₂ Spells parts vs)
    (some_part : parts ≠ []) (steps : Nat) (enough : (commas parts).length < steps)
    (rest : List Char) : readItems steps (commas parts ++ ']' :: rest) = some (vs, rest) := by
  induction each generalizing steps with
  | nil => exact absurd rfl some_part
  | @cons part v parts vs first others ih =>
    cases steps with
    | zero => exact absurd enough (Nat.not_lt_zero _)
    | succ steps =>
      cases parts with
      | nil =>
        cases others
        have read := first.read steps (']' :: rest) (Nat.le_of_lt_succ enough) (by simp [EndsValue])
        rw [commas, readItems, read]
        rfl
      | cons next parts =>
        rw [commas_cons_cons, List.length_append, List.length_cons] at enough
        have read := first.read steps (',' :: (commas (next :: parts) ++ ']' :: rest)) (by omega)
          (by simp [EndsValue])
        have read_others := ih (List.cons_ne_nil _ _) steps (by omega)
        rw [commas_cons_cons, List.append_assoc, List.cons_append, readItems, read]
        simp [skipSpace, read_others]

theorem controlFree_enclosed {α : Type} {R : List Char → α → Prop} {vs : List α}
    (each : List.Forall₂ R parts vs) (plain : ∀ part v, R part v → ControlFree part)
    {start stop : Char} (visible : 0x20 ≤ start.toNat ∧ 0x20 ≤ stop.toNat) :
    ControlFree (start :: commas parts ++ [stop]) := by
  have parts_plain := (List.forall₂_and_left _ _).mp (each.imp fun part v h => ⟨plain part v h, h⟩)
  have inside := (ControlFree.commas parts_plain.1).cons visible.1
  exact inside.append (List.forall_mem_singleton.mpr visible.2)

/-- The characters of a member: its name in quotes, a colon, and the characters of its value. -/
def SpellsMember (part : List Char) (e : String × Value) : Prop :=
  ∃ text, part = quote e.1 ++ ':' :: text ∧ Spells text e.2

theorem SpellsMember.plain {part : List Char} {e : String × Value} (member : SpellsMember part e) :
    ControlFree part := by
  obtain ⟨text, rfl, value⟩ := member
  exact (controlFree_quote e.1).append (value.plain.cons (by decide))

/-- A member enters the record, and what is behind it decides whether there are more. -/
theorem readFields_member {part : List Char} {e : String × Value} (member : SpellsMember part e)
    {steps : Nat} (enough : part.length ≤ steps) (before : Fields) (rest : List Char) :
    readFields (steps + 1) before (part ++ ',' :: rest) =
        readFields steps (Member.insert e.1 e.2 before) rest ∧
      readFields (steps + 1) before (part ++ '\x7D' :: rest) =
        some (Member.insert e.1 e.2 before, rest) := by
  obtain ⟨text, rfl, value⟩ := member
  rw [List.length_append, List.length_cons] at enough
  constructor
  · have name := readText_append e.1 (':' :: (text ++ ',' :: rest))
    have read := value.read steps (',' :: rest) (by omega) (by simp [EndsValue])
    simp [quote, readFields, skipSpace, name, read]
  · have name := readText_append e.1 (':' :: (text ++ '\x7D' :: rest))
    have read := value.read steps ('\x7D' :: rest) (by omega) (by simp [EndsValue])
    simp [quote, readFields, skipSpace, name, read]

/-- Members between commas enter a record one after another. -/
theorem readFields_append {read : List (String × Value)}
    (each : List.Forall₂ SpellsMember parts read) (some_part : parts ≠ []) (steps : Nat)
    (enough : (commas parts).length < steps) (before : Fields) (rest : List Char) :
    readFields steps before (commas parts ++ '\x7D' :: rest) =
      some (read.foldl (fun t e => Member.insert e.1 e.2 t) before, rest) := by
  induction each generalizing steps before with
  | nil => exact absurd rfl some_part
  | @cons part e parts read first others ih =>
    cases steps with
    | zero => exact absurd enough (Nat.not_lt_zero _)
    | succ steps =>
      cases parts with
      | nil =>
        cases others
        rw [commas, (readFields_member first (Nat.le_of_lt_succ enough) before rest).2]
        rfl
      | cons next parts =>
        rw [commas_cons_cons, List.length_append, List.length_cons] at enough
        have short : part.length ≤ steps := by omega
        have read_others := ih (List.cons_ne_nil _ _) steps (by omega) (Member.insert e.1 e.2 before)
        rw [commas_cons_cons, List.append_assoc, List.cons_append,
          (readFields_member first short before _).1, read_others]
        rfl

theorem spells_list {vs : List Value} (each : List.Forall₂ Spells parts vs) :
    Spells ('[' :: commas parts ++ [']']) (.list vs) := by
  have plain : ControlFree ('[' :: commas parts ++ [']']) :=
    controlFree_enclosed each (fun _ _ => Spells.plain) (by decide)
  refine .of_succ ⟨'[', _, rfl, by decide⟩ plain fun {steps rest} enough _ => ?_
  rw [List.cons_append, List.cons_append, List.append_assoc, List.singleton_append]
  cases each with
  | nil => rfl
  | @cons part v parts vs first others =>
    have enough : (commas (part :: parts)).length < steps := by
      simp only [List.length_cons, List.length_append, List.length_nil] at enough
      omega
    have items := readItems_append (.cons first others) (List.cons_ne_nil _ _) steps enough rest
    have begins := (first.begins.commas parts).append (']' :: rest)
    have skipped := begins.skipSpace_eq
    obtain ⟨c, cs, same, other⟩ := begins
    have open_list : skipSpace ('[' :: c :: cs) = '[' :: c :: cs := rfl
    rw [same] at items skipped ⊢
    simp only [readValue, open_list, skipped]
    split
    case h_1 closed =>
      obtain ⟨rfl, -⟩ := List.cons.inj closed
      exact absurd other (by decide)
    case h_2 => rw [items]; rfl

theorem spells_record {read : List (String × Value)}
    (each : List.Forall₂ SpellsMember parts read) :
    Spells ('\x7B' :: commas parts ++ ['\x7D']) (.record (Member.ofEntries read)) := by
  have plain : ControlFree ('\x7B' :: commas parts ++ ['\x7D']) :=
    controlFree_enclosed each (fun _ _ => SpellsMember.plain) (by decide)
  refine .of_succ ⟨'\x7B', _, rfl, by decide⟩ plain fun {steps rest} enough _ => ?_
  rw [List.cons_append, List.cons_append, List.append_assoc, List.singleton_append]
  cases each with
  | nil => rfl
  | @cons part e parts read first others =>
    have enough : (commas (part :: parts)).length < steps := by
      simp only [List.length_cons, List.length_append, List.length_nil] at enough
      omega
    have fields := readFields_append (.cons first others) (List.cons_ne_nil _ _) steps enough [] rest
    obtain ⟨cs, same⟩ : ∃ cs, commas (part :: parts) ++ '\x7D' :: rest = '\x22' :: cs := by
      obtain ⟨text, rfl, -⟩ := first
      cases parts <;> exact ⟨_, rfl⟩
    rw [same] at fields ⊢
    have open_record : skipSpace ('\x7B' :: '\x22' :: cs) = '\x7B' :: '\x22' :: cs := rfl
    have quoted : skipSpace ('\x22' :: cs) = '\x22' :: cs := rfl
    simp only [readValue, open_record, quoted]
    split
    case h_1 closed => exact absurd (List.cons.inj closed).1 (by decide)
    case h_2 => rw [fields]; rfl

end Parts

theorem spellsMember_nil : List.Forall₂ SpellsMember (writeFields []) [] := .nil

theorem spellsMember_cons {k : String} {v w : Value} (present : v.isAbsent = false)
    (value : Spells v.write w) {rest read : List (String × Value)}
    (others : List.Forall₂ SpellsMember (writeFields rest) read) :
    List.Forall₂ SpellsMember (writeFields ((k, v) :: rest)) ((k, w) :: read) := by
  rw [writeFields_cons present]
  exact .cons ⟨v.write, rfl, value⟩ others

/-- Characters that are a value and nothing else. -/
theorem Spells.parse?_eq {cs : List Char} {v : Value} (h : Spells cs v) :
    parse? (String.ofList cs) = some v := by
  have read := h.read (2 * cs.length + 2) [] (by omega) (by simp [EndsValue])
  rw [List.append_nil] at read
  simp [parse?, read, skipSpace]

mutual

/-- Whatever is written can be read. -/
theorem exists_spells (v : Value) : ∃ w, Spells v.write w := by
  cases v with
  | absent | null => exact ⟨_, spells_null⟩
  | bool b => exact ⟨_, spells_bool b⟩
  | number x =>
    rw [write]
    split
    case isTrue finite =>
      obtain ⟨numeral, text⟩ := exists_numeral finite
      exact ⟨_, text ▸ spells_numeral numeral⟩
    case isFalse => exact ⟨_, spells_null⟩
  | text s => exact ⟨_, spells_text s⟩
  | moment t =>
    cases t with
    | none => exact ⟨_, spells_null⟩
    | some t => exact ⟨_, spells_quote t.text⟩
  | secret s => exact ⟨_, spells_quote s.text⟩
  | list items =>
    obtain ⟨vs, each⟩ := exists_spells_items items
    exact ⟨_, write_list items ▸ spells_list each⟩
  | record fields =>
    obtain ⟨read, each⟩ := exists_spells_fields fields
    exact ⟨.record (Member.ofEntries read), write_record fields ▸ spells_record each⟩

theorem exists_spells_items (items : List Value) :
    ∃ vs, List.Forall₂ Spells (writeItems items) vs := by
  cases items with
  | nil => exact ⟨[], .nil⟩
  | cons v rest =>
    obtain ⟨w, first⟩ := exists_spells v
    obtain ⟨ws, others⟩ := exists_spells_items rest
    exact ⟨w :: ws, .cons first others⟩

theorem exists_spells_fields (fields : List (String × Value)) :
    ∃ read, List.Forall₂ SpellsMember (writeFields fields) read := by
  cases fields with
  | nil => exact ⟨[], spellsMember_nil⟩
  | cons e rest =>
    obtain ⟨k, v⟩ := e
    obtain ⟨read, others⟩ := exists_spells_fields rest
    cases absent : v.isAbsent with
    | true => exact ⟨read, by rwa [writeFields_cons_absent absent]⟩
    | false =>
      obtain ⟨w, value⟩ := exists_spells v
      exact ⟨(k, w) :: read, spellsMember_cons absent value others⟩

end

/-- The text of a record is read as a record. -/
theorem exists_spells_record (fields : List (String × Value)) :
    ∃ read, Spells (record fields).write (.record read) := by
  obtain ⟨read, each⟩ := exists_spells_fields fields
  exact ⟨Member.ofEntries read, write_record fields ▸ spells_record each⟩

end Depot.Value
