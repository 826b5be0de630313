import Depot.Proofs.Value.Writing
import Depot.Report.Logger
/-!
# Entries on the console

An entry cannot leave its line: whatever its message and its context hold, the line has no control
character, and it is read as a record of the entry and nothing else. There is no line only where the
copy of a record in the context takes after a date.
-/
namespace Depot

namespace Redaction
open Value (prototypeKey)

/-- Whether what takes after a value finds the `toJSON` of a date. A record has what the value under
`__proto__` has, where it has no member of that name itself. -/
inductive LeadsToDate : Value → Prop where
  | date (t : Option Instant) : LeadsToDate (.moment t)
  | record {fields : List (String × Value)} {proto : Value}
      (found : Table.get? prototypeKey fields = some proto) (leads : LeadsToDate proto)
      (bare : "toJSON" ∉ Table.keys fields) : LeadsToDate (.record fields)

/-- Whether the copy of a value has no text: it takes after a date, or a member that it keeps has a
copy without a text. -/
inductive HasNoText : Value → Prop where
  | dated {fields : List (String × Value)} (leads : LeadsToDate (.record fields)) :
      HasNoText (.record fields)
  | inside {fields : List (String × Value)} {k : String} {v : Value} (mem : (k, v) ∈ fields)
      (kept : k ≠ prototypeKey) (shown : isSecretName k = false) (h : HasNoText v) :
      HasNoText (.record fields)

mutual

theorem leadsToDate_iff (v : Value) :
    LeadsToDate v ↔ ∃ names, hiding? v = some names ∧ "toJSON" ∉ names := by
  cases v with
  | moment t => exact ⟨fun _ => ⟨[], rfl, List.not_mem_nil⟩, fun _ => .date t⟩
  | record fields =>
    have above := exists_leadsToDate_iff fields
    rw [hiding?]
    constructor
    · intro leads
      cases leads with
      | record found leads bare =>
        obtain ⟨names, inherits, others⟩ := above.mp ⟨_, found, leads⟩
        refine ⟨Table.keys fields ++ names, by rw [inherits]; rfl, ?_⟩
        rw [List.mem_append, not_or]
        exact ⟨bare, others⟩
    · rintro ⟨_, hides, bare⟩
      obtain ⟨names, inherits, rfl⟩ := Option.map_eq_some_iff.mp hides
      rw [List.mem_append, not_or] at bare
      obtain ⟨v, found, leads⟩ := above.mpr ⟨names, inherits, bare.2⟩
      exact .record found leads bare.1
  | _ =>
    constructor
    · intro leads
      cases leads
    · rintro ⟨names, hides, -⟩
      simp [hiding?] at hides

theorem exists_leadsToDate_iff (fields : List (String × Value)) :
    (∃ v, Table.get? prototypeKey fields = some v ∧ LeadsToDate v) ↔
      ∃ names, inherited? fields = some names ∧ "toJSON" ∉ names := by
  cases fields with
  | nil => simp [Table.get?, inherited?]
  | cons e rest =>
    obtain ⟨k, v⟩ := e
    rw [Table.get?, inherited?]
    split
    · simpa using leadsToDate_iff v
    · exact exists_leadsToDate_iff rest

end

theorem isSome_dateFault? (names : List String) :
    (dateFault? names).isSome = true ↔ "toJSON" ∉ names := by
  unfold dateFault?
  split
  case isTrue hidden => simp [hidden]
  case isFalse bare =>
    split
    · simp [bare]
    · split <;> simp [bare]

/-- Whether a member that a record keeps has a copy without a text. -/
def HasNoTextInside (fields : List (String × Value)) : Prop :=
  ∃ k v, (k, v) ∈ fields ∧ k ≠ prototypeKey ∧ isSecretName k = false ∧ HasNoText v

theorem hasNoText_record_iff (fields : List (String × Value)) :
    HasNoText (.record fields) ↔ LeadsToDate (.record fields) ∨ HasNoTextInside fields := by
  constructor
  · intro no_text
    cases no_text with
    | dated leads => exact .inl leads
    | inside mem kept shown no_text => exact .inr ⟨_, _, mem, kept, shown, no_text⟩
  · rintro (leads | ⟨k, v, mem, kept, shown, no_text⟩)
    · exact .dated leads
    · exact .inside mem kept shown no_text

theorem hasNoTextInside_cons_iff (k : String) (v : Value) (rest : List (String × Value)) :
    HasNoTextInside ((k, v) :: rest) ↔
      (k ≠ prototypeKey ∧ isSecretName k = false ∧ HasNoText v) ∨ HasNoTextInside rest := by
  constructor
  · rintro ⟨k', v', mem, here⟩
    rcases List.mem_cons.mp mem with same | mem
    · cases same
      exact .inl here
    · exact .inr ⟨k', v', mem, here⟩
  · rintro (here | ⟨k', v', mem, here⟩)
    · exact ⟨k, v, List.mem_cons_self .., here⟩
    · exact ⟨k', v', List.mem_cons_of_mem _ mem, here⟩

mutual

/-- The copies without a text are those with a fault. -/
theorem isSome_fault?_iff (v : Value) : (fault? v).isSome = true ↔ HasNoText v := by
  cases v with
  | record fields =>
    have itself : ((hiding? (.record fields)).bind dateFault?).isSome = true ↔
        LeadsToDate (.record fields) := by
      rw [leadsToDate_iff]
      cases hiding? (.record fields) with
      | none => simp
      | some names => simp [isSome_dateFault?]
    rw [fault?, Option.isSome_or, Bool.or_eq_true, itself, isSome_faultFields?_iff,
      hasNoText_record_iff]
  | _ =>
    constructor
    · intro fault
      simp [fault?] at fault
    · intro no_text
      cases no_text

theorem isSome_faultFields?_iff (fields : List (String × Value)) :
    (faultFields? fields).isSome = true ↔ HasNoTextInside fields := by
  cases fields with
  | nil => simp [faultFields?, HasNoTextInside]
  | cons e rest =>
    obtain ⟨k, v⟩ := e
    have first := isSome_fault?_iff v
    have others := isSome_faultFields?_iff rest
    rw [faultFields?, hasNoTextInside_cons_iff]
    split
    case isTrue left_out =>
      have apart : ¬ (k ≠ prototypeKey ∧ isSecretName k = false ∧ HasNoText v) := by
        rintro ⟨kept, shown, -⟩
        rcases left_out with same | secret
        · exact kept same
        · rw [shown] at secret
          cases secret
      rw [others, or_iff_right apart]
    case isFalse kept =>
      rw [not_or, Bool.not_eq_true] at kept
      rw [Option.isSome_or, Bool.or_eq_true, first, others]
      simp [kept]

end

/-- A date under `__proto__` has no part in the text if a member `toJSON` hides its own. -/
example : fault? (.record [("__proto__", .moment (some 0)), ("toJSON", .null)]) = none := by
  decide +kernel

/-- A context of plain members, such as the client itself reports, has a copy with a text. -/
theorem not_hasNoText_of_flat {fields : List (String × Value)}
    (named : prototypeKey ∉ Table.keys fields)
    (flat : ∀ k inner, (k, Value.record inner) ∉ fields) : ¬ HasNoText (.record fields) := by
  intro no_text
  rcases (hasNoText_record_iff fields).mp no_text with leads | ⟨k, v, mem, -, -, no_text⟩
  · cases leads with
    | record found _ _ =>
      rw [Table.get?_eq_none_iff.mpr named] at found
      cases found
  · cases no_text <;> exact flat k _ mem

end Redaction

open Value (parse?)

/-- What a line shows of a context: nothing of one without members, and else what the JSON text of its
copy holds. -/
inductive ShowsContext : Option Fields → Fields → Prop where
  | none : ShowsContext none []
  | empty : ShowsContext (some []) []
  | copy {context read : Fields} (some_member : context ≠ [])
      (told : parse? (Value.record (Redaction.redactFields context)).json = some (.record read)) :
      ShowsContext (some context) [("context", .record read)]

/-- The members that every line shows of its entry. -/
def alwaysTold (now : Instant) (e : LogEntry) : Fields :=
  [("timestamp", .text now.text), ("level", .text e.level.name), ("message", .text e.message)]

/-- Whether a text is that of a record in which exactly these members stand, one after another. -/
def ListsOnly (text : String) (members : Fields) : Prop :=
  ∃ parts, text.toList = '\x7B' :: Value.commas parts ++ ['\x7D'] ∧
    List.Forall₂ Value.SpellsMember parts members

/-- Whether a line tells of an entry and of nothing else: it stands on the stream of the entry's
level, no character ends it, and it is the JSON text of a record of the time, the level, the message
and perhaps the context. -/
structure TellsOnly (now : Instant) (e : LogEntry) (line : ConsoleLine) : Prop where
  error : line.stream = .error ↔ e.level = .error
  warn : line.stream = .warn ↔ e.level = .warn
  plain : Value.ControlFree line.line.toList
  told : ∃ context, ShowsContext e.context context ∧
    ListsOnly line.line (alwaysTold now e ++ context) ∧
    parse? line.line = some (.record (alwaysTold now e ++ context))

theorem Stream.ofLevel_eq_error_iff (level : Level) : ofLevel level = .error ↔ level = .error := by
  cases level <;> decide

theorem Stream.ofLevel_eq_warn_iff (level : Level) : ofLevel level = .warn ↔ level = .warn := by
  cases level <;> decide

/-- The members of a line are in the order of members already. -/
theorem ofEntries_told {given : Option Fields} {context : Fields} (shown : ShowsContext given context)
    (now : Instant) (e : LogEntry) :
    Member.ofEntries (alwaysTold now e ++ context) = alwaysTold now e ++ context := by
  cases shown <;>
    simp [alwaysTold, Member.ofEntries, Member.insert, Member.precedes, Member.index?]

namespace ConsoleLine

/-- Members behind those that every line shows. -/
theorem spells_alwaysTold (now : Instant) (e : LogEntry) {rest read : List (String × Value)}
    (others : List.Forall₂ Value.SpellsMember (Value.writeFields rest) read) :
    List.Forall₂ Value.SpellsMember (Value.writeFields (alwaysTold now e ++ rest))
      (alwaysTold now e ++ read) := by
  apply Value.spellsMember_cons rfl (Value.spells_text now.text)
  apply Value.spellsMember_cons rfl (Value.spells_text e.level.name)
  apply Value.spellsMember_cons rfl (Value.spells_text e.message)
  exact others

/-- The members of an entry are read as they are, but for the context. -/
theorem exists_spells_members (now : Instant) (e : LogEntry) :
    ∃ context, ShowsContext e.context context ∧
      List.Forall₂ Value.SpellsMember (Value.writeFields (record now e))
        (alwaysTold now e ++ context) := by
  unfold record
  split
  case h_1 first others context =>
    obtain ⟨read, inside⟩ := Value.exists_spells_record (Redaction.redactFields (first :: others))
    have copy := Value.spellsMember_cons (k := "context") rfl inside Value.spellsMember_nil
    refine ⟨[("context", .record read)], ?_, spells_alwaysTold now e copy⟩
    rw [context]
    exact .copy (List.cons_ne_nil _ _) inside.parse?_eq
  case h_2 no_member =>
    refine ⟨[], ?_, spells_alwaysTold now e Value.spellsMember_nil⟩
    cases context : e.context with
    | none => exact .none
    | some fields =>
      cases fields with
      | nil => exact .empty
      | cons first others => exact absurd context (no_member first others)

theorem tellsOnly (now : Instant) (e : LogEntry) :
    TellsOnly now e ⟨.ofLevel e.level, (Value.record (record now e)).json⟩ := by
  obtain ⟨context, shown, each⟩ := exists_spells_members now e
  have whole := Value.spells_record each
  rw [← Value.write_record, ofEntries_told shown] at whole
  constructor
  · exact Stream.ofLevel_eq_error_iff e.level
  · exact Stream.ofLevel_eq_warn_iff e.level
  · exact String.toList_ofList ▸ whole.plain
  · refine ⟨context, shown, ⟨_, ?_, each⟩, whole.parse?_eq⟩
    exact String.toList_ofList.trans (Value.write_record _)

end ConsoleLine

namespace Logger

/-- Whether a console keeps every entry with this context to its line: one line that tells of it alone
at the least level or above, and nothing below. -/
def KeepsToLine (context : Option Fields) : Prop :=
  ∀ (minLevel : Float) (level : Level) (message : String) (now : Instant),
    if Float.ofNat level.number < minLevel then
      (console minLevel).log (some now) ⟨level, message, context⟩ = .ok ([], console minLevel)
    else ∃ line, TellsOnly now ⟨level, message, context⟩ line ∧
      (console minLevel).log (some now) ⟨level, message, context⟩ = .ok ([line], console minLevel)

variable {minLevel : Float} {e : LogEntry}

theorem log_of_below (below : Float.ofNat e.level.number < minLevel) (now : Instant) :
    (console minLevel).log (some now) e = .ok ([], console minLevel) := by
  rw [log, write, ConsoleLine.ofEntry?, if_pos below]
  rfl

/-- Where the copy of the context has no text, every line that is due fails. -/
theorem log_of_hasNoText {context : Fields} (given : e.context = some context)
    (no_text : Redaction.HasNoText (.record context))
    (due : ¬ Float.ofNat e.level.number < minLevel) (now : Instant) :
    ∃ f, Redaction.fault? (.record context) = some f ∧
      (console minLevel).log (some now) e = .error f := by
  obtain ⟨f, fault⟩ := Option.isSome_iff_exists.mp ((Redaction.isSome_fault?_iff _).mpr no_text)
  refine ⟨f, fault, ?_⟩
  rw [log, write, ConsoleLine.ofEntry?, if_neg due, given, Option.bind_some, fault]
  rfl

/-- Where the copy of the context has a text, or there is no context, nothing stands in the way. -/
theorem log_eq_write (has_text : ∀ fields ∈ e.context, ¬ Redaction.HasNoText (.record fields))
    (l : Logger) (now : Option Instant) : l.log now e = l.write now e := by
  have no_fault : (e.context.bind fun fields => Redaction.fault? (.record fields)) = none := by
    rw [Option.bind_eq_none_iff]
    intro fields given
    rw [← Option.not_isSome_iff_eq_none, Redaction.isSome_fault?_iff]
    exact has_text fields given
  rw [log, no_fault]
  cases l.write now e with
  | error f => rfl
  | ok result =>
    obtain ⟨lines, after⟩ := result
    cases lines <;> rfl

/-- An entry that is kept to its line has a context with a text, if it has one. -/
theorem KeepsToLine.not_hasNoText {context : Option Fields} (keeps : KeepsToLine context) :
    ∀ fields ∈ context, ¬ Redaction.HasNoText (.record fields) := by
  intro fields given no_text
  have due : ¬ Float.ofNat Level.info.number < ConsoleLine.defaultLevel := by decide +kernel
  have kept := keeps ConsoleLine.defaultLevel .info "" 0
  rw [if_neg due] at kept
  obtain ⟨line, -, written⟩ := kept
  obtain ⟨f, -, failed⟩ := log_of_hasNoText (e := ⟨.info, "", context⟩) given no_text due 0
  rw [failed] at written
  cases written

/-- A console keeps the entries with a context to their lines exactly if the copy of the context has a
text. -/
theorem keepsToLine_iff (context : Option Fields) :
    KeepsToLine context ↔ ∀ fields ∈ context, ¬ Redaction.HasNoText (.record fields) := by
  constructor
  · exact KeepsToLine.not_hasNoText
  · intro has_text minLevel level message now
    split
    case isTrue below => exact log_of_below (e := ⟨level, message, context⟩) below now
    case isFalse due =>
      refine ⟨_, ConsoleLine.tellsOnly now ⟨level, message, context⟩, ?_⟩
      rw [log_eq_write has_text, write, ConsoleLine.ofEntry?, if_neg due]
      rfl

/-- A context with a date under `__proto__`. -/
def dated : Fields := [("__proto__", .moment (some 0))]

/-- A date under `__proto__` keeps an entry from its line. -/
theorem not_keepsToLine_dated : ¬ KeepsToLine (some dated) := by
  intro keeps
  have leads : Redaction.LeadsToDate (.record dated) := .record rfl (.date (some 0)) (by decide)
  exact keeps.not_hasNoText dated rfl (.dated leads)

end Logger
end Depot
