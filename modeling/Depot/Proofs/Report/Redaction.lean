import Depot.Report.Console
/-!
# What redaction hides

Two contexts that differ only in what they keep secret should give the same line. They
do exactly if redaction reaches all of it. It does not look into lists, and a secret
under an open name is a record of its value.
-/
namespace Depot

namespace Value

theorem commas_cons_inj {part : List Char} {rest rest' : List (List Char)}
    (h : commas (part :: rest) = commas (part :: rest')) : commas rest = commas rest' := by
  have longer (rest : List (List Char)) (next : List Char) :
      commas (part :: next :: rest) = part ++ ',' :: commas (next :: rest) := rfl
  cases rest with
  | nil =>
    cases rest' with
    | nil => rfl
    | cons next' rest' =>
      rw [longer, commas] at h
      simp at h
  | cons next rest =>
    cases rest' with
    | nil =>
      rw [longer, commas] at h
      simp at h
    | cons next' rest' =>
      rw [longer, longer, List.append_cancel_left_eq] at h
      exact List.cons.inj h |>.2

theorem commas_head_inj {part part' : List Char} {rest : List (List Char)}
    (h : commas (part :: rest) = commas (part' :: rest)) : part = part' := by
  cases rest with
  | nil => exact h
  | cons next rest =>
    have longer (part : List Char) :
        commas (part :: next :: rest) = part ++ ',' :: commas (next :: rest) := rfl
    rw [longer, longer] at h
    exact List.append_cancel_right h

theorem write_record_inj {fields fields' : List (String × Value)}
    (h : (record fields).write = (record fields').write) :
    commas (writeFields fields) = commas (writeFields fields') := by
  rw [write_record, write_record] at h
  exact List.append_cancel_right (List.cons.inj h).2

theorem write_list_inj {items items' : List Value}
    (h : (list items).write = (list items').write) :
    commas (writeItems items) = commas (writeItems items') := by
  rw [write_list, write_list] at h
  exact List.append_cancel_right (List.cons.inj h).2

end Value

namespace Redaction
open Value

mutual

/-- Values that differ at most in secrets, and in what is stored under secret names, at any
depth. -/
inductive Agree : Value → Value → Prop where
  | refl (v : Value) : Agree v v
  | secret (s s' : Secret) : Agree (.secret s) (.secret s')
  | list {items items' : List Value} (each : AgreeItems items items') :
    Agree (.list items) (.list items')
  | record {fields fields' : List (String × Value)} (each : AgreeFields fields fields') :
    Agree (.record fields) (.record fields')

inductive AgreeItems : List Value → List Value → Prop where
  | nil : AgreeItems [] []
  | cons {v v' : Value} {rest rest' : List Value} (first : Agree v v')
      (others : AgreeItems rest rest') : AgreeItems (v :: rest) (v' :: rest')

inductive AgreeFields : List (String × Value) → List (String × Value) → Prop where
  | nil : AgreeFields [] []
  | hidden {k : String} (named : isSecretName k = true) (v v' : Value)
      {rest rest' : List (String × Value)} (others : AgreeFields rest rest') :
    AgreeFields ((k, v) :: rest) ((k, v') :: rest')
  | shown (k : String) {v v' : Value} {rest rest' : List (String × Value)} (first : Agree v v')
      (others : AgreeFields rest rest') : AgreeFields ((k, v) :: rest) ((k, v') :: rest')

end

theorem AgreeItems.refl (items : List Value) : AgreeItems items items := by
  induction items with
  | nil => exact .nil
  | cons v rest ih => exact .cons (.refl v) ih

theorem AgreeFields.refl (fields : List (String × Value)) : AgreeFields fields fields := by
  induction fields with
  | nil => exact .nil
  | cons e rest ih => exact .shown e.1 (.refl e.2) ih

theorem Agree.isAbsent_eq {v v' : Value} (h : Agree v v') : v'.isAbsent = v.isAbsent := by
  cases h <;> rfl

mutual

/-- No member, at any depth, has a secret name. -/
def openNames : Value → Bool
  | .list items => openNamesItems items
  | .record fields => openNamesFields fields
  | _ => true

def openNamesItems : List Value → Bool
  | [] => true
  | v :: rest => openNames v && openNamesItems rest

def openNamesFields : List (String × Value) → Bool
  | [] => true
  | (k, v) :: rest => !isSecretName k && openNames v && openNamesFields rest

end

mutual

/-- Redaction reaches all that a value keeps secret: on the way through open names there is no
secret, and no list with a secret name in it. -/
def reaches : Value → Bool
  | .secret _ => false
  | .list items => openNamesItems items
  | .record fields => reachesFields fields
  | _ => true

def reachesFields : List (String × Value) → Bool
  | [] => true
  | (k, v) :: rest =>
    (decide (k = Value.prototypeKey) || isSecretName k || reaches v) && reachesFields rest

end

mutual

/-- Without secret names, values that agree have the same text. -/
theorem write_eq_of_agree {v v' : Value} (h : Agree v v') (bare : openNames v = true) :
    v'.write = v.write := by
  cases h with
  | refl => rfl
  | secret s s' => simp [write, Secret.text]
  | list each =>
    rw [openNames] at bare
    rw [write_list, write_list, writeItems_eq_of_agree each bare]
  | record each =>
    rw [openNames] at bare
    rw [write_record, write_record, writeFields_eq_of_agree each bare]

theorem writeItems_eq_of_agree {items items' : List Value} (h : AgreeItems items items')
    (bare : openNamesItems items = true) : writeItems items' = writeItems items := by
  cases h with
  | nil => rfl
  | cons first others =>
    rw [openNamesItems, Bool.and_eq_true] at bare
    rw [writeItems, writeItems, write_eq_of_agree first bare.1, writeItems_eq_of_agree others bare.2]

theorem writeFields_eq_of_agree {fields fields' : List (String × Value)}
    (h : AgreeFields fields fields') (bare : openNamesFields fields = true) :
    writeFields fields' = writeFields fields := by
  cases h with
  | nil => rfl
  | hidden named v v' others =>
    rw [openNamesFields, named] at bare
    simp at bare
  | shown k first others =>
    rw [openNamesFields, Bool.and_eq_true, Bool.and_eq_true] at bare
    rw [writeFields, writeFields, first.isAbsent_eq, write_eq_of_agree first bare.1.2,
      writeFields_eq_of_agree others bare.2]

end

theorem isAbsent_redact (v : Value) : (redact v).isAbsent = v.isAbsent := by
  cases v <;> rfl

mutual

/-- Where redaction reaches everything, values that agree have the same text after it. -/
theorem write_redact_eq_of_agree {v v' : Value} (h : Agree v v') (reached : reaches v = true) :
    (redact v').write = (redact v).write := by
  cases h with
  | refl => rfl
  | secret s s' => simp [reaches] at reached
  | list each =>
    rw [reaches] at reached
    simp only [redact, write_list, writeItems_eq_of_agree each reached]
  | record each =>
    rw [reaches] at reached
    simp only [redact, write_record, writeFields_redact_eq_of_agree each reached]

theorem writeFields_redact_eq_of_agree {fields fields' : List (String × Value)}
    (h : AgreeFields fields fields') (reached : reachesFields fields = true) :
    writeFields (redactFields fields') = writeFields (redactFields fields) := by
  cases h with
  | nil => rfl
  | @hidden k named v v' rest rest' others =>
    rw [reachesFields, Bool.and_eq_true] at reached
    have same := writeFields_redact_eq_of_agree others reached.2
    by_cases kept : k = prototypeKey
    · simp only [redactFields, kept, if_true, same]
    · simp only [redactFields, kept, named, if_true, if_false, writeFields, same]
  | @shown k v v' rest rest' first others =>
    rw [reachesFields, Bool.and_eq_true] at reached
    have same := writeFields_redact_eq_of_agree others reached.2
    by_cases kept : k = prototypeKey
    · simp only [redactFields, kept, if_true, same]
    by_cases named : isSecretName k = true
    · simp only [redactFields, kept, named, if_true, if_false, writeFields, same]
    · have inside : reaches v = true := by simpa [kept, named] using reached.1
      simp only [redactFields, kept, named, if_false, Bool.false_eq_true, writeFields,
        isAbsent_redact, first.isAbsent_eq, write_redact_eq_of_agree first inside, same]

end

theorem commas_writeFields_cons_inj {e : String × Value} {rest rest' : List (String × Value)}
    (h : commas (writeFields (e :: rest)) = commas (writeFields (e :: rest'))) :
    commas (writeFields rest) = commas (writeFields rest') := by
  obtain ⟨k, v⟩ := e
  cases absent : v.isAbsent with
  | true => rwa [writeFields_cons_absent absent, writeFields_cons_absent absent] at h
  | false =>
    rw [writeFields_cons absent, writeFields_cons absent] at h
    exact commas_cons_inj h

theorem write_eq_of_commas_writeFields {w w' : Value} (present : w.isAbsent = false)
    (present' : w'.isAbsent = false) {k : String} {rest : List (String × Value)}
    (h : commas (writeFields ((k, w) :: rest)) = commas (writeFields ((k, w') :: rest))) :
    w.write = w'.write := by
  rw [writeFields_cons present, writeFields_cons present'] at h
  exact (List.cons.inj (List.append_cancel_left (commas_head_inj h))).2

/-- Values that agree with `v` and are there can have different texts. -/
def Tells (text : Value → List Char) (v : Value) : Prop :=
  ∃ w w', Agree v w ∧ Agree v w' ∧ w.isAbsent = false ∧ w'.isAbsent = false ∧ text w ≠ text w'

def TellsItems (items : List Value) : Prop :=
  ∃ is is', AgreeItems items is ∧ AgreeItems items is' ∧
    commas (writeItems is) ≠ commas (writeItems is')

def TellsFields (shown : List (String × Value) → List (String × Value))
    (fields : List (String × Value)) : Prop :=
  ∃ fs fs', AgreeFields fields fs ∧ AgreeFields fields fs' ∧
    commas (writeFields (shown fs)) ≠ commas (writeFields (shown fs'))

theorem TellsFields.of_named {k : String} (named : isSecretName k = true) (v : Value)
    (rest : List (String × Value)) : TellsFields id ((k, v) :: rest) := by
  refine ⟨(k, .bool true) :: rest, (k, .bool false) :: rest, .hidden named _ _ (.refl rest),
    .hidden named _ _ (.refl rest), fun h => ?_⟩
  have same := write_eq_of_commas_writeFields rfl rfl h
  simp [write] at same

mutual

/-- A value with a secret name in it tells what is stored there. -/
theorem tells_of_named {v : Value} (named : openNames v = false) : Tells write v := by
  cases v with
  | list items =>
    rw [openNames] at named
    obtain ⟨is, is', h, h', differ⟩ := tellsItems_of_named named
    exact ⟨_, _, .list h, .list h', rfl, rfl, fun same => differ (write_list_inj same)⟩
  | record fields =>
    rw [openNames] at named
    obtain ⟨fs, fs', h, h', differ⟩ := tellsFields_of_named named
    exact ⟨_, _, .record h, .record h', rfl, rfl, fun same => differ (write_record_inj same)⟩
  | _ => simp [openNames] at named

theorem tellsItems_of_named {items : List Value} (named : openNamesItems items = false) :
    TellsItems items := by
  cases items with
  | nil => simp [openNamesItems] at named
  | cons v rest =>
    rw [openNamesItems, Bool.and_eq_false_iff] at named
    rcases named with first | others
    · obtain ⟨w, w', h, h', -, -, differ⟩ := tells_of_named first
      exact ⟨_, _, .cons h (.refl rest), .cons h' (.refl rest), fun same =>
        differ (commas_head_inj same)⟩
    · obtain ⟨is, is', h, h', differ⟩ := tellsItems_of_named others
      exact ⟨_, _, .cons (.refl v) h, .cons (.refl v) h', fun same =>
        differ (commas_cons_inj same)⟩

theorem tellsFields_of_named {fields : List (String × Value)}
    (named : openNamesFields fields = false) : TellsFields id fields := by
  cases fields with
  | nil => simp [openNamesFields] at named
  | cons e rest =>
    obtain ⟨k, v⟩ := e
    rw [openNamesFields, Bool.and_eq_false_iff, Bool.and_eq_false_iff, Bool.not_eq_false'] at named
    rcases named with (name | first) | others
    · exact .of_named name v rest
    · obtain ⟨w, w', h, h', present, present', differ⟩ := tells_of_named first
      exact ⟨_, _, .shown k h (.refl rest), .shown k h' (.refl rest), fun same =>
        differ (write_eq_of_commas_writeFields present present' same)⟩
    · obtain ⟨fs, fs', h, h', differ⟩ := tellsFields_of_named others
      exact ⟨_, _, .shown k (.refl v) h, .shown k (.refl v) h', fun same =>
        differ (commas_writeFields_cons_inj same)⟩

end

mutual

/-- What redaction does not reach is told. -/
theorem tells_of_unreached {v : Value} (unreached : reaches v = false) :
    Tells (fun v => (redact v).write) v := by
  cases v with
  | secret s =>
    refine ⟨.secret ⟨"a"⟩, .secret ⟨"b"⟩, .secret _ _, .secret _ _, rfl, rfl, ?_⟩
    decide
  | list items =>
    rw [reaches] at unreached
    obtain ⟨is, is', h, h', differ⟩ := tellsItems_of_named unreached
    exact ⟨_, _, .list h, .list h', rfl, rfl, fun same => differ (write_list_inj same)⟩
  | record fields =>
    rw [reaches] at unreached
    obtain ⟨fs, fs', h, h', differ⟩ := tellsFields_of_unreached unreached
    refine ⟨_, _, .record h, .record h', rfl, rfl, fun same => differ ?_⟩
    simp only [redact] at same
    exact write_record_inj same
  | _ => simp [reaches] at unreached

theorem tellsFields_of_unreached {fields : List (String × Value)}
    (unreached : reachesFields fields = false) : TellsFields redactFields fields := by
  cases fields with
  | nil => simp [reachesFields] at unreached
  | cons e rest =>
    obtain ⟨k, v⟩ := e
    rw [reachesFields, Bool.and_eq_false_iff] at unreached
    rcases unreached with first | others
    · simp only [Bool.or_eq_false_iff, decide_eq_false_iff_not] at first
      obtain ⟨⟨kept, name⟩, inside⟩ := first
      obtain ⟨w, w', h, h', present, present', differ⟩ := tells_of_unreached inside
      refine ⟨_, _, .shown k h (.refl rest), .shown k h' (.refl rest), fun same => differ ?_⟩
      simp only [redactFields, kept, name, if_false, Bool.false_eq_true] at same
      rw [← isAbsent_redact] at present present'
      exact write_eq_of_commas_writeFields present present' same
    · obtain ⟨fs, fs', h, h', differ⟩ := tellsFields_of_unreached others
      refine ⟨_, _, .shown k (.refl v) h, .shown k (.refl v) h', fun same => differ ?_⟩
      rw [redactFields, redactFields] at same
      split at same
      · exact same
      split at same <;> exact commas_writeFields_cons_inj same

end

/-- Whatever agrees with a context gives the same text after redaction, and the same console line
at every level and time. -/
def Hides (context : Fields) : Prop :=
  ∀ context', AgreeFields context context' →
    (Value.record (redactFields context')).json = (Value.record (redactFields context)).json ∧
    ∀ minLevel now level message,
      ConsoleLine.ofEntry? minLevel now ⟨level, message, some context'⟩ =
        ConsoleLine.ofEntry? minLevel now ⟨level, message, some context⟩

theorem json_record (fields : List (String × Value)) :
    (Value.record fields).json = String.ofList (Value.record fields).write := rfl

theorem json_line_eq {context context' : Fields} (agree : AgreeFields context context')
    (same : writeFields (redactFields context') = writeFields (redactFields context))
    (now : Instant) (level : Level) (message : String) :
    (Value.record (ConsoleLine.record now ⟨level, message, some context'⟩)).json =
      (Value.record (ConsoleLine.record now ⟨level, message, some context⟩)).json := by
  cases agree with
  | nil => rfl
  | hidden | shown =>
    simp [json_record, ConsoleLine.record, write_record, writeFields, isAbsent, same]

/-- A context is hidden exactly if redaction reaches all that it keeps secret. -/
theorem hides_iff_reaches (context : Fields) : Hides context ↔ reachesFields context = true := by
  constructor
  · intro hides
    rw [← Bool.not_eq_false]
    intro unreached
    obtain ⟨fs, fs', h, h', differ⟩ := tellsFields_of_unreached unreached
    have same := (hides fs h).1.trans (hides fs' h').1.symm
    rw [json_record, json_record, String.ofList_inj] at same
    exact differ (write_record_inj same)
  · intro reached context' agree
    have same := writeFields_redact_eq_of_agree agree reached
    refine ⟨?_, fun minLevel now level message => ?_⟩
    · rw [json_record, json_record, write_record, write_record, same]
    · simp only [ConsoleLine.ofEntry?, json_line_eq agree same]

example : reachesFields [("apiKey", .text "a"), ("nested", .record [("password", .text "b")]),
    ("list", .list [.secret ⟨"c"⟩])] = true := by decide +kernel

/-- A context with a password in a record in a list. -/
def listed : Fields := [("list", .list [.record [("password", .text "p")]])]

/-- A context with a secret under an open name. -/
def wrapped : Fields := [("key", .secret ⟨"p"⟩)]

/-- What redaction does not reach is written. -/
theorem not_hides_listed_wrapped : ¬ Hides listed ∧ ¬ Hides wrapped := by
  constructor
  · intro hides
    have agree : AgreeFields listed [("list", .list [.record [("password", .text "q")]])] :=
      .shown _ (.list (.cons (.record (.hidden (by decide +kernel) _ _ .nil)) .nil)) .nil
    exact absurd (hides _ agree).1 (by decide +kernel)
  · intro hides
    have agree : AgreeFields wrapped [("key", .secret ⟨"q"⟩)] := .shown _ (.secret _ _) .nil
    exact absurd (hides _ agree).1 (by decide +kernel)

end Redaction
end Depot
