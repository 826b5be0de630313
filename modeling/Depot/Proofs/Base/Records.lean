import Depot.Proofs.Base.Batches
import Depot.Proofs.Value.Members
/-!
# What is stored for a record

The key that a record gives is looked at before it is sent. A record that gives none is stored with
whatever its value has at the name of the key, and nothing looks at that.
-/
namespace Depot

namespace Record

/-- The member that holds the key of a stored item. -/
def keyField : String := "key"

/-- What a record is stored as: the key that it gives, and otherwise the one that its value has; the
time at which it expires, if it gives one; and everything else as it is, in its order. -/
structure IsStoredAs (r : Record) (now : Option Instant) (fields : Fields) : Prop where
  valid : r.HasValidKey
  given : ∀ k, r.key = .text k → Table.get? keyField fields = some (.text k)
  own : r.key = .absent → Table.get? keyField fields = Table.get? keyField r.value
  lasts : ∀ seconds, r.expiresIn = some seconds →
    Table.get? expiresField fields = some (.number (unixSeconds now + seconds))
  ends : ∀ t, r.expiresIn = none → r.expiresAt = some t →
    Table.get? expiresField fields = some (.number (unixSeconds t))
  stays : r.expiresIn = none → r.expiresAt = none →
    Table.get? expiresField fields = Table.get? expiresField r.value
  others : (fields.erase expiresField).erase keyField =
    (r.value.erase expiresField).erase keyField
  keyless : r.key = .absent → fields.erase expiresField = r.value.erase expiresField
  nodup : r.value.keys.Nodup → fields.keys.Nodup

/-- The value of a record with the key that it gives. -/
def keyed (r : Record) : Fields :=
  match r.key with
  | .text k => Table.put keyField (.text k) r.value
  | _ => r.value

variable {r : Record} {now : Option Instant} {fields : Fields}

theorem serialize_eq_put (valid : r.HasValidKey) (now : Option Instant) :
    r.serialize now = .ok ((r.expiry? now).elim r.keyed fun seconds =>
      r.keyed.put expiresField (.number seconds)) := by
  have key_name : Member.index? "key" = none := by decide
  have expires_name : Member.index? expiresField = none := by decide
  have expiring (seconds : Float) (withKey : Fields) :
      Member.insert expiresField (.number seconds) withKey =
        withKey.put expiresField (.number seconds) := Member.insert_eq_put expires_name ..
  rw [serialize, keyed]
  rcases valid with absent | ⟨k, given, full⟩
  · simp only [absent]
    cases r.expiry? now with
    | none => rfl
    | some seconds => exact congrArg Except.ok (expiring seconds _)
  · have valid : validKey (.text k) = .ok k := by simp [validKey, full]
    simp only [given, valid]
    rw [keyField, ← Member.insert_eq_put key_name]
    cases r.expiry? now with
    | none => rfl
    | some seconds => exact congrArg Except.ok (expiring seconds _)

theorem keyed_of_absent (h : r.key = .absent) : r.keyed = r.value := by rw [keyed, h]

theorem get?_keyed {k : String} (other : k ≠ keyField) (r : Record) :
    Table.get? k r.keyed = Table.get? k r.value := by
  rw [keyed]
  split
  · exact Table.get?_put_ne other ..
  · rfl

theorem erase_keyed (valid : r.HasValidKey) :
    r.keyed.erase keyField = r.value.erase keyField := by
  rcases valid with absent | ⟨k, given, -⟩
  · rw [keyed_of_absent absent]
  · rw [keyed, given, Table.erase_put_self]

theorem nodup_keys_keyed (once : r.value.keys.Nodup) : r.keyed.keys.Nodup := by
  rw [keyed]
  split
  · exact Table.nodup_keys_put once
  · exact once

theorem isStoredAs_of_serialize (h : r.serialize now = .ok fields) : r.IsStoredAs now fields := by
  have valid : r.HasValidKey := by
    by_contra invalid
    rw [serialize_eq_error invalid] at h
    cases h
  have apart : keyField ≠ expiresField := by decide
  rw [serialize_eq_put valid] at h
  -- the time of expiry changes neither the key nor any other field
  have same : Table.get? keyField fields = Table.get? keyField r.keyed ∧
      fields.erase expiresField = r.keyed.erase expiresField ∧
      (r.keyed.keys.Nodup → fields.keys.Nodup) ∧
      Table.get? expiresField fields = (r.expiry? now).elim (Table.get? expiresField r.value)
        fun seconds => some (.number seconds) := by
    cases expires : r.expiry? now with
    | none =>
      rw [expires] at h
      cases h
      exact ⟨rfl, rfl, id, get?_keyed (Ne.symm apart) r⟩
    | some seconds =>
      rw [expires] at h
      cases h
      exact ⟨Table.get?_put_ne apart .., Table.erase_put_self .., Table.nodup_keys_put,
        Table.get?_put_self ..⟩
  obtain ⟨key, rest, nodup, expires⟩ := same
  refine ⟨valid, fun k given => ?_, fun absent => ?_, fun seconds expiresIn => ?_,
    fun t expiresIn expiresAt => ?_, fun expiresIn expiresAt => ?_, ?_, fun absent => ?_,
    fun once => nodup (nodup_keys_keyed once)⟩
  · rw [key, keyed, given, Table.get?_put_self]
  · rw [key, keyed_of_absent absent]
  · rw [expires, expiry?, expiresIn]
    rfl
  · rw [expires, expiry?, expiresIn, expiresAt]
    rfl
  · rw [expires, expiry?, expiresIn, expiresAt]
    rfl
  · rw [rest, Table.erase_comm, erase_keyed valid, Table.erase_comm]
  · rw [rest, keyed_of_absent absent]

end Record

/-- What is written of a value is nothing, or a text that is not empty. -/
def Value.IsWireKey (v : Value) : Prop :=
  v.json? = none ∨ ∃ s, s ≠ "" ∧ v.json? = (Value.text s).json?

theorem Value.not_isWireKey_empty : ¬ (Value.text "").IsWireKey := by
  rintro (absent | ⟨s, full, same⟩)
  · cases absent
  · -- a text that is not empty has something between its quotes
    have written : Value.quote "" = Value.quote s :=
      String.ofList_injective (Option.some.inj same)
    obtain ⟨c, cs, hs⟩ := List.exists_cons_of_ne_nil (mt String.toList_eq_nil_iff.mp full)
    have some_char : Value.quoteChar c ≠ [] := by
      unfold Value.quoteChar
      split_ifs <;> exact List.cons_ne_nil _ _
    have lengths := congrArg List.length written
    have pos := List.length_pos_of_ne_nil some_char
    simp [Value.quote, hs] at lengths
    omega

/-- An item on the wire has no key, or one that is a text that is not empty. -/
def Value.HasWireKey (item : Value) : Prop := (item.member Record.keyField).IsWireKey

/-- A record gives a key, or the one that its value has is not wrong. -/
def Record.SettlesKey (r : Record) : Prop :=
  r.key ≠ .absent ∨ (Value.record r.value).HasWireKey

theorem Record.IsStoredAs.hasWireKey_iff {r : Record} {now : Option Instant} {fields : Fields}
    (h : r.IsStoredAs now fields) : (Value.record fields).HasWireKey ↔ r.SettlesKey := by
  rcases h.valid with absent | ⟨k, given, full⟩
  · have same : (Value.record fields).member Record.keyField =
        (Value.record r.value).member Record.keyField := by
      rw [Value.member, h.own absent, Value.member]
    rw [Value.HasWireKey, same, SettlesKey, Value.HasWireKey]
    simp [absent]
  · have key : (Value.record fields).member Record.keyField = .text k := by
      rw [Value.member, h.given k given]
      rfl
    have settled : r.SettlesKey := .inl (by simp [given])
    have right : (Value.record fields).HasWireKey := .inr ⟨k, full, by rw [key]⟩
    exact ⟨fun _ => settled, fun _ => right⟩

/-- The items that a call stores: the one that it inserts, or those that it puts. -/
def Call.stored (c : Call) : List Value :=
  match c.content with
  | .json v =>
    match v.member "item" with
    | .absent => c.items
    | item => [item]
  | _ => []

/-- The items that were sent to be stored. -/
def Scene.stored (s : Scene) : List Value := s.sent.flatMap Call.stored

/-- What a record is stored as by an operation that has read the clock. -/
def Record.Becomes (dates : List (Option Instant)) (r : Record) (item : Value) : Prop :=
  ∃ now ∈ dates, ∃ fields, item = .record fields ∧ r.IsStoredAs now fields

/-- The items that were sent are records in their order, up to some point. -/
def Scene.Stores (records : List Record) (s : Scene) : Prop :=
  List.Forall₂ (Record.Becomes s.dates) (records.take s.stored.length) s.stored

namespace Base

/-- The call that inserts an item. -/
def insertCall (item : Fields) : Call := .sending .post "/items" [("item", .record item)]

theorem stored_putCall (items : List Fields) : (putCall items).stored = items.map .record := rfl

/-- The operations that store records. -/
inductive IsStoring (base : String) : {α : Type} → Job α → List Record → Prop where
  | insert (r : Record) : IsStoring base (insert base r) [r]
  | put (records : List Record) : IsStoring base (put base records) records
  | putMany (records : List Record) : IsStoring base (putMany base records) records

variable {base : String} {done batch rest : List Record} {s : Scene}

theorem deaf_stores (records : List Record) : Scene.Deaf (Scene.Stores records) := by
  intro s r h
  simpa [Scene.Stores, Scene.stored] using h

/-- Records that became items are the first of all records. -/
theorem stores_of_done (h : List.Forall₂ (Record.Becomes s.dates) done s.stored)
    (rest : List Record) : s.Stores (done ++ rest) := by
  rw [Scene.Stores, ← h.length_eq, List.take_left]
  exact h

theorem Becomes.mono {dates more : List (Option Instant)} {items : List Value}
    (h : List.Forall₂ (Record.Becomes dates) done items) :
    List.Forall₂ (Record.Becomes (dates ++ more)) done items :=
  h.imp fun _ _ ⟨now, read, shown⟩ => ⟨now, List.mem_append_left more read, shown⟩

theorem forall₂_becomes {dates : List (Option Instant)} {now : Option Instant} (read : now ∈ dates)
    (valid : ∀ r ∈ batch, r.HasValidKey) : List.Forall₂ (Record.Becomes dates) batch
      ((batch.map (Record.fieldsAt now)).map .record) := by
  rw [List.map_map, List.forall₂_map_right_iff, List.forall₂_same]
  intro r hr
  have serialized := Record.serialize_eq_fieldsAt (valid r hr) now
  exact ⟨now, read, _, rfl, Record.isStoredAs_of_serialize serialized⟩

theorem forall₂_push (h : List.Forall₂ (Record.Becomes s.dates) done s.stored)
    (valid : ∀ r ∈ batch, r.HasValidKey) (now : Option Instant) {s' : Scene} {call : Call}
    (items : call.stored = (batch.map (Record.fieldsAt now)).map .record)
    (dates : s'.dates = s.dates ++ [now]) (sent : s'.sent = s.sent ++ [call]) :
    List.Forall₂ (Record.Becomes s'.dates) (done ++ batch) s'.stored := by
  have stored : s'.stored = s.stored ++ (batch.map (Record.fieldsAt now)).map .record := by
    rw [Scene.stored, sent, List.flatMap_append, List.flatMap_singleton, items]
    rfl
  rw [dates, stored]
  exact List.rel_append (Becomes.mono h) (forall₂_becomes (by simp) valid)

theorem stores_dating (h : List.Forall₂ (Record.Becomes s.dates) done s.stored)
    (now : Option Instant) (rest : List Record) : (s.note (.dated now)).Stores (done ++ rest) := by
  refine stores_of_done ?_ rest
  rw [Scene.dates_note]
  simpa [Scene.stored] using Becomes.mono h

theorem keeps_put_stores (h : List.Forall₂ (Record.Becomes s.dates) done s.stored)
    (idle : s.underWay = []) (rest : List Record) :
    (put base batch).Keeps (Scene.Stores (done ++ batch ++ rest)) (fun result s' =>
      (∃ r, result = some (.ok r)) → s'.underWay = [] ∧
        List.Forall₂ (Record.Becomes s'.dates) (done ++ batch) s'.stored) s := by
  have begun : s.Stores (done ++ batch ++ rest) := by
    rw [List.append_assoc]
    exact stores_of_done h _
  have dated (now : Option Instant) : (s.note (.dated now)).Stores (done ++ batch ++ rest) := by
    rw [List.append_assoc]
    exact stores_dating h now _
  refine (keeps_put (deaf_stores _) idle begun dated fun now valid _ => ?_).mono ?_
  · have items := stored_putCall (batch.map (Record.fieldsAt now))
    refine ⟨stores_of_done (forall₂_push h valid now items (by simp) (by simp)) rest,
      fun moves a => ?_⟩
    exact stores_of_done (forall₂_push h valid now items (by simp) (by simp)) rest
  · rintro _ s' stores ended ⟨r, ok⟩
    -- the items are as many as the records, so `Scene.Stores` speaks of all of them
    cases ended with
    | stored now moves a r came =>
      refine ⟨by simp [idle], ?_⟩
      rw [Scene.Stores] at stores
      have many : (((s.note (.dated now)).exchanged (putCall (batch.map (Record.fieldsAt now)))
          moves a).heard (putReports base r)).stored.length = (done ++ batch).length := by
        rw [List.length_append, h.length_eq]
        simp [Scene.stored, stored_putCall]
      rwa [many, List.take_left] at stores
    | _ => cases ok

theorem flatten_batches (records : List Record) :
    (batches maxPutRecords records).flatten = records := by
  fun_induction batches maxPutRecords records with
  | case1 records none_left =>
    have empty : records = [] := by simpa [maxPutRecords] using none_left
    rw [empty, List.flatten_nil]
  | case2 records some_left ih => rw [List.flatten_cons, ih, List.take_append_drop]

theorem keeps_putBatches_stores {left : List (List Record)} {result : PutResult}
    (h : List.Forall₂ (Record.Becomes s.dates) done s.stored) (idle : s.underWay = []) :
    (putBatches base left result).Keeps (Scene.Stores (done ++ left.flatten)) (fun _ _ => True)
      s := by
  induction left generalizing done s result with
  | nil => exact ⟨stores_of_done h _, trivial⟩
  | cons batch rest ih =>
    rw [List.flatten_cons, ← List.append_assoc]
    -- the next batch is put only if the service has answered this one
    refine Job.Keeps.bind ((keeps_put_stores h idle rest.flatten).mono ?_)
    rintro (_ | _ | r) s' - ended
    · trivial
    · trivial
    · obtain ⟨idle', stored⟩ := ended ⟨r, rfl⟩
      exact ih stored idle'

theorem keeps_insert_stores (r : Record) (desk : Desk) :
    (insert base r).Keeps (Scene.Stores [r]) (fun _ _ => True) ⟨[], desk, []⟩ := by
  have none_done : List.Forall₂ (Record.Becomes (Scene.mk [] desk []).dates) []
      (Scene.mk [] desk []).stored := .nil
  refine ⟨stores_of_done none_done [r], fun now => ?_⟩
  have dated := stores_dating none_done now [r]
  by_cases valid : r.HasValidKey
  · have only : ∀ r' ∈ [r], r'.HasValidKey := by simpa using valid
    have items : (insertCall (r.fieldsAt now)).stored =
        ([r].map (Record.fieldsAt now)).map .record := rfl
    simp only [Record.serialize_eq_fieldsAt valid]
    refine Job.Keeps.bind (j := Job.ofOutcome _) ⟨dated, ?_⟩
    refine Job.Keeps.bind ((Job.keeps_exchangeAs_exchanged (c := insertCall (r.fieldsAt now))
      (deaf_stores [r]) rfl dated ?_ fun moves a => ?_).mono ?_)
    · exact stores_of_done (forall₂_push none_done only now items (by simp) (by simp)) []
    · exact stores_of_done (forall₂_push none_done only now items (by simp) (by simp)) []
    · rintro result s' stores -
      rcases result with _ | _ | created
      · trivial
      · trivial
      · exact ⟨stores, deaf_stores [r] s' _ stores, trivial⟩
  · simp only [Record.serialize_eq_error valid]
    exact ⟨dated, trivial⟩

theorem keeps_of_isStoring {α : Type} {op : Job α} {records : List Record}
    (storing : IsStoring base op records) (desk : Desk) :
    op.Keeps (Scene.Stores records) (fun _ _ => True) ⟨[], desk, []⟩ := by
  have none_done : List.Forall₂ (Record.Becomes (Scene.mk [] desk []).dates) []
      (Scene.mk [] desk []).stored := .nil
  cases storing with
  | insert r => exact keeps_insert_stores r desk
  | put =>
    have kept : (put base records).Keeps (Scene.Stores ([] ++ records ++ [])) _ _ :=
      keeps_put_stores none_done rfl []
    rw [List.append_nil] at kept
    exact kept.mono fun _ _ _ _ => trivial
  | putMany =>
    have kept : (putBatches base (batches maxPutRecords records) .empty).Keeps
        (Scene.Stores ([] ++ (batches maxPutRecords records).flatten)) _ _ :=
      keeps_putBatches_stores none_done rfl
    rw [flatten_batches] at kept
    cases records with
    | nil => exact ⟨stores_of_done none_done [], trivial⟩
    | cons => exact kept

/--
Every item that an operation sends to be stored is one of its records, in their order: it has the key
that the record gives, or otherwise what the value has at the name of the key; it expires as the
record says; and all else is as it is in the value. So an item has a key that is empty or no text
exactly if the record gives none and such a one is in its value.
-/
theorem stores_records {α : Type} {op : Job α} {records : List Record}
    (storing : IsStoring base op records) (desk : Desk) (turns : List Turn) (c : Course α)
    (run : (Course.start desk op).run turns = some c) :
    c.scene.Stores records ∧
    ((∀ item ∈ c.scene.stored, item.HasWireKey) ↔
      ∀ r ∈ records.take c.scene.stored.length, r.SettlesKey) := by
  have stores := (Course.keeps_of_run (keeps_of_isStoring storing desk) run).inv
  refine ⟨stores, ?_⟩
  rw [Scene.Stores] at stores
  generalize c.scene.stored = items at stores ⊢
  generalize records.take items.length = sent at stores ⊢
  induction stores with
  | nil => simp
  | cons becomes _ ih =>
    obtain ⟨now, -, fields, rfl, storedAs⟩ := becomes
    simp [storedAs.hasWireKey_iff, ih]

/-- The key that the record gives takes the place of the one in its value. -/
theorem stores_records_given : ∃ c,
    (Course.start ⟨none, [], []⟩ (put "users" [⟨.text "a", [("key", .nat 5)], none, none⟩])).run
      [.date none, .serve, .serve] = some c ∧
    IsStoring "users" (put "users" [⟨.text "a", [("key", .nat 5)], none, none⟩])
      [⟨.text "a", [("key", .nat 5)], none, none⟩] ∧
    c.scene.stored = [.record [("key", .text "a")]] ∧
    ∀ item ∈ c.scene.stored, item.HasWireKey := by
  refine ⟨_, rfl, .put _, rfl, ?_⟩
  have shown := stores_records (IsStoring.put [⟨.text "a", [("key", .nat 5)], none, none⟩] :
    IsStoring "users" _ _) ⟨none, [], []⟩ [.date none, .serve, .serve] _ rfl
  refine shown.2.mpr fun r hr => .inl ?_
  rw [List.mem_singleton.mp (List.mem_of_mem_take hr)]
  nofun

/-- An operation sends no item whose key is empty or no text. -/
def KeepsKeys {α : Type} (op : Job α) : Prop :=
  ∀ desk turns c, (Course.start desk op).run turns = some c →
    ∀ item ∈ c.scene.stored, item.HasWireKey

/-- The record gives no key, and the one in its value is empty. -/
theorem not_keepsKeys_emptyKey :
    ¬ KeepsKeys (put "users" [⟨.absent, [("key", .text "")], none, none⟩]) := by
  intro keeps
  have sent : ∃ c, (Course.start ⟨none, [], []⟩
      (put "users" [⟨.absent, [("key", .text "")], none, none⟩])).run
        [.date none, .serve, .serve] = some c ∧
      c.scene.stored = [.record [("key", .text "")]] := ⟨_, rfl, rfl⟩
  obtain ⟨c, run, stored⟩ := sent
  exact Value.not_isWireKey_empty (keeps _ _ c run (.record [("key", .text "")]) (by simp [stored]))

end Base
end Depot
