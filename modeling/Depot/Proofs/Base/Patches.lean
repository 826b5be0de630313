import Depot.Base.Operations
import Depot.Proofs.Incidents
import Depot.Proofs.Value.Members
/-!
# Patches and their history

A patch is told by the changes that were made, kind by kind: which fields were changed in that way,
each at the place of its first change and with the value of its last. The kinds do not meet, so
changes of different kinds can be made in any order. An update without changes is refused, and any
other sends them.
-/
namespace Depot

namespace Patch

/-- How a change changes a field. -/
inductive Kind where
  | set | increment | append | prepend | delete
  deriving DecidableEq

namespace Kind

def all : List Kind := [.set, .increment, .append, .prepend, .delete]

/-- The member of an update that holds the changes of a kind. -/
def name : Kind → String
  | .set => "set"
  | .increment => "increment"
  | .append => "append"
  | .prepend => "prepend"
  | .delete => "delete"

theorem name_injective {k k' : Kind} (h : k.name = k'.name) : k = k' := by
  cases k <;> cases k' <;> first | rfl | simp [name] at h

end Kind

namespace Change

def kind : Change → Kind
  | .set .. => .set
  | .increment .. => .increment
  | .append .. => .append
  | .prepend .. => .prepend
  | .delete .. => .delete

def field : Change → String
  | .set field _ | .increment field _ | .append field _ | .prepend field _ | .delete field => field

/-- What a change gives to its field; a deletion gives nothing. -/
def value : Change → Value
  | .set _ value | .append _ value | .prepend _ value => value
  | .increment _ amount => .number amount
  | .delete _ => .absent

end Change

/-! ## The payload of a history -/

section History
variable (k : Kind) (changes : List Change)

/-- What was given to fields in one way, change by change. -/
def given : Table Value := (changes.filter (·.kind = k)).map fun c => (c.field, c.value)

/-- The fields that were changed in one way, each once, in order of first change. -/
def fieldsOf : List String := (given k changes).keys.eraseDups

/-- The fields that were changed in one way, with what was given to them last. -/
def entriesOf : Table Value :=
  (fieldsOf k changes).filterMap fun field => ((given k changes).last? field).map (field, ·)

/-- What an update holds about the changes of one kind. -/
def bucketOf : Value :=
  match k with
  | .delete => .texts (fieldsOf k changes)
  | _ => .record (Member.arranged (entriesOf k changes))

/-- What an update holds about its changes: each kind that has occurred. -/
def reference (changes : List Change) : Fields :=
  (Kind.all.filter fun k => changes.any (·.kind = k)).map fun k => (k.name, bucketOf k changes)

/-- What a patch holds about the changes of one kind. -/
def table (p : Patch) : Kind → Table Value
  | .set => p.sets
  | .increment => p.increments.map fun e => (e.1, .number e.2)
  | .append => p.appends
  | .prepend => p.prepends
  | .delete => p.deletes.map (·, .absent)

end History

section Changing
variable (p : Patch) (c : Change) (k : Kind) (changes : List Change)

theorem table_delete_change (field : String) :
    (p.change (.delete field)).table .delete = Table.put field .absent (p.table .delete) := by
  have put (fields : List String) : Table.put field .absent (fields.map (·, Value.absent)) =
      (if fields.contains field then fields else fields ++ [field]).map fun f => (f, .absent) := by
    induction fields with
    | nil => rfl
    | cons f rest ih =>
      by_cases same : f = field
      · simp [Table.put, same]
      · by_cases later : field ∈ rest
        · simpa [Table.put, same, later] using ih
        · simpa [Table.put, same, Ne.symm same, later] using ih
  rw [table, table, put, change]
  split <;> rfl

theorem table_change : (p.change c).table k =
    if c.kind = k then (p.table k).put c.field c.value else p.table k := by
  cases c with
  | delete field =>
    cases k with
    | delete => exact p.table_delete_change field
    | _ =>
      rw [change]
      split <;> rfl
  | increment field amount =>
    cases k with
    | increment =>
      rw [if_pos (show (Change.increment field amount).kind = .increment from rfl)]
      exact (Table.put_map _ field amount p.increments).symm
    | _ => rfl
  | _ => cases k <;> rfl

theorem changeAll_append_singleton :
    p.changeAll (changes ++ [c]) = (p.changeAll changes).change c := by
  simp [changeAll]

theorem given_append_singleton : given k (changes ++ [c]) =
    given k changes ++ if c.kind = k then [(c.field, c.value)] else [] := by
  by_cases same : c.kind = k <;> simp [given, same]

theorem table_changeAll : (empty.changeAll changes).table k = Table.putAll (given k changes) := by
  induction changes using List.reverseRecOn with
  | nil => cases k <;> rfl
  | append_singleton changes c ih =>
    rw [changeAll_append_singleton, table_change, given_append_singleton]
    split
    · rw [ih, Table.putAll_append_singleton]
    · rw [ih, List.append_nil]

theorem keys_table : ((empty.changeAll changes).table k).keys = fieldsOf k changes := by
  rw [table_changeAll, Table.keys_putAll, fieldsOf]

theorem kind_mem_all : k ∈ Kind.all := by cases k <;> decide

def held : Value :=
  match k with
  | .delete => .texts p.deletes
  | _ => .ofFields (p.table k)

theorem payload_eq :
    p.payload = (Kind.all.filter fun k => !(p.table k).isEmpty).map fun k => (k.name, p.held k) := by
  obtain ⟨sets, increments, appends, prepends, deletes⟩ := p
  -- each member is there or not, so that all cases are closed lists
  let part (name : String) (fields : Table Value) : Fields :=
    if fields.isEmpty then [] else [(name, .ofFields fields)]
  change part "set" sets ++
    part "increment" (increments.map fun e => (e.1, .number e.2)) ++ part "append" appends ++
      part "prepend" prepends ++ (if deletes.isEmpty then [] else [("delete", .texts deletes)]) = _
  cases sets <;> cases increments <;> cases appends <;> cases prepends <;> cases deletes <;> rfl

theorem held_changeAll : (empty.changeAll changes).held k = bucketOf k changes := by
  have members (k : Kind) : Value.ofFields ((empty.changeAll changes).table k) =
      .record (Member.arranged (entriesOf k changes)) := by
    rw [Value.ofFields, table_changeAll, Member.ofEntries_eq_arranged (Table.nodup_keys_putAll _),
      Table.putAll_eq, entriesOf, fieldsOf]
  cases k with
  | delete =>
    have fields : (empty.changeAll changes).deletes = fieldsOf .delete changes := by
      simpa [table, Table.keys, Function.comp_def] using keys_table .delete changes
    rw [held, bucketOf, fields]
  | _ => exact members _

theorem isEmpty_table_iff : ((empty.changeAll changes).table k).isEmpty = false ↔
    ∃ c ∈ changes, c.kind = k := by
  have keys := keys_table k changes
  rw [Table.keys] at keys
  rw [← Bool.not_eq_true, List.isEmpty_iff, ← List.map_eq_nil_iff (f := Prod.fst), keys,
    List.eq_nil_iff_forall_not_mem]
  simp [fieldsOf, given, Table.keys, List.mem_eraseDups]

theorem payload_changeAll : (empty.changeAll changes).payload = reference changes := by
  have occurs (k : Kind) : (!((empty.changeAll changes).table k).isEmpty) =
      changes.any (·.kind = k) := by
    rw [Bool.eq_iff_iff, Bool.not_eq_true', isEmpty_table_iff]
    simp
  rw [payload_eq, reference]
  simp only [occurs, held_changeAll]

theorem get?_reference : Table.get? k.name (reference changes) =
    if ∃ c ∈ changes, c.kind = k then some (bucketOf k changes) else none := by
  have found (kinds : List Kind) : Table.get? k.name (kinds.map fun k =>
      (k.name, bucketOf k changes)) = if k ∈ kinds then some (bucketOf k changes) else none := by
    induction kinds with
    | nil => rfl
    | cons k' rest ih =>
      rw [List.map_cons, Table.get?]
      by_cases same : k' = k
      · simp [same]
      · have apart : k'.name ≠ k.name := fun h => same (Kind.name_injective h)
        rw [if_neg apart, ih]
        simp [Ne.symm same]
  rw [reference, found]
  simp [kind_mem_all]

theorem bucketOf_congr {changes' : List Change}
    (same : changes'.filter (·.kind = k) = changes.filter (·.kind = k)) :
    bucketOf k changes' = bucketOf k changes := by
  have given : given k changes' = given k changes := by rw [Patch.given, same, Patch.given]
  have fields : fieldsOf k changes' = fieldsOf k changes := by rw [fieldsOf, given, fieldsOf]
  have entries : entriesOf k changes' = entriesOf k changes := by
    simp only [entriesOf, fields, given]
  cases k <;> simp only [bucketOf, fields, entries]

end Changing

/-- Only the order of changes of one kind makes a difference. -/
theorem reference_congr {changes changes' : List Change}
    (same : ∀ k, changes'.filter (·.kind = k) = changes.filter (·.kind = k)) :
    reference changes' = reference changes := by
  have occurs (k : Kind) : changes'.any (·.kind = k) = changes.any (·.kind = k) := by
    have some_filtered (l : List Change) :
        l.any (·.kind = k) = (l.filter (·.kind = k)).any fun _ => true := by simp [List.any_filter]
    rw [some_filtered, same, some_filtered]
  simp only [reference, occurs, bucketOf_congr _ _ (same _)]

theorem filter_swap {a b : Change} (apart : a.kind ≠ b.kind) (before after : List Change) (k : Kind) :
    (before ++ b :: a :: after).filter (·.kind = k) =
      (before ++ a :: b :: after).filter (·.kind = k) := by
  by_cases first : a.kind = k <;> by_cases second : b.kind = k
  · exact absurd (first.trans second.symm) apart
  all_goals simp [first, second]

theorem isEmpty_iff_payload (p : Patch) : p.isEmpty = true ↔ p.payload = [] := by
  have tables : p.isEmpty = Kind.all.all fun k => (p.table k).isEmpty := by
    simp [isEmpty, Kind.all, table, Bool.and_assoc]
  rw [payload_eq, List.map_eq_nil_iff, List.filter_eq_nil_iff, tables, List.all_eq_true]
  simp

end Patch

namespace Base

/-- The call that applies a patch to an item. -/
def patchCall (key : String) (p : Patch) : Call := .sending .patch (itemPath key) p.payload

variable {key : String} {p : Patch}

theorem update_eq_fail (empty : p.isEmpty = true) (full : key ≠ "") :
    update (.text key) p = Job.fail Precondition.operationsToUpdate.failure := by
  have valid : validKey (.text key) = .ok key := by simp [validKey, full]
  rw [update, valid, empty]
  rfl

theorem update_eq_exchangeAs (some_change : p.isEmpty = false) (full : key ≠ "") :
    update (.text key) p = Job.exchangeAs UpdateAnswer.decode (patchCall key p) := by
  have valid : validKey (.text key) = .ok key := by simp [validKey, full]
  rw [update, valid, some_change]
  rfl

/-- An update fails for want of changes, before it has done anything. -/
def RefusesUpdate (key : String) (p : Patch) : Prop :=
  ∀ desk turns c, (Course.start desk (update (.text key) p)).run turns = some c →
    c.Refused Precondition.operationsToUpdate.failure

/-- An update sends the patch once and nothing else, and ends. -/
def SendsPatch (key : String) (p : Patch) : Prop :=
  ∀ desk turns c, (Course.start desk (update (.text key) p)).run turns = some c →
    c.scene.sent <+: [patchCall key p] ∧
    c.Surely fun c => c.scene.sent = [patchCall key p] ∧ ∃ result, c.result? = some result

theorem refusesUpdate (empty : p.isEmpty = true) (full : key ≠ "") : RefusesUpdate key p := by
  intro desk turns c run
  rw [update_eq_fail empty full] at run
  have begins : (Job.fail Precondition.operationsToUpdate.failure : Job UpdateAnswer).Keeps
      Scene.Silent (fun result _ => result = some (.error Precondition.operationsToUpdate.failure))
      ⟨[], desk, []⟩ := ⟨⟨rfl, rfl⟩, rfl⟩
  exact Course.refused_of_keeps (Course.keeps_of_run begins run)

theorem sendsPatch (some_change : p.isEmpty = false) (full : key ≠ "") : SendsPatch key p := by
  intro desk turns c run
  rw [update_eq_exchangeAs some_change full] at run
  let OnlyPatch (s : Scene) : Prop := s.sent <+: [patchCall key p]
  have deaf : Scene.Deaf OnlyPatch := fun s r h => by simpa [OnlyPatch] using h
  have begins : (Job.exchangeAs UpdateAnswer.decode (patchCall key p)).Keeps OnlyPatch
      (fun result s => s.sent = [patchCall key p] ∧ result ≠ none) ⟨[], desk, []⟩ := by
    refine (Job.keeps_exchangeAs_exchanged deaf rfl ?_ ?_ ?_).mono ?_
    · exact List.nil_prefix
    · exact List.prefix_rfl
    · exact fun moves a => List.prefix_rfl
    · rintro result s' - ⟨moves, a, rfl, rfl⟩
      exact ⟨Scene.sent_exchanged .., nofun⟩
  have kept := Course.keeps_of_run begins run
  refine ⟨kept.inv, (Course.surely_of_keeps kept).mono fun c hc => ?_⟩
  rcases hc with ⟨result, ended, sent, -⟩ | ⟨-, -, stalled⟩
  · exact ⟨sent, result, ended⟩
  · exact absurd rfl stalled

theorem not_refusesUpdate (some_change : p.isEmpty = false) (full : key ≠ "") :
    ¬ RefusesUpdate key p := by
  intro refuses
  -- two turns are enough for the update to send the patch
  have sends : ∃ c, (Course.start ⟨none, [], []⟩ (update (.text key) p)).run [.serve, .serve] =
      some c ∧ c.scene.sent = [patchCall key p] := by
    rw [update_eq_exchangeAs some_change full]
    exact ⟨_, rfl, rfl⟩
  obtain ⟨c, run, sent⟩ := sends
  rw [(refuses _ _ c run).silent.1] at sent
  cases sent

theorem refusesUpdate_iff (full : key ≠ "") : RefusesUpdate key p ↔ p.isEmpty = true := by
  constructor
  · intro refuses
    by_contra some_change
    exact not_refusesUpdate (Bool.not_eq_true _ ▸ some_change) full refuses
  · exact fun empty => refusesUpdate empty full

theorem request_patchCall (e : Endpoint) (key : String) (p : Patch) :
    (e.request (patchCall key p)).method = "PATCH" ∧
      (e.request (patchCall key p)).body = .text (Value.record p.payload).json := ⟨rfl, rfl⟩

end Base

namespace Patch

/--
The payload of a patch is the reference of its history: it has a member for each kind of change that
has occurred, which tells the fields that were changed like this, each at its first change and with
its last value. What it tells of one kind is no matter of the changes of others, so neighbouring
changes of different kinds can be swapped. A patch is empty exactly if its payload is, and exactly
then an update refuses it; any other patch is sent, once, and its payload is the body.
-/
theorem payload_reflects_history (changes : List Change) (key : String) (full : key ≠ "") :
    (empty.changeAll changes).payload = reference changes ∧
    (∀ k : Kind, Table.get? k.name (empty.changeAll changes).payload =
      if ∃ c ∈ changes, c.kind = k then some (bucketOf k changes) else none) ∧
    (∀ c k, c.kind ≠ k →
      Table.get? k.name (empty.changeAll (changes ++ [c])).payload =
        Table.get? k.name (empty.changeAll changes).payload) ∧
    (∀ before a b after, changes = before ++ a :: b :: after → a.kind ≠ b.kind →
      (empty.changeAll (before ++ b :: a :: after)).payload =
        (empty.changeAll changes).payload) ∧
    ((empty.changeAll changes).isEmpty = true ↔ (empty.changeAll changes).payload = []) ∧
    ((empty.changeAll changes).isEmpty = true ↔
      Base.RefusesUpdate key (empty.changeAll changes)) ∧
    ((empty.changeAll changes).isEmpty = false →
      Base.SendsPatch key (empty.changeAll changes) ∧
      ∀ e : Endpoint, (e.request (Base.patchCall key (empty.changeAll changes))).method = "PATCH" ∧
        (e.request (Base.patchCall key (empty.changeAll changes))).body =
          .text (Value.record (reference changes)).json) := by
  refine ⟨payload_changeAll changes, fun k => ?_, fun c k apart => ?_, ?_, isEmpty_iff_payload _,
    (Base.refusesUpdate_iff full).symm, fun some_change => ⟨Base.sendsPatch some_change full,
      fun e => ?_⟩⟩
  · rw [payload_changeAll, get?_reference]
  · have same : (changes ++ [c]).filter (·.kind = k) = changes.filter (·.kind = k) := by
      simp [apart]
    have occurs : (∃ d ∈ changes ++ [c], d.kind = k) ↔ ∃ d ∈ changes, d.kind = k := by
      simp [apart]
    rw [payload_changeAll, payload_changeAll, get?_reference, get?_reference,
      bucketOf_congr k changes same]
    simp only [occurs]
  · rintro before a b after rfl apart
    rw [payload_changeAll, payload_changeAll]
    exact reference_congr fun k => filter_swap apart before after k
  · rw [← payload_changeAll]
    exact Base.request_patchCall e key _

/-- A field with an index goes before one that was set earlier; a deletion of it does nothing to
that. -/
theorem payload_reflects_history_mixed :
    ("a" ≠ "") ∧
    (empty.changeAll [.set "b" (.nat 1), .set "7" .null, .delete "b", .set "b" (.nat 2)]).payload =
      [("set", .record [("7", .null), ("b", .nat 2)]), ("delete", .texts ["b"])] ∧
    Base.SendsPatch "a" (empty.changeAll
      [.set "b" (.nat 1), .set "7" .null, .delete "b", .set "b" (.nat 2)]) := by
  have reflects := payload_reflects_history
    [.set "b" (.nat 1), .set "7" .null, .delete "b", .set "b" (.nat 2)] "a" (by decide)
  refine ⟨by decide, ?_, ?_⟩
  · rw [reflects.1]
    rfl
  · exact (reflects.2.2.2.2.2.2 rfl).1

end Patch
end Depot
