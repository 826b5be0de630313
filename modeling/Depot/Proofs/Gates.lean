import Depot.Drive.Upload
import Depot.Proofs.Base.PutMany
import Depot.Proofs.Drive.Single
import Depot.Proofs.World.AskingOnce
import Depot.Query.Walk
/-!
# Gates

Before an operation sends its request it looks at its arguments, one requirement after the other. The
first that is not met is what it fails with, and then nothing has happened. If all are met, then
exactly one request is sent.
-/
namespace Depot

/-- What is required of the arguments of an operation, and the precondition that they break
otherwise. -/
structure Requirement where
  precondition : Precondition
  met : Prop

namespace Requirement

/-- The precondition of the first requirement that is not met. -/
inductive FirstBroken : List Requirement → Precondition → Prop where
  | here {r : Requirement} {rest : List Requirement} (broken : ¬ r.met) :
    FirstBroken (r :: rest) r.precondition
  | later {r : Requirement} {rest : List Requirement} {p : Precondition} (met : r.met)
      (later : FirstBroken rest p) : FirstBroken (r :: rest) p

theorem exists_firstBroken_or_all (rs : List Requirement) :
    (∃ p, FirstBroken rs p) ∨ ∀ r ∈ rs, r.met := by
  induction rs with
  | nil => exact .inr fun r hr => absurd hr List.not_mem_nil
  | cons r rest ih =>
    by_cases met : r.met
    · rcases ih with ⟨p, later⟩ | all
      · exact .inl ⟨p, .later met later⟩
      · exact .inr (List.forall_mem_cons.mpr ⟨met, all⟩)
    · exact .inl ⟨r.precondition, .here met⟩

end Requirement

namespace Job
variable {α β : Type} {rs : List Requirement}

/-- The job fails at once with the first requirement that is not met, and asks once if all are. -/
structure Gated (rs : List Requirement) (j : Job α) : Prop where
  refuses : ∀ p, Requirement.FirstBroken rs p → j.FailsAtOnce p.failure
  asks : (∀ r ∈ rs, r.met) → j.AsksOnce

theorem AsksOnce.gated {j : Job α} (h : j.AsksOnce) : j.Gated [] where
  refuses _ broken := nomatch broken
  asks _ := h

theorem gated_clock {next : Option Instant → Job α} (h : ∀ t, (next t).Gated rs) :
    (clock next).Gated rs where
  refuses p broken t := (h t).refuses p broken
  asks all t := (h t).asks all

theorem gated_query {ref : Nat} {next : Query → Job α} (h : ∀ q, (next q).Gated rs) :
    (query ref next).Gated rs where
  refuses p broken q := (h q).refuses p broken
  asks all q := (h q).asks all

/-- A check in front of a job is its first requirement. -/
theorem gated_check {x : Outcome β} {f : β → Job α} {r : Requirement}
    (broken : ¬ r.met → x = .error r.precondition.failure)
    (met : r.met → ∃ b, x = .ok b ∧ (f b).Gated rs) : (ofOutcome x >>= f).Gated (r :: rs) where
  refuses p first := by
    cases first with
    | here unmet =>
      rw [broken unmet]
      rfl
    | later holds later =>
      obtain ⟨b, rfl, gated⟩ := met holds
      exact gated.refuses p later
  asks all := by
    obtain ⟨holds, others⟩ := List.forall_mem_cons.mp all
    obtain ⟨b, rfl, gated⟩ := met holds
    exact gated.asks others

theorem gated_require {holds : Bool} {met : Prop} {p : Precondition} {f : Unit → Job α}
    (same : holds = true ↔ met) (h : (f ()).Gated rs) :
    (require holds p >>= f).Gated (⟨p, met⟩ :: rs) := by
  have check : require holds p = ofOutcome (if holds then .ok () else .error p.failure) := by
    cases holds <;> rfl
  rw [check]
  apply gated_check
  · intro broken
    exact if_neg fun h => broken (same.mp h)
  · intro met
    exact ⟨(), if_pos (same.mpr met), h⟩

end Job

/-- A key of an item: a text that is not empty. -/
def Value.IsKey (v : Value) : Prop := ∃ s, v = .text s ∧ s ≠ ""

/-- A chunk size is a natural number from one to the limit. -/
def Requirement.chunkSize (x : Float) : Requirement :=
  ⟨.chunkSizeInRange x, ∃ n, Number.natural? x = some n ∧ 0 < n ∧ n ≤ maxChunkSize⟩

/-- A concurrency is a natural number from one on. -/
def Requirement.concurrency (x : Float) : Requirement :=
  ⟨.concurrencyPositive x, ∃ n, Number.natural? x = some n ∧ 0 < n⟩

/-- What is required of the options of an upload that are given. -/
def Drive.UploadOptions.requirements (o : Drive.UploadOptions) : List Requirement :=
  o.chunkSize.toList.map .chunkSize ++ o.concurrency.toList.map .concurrency

/-- The operations that send a single request, and what they require of their arguments. An upload is
one of them if its content is not larger than the chunk size. -/
inductive Job.IsSingle : {α : Type} → Job α → List Requirement → Prop where
  | get (key : Value) : IsSingle (Base.get key) [⟨.keyIsText, key.IsKey⟩]
  | delete (key : Value) : IsSingle (Base.delete key) [⟨.keyIsText, key.IsKey⟩]
  | update (key : Value) (p : Patch) : IsSingle (Base.update key p)
      [⟨.keyIsText, key.IsKey⟩, ⟨.operationsToUpdate, p ≠ .empty⟩]
  | commit (key : Option String) (p : Patch) : IsSingle (Base.commit key p)
      [⟨.boundUpdater, key ≠ none⟩, ⟨.keyIsText, key ≠ some ""⟩,
        ⟨.operationsToUpdate, p ≠ .empty⟩]
  | insert (base : String) (r : Record) : IsSingle (Base.insert base r)
      [⟨.keyIsText, r.key ≠ .absent → r.key.IsKey⟩]
  | put (base : String) (rs : List Record) : IsSingle (Base.put base rs)
      [⟨.recordsToPut, rs ≠ []⟩, ⟨.recordsWithinLimit rs.length, rs.length ≤ maxPutRecords⟩,
        ⟨.keyIsText, ∀ r ∈ rs, r.key ≠ .absent → r.key.IsKey⟩]
  | runQuery (bound : Bool) (ref : Nat) : IsSingle (.query ref (Walk.fetch bound))
      [⟨.boundQuery, bound = true⟩]
  | list (o : Drive.ListOptions) : IsSingle (Drive.list o) []
  | download (name : String) : IsSingle (Drive.download name) [⟨.fileName, name ≠ ""⟩]
  | deleteFiles (names : List String) : IsSingle (Drive.delete names)
      [⟨.filesToDelete, names ≠ []⟩, ⟨.fileName, ∀ name ∈ names, name ≠ ""⟩]
  | store (saveAs : String) (content : Drive.FileContent) (o : Drive.UploadOptions)
      (whole : ∀ n, o.chunkSize.elim (some maxChunkSize) Number.natural? = some n →
        0 < n → n ≤ maxChunkSize → content.toBytes.size ≤ n) :
    IsSingle (Drive.store saveAs content o) (⟨.fileName, saveAs ≠ ""⟩ :: o.requirements)

open Job

theorem Value.validKey_eq_error {key : Value} (broken : ¬ key.IsKey) :
    validKey key = .error Precondition.keyIsText.failure := by
  cases key with
  | text s =>
    rw [validKey, if_pos]
    rw [String.isEmpty_iff]
    by_contra full
    exact broken ⟨s, rfl, full⟩
  | _ => rfl

theorem Record.hasValidKey_iff {r : Record} : r.HasValidKey ↔ (r.key ≠ .absent → r.key.IsKey) := by
  rw [HasValidKey, Classical.or_iff_not_imp_left]
  rfl

theorem Patch.isEmpty_iff {p : Patch} : p.isEmpty = true ↔ p = .empty := by
  obtain ⟨sets, increments, appends, prepends, deletes⟩ := p
  simp [isEmpty, empty, and_assoc]

namespace Base

theorem gated_validKey {α : Type} {key : Value} {met : Prop} {f : String → Job α}
    {rs : List Requirement} (same : key.IsKey ↔ met) (h : ∀ k, (f k).Gated rs) :
    (ofOutcome (validKey key) >>= f).Gated (⟨.keyIsText, met⟩ :: rs) := by
  apply gated_check
  · intro broken
    exact Value.validKey_eq_error fun valid => broken (same.mp valid)
  · intro holds
    obtain ⟨s, rfl, full⟩ := same.mpr holds
    exact ⟨s, by simp [validKey, full], h s⟩

theorem gated_get (key : Value) : (get key).Gated [⟨.keyIsText, key.IsKey⟩] :=
  gated_validKey .rfl fun _ => (asksOnce_exchangeAs _ _).gated

theorem gated_delete (key : Value) : (delete key).Gated [⟨.keyIsText, key.IsKey⟩] :=
  gated_validKey .rfl fun _ => (asksOnce_exchangeAs _ _).gated

theorem gated_update {key : Value} {met : Prop} (same : key.IsKey ↔ met) (p : Patch) :
    (update key p).Gated [⟨.keyIsText, met⟩, ⟨.operationsToUpdate, p ≠ .empty⟩] := by
  apply gated_validKey same
  intro k
  apply gated_require
  · rw [Bool.not_eq_true', ← Bool.not_eq_true, Patch.isEmpty_iff]
  · exact (asksOnce_exchangeAs _ _).gated

theorem gated_commit (key : Option String) (p : Patch) : (commit key p).Gated
    [⟨.boundUpdater, key ≠ none⟩, ⟨.keyIsText, key ≠ some ""⟩,
      ⟨.operationsToUpdate, p ≠ .empty⟩] := by
  have check : commit key p =
      ofOutcome (key.elim (.error Precondition.boundUpdater.failure) .ok) >>= fun k =>
        update (.text k) p := by
    cases key <;> rfl
  rw [check]
  apply gated_check
  · intro unbound
    rw [not_ne_iff.mp unbound]
    rfl
  · intro bound
    obtain ⟨k, rfl⟩ := Option.ne_none_iff_exists'.mp bound
    exact ⟨k, rfl, gated_update (by simp [Value.IsKey]) p⟩

theorem gated_insert (base : String) (r : Record) : (insert base r).Gated
    [⟨.keyIsText, r.key ≠ .absent → r.key.IsKey⟩] := by
  apply gated_clock
  intro now
  apply gated_check
  · intro broken
    exact Record.serialize_eq_error (fun valid => broken (Record.hasValidKey_iff.mp valid)) now
  · intro met
    obtain ⟨fields, serialized⟩ := Record.serialize_eq_ok (Record.hasValidKey_iff.mpr met) now
    refine ⟨fields, serialized, (asksOnce_exchangeAs_bind _ _ ?_).gated⟩
    intro created
    exact (endsIn_say _).andThen ⟨created, rfl⟩

theorem gated_put (base : String) (rs : List Record) : (put base rs).Gated
    [⟨.recordsToPut, rs ≠ []⟩, ⟨.recordsWithinLimit rs.length, rs.length ≤ maxPutRecords⟩,
      ⟨.keyIsText, ∀ r ∈ rs, r.key ≠ .absent → r.key.IsKey⟩] := by
  apply gated_require (by simp)
  apply gated_require (by simp)
  apply gated_clock
  intro now
  apply gated_check
  · intro broken
    apply Record.mapM_serialize_eq_error
    by_contra all
    apply broken
    intro r hr
    apply Record.hasValidKey_iff.mp
    by_contra bad
    exact all ⟨r, hr, bad⟩
  · intro met
    obtain ⟨items, serialized⟩ := Record.mapM_serialize_eq_ok
      (fun r hr => Record.hasValidKey_iff.mpr (met r hr)) now
    refine ⟨items, serialized, (asksOnce_exchangeAs_bind _ _ ?_).gated⟩
    intro answer
    exact (endsIn_sayAll _).andThen ⟨_, rfl⟩

end Base

namespace Drive
open Upload

theorem gated_download (name : String) : (download name).Gated [⟨.fileName, name ≠ ""⟩] := by
  apply gated_require (by simp)
  exact (asksOnce_exchange _).gated

theorem gated_delete (names : List String) : (delete names).Gated
    [⟨.filesToDelete, names ≠ []⟩, ⟨.fileName, ∀ name ∈ names, name ≠ ""⟩] := by
  apply gated_require (by simp)
  apply gated_require (by simp)
  exact (asksOnce_exchangeAs _ _).gated

theorem endsIn_tell (uploaded total : Nat) : (tell uploaded total).EndsIn (· = .ok ()) := by
  intro failure
  cases failure <;> rfl

theorem asksOnce_single (saveAs : String) (content : ByteArray) :
    (single saveAs content).AsksOnce := by
  apply asksOnce_exchangeAs_bind
  intro info
  apply (endsIn_say _).andThen
  apply (endsIn_tell _ _).andThen
  exact ⟨_, rfl⟩

section Store
variable {α β : Type} {o : UploadOptions} {rs : List Requirement}

/-- An option that is given is checked. -/
theorem gated_given {given : Option Float} {x : Outcome β} {required : Float → Requirement}
    {f : β → Job α} (absent : given = none → ∃ b, x = .ok b ∧ (f b).Gated rs)
    (broken : ∀ v, given = some v → ¬ (required v).met →
      x = .error (required v).precondition.failure)
    (met : ∀ v, given = some v → (required v).met → ∃ b, x = .ok b ∧ (f b).Gated rs) :
    (ofOutcome x >>= f).Gated (given.toList.map required ++ rs) := by
  cases given with
  | none =>
    obtain ⟨b, rfl, gated⟩ := absent rfl
    exact gated
  | some v => exact gated_check (broken v rfl) (met v rfl)

theorem chunkSize_eq_error {x : Float} (given : o.chunkSize = some x)
    (broken : ¬ (Requirement.chunkSize x).met) :
    o.chunkSizeOrDefault = .error (Precondition.chunkSizeInRange x).failure := by
  simp only [UploadOptions.chunkSizeOrDefault, given]
  cases sized : Number.natural? x with
  | none => rfl
  | some n => exact dif_neg fun fits => broken ⟨n, sized, fits⟩

theorem concurrency_eq_error {x : Float} (given : o.concurrency = some x)
    (broken : ¬ (Requirement.concurrency x).met) :
    o.concurrencyOrDefault = .error (Precondition.concurrencyPositive x).failure := by
  simp only [UploadOptions.concurrencyOrDefault, given]
  cases wide : Number.natural? x with
  | none => rfl
  | some n => exact dif_neg fun positive => broken ⟨n, wide, positive⟩

theorem gated_chunkSize {f : { n : Nat // 0 < n ∧ n ≤ maxChunkSize } → Job α}
    (h : ∀ n, o.chunkSize.elim (some maxChunkSize) Number.natural? = some n.1 → (f n).Gated rs) :
    (ofOutcome o.chunkSizeOrDefault >>= f).Gated (o.chunkSize.toList.map .chunkSize ++ rs) := by
  apply gated_given
  · intro absent
    have sized : o.chunkSize.elim (some maxChunkSize) Number.natural? = some maxChunkSize := by
      rw [absent]
      rfl
    exact ⟨_, chunkSize_eq_ok (by decide) (Nat.le_refl _) sized, h _ sized⟩
  · exact fun x given => chunkSize_eq_error given
  · intro x given met
    obtain ⟨n, natural, positive, small⟩ := met
    have sized : o.chunkSize.elim (some maxChunkSize) Number.natural? = some n := by
      rw [given]
      exact natural
    exact ⟨_, chunkSize_eq_ok positive small sized, h ⟨n, positive, small⟩ sized⟩

theorem gated_concurrency {f : { n : Nat // 0 < n } → Job α} (h : ∀ n, (f n).Gated rs) :
    (ofOutcome o.concurrencyOrDefault >>= f).Gated
      (o.concurrency.toList.map .concurrency ++ rs) := by
  apply gated_given
  · intro absent
    exact ⟨_, concurrency_eq_ok Nat.one_pos (by rw [absent]; rfl), h _⟩
  · exact fun x given => concurrency_eq_error given
  · intro x given met
    obtain ⟨n, natural, positive⟩ := met
    exact ⟨_, concurrency_eq_ok positive (by rw [given]; exact natural), h _⟩

theorem gated_store (saveAs : String) (content : FileContent) (o : UploadOptions)
    (whole : ∀ n, o.chunkSize.elim (some maxChunkSize) Number.natural? = some n →
      0 < n → n ≤ maxChunkSize → content.toBytes.size ≤ n) :
    (store saveAs content o).Gated (⟨.fileName, saveAs ≠ ""⟩ :: o.requirements) := by
  have checks : store saveAs content o =
      require (!saveAs.isEmpty) .fileName >>= fun _ =>
        ofOutcome o.chunkSizeOrDefault >>= fun size =>
          ofOutcome o.concurrencyOrDefault >>= fun width =>
            if content.toBytes.size ≤ size.1 then single saveAs content.toBytes
            else chunked saveAs content.toBytes ⟨size.1, width.1, size.2.1, width.2⟩ := by
    rw [store, upload, UploadOptions.plan]
    cases saveAs.isEmpty with
    | true => rfl
    | false =>
      cases o.chunkSizeOrDefault with
      | error f => rfl
      | ok size => cases o.concurrencyOrDefault <;> rfl
  rw [checks]
  apply gated_require (by simp)
  apply gated_chunkSize
  intro size sized
  rw [← List.append_nil (o.concurrency.toList.map _)]
  apply gated_concurrency
  intro width
  rw [if_pos (whole size.1 sized size.2.1 size.2.2)]
  exact (asksOnce_single saveAs content.toBytes).gated

end Store
end Drive

namespace Job.IsSingle
variable {α : Type} {j : Job α} {rs : List Requirement}

theorem gated (h : j.IsSingle rs) : j.Gated rs := by
  cases h with
  | get key => exact Base.gated_get key
  | delete key => exact Base.gated_delete key
  | update key p => exact Base.gated_update .rfl p
  | commit key p => exact Base.gated_commit key p
  | insert base r => exact Base.gated_insert base r
  | put base rs => exact Base.gated_put base rs
  | runQuery bound ref =>
    apply gated_query
    intro q
    apply gated_require .rfl
    exact (asksOnce_exchangeAs _ _).gated
  | list o => exact (asksOnce_exchangeAs _ _).gated
  | download name => exact Drive.gated_download name
  | deleteFiles names => exact Drive.gated_delete names
  | store saveAs content o whole => exact Drive.gated_store saveAs content o whole

end Job.IsSingle

namespace World

/-- The operation fails with a precondition, and nothing has happened: no request, no report, and no
response was used. -/
structure Refuses {α : Type} (w : World) (e : Endpoint) (j : Job α) (p : Precondition) : Prop where
  result : (w.run e j).1 = some (.error (.payload p.message p.details?))
  past : (w.run e j).2.past = w.past
  script : (w.run e j).2.script = w.script
  observer : (w.run e j).2.observer = w.observer

/-- The operation sends this call and no other, uses one of the responses if any is left, comes to what
the outcome of its request brings, and leaves nothing to itself. -/
structure AsksFor {α : Type} (w : World) (e : Endpoint) (j : Job α) (c : Call) : Prop where
  requests : (w.run e j).2.requests = w.requests ++ [e.request c]
  script : (w.run e j).2.script = w.script.tail
  result : ∃ result, (w.run e j).1 = some result ∧
    Exchange.Brings (w.brings (e.request c)) result
  flights : (w.run e j).2.flights = []
  chores : (w.run e j).2.chores = []

end World

/-- A world that keeps what is reported, and has one item to give. -/
def oneItem : World :=
  (World.start 0.0 .memory .handed [] (.empty none)).prepare
    [⟨.json (.record [("key", .text "a")]) 200.0, 0.0, [], []⟩]

end Depot
