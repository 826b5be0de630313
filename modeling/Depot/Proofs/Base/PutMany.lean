import Depot.Base.Operations
import Depot.Proofs.Exchange
/-!
# Bulk puts check batch by batch

A bulk put looks at the keys of a batch when its turn comes. So a record whose key is not
valid is refused before anything is sent only if it is in the first batch.
-/
namespace Depot

namespace Record

/-- The key of a record, if it has one, is a text that is not empty. -/
def HasValidKey (r : Record) : Prop := r.key = .absent ∨ ∃ s, r.key = .text s ∧ s ≠ ""

variable {r : Record} {rs : List Record}

theorem not_hasValidKey_of_empty (h : r.key = .text "") : ¬ r.HasValidKey := by
  rintro (absent | ⟨s, text, full⟩)
  · rw [h] at absent
    cases absent
  · rw [h] at text
    cases text
    exact full rfl

theorem serialize_eq_ok (h : r.HasValidKey) (now : Option Instant) :
    ∃ fields, r.serialize now = .ok fields := by
  obtain ⟨key, value, expiresIn, expiresAt⟩ := r
  rcases h with rfl | ⟨s, rfl, full⟩
  · exact ⟨_, rfl⟩
  · have valid : validKey (.text s) = .ok s := by simp [validKey, full]
    simp only [serialize, valid]
    exact ⟨_, rfl⟩

theorem serialize_eq_error (h : ¬ r.HasValidKey) (now : Option Instant) :
    r.serialize now = .error Precondition.keyIsText.failure := by
  obtain ⟨key, value, expiresIn, expiresAt⟩ := r
  cases key with
  | absent => exact absurd (.inl rfl) h
  | text s =>
    by_cases empty : s = ""
    · subst empty
      rfl
    · exact absurd (.inr ⟨s, rfl, empty⟩) h
  | _ => rfl

theorem mapM_serialize_eq_ok (h : ∀ r ∈ rs, r.HasValidKey) (now : Option Instant) :
    ∃ items, rs.mapM (·.serialize now) = .ok items := by
  induction rs with
  | nil => exact ⟨[], rfl⟩
  | cons r rest ih =>
    obtain ⟨fields, first⟩ := serialize_eq_ok (h r (List.mem_cons_self ..)) now
    obtain ⟨items, others⟩ := ih fun r hr => h r (List.mem_cons_of_mem _ hr)
    refine ⟨fields :: items, ?_⟩
    rw [List.mapM_cons, first, others]
    rfl

theorem mapM_serialize_eq_error (h : ∃ r ∈ rs, ¬ r.HasValidKey) (now : Option Instant) :
    rs.mapM (·.serialize now) = .error Precondition.keyIsText.failure := by
  induction rs with
  | nil => simp at h
  | cons r rest ih =>
    rw [List.mapM_cons]
    by_cases valid : r.HasValidKey
    · obtain ⟨fields, first⟩ := serialize_eq_ok valid now
      have later : ∃ r ∈ rest, ¬ r.HasValidKey := by
        obtain ⟨r', hr', bad⟩ := h
        rcases List.mem_cons.mp hr' with rfl | hr'
        · exact absurd valid bad
        · exact ⟨r', hr', bad⟩
      rw [first, ih later]
      rfl
    · rw [serialize_eq_error valid]
      rfl

end Record

namespace Base
variable {base : String} {records : List Record}

theorem putMany_eq (some : records ≠ []) : putMany base records =
    put base (records.take maxPutRecords) >>= fun result =>
      putBatches base (batches maxPutRecords (records.drop maxPutRecords))
        (PutResult.empty.append result) := by
  have full : (!records.isEmpty) = true := by simpa using some
  have first : batches maxPutRecords records =
      records.take maxPutRecords :: batches maxPutRecords (records.drop maxPutRecords) := by
    rw [batches, if_neg]
    simp [some, maxPutRecords]
  rw [putMany, first, full]
  rfl

theorem put_eq (some : records ≠ []) (few : records.length ≤ maxPutRecords) :
    put base records = .clock fun now => do
      let items ← Job.ofOutcome (records.mapM (·.serialize now))
      let answer ← Job.exchangeAs PutAnswer.decode
        (.sending .put "/items" [("items", .list (items.map .record))])
      let result : PutResult := ⟨answer.processed.getD [], answer.failed.getD []⟩
      Job.sayAll (putReports base result)
      return result := by
  have full : (!records.isEmpty) = true := by simpa using some
  have fits : decide (records.length ≤ maxPutRecords) = true := by simpa using few
  rw [put, full, fits]
  rfl

/-- A bulk put refuses its records for a key that is not valid, before it has done anything. -/
def RefusesAtOnce (base : String) (records : List Record) : Prop :=
  ∀ desk turns c, (Course.start desk (putMany base records)).run turns = some c →
    c.Refused Precondition.keyIsText.failure

theorem refusesAtOnce_of_first (bad : ∃ r ∈ records.take maxPutRecords, ¬ r.HasValidKey) :
    RefusesAtOnce base records := by
  intro desk turns c run
  have some_record : records.take maxPutRecords ≠ [] := by
    obtain ⟨r, hr, -⟩ := bad
    exact List.ne_nil_of_mem hr
  have begins : (putMany base records).Keeps Scene.Silent
      (fun result _ => result = some (.error Precondition.keyIsText.failure)) ⟨[], desk, []⟩ := by
    have some_left : records ≠ [] := fun none_left => some_record (by rw [none_left]; rfl)
    rw [putMany_eq some_left, put_eq some_record (List.length_take_le ..)]
    refine ⟨⟨rfl, rfl⟩, fun now => ?_⟩
    simp only [Record.mapM_serialize_eq_error bad]
    exact ⟨⟨rfl, rfl⟩, rfl⟩
  exact Course.refused_of_keeps (Course.keeps_of_run begins run)

/-- A first batch whose keys are valid is sent. -/
theorem sends_first (base : String) (some_record : records ≠ [])
    (valid : ∀ r ∈ records.take maxPutRecords, r.HasValidKey) (desk : Desk) :
    ∃ c, (Course.start desk (putMany base records)).run [.date none, .serve, .serve] = some c ∧
      c.scene.sent ≠ [] := by
  have some_first : records.take maxPutRecords ≠ [] := by
    simpa [maxPutRecords] using some_record
  obtain ⟨items, serialized⟩ := Record.mapM_serialize_eq_ok valid none
  rw [putMany_eq some_record, put_eq some_first (List.length_take_le ..)]
  have dated (next : Option Instant → Job PutResult) (f : PutResult → Job PutResult) :
      (Course.start desk (.clock next >>= f)).run [.date none, .serve, .serve] =
        Course.run [.serve, .serve] ⟨next none >>= f, _⟩ := rfl
  rw [dated]
  simp only [serialized]
  exact ⟨_, rfl, List.cons_ne_nil _ _⟩

/--
A bulk put with a key that is not valid is refused before it has done anything exactly if such a
key is in the first batch; otherwise that batch is sent first.
-/
theorem refusesAtOnce_iff_first_batch (base : String) (records : List Record)
    (bad : ∃ r ∈ records, ¬ r.HasValidKey) :
    RefusesAtOnce base records ↔ ∃ r ∈ records.take maxPutRecords, ¬ r.HasValidKey := by
  constructor
  · intro refuses
    by_cases first : ∃ r ∈ records.take maxPutRecords, ¬ r.HasValidKey
    · exact first
    · have valid : ∀ r ∈ records.take maxPutRecords, r.HasValidKey := by
        intro r hr
        by_cases valid : r.HasValidKey
        · exact valid
        · exact absurd ⟨r, hr, valid⟩ first
      have some_record : records ≠ [] := by
        obtain ⟨r, hr, -⟩ := bad
        exact List.ne_nil_of_mem hr
      obtain ⟨c, run, sent⟩ := sends_first base some_record valid ⟨none, [], []⟩
      exact absurd (refuses _ _ c run).silent.1 sent
  · exact refusesAtOnce_of_first

/-- The second of two keys is empty. -/
theorem refusesAtOnce_second_key :
    (∃ r ∈ [⟨.text "a", [], none, none⟩, ⟨.text "", [], none, none⟩], ¬ Record.HasValidKey r) ∧
    RefusesAtOnce "users" [⟨.text "a", [], none, none⟩, ⟨.text "", [], none, none⟩] := by
  have bad : ∃ r ∈ [⟨.text "a", [], none, none⟩, ⟨.text "", [], none, none⟩],
      ¬ Record.HasValidKey r :=
    ⟨⟨.text "", [], none, none⟩, by simp, Record.not_hasValidKey_of_empty rfl⟩
  exact ⟨bad, (refusesAtOnce_iff_first_batch "users" _ bad).mpr bad⟩

/-- After 25 records without a key comes one whose key is empty. -/
def lateKey : List Record :=
  List.replicate 25 ⟨.absent, [], none, none⟩ ++ [⟨.text "", [], none, none⟩]

theorem not_refusesAtOnce_lateKey :
    (∃ r ∈ lateKey, ¬ r.HasValidKey) ∧ ¬ RefusesAtOnce "users" lateKey := by
  refine ⟨⟨⟨.text "", [], none, none⟩, by simp [lateKey], Record.not_hasValidKey_of_empty rfl⟩, ?_⟩
  intro refuses
  have first : lateKey.take maxPutRecords = List.replicate 25 ⟨.absent, [], none, none⟩ := rfl
  have valid : ∀ r ∈ lateKey.take maxPutRecords, r.HasValidKey := by
    intro r hr
    rw [first] at hr
    rw [List.eq_of_mem_replicate hr]
    exact .inl rfl
  obtain ⟨c, run, sent⟩ := sends_first "users" (by simp [lateKey]) valid ⟨none, [], []⟩
  exact sent (refuses _ _ c run).silent.1

end Base
end Depot
