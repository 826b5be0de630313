import Mathlib.Algebra.BigOperators.Group.List.Basic
import Mathlib.Algebra.Order.Floor.Div
import Depot.Proofs.Base.PutMany
import Depot.Proofs.Incidents
import Depot.Proofs.Report.Failures
/-!
# Bulk puts in batches

A bulk put sends its records in their order, 25 in one request, one request after another. The
invariant between two requests is that those so far were answered by successes, one for each batch;
a request that fails is the last one.
-/
namespace Depot

namespace Record

/-- The fields that a record is stored with; if its key is valid, it is serialized to them. -/
def fieldsAt (now : Option Instant) (r : Record) : Fields := (r.serialize now).toOption.getD []

variable {r : Record} {rs : List Record}

theorem serialize_eq_fieldsAt (h : r.HasValidKey) (now : Option Instant) :
    r.serialize now = .ok (r.fieldsAt now) := by
  obtain ⟨fields, ok⟩ := serialize_eq_ok h now
  rw [fieldsAt, ok]
  rfl

theorem mapM_serialize_eq_fieldsAt (h : ∀ r ∈ rs, r.HasValidKey) (now : Option Instant) :
    rs.mapM (·.serialize now) = .ok (rs.map (fieldsAt now)) := by
  induction rs with
  | nil => rfl
  | cons r rest ih =>
    obtain ⟨valid, others⟩ := List.forall_mem_cons.mp h
    rw [List.mapM_cons, serialize_eq_fieldsAt valid, ih others]
    rfl

end Record

/-- How many records a report adds to those written to a base. -/
def Report.writtenTo (base : String) : Report → Nat
  | .count .recordsWritten amount labels => if labels = [("base", base)] then amount else 0
  | _ => 0

/-- The items that a call sends. -/
def Call.items (c : Call) : List Value :=
  match c.content with
  | .json v =>
    match v.member "items" with
    | .list items => items
    | _ => []
  | _ => []

namespace Scene

/-- How many records were written to a base, as was counted. -/
def written (base : String) (s : Scene) : Nat := s.amount (Report.writtenTo base)

theorem written_heard (base : String) (s : Scene) (rs : List Report) :
    (s.heard rs).written base = s.written base + (rs.map (Report.writtenTo base)).sum := by
  simp [written, amount]

end Scene

namespace Base

/-- The call that stores items. -/
def putCall (items : List Fields) : Call :=
  .sending .put "/items" [("items", .list (items.map .record))]

theorem items_putCall (items : List Fields) : (putCall items).items = items.map .record := rfl

namespace PutResult

/-- What the answer to a bulk put brings; a list that is absent is empty. -/
def ofArrival (a : Arrival) : Outcome PutResult :=
  (Exchange.answerAs PutAnswer.decode (putCall []) a.outcome).map fun answer =>
    ⟨answer.processed.getD [], answer.failed.getD []⟩

/-- The results of several puts, one after another. -/
def all (results : List PutResult) : PutResult :=
  ⟨results.flatMap processed, results.flatMap failed⟩

theorem all_concat (results : List PutResult) (r : PutResult) :
    all (results ++ [r]) = (all results).append r := by simp [all, append]

end PutResult

end Base

/-- What the answers that have arrived bring, if they are answers to bulk puts. -/
def Scene.puts (s : Scene) : List (Outcome Base.PutResult) :=
  s.arrived.map fun x => Base.PutResult.ofArrival x.2

/-- An exchange writes nothing by itself. -/
theorem Scene.written_exchanged (base : String) (s : Scene) (c : Call) (moves : List Desk.Move)
    (a : Arrival) : (s.exchanged c moves a).written base = s.written base := by
  have nothing : ((Exchange.settle c a.latencyMs a.outcome).2.map
      (Report.writtenTo base)).sum = 0 :=
    List.sum_eq_zero fun n hn => by
      obtain ⟨r, hr, rfl⟩ := List.mem_map.mp hn
      exact Exchange.of_mem_settle (P := (·.writtenTo base = 0)) hr (fun _ => rfl) (fun _ => rfl)
        (fun _ => rfl) fun _ => rfl
  have calm : (Exchange.sending c).writtenTo base = 0 := rfl
  rw [written, amount, reports_exchanged, List.map_append, List.map_cons, List.sum_append,
    List.sum_cons, nothing, calm]
  rfl

namespace Base
variable {base : String} {batch records : List Record} {s : Scene} {I : Scene → Prop}

theorem sum_writtenTo_putReports (base : String) (r : PutResult) :
    ((putReports base r).map (Report.writtenTo base)).sum = r.processed.length := by
  rw [putReports]
  split <;> simp [Report.writtenTo, Report.warn]

/-- What a put comes to: it is refused before it sends anything, or its request fails, or the answer
to it is reported and returned. -/
inductive PutEnds (base : String) (batch : List Record) (s : Scene) :
    Option (Outcome PutResult) → Scene → Prop where
  | refused (f : Failure) (bad : batch = [] ∨ maxPutRecords < batch.length) :
    PutEnds base batch s (some (.error f)) s
  | invalid (now : Option Instant) (f : Failure) (bad : ∃ r ∈ batch, ¬ r.HasValidKey) :
    PutEnds base batch s (some (.error f)) (s.note (.dated now))
  | failed (now : Option Instant) (moves : List Desk.Move) (a : Arrival) (f : Failure)
      (came : PutResult.ofArrival a = .error f) :
    PutEnds base batch s (some (.error f))
      ((s.note (.dated now)).exchanged (putCall (batch.map (Record.fieldsAt now))) moves a)
  | stored (now : Option Instant) (moves : List Desk.Move) (a : Arrival) (r : PutResult)
      (came : PutResult.ofArrival a = .ok r) :
    PutEnds base batch s (some (.ok r))
      (((s.note (.dated now)).exchanged (putCall (batch.map (Record.fieldsAt now))) moves a).heard
        (putReports base r))

/-- A put from a scene in which nothing is under way. The invariant has to hold when the clock was
read, when the request was sent and when it was answered. -/
theorem keeps_put (deaf : Scene.Deaf I) (idle : s.underWay = []) (h : I s)
    (dated : ∀ now, I (s.note (.dated now)))
    (sent : ∀ now, (∀ r ∈ batch, r.HasValidKey) → batch ≠ [] →
      let called := ((s.note (.dated now)).heard [Exchange.sending
        (putCall (batch.map (Record.fieldsAt now)))]).launch 0
          (putCall (batch.map (Record.fieldsAt now)))
      I called ∧ ∀ moves a, I ((called.stir moves).land 0 a)) :
    (put base batch).Keeps I (PutEnds base batch s) s := by
  by_cases none_given : batch = []
  · subst none_given
    exact ⟨h, .refused _ (.inl rfl)⟩
  by_cases few : batch.length ≤ maxPutRecords
  · rw [put_eq none_given few]
    refine ⟨h, fun now => ?_⟩
    by_cases valid : ∀ r ∈ batch, r.HasValidKey
    · obtain ⟨called, landed⟩ := sent now valid none_given
      simp only [Record.mapM_serialize_eq_fieldsAt valid]
      refine Job.Keeps.bind (j := Job.ofOutcome _) ⟨dated now, ?_⟩
      refine Job.Keeps.bind ((Job.keeps_exchangeAs_exchanged (s := s.note (.dated now)) deaf idle
        (dated now) called landed).mono ?_)
      rintro _ s' hs' ⟨moves, a, rfl, rfl⟩
      have brought : Exchange.answerAs PutAnswer.decode
          (putCall (batch.map (Record.fieldsAt now))) a.outcome =
          Exchange.answerAs PutAnswer.decode (putCall []) a.outcome := rfl
      rw [brought]
      cases answer : Exchange.answerAs PutAnswer.decode (putCall []) a.outcome with
      | error f =>
        exact .failed now moves a f (by rw [PutResult.ofArrival, answer]; rfl)
      | ok answer' =>
        refine Job.Keeps.bind ((Job.keeps_sayAll_heard _ deaf hs').mono ?_)
        rintro _ s'' hs'' ⟨rfl, rfl⟩
        exact ⟨hs'', .stored now moves a _ (by rw [PutResult.ofArrival, answer]; rfl)⟩
    · have bad : ∃ r ∈ batch, ¬ r.HasValidKey := by simpa using valid
      simp only [Record.mapM_serialize_eq_error bad]
      exact ⟨dated now, .invalid now _ bad⟩
  · have many : maxPutRecords < batch.length := Nat.lt_of_not_le few
    have full : (!batch.isEmpty) = true := by simpa using none_given
    have above : decide (batch.length ≤ maxPutRecords) = false := by simpa using many
    rw [put, full, above]
    exact ⟨h, .refused _ (.inr many)⟩

/-- The records of one batch; the batches are counted from zero. -/
def batchOf (records : List Record) (i : Nat) : List Record :=
  (records.drop (maxPutRecords * i)).take maxPutRecords

theorem batches_drop (records : List Record) (i : Nat) :
    batches maxPutRecords (records.drop (maxPutRecords * i)) =
      if maxPutRecords * i < records.length then
        batchOf records i :: batches maxPutRecords (records.drop (maxPutRecords * (i + 1)))
      else [] := by
  by_cases left : maxPutRecords * i < records.length
  · rw [if_pos left, batches, if_neg, List.drop_drop, Nat.mul_succ, batchOf]
    simpa [maxPutRecords] using left
  · rw [if_neg left, batches, if_pos]
    simpa using Or.inl (Nat.le_of_not_lt left)

/-- What holds of every scene of a bulk put: the requests are sent one after another, each with the
next batch of the records, serialized at one reading of the clock. -/
structure Batched (records : List Record) (s : Scene) : Prop where
  inTurn : s.arrived.length + s.underWay.length = s.sent.length
  alone : s.underWay.length ≤ 1
  dated : s.sent.length ≤ s.dates.length ∧ s.dates.length ≤ s.sent.length + 1
  request : ∀ i call, s.sent[i]? = some call → maxPutRecords * i < records.length ∧
    ∃ now items, s.dates[i]? = some now ∧ (batchOf records i).mapM (·.serialize now) = .ok items ∧
      call = putCall items

/-- A scene between two requests of a bulk put, with the results so far. -/
structure Stored (base : String) (records : List Record) (results : List PutResult) (s : Scene) :
    Prop where
  batched : Batched records s
  idle : s.underWay = []
  dated : s.dates.length = results.length
  even : s.sent.length = results.length
  puts : s.puts = results.map .ok
  written : s.written base = (PutResult.all results).processed.length

variable {results : List PutResult}

theorem deaf_batched (records : List Record) : Scene.Deaf (Batched records) := by
  intro s r h
  refine ⟨?_, h.alone, ?_, ?_⟩
  · simpa using h.inTurn
  · simpa using h.dated
  · simpa using h.request

theorem Stored.start (base : String) (records : List Record) (desk : Desk) :
    Stored base records [] ⟨[], desk, []⟩ :=
  ⟨⟨rfl, Nat.zero_le 1, ⟨Nat.le_refl 0, Nat.zero_le 1⟩, by simp [Scene.sent]⟩, rfl, rfl, rfl, rfl,
    rfl⟩

/-- The clock is read for the next batch. -/
theorem Stored.dating (h : Stored base records results s) (now : Option Instant) :
    Batched records (s.note (.dated now)) where
  inTurn := by simpa using h.batched.inTurn
  alone := h.batched.alone
  dated := by simp [h.dated, h.even]
  request := by
    intro i call hc
    obtain ⟨left, time, items, date, rest⟩ := h.batched.request i call (by simpa using hc)
    refine ⟨left, time, items, ?_, rest⟩
    rw [Scene.dates_note, List.getElem?_append_left (List.getElem?_eq_some_iff.mp date).1, date]

/-- The next batch is sent. -/
theorem Stored.sending (h : Stored base records results s)
    (left : maxPutRecords * results.length < records.length)
    (valid : ∀ r ∈ batchOf records results.length, r.HasValidKey) (now : Option Instant) :
    let call := putCall ((batchOf records results.length).map (Record.fieldsAt now))
    let called := ((s.note (.dated now)).heard [Exchange.sending call]).launch 0 call
    Batched records called ∧ ∀ moves a, Batched records ((called.stir moves).land 0 a) := by
  intro call called
  have answered : s.arrived.length = s.sent.length := by
    have := h.batched.inTurn
    rwa [h.idle, List.length_nil, Nat.add_zero] at this
  have dates : called.dates = s.dates ++ [now] := by simp [called]
  have sent : called.sent = s.sent ++ [call] := by simp [called]
  have request : ∀ i other, called.sent[i]? = some other → maxPutRecords * i < records.length ∧
      ∃ now items, called.dates[i]? = some now ∧
        (batchOf records i).mapM (·.serialize now) = .ok items ∧ other = putCall items := by
    intro i other ho
    rw [dates]
    rw [sent] at ho
    rcases Nat.lt_or_ge i s.sent.length with earlier | last
    · rw [List.getElem?_append_left earlier] at ho
      obtain ⟨inside, time, items, date, rest⟩ := h.batched.request i other ho
      refine ⟨inside, time, items, ?_, rest⟩
      rw [List.getElem?_append_left (List.getElem?_eq_some_iff.mp date).1, date]
    · have at_end : i = results.length := by
        have := (List.getElem?_eq_some_iff.mp ho).1
        rw [List.length_append, List.length_singleton, h.even] at this
        rw [h.even] at last
        omega
      subst at_end
      have same : call = other := by simpa [← h.even] using ho
      exact ⟨left, now, _, by simp [← h.dated], Record.mapM_serialize_eq_fieldsAt valid now,
        same.symm⟩
  refine ⟨⟨?_, ?_, ?_, request⟩, fun moves a => ⟨?_, ?_, ?_, ?_⟩⟩
  · simp [called, h.idle, answered]
  · simp [called, h.idle]
  · simp [called, h.dated, h.even]
  · simp [called, h.idle, answered]
  · simp [called, h.idle]
  · simp [called, h.dated, h.even]
  · simpa using request

/-- What a bulk put has come to. -/
structure BatchesEnd (base : String) (records : List Record)
    (result : Option (Outcome PutResult)) (s : Scene) : Prop where
  answered : s.puts.length = s.sent.length
  dated : s.dates.length = s.sent.length
  ended : result ≠ none
  stored : ∀ r, result = some (.ok r) → s.sent.length = records.length ⌈/⌉ maxPutRecords ∧
    ∃ results, s.puts = results.map .ok ∧ r = PutResult.all results ∧
      s.written base = r.processed.length
  failed : ∀ f, result = some (.error f) → ∃ results, s.puts = results.map .ok ++ [.error f] ∧
    s.written base = (PutResult.all results).processed.length

theorem Stored.answered (h : Stored base records results s) : s.puts.length = s.sent.length := by
  rw [h.puts, List.length_map, h.even]

/-- An answer to the request for the next batch. -/
theorem Stored.puts_exchanged (h : Stored base records results s) (now : Option Instant)
    (c : Call) (moves : List Desk.Move) (a : Arrival) :
    ((s.note (.dated now)).exchanged c moves a).puts =
        results.map .ok ++ [PutResult.ofArrival a] ∧
      ((s.note (.dated now)).exchanged c moves a).written base =
        (PutResult.all results).processed.length := by
  constructor
  · rw [Scene.puts, Scene.arrived_exchanged, Scene.arrived_note, List.map_append, ← h.puts]
    simp [Scene.puts]
  · rw [Scene.written_exchanged, ← h.written]
    simp [Scene.written, Scene.amount]

/-- The answer to the request for the next batch is taken in. -/
theorem Stored.push (h : Stored base records results s)
    (left : maxPutRecords * results.length < records.length)
    (valid : ∀ r ∈ batchOf records results.length, r.HasValidKey) (now : Option Instant)
    (moves : List Desk.Move) (a : Arrival) {r : PutResult} (came : PutResult.ofArrival a = .ok r) :
    Stored base records (results ++ [r]) (((s.note (.dated now)).exchanged
      (putCall ((batchOf records results.length).map (Record.fieldsAt now))) moves a).heard
        (putReports base r)) := by
  obtain ⟨puts, written⟩ := h.puts_exchanged now
    (putCall ((batchOf records results.length).map (Record.fieldsAt now))) moves a
  refine ⟨?_, by simp [h.idle], by simp [h.dated], by simp [h.even], ?_, ?_⟩
  · have landed := (h.sending left valid now).2 moves a
    exact ⟨by simpa [h.idle] using landed.inTurn, by simp [h.idle], by simpa using landed.dated,
      by simpa using landed.request⟩
  · rw [came] at puts
    simpa [Scene.puts] using puts
  · rw [Scene.written_heard, written, sum_writtenTo_putReports, PutResult.all_concat]
    simp [PutResult.append]

theorem keeps_putBatches (valid : ∀ r ∈ records, r.HasValidKey)
    (h : Stored base records results s)
    (reached : maxPutRecords * results.length < records.length + maxPutRecords) :
    (putBatches base (batches maxPutRecords (records.drop (maxPutRecords * results.length)))
      (PutResult.all results)).Keeps (Batched records) (BatchesEnd base records) s := by
  -- the batches that are left are those after the ones that have results
  generalize remaining : batches maxPutRecords (records.drop (maxPutRecords * results.length)) =
    left
  rw [batches_drop] at remaining
  induction left generalizing results s with
  | nil =>
    have none_left : records.length ≤ maxPutRecords * results.length := by
      by_contra some_left
      rw [if_pos (Nat.lt_of_not_le some_left)] at remaining
      cases remaining
    refine ⟨h.batched, h.answered, h.dated.trans h.even.symm, by simp, ?_, by simp⟩
    rintro _ ⟨⟩
    refine ⟨?_, results, h.puts, rfl, h.written⟩
    rw [h.even, Nat.ceilDiv_eq_add_pred_div]
    simp only [maxPutRecords] at none_left reached ⊢
    omega
  | cons batch rest ih =>
    have some_left : maxPutRecords * results.length < records.length := by
      by_contra none_left
      rw [if_neg none_left] at remaining
      cases remaining
    rw [if_pos some_left] at remaining
    cases remaining
    have valid_here : ∀ r ∈ batchOf records results.length, r.HasValidKey := fun r hr =>
      valid r (List.mem_of_mem_drop (List.mem_of_mem_take hr))
    refine Job.Keeps.bind ((keeps_put (deaf_batched records) h.idle h.batched h.dating
      fun now valid _ => h.sending some_left valid now).mono ?_)
    rintro _ s' - ended
    cases ended with
    | refused f bad =>
      rcases bad with empty | many
      · rw [batchOf, List.take_eq_nil_iff, List.drop_eq_nil_iff] at empty
        exact absurd some_left (Nat.not_lt.mpr (empty.resolve_left (by decide)))
      · exact absurd (List.length_take_le ..) (Nat.not_le.mpr many)
    | invalid now f bad =>
      obtain ⟨r, hr, invalid⟩ := bad
      exact absurd (valid_here r hr) invalid
    | failed now moves a f came =>
      obtain ⟨puts, written⟩ := h.puts_exchanged now
        (putCall ((batchOf records results.length).map (Record.fieldsAt now))) moves a
      rw [came] at puts
      refine ⟨by simp [puts, h.even], by simp [h.dated, h.even], by simp, by simp, ?_⟩
      rintro _ ⟨⟩
      exact ⟨results, puts, written⟩
    | stored now moves a r came =>
      have next := h.push some_left valid_here now moves a came
      have further : maxPutRecords * (results ++ [r]).length <
          records.length + maxPutRecords := by
        rw [List.length_append, List.length_singleton, Nat.mul_succ]
        omega
      have goes_on := ih next further ?_
      · rw [PutResult.all_concat] at goes_on
        exact goes_on
      · rw [← batches_drop, List.length_append]
        rfl

/-- The items that records are stored as, with what the clock showed when it was read for their
batch. -/
def itemsOf (dates : List (Option Instant)) (records : List Record) : List Value :=
  records.mapIdx fun i r => .record (r.fieldsAt (dates.getD (i / maxPutRecords) none))

/-- The requests of a bulk put together have its records, each once and in their order. -/
theorem Batched.items_eq (h : Batched records s) (valid : ∀ r ∈ records, r.HasValidKey) :
    s.sent.flatMap Call.items =
      itemsOf s.dates (records.take (maxPutRecords * s.sent.length)) := by
  have upTo (k : Nat) (within : k ≤ s.sent.length) : (s.sent.take k).flatMap Call.items =
      itemsOf s.dates (records.take (maxPutRecords * k)) := by
    induction k with
    | zero => simp [itemsOf]
    | succ k ih =>
      obtain ⟨left, now, items, date, serialized, call⟩ :=
        h.request k _ (List.getElem?_eq_getElem within)
      have valid_here : ∀ r ∈ batchOf records k, r.HasValidKey := fun r hr =>
        valid r (List.mem_of_mem_drop (List.mem_of_mem_take hr))
      rw [Record.mapM_serialize_eq_fieldsAt valid_here] at serialized
      cases serialized
      have before : (records.take (maxPutRecords * k)).length = maxPutRecords * k :=
        List.length_take_of_le (Nat.le_of_lt left)
      have last : (batchOf records k).mapIdx (fun i r => Value.record
          (r.fieldsAt (s.dates.getD ((i + maxPutRecords * k) / maxPutRecords) none))) =
          ((batchOf records k).map (Record.fieldsAt now)).map .record := by
        refine List.ext_getElem (by simp) fun i inside _ => ?_
        have few : (batchOf records k).length ≤ maxPutRecords := List.length_take_le ..
        rw [List.length_mapIdx] at inside
        have own : (i + maxPutRecords * k) / maxPutRecords = k := by
          simp only [maxPutRecords] at few ⊢
          omega
        simp [own, date]
      rw [List.take_add_one, List.getElem?_eq_getElem within, List.flatMap_append,
        ih (Nat.le_of_lt within), Nat.mul_succ, List.take_add, itemsOf, itemsOf, List.mapIdx_append,
        before, ← batchOf, last, call, Option.toList_some, List.flatMap_singleton, items_putCall]
  simpa using upTo s.sent.length (Nat.le_refl _)

/--
A bulk put of records whose keys are valid sends them in their order, 25 in one request, one request
after another. If all of these succeed, it has sent all records and comes to all items that were
stored and that were not. It fails like the first request that fails, after which it sends nothing;
then the items that the requests before have stored are counted as written, and no others.
-/
theorem putMany_in_batches (base : String) (records : List Record) (some_record : records ≠ [])
    (valid : ∀ r ∈ records, r.HasValidKey) (desk : Desk) (turns : List Turn) (c : Course PutResult)
    (run : (Course.start desk (putMany base records)).run turns = some c) :
    Batched records c.scene ∧
    c.scene.sent.flatMap Call.items =
      itemsOf c.scene.dates (records.take (maxPutRecords * c.scene.sent.length)) ∧
    (∀ result, c.result? = some result → BatchesEnd base records (some result) c.scene) ∧
    (∀ r, c.result? = some (.ok r) →
      c.scene.sent.flatMap Call.items = itemsOf c.scene.dates records) ∧
    c.Surely fun c => ∃ result, c.result? = some result := by
  have begins : (putMany base records).Keeps (Batched records) (BatchesEnd base records)
      ⟨[], desk, []⟩ := by
    have full : (!records.isEmpty) = true := by simpa using some_record
    have kept := keeps_putBatches valid (.start base records desk) (by simp [maxPutRecords])
    rw [putMany, full]
    exact kept
  have kept := Course.keeps_of_run begins run
  have items := kept.inv.items_eq valid
  have ends (result : Outcome PutResult) (ended : c.result? = some result) :
      BatchesEnd base records (some result) c.scene := Course.post_of_keeps kept ended
  refine ⟨kept.inv, items, ends, fun r ended => ?_,
    Course.surely_ends_of_keeps kept fun s ends => ends.ended rfl⟩
  obtain ⟨all_sent, -⟩ := (ends _ ended).stored r rfl
  have whole : records.length ≤ maxPutRecords * c.scene.sent.length := by
    rw [all_sent, Nat.ceilDiv_eq_add_pred_div]
    simp only [maxPutRecords]
    omega
  rw [items, List.take_of_length_le whole]

/-- The turns of a bulk put of two batches, of which the second is not stored. -/
def secondBatchFails : List Turn :=
  [.date none, .serve, .serve,
    .answer [] 0 ⟨.ok ⟨200.0, "", [],
      "\x7B\"processed\":\x7B\"items\":[\x7B\"key\":\"a\"\x7D]\x7D\x7D".toUTF8⟩, 0.0⟩,
    .serve, .serve, .serve, .date none, .serve, .serve,
    .answer [] 0 ⟨.error (.thrown "down"), 0.0⟩, .serve, .serve]

theorem putMany_in_batches_secondBatchFails : ∃ c f,
    (Course.start ⟨none, [], []⟩ (putMany "users"
      (List.replicate 26 ⟨.absent, [], none, none⟩))).run secondBatchFails = some c ∧
    (∀ r ∈ List.replicate 26 (⟨.absent, [], none, none⟩ : Record), r.HasValidKey) ∧
    c.result? = some (.error f) ∧ c.scene.sent.length = 2 ∧ c.scene.written "users" = 1 ∧
    BatchesEnd "users" (List.replicate 26 ⟨.absent, [], none, none⟩) (some (.error f))
      c.scene := by
  have ends : ((Course.start ⟨none, [], []⟩ (putMany "users"
      (List.replicate 26 ⟨.absent, [], none, none⟩))).run secondBatchFails).map (fun c =>
        (c.result?.map Except.isOk, c.scene.sent.length, c.scene.written "users")) =
      some (some false, 2, 1) := by decide +kernel
  obtain ⟨c, run, shown⟩ := Option.map_eq_some_iff.mp ends
  obtain ⟨result, rest⟩ := Prod.mk.inj shown
  obtain ⟨sent, written⟩ := Prod.mk.inj rest
  obtain ⟨result, ended, kind⟩ := Option.map_eq_some_iff.mp result
  have valid : ∀ r ∈ List.replicate 26 (⟨.absent, [], none, none⟩ : Record), r.HasValidKey :=
    fun r hr => List.eq_of_mem_replicate hr ▸ .inl rfl
  cases result with
  | ok r => cases kind
  | error f =>
    have ends := (putMany_in_batches "users" _ (by simp) valid _ _ c run).2.2.1 _ ended
    exact ⟨c, f, run, valid, ended, sent, written, ends⟩

end Base
end Depot
