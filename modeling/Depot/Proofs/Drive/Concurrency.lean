import Depot.Proofs.Drive.Integrity
/-!
# Concurrency does not show

When the outcome of every call is settled beforehand, so is all that an upload leaves: how many
parts are under way at a time, and in which order they settle, changes nothing about it. Parts
that have settled in any order are sorted back into the order of their numbers.
-/
namespace Depot.Drive
namespace Upload

section Answers
variable (answers : Call → Outcome Response)

def partAnswer (p : Parts) (part : Nat) : Outcome ByteArray :=
  Exchange.answer (answers (p.call part))

/-- A part as one that was not stored, unless it was. -/
def failureOf? (part : Nat) : Outcome ByteArray → Option PartFailure
  | .error f => some ⟨part, f.asError⟩
  | .ok _ => none

/-- The parts that are stored, in the order of their numbers. -/
def storedParts (p : Parts) : List Nat :=
  p.numbers.filter fun part => (partAnswer answers p part).isOk

/-- The parts that are not stored, in the order of their numbers. -/
def failedParts (p : Parts) : List PartFailure :=
  p.numbers.filterMap fun part => failureOf? part (partAnswer answers p part)

def lastCall (p : Parts) : Call :=
  if (failedParts answers p).isEmpty then commitCall p.saveAs p.uploadId
  else abortCall p.saveAs p.uploadId

def comesTo (p : Parts) (name : String) : Outcome UploadResult :=
  if (failedParts answers p).isEmpty then
    (Exchange.answerAs FileInfo.decode (lastCall answers p) (answers (lastCall answers p))).map
      fun info => .completed info.name p.content.size p.count (some p.uploadId)
  else
    (Exchange.answer (answers (lastCall answers p))).map fun _ =>
      .aborted name p.uploadId (storedParts answers p) (failedParts answers p)

/-- What an upload leaves: its calls, what it comes to, and what it counts, requests and errors
aside. -/
structure Trace where
  sent : List Call
  result : Outcome UploadResult
  counts : List Report

def inOne (saveAs : String) (content : ByteArray) : Trace :=
  let result := whole saveAs content (answers (fileCall saveAs content))
  ⟨[fileCall saveAs content], result, wholeCounts content result⟩

def inParts (saveAs : String) (content : ByteArray) (size : Nat) : Trace :=
  match Exchange.answerAs UploadTicket.decode (openCall saveAs) (answers (openCall saveAs)) with
  | .error f => ⟨[openCall saveAs], .error f, []⟩
  | .ok t =>
    let p : Parts := ⟨saveAs, t.uploadId, content, size⟩
    let result := comesTo answers p t.name
    ⟨openCall saveAs :: p.numbers.map p.call ++ [lastCall answers p], result,
      (p.numbers.flatMap fun part => partCounts p part (partAnswer answers p part)) ++
        endCounts result⟩

/-- What an upload leaves if `answers` has the outcome of every call. -/
def trace (saveAs : String) (content : ByteArray) (chunkSize : Option Float) : Trace :=
  match UploadOptions.plan ⟨chunkSize, none⟩ saveAs with
  | .error f => ⟨[], .error f, []⟩
  | .ok plan =>
    if content.size ≤ plan.chunkSize then inOne answers saveAs content
    else inParts answers saveAs content plan.chunkSize

end Answers

/-- A scene that an upload has left, with what the upload has come to. -/
structure Trace.Left (x : Trace) (result : Outcome UploadResult) (s : Scene) : Prop where
  sent : s.sent = x.sent
  result : result = x.result
  counts : s.Counts x.counts

variable {answers : Call → Outcome Response} {saveAs : String} {content : ByteArray}
  {plan : UploadPlan} {p : Parts} {name : String} {settled : List (Nat × Arrival)}

section Sessions

/-- Sorting by keys brings a list back into the order of its keys if they are all different. -/
theorem sorted_by_key {α : Type} (key : α → Nat) {l l' : List α} (h : l.Perm l')
    (ascending : (l'.map key).Pairwise (· < ·)) :
    Sorting.sorted (fun a b => key a ≤ key b) l = l' := by
  have distinct : (l'.map key).Nodup := ascending.imp Nat.ne_of_lt
  apply Sorting.sorted_eq_of_perm _ _ h
  · exact (List.pairwise_map.mp ascending).imp fun below => decide_eq_true (Nat.le_of_lt below)
  · intro a ha b hb ab ba
    apply List.inj_on_of_nodup_map distinct ha hb
    exact Nat.le_antisymm (of_decide_eq_true ab) (of_decide_eq_true ba)
  · intro a b
    simpa using Nat.le_total (key a) (key b)
  · intro a b c
    simpa using Nat.le_trans

/-- The parts that have settled have the outcomes that `answers` has for their calls. -/
def Given (answers : Call → Outcome Response) (p : Parts) (settled : List (Nat × Arrival)) : Prop :=
  ∀ x ∈ settled, x.2.outcome = answers (p.call x.1)

theorem sessionOf_given (h : Given answers p settled) :
    (sessionOf p name settled).name = name ∧
    (sessionOf p name settled).stored =
      (settled.map Prod.fst).filter (fun part => (partAnswer answers p part).isOk) ∧
    (sessionOf p name settled).failures =
      (settled.map Prod.fst).filterMap fun part => failureOf? part (partAnswer answers p part) := by
  -- a session grows at its end, where the part that settles next is added
  induction settled using List.reverseRecOn with
  | nil => exact ⟨rfl, rfl, rfl⟩
  | append_singleton settled x ih =>
    obtain ⟨named, stored, failures⟩ := ih fun y hy => h y (List.mem_append_left _ hy)
    have own : Exchange.answer x.2.outcome = partAnswer answers p x.1 := by
      rw [partAnswer, h x (List.mem_append_right _ (List.mem_singleton_self x))]
    rw [sessionOf_append_singleton, own]
    cases hx : partAnswer answers p x.1 with
    | error f =>
      simp [Upload.settled, named, stored, failures, hx, failureOf?, Except.isOk, Except.toBool]
    | ok body =>
      simp [Upload.settled, named, stored, failures, hx, failureOf?, Except.isOk, Except.toBool]

theorem sessionCounts_given (h : Given answers p settled) : sessionCounts p settled =
    (settled.map Prod.fst).flatMap fun part => partCounts p part (partAnswer answers p part) := by
  rw [sessionCounts, List.flatMap_map]
  unfold List.flatMap
  congr 1
  apply List.map_congr_left
  intro x hx
  rw [partAnswer, h x hx]

theorem numbers_ascending (p : Parts) : p.numbers.Pairwise (· < ·) := by
  rw [numbers_eq, partNumbers]
  exact List.pairwise_lt_range'

theorem nodup_numbers (p : Parts) : p.numbers.Nodup :=
  (numbers_ascending p).imp Nat.ne_of_lt

theorem zero_notMem_numbers (p : Parts) : 0 ∉ p.numbers := by
  rw [numbers_eq]
  intro h
  exact absurd (mem_partNumbers.mp h).1 (Nat.not_succ_le_zero 0)

theorem mem_failedParts {f : PartFailure} (h : f ∈ failedParts answers p) :
    f.part ∈ p.numbers ∧ ∃ g, partAnswer answers p f.part = .error g ∧ f.failure = g.asError := by
  obtain ⟨part, hp, own⟩ := List.mem_filterMap.mp h
  cases ha : partAnswer answers p part with
  | error g =>
    rw [ha] at own
    cases own
    exact ⟨hp, g, ha, rfl⟩
  | ok body =>
    rw [ha] at own
    cases own

theorem map_part_failedParts (answers : Call → Outcome Response) (p : Parts) :
    (failedParts answers p).map PartFailure.part =
      p.numbers.filter fun part => !(partAnswer answers p part).isOk := by
  rw [failedParts, List.map_filterMap, ← List.filterMap_eq_filter]
  apply List.filterMap_congr
  intro part _
  cases h : partAnswer answers p part <;>
    simp [failureOf?, Except.isOk, Except.toBool, Option.guard, h]

variable (given : Given answers p settled) (each : (settled.map Prod.fst).Perm p.numbers)
include given each

theorem stored_perm : (sessionOf p name settled).stored.Perm (storedParts answers p) := by
  rw [(sessionOf_given given).2.1]
  exact each.filter _

theorem failures_perm : (sessionOf p name settled).failures.Perm (failedParts answers p) := by
  rw [(sessionOf_given given).2.2]
  exact each.filterMap _

theorem sorted_stored :
    Sorting.sorted (· ≤ ·) (sessionOf p name settled).stored = storedParts answers p := by
  apply sorted_by_key id (stored_perm given each)
  rw [List.map_id]
  exact (numbers_ascending p).filter _

theorem sorted_failures :
    Sorting.sorted (fun a b => a.part ≤ b.part) (sessionOf p name settled).failures =
      failedParts answers p := by
  apply sorted_by_key PartFailure.part (failures_perm given each)
  rw [map_part_failedParts]
  exact (numbers_ascending p).filter _

theorem endCall_given : endCall p settled = lastCall answers p := by
  have knows : (sessionOf p "" settled).failures.isEmpty = settled.all fun x => isStored x.2 :=
    knows_sessionOf p "" settled
  rw [endCall, lastCall, ← knows, (failures_perm given each).isEmpty_eq]

theorem ending_given {b : Arrival} (last : b.outcome = answers (lastCall answers p)) :
    ending p (sessionOf p name settled) b = comesTo answers p name := by
  unfold ending comesTo
  rw [(failures_perm given each).isEmpty_eq, sorted_stored given each, sorted_failures given each,
    (sessionOf_given given).1, last]
  split
  case isTrue stored => rw [lastCall, if_pos stored]
  case isFalse => rfl

end Sessions

section Traces

section Between
variable {α : Type} {x y z : α} {entries : List (Nat × α)}

theorem under_zero_between (h : 0 ∉ entries.map Prod.fst) :
    Scene.under 0 ((0, x) :: entries ++ [(0, y)]) = [x, y] := by
  rw [List.cons_append, Scene.under_cons_self, Scene.under_append, Scene.under_eq_nil h,
    List.nil_append, Scene.under_cons_self]
  rfl

theorem under_between {k : Nat} (h : k ≠ 0) (once : (entries.map Prod.fst).Nodup)
    (hz : (k, z) ∈ entries) : Scene.under k ((0, x) :: entries ++ [(0, y)]) = [z] := by
  rw [List.cons_append, Scene.under_cons_of_ne h.symm, Scene.under_append,
    Scene.under_eq_singleton once hz, Scene.under_cons_of_ne h.symm]
  rfl

end Between

/-- The calls that open and end a session share a ticket, and each part has its own. So the answers
to all of them can be told apart. -/
theorem outcomes_of_answered {a b : Arrival} {opens ends : Call}
    (each : (settled.map Prod.fst).Perm p.numbers)
    (answered : ∀ k, (Scene.under k ((0, a) :: settled ++ [(0, b)])).map Arrival.outcome <+:
      (Scene.under k ((0, opens) :: p.numbers.map (fun part => (part, p.call part)) ++
        [(0, ends)])).map answers) :
    a.outcome = answers opens ∧ Given answers p settled ∧ b.outcome = answers ends := by
  have no_zero := zero_notMem_numbers p
  have once := nodup_numbers p
  have tickets : (p.numbers.map fun part => (part, p.call part)).map Prod.fst = p.numbers := by
    rw [List.map_map]
    exact List.map_id _
  have given : Given answers p settled := by
    intro x hx
    have numbered : x.1 ∈ p.numbers := each.mem_iff.mp (List.mem_map_of_mem hx)
    have not_zero : x.1 ≠ 0 := fun zero => no_zero (zero ▸ numbered)
    have called : (x.1, p.call x.1) ∈ p.numbers.map fun part => (part, p.call part) :=
      List.mem_map_of_mem numbered
    have own := answered x.1
    rw [under_between not_zero (each.nodup_iff.mpr once) hx,
      under_between not_zero (tickets.symm ▸ once) called] at own
    exact (List.cons_prefix_cons.mp own).1
  have both := answered 0
  rw [under_zero_between fun h => no_zero (each.mem_iff.mp h),
    under_zero_between (tickets.symm ▸ no_zero)] at both
  obtain ⟨first, rest⟩ := List.cons_prefix_cons.mp both
  exact ⟨first, given, (List.cons_prefix_cons.mp rest).1⟩

/-- However its parts have settled, an upload in parts leaves the trace that the answers settle. -/
theorem HasAccount.left {result : Outcome UploadResult} {s : Scene}
    (h : HasAccount saveAs content plan (some result) s) (answered : s.AnsweredBy answers) :
    (inParts answers saveAs content plan.chunkSize).Left result s := by
  obtain ⟨r, counts, hr, account, counted, -⟩ := h
  cases hr
  have sent := s.sent_eq_map_launched
  unfold Scene.AnsweredBy at answered
  generalize s.launched = launched, s.arrived = arrived at account answered sent
  cases account with
  | refused a f ha =>
    have outcome : a.outcome = answers (openCall saveAs) :=
      (List.cons_prefix_cons.mp (answered 0)).1
    rw [opened, outcome] at ha
    rw [inParts, ha]
    exact ⟨sent, rfl, counted⟩
  | ended a t ha settled b result each comes =>
    have numbers : partNumbers content plan.chunkSize = (partsOf saveAs content plan t).numbers :=
      (numbers_eq (partsOf saveAs content plan t)).symm
    rw [numbers] at answered sent each
    obtain ⟨outcome, given, last⟩ := outcomes_of_answered each answered
    rw [opened, outcome] at ha
    rw [inParts, ha]
    rw [endCall_given given each] at last sent
    have result_eq := comes.trans (ending_given given each last)
    refine ⟨?_, result_eq, ?_⟩
    · rw [sent, List.map_append, List.map_cons, List.map_map]
      rfl
    · intro m hm hm'
      rw [counted m hm hm', Report.total_append, Report.total_append, result_eq,
        sessionCounts_given given]
      congr 1
      exact Report.total_perm m (each.flatMap_right _)

theorem HasWhole.left {result : Outcome UploadResult} {s : Scene}
    (h : HasWhole saveAs content (some result) s) (answered : s.AnsweredBy answers) :
    (inOne answers saveAs content).Left result s := by
  obtain ⟨a, hr, launched, arrived, counted⟩ := h
  have first := answered 0
  rw [launched, arrived] at first
  have outcome : a.outcome = answers (fileCall saveAs content) :=
    (List.cons_prefix_cons.mp first).1
  rw [outcome] at hr counted
  refine ⟨?_, Option.some.inj hr, counted⟩
  rw [Scene.sent_eq_map_launched, launched]
  rfl

/-- Options with a valid concurrency plan what they plan without one. -/
theorem plan_alone {o : UploadOptions} {n : { n : Nat // 0 < n }}
    (width : o.concurrencyOrDefault = .ok n) (saveAs : String) :
    o.plan saveAs = (UploadOptions.plan ⟨o.chunkSize, none⟩ saveAs).map fun plan =>
      { plan with concurrency := n.1, concurrency_pos := n.2 } := by
  have size : UploadOptions.chunkSizeOrDefault ⟨o.chunkSize, none⟩ = o.chunkSizeOrDefault := rfl
  unfold UploadOptions.plan
  rw [size, width]
  split
  · rfl
  · cases o.chunkSizeOrDefault <;> rfl

/-- Every upload ends, and leaves the trace that the answers to its calls settle. -/
theorem keeps_upload {o : UploadOptions} {n : { n : Nat // 0 < n }}
    (width : o.concurrencyOrDefault = .ok n) (saveAs : String) (content : ByteArray)
    (desk : Desk) : ∃ I, (upload saveAs content o).Keeps I (fun result s =>
      ∃ r, result = some r ∧ ∀ answers, s.AnsweredBy answers →
        (trace answers saveAs content o.chunkSize).Left r s) ⟨[], desk, []⟩ := by
  cases alone : UploadOptions.plan ⟨o.chunkSize, none⟩ saveAs with
  | error f =>
    have refused : o.plan saveAs = .error f := by
      rw [plan_alone width, alone]
      rfl
    have fails : upload saveAs content o = .finish (.error f) := by
      rw [upload, refused]
      rfl
    rw [fails]
    refine ⟨fun _ => True, trivial, .error f, rfl, fun answers _ => ?_⟩
    simp only [trace, alone]
    exact ⟨rfl, rfl, fun _ _ _ => rfl⟩
  | ok plan =>
    have planned := plan_alone width saveAs
    rw [alone] at planned
    rw [upload_of_plan planned]
    by_cases fits : content.size ≤ plan.chunkSize
    · rw [if_pos fits]
      refine ⟨_, (keeps_single saveAs content desk).mono ?_⟩
      intro result s _ h
      obtain ⟨a, rfl, -⟩ := id h
      refine ⟨_, rfl, fun answers answered => ?_⟩
      simp only [trace, alone, if_pos fits]
      exact h.left answered
    · rw [if_neg fits]
      refine ⟨_, (keeps_chunked_account saveAs content _ desk).mono ?_⟩
      intro result s _ h
      obtain ⟨r, counts, rfl, -⟩ := id h
      refine ⟨_, rfl, fun answers answered => ?_⟩
      simp only [trace, alone, if_neg fits]
      exact h.left answered

end Traces

/-- What an aborted upload tells of its parts: those that are stored and those that are not, both
ascending, which are all of them, and of each part that is not stored its own failure. -/
structure Tells (answers : Call → Outcome Response) (saveAs : String) (content : ByteArray)
    (size : Nat) (uploadId : String) (uploaded : List Nat) (failures : List PartFailure) :
    Prop where
  uploaded_ascending : uploaded.Pairwise (· < ·)
  failed_ascending : (failures.map PartFailure.part).Pairwise (· < ·)
  disjoint : ∀ part ∈ uploaded, part ∉ failures.map PartFailure.part
  together : (uploaded ++ failures.map PartFailure.part).Perm (partNumbers content size)
  own : ∀ f ∈ failures, ∃ g, Exchange.answer (answers
      (partCall saveAs uploadId f.part (piece content size f.part))) = .error g ∧
    f.failure = g.asError

theorem tells_parts (answers : Call → Outcome Response) (p : Parts) :
    Tells answers p.saveAs p.content p.chunkSize p.uploadId (storedParts answers p)
      (failedParts answers p) where
  uploaded_ascending := (numbers_ascending p).filter _
  failed_ascending := by
    rw [map_part_failedParts]
    exact (numbers_ascending p).filter _
  disjoint := by
    intro part stored failed
    rw [map_part_failedParts] at failed
    have well := (List.mem_filter.mp stored).2
    have ill := (List.mem_filter.mp failed).2
    rw [well] at ill
    cases ill
  together := by
    rw [map_part_failedParts, ← numbers_eq]
    exact List.filter_append_perm _ _
  own := by
    intro f hf
    obtain ⟨numbered, own⟩ := mem_failedParts hf
    rw [numbers_eq] at numbered
    rw [partAnswer, call_eq (mem_partNumbers.mp numbered).1] at own
    exact own

theorem tells_of_comesTo {named uploadId : String} {uploaded : List Nat}
    {failures : List PartFailure}
    (h : comesTo answers p named = .ok (.aborted name uploadId uploaded failures)) :
    Tells answers p.saveAs p.content p.chunkSize uploadId uploaded failures := by
  unfold comesTo at h
  split at h
  case isTrue =>
    obtain ⟨info, -, same⟩ := exists_of_map_eq_ok h
    cases same
  case isFalse =>
    obtain ⟨body, -, same⟩ := exists_of_map_eq_ok h
    cases same
    exact tells_parts answers p

theorem tells_of_trace {chunkSize : Option Float} {uploadId : String} {uploaded : List Nat}
    {failures : List PartFailure}
    (h : (trace answers saveAs content chunkSize).result =
      .ok (.aborted name uploadId uploaded failures)) :
    ∃ plan, UploadOptions.plan ⟨chunkSize, none⟩ saveAs = .ok plan ∧
      Tells answers saveAs content plan.chunkSize uploadId uploaded failures := by
  unfold trace at h
  split at h
  case h_1 f refused => cases h
  case h_2 plan planned =>
    refine ⟨plan, planned, ?_⟩
    split at h
    case isTrue =>
      obtain ⟨info, -, same⟩ := exists_of_map_eq_ok h
      cases same
    case isFalse =>
      unfold inParts at h
      split at h
      case h_1 => cases h
      case h_2 t ha => exact tells_of_comesTo h

end Upload

open Upload

/-- Two uploads have ended alike: with the same result, the same calls, one of which ends the
session, and the same counters, those of requests and errors aside. -/
structure SameEnd (c c' : Course UploadResult) : Prop where
  result : c.result? = c'.result?
  sent : c.scene.sent = c'.scene.sent
  counted : ∀ m, m ≠ .requestsTotal → m ≠ .errorsTotal → c.scene.counted m = c'.scene.counted m

theorem Upload.Trace.Left.sameEnd {x : Trace} {result result' : Outcome UploadResult}
    {c c' : Course UploadResult} (hr : c.result? = some result) (hr' : c'.result? = some result')
    (h : x.Left result c.scene) (h' : x.Left result' c'.scene) : SameEnd c c' where
  result := by rw [hr, hr', h.result, h'.result]
  sent := h.sent.trans h'.sent.symm
  counted m hm hm' := (h.counts m hm hm').trans (h'.counts m hm hm').symm

/--
When the outcome of every call is settled beforehand, an upload ends as the one that sends its
parts one by one, whatever its concurrency is and in whatever order its parts settle. If it is
aborted, its result tells of every part, in order, and of each part that is not stored its own
failure.
-/
theorem store_ends_alike (saveAs : String) (content : FileContent) (o o' : UploadOptions) (n : Nat)
    (positive : 0 < n) (wide : o.concurrency.elim (some 1) Number.natural? = some n)
    (alone : o'.concurrency.elim (some 1) Number.natural? = some 1)
    (sized : o'.chunkSize = o.chunkSize) (answers : Call → Outcome Response) (desk desk' : Desk)
    (turns turns' : List Turn) (c c' : Course UploadResult)
    (run : (Course.start desk (store saveAs content o)).run turns = some c)
    (run' : (Course.start desk' (store saveAs content o')).run turns' = some c')
    (answered : c.scene.AnsweredBy answers) (answered' : c'.scene.AnsweredBy answers) :
    (c.Surely fun c => ∃ result, c.result? = some result) ∧
    (c'.Surely fun c => ∃ result, c.result? = some result) ∧
    ∀ result result', c.result? = some result → c'.result? = some result' →
      SameEnd c c' ∧ ∀ name uploadId uploaded failures,
        result = .ok (.aborted name uploadId uploaded failures) →
        ∃ plan, o.plan saveAs = .ok plan ∧
          Tells answers saveAs content.toBytes plan.chunkSize uploadId uploaded failures := by
  have width := concurrency_eq_ok positive wide
  obtain ⟨I, begun⟩ := keeps_upload width saveAs content.toBytes desk
  obtain ⟨I', begun'⟩ :=
    keeps_upload (concurrency_eq_ok Nat.one_pos alone) saveAs content.toBytes desk'
  have kept := Course.keeps_of_run begun run
  have kept' := Course.keeps_of_run begun' run'
  refine ⟨?_, ?_, ?_⟩
  · apply Course.surely_ends_of_keeps kept
    rintro s ⟨r, h, -⟩
    cases h
  · apply Course.surely_ends_of_keeps kept'
    rintro s ⟨r, h, -⟩
    cases h
  · intro result result' hr hr'
    obtain ⟨_, same, settles⟩ := Course.post_of_keeps kept hr
    obtain ⟨_, same', settles'⟩ := Course.post_of_keeps kept' hr'
    cases same
    cases same'
    have left := settles answers answered
    have left' := settles' answers answered'
    rw [sized] at left'
    refine ⟨left.sameEnd hr hr' left', ?_⟩
    intro name uploadId uploaded failures aborted
    obtain ⟨plan, planned, tells⟩ := tells_of_trace (left.result.symm.trans aborted)
    refine ⟨{ plan with concurrency := n, concurrency_pos := positive }, ?_, tells⟩
    rw [plan_alone width, planned]
    rfl

/-- The calls of an upload in two parts by number: the one that opens the session, those that carry
the parts, and again one for the call that ends it. -/
def callNumber (c : Call) : Nat :=
  if c.path = "/uploads" then 0 else if c.params.queryString = "?name=f&part=2" then 2 else 1

/-- What comes of each of them if the second part is not stored. -/
def outcomeOf : Nat → Outcome Response
  | 0 => .ok ⟨200.0, "", [], "\x7B\"upload_id\":\"u\",\"name\":\"f\"\x7D".toUTF8⟩
  | 2 => .error (.transport "down" none)
  | _ => .ok ⟨200.0, "", [], ByteArray.empty⟩

def reply (x : Nat × Nat) : Turn := .answer [] x.1 ⟨outcomeOf x.2, 0.0⟩

/-- The turns of an upload whose two parts are under way together. The second one settles first. -/
def partsTogether : List Turn :=
  [.serve, .serve, reply (0, 0), .serve, .serve, .serve, .serve, .serve, .serve, .serve,
    reply (2, 2), .serve, .serve, .serve,
    reply (1, 1), .serve, .serve, .serve, .serve, .hear none, .serve, .serve,
    reply (0, 1), .serve, .serve, .serve, .serve]

/-- The turns of the same upload, one part after the other. -/
def partsInTurn : List Turn :=
  [.serve, .serve, reply (0, 0), .serve, .serve, .serve, .serve, .serve,
    reply (1, 1), .serve, .serve, .serve, .serve, .hear none, .serve, .serve,
    reply (2, 2), .serve, .serve, .serve, .serve, .serve,
    reply (0, 1), .serve, .serve, .serve, .serve]

theorem answeredBy_of_numbers {s : Scene} {calls : List (Nat × Nat)} (replies : List (Nat × Nat))
    (launched : s.launched.map (fun x => (x.1, callNumber x.2)) = calls)
    (arrived : s.arrived = replies.map fun x => (x.1, ⟨outcomeOf x.2, 0.0⟩))
    (same : ∀ k, Scene.under k replies = Scene.under k calls) :
    s.AnsweredBy fun c => outcomeOf (callNumber c) := by
  intro k
  have numbers : (Scene.under k s.launched).map callNumber = Scene.under k replies := by
    rw [same, ← launched, Scene.under_map]
  have outcomes : (Scene.under k s.arrived).map Arrival.outcome =
      (Scene.under k replies).map outcomeOf := by
    rw [arrived, Scene.under_map fun n => (⟨outcomeOf n, 0.0⟩ : Arrival), List.map_map]
    rfl
  rw [outcomes, ← numbers, List.map_map]
  exact List.prefix_rfl

/-- The parts that an aborted upload tells of: those that are stored and those that are not. -/
def UploadResult.settledParts? : UploadResult → Option (List Nat × List Nat)
  | .completed .. => none
  | .aborted _ _ uploaded failures => some (uploaded, failures.map PartFailure.part)

def shownParts (c : Course UploadResult) : List (Nat × Nat) × Option (List Nat × List Nat) :=
  (c.scene.launched.map fun x => (x.1, callNumber x.2),
    c.result?.bind fun r => r.toOption.bind UploadResult.settledParts?)

/-- The parts settle in different orders, and the uploads end alike. -/
theorem store_ends_alike_secondPartFirst : ∃ c c',
    (Course.start ⟨none, [], []⟩ (store "f" (.text "é") ⟨some 1.0, some 2.0⟩)).run partsTogether =
      some c ∧
    (Course.start ⟨none, [], []⟩ (store "f" (.text "é") ⟨some 1.0, some 1.0⟩)).run partsInTurn =
      some c' ∧
    c.scene.arrived.map Prod.fst = [0, 2, 1, 0] ∧ c'.scene.arrived.map Prod.fst = [0, 1, 2, 0] ∧
    (shownParts c).2 = some ([1], [2]) ∧ SameEnd c c' := by
  have together : ((Course.start ⟨none, [], []⟩ (store "f" (.text "é") ⟨some 1.0, some 2.0⟩)).run
      partsTogether).map shownParts =
      some ([(0, 0), (1, 1), (2, 2), (0, 1)], some ([1], [2])) := by decide +kernel
  have in_turn : ((Course.start ⟨none, [], []⟩ (store "f" (.text "é") ⟨some 1.0, some 1.0⟩)).run
      partsInTurn).map shownParts =
      some ([(0, 0), (1, 1), (2, 2), (0, 1)], some ([1], [2])) := by decide +kernel
  obtain ⟨c, run, shown⟩ := Option.map_eq_some_iff.mp together
  obtain ⟨c', run', shown'⟩ := Option.map_eq_some_iff.mp in_turn
  obtain ⟨launched, ended⟩ := Prod.mk.inj shown
  obtain ⟨launched', ended'⟩ := Prod.mk.inj shown'
  have arrived := Course.arrived_of_run run
  have arrived' := Course.arrived_of_run run'
  have answered := answeredBy_of_numbers [(0, 0), (2, 2), (1, 1), (0, 1)] launched
    arrived fun k => by rcases k with _ | _ | _ | k <;> rfl
  have answered' := answeredBy_of_numbers [(0, 0), (1, 1), (2, 2), (0, 1)] launched'
    arrived' fun k => by rcases k with _ | _ | _ | k <;> rfl
  obtain ⟨result, hr, -⟩ := Option.bind_eq_some_iff.mp ended
  obtain ⟨result', hr', -⟩ := Option.bind_eq_some_iff.mp ended'
  have alike := (store_ends_alike "f" (.text "é") ⟨some 1.0, some 2.0⟩ ⟨some 1.0, some 1.0⟩ 2
    (by decide) (by decide +kernel) (by decide +kernel) rfl _ _ _ _ _ c c' run run' answered
    answered').2.2 result result' hr hr'
  refine ⟨c, c', run, run', ?_, ?_, ended, alike.1⟩
  · rw [arrived]
    rfl
  · rw [arrived']
    rfl

end Depot.Drive
