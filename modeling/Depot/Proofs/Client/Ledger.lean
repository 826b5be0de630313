import Depot.Proofs.Balance.Counts
import Depot.Proofs.Client
import Depot.Proofs.Drive.Counts
/-!
# The ledger of a client

When no operation of a client is at work, what its observer has kept is in balance with the answers
that its calls got. Each announced call has brought a response, which is counted and timed, or has
brought none; and each that has failed is counted as an error and entered as one. The other counters
are those of the operations.
-/
namespace Depot

/-! ### Traffic -/

namespace Arrival

/-- Whether a call got no response. -/
def isThrown (a : Arrival) : Bool :=
  match a.outcome with
  | .ok _ => false
  | .error _ => true

/-- Whether a call got a response that is no success. -/
def isRefused (a : Arrival) : Bool :=
  match a.outcome with
  | .ok r => !r.isSuccess
  | .error _ => false

variable (e : Failure) (r : Response) (ms : Float)

@[simp] theorem isThrown_error : isThrown ⟨.error e, ms⟩ = true := rfl

@[simp] theorem isThrown_ok : isThrown ⟨.ok r, ms⟩ = false := rfl

@[simp] theorem isRefused_error : isRefused ⟨.error e, ms⟩ = false := rfl

@[simp] theorem isRefused_ok : isRefused ⟨.ok r, ms⟩ = !r.isSuccess := rfl

end Arrival

namespace Report

/-- How many entries with a message a report is. -/
def entriesOf (message : String) : Report → Nat
  | .log e => if e.message = message then 1 else 0
  | _ => 0

theorem entriesOf_other {message other : String} (own : message ∈ Exchange.messages)
    (foreign : other ∉ Exchange.messages) (level : Level) (context : Option Fields) :
    entriesOf message (.log ⟨level, other, context⟩) = 0 :=
  if_neg fun same : other = message => foreign (same ▸ own)

/-- By a measure of traffic every call, response and failure is worth the same when it is reported,
and all else is worth nothing. -/
structure Measures (f : Report → ℤ) (call response failure : ℤ) : Prop where
  sending : ∀ c, f (Exchange.sending c) = call
  responding : ∀ c ms r, ((Exchange.responding c ms r).map f).sum = response
  failing : ∀ c e, ((Exchange.failing c e).map f).sum = failure
  entry : ∀ level message context, message ∉ Exchange.messages →
    f (.log ⟨level, message, context⟩) = 0
  count : ∀ m, m ≠ .requestsTotal → m ≠ .errorsTotal → ∀ amount labels,
    f (.count m amount labels) = 0

theorem measures_sending : Measures (fun r => entriesOf "Sending request" r) 1 0 0 where
  sending _ := rfl
  responding _ _ _ := rfl
  failing _ _ := rfl
  entry _ _ _ foreign := congrArg Nat.cast (entriesOf_other (by decide) foreign ..)
  count _ _ _ _ _ := rfl

theorem measures_requests : Measures (fun r => amountOf .requestsTotal r) 0 1 0 where
  sending _ := rfl
  responding _ _ _ := rfl
  failing _ _ := rfl
  entry _ _ _ _ := rfl
  count m other _ _ _ := by simp [other]

theorem measures_errors : Measures (fun r => amountOf .errorsTotal r) 0 0 1 where
  sending _ := rfl
  responding _ _ _ := rfl
  failing _ _ := rfl
  entry _ _ _ _ := rfl
  count m _ other _ _ := by simp [other]

theorem measures_failed : Measures (fun r => entriesOf "Request failed" r) 0 0 1 where
  sending _ := rfl
  responding _ _ _ := rfl
  failing _ _ := rfl
  entry _ _ _ foreign := congrArg Nat.cast (entriesOf_other (by decide) foreign ..)
  count _ _ _ _ _ := rfl

/-- Each response with a method is timed. -/
theorem measures_timed (method : Method) : Measures (fun r => (countsWhere method.keys r : ℤ) -
    samplesOf .requestLatency [("method", method.text)] r) 0 0 0 where
  sending _ := rfl
  responding c ms r := by
    have timed : c.method.text = method.text ↔ c.method = method :=
      ⟨Method.text_injective, congrArg _⟩
    simp [Exchange.responding, Report.tick, countsWhere, samplesOf, Method.keys_seriesKey,
      seriesKey_singleton_inj, timed]
  failing c e := by
    simp [Exchange.failing, Report.tick, Report.error, countsWhere, samplesOf,
      Method.keys_seriesKey_other]
  entry _ _ _ _ := rfl
  count m other _ _ _ := by simp [countsWhere, samplesOf, Method.keys_seriesKey_other _ other]

/-- What the answer to a call is worth, with the call. -/
def worth (call response failure : ℤ) (a : Arrival) : ℤ :=
  call + match a.outcome with
    | .error _ => failure
    | .ok r => if r.isSuccess then response else response + failure

section Worth
variable (call response failure : ℤ) (e : Failure) (r : Response) (ms : Float)

theorem worth_error : worth call response failure ⟨.error e, ms⟩ = call + failure := rfl

theorem worth_ok : worth call response failure ⟨.ok r, ms⟩ =
    call + if r.isSuccess then response else response + failure := rfl

theorem sum_worth (answers : List Arrival) :
    (answers.map (worth call response failure)).sum = call * answers.length +
      response * answers.countP (!·.isThrown) +
      failure * (answers.countP Arrival.isThrown + answers.countP Arrival.isRefused) := by
  induction answers with
  | nil => simp
  | cons a rest ih =>
    rw [List.map_cons, List.sum_cons, ih]
    obtain ⟨_ | r, ms⟩ := a
    · simp [worth_error, List.countP_cons, mul_add]
      omega
    · cases success : r.isSuccess <;>
        simp [worth_ok, success, mul_add] <;> omega

end Worth

variable {f : Report → ℤ} {call response failure : ℤ}

/-- The tally of a measure of traffic. -/
def traffic (f : Report → ℤ) (call response failure : ℤ) : Tally :=
  ⟨f, call, worth 0 response failure⟩

theorem Measures.settle (h : Measures f call response failure) (c : Call) (a : Arrival) :
    ((Exchange.settle c a.latencyMs a.outcome).2.map f).sum = worth 0 response failure a := by
  obtain ⟨e | r, ms⟩ := a
  · exact (h.failing c e).trans (zero_add _).symm
  · rw [worth_ok, zero_add]
    cases success : r.isSuccess with
    | true =>
      have reports : (Exchange.settle c ms (.ok r)).2 = Exchange.responding c ms r := by
        simp [Exchange.settle, Exchange.failure?, success]
      rw [reports, h.responding, if_pos rfl]
    | false =>
      have reports : ∃ e, (Exchange.settle c ms (.ok r)).2 =
          Exchange.responding c ms r ++ Exchange.failing c e := by
        simp [Exchange.settle, Exchange.failure?, success]
      obtain ⟨e, reports⟩ := reports
      rw [reports, List.map_append, List.sum_append, h.responding, h.failing]
      rfl

theorem Measures.ignores (h : Measures f call response failure) {own : List Metric}
    (foreign : ∀ m ∈ own, m ≠ .requestsTotal ∧ m ≠ .errorsTotal) :
    (traffic f call response failure).Ignores own where
  echoes := ⟨h.sending, fun c a => (add_zero _).trans (h.settle c a)⟩
  entry := h.entry
  count m hm := h.count m (foreign m hm).1 (foreign m hm).2

end Report

namespace Operation

/-- The metrics to which an operation adds, other than its requests. -/
def metrics : Operation → List Metric
  | insert .. | put .. | putMany .. => [.recordsWritten]
  | walk .. => [.queryPages]
  | store .. => Drive.uploadMetrics
  | _ => []

theorem metrics_foreign (o : Operation) :
    ∀ m ∈ o.metrics, m ≠ .requestsTotal ∧ m ≠ .errorsTotal := by
  cases o <;> simp [metrics, Drive.uploadMetrics]

theorem isEven_job {t : Tally} (o : Operation) (h : t.Ignores o.metrics) : o.job.IsEven t := by
  cases o with
  | get key => exact Base.isEven_get h.echoes key
  | delete key => exact Base.isEven_delete h.echoes key
  | update key p => exact Base.isEven_update h.echoes key p
  | commit key p => exact Base.isEven_commit h.echoes key p
  | insert base r => exact Base.isEven_insert base h r
  | put base rs => exact Base.isEven_put (Base.echoes_putWorth base h) rs
  | putMany base rs => exact Base.isEven_putMany (Base.echoes_putWorth base h) rs
  | fetch bound q => exact Walk.isEven_fetch h.echoes bound q
  | walk bound ref policy budget =>
    exact Walk.isEven_run (Walk.echoes_pageWorth h) h.entry bound ref policy budget
  | pull bound p => exact p.isEven_pull h.echoes bound
  | list o => exact Drive.isEven_list h.echoes o
  | listAll front budget => exact Drive.isEven_listAll h.echoes front budget
  | download name => exact Drive.isEven_download h.echoes name
  | deleteFiles names => exact Drive.isEven_delete h.echoes names
  | store saveAs content o => exact Drive.isEven_store h saveAs content o

end Operation

namespace Activity
variable {a : Activity}

/-- Each call of an operation that has ended is answered. -/
theorem Runs.length_answers (h : a.Runs) (rests : a.isOver) :
    a.course.scene.sent.length = a.answers.length := by
  obtain ⟨desk, turns, run⟩ := h
  obtain ⟨budget, shown, accounted⟩ := a.operation.isAccounted
  obtain ⟨result, ended⟩ := Option.isSome_iff_exists.mp rests
  obtain ⟨_, stands, -⟩ := Course.post_of_keeps
    (Course.keeps_of_run (accounted _ [] [] (.start desk)) run) ended
  have calls := Course.length_sent_of_run rfl run
  rw [stands.underWay] at calls
  rw [answers, List.length_map]
  exact calls

theorem Runs.owes (h : a.Runs) (rests : a.isOver) {t : Tally} (even : a.operation.job.IsEven t) :
    a.course.scene.owes t = 0 := by
  obtain ⟨desk, turns, run⟩ := h
  obtain ⟨result, ended⟩ := Option.isSome_iff_exists.mp rests
  exact Course.owes_of_ended (even 0) run ended

/-- The traffic of an operation is worth what its answers are. -/
theorem Runs.sum_reports (h : a.Runs) (rests : a.isOver) {f : Report → ℤ}
    {call response failure : ℤ} (measures : Report.Measures f call response failure) :
    (a.reports.map f).sum = (a.answers.map (Report.worth call response failure)).sum := by
  have owes := h.owes rests
    (a.operation.isEven_job (measures.ignores a.operation.metrics_foreign))
  rw [Scene.owes, h.length_answers rests] at owes
  have parts : (a.answers.map (Report.worth call response failure)).sum =
      call * a.answers.length + (a.answers.map (Report.worth 0 response failure)).sum := by
    rw [Report.sum_worth, Report.sum_worth]
    omega
  have answers : (a.course.scene.arrived.map fun x =>
      (Report.traffic f call response failure).answer x.2).sum =
      (a.answers.map (Report.worth 0 response failure)).sum := by
    rw [Activity.answers, List.map_map]
    rfl
  rw [parts, ← answers]
  exact (sub_eq_zero.mp owes).symm

/-- An operation adds nothing to metrics that are not its own. -/
theorem Runs.amount_foreign (h : a.Runs) (rests : a.isOver) {m : Metric} {counts : Report → Nat}
    (only : Report.CountsOnly m counts) (request : m ≠ .requestsTotal) (error : m ≠ .errorsTotal)
    (foreign : m ∉ a.operation.metrics) : a.course.scene.amount counts = 0 := by
  have owes := h.owes rests
    (a.operation.isEven_job (Tally.ignores_counting only request error foreign))
  rw [Scene.amount_of_even owes]
  simp

/-! ### What operations count -/

/-- The sizes of the parts that an upload in parts has stored. -/
def partSizes : Activity → List Nat
  | ⟨.store saveAs content o, c⟩ =>
    (o.partSize? saveAs content.toBytes).elim [] fun size =>
      Drive.Upload.storedSizes content.toBytes size c.scene.arrived
  | _ => []

/-- The size of the content that an upload in one request has stored. -/
def wholeSize (a : Activity) : Nat :=
  match a.operation with
  | .store saveAs content o =>
    if o.partSize? saveAs content.toBytes = none ∧ a.isResolved then content.toBytes.size else 0
  | _ => 0

/-- Whether an upload in parts has come to a result. -/
def isConcluded (a : Activity) : Bool :=
  match a.operation with
  | .store saveAs content o => (o.partSize? saveAs content.toBytes).isSome && a.isResolved
  | _ => false

/-- The pages that a walk has received. -/
def pages (a : Activity) : List Page :=
  match a.operation with
  | .walk .. => a.answers.filterMap fun x => (Page.ofArrival x).toOption
  | _ => []

/-- How many records an operation has written to a base: the items that the answers to its puts name
as processed, or the one that it has inserted. -/
def recordsTo (base : String) (a : Activity) : Nat :=
  match a.operation with
  | .put base' _ | .putMany base' _ => (a.answers.map (Base.processedFor base' base)).sum
  | .insert base' _ => if base' = base ∧ a.isResolved then 1 else 0
  | _ => 0

theorem Runs.counted_foreign (h : a.Runs) (rests : a.isOver) {m : Metric}
    (request : m ≠ .requestsTotal) (error : m ≠ .errorsTotal) (foreign : m ∉ a.operation.metrics) :
    a.course.scene.counted m = 0 := by
  rw [← Scene.amount_amountOf]
  exact h.amount_foreign rests (Report.countsOnly_amountOf m) request error foreign

theorem Runs.hasCounted (h : a.Runs) (rests : a.isOver) : Drive.Upload.HasCounted a.partSizes.length
    (a.partSizes.sum + a.wholeSize) (if a.isConcluded then 1 else 0) a.course.scene := by
  -- what is no upload leaves the metrics of uploads alone
  have none_of (apart : ∀ m ∈ Drive.uploadMetrics, m ∉ a.operation.metrics) :
      Drive.Upload.HasCounted 0 0 0 a.course.scene := by
    have nothing (m : Metric) (own : m ∈ Drive.uploadMetrics) : a.course.scene.counted m = 0 :=
      h.counted_foreign rests (by rintro rfl; exact absurd own (by decide))
        (by rintro rfl; exact absurd own (by decide)) (apart m own)
    exact ⟨nothing _ (by decide), nothing _ (by decide), congrArg₂ (· + ·)
      (nothing .uploadsCompleted (by decide)) (nothing .uploadsAborted (by decide))⟩
  obtain ⟨operation, c⟩ := a
  cases operation with
  | store saveAs content o =>
    obtain ⟨desk, turns, run⟩ := h
    obtain ⟨result, ended⟩ := Option.isSome_iff_exists.mp rests
    have counted := Drive.hasCounted_of_ended run ended
    have resolved : isResolved ⟨.store saveAs content o, c⟩ = result.isOk := by
      rw [isResolved, ended]
      rfl
    simp only [partSizes, wholeSize, isConcluded, resolved]
    cases planned : o.partSize? saveAs content.toBytes with
    | some size =>
      rw [planned] at counted
      simp only [Option.elim_some, reduceCtorEq, false_and, if_false, Nat.add_zero,
        Option.isSome_some, Bool.true_and, Drive.Upload.storedSizes, List.length_map]
      exact counted
    | none =>
      rw [planned] at counted
      simp only [Option.elim_none, List.length_nil, List.sum_nil, true_and, Nat.zero_add,
        Option.isSome_none, Bool.false_and]
      exact counted
  | _ => exact none_of (by simp [Operation.metrics, Drive.uploadMetrics])

theorem Runs.counted_pages (h : a.Runs) (rests : a.isOver) :
    a.course.scene.counted .queryPages = a.pages.length := by
  have none_of (foreign : .queryPages ∉ a.operation.metrics) :
      a.course.scene.counted .queryPages = 0 :=
    h.counted_foreign rests (by decide) (by decide) foreign
  obtain ⟨operation, c⟩ := a
  cases operation with
  | walk bound ref policy budget =>
    have even := Walk.isEven_run_pagesIn bound ref policy budget
    rw [← Scene.amount_amountOf, Scene.amount_of_even (h.owes rests even)]
    simp only [pages, answers]
    exact Walk.sum_pagesIn _
  | _ => exact none_of (by simp [Operation.metrics, Drive.uploadMetrics])

theorem Runs.amount_records (h : a.Runs) (rests : a.isOver) (base : String) :
    a.course.scene.amount (Report.recordsOf base) = a.recordsTo base := by
  have none_of (foreign : .recordsWritten ∉ a.operation.metrics) :
      a.course.scene.amount (Report.recordsOf base) = 0 :=
    h.amount_foreign rests (Report.countsOnly_recordsOf base) (by decide) (by decide) foreign
  obtain ⟨operation, c⟩ := a
  cases operation with
  | put base' batch =>
    have even := Base.isEven_put (Base.echoes_recordsOf base' base) batch
    rw [Scene.amount_of_even (h.owes rests even)]
    simp only [recordsTo, answers, List.map_map]
    rfl
  | putMany base' records =>
    have even := Base.isEven_putMany (Base.echoes_recordsOf base' base) records
    rw [Scene.amount_of_even (h.owes rests even)]
    simp only [recordsTo, answers, List.map_map]
    rfl
  | insert base' r =>
    obtain ⟨desk, turns, run⟩ := h
    obtain ⟨result, ended⟩ : ∃ result : Outcome Item, c.result? = some result :=
      Option.isSome_iff_exists.mp rests
    have owes := Course.owes_of_ended (c := c) (Base.pays_insert_recordsOf base' base r) run ended
    have resolved : isResolved ⟨.insert base' r, c⟩ = result.isOk := by
      rw [isResolved, ended]
      rfl
    rw [Scene.owes_counting, List.sum_map_zero] at owes
    simp only [recordsTo, resolved]
    omega
  | _ => exact none_of (by simp [Operation.metrics, Drive.uploadMetrics])

end Activity

/-! ### The balance -/

namespace Observer

theorem count_messages_after (heard : List Report) (message : String) :
    (after heard).logger.messages.count message = (heard.map (Report.entriesOf message)).sum := by
  rw [after, Logger.messages, Logger.entries]
  induction heard with
  | nil => rfl
  | cons r rest ih =>
    rw [List.map_cons, List.sum_cons, ← ih]
    cases r with
    | log e =>
      have entry : (Report.log e).logged? = some e := rfl
      rw [List.filterMap_cons_some entry, List.map_cons, List.count_cons, Nat.add_comm]
      simp [Report.entriesOf]
    | count | time => exact (Nat.zero_add _).symm

end Observer

namespace Client

def metrics (c : Client) : Metrics Nat := c.observer.meter.metrics

/-- What was added to the counters of a metric, whatever the labels. -/
def total (m : Metric) (c : Client) : Nat := c.metrics.sumWhere m.keys

/-- How many entries with a message there are. -/
def entries (message : String) (c : Client) : Nat := c.observer.logger.messages.count message

/-- The answers to the calls of all operations. -/
def answers (c : Client) : List Arrival := c.activities.flatMap Activity.answers

/-- How many calls got no response. -/
def thrown (c : Client) : Nat := c.answers.countP Arrival.isThrown

/-- How many responses were no success. -/
def refused (c : Client) : Nat := c.answers.countP Arrival.isRefused

/-- The sizes of all parts that were stored. -/
def partSizes (c : Client) : List Nat := c.activities.flatMap Activity.partSizes

/-- The observer has kept what the answers account for. -/
structure Balanced (c : Client) : Prop where
  answered : (c.activities.map fun a => a.course.scene.sent.length).sum = c.answers.length
  announced : c.entries "Sending request" = c.total .requestsTotal + c.thrown
  timed (method : Method) :
    (c.metrics.timings Metric.requestLatency.name [("method", method.text)]).length =
      c.metrics.sumWhere method.keys
  entered : c.total .errorsTotal = c.entries "Request failed"
  failed : c.total .errorsTotal = c.thrown + c.refused
  parts : c.total .uploadParts = c.partSizes.length
  bytes : c.total .uploadBytes = c.partSizes.sum + (c.activities.map Activity.wholeSize).sum
  concluded : c.total .uploadsCompleted + c.total .uploadsAborted =
    c.activities.countP Activity.isConcluded
  pages : c.total .queryPages = (c.activities.flatMap Activity.pages).length
  records (base : String) : c.metrics.counter Metric.recordsWritten.name [("base", base)] =
    (c.activities.map (Activity.recordsTo base)).sum

variable {c : Client} {heard : List Report}

theorem Hears.metrics (h : c.Hears heard) : c.metrics = Report.metricsOf heard := by
  rw [Client.metrics, h.observer]
  rfl

theorem Hears.total (h : c.Hears heard) (m : Metric) : c.total m = Report.total m heard := by
  rw [Client.total, h.metrics, Report.sumWhere_keys_metricsOf]

theorem Hears.entries (h : c.Hears heard) (message : String) :
    c.entries message = (heard.map (Report.entriesOf message)).sum := by
  rw [Client.entries, h.observer, Observer.count_messages_after]

section Rest
variable (h : c.Hears heard) (rest : ∀ a ∈ c.activities, a.isOver)
include h rest

/-- What all operations count, if each of them counts like this. -/
theorem Hears.sum_own {counts : Report → Nat} {own : Activity → Nat}
    (log : ∀ e, counts (.log e) = 0)
    (each : ∀ a : Activity, a.Runs → a.isOver → a.course.scene.amount counts = own a) :
    (heard.map counts).sum = (c.activities.map own).sum := by
  rw [h.sum fun s => log _]
  exact congrArg List.sum (List.map_congr_left fun a ha => each a (h.runs a ha) (rest a ha))

theorem Hears.total_own {m : Metric} {own : Activity → Nat}
    (each : ∀ a : Activity, a.Runs → a.isOver → a.course.scene.counted m = own a) :
    c.total m = (c.activities.map own).sum := by
  rw [h.total, ← Report.sum_amountOf]
  refine h.sum_own rest (fun _ => rfl) fun a runs rests => ?_
  rw [Scene.amount_amountOf, each a runs rests]

/-- What the traffic of all operations is worth. -/
theorem Hears.sum_traffic {f : Report → ℤ} {call response failure : ℤ}
    (measures : Report.Measures f call response failure) : (heard.map f).sum =
      call * c.answers.length + response * c.answers.countP (!·.isThrown) +
        failure * (c.thrown + c.refused) := by
  have each : (c.activities.map fun a => (a.reports.map f).sum) =
      c.activities.map fun a => (a.answers.map (Report.worth call response failure)).sum :=
    List.map_congr_left fun a ha => (h.runs a ha).sum_reports (rest a ha) measures
  rw [h.sum fun s => measures.entry _ _ _ (by decide), each, thrown, refused, ← Report.sum_worth,
    answers, List.map_flatMap, List.flatMap_def, List.sum_flatten, List.map_map]
  rfl

theorem Hears.sum_measured {counts : Report → Nat} {call response failure : ℤ}
    (measures : Report.Measures (fun r => counts r) call response failure) :
    ((heard.map counts).sum : ℤ) = call * c.answers.length +
      response * c.answers.countP (!·.isThrown) + failure * (c.thrown + c.refused) := by
  rw [← h.sum_traffic rest measures, Nat.cast_list_sum, List.map_map]
  rfl

theorem Hears.announced : c.entries "Sending request" = c.total .requestsTotal + c.thrown := by
  have sent := h.sum_measured rest Report.measures_sending
  have counted := h.sum_measured rest Report.measures_requests
  have all := List.length_eq_countP_add_countP Arrival.isThrown (l := c.answers)
  rw [h.entries, h.total, ← Report.sum_amountOf]
  simp only [thrown, Bool.not_eq_true, Bool.decide_eq_false] at *
  omega

theorem Hears.failed : c.total .errorsTotal = c.thrown + c.refused := by
  have counted := h.sum_measured rest Report.measures_errors
  rw [h.total, ← Report.sum_amountOf]
  omega

theorem Hears.entered : c.entries "Request failed" = c.thrown + c.refused := by
  have entered := h.sum_measured rest Report.measures_failed
  rw [h.entries]
  omega

theorem Hears.timed (method : Method) :
    (c.metrics.timings Metric.requestLatency.name [("method", method.text)]).length =
      c.metrics.sumWhere method.keys := by
  have even := h.sum_traffic rest (Report.measures_timed method)
  have apart (rs : List Report) : (rs.map fun r => (Report.countsWhere method.keys r : ℤ) -
      Report.samplesOf .requestLatency [("method", method.text)] r).sum =
      ((rs.map (Report.countsWhere method.keys)).sum : ℕ) -
        ((rs.map (Report.samplesOf .requestLatency [("method", method.text)])).sum : ℕ) := by
    induction rs with
    | nil => rfl
    | cons r rest ih =>
      simp only [List.map_cons, List.sum_cons, ih, Nat.cast_add]
      omega
  rw [apart] at even
  rw [h.metrics, Report.length_timings_metricsOf, Report.sumWhere_metricsOf]
  omega

theorem Hears.balanced : c.Balanced where
  answered := by
    rw [answers, List.length_flatMap]
    exact congrArg List.sum (List.map_congr_left fun a ha =>
      (h.runs a ha).length_answers (rest a ha))
  announced := h.announced rest
  timed := h.timed rest
  entered := (h.failed rest).trans (h.entered rest).symm
  failed := h.failed rest
  parts := by
    rw [partSizes, List.length_flatMap]
    exact h.total_own rest fun a runs rests => (runs.hasCounted rests).parts
  bytes := by
    rw [partSizes, List.flatMap_def, List.sum_flatten, List.map_map, ← List.sum_map_add]
    exact h.total_own rest fun a runs rests => (runs.hasCounted rests).bytes
  concluded := by
    have ones (as : List Activity) : (as.map fun a => if a.isConcluded then 1 else 0).sum =
        as.countP Activity.isConcluded := by
      induction as with
      | nil => rfl
      | cons a rest ih => rw [List.map_cons, List.sum_cons, ih, List.countP_cons, Nat.add_comm]
    rw [h.total_own rest (m := .uploadsCompleted) fun a _ _ => rfl,
      h.total_own rest (m := .uploadsAborted) fun a _ _ => rfl, ← List.sum_map_add, ← ones]
    exact congrArg List.sum (List.map_congr_left fun a ha =>
      ((h.runs a ha).hasCounted (rest a ha)).ends)
  pages := by
    rw [List.length_flatMap]
    exact h.total_own rest fun a runs rests => runs.counted_pages rests
  records base := by
    rw [h.metrics, Report.counter_metricsOf]
    exact h.sum_own rest (fun _ => rfl) fun a runs rests => runs.amount_records rests base

end Rest

/--
Whatever a caller asks of a client, in whatever order its operations go on and however the calls are
answered: when none of them is at work, then what was logged and counted is in balance with the
answers. Every announced call has brought a response or none; the responses with a method are timed;
and the errors are the calls without a response and those whose response was no success.
-/
theorem reports_balance {moves : List Move} {c : Client} (run : fresh.run moves = some c)
    (rest : ∀ a ∈ c.activities, a.isOver) : c.Balanced := by
  obtain ⟨_, h⟩ := hears_of_run hears_fresh run
  exact h.balanced rest

/-- An item that is not there, while an upload is under way whose second part gets no response and
which is then discarded. -/
def busy : List Move :=
  [.ask (.store "f" (.text "xy") ⟨some 1.0, some 2.0⟩) ⟨none, [], []⟩,
    .ask (.get (.text "k")) ⟨none, [], []⟩] ++
  (discarded.take 8).map (.turn 0 · none) ++ (answeredWith 404.0 "" 4).map (.turn 1 · none) ++
  (discarded.drop 8).map (.turn 0 · none)

theorem reports_balance_busy : ∃ c, fresh.run busy = some c ∧
    c.activities.map Activity.isResolved = [true, false] ∧
    [c.answers.length, c.thrown, c.refused] = [5, 1, 1] ∧ c.partSizes = [1] ∧ c.Balanced := by
  have ends : (fresh.run busy).map (fun c => (c.activities.all Activity.isOver,
      c.activities.map Activity.isResolved, [c.answers.length, c.thrown, c.refused],
      c.partSizes)) = some (true, [true, false], [5, 1, 1], [1]) := by decide +kernel
  obtain ⟨c, run, shown⟩ := Option.map_eq_some_iff.mp ends
  obtain ⟨rests, shown⟩ := Prod.mk.inj shown
  obtain ⟨resolved, shown⟩ := Prod.mk.inj shown
  obtain ⟨answers, sizes⟩ := Prod.mk.inj shown
  exact ⟨c, run, resolved, answers, sizes, reports_balance run (List.all_eq_true.mp rests)⟩

end Client
end Depot
