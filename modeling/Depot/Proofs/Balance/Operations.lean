import Depot.Drive.Upload
import Depot.Proofs.Balance
import Depot.Proofs.Base.Batches
import Depot.Proofs.InTurn.Operations
import Depot.Proofs.Query.Walk
/-!
# Operations in balance

No operation leaves anything to pay in a tally that values exchanges and not what the operation
reports of its own. What puts and walks report of an answer may be worth something, if this is what
is left to pay of the answer.
-/
namespace Depot

/-- The messages of the entries about exchanges. -/
def Exchange.messages : List String := ["Sending request", "Request failed"]

/-- Entries that are not about exchanges are worth nothing. -/
def Tally.Unlogged (t : Tally) : Prop := ∀ level message context, message ∉ Exchange.messages →
  t.report (.log ⟨level, message, context⟩) = 0

/-- A tally in which exchanges pay for themselves, and neither other entries nor these metrics are
worth anything. -/
structure Tally.Ignores (t : Tally) (own : List Metric) : Prop where
  echoes : t.Echoes fun _ => 0
  entry : t.Unlogged
  count : ∀ m ∈ own, ∀ amount labels, t.report (.count m amount labels) = 0

open Job

variable {t : Tally}

namespace Base

section Quiet
variable (h : t.Echoes fun _ => 0)
include h

theorem isEven_get (key : Value) : (get key).IsEven t :=
  (isEven_ofOutcome _).bind fun _ => isEven_exchangeAs h _ _

theorem isEven_delete (key : Value) : (delete key).IsEven t :=
  (isEven_ofOutcome _).bind fun _ => isEven_exchangeAs h _ _

theorem isEven_update (key : Value) (p : Patch) : (update key p).IsEven t :=
  (isEven_ofOutcome _).bind fun _ => (isEven_require _ _).bind fun _ => isEven_exchangeAs h _ _

theorem isEven_commit (key : Option String) (p : Patch) : (commit key p).IsEven t := by
  cases key with
  | none => exact isEven_ofOutcome _
  | some key => exact isEven_update h (.text key) p

end Quiet

section Written
variable (base : String)

/-- An insertion counts a record if it comes to a result. -/
theorem pays_insert (h : t.Echoes fun _ => 0) (r : Record) (owed : ℤ) : (insert base r).Pays t
    (fun owed' x => owed' =
      owed - if x.isOk then t.report (.tick .recordsWritten [("base", base)]) else 0) owed := by
  intro _
  refine Pays.bind ((isEven_ofOutcome _ owed).mono ?_)
  rintro _ item rfl
  cases item with
  | error f => exact (sub_zero _).symm
  | ok item =>
    refine Pays.bind ((isEven_exchangeAs h _ _ _).mono ?_)
    rintro _ created rfl
    cases created with
    | error f => exact (sub_zero _).symm
    | ok created => rfl

/-- The worth of what is reported of the answer to a bulk put. -/
def putWorth (t : Tally) (base : String) (a : Arrival) : ℤ :=
  match PutResult.ofArrival a with
  | .ok r => t.sum (putReports base r)
  | .error _ => 0

section Puts
variable {base : String} (h : t.Echoes (putWorth t base))
include h

theorem isEven_put (batch : List Record) : (put base batch).IsEven t := by
  refine (isEven_require _ _).bind fun _ => (isEven_require _ _).bind fun _ => fun owed _ => ?_
  refine (isEven_ofOutcome _).bind (fun items owed => ?_) owed
  refine Pays.bind ((pays_exchangeAs h PutAnswer.decode (putCall items) owed).mono ?_)
  rintro _ _ ⟨a, rfl, rfl⟩
  have brought : Exchange.answerAs PutAnswer.decode (putCall items) a.outcome =
      Exchange.answerAs PutAnswer.decode (putCall []) a.outcome := rfl
  rw [brought, putWorth, PutResult.ofArrival]
  cases Exchange.answerAs PutAnswer.decode (putCall []) a.outcome with
  | error f => exact add_zero owed
  | ok answer =>
    refine Pays.bind ((pays_sayAll _ _ _).mono ?_)
    rintro _ _ ⟨rfl, rfl⟩
    exact add_sub_cancel_right ..

theorem isEven_putMany (records : List Record) : (putMany base records).IsEven t := by
  have batches (batches : List (List Record)) (stored : PutResult) :
      (putBatches base batches stored).IsEven t := by
    induction batches generalizing stored with
    | nil => exact isEven_ofOutcome (.ok _)
    | cons batch rest ih => exact (isEven_put h batch).bind fun _ => ih _
  exact (isEven_require _ _).bind fun _ => batches _ _

end Puts

section Ignored
variable (h : t.Ignores [.recordsWritten])
include h

theorem isEven_insert (r : Record) : (insert base r).IsEven t := by
  intro owed
  refine (pays_insert base h.echoes r owed).mono ?_
  rintro _ x rfl
  rw [Report.tick, h.count _ (List.mem_singleton_self _), ite_self, sub_zero]

theorem putWorth_eq_zero (a : Arrival) : putWorth t base a = 0 := by
  rw [putWorth]
  cases PutResult.ofArrival a with
  | error f => rfl
  | ok r =>
    refine Tally.sum_eq_zero fun report hr => ?_
    rw [putReports] at hr
    rcases List.mem_cons.mp hr with rfl | hr
    · exact h.count _ (List.mem_singleton_self _) _ _
    · split at hr
      · cases hr
      · rw [List.mem_singleton.mp hr]
        exact h.entry _ _ _ (by decide)

theorem echoes_putWorth : t.Echoes (putWorth t base) := by
  rw [funext (putWorth_eq_zero base h)]
  exact h.echoes

end Ignored

end Written

end Base

namespace Walk

theorem isEven_fetch (h : t.Echoes fun _ => 0) (bound : Bool) (q : Query) :
    (fetch bound q).IsEven t :=
  (isEven_require _ _).bind fun _ => isEven_exchangeAs h _ _

/-- The worth of what a walk counts of the answer to a call for a page. -/
def pageWorth (t : Tally) (answer : Outcome Page) : ℤ :=
  if answer.isOk then t.report (.tick .queryPages []) else 0

theorem sum_absorb (entry : t.Unlogged) (w : Walk) (policy : PagePolicy) (answer : Outcome Page) :
    t.sum (w.absorb policy answer).2 = pageWorth t answer := by
  cases answer with
  | ok page =>
    obtain ⟨status, taken, -⟩ := w.absorb_ok policy page
    rw [taken, pageReports, Tally.sum, List.map_cons, List.map_singleton, List.sum_pair,
      Report.debug, entry _ _ _ (by decide), add_zero]
    rfl
  | error f =>
    rcases w.absorb_error policy f with taken | ⟨result, taken, -⟩
    · rw [taken]
      rfl
    · rw [taken, Tally.sum, List.map_singleton, List.sum_singleton, stopReport, Report.warn,
        entry _ _ _ (by decide)]
      rfl

section Pages
variable (h : t.Echoes fun a => pageWorth t (Page.ofArrival a)) (entry : t.Unlogged)
include h

theorem pays_fetch (bound : Bool) (q : Query) (owed : ℤ) :
    (fetch bound q).Pays t (fun owed' x => owed' = owed + pageWorth t x) owed := by
  cases bound with
  | false => exact (add_zero owed).symm
  | true =>
    refine (pays_exchangeAs h Page.decode q.pageCall owed).mono ?_
    rintro _ _ ⟨a, rfl, rfl⟩
    rfl

include entry

theorem isEven_run (bound : Bool) (ref : Nat) (policy : PagePolicy) (budget : Nat) :
    (run bound ref policy budget).IsEven t := by
  have follows (w : Walk) : (follow bound ref policy budget w).IsEven t := by
    induction budget generalizing w with
    | zero => exact fun _ => trivial
    | succ budget ih =>
      rw [follow_succ]
      intro owed q
      refine Pays.bind (Pays.attempt ((pays_fetch h bound (w.ask q) owed).mono ?_))
      rintro _ answer rfl
      refine Pays.bind ((pays_sayAll _ _ _).mono ?_)
      rintro _ _ ⟨rfl, rfl⟩
      rw [sum_absorb entry, add_sub_cancel_right]
      cases (w.absorb policy answer).1 with
      | onward w => exact ih w owed
      | ended result => rfl
  exact fun owed q => ((isEven_ofOutcome _).bind follows) owed

end Pages

theorem echoes_pageWorth (h : t.Ignores [.queryPages]) :
    t.Echoes fun a => pageWorth t (Page.ofArrival a) := by
  have nothing (answer : Outcome Page) : pageWorth t answer = 0 := by
    rw [pageWorth, Report.tick, h.count _ (List.mem_singleton_self _), ite_self]
  simp only [nothing]
  exact h.echoes

end Walk

theorem Pages.isEven_pull (h : t.Echoes fun _ => 0) (bound : Bool) (p : Pages) :
    (p.pull bound).IsEven t := by
  rcases p with ⟨_ | q⟩
  · exact isEven_ofOutcome (.ok none)
  · exact (Walk.isEven_fetch h bound q).bind fun _ => isEven_ofOutcome (.ok _)

namespace Drive

section Quiet
variable (h : t.Echoes fun _ => 0)
include h

theorem isEven_list (o : ListOptions) : (list o).IsEven t := isEven_exchangeAs h _ _

theorem isEven_listAll (front : Option String) (budget : Nat) :
    (listAll front budget).IsEven t := by
  have pages (names : List String) (last : Option String) :
      (listFrom front budget names last).IsEven t := by
    induction budget generalizing names last with
    | zero => exact fun _ => trivial
    | succ budget ih =>
      refine (isEven_list h _).bind fun page => ?_
      cases page.next? with
      | none => exact isEven_ofOutcome (.ok _)
      | some cursor => exact ih _ _
  exact pages [] none

theorem isEven_download (name : String) : (download name).IsEven t :=
  (isEven_require _ _).bind fun _ => isEven_exchange h _

theorem isEven_delete (names : List String) : (delete names).IsEven t :=
  (isEven_require _ _).bind fun _ => (isEven_require _ _).bind fun _ => isEven_exchangeAs h _ _

end Quiet

/-- The metrics of uploads. -/
def uploadMetrics : List Metric := [.uploadParts, .uploadBytes, .uploadsCompleted, .uploadsAborted]

namespace Upload
variable (h : t.Ignores uploadMetrics)
include h

theorem isEven_count {m : Metric} (own : m ∈ uploadMetrics) (amount : Nat) (labels : Labels) :
    (say (.count m amount labels)).IsEven t := isEven_say (h.count m own amount labels)

theorem isEven_entry {level : Level} {message : String} {context : Option Fields}
    (own : message ∉ Exchange.messages) : (say (.log ⟨level, message, context⟩)).IsEven t :=
  isEven_say (h.entry level message context own)

theorem isEven_tell (uploaded total : Nat) : (tell uploaded total).IsEven t := by
  intro owed failure
  cases failure with
  | none => rfl
  | some f => exact isEven_entry h (by decide) owed

theorem isEven_single (saveAs : String) (content : ByteArray) : (single saveAs content).IsEven t :=
  (isEven_exchangeAs h.echoes _ _).bind fun _ => (isEven_count h (by decide) _ _).bind fun _ =>
    (isEven_tell h _ _).bind fun _ => isEven_ofOutcome (.ok _)

theorem isEven_launchAll (p : Parts) (parts : List Nat) : (launchAll p parts).IsEven t := by
  induction parts with
  | nil => exact isEven_ofOutcome (.ok _)
  | cons part rest ih =>
    refine IsEven.bind (fun owed => ?_) fun _ => ih
    exact (pays_send h.echoes part (p.call part) owed).mono fun _ _ hq => hq.1

theorem isEven_reportPart (p : Parts) (session : Session) (part : Nat)
    (answer : Outcome ByteArray) : (reportPart p session part answer).IsEven t := by
  cases answer with
  | error f => exact isEven_entry h (by decide)
  | ok body =>
    exact (isEven_count h (by decide) _ _).bind fun _ =>
      (isEven_count h (by decide) _ _).bind fun _ => isEven_tell h _ _

theorem isEven_settleAll (p : Parts) (unsettled : Nat) (pending : List Nat) (session : Session) :
    (settleAll p unsettled pending session).IsEven t := by
  induction unsettled generalizing pending session with
  | zero => exact isEven_ofOutcome (.ok _)
  | succ unsettled ih =>
    intro owed part a
    refine Pays.bind (Pays.attempt ((pays_settle h.echoes (p.call part) a owed).mono ?_))
    rintro _ answer ⟨rfl, -⟩
    rw [add_zero]
    refine ((isEven_reportPart h p _ part answer).attempt.bind fun reported => ?_) owed
    cases reported with
    | error f => exact fun _ => trivial
    | ok _ =>
      refine (isEven_launchAll h p _).attempt.bind fun launched => ?_
      cases launched with
      | error f => exact fun _ => trivial
      | ok _ => exact ih _ _

theorem isEven_conclude (p : Parts) (session : Session) : (conclude p session).IsEven t := by
  unfold conclude
  simp only
  split
  · exact (isEven_exchangeAs h.echoes _ _).bind fun _ => (isEven_count h (by decide) _ _).bind
      fun _ => (isEven_entry h (by decide)).bind fun _ => isEven_ofOutcome (.ok _)
  · exact (isEven_exchange h.echoes _).bind fun _ => (isEven_count h (by decide) _ _).bind
      fun _ => (isEven_entry h (by decide)).bind fun _ => isEven_ofOutcome (.ok _)

theorem isEven_chunked (saveAs : String) (content : ByteArray) (plan : UploadPlan) :
    (chunked saveAs content plan).IsEven t :=
  (isEven_exchangeAs h.echoes _ _).bind fun _ => (isEven_entry h (by decide)).bind
    fun _ => (isEven_launchAll h _ _).bind fun _ => (isEven_settleAll h _ _ _ _).bind fun _ =>
      isEven_conclude h _ _

end Upload

theorem isEven_store (h : t.Ignores uploadMetrics) (saveAs : String) (content : FileContent)
    (o : UploadOptions) : (store saveAs content o).IsEven t := by
  refine IsEven.bind (isEven_ofOutcome (o.plan saveAs)) fun plan => ?_
  split
  · exact Upload.isEven_single h saveAs _
  · exact Upload.isEven_chunked h saveAs _ plan

end Drive
end Depot
