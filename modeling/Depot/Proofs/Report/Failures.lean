import Depot.Proofs.Drive.Accounts
/-!
# Failures are reported

Each request that fails is reported as a failure once, with its method, its path and its code, and
nothing else is. So an operation that fails like its last request has been reported as failed once,
and one that shows no failure in its result not at all.
-/
namespace Depot

/-- The operations of bases, queries and drives, of which walks and listings go through `budget`
pages at most, and the failures that their results show. -/
inductive Job.Shows (budget : Nat) : {α : Type} → Job α → (α → List Failure) → Prop where
  | get (key : Value) : Shows budget (Base.get key) fun _ => []
  | delete (key : Value) : Shows budget (Base.delete key) fun _ => []
  | update (key : Value) (p : Patch) : Shows budget (Base.update key p) fun _ => []
  | commit (key : Option String) (p : Patch) : Shows budget (Base.commit key p) fun _ => []
  | insert (base : String) (r : Record) : Shows budget (Base.insert base r) fun _ => []
  | put (base : String) (rs : List Record) : Shows budget (Base.put base rs) fun _ => []
  | putMany (base : String) (rs : List Record) : Shows budget (Base.putMany base rs) fun _ => []
  | fetch (bound : Bool) (q : Query) : Shows budget (Walk.fetch bound q) fun _ => []
  | walk (bound : Bool) (ref : Nat) (policy : PagePolicy) :
    Shows budget (Walk.run bound ref policy budget) Walk.failuresOfWalk
  | pull (bound : Bool) (p : Pages) : Shows budget (p.pull bound) fun _ => []
  | list (o : Drive.ListOptions) : Shows budget (Drive.list o) fun _ => []
  | listAll (front : Option String) : Shows budget (Drive.listAll front budget) fun _ => []
  | download (name : String) : Shows budget (Drive.download name) fun _ => []
  | deleteFiles (names : List String) : Shows budget (Drive.delete names) fun _ => []
  | store (saveAs : String) (content : Drive.FileContent) (o : Drive.UploadOptions) :
    Shows budget (Drive.store saveAs content o) Drive.UploadResult.failuresOfParts

theorem Job.Shows.isAccounted {budget : Nat} {α : Type} {j : Job α} {shown : α → List Failure}
    (h : j.Shows budget shown) : j.IsAccounted shown budget := by
  cases h with
  | get key => exact (Base.asksInTurn_get key).isAccounted
  | delete key => exact (Base.asksInTurn_delete key).isAccounted
  | update key p => exact (Base.asksInTurn_update key p).isAccounted
  | commit key p => exact (Base.asksInTurn_commit key p).isAccounted
  | insert base r => exact (Base.asksInTurn_insert base r).isAccounted
  | put base rs => exact (Base.asksInTurn_put base rs).isAccounted
  | putMany base rs => exact (Base.asksInTurn_putMany base rs).isAccounted
  | fetch bound q => exact (Walk.asksInTurn_fetch bound q).isAccounted
  | walk bound ref policy => exact (Walk.asksInTurn_run bound ref policy budget).isAccounted
  | pull bound p => exact (p.asksInTurn_pull bound).isAccounted
  | list o => exact (Drive.asksInTurn_list o).isAccounted
  | listAll front => exact (Drive.asksInTurn_listAll front budget).isAccounted
  | download name => exact (Drive.asksInTurn_download name).isAccounted
  | deleteFiles names => exact (Drive.asksInTurn_delete names).isAccounted
  | store saveAs content o => exact Drive.isAccounted_store saveAs content o budget

/-! ## Counting -/

/-- The text that an entry has under a name in its context. -/
def LogEntry.text? (e : LogEntry) (name : String) : Option String :=
  match e.context.bind (Table.get? name) with
  | some (.text s) => some s
  | _ => none

namespace Report

/-- How many entries at the level of errors with the method and the path of a call a report is. -/
def entriesFor (c : Call) : Report → Nat
  | .log e =>
    if e.level = .error ∧ e.text? "method" = some c.method.text ∧ e.text? "path" = some c.path
      then 1 else 0
  | _ => 0

/-- What a report adds to the count of errors for a method and a code. -/
def errorsFor (method : Method) (code : String) : Report → Nat
  | .count .errorsTotal amount labels =>
    if labels = [("method", method.text), ("code", code)] then amount else 0
  | _ => 0

end Report

theorem Report.entriesFor_calm {c : Call} (r : Report) (h : r.isAlarm = false) :
    entriesFor c r = 0 := by
  cases r with
  | log e => exact if_neg fun both => by simp [isAlarm, both.1] at h
  | count | time => rfl

theorem Report.errorsFor_calm {method : Method} {code : String} (r : Report)
    (h : r.isAlarm = false) : errorsFor method code r = 0 := by
  cases r with
  | count m amount labels => cases m <;> first | rfl | cases h
  | log | time => rfl

/-- What an error is counted under. -/
def Failure.codeText (f : Failure) : String := (f.code?.map ErrorCode.text).getD "unknown"

theorem Method.text_injective {m m' : Method} (h : m.text = m'.text) : m = m' := by
  cases m <;> cases m' <;> first | rfl | exact absurd h (by decide)

/-- A failed call is one entry, and one error of its method and code. -/
theorem Exchange.failing_counts (c : Call) (f : Failure) :
    ((failing c f).map (Report.entriesFor c)).sum = 1 ∧
      ((failing c f).map (Report.errorsFor c.method f.codeText)).sum = 1 := by
  constructor
  · simp [failing, Report.entriesFor, Report.tick, Report.error, LogEntry.text?, Table.get?]
  · simp [failing, Report.errorsFor, Report.tick, Report.error, Failure.codeText]

/-- A failed call with another method counts for none. -/
theorem Exchange.failing_counts_other {c d : Call} (other : d.method ≠ c.method) (f : Failure)
    (code : String) : ((failing d f).map (Report.entriesFor c)).sum = 0 ∧
      ((failing d f).map (Report.errorsFor c.method code)).sum = 0 := by
  have text : d.method.text ≠ c.method.text := fun h => other (Method.text_injective h)
  constructor
  · simp [failing, Report.entriesFor, Report.tick, Report.error, LogEntry.text?, Table.get?, text]
  · simp [failing, Report.errorsFor, Report.tick, Report.error, text]

namespace Scene

/-- How much the reports are by a measure. -/
def amount (measure : Report → Nat) (s : Scene) : Nat := (s.reports.map measure).sum

theorem amount_eq {measure : Report → Nat} (calm : ∀ r, r.isAlarm = false → measure r = 0)
    (s : Scene) : s.amount measure = (s.alarms.map measure).sum := by
  rw [amount, alarms]
  induction s.reports with
  | nil => rfl
  | cons r rest ih =>
    rw [List.map_cons, List.sum_cons, ih, List.filter_cons]
    cases h : r.isAlarm with
    | false => simp [calm r h]
    | true => simp

/-- By a measure by which the failures before the last call are nothing, there is what that one
is. -/
theorem amount_eq_last {measure : Report → Nat} (calm : ∀ r, r.isAlarm = false → measure r = 0)
    {s : Scene} {before : List (Call × Arrival)} {x : Call × Arrival} {f : Failure}
    (raised : s.alarms = (before ++ [x]).flatMap Exchange.alarms) (failed : x.2.failure? = some f)
    (others : ∀ y ∈ before, ∀ g, y.2.failure? = some g →
      ((Exchange.failing y.1 g).map measure).sum = 0) :
    s.amount measure = ((Exchange.failing x.1 f).map measure).sum := by
  have nothing (ys : List (Call × Arrival)) (h : ∀ y ∈ ys, ∀ g, y.2.failure? = some g →
      ((Exchange.failing y.1 g).map measure).sum = 0) :
      ((ys.flatMap Exchange.alarms).map measure).sum = 0 := by
    induction ys with
    | nil => rfl
    | cons y rest ih =>
      obtain ⟨first, others⟩ := List.forall_mem_cons.mp h
      rw [List.flatMap_cons, List.map_append, List.sum_append, ih others, Nat.add_zero,
        Exchange.alarms]
      cases hy : y.2.failure? with
      | none => rfl
      | some g => exact first g hy
  rw [amount_eq calm, raised, List.flatMap_append, List.map_append, List.sum_append,
    nothing before others, Nat.zero_add, List.flatMap_singleton, Exchange.alarms, failed]
  rfl

end Scene

/-- Whether each failure that an outcome shows is one of a call. -/
def FailsLikeCalls {α : Type} (shown : α → List Failure) (result : Outcome α)
    (answered : List (Call × Arrival)) : Prop :=
  ∀ g ∈ failuresIn shown result, ∃ x ∈ answered, ∃ f,
    x.2.failure? = some f ∧ (g = f ∨ g = f.asError)

/--
Every call that an operation has sent is answered when it ends. If each failure that it shows is
one of a call, then its alarms are those of the calls that have failed: for each an entry at the
level of errors and an error counted. If it fails and its last call has failed, then it fails like
the call, and there is one entry with the method and the path of the call, and one error counted for
its method and the code of the failure. If it has a result, this shows the failures of the calls;
and if it shows none, there is no alarm.
-/
theorem reports_failed_calls {α : Type} {budget : Nat} {j : Job α} {shown : α → List Failure}
    (operation : j.Shows budget shown) {desk : Desk} {turns : List Turn} {c : Course α}
    {result : Outcome α} (run : (Course.start desk j).run turns = some c)
    (ended : c.result? = some result) :
    c.scene.sent.Perm (c.scene.answered.map Prod.fst) ∧
    (FailsLikeCalls shown result c.scene.answered →
      c.scene.alarms = c.scene.answered.flatMap Exchange.alarms) ∧
    (∀ e, result = .error e → ∀ call a f, c.scene.answered.getLast? = some (call, a) →
      a.failure? = some f → e = f ∧ c.scene.amount (Report.entriesFor call) = 1 ∧
        c.scene.amount (Report.errorsFor call.method e.codeText) = 1) ∧
    ∀ r, result = .ok r →
      (∀ x ∈ c.scene.answered, ∀ f, x.2.failure? = some f → f.asError ∈ shown r) ∧
        (shown r = [] → c.scene.alarms = []) := by
  have comes := operation.isAccounted _ [] [] (.start desk)
  obtain ⟨new, stands, accounts⟩ := Course.post_of_keeps (Course.keeps_of_run comes run) ended
  rw [List.nil_append, List.nil_append] at stands
  refine ⟨?_, fun _ => ?_, fun e he call a f last failed => ?_, fun r hr => ⟨?_, fun unshown => ?_⟩⟩
  · have all := c.scene.sent_perm
    rwa [stands.waiting, List.map_nil, List.append_nil] at all
  · rw [stands.alarms, stands.answered]
  · rw [stands.answered] at last
    obtain ⟨rfl, apart⟩ := accounts.failed e (congrArg some he) _ f last failed
    obtain ⟨before, rfl⟩ := List.getLast?_eq_some_iff.mp last
    rw [List.dropLast_concat] at apart
    have others : ∀ y ∈ before, ∀ g, y.2.failure? = some g → y.1.method ≠ call.method := by
      intro y hy g hg same
      rw [apart y hy same] at hg
      cases hg
    refine ⟨rfl, ?_, ?_⟩
    · rw [Scene.amount_eq_last Report.entriesFor_calm stands.alarms failed fun y hy g hg =>
        (Exchange.failing_counts_other (others y hy g hg) g "").1]
      exact (Exchange.failing_counts call e).1
    · rw [Scene.amount_eq_last Report.errorsFor_calm stands.alarms failed fun y hy g hg =>
        (Exchange.failing_counts_other (others y hy g hg) g _).2]
      exact (Exchange.failing_counts call e).2
  · rw [stands.answered]
    exact accounts.shown r (congrArg some hr)
  · rw [stands.alarms, List.flatMap_eq_nil_iff]
    intro x hx
    rw [Exchange.alarms]
    cases hf : x.2.failure? with
    | none => rfl
    | some f =>
      have mem := accounts.shown r (congrArg some hr) x hx f hf
      rw [unshown] at mem
      cases mem

/-- The code of an outcome that is a failure of the client. -/
def Outcome.code? {α : Type} : Outcome α → Option ErrorCode
  | .ok _ => none
  | .error f => f.code?

/-- The turns of an operation with one call, which is answered like this; its reports are taken. -/
def answeredWith (status : Float) (body : String) (reports : Nat) : List Turn :=
  [.serve, .serve, .answer [] 0 ⟨.ok ⟨status, "", [], body.toUTF8⟩, 0.0⟩] ++
    List.replicate reports .serve

/-- An item that is not there. -/
theorem reports_failed_calls_notFound : ∃ c e call,
    (Course.start ⟨none, [], []⟩ (Base.get (.text "k"))).run (answeredWith 404.0 "" 4) = some c ∧
      c.result? = some (.error e) ∧ c.scene.sent.length = 1 ∧
      c.scene.amount (Report.entriesFor call) = 1 ∧
      c.scene.amount (Report.errorsFor call.method e.codeText) = 1 := by
  have ends : ((Course.start ⟨none, [], []⟩ (Base.get (.text "k"))).run
      (answeredWith 404.0 "" 4)).map (fun c => (c.result?.bind Outcome.code?,
        c.scene.answered.getLast?.bind fun x => x.2.failure?.map fun _ => c.scene.sent.length)) =
      some (some .notFound, some 1) := by decide +kernel
  obtain ⟨c, run, shown⟩ := Option.map_eq_some_iff.mp ends
  obtain ⟨code, answered⟩ := Prod.mk.inj shown
  obtain ⟨result, ended, code⟩ := Option.bind_eq_some_iff.mp code
  obtain ⟨⟨call, a⟩, last, failed⟩ := Option.bind_eq_some_iff.mp answered
  obtain ⟨f, failed, sent⟩ := Option.map_eq_some_iff.mp failed
  cases result with
  | ok _ => cases code
  | error e =>
    have operation : (Base.get (.text "k")).Shows 0 fun _ => [] := .get _
    obtain ⟨-, once⟩ := (reports_failed_calls operation run ended).2.2.1 e rfl call a f last failed
    exact ⟨c, e, call, run, ended, sent, once⟩

/-- The turns of an upload whose second part is not stored, and which is then discarded. -/
def discarded : List Turn :=
  Drive.secondPartFails ++
    [.answer [] 0 ⟨.ok ⟨200.0, "", [], ByteArray.empty⟩, 0.0⟩, .serve, .serve, .serve, .serve]

/-- An upload that is discarded after a part has failed ends with a result and has raised an alarm;
and an answer that cannot be read is a failure that has raised none. -/
theorem alarms_not_as_failures :
    (∃ c r, (Course.start ⟨none, [], []⟩ (Drive.store "f" (.text "xy") ⟨some 1.0, some 2.0⟩)).run
        discarded = some c ∧ c.result? = some (.ok r) ∧ c.scene.alarms ≠ []) ∧
    ∃ c e, (Course.start ⟨none, [], []⟩ (Base.get (.text "k"))).run
        (answeredWith 200.0 "?" 2) = some c ∧ c.result? = some (.error e) ∧
      c.scene.sent.length = 1 ∧ c.scene.alarms = [] := by
  constructor
  · have ends : ((Course.start ⟨none, [], []⟩
        (Drive.store "f" (.text "xy") ⟨some 1.0, some 2.0⟩)).run discarded).map
          (fun c => (c.result?.map Except.isOk, c.scene.alarms.length)) = some (some true, 2) := by
      decide +kernel
    obtain ⟨c, run, shown⟩ := Option.map_eq_some_iff.mp ends
    obtain ⟨result, alarms⟩ := Prod.mk.inj shown
    obtain ⟨result, ended, kind⟩ := Option.map_eq_some_iff.mp result
    cases result with
    | error e => cases kind
    | ok r => exact ⟨c, r, run, ended, List.ne_nil_of_length_pos (alarms ▸ Nat.zero_lt_two)⟩
  · have ends : ((Course.start ⟨none, [], []⟩ (Base.get (.text "k"))).run
        (answeredWith 200.0 "?" 2)).map (fun c => (c.result?.map Except.isOk, c.scene.sent.length,
          c.scene.alarms.length)) = some (some false, 1, 0) := by decide +kernel
    obtain ⟨c, run, shown⟩ := Option.map_eq_some_iff.mp ends
    obtain ⟨result, rest⟩ := Prod.mk.inj shown
    obtain ⟨sent, alarms⟩ := Prod.mk.inj rest
    obtain ⟨result, ended, kind⟩ := Option.map_eq_some_iff.mp result
    cases result with
    | error e => exact ⟨c, e, run, ended, sent, List.length_eq_zero_iff.mp alarms⟩
    | ok r => cases kind

end Depot
