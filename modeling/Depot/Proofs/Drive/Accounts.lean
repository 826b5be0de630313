import Depot.Proofs.Drive.Single
import Depot.Proofs.InTurn.Operations
import Depot.Proofs.Report.Accounts
/-!
# Accounts of uploads

An upload in parts goes on when a part has failed, and ends with one call that tells the service
whether all are stored. Its session knows the failures of its parts, each once, and its result shows
them.
-/
namespace Depot.Drive

open Job

theorem comesTo_tell {waiting : List (Nat × Call)} {answered : List (Call × Arrival)}
    {alarms : List Report} {s : Scene} (h : s.Stands waiting answered alarms)
    (uploaded total : Nat) : (Upload.tell uploaded total).ComesTo (fun result s' =>
      result = some (.ok ()) ∧ s'.Stands waiting answered alarms) s := by
  have told := h.note (i := .told uploaded total) rfl rfl rfl
  refine ⟨trivial, fun failure => ?_⟩
  cases failure with
  | none => exact ⟨trivial, rfl, told⟩
  | some f =>
    refine (comesTo_say told _).mono ?_
    rintro _ s' - ⟨rfl, h'⟩
    exact ⟨rfl, by simpa [Report.warn, Report.isAlarm] using h'⟩

namespace Upload
variable {p : Parts} {answered : List (Call × Arrival)} {alarms : List Report} {s : Scene}

/-- The parts that are under way, with their calls. -/
def Parts.waiting (p : Parts) (parts : List Nat) : List (Nat × Call) :=
  parts.map fun part => (part, p.call part)

theorem Parts.lookup_waiting {parts : List Nat} {part : Nat} (h : part ∈ parts) :
    (p.waiting parts).lookup part = some (p.call part) := by
  induction parts with
  | nil => cases h
  | cons k rest ih =>
    rw [waiting, List.map_cons, List.lookup_cons]
    by_cases same : part = k
    · subst same
      simp
    · have other : (part == k) = false := by simpa using same
      simp only [other]
      exact ih ((List.mem_cons.mp h).resolve_left same)

theorem Parts.eraseP_waiting (parts : List Nat) (part : Nat) :
    (p.waiting parts).eraseP (·.1 == part) = p.waiting (parts.erase part) := by
  rw [waiting, List.eraseP_map, waiting, List.erase_eq_eraseP]
  congr 2
  funext k
  exact Bool.beq_comm

theorem comesTo_launchAll {parts : List Nat} (h : s.Stands (p.waiting parts) answered alarms)
    (more : List Nat) : (launchAll p more).ComesTo (fun result s' => result = some (.ok ()) ∧
      s'.Stands (p.waiting (parts ++ more)) answered alarms) s := by
  induction more generalizing parts s with
  | nil => exact ⟨trivial, rfl, by simpa using h⟩
  | cons part rest ih =>
    refine Keeps.bind ((comesTo_send h part (p.call part)).mono ?_)
    rintro _ s' - ⟨rfl, h'⟩
    have one : p.waiting parts ++ [(part, p.call part)] = p.waiting (parts ++ [part]) := by
      simp [Parts.waiting]
    rw [one] at h'
    rw [List.append_cons]
    exact ih h'

theorem comesTo_reportPart {waiting : List (Nat × Call)} (h : s.Stands waiting answered alarms)
    (session : Session) (part : Nat) (answer : Outcome ByteArray) :
    (reportPart p session part answer).ComesTo (fun result s' => result = some (.ok ()) ∧
      s'.Stands waiting answered alarms) s := by
  cases answer with
  | error f =>
    refine (comesTo_say h _).mono ?_
    rintro _ s' - ⟨rfl, h'⟩
    exact ⟨rfl, by simpa [Report.warn, Report.isAlarm] using h'⟩
  | ok body =>
    refine Keeps.bind ((comesTo_say h _).mono ?_)
    rintro _ s₁ - ⟨rfl, h₁⟩
    refine Keeps.bind ((comesTo_say h₁ _).mono ?_)
    rintro _ s₂ - ⟨rfl, h₂⟩
    refine comesTo_tell ?_ _ _
    simpa [Report.tick, Report.isAlarm] using h₂

/-- What a session knows of the calls that were answered: they all send something, and the failures
among them are its own. -/
structure KnowsAll (session : Session) (new : List (Call × Arrival)) : Prop where
  posts : ∀ x ∈ new, x.1.method = .post
  failures : session.failures.map PartFailure.failure =
    (new.filterMap fun x => x.2.failure?).map Failure.asError

theorem KnowsAll.settle {session : Session} {new : List (Call × Arrival)}
    (h : KnowsAll session new) (part : Nat) (a : Arrival) :
    KnowsAll (settled p session part (Exchange.answer a.outcome)) (new ++ [(p.call part, a)]) where
  posts x hx := by
    rcases List.mem_append.mp hx with hx | hx
    · exact h.posts x hx
    · rw [List.mem_singleton.mp hx]
      rfl
  failures := by
    rw [List.filterMap_append, List.map_append, ← h.failures, List.filterMap_cons, Arrival.failure?]
    cases Exchange.answer a.outcome <;> simp [settled]

/-- Whatever parts settle in whatever order, the session knows their failures. -/
theorem comesTo_settleAll {unsettled : Nat} {pending underWay : List Nat} {session : Session}
    {new : List (Call × Arrival)} (hs : s.Stands (p.waiting underWay) (answered ++ new)
      (alarms ++ new.flatMap Exchange.alarms)) (knows : KnowsAll session new)
    (count : unsettled = underWay.length + pending.length)
    (busy : underWay = [] → pending = []) :
    (settleAll p unsettled pending session).ComesTo (fun result s' => ∃ session' new',
      result = some (.ok session') ∧ KnowsAll session' new' ∧
        s'.Stands [] (answered ++ new') (alarms ++ new'.flatMap Exchange.alarms)) s := by
  -- each part that settles makes room for the next pending one
  induction unsettled generalizing pending underWay session new s with
  | zero =>
    have idle : underWay = [] := List.length_eq_zero_iff.mp (by omega)
    subst idle
    exact ⟨trivial, session, new, rfl, knows, hs⟩
  | succ unsettled ih =>
    have open_ : s.underWay = underWay := by
      rw [hs.underWay, Parts.waiting, List.map_map]
      exact List.map_id _
    have some_open : underWay ≠ [] := by
      intro idle
      simp [idle, busy idle] at count
    refine ⟨trivial, open_ ▸ some_open, fun moves part a hk => ?_⟩
    rw [open_] at hk
    have landed := (hs.stir moves).land (Parts.lookup_waiting hk) a
    rw [Parts.eraseP_waiting] at landed
    refine Keeps.bind (Keeps.attempt ((comesTo_settle landed (p.call part) a).mono ?_))
    rintro _ s₁ - ⟨rfl, hs₁⟩
    have taken : s₁.Stands (p.waiting (underWay.erase part))
        (answered ++ (new ++ [(p.call part, a)]))
        (alarms ++ (new ++ [(p.call part, a)]).flatMap Exchange.alarms) := by
      simpa using hs₁
    refine Keeps.bind (Keeps.attempt ((comesTo_reportPart taken _ part _).mono ?_))
    rintro _ s₂ - ⟨rfl, hs₂⟩
    refine Keeps.bind (Keeps.attempt ((comesTo_launchAll hs₂ (pending.take 1)).mono ?_))
    rintro _ s₃ - ⟨rfl, hs₃⟩
    have fewer : (underWay.erase part).length + 1 = underWay.length := by
      have := List.length_pos_of_mem hk
      rw [List.length_erase_of_mem hk]
      omega
    have room : (pending.take 1).length + (pending.drop 1).length = pending.length := by
      rw [← List.length_append, List.take_append_drop]
    refine ih hs₃ (knows.settle part a) ?_ fun idle => ?_
    · rw [List.length_append]
      omega
    · cases pending with
      | nil => rfl
      | cons next rest => simp at idle

theorem comesTo_end {α : Type} {waiting : List (Nat × Call)} {a : α} {r r' : Report}
    (h : s.Stands waiting answered alarms) (calm : [r, r'].filter (·.isAlarm) = []) :
    (do say r; say r'; return a : Job α).ComesTo (fun result s' => result = some (.ok a) ∧
      s'.Stands waiting answered alarms) s := by
  refine Keeps.bind ((comesTo_say h r).mono ?_)
  rintro _ s₁ - ⟨rfl, h₁⟩
  refine Keeps.bind ((comesTo_say h₁ r').mono ?_)
  rintro _ s₂ - ⟨rfl, h₂⟩
  refine ⟨trivial, rfl, ?_⟩
  rw [List.append_assoc, ← List.filter_append, List.singleton_append, calm, List.append_nil] at h₂
  exact h₂

/-- A session that knows no failure knows of calls that have all succeeded. -/
theorem KnowsAll.allSucceed {session : Session} {new : List (Call × Arrival)}
    (h : KnowsAll session new) (none_failed : session.failures = []) : AllSucceed new := by
  have failures := h.failures
  rw [none_failed] at failures
  have calm := List.filterMap_eq_nil_iff.mp (List.map_eq_nil_iff.mp failures.symm)
  exact calm

/-- The failures of parts are what a session knows. -/
theorem KnowsAll.mem {session : Session} {new : List (Call × Arrival)} (h : KnowsAll session new)
    {x : Call × Arrival} (hx : x ∈ new) {f : Failure} (hf : x.2.failure? = some f) :
    f.asError ∈ session.failures.map PartFailure.failure := by
  rw [h.failures]
  exact List.mem_map_of_mem (List.mem_filterMap.mpr ⟨x, hx, hf⟩)

theorem KnowsAll.traced {session : Session} {new : List (Call × Arrival)}
    (h : KnowsAll session new) {f : Failure} (hf : f ∈ session.failures.map PartFailure.failure) :
    ∃ x ∈ new, ∃ g, x.2.failure? = some g ∧ f = g.asError := by
  rw [h.failures] at hf
  obtain ⟨g, hg, rfl⟩ := List.mem_map.mp hf
  obtain ⟨x, hx, hg⟩ := List.mem_filterMap.mp hg
  exact ⟨x, hx, g, hg, rfl⟩

/-- An upload that fails like the call that ends its session. -/
theorem KnowsAll.accounts_failed {session : Session} {new : List (Call × Arrival)}
    (h : KnowsAll session new) {c : Call} (other : c.method ≠ .post) {a : Arrival} {f : Failure}
    (last : a.failure? = some f) (n : Nat) :
    Accounts UploadResult.failuresOfParts n (new ++ [(c, a)]) (some (.error f)) := by
  refine .of_error (fun x g hx hg => ?_) (.inr ⟨(c, a), by simp, f, last, .inl rfl⟩)
  rw [List.getLast?_concat] at hx
  cases hx
  refine ⟨Option.some.inj (last.symm.trans hg), fun y hy same => ?_⟩
  rw [List.dropLast_concat] at hy
  exact absurd (same.symm.trans (h.posts y hy)) other

theorem comesTo_conclude {session : Session} {new : List (Call × Arrival)}
    (hs : s.Stands [] (answered ++ new) (alarms ++ new.flatMap Exchange.alarms))
    (knows : KnowsAll session new) (n : Nat) :
    (conclude p session).ComesTo (fun result s' => ∃ new',
      s'.Stands [] (answered ++ new') (alarms ++ new'.flatMap Exchange.alarms) ∧
        Accounts UploadResult.failuresOfParts n new' result) s := by
  have sorted := Sorting.sorted_perm (fun a b => a.part ≤ b.part) session.failures
  unfold conclude
  simp only [sorted.isEmpty_eq]
  split
  case isTrue stored =>
    have calm := knows.allSucceed (List.isEmpty_iff.mp stored)
    refine Keeps.bind ((comesTo_exchangeAs hs _ _).mono ?_)
    rintro _ s₁ - ⟨a, rfl, hs₁⟩
    have hs₁ : s₁.Stands [] (answered ++ (new ++ [(commitCall p.saveAs p.uploadId, a)]))
        (alarms ++ (new ++ [(commitCall p.saveAs p.uploadId, a)]).flatMap Exchange.alarms) := by
      simpa using hs₁
    rcases Exchange.answerAs_cases FileInfo.decode (commitCall p.saveAs p.uploadId) a with
      ⟨f, last, read⟩ | ⟨quiet, ⟨info, read⟩ | ⟨f, read, own⟩⟩
    · rw [read]
      exact ⟨_, hs₁, knows.accounts_failed (show Method.patch ≠ .post by decide) last n⟩
    · rw [read]
      refine (comesTo_end hs₁ rfl).mono ?_
      rintro _ s₂ - ⟨rfl, hs₂⟩
      have all := calm.append (.singleton (x := (commitCall p.saveAs p.uploadId, a)) quiet)
      exact ⟨_, hs₂, (InTurn.ended all fun g hg => (List.not_mem_nil hg).elim).accounts⟩
    · rw [read]
      exact ⟨_, hs₁, (InTurn.ended_error (calm.append (.singleton quiet)) own).accounts⟩
  case isFalse failed =>
    refine Keeps.bind ((comesTo_exchange hs _).mono ?_)
    rintro _ s₁ - ⟨a, rfl, hs₁⟩
    have hs₁ : s₁.Stands [] (answered ++ (new ++ [(abortCall p.saveAs p.uploadId, a)]))
        (alarms ++ (new ++ [(abortCall p.saveAs p.uploadId, a)]).flatMap Exchange.alarms) := by
      simpa using hs₁
    cases ha : Exchange.answer a.outcome with
    | error f =>
      have last := Arrival.failure?_eq_some.mpr ha
      exact ⟨_, hs₁, knows.accounts_failed (show Method.delete ≠ .post by decide) last n⟩
    | ok body =>
      have quiet : a.failure? = none := by rw [Arrival.failure?, ha]
      refine (comesTo_end hs₁ rfl).mono ?_
      rintro _ s₂ - ⟨rfl, hs₂⟩
      refine ⟨_, hs₂, .of_ok (fun x hx f hf => ?_) fun f hf => ?_⟩
      · refine ((sorted.map PartFailure.failure).mem_iff).mpr ?_
        rcases List.mem_append.mp hx with hx | hx
        · exact knows.mem hx hf
        · rw [List.mem_singleton.mp hx, quiet] at hf
          cases hf
      · have hf := ((sorted.map PartFailure.failure).mem_iff).mp hf
        obtain ⟨x, hx, g, hg, same⟩ := knows.traced hf
        exact .inr ⟨x, List.mem_append_left _ hx, g, hg, .inr same⟩

/-- The parts of a session that was opened: some of them are sent at first, and the others when
there is room. -/
theorem comesTo_parts {session : Session} {new : List (Call × Arrival)}
    (hs : s.Stands [] (answered ++ new) (alarms ++ new.flatMap Exchange.alarms))
    (knows : KnowsAll session new) {width : Nat} (within : width ≤ p.count)
    (wide : p.count ≠ 0 → width ≠ 0) (n : Nat) :
    (launchAll p (p.numbers.take width) >>= fun _ =>
      settleAll p p.count (p.numbers.drop width) session >>= conclude p).ComesTo
      (fun result s' => ∃ new',
        s'.Stands [] (answered ++ new') (alarms ++ new'.flatMap Exchange.alarms) ∧
          Accounts UploadResult.failuresOfParts n new' result) s := by
  have many : p.numbers.length = p.count := by simp [Parts.numbers]
  have none_sent : s.Stands (p.waiting []) (answered ++ new)
      (alarms ++ new.flatMap Exchange.alarms) := hs
  refine Keeps.bind ((comesTo_launchAll none_sent _).mono ?_)
  rintro _ s₁ - ⟨rfl, hs₁⟩
  refine Keeps.bind ((comesTo_settleAll hs₁ knows ?_ fun idle => ?_).mono ?_)
  · rw [List.nil_append, List.length_take, List.length_drop, many]
    omega
  · have idle := congrArg List.length idle
    rw [List.nil_append, List.length_take, List.length_nil, many] at idle
    rw [List.drop_eq_nil_iff, many]
    omega
  · rintro _ s₂ - ⟨session', new', rfl, knows', hs₂⟩
    exact comesTo_conclude hs₂ knows' n

theorem isAccounted_chunked (saveAs : String) (content : ByteArray) (plan : UploadPlan) (n : Nat) :
    (chunked saveAs content plan).IsAccounted UploadResult.failuresOfParts n := by
  intro s answered alarms hs
  refine Keeps.bind ((comesTo_exchangeAs hs _ _).mono ?_)
  rintro _ s₁ - ⟨a, rfl, hs₁⟩
  have hs₁ : s₁.Stands [] (answered ++ [(openCall saveAs, a)])
      (alarms ++ [(openCall saveAs, a)].flatMap Exchange.alarms) := by simpa using hs₁
  rcases Exchange.answerAs_cases UploadTicket.decode (openCall saveAs) a with
    ⟨f, last, read⟩ | ⟨quiet, ⟨ticket, read⟩ | ⟨f, read, own⟩⟩
  · rw [read]
    exact ⟨_, hs₁, (InTurn.failed_alone last).accounts⟩
  · rw [read]
    refine Keeps.bind ((comesTo_say hs₁ _).mono ?_)
    rintro _ s₂ - ⟨rfl, hs₂⟩
    have hs₂ : s₂.Stands [] (answered ++ [(openCall saveAs, a)])
        (alarms ++ [(openCall saveAs, a)].flatMap Exchange.alarms) := by
      simpa [Report.info, Report.isAlarm] using hs₂
    have knows : KnowsAll ⟨ticket.uploadId, ticket.name, [], [], 0⟩ [(openCall saveAs, a)] :=
      ⟨fun x hx => List.mem_singleton.mp hx ▸ rfl, by simp [quiet]⟩
    have positive := plan.concurrency_pos
    exact comesTo_parts (p := ⟨saveAs, ticket.uploadId, content, plan.chunkSize⟩) hs₂ knows
      (Nat.min_le_right ..) (by omega) n
  · rw [read]
    exact ⟨_, hs₁, (InTurn.ended_error (.singleton quiet) own).accounts⟩

end Upload

theorem UploadOptions.isClient_of_plan {o : UploadOptions} {saveAs : String} {f : Failure}
    (h : o.plan saveAs = .error f) : f.isClient = true := by
  have size {g : Failure} (h : o.chunkSizeOrDefault = .error g) : g.isClient = true := by
    rw [chunkSizeOrDefault] at h
    repeat' split at h
    all_goals cases h
    all_goals exact Precondition.isClient_failure _
  have width {g : Failure} (h : o.concurrencyOrDefault = .error g) : g.isClient = true := by
    rw [concurrencyOrDefault] at h
    repeat' split at h
    all_goals cases h
    all_goals exact Precondition.isClient_failure _
  rw [plan] at h
  split at h
  · cases h
    exact Precondition.isClient_failure _
  · cases hs : o.chunkSizeOrDefault with
    | error g =>
      rw [hs] at h
      cases h
      exact size hs
    | ok chunkSize =>
      cases hw : o.concurrencyOrDefault with
      | error g =>
        rw [hs, hw] at h
        cases h
        exact width hw
      | ok concurrency =>
        rw [hs, hw] at h
        cases h

theorem isAccounted_store (saveAs : String) (content : FileContent) (o : UploadOptions) (n : Nat) :
    (store saveAs content o).IsAccounted UploadResult.failuresOfParts n := by
  rw [store]
  cases planned : o.plan saveAs with
  | error f =>
    have refused : upload saveAs content.toBytes o = ofOutcome (.error f) := by
      rw [upload, planned]
      rfl
    rw [refused]
    refine (asksInTurn_ofOutcome fun g hg => ?_).isAccounted
    exact List.mem_singleton.mp hg ▸ UploadOptions.isClient_of_plan planned
  | ok plan =>
    rw [Upload.upload_of_plan planned]
    split
    · exact (asksInTurn_single saveAs _).isAccounted
    · exact Upload.isAccounted_chunked saveAs _ plan n

end Depot.Drive
