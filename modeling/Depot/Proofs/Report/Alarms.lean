import Depot.Proofs.Exchange
/-!
# Alarms

What is reported of failures: entries at the level of errors, and counts of errors. A request that
fails raises one of each, and a scene shows which calls were answered how, so that both can be
compared.
-/
namespace Depot

/-- Whether a report is an entry at the level of errors, or counts them. -/
def Report.isAlarm : Report → Bool
  | .log e => e.level = .error
  | .count m _ _ => m = .errorsTotal
  | .time .. => false

/-- Why a call has brought no body, if it has brought none. -/
def Arrival.failure? (a : Arrival) : Option Failure :=
  match Exchange.answer a.outcome with
  | .error f => some f
  | .ok _ => none

theorem Arrival.failure?_eq_some {a : Arrival} {f : Failure} :
    a.failure? = some f ↔ Exchange.answer a.outcome = .error f := by
  rw [failure?]
  cases Exchange.answer a.outcome <;> simp

/-- What an answered call is reported with as a failure, if it is one. -/
def Exchange.alarms (x : Call × Arrival) : List Report := x.2.failure?.elim [] (failing x.1)

/-- Of what is reported about an answer, only that it is a failure is an alarm. -/
theorem Exchange.filter_isAlarm_settle (c : Call) (a : Arrival) :
    (settle c a.latencyMs a.outcome).2.filter (·.isAlarm) = alarms (c, a) := by
  have raised (f : Failure) : (failing c f).filter (·.isAlarm) = failing c f := rfl
  have calm (r : Response) : (responding c a.latencyMs r).filter (·.isAlarm) = [] := rfl
  rw [alarms, Arrival.failure?]
  cases a.outcome with
  | error f => exact raised f
  | ok r =>
    simp only [settle, answer]
    cases failure? r with
    | none => exact calm r
    | some f =>
      rw [List.filter_append, calm, List.nil_append]
      exact raised f

/-- The calls that were sent: those that wait for their answers, by ticket, and those that have been
answered. -/
structure Ledger where
  waiting : List (Nat × Call)
  answered : List (Call × Arrival)

namespace Ledger

def enter (l : Ledger) : Incident → Ledger
  | .sent k c => { l with waiting := l.waiting ++ [(k, c)] }
  | .arrived k a =>
    match l.waiting.lookup k with
    | some c => ⟨l.waiting.eraseP (·.1 == k), l.answered ++ [(c, a)]⟩
    | none => l
  | _ => l

/-- The calls that were sent. -/
def calls (l : Ledger) : List Call := l.answered.map Prod.fst ++ l.waiting.map Prod.snd

theorem perm_of_lookup {k : Nat} {c : Call} {waiting : List (Nat × Call)}
    (h : waiting.lookup k = some c) :
    (waiting.map Prod.snd).Perm (c :: (waiting.eraseP (·.1 == k)).map Prod.snd) := by
  induction waiting with
  | nil => cases h
  | cons x rest ih =>
    obtain ⟨k', c'⟩ := x
    rw [List.lookup_cons] at h
    by_cases same : k = k'
    · subst same
      simp only [beq_self_eq_true] at h
      cases h
      simp
    · have other : (k' == k) = false := by simpa using Ne.symm same
      have other' : (k == k') = false := by simpa using same
      simp only [other'] at h
      rw [List.eraseP_cons_of_neg (by simp [other])]
      exact ((ih h).cons c').trans (.swap ..)

theorem calls_enter (l : Ledger) (i : Incident) :
    (l.enter i).calls.Perm (l.calls ++ i.call?.toList) := by
  cases i with
  | sent k c => simp [enter, calls]
  | arrived k a =>
    change (l.enter (.arrived k a)).calls.Perm (l.calls ++ [])
    rw [enter, List.append_nil]
    split
    · rename_i c h
      simp only [calls, List.map_append, List.map_cons, List.map_nil, List.append_assoc,
        List.singleton_append]
      exact (perm_of_lookup h).symm.append_left _
    · exact .refl _
  | reported | dated | read | told => simp [enter]

end Ledger

namespace Scene

def ledger (s : Scene) : Ledger := s.past.foldl Ledger.enter ⟨[], []⟩

/-- The calls that wait for their answers, by ticket. -/
def waiting (s : Scene) : List (Nat × Call) := s.ledger.waiting

/-- The calls that have been answered, with their answers, in the order of these. -/
def answered (s : Scene) : List (Call × Arrival) := s.ledger.answered

def alarms (s : Scene) : List Report := s.reports.filter (·.isAlarm)

theorem ledger_note (s : Scene) (i : Incident) : (s.note i).ledger = s.ledger.enter i := by
  simp [ledger, note]

/-- Every call that was sent waits for its answer or has been answered. -/
theorem sent_perm (s : Scene) :
    s.sent.Perm (s.answered.map Prod.fst ++ s.waiting.map Prod.snd) := by
  have all (past : List Incident) (l : Ledger) :
      (past.foldl Ledger.enter l).calls.Perm (l.calls ++ past.filterMap Incident.call?) := by
    induction past generalizing l with
    | nil => simp
    | cons i rest ih =>
      have first : (i :: rest).filterMap Incident.call? =
          i.call?.toList ++ rest.filterMap Incident.call? := by cases i <;> rfl
      rw [first, ← List.append_assoc]
      exact (ih (l.enter i)).trans ((l.calls_enter i).append_right _)
  exact (all s.past ⟨[], []⟩).symm

/-- How a scene stands: which calls wait for their answers, which have been answered, and which
alarms were raised. -/
structure Stands (s : Scene) (waiting : List (Nat × Call)) (answered : List (Call × Arrival))
    (alarms : List Report) : Prop where
  underWay : s.underWay = waiting.map Prod.fst
  waiting : s.waiting = waiting
  answered : s.answered = answered
  alarms : s.alarms = alarms

namespace Stands
variable {s : Scene} {waiting : List (Nat × Call)} {answered : List (Call × Arrival)}
  {alarms : List Report}

theorem start (desk : Desk) : Stands ⟨[], desk, []⟩ [] [] [] := ⟨rfl, rfl, rfl, rfl⟩

theorem report (h : s.Stands waiting answered alarms) (r : Report) :
    (s.note (.reported r)).Stands waiting answered (alarms ++ [r].filter (·.isAlarm)) where
  underWay := h.underWay
  waiting := by rw [Scene.waiting, ledger_note]; exact h.waiting
  answered := by rw [Scene.answered, ledger_note]; exact h.answered
  alarms := by
    rw [Scene.alarms, reports_note, List.filter_append, ← Scene.alarms, h.alarms]
    rfl

/-- What is neither a call nor an answer nor a report changes nothing. -/
theorem note (h : s.Stands waiting answered alarms) {i : Incident} (call : i.launch? = none)
    (arrival : i.arrival? = none) (report : i.report? = none) :
    (s.note i).Stands waiting answered alarms := by
  have entered : s.ledger.enter i = s.ledger := by cases i <;> simp_all [Ledger.enter]
  refine ⟨h.underWay, ?_, ?_, ?_⟩
  · rw [Scene.waiting, ledger_note, entered]
    exact h.waiting
  · rw [Scene.answered, ledger_note, entered]
    exact h.answered
  · rw [Scene.alarms, reports_note, report, Option.toList_none, List.append_nil]
    exact h.alarms

theorem launch (h : s.Stands waiting answered alarms) (k : Nat) (c : Call) :
    (s.launch k c).Stands (waiting ++ [(k, c)]) answered alarms := by
  have entered : (s.launch k c).ledger = s.ledger.enter (.sent k c) := s.ledger_note _
  refine ⟨?_, ?_, ?_, ?_⟩
  · rw [underWay_launch, h.underWay, List.map_append, List.map_singleton]
  · rw [Scene.waiting, entered, ← h.waiting]
    rfl
  · rw [Scene.answered, entered]
    exact h.answered
  · rw [Scene.alarms, reports_launch]
    exact h.alarms

theorem stir (h : s.Stands waiting answered alarms) (moves : List Desk.Move) :
    (s.stir moves).Stands waiting answered alarms := ⟨h.1, h.2, h.3, h.4⟩

theorem land (h : s.Stands waiting answered alarms) {k : Nat} {c : Call}
    (open_ : waiting.lookup k = some c) (a : Arrival) :
    (s.land k a).Stands (waiting.eraseP (·.1 == k)) (answered ++ [(c, a)]) alarms := by
  have found : s.ledger.waiting.lookup k = some c :=
    (congrArg (List.lookup k) h.waiting).trans open_
  have entered : (s.land k a).ledger =
      ⟨s.ledger.waiting.eraseP (·.1 == k), s.ledger.answered ++ [(c, a)]⟩ := by
    have landed : (s.land k a).ledger = s.ledger.enter (.arrived k a) := s.ledger_note _
    rw [landed, Ledger.enter, found]
  refine ⟨?_, ?_, ?_, ?_⟩
  · rw [underWay_land, h.underWay, List.erase_eq_eraseP, List.eraseP_map]
    congr 2
    funext x
    exact Bool.beq_comm
  · rw [Scene.waiting, entered, ← h.waiting]
    rfl
  · rw [Scene.answered, entered, ← h.answered]
    rfl
  · rw [Scene.alarms, reports_land]
    exact h.alarms

end Stands
end Scene
end Depot
