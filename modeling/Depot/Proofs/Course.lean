import Depot.Job
import Depot.Query.Desk
/-!
# Courses

The course of a job in surroundings that are free to choose: which of the calls
under way is answered next and how, what the clock shows, whether a caller that is
told an amount fails, and what it does to its queries while the job waits. Whoever
takes the reports takes each of them. No course goes on for ever.
-/
namespace Depot

/-- Something that has happened in the course of a job. -/
inductive Incident where
  | reported (r : Report)
  | dated (t : Option Instant)
  | read (q : Query)
  | told (uploaded total : Nat)
  | sent (ticket : Nat) (c : Call)
  | arrived (ticket : Nat) (a : Arrival)

namespace Incident

@[simp] def call? : Incident → Option Call
  | .sent _ c => some c
  | _ => none

@[simp] def launch? : Incident → Option (Nat × Call)
  | .sent ticket c => some (ticket, c)
  | _ => none

@[simp] def arrival? : Incident → Option (Nat × Arrival)
  | .arrived ticket a => some (ticket, a)
  | _ => none

@[simp] def query? : Incident → Option Query
  | .read q => some q
  | _ => none

@[simp] def report? : Incident → Option Report
  | .reported r => some r
  | _ => none

end Incident

/-- What a report adds to the counters of a metric. -/
def Report.amountOf (m : Metric) : Report → Nat
  | .count metric amount _ => if metric = m then amount else 0
  | _ => 0

/-- What reports add to the counters of a metric. -/
def Report.total (m : Metric) : List Report → Nat
  | [] => 0
  | r :: rest => r.amountOf m + total m rest

theorem Report.total_append (m : Metric) (rs rs' : List Report) :
    total m (rs ++ rs') = total m rs + total m rs' := by
  induction rs with
  | nil => simp [total]
  | cons r rest ih => rw [List.cons_append, total, total, ih, Nat.add_assoc]

theorem Report.total_eq_zero {m : Metric} {rs : List Report} (h : ∀ r ∈ rs, r.amountOf m = 0) :
    total m rs = 0 := by
  induction rs with
  | nil => rfl
  | cons r rest ih =>
    rw [total, h r (List.mem_cons_self ..), ih fun r hr => h r (List.mem_cons_of_mem _ hr)]

theorem Report.total_perm (m : Metric) {rs rs' : List Report} (h : rs.Perm rs') :
    total m rs = total m rs' := by
  induction h with
  | nil => rfl
  | cons r _ ih => rw [total, total, ih]
  | swap r r' rest => simp only [total, Nat.add_left_comm]
  | trans _ _ ih ih' => exact ih.trans ih'

/-- What a job can tell of its surroundings: the tickets of the calls under way, the queries of
its caller, and all that has happened, in its order. -/
structure Scene where
  underWay : List Nat
  desk : Desk
  past : List Incident

namespace Scene

def note (s : Scene) (i : Incident) : Scene := { s with past := s.past ++ [i] }

def launch (s : Scene) (ticket : Nat) (c : Call) : Scene :=
  { s.note (.sent ticket c) with underWay := s.underWay ++ [ticket] }

def land (s : Scene) (ticket : Nat) (a : Arrival) : Scene :=
  { s.note (.arrived ticket a) with underWay := s.underWay.erase ticket }

/-- The scene after moves of the caller, up to the first that fails. -/
def stir (s : Scene) (moves : List Desk.Move) : Scene :=
  { s with desk := (s.desk.playAll moves).2 }

def sent (s : Scene) : List Call := s.past.filterMap Incident.call?

/-- The calls that were sent, with their tickets. -/
def launched (s : Scene) : List (Nat × Call) := s.past.filterMap Incident.launch?

/-- The answers that have arrived, with the tickets of their calls. -/
def arrived (s : Scene) : List (Nat × Arrival) := s.past.filterMap Incident.arrival?

/-- The queries as they stood when the job read them. -/
def readings (s : Scene) : List Query := s.past.filterMap Incident.query?

def reports (s : Scene) : List Report := s.past.filterMap Incident.report?

/-- What has been added to the counters of a metric. -/
def counted (m : Metric) (s : Scene) : Nat := Report.total m s.reports

/-- What is entered under a ticket. -/
def under {α : Type} (ticket : Nat) (entries : List (Nat × α)) : List α :=
  (entries.filter (·.1 = ticket)).map Prod.snd

section Under
variable {α : Type} {k : Nat} {x : α} {entries others : List (Nat × α)}

@[simp] theorem under_cons_self : under k ((k, x) :: entries) = x :: under k entries := by
  simp [under]

theorem under_cons_of_ne {k' : Nat} (h : k' ≠ k) :
    under k ((k', x) :: entries) = under k entries := by
  simp [under, h]

@[simp] theorem under_append : under k (entries ++ others) = under k entries ++ under k others := by
  simp [under]

theorem under_map {β : Type} (f : α → β) :
    under k (entries.map fun e => (e.1, f e.2)) = (under k entries).map f := by
  simp only [under, List.filter_map, List.map_map]
  rfl

theorem under_eq_nil (h : k ∉ entries.map Prod.fst) : under k entries = [] := by
  rw [under, List.map_eq_nil_iff, List.filter_eq_nil_iff]
  intro e he
  have other : e.1 ≠ k := fun same => h (same ▸ List.mem_map_of_mem he)
  simpa using other

/-- Where every ticket is used once, there is one entry under it. -/
theorem under_eq_singleton (once : (entries.map Prod.fst).Nodup) (h : (k, x) ∈ entries) :
    under k entries = [x] := by
  obtain ⟨before, after, rfl⟩ := List.append_of_mem h
  rw [List.map_append, List.map_cons, List.nodup_append] at once
  obtain ⟨-, later, apart⟩ := once
  have none_before : k ∉ before.map Prod.fst := fun hk => apart k hk k (List.mem_cons_self ..) rfl
  have none_after : k ∉ after.map Prod.fst := (List.nodup_cons.mp later).1
  rw [under_append, under_cons_self, under_eq_nil none_before, under_eq_nil none_after,
    List.nil_append]

end Under

/-- Every answer that has arrived has the outcome that `answers` has for its call. The answers under
a ticket are to the calls that were sent under it, in their order. -/
def AnsweredBy (answers : Call → Outcome Response) (s : Scene) : Prop :=
  ∀ ticket, (under ticket s.arrived).map Arrival.outcome <+:
    (under ticket s.launched).map answers

/-- Nothing was sent or reported. -/
def Silent (s : Scene) : Prop := s.sent = [] ∧ s.reports = []

section Views
variable (s : Scene) (i : Incident) (k : Nat) (c : Call) (a : Arrival) (moves : List Desk.Move)
  (m : Metric)

@[simp] theorem underWay_note : (s.note i).underWay = s.underWay := rfl

@[simp] theorem underWay_launch : (s.launch k c).underWay = s.underWay ++ [k] := rfl

@[simp] theorem underWay_land : (s.land k a).underWay = s.underWay.erase k := rfl

@[simp] theorem underWay_stir : (s.stir moves).underWay = s.underWay := rfl

@[simp] theorem sent_note : (s.note i).sent = s.sent ++ i.call?.toList := by
  cases i <;> simp [note, sent]

@[simp] theorem sent_launch : (s.launch k c).sent = s.sent ++ [c] := s.sent_note (.sent k c)

@[simp] theorem sent_land : (s.land k a).sent = s.sent := by simp [land, note, sent]

@[simp] theorem sent_stir : (s.stir moves).sent = s.sent := rfl

@[simp] theorem launched_note : (s.note i).launched = s.launched ++ i.launch?.toList := by
  cases i <;> simp [note, launched]

@[simp] theorem launched_launch : (s.launch k c).launched = s.launched ++ [(k, c)] :=
  s.launched_note (.sent k c)

@[simp] theorem launched_land : (s.land k a).launched = s.launched := by
  simp [land, note, launched]

@[simp] theorem launched_stir : (s.stir moves).launched = s.launched := rfl

theorem sent_eq_map_launched : s.sent = s.launched.map Prod.snd := by
  have each (i : Incident) : i.call? = i.launch?.map Prod.snd := by cases i <;> rfl
  rw [sent, launched, List.map_filterMap, funext each]

@[simp] theorem arrived_note : (s.note i).arrived = s.arrived ++ i.arrival?.toList := by
  cases i <;> simp [note, arrived]

@[simp] theorem arrived_launch : (s.launch k c).arrived = s.arrived := by
  simp [launch, note, arrived]

@[simp] theorem arrived_land : (s.land k a).arrived = s.arrived ++ [(k, a)] :=
  s.arrived_note (.arrived k a)

@[simp] theorem arrived_stir : (s.stir moves).arrived = s.arrived := rfl

@[simp] theorem readings_note : (s.note i).readings = s.readings ++ i.query?.toList := by
  cases i <;> simp [note, readings]

@[simp] theorem readings_launch : (s.launch k c).readings = s.readings := by
  simp [launch, note, readings]

@[simp] theorem readings_land : (s.land k a).readings = s.readings := by
  simp [land, note, readings]

@[simp] theorem readings_stir : (s.stir moves).readings = s.readings := rfl

@[simp] theorem reports_note : (s.note i).reports = s.reports ++ i.report?.toList := by
  cases i <;> simp [note, reports]

@[simp] theorem reports_launch : (s.launch k c).reports = s.reports := by
  simp [launch, note, reports]

@[simp] theorem reports_land : (s.land k a).reports = s.reports := by
  simp [land, note, reports]

@[simp] theorem reports_stir : (s.stir moves).reports = s.reports := rfl

@[simp] theorem counted_note :
    (s.note i).counted m = s.counted m + i.report?.elim 0 (Report.amountOf m) := by
  cases i <;> simp [counted, Report.total_append, Report.total]

@[simp] theorem counted_launch : (s.launch k c).counted m = s.counted m := by simp [counted]

@[simp] theorem counted_land : (s.land k a).counted m = s.counted m := by simp [counted]

@[simp] theorem counted_stir : (s.stir moves).counted m = s.counted m := rfl

end Views

end Scene

/-- A job and the scene that it has come to. -/
structure Course (α : Type) where
  job : Job α
  scene : Scene

/-- What the surroundings of a job do next. -/
inductive Turn where
  /-- They take a report, send a call or show a query, whichever the job wants. -/
  | serve
  | date (t : Option Instant)
  | hear (failure : Option Failure)
  /-- The caller has made moves, and then the call of a ticket is answered. -/
  | answer (moves : List Desk.Move) (ticket : Nat) (a : Arrival)

/-- The answer that a turn brings, with the ticket of its call. -/
def Turn.answer? : Turn → Option (Nat × Arrival)
  | .answer _ ticket a => some (ticket, a)
  | _ => none

namespace Course
variable {α : Type}

/-- A job that begins, with the queries of its caller. -/
def start (desk : Desk) (j : Job α) : Course α := ⟨j, ⟨[], desk, []⟩⟩

/-- The course after a turn, if it is one that the job can take. -/
def step : Turn → Course α → Option (Course α)
  | .serve, ⟨.report r next, s⟩ => some ⟨next none, s.note (.reported r)⟩
  | .serve, ⟨.query ref next, s⟩ =>
    some ⟨next (s.desk.queryAt ref), s.note (.read (s.desk.queryAt ref))⟩
  | .serve, ⟨.launch ticket c next, s⟩ => some ⟨next, s.launch ticket c⟩
  | .date t, ⟨.clock next, s⟩ => some ⟨next t, s.note (.dated t)⟩
  | .hear failure, ⟨.progress uploaded total next, s⟩ =>
    some ⟨next failure, s.note (.told uploaded total)⟩
  | .answer moves ticket a, ⟨.await next, s⟩ =>
    if ticket ∈ s.underWay then some ⟨next ticket a, (s.stir moves).land ticket a⟩ else none
  | _, _ => none

def run : List Turn → Course α → Option (Course α)
  | [], c => some c
  | t :: rest, c => (c.step t).bind (run rest)

def result? (c : Course α) : Option (Outcome α) :=
  match c.job with
  | .finish result => some result
  | _ => none

inductive Moves : Course α → Course α → Prop where
  | report (r : Report) (next : Option Failure → Job α) (s : Scene) :
    Moves ⟨.report r next, s⟩ ⟨next none, s.note (.reported r)⟩
  | clock (t : Option Instant) (next : Option Instant → Job α) (s : Scene) :
    Moves ⟨.clock next, s⟩ ⟨next t, s.note (.dated t)⟩
  | query (ref : Nat) (next : Query → Job α) (s : Scene) :
    Moves ⟨.query ref next, s⟩ ⟨next (s.desk.queryAt ref), s.note (.read (s.desk.queryAt ref))⟩
  | progress (u n : Nat) (failure : Option Failure) (next : Option Failure → Job α) (s : Scene) :
    Moves ⟨.progress u n next, s⟩ ⟨next failure, s.note (.told u n)⟩
  | launch (k : Nat) (c : Call) (next : Job α) (s : Scene) :
    Moves ⟨.launch k c next, s⟩ ⟨next, s.launch k c⟩
  | await (moves : List Desk.Move) (k : Nat) (a : Arrival) (next : Nat → Arrival → Job α)
      (s : Scene) (hk : k ∈ s.underWay) :
    Moves ⟨.await next, s⟩ ⟨next k a, (s.stir moves).land k a⟩

theorem moves_of_step {t : Turn} {c c' : Course α} (h : c.step t = some c') : c.Moves c' := by
  obtain ⟨j, s⟩ := c
  cases t <;> cases j <;> simp only [step, Option.some.injEq, reduceCtorEq] at h
  case serve.report r next => subst h; exact .report r next s
  case serve.query ref next => subst h; exact .query ref next s
  case serve.launch k c next => subst h; exact .launch k c next s
  case date.clock t next => subst h; exact .clock t next s
  case hear.progress failure u n next => subst h; exact .progress u n failure next s
  case answer.await moves k a next =>
    split at h
    case isTrue hk => cases h; exact .await moves k a next s hk
    case isFalse => cases h

theorem moves_wellFounded : WellFounded fun c' c : Course α => c.Moves c' := by
  -- a turn leads to a part of the job
  refine ⟨fun ⟨j, s⟩ => ?_⟩
  induction j generalizing s with
  | finish | stall | detach => exact ⟨_, fun c' h => by cases h⟩
  | report r next ih => exact ⟨_, fun c' h => by cases h; exact ih none _⟩
  | clock next ih => exact ⟨_, fun c' h => by cases h; exact ih _ _⟩
  | query ref next ih => exact ⟨_, fun c' h => by cases h; exact ih _ _⟩
  | progress u n next ih => exact ⟨_, fun c' h => by cases h; exact ih _ _⟩
  | launch k c next ih => exact ⟨_, fun c' h => by cases h; exact ih _⟩
  | await next ih => exact ⟨_, fun c' h => by cases h; exact ih _ _ _⟩

theorem arrived_of_step {t : Turn} {c c' : Course α} (h : c.step t = some c') :
    c'.scene.arrived = c.scene.arrived ++ t.answer?.toList := by
  obtain ⟨j, s⟩ := c
  cases t <;> cases j <;> simp only [step, Option.some.injEq, reduceCtorEq] at h
  case answer.await moves k a next =>
    split at h
    case isTrue => cases h; simp [Turn.answer?]
    case isFalse => cases h
  all_goals subst h; simp [Turn.answer?]

/-- What has arrived is what the turns have brought. -/
theorem arrived_of_run {turns : List Turn} {c c' : Course α} (h : c.run turns = some c') :
    c'.scene.arrived = c.scene.arrived ++ turns.filterMap Turn.answer? := by
  induction turns generalizing c with
  | nil =>
    cases h
    simp
  | cons t rest ih =>
    obtain ⟨d, step, run⟩ := Option.bind_eq_some_iff.mp h
    rw [ih run, arrived_of_step step]
    cases ht : t.answer? <;> simp [ht]

/-- Whatever the surroundings do, a course comes to where `P` holds. -/
inductive Surely (P : Course α → Prop) : Course α → Prop where
  | now {c : Course α} (h : P c) : Surely P c
  | later {c : Course α} (onward : ∃ t c', c.step t = some c')
      (rest : ∀ t c', c.step t = some c' → Surely P c') : Surely P c

theorem Surely.mono {P R : Course α → Prop} {c : Course α} (h : c.Surely P)
    (hR : ∀ c, P c → R c) : c.Surely R := by
  induction h with
  | now h => exact .now (hR _ h)
  | later onward _ ih => exact .later onward ih

theorem Surely.exists_run {P : Course α → Prop} {c : Course α} (h : c.Surely P) :
    ∃ turns c', c.run turns = some c' ∧ P c' := by
  induction h with
  | now h => exact ⟨[], _, rfl, h⟩
  | later onward _ ih =>
    obtain ⟨t, d, step⟩ := onward
    obtain ⟨turns, c', run, hc'⟩ := ih t d step
    exact ⟨t :: turns, c', by rw [Course.run, step]; exact run, hc'⟩

end Course
end Depot
