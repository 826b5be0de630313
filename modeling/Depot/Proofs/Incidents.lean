import Depot.Proofs.Exchange
/-!
# Exactly what happens

What the parts of a job do, incident by incident. A course of an exchange is known but for the
answer to its call, and for what the caller does meanwhile.
-/
namespace Depot

/-- What is reported about the outcome of a call: a request and its duration, an error, and an entry
about it. -/
theorem Exchange.of_mem_settle {P : Report → Prop} {c : Call} {latencyMs : Float}
    {outcome : Outcome Response} {r : Report} (h : r ∈ (settle c latencyMs outcome).2)
    (request : ∀ labels, P (.tick .requestsTotal labels))
    (latency : ∀ labels, P (.time .requestLatency latencyMs labels))
    (error : ∀ labels, P (.tick .errorsTotal labels))
    (entry : ∀ context, P (.error "Request failed" context)) : P r := by
  have failing {f : Failure} (h : r ∈ Exchange.failing c f) : P r := by
    simp only [Exchange.failing, List.mem_cons, List.not_mem_nil, or_false] at h
    rcases h with rfl | rfl
    · exact error _
    · exact entry _
  have responding {x : Response} (h : r ∈ Exchange.responding c latencyMs x) : P r := by
    simp only [Exchange.responding, List.mem_cons, List.not_mem_nil, or_false] at h
    rcases h with rfl | rfl
    · exact request _
    · exact latency _
  cases outcome with
  | error f => exact failing h
  | ok x =>
    cases hx : failure? x with
    | none => exact responding (by simpa [settle, hx] using h)
    | some f =>
      simp only [settle, hx, List.mem_append] at h
      exact h.elim responding failing

/-- What the clock has shown, if an incident is a reading of it. -/
@[simp] def Incident.date? : Incident → Option (Option Instant)
  | .dated t => some t
  | _ => none

/-- What the caller was told, if an incident is that. -/
@[simp] def Incident.told? : Incident → Option (Nat × Nat)
  | .told uploaded total => some (uploaded, total)
  | _ => none

namespace Scene

/-- What the clock has shown, each time that it was read. -/
def dates (s : Scene) : List (Option Instant) := s.past.filterMap Incident.date?

/-- The amounts that the caller was told, with the totals that they are of. -/
def told (s : Scene) : List (Nat × Nat) := s.past.filterMap Incident.told?

/-- The scene after some reports. -/
def heard (s : Scene) (rs : List Report) : Scene := { s with past := s.past ++ rs.map .reported }

/-- The scene after an exchange whose call was answered. -/
def exchanged (s : Scene) (c : Call) (moves : List Desk.Move) (a : Arrival) : Scene :=
  ((((s.heard [Exchange.sending c]).launch 0 c).stir moves).land 0 a).heard
    (Exchange.settle c a.latencyMs a.outcome).2

section Views
variable (s : Scene) (i : Incident) (k : Nat) (c : Call) (a : Arrival) (moves : List Desk.Move)
  (r : Report) (rs rs' : List Report)

theorem heard_nil : s.heard [] = s := by simp [heard]

theorem heard_singleton : s.heard [r] = s.note (.reported r) := rfl

theorem heard_heard : (s.heard rs).heard rs' = s.heard (rs ++ rs') := by simp [heard]

@[simp] theorem dates_note : (s.note i).dates = s.dates ++ i.date?.toList := by
  cases i <;> simp [note, dates]

@[simp] theorem dates_launch : (s.launch k c).dates = s.dates := by simp [launch, note, dates]

@[simp] theorem dates_land : (s.land k a).dates = s.dates := by simp [land, note, dates]

@[simp] theorem dates_stir : (s.stir moves).dates = s.dates := rfl

@[simp] theorem dates_heard : (s.heard rs).dates = s.dates := by
  simp [heard, dates, Function.comp_def]

@[simp] theorem told_note : (s.note i).told = s.told ++ i.told?.toList := by
  cases i <;> simp [note, told]

@[simp] theorem told_launch : (s.launch k c).told = s.told := by simp [launch, note, told]

@[simp] theorem told_land : (s.land k a).told = s.told := by simp [land, note, told]

@[simp] theorem told_stir : (s.stir moves).told = s.told := rfl

@[simp] theorem told_heard : (s.heard rs).told = s.told := by
  simp [heard, told, Function.comp_def]

@[simp] theorem underWay_heard : (s.heard rs).underWay = s.underWay := rfl

@[simp] theorem sent_heard : (s.heard rs).sent = s.sent := by
  simp [heard, sent, Function.comp_def]

@[simp] theorem arrived_heard : (s.heard rs).arrived = s.arrived := by
  simp [heard, arrived, Function.comp_def]

@[simp] theorem reports_heard : (s.heard rs).reports = s.reports ++ rs := by
  simp [heard, reports, Function.comp_def]

@[simp] theorem underWay_exchanged (idle : s.underWay = []) :
    (s.exchanged c moves a).underWay = [] := by simp [exchanged, idle]

@[simp] theorem dates_exchanged : (s.exchanged c moves a).dates = s.dates := by simp [exchanged]

@[simp] theorem told_exchanged : (s.exchanged c moves a).told = s.told := by simp [exchanged]

@[simp] theorem sent_exchanged : (s.exchanged c moves a).sent = s.sent ++ [c] := by
  simp [exchanged]

@[simp] theorem arrived_exchanged : (s.exchanged c moves a).arrived = s.arrived ++ [(0, a)] := by
  simp [exchanged]

@[simp] theorem reports_exchanged : (s.exchanged c moves a).reports =
    s.reports ++ Exchange.sending c :: (Exchange.settle c a.latencyMs a.outcome).2 := by
  simp [exchanged]

end Views

/-- An invariant that no report changes. -/
def Deaf (I : Scene → Prop) : Prop := ∀ s r, I s → I (s.note (.reported r))

end Scene

namespace Job
variable {α : Type} {I : Scene → Prop} {s : Scene}

theorem keeps_sayAll_heard (rs : List Report) (deaf : Scene.Deaf I) (h : I s) :
    (sayAll rs).Keeps I (fun result s' => result = some (.ok ()) ∧ s' = s.heard rs) s := by
  induction rs generalizing s with
  | nil => exact keeps_pure h ⟨rfl, s.heard_nil.symm⟩
  | cons r rest ih =>
    refine Keeps.bind (f := fun _ => sayAll rest) ⟨h, deaf s r h, ?_⟩
    refine (ih (deaf s r h)).mono ?_
    rintro _ s' - ⟨rfl, rfl⟩
    exact ⟨rfl, by rw [← Scene.heard_singleton, Scene.heard_heard]; rfl⟩

theorem keeps_send_heard {k : Nat} {c : Call} (deaf : Scene.Deaf I) (h : I s)
    (h' : I ((s.heard [Exchange.sending c]).launch k c)) : (send k c).Keeps I (fun result s' =>
      result = some (.ok ()) ∧ s' = (s.heard [Exchange.sending c]).launch k c) s :=
  ⟨h, deaf s _ h, h', rfl, rfl⟩

theorem keeps_settle_heard (c : Call) (a : Arrival) (deaf : Scene.Deaf I) (h : I s) :
    (settle c a).Keeps I (fun result s' => result = some (Exchange.answer a.outcome) ∧
      s' = s.heard (Exchange.settle c a.latencyMs a.outcome).2) s := by
  have parts : settle c a = sayAll (Exchange.settle c a.latencyMs a.outcome).2 >>= fun _ =>
      ofOutcome (Exchange.settle c a.latencyMs a.outcome).1 := rfl
  rw [parts, Exchange.settle_fst]
  refine Keeps.bind ((keeps_sayAll_heard _ deaf h).mono ?_)
  rintro _ s' hs' ⟨rfl, rfl⟩
  exact ⟨hs', rfl, rfl⟩

theorem keeps_exchange_exchanged {c : Call} (deaf : Scene.Deaf I) (idle : s.underWay = [])
    (h : I s) (h' : I ((s.heard [Exchange.sending c]).launch 0 c))
    (h'' : ∀ moves a, I ((((s.heard [Exchange.sending c]).launch 0 c).stir moves).land 0 a)) :
    (exchange c).Keeps I (fun result s' => ∃ moves a,
      result = some (Exchange.answer a.outcome) ∧ s' = s.exchanged c moves a) s := by
  refine Keeps.bind ((keeps_send_heard deaf h h').mono ?_)
  rintro _ _ - ⟨rfl, rfl⟩
  refine ⟨h', by simp, fun moves k a hk => ?_⟩
  have own : k = 0 := by simpa [idle] using hk
  subst own
  refine (keeps_settle_heard c a deaf (h'' moves a)).mono ?_
  rintro _ s' - ⟨rfl, rfl⟩
  exact ⟨moves, a, rfl, rfl⟩

theorem keeps_exchangeAs_exchanged {decode : Decoder α} {c : Call} (deaf : Scene.Deaf I)
    (idle : s.underWay = []) (h : I s) (h' : I ((s.heard [Exchange.sending c]).launch 0 c))
    (h'' : ∀ moves a, I ((((s.heard [Exchange.sending c]).launch 0 c).stir moves).land 0 a)) :
    (exchangeAs decode c).Keeps I (fun result s' => ∃ moves a,
      result = some (Exchange.answerAs decode c a.outcome) ∧ s' = s.exchanged c moves a) s := by
  refine Keeps.bind ((keeps_exchange_exchanged deaf idle h h' h'').mono ?_)
  rintro _ s' hs ⟨moves, a, rfl, rfl⟩
  cases ha : Exchange.answer a.outcome with
  | error f => exact ⟨moves, a, by rw [Exchange.answerAs_of_error ha], rfl⟩
  | ok body => exact ⟨hs, moves, a, by rw [Exchange.answerAs, ha]; rfl, rfl⟩

end Job

/-- An exchange can come to what any answer brings. -/
theorem Course.exists_run_exchangeAs {α : Type} (desk : Desk) (decode : Decoder α) (call : Call)
    (a : Arrival) : ∃ turns c,
      (Course.start desk (Job.exchangeAs decode call)).run turns = some c ∧
      c.result? = some (Exchange.answerAs decode call a.outcome) ∧
      c.scene.sent = [call] ∧ c.scene.arrived = [(0, a)] := by
  let Answered (s : Scene) : Prop := s.sent = [call] ∧ s.arrived = [(0, a)]
  have deaf : Scene.Deaf Answered := fun s r h => by simpa [Answered] using h
  let landed : Scene := ((((Scene.mk [] desk []).heard [Exchange.sending call]).launch 0 call).stir
    []).land 0 a
  have answered : Answered landed := ⟨rfl, rfl⟩
  have reads : (Job.settle call a >>= fun body =>
      Job.ofOutcome (Exchange.readAs decode call body)).Keeps Answered
      (fun result s => result = some (Exchange.answerAs decode call a.outcome) ∧ Answered s)
      landed := by
    refine Job.Keeps.bind ((Job.keeps_settle_heard call a deaf answered).mono ?_)
    rintro _ s hs ⟨rfl, -⟩
    cases ha : Exchange.answer a.outcome with
    | error f => exact ⟨by rw [Exchange.answerAs_of_error ha], hs⟩
    | ok body => exact ⟨hs, by rw [Exchange.answerAs, ha]; rfl, hs⟩
  obtain ⟨turns, c, run, hc⟩ := (Course.surely_of_keeps (c := ⟨_, landed⟩) reads).exists_run
  refine ⟨.serve :: .serve :: .answer [] 0 a :: turns, c, run, ?_⟩
  rcases hc with ⟨result, ended, came, hs⟩ | ⟨-, came, -⟩
  · rw [ended, came]
    exact ⟨rfl, hs⟩
  · cases came

end Depot
