import Depot.Drive.Upload
import Depot.Proofs.Base.PutMany
import Depot.Proofs.InTurn
import Depot.Query.Pages
/-!
# Operations that ask one thing after another

All operations but uploads in parts wait for the answer to each call before they go on. Only walks
can end with a result after a call has failed, and then the result shows the failure.
-/
namespace Depot

theorem isClient_of_validKey {key : Value} {f : Failure} (h : validKey key = .error f) :
    f.isClient = true := by
  have own : f = Precondition.keyIsText.failure := by
    cases key with
    | text s =>
      rw [validKey] at h
      split at h <;> cases h
      rfl
    | _ => cases h; rfl
  rw [own]
  exact Precondition.isClient_failure _

theorem Record.isClient_of_serialize {r : Record} {now : Option Instant} {f : Failure}
    (h : r.serialize now = .error f) : f.isClient = true := by
  by_cases valid : r.HasValidKey
  · obtain ⟨fields, ok⟩ := serialize_eq_ok valid now
    rw [ok] at h
    cases h
  · rw [serialize_eq_error valid] at h
    cases h
    exact Precondition.isClient_failure _

theorem Record.isClient_of_mapM_serialize {rs : List Record} {now : Option Instant} {f : Failure}
    (h : rs.mapM (·.serialize now) = .error f) : f.isClient = true := by
  by_cases valid : ∀ r ∈ rs, r.HasValidKey
  · obtain ⟨items, ok⟩ := mapM_serialize_eq_ok valid now
    rw [ok] at h
    cases h
  · rw [mapM_serialize_eq_error (by simpa using valid)] at h
    cases h
    exact Precondition.isClient_failure _

namespace Job
variable {α : Type} {n : Nat}

/-- What is checked before anything is sent fails like a client. -/
theorem asksInTurn_checked {x : Outcome α} (h : ∀ f, x = .error f → f.isClient = true) :
    (ofOutcome x).AsksInTurn (fun _ => []) n := by
  refine asksInTurn_ofOutcome fun f hf => ?_
  cases x with
  | ok a => cases hf
  | error g => exact h f (List.mem_singleton.mp hf ▸ rfl)

theorem asksInTurn_fail (p : Precondition) :
    (fail p.failure : Job α).AsksInTurn (fun _ => []) n :=
  asksInTurn_checked (x := .error p.failure) fun f hf => by
    cases hf
    exact p.isClient_failure

theorem asksInTurn_validKey (key : Value) : (ofOutcome (validKey key)).AsksInTurn (fun _ => []) n :=
  asksInTurn_checked fun _ => isClient_of_validKey

end Job

open Job

namespace Base
variable {n : Nat}

theorem asksInTurn_get (key : Value) : (get key).AsksInTurn (fun _ => []) n :=
  (asksInTurn_validKey key).bind fun _ => asksInTurn_exchangeAs _ _

theorem asksInTurn_delete (key : Value) : (delete key).AsksInTurn (fun _ => []) n :=
  (asksInTurn_validKey key).bind fun _ => asksInTurn_exchangeAs _ _

theorem asksInTurn_update (key : Value) (p : Patch) : (update key p).AsksInTurn (fun _ => []) n :=
  (asksInTurn_validKey key).bind fun _ => (asksInTurn_require _ _).bind fun _ =>
    asksInTurn_exchangeAs _ _

theorem asksInTurn_commit (key : Option String) (p : Patch) :
    (commit key p).AsksInTurn (fun _ => []) n := by
  cases key with
  | none => exact asksInTurn_fail .boundUpdater
  | some key => exact asksInTurn_update (.text key) p

theorem asksInTurn_insert (base : String) (r : Record) :
    (insert base r).AsksInTurn (fun _ => []) n :=
  asksInTurn_clock fun _ => (asksInTurn_checked fun _ => Record.isClient_of_serialize).bind fun _ =>
    (asksInTurn_exchangeAs _ _).bind fun _ => (asksInTurn_say rfl).bind fun _ => asksInTurn_pure rfl

theorem asksInTurn_put (base : String) (rs : List Record) :
    (put base rs).AsksInTurn (fun _ => []) n := by
  refine (asksInTurn_require _ _).bind fun _ => (asksInTurn_require _ _).bind fun _ =>
    asksInTurn_clock fun now => ?_
  refine (asksInTurn_checked fun _ => Record.isClient_of_mapM_serialize).bind fun items => ?_
  refine (asksInTurn_exchangeAs _ _).bind fun answer => ?_
  refine (asksInTurn_sayAll ?_).bind fun _ => asksInTurn_pure rfl
  rw [putReports]
  split <;> rfl

theorem asksInTurn_putMany (base : String) (rs : List Record) :
    (putMany base rs).AsksInTurn (fun _ => []) n := by
  have batches (batches : List (List Record)) (stored : PutResult) :
      (putBatches base batches stored).AsksInTurn (fun _ => []) n := by
    induction batches generalizing stored with
    | nil => exact asksInTurn_pure rfl
    | cons batch rest ih => exact (asksInTurn_put base batch).bind fun _ => ih _
  exact (asksInTurn_require _ _).bind fun _ => batches _ _

end Base

namespace Drive
variable {n : Nat}

theorem asksInTurn_list (o : ListOptions) : (list o).AsksInTurn (fun _ => []) n :=
  asksInTurn_exchangeAs _ _

theorem asksInTurn_listAll (front : Option String) (budget : Nat) :
    (listAll front budget).AsksInTurn (fun _ => []) budget := by
  have pages (names : List String) (last : Option String) :
      (listFrom front budget names last).AsksInTurn (fun _ => []) budget := by
    induction budget generalizing names last with
    | zero => exact fun _ _ _ hs => ⟨trivial, [], by simpa using hs, .stalled .nil (Nat.zero_le _)⟩
    | succ budget ih =>
      refine asksInTurn_exchangeAs_bind fun page => ?_
      cases page.next? with
      | none => exact asksInTurn_pure rfl
      | some cursor => exact ih _ _
  exact pages [] none

theorem asksInTurn_download (name : String) : (download name).AsksInTurn (fun _ => []) n :=
  (asksInTurn_require _ _).bind fun _ => asksInTurn_exchange _

theorem asksInTurn_delete (names : List String) : (delete names).AsksInTurn (fun _ => []) n :=
  (asksInTurn_require _ _).bind fun _ => (asksInTurn_require _ _).bind fun _ =>
    asksInTurn_exchangeAs _ _

/-- The failures that the result of an upload shows: those of its parts. -/
def UploadResult.failuresOfParts : UploadResult → List Failure
  | .completed .. => []
  | .aborted _ _ _ failures => failures.map PartFailure.failure

open Upload

theorem asksInTurn_tell (uploaded total : Nat) : (tell uploaded total).AsksInTurn (fun _ => []) n :=
  asksInTurn_progress fun failure => by
    cases failure with
    | none => exact asksInTurn_pure rfl
    | some f => exact asksInTurn_say rfl

theorem asksInTurn_single (saveAs : String) (content : ByteArray) :
    (single saveAs content).AsksInTurn UploadResult.failuresOfParts n :=
  (asksInTurn_exchangeAs _ _).bind fun _ => (asksInTurn_say rfl).bind fun _ =>
    (asksInTurn_tell _ _).bind fun _ => asksInTurn_pure rfl

end Drive

theorem Failure.isClient_asError {f : Failure} (h : f.isClient = true) :
    f.asError.isClient = true := by
  cases f <;> first | rfl | cases h

namespace Walk
variable {n : Nat}

theorem asksInTurn_fetch (bound : Bool) (q : Query) : (fetch bound q).AsksInTurn (fun _ => []) n :=
  (asksInTurn_require _ _).bind fun _ => asksInTurn_exchangeAs _ _

/-- A failure ends a walk, or is shown in its result. -/
theorem absorb_error (w : Walk) (policy : PagePolicy) (f : Failure) :
    w.absorb policy (.error f) = (.ended (.error f), []) ∨
      ∃ r, w.absorb policy (.error f) = (.ended (.ok r), [w.stopReport f]) ∧
        r.failure = some f.asError := by
  rw [absorb]
  split
  · exact .inl rfl
  · exact .inr ⟨_, rfl, rfl⟩

theorem absorb_ok (w : Walk) (policy : PagePolicy) (page : Page) :
    ∃ status, w.absorb policy (.ok page) = (status, pageReports (w.pages + 1) page.items.length) ∧
      ((∃ w', status = .onward w') ∨ ∃ r, status = .ended (.ok r) ∧ r.failure = none) := by
  rw [absorb]
  simp only
  split
  · exact ⟨_, rfl, .inl ⟨_, rfl⟩⟩
  · exact ⟨_, rfl, .inr ⟨_, rfl, rfl⟩⟩

/-- A walk that goes on after a page, or has ended. -/
def goOn (bound : Bool) (ref : Nat) (policy : PagePolicy) (budget : Nat) : Status → Job WalkResult
  | .onward w => follow bound ref policy budget w
  | .ended result => ofOutcome result

theorem follow_succ (bound : Bool) (ref : Nat) (policy : PagePolicy) (budget : Nat) (w : Walk) :
    follow bound ref policy (budget + 1) w = .query ref fun q =>
      (fetch bound (w.ask q)).attempt >>= fun answer =>
        sayAll (w.absorb policy answer).2 >>= fun _ =>
          goOn bound ref policy budget (w.absorb policy answer).1 := by
  rfl

/-- A walk without a base fails before it asks for a page. -/
theorem comesTo_fetch {s : Scene} {answered : List (Call × Arrival)} {alarms : List Report}
    (hs : s.Stands [] answered alarms) (bound : Bool) (q : Query) :
    (fetch bound q).ComesTo (fun result s' =>
      (result = some (.error Precondition.boundQuery.failure) ∧ s'.Stands [] answered alarms) ∨
      ∃ c a, result = some (Exchange.answerAs Page.decode c a.outcome) ∧
        s'.Stands [] (answered ++ [(c, a)]) (alarms ++ [(c, a)].flatMap Exchange.alarms)) s := by
  cases bound with
  | false => exact ⟨trivial, .inl ⟨rfl, hs⟩⟩
  | true =>
    refine (comesTo_exchangeAs hs Page.decode _).mono ?_
    rintro _ s' - ⟨a, rfl, hs'⟩
    exact .inr ⟨_, a, rfl, by simpa using hs'⟩

/-- The failures that the result of a walk shows. -/
def failuresOfWalk (r : WalkResult) : List Failure := r.failure.toList

/-- A walk that a failure has ended: it fails, or its result shows the failure. -/
def EndedBy (f : Failure) (result : Outcome WalkResult) : Prop :=
  result = .error f ∨ ∃ r, result = .ok r ∧ failuresOfWalk r = [f.asError]

theorem EndedBy.own {f : Failure} {result : Outcome WalkResult} (h : EndedBy f result)
    (own : f.isClient = true) : ∀ g ∈ failuresIn failuresOfWalk result, g.isClient = true := by
  intro g hg
  rcases h with rfl | ⟨r, rfl, shown⟩
  · exact List.mem_singleton.mp hg ▸ own
  · rw [failuresIn, shown] at hg
    exact List.mem_singleton.mp hg ▸ Failure.isClient_asError own

theorem EndedBy.inTurn {x : Call × Arrival} {f : Failure} {result : Outcome WalkResult}
    (h : EndedBy f result) (last : x.2.failure? = some f) (n : Nat) :
    InTurn failuresOfWalk n [x] (some result) := by
  rcases h with rfl | ⟨r, rfl, shown⟩
  · exact .failed_alone last
  · exact show InTurn failuresOfWalk n ([] ++ [x]) _ from .shown .nil last shown

section Steps
variable {answered : List (Call × Arrival)} {alarms : List Report} {s : Scene} (bound : Bool)
  (ref : Nat) (policy : PagePolicy) (budget : Nat) (w : Walk)

/-- What is said about a failure that ends a walk raises no alarm. -/
theorem comesTo_goOn_error (hs : s.Stands [] answered alarms) (f : Failure) :
    (sayAll (w.absorb policy (.error f)).2 >>= fun _ =>
      goOn bound ref policy budget (w.absorb policy (.error f)).1).ComesTo (fun r s' =>
        s'.Stands [] answered alarms ∧ ∃ result, r = some result ∧ EndedBy f result) s := by
  rcases w.absorb_error policy f with h | ⟨r, h, shown⟩
  · rw [h]
    exact ⟨trivial, hs, _, rfl, .inl rfl⟩
  · rw [h]
    refine Keeps.bind ((comesTo_sayAll hs _).mono ?_)
    rintro _ s' - ⟨rfl, hs'⟩
    have calm : [w.stopReport f].filter (·.isAlarm) = [] := rfl
    rw [calm, List.append_nil] at hs'
    exact ⟨trivial, hs', _, rfl, .inr ⟨r, rfl, by rw [failuresOfWalk, shown]; rfl⟩⟩

theorem asksInTurn_goOn_ok {policy : PagePolicy} {budget : Nat}
    (ih : ∀ w, (follow bound ref policy budget w).AsksInTurn failuresOfWalk budget) (page : Page) :
    (sayAll (w.absorb policy (.ok page)).2 >>= fun _ =>
      goOn bound ref policy budget (w.absorb policy (.ok page)).1).AsksInTurn
        failuresOfWalk budget := by
  obtain ⟨status, h, onward⟩ := w.absorb_ok policy page
  rw [h]
  refine (asksInTurn_sayAll rfl).bind fun _ => ?_
  rcases onward with ⟨w', rfl⟩ | ⟨r, rfl, complete⟩
  · exact ih w'
  · exact asksInTurn_pure (by rw [failuresOfWalk, complete]; rfl)

end Steps

theorem asksInTurn_follow (bound : Bool) (ref : Nat) (policy : PagePolicy) (budget : Nat)
    (w : Walk) : (follow bound ref policy budget w).AsksInTurn failuresOfWalk budget := by
  induction budget generalizing w with
  | zero => exact fun _ _ _ hs => ⟨trivial, [], by simpa using hs, .stalled .nil (Nat.zero_le _)⟩
  | succ budget ih =>
    rw [follow_succ]
    refine asksInTurn_query fun q => ?_
    intro s answered alarms hs
    refine Keeps.bind (Keeps.attempt ((comesTo_fetch hs bound (w.ask q)).mono ?_))
    rintro _ s' - (⟨rfl, hs'⟩ | ⟨c, a, rfl, hs'⟩)
    · refine (comesTo_goOn_error bound ref policy budget w hs' _).mono ?_
      rintro _ s'' - ⟨hs'', result, rfl, ended⟩
      exact ⟨[], by simpa using hs'', .ended .nil (ended.own (Precondition.isClient_failure _))⟩
    · rcases Exchange.answerAs_cases Page.decode c a with
        ⟨f, last, read⟩ | ⟨calm, ⟨page, read⟩ | ⟨f, read, own⟩⟩
      · rw [read]
        refine (comesTo_goOn_error bound ref policy budget w hs' f).mono ?_
        rintro _ s'' - ⟨hs'', result, rfl, ended⟩
        exact ⟨_, hs'', ended.inTurn last _⟩
      · rw [read]
        exact (asksInTurn_goOn_ok bound ref w ih page).after (.singleton calm) hs'
          (Nat.le_of_eq (Nat.add_comm budget 1))
      · rw [read]
        refine (comesTo_goOn_error bound ref policy budget w hs' f).mono ?_
        rintro _ s'' - ⟨hs'', result, rfl, ended⟩
        exact ⟨_, hs'', .ended (.singleton calm) (ended.own own)⟩

theorem asksInTurn_run (bound : Bool) (ref : Nat) (policy : PagePolicy) (budget : Nat) :
    (run bound ref policy budget).AsksInTurn failuresOfWalk budget := by
  refine asksInTurn_query fun q => (asksInTurn_checked fun f hf => ?_).bind fun w =>
    asksInTurn_follow bound ref policy budget w
  rw [start] at hf
  split at hf <;> cases hf
  exact Precondition.isClient_failure _

end Walk

theorem Pages.asksInTurn_pull {n : Nat} (bound : Bool) (p : Pages) :
    (p.pull bound).AsksInTurn (fun _ => []) n := by
  rcases p with ⟨_ | q⟩
  · exact asksInTurn_pure rfl
  · exact (Walk.asksInTurn_fetch bound q).bind fun _ => asksInTurn_pure rfl

end Depot
