import Depot.Proofs.Alike
/-!
# Operations that send one call at a time

Every operation of a base, a drive or a query is alike to itself, an upload if it sends its parts one
after another. A walk and a listing of all files are alike to themselves with another bound on their
pages, if there are not that many answers.
-/
namespace Depot
namespace Job

/-- No call is under way. -/
def AtRest {α : Type} : Nat → Option (Nat × Call) → Outcome α → Prop := fun _ busy _ => busy = none

variable {α β : Type} {may : Prop} {n : Nat}

theorem alike_exchangeAs_atRest {decode : Decoder α} {c : Call} (allowed : may) :
    (exchangeAs decode c).Alike AtRest may n none (exchangeAs decode c) :=
  alike_exchangeAs allowed (fun _ _ _ => rfl) (fun _ _ _ => rfl)

/-- What an operation comes to can be shown in any way. -/
theorem Alike.map {j j' : Job α} (h : j.Alike AtRest may n none j') {f : α → β} {P : β → Prop}
    (hf : ∀ a, P (f a)) :
    Alike (fun _ busy x => busy = none ∧ ∀ b, x = .ok b → P b) may n none
      (do return f (← j)) (do return f (← j')) := by
  refine Alike.bind (h.mono fun n busy x free => ?_)
  cases x with
  | error e => exact ⟨free, fun b hb => by cases hb⟩
  | ok a => exact ⟨rfl, free, fun b hb => Except.ok.inj hb ▸ hf a⟩

end Job

open Job

section Services
variable {may : Prop} {n : Nat} (allowed : may)
include allowed

namespace Base

theorem alike_get (key : Value) : (get key).Alike AtRest may n none (get key) :=
  alike_ofOutcome_bind (fun _ _ => alike_exchangeAs_atRest allowed) (fun _ => rfl)

theorem alike_delete (key : Value) : (delete key).Alike AtRest may n none (delete key) :=
  alike_ofOutcome_bind (fun _ _ => alike_exchangeAs_atRest allowed) (fun _ => rfl)

theorem alike_update (key : Value) (p : Patch) :
    (update key p).Alike AtRest may n none (update key p) :=
  alike_ofOutcome_bind (fun _ _ =>
    alike_require_bind (fun _ => alike_exchangeAs_atRest allowed) (fun _ => rfl)) (fun _ => rfl)

theorem alike_commit (key : Option String) (p : Patch) :
    (commit key p).Alike AtRest may n none (commit key p) := by
  cases key with
  | none => exact ⟨rfl, rfl⟩
  | some key => exact alike_update allowed (.text key) p

theorem alike_insert (base : String) (r : Record) :
    (insert base r).Alike AtRest may n none (insert base r) := by
  refine ⟨rfl, _, rfl, fun t => alike_ofOutcome_bind (fun item _ => ?_) (fun _ => rfl)⟩
  refine Alike.bind (alike_exchangeAs allowed (fun created n' _ => ?_) (fun _ _ _ => rfl))
  exact Alike.bind (alike_say (.refl _) ⟨rfl, rfl⟩)

theorem alike_put (base : String) (records : List Record) :
    (put base records).Alike AtRest may n none (put base records) := by
  refine alike_require_bind (fun _ => alike_require_bind (fun _ => ?_) (fun _ => rfl)) (fun _ => rfl)
  refine ⟨rfl, _, rfl, fun t => alike_ofOutcome_bind (fun items _ => ?_) (fun _ => rfl)⟩
  refine Alike.bind (alike_exchangeAs allowed (fun answer n' _ => ?_) (fun _ _ _ => rfl))
  exact Alike.bind (alike_sayAll (List.forall₂_same.mpr fun r _ => .refl r) ⟨rfl, rfl⟩)

theorem alike_putBatches (base : String) (batches : List (List Record)) (stored : PutResult) :
    (putBatches base batches stored).Alike AtRest may n none (putBatches base batches stored) := by
  induction batches generalizing n stored with
  | nil => exact ⟨rfl, rfl⟩
  | cons batch rest ih =>
    refine Alike.bind ((alike_put allowed base batch).mono ?_)
    rintro n' _ x rfl
    cases x with
    | error e => rfl
    | ok result => exact ih (stored.append result)

theorem alike_putMany (base : String) (records : List Record) :
    (putMany base records).Alike AtRest may n none (putMany base records) :=
  alike_require_bind (fun _ => alike_putBatches allowed base _ _) (fun _ => rfl)

end Base

namespace Drive

theorem alike_list (o : ListOptions) : (list o).Alike AtRest may n none (list o) :=
  alike_exchangeAs_atRest allowed

theorem alike_listFrom (front : Option String) {b b' : Nat} (hb : n < b) (hb' : n < b')
    (names : List String) (last : Option String) :
    (listFrom front b names last).Alike AtRest may n none (listFrom front b' names last) := by
  induction b generalizing n b' names last with
  | zero => exact absurd hb (Nat.not_lt_zero n)
  | succ b ih =>
    obtain ⟨b', rfl⟩ := Nat.exists_eq_add_of_lt hb'
    rw [listFrom, listFrom]
    refine Alike.bind (alike_exchangeAs allowed (fun page n' less => ?_) (fun _ _ _ => rfl))
    simp only [AlikeBefore]
    cases page.next? with
    | none => exact ⟨rfl, rfl⟩
    | some cursor => exact ih (by omega) (by omega) _ _

theorem alike_listAll (front : Option String) {b b' : Nat} (hb : n < b) (hb' : n < b') :
    (listAll front b).Alike AtRest may n none (listAll front b') :=
  alike_listFrom allowed front hb hb' [] none

theorem alike_download (name : String) :
    (download name).Alike AtRest may n none (download name) :=
  alike_require_bind (fun _ => alike_exchange allowed (fun _ _ _ => rfl) (fun _ _ _ => rfl))
    (fun _ => rfl)

theorem alike_delete (names : List String) :
    (delete names).Alike AtRest may n none (delete names) :=
  alike_require_bind (fun _ =>
    alike_require_bind (fun _ => alike_exchangeAs_atRest allowed) (fun _ => rfl)) (fun _ => rfl)

namespace Upload

omit allowed in
theorem alike_tell (uploaded total : Nat) :
    (tell uploaded total).Alike (fun _ busy x => busy = none ∧ x = .ok ()) may n none
      (tell uploaded total) := by
  refine ⟨rfl, _, rfl, fun failure => ?_⟩
  cases failure with
  | none => exact ⟨rfl, rfl, rfl⟩
  | some f => exact alike_say (.refl _) ⟨rfl, rfl⟩

theorem alike_single (saveAs : String) (content : ByteArray) :
    (single saveAs content).Alike AtRest may n none (single saveAs content) := by
  refine Alike.bind (alike_exchangeAs allowed (fun info n' _ => ?_) (fun _ _ _ => rfl))
  refine Alike.bind (alike_say (.refl _) (Alike.bind ((alike_tell _ _).mono ?_)))
  rintro n' _ _ ⟨rfl, rfl⟩
  exact ⟨rfl, rfl⟩

omit allowed in
/-- What is reported about a part is taken. -/
theorem alike_reportPart (p : Parts) (s : Session) (part : Nat) (answer : Outcome ByteArray) :
    (reportPart p s part answer).Alike (fun _ busy x => busy = none ∧ x = .ok ()) may n none
      (reportPart p s part answer) := by
  cases answer with
  | error f => exact alike_say (.refl _) ⟨rfl, rfl⟩
  | ok body =>
    exact Alike.bind (alike_say (.refl _) (Alike.bind (alike_say (.refl _) (alike_tell _ _))))

/-- With one part under way the others follow one by one. -/
theorem alike_settleAll (p : Parts) (pending : List Nat) (s : Session) (k : Nat) (c : Call) :
    (settleAll p (pending.length + 1) pending s).Alike AtRest may n (some (k, c))
      (settleAll p (pending.length + 1) pending s) := by
  induction pending generalizing n s k c with
  | nil =>
    refine ⟨k, c, _, rfl, rfl, fun a a' n' same _ => ?_⟩
    refine Alike.bind (Alike.attempt (alike_settle _ same ?_))
    refine Alike.bind (Alike.attempt ((alike_reportPart p _ k _).mono ?_))
    rintro n' _ _ ⟨rfl, rfl⟩
    exact ⟨rfl, rfl⟩
  | cons part rest ih =>
    refine ⟨k, c, _, rfl, rfl, fun a a' n' same _ => ?_⟩
    refine Alike.bind (Alike.attempt (alike_settle _ same ?_))
    refine Alike.bind (Alike.attempt ((alike_reportPart p _ k _).mono ?_))
    rintro n' _ _ ⟨rfl, rfl⟩
    refine Alike.bind (Alike.attempt ?_)
    exact Alike.bind (alike_send allowed ⟨rfl, ih _ part (p.call part)⟩)

theorem alike_conclude (p : Parts) (s : Session) :
    (conclude p s).Alike AtRest may n none (conclude p s) := by
  rw [conclude]
  split
  · refine Alike.bind (alike_exchangeAs allowed (fun info n' _ => ?_) (fun _ _ _ => rfl))
    exact Alike.bind (alike_say (.refl _) (Alike.bind (alike_say (.refl _) ⟨rfl, rfl⟩)))
  · refine Alike.bind (alike_exchange allowed (fun body n' _ => ?_) (fun _ _ _ => rfl))
    exact Alike.bind (alike_say (.refl _) (Alike.bind (alike_say (.refl _) ⟨rfl, rfl⟩)))

/-- An upload that sends its parts one after another. -/
theorem alike_chunked (saveAs : String) (content : ByteArray) {plan : UploadPlan}
    (sequential : plan.concurrency = 1) :
    (chunked saveAs content plan).Alike AtRest may n none (chunked saveAs content plan) := by
  refine Alike.bind (alike_exchangeAs allowed (fun ticket n' _ => ?_) (fun _ _ _ => rfl))
  refine Alike.bind (alike_say (.refl _) ?_)
  simp only [AlikeBefore, sequential]
  generalize parts : Parts.mk saveAs ticket.uploadId content plan.chunkSize = p
  have last {n : Nat} (s : Session) : (conclude p s).Alike AtRest may n none (conclude p s) :=
    alike_conclude allowed p s
  have settled {n : Nat} {busy : Option (Nat × Call)} {j : Job Session}
      (h : j.Alike AtRest may n busy j) :
      (j >>= fun s => conclude p s).Alike AtRest may n busy (j >>= fun s => conclude p s) := by
    refine Alike.bind (h.mono ?_)
    rintro n' _ x rfl
    cases x with
    | error e => rfl
    | ok s => exact last s
  have length : p.numbers.length = p.count := by simp [Parts.numbers]
  cases numbers : p.numbers with
  | nil =>
    have none_left : p.count = 0 := by rw [← length, numbers]; rfl
    rw [none_left]
    exact settled ⟨rfl, rfl⟩
  | cons part rest =>
    have more : p.count = rest.length + 1 := by rw [← length, numbers]; rfl
    have width : min 1 (rest.length + 1) = 1 := by omega
    rw [more, width]
    exact Alike.bind (Alike.bind (alike_send allowed
      ⟨rfl, settled (alike_settleAll allowed p rest _ part (p.call part))⟩))

end Upload

/-- Whether an upload sends its parts one after another, if it sends any. -/
def UploadOptions.isSequential (o : UploadOptions) : Bool :=
  match o.concurrencyOrDefault with
  | .ok width => width.1 = 1
  | .error _ => true

omit allowed in
theorem UploadOptions.concurrency_of_plan {o : UploadOptions} {saveAs : String} {plan : UploadPlan}
    (sequential : o.isSequential = true) (h : o.plan saveAs = .ok plan) : plan.concurrency = 1 := by
  rw [UploadOptions.plan] at h
  split at h
  · cases h
  · cases chunkSize : o.chunkSizeOrDefault with
    | error f => rw [chunkSize] at h; cases h
    | ok size =>
      cases concurrency : o.concurrencyOrDefault with
      | error f => rw [chunkSize, concurrency] at h; cases h
      | ok width =>
        rw [chunkSize, concurrency] at h
        cases h
        simpa [isSequential, concurrency] using sequential

theorem alike_store (saveAs : String) (content : FileContent) {o : UploadOptions}
    (sequential : o.isSequential = true) :
    (store saveAs content o).Alike AtRest may n none (store saveAs content o) := by
  refine alike_ofOutcome_bind (fun plan planned => ?_) (fun _ => rfl)
  split
  · exact Upload.alike_single allowed saveAs content.toBytes
  · exact Upload.alike_chunked allowed saveAs content.toBytes
      (UploadOptions.concurrency_of_plan sequential planned)

end Drive
end Services

namespace Walk
variable {bound : Bool} {n : Nat}

theorem alike_fetch {Q : Nat → Option (Nat × Call) → Outcome Page → Prop} (q : Query)
    (ok : ∀ page n', n' < n → Q n' none (.ok page))
    (fails : ∀ e n', n' ≤ n → Q n' none (.error e)) :
    (fetch bound q).Alike Q (bound = true) n none (fetch bound q) :=
  alike_require_bind (fun allowed => alike_exchangeAs allowed ok fails)
    (fun e => fails e n (Nat.le_refl n))

/-- Only a page leads a walk on. -/
theorem exists_page_of_absorb {w w' : Walk} {policy : PagePolicy} {answer : Outcome Page}
    (h : (w.absorb policy answer).1 = .onward w') : ∃ page, answer = .ok page := by
  cases answer with
  | ok page => exact ⟨page, rfl⟩
  | error f =>
    rw [absorb] at h
    split at h <;> cases h

theorem alike_follow (ref : Nat) (policy : PagePolicy) {b b' : Nat} (hb : n < b) (hb' : n < b')
    (w : Walk) : (follow bound ref policy b w).Alike AtRest (bound = true) n none
      (follow bound ref policy b' w) := by
  induction b generalizing n b' w with
  | zero => exact absurd hb (Nat.not_lt_zero n)
  | succ b ih =>
    obtain ⟨b', rfl⟩ := Nat.exists_eq_add_of_lt hb'
    refine ⟨rfl, _, rfl, fun q => ?_⟩
    have fetched : (fetch bound (w.ask q)).Alike
        (fun n' busy answer => busy = none ∧ ∀ page, answer = .ok page → n' < n) (bound = true) n none
        (fetch bound (w.ask q)) :=
      alike_fetch (w.ask q) (fun _ _ less => ⟨rfl, fun _ _ => less⟩)
        (fun _ _ _ => ⟨rfl, fun _ h => by cases h⟩)
    refine Alike.bind (Alike.attempt (fetched.mono ?_))
    rintro n' _ answer ⟨rfl, less⟩
    rcases taken : w.absorb policy answer with ⟨status, reports⟩
    simp only [AlikeBefore, taken]
    refine Alike.bind (alike_sayAll (List.forall₂_same.mpr fun r _ => .refl r) ?_)
    cases status with
    | ended result => exact ⟨rfl, rfl⟩
    | onward w' =>
      -- the page that leads on is one of the answers
      obtain ⟨page, rfl⟩ := exists_page_of_absorb (congrArg Prod.fst taken)
      have := less page rfl
      exact ih (by omega) (by omega) w'

theorem alike_run (ref : Nat) (policy : PagePolicy) {b b' : Nat} (hb : n < b) (hb' : n < b') :
    (run bound ref policy b).Alike AtRest (bound = true) n none (run bound ref policy b') :=
  ⟨rfl, _, rfl, fun _ =>
    alike_ofOutcome_bind (fun w _ => alike_follow ref policy hb hb' w) (fun _ => rfl)⟩

end Walk

/-- After each page there is an answer less. -/
theorem Pages.alike_pull {bound : Bool} {n : Nat} (p : Pages) :
    (p.pull bound).Alike (fun n' busy x => busy = none ∧ ∀ y, x = .ok (some y) → n' < n)
      (bound = true) n none (p.pull bound) := by
  obtain ⟨_ | q⟩ := p
  · exact ⟨rfl, rfl, fun y h => by cases h⟩
  · exact Alike.bind (Walk.alike_fetch q (fun page n' less => ⟨rfl, rfl, fun _ _ => less⟩)
      (fun e n' _ => ⟨rfl, fun _ h => by cases h⟩))

end Depot
