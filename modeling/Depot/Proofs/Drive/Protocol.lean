import Mathlib.Data.List.Induction
import Depot.Drive.Upload
import Depot.Proofs.Drive.Chunks
import Depot.Proofs.Exchange
/-!
# The protocol of an upload in parts

Which calls a session sends and when, in whatever order its parts settle: it is
opened, every part is sent once, and when all parts have settled one call ends it.
The invariant is that the parts sent so far are the settled ones and the ones under
way, each once.
-/
namespace Depot.Drive.Upload

/-- What opening a session comes to. -/
def opened (saveAs : String) (a : Arrival) : Outcome UploadTicket :=
  Exchange.answerAs UploadTicket.decode (openCall saveAs) a.outcome

/-- The numbers of the parts, from one on. -/
def partNumbers (content : ByteArray) (chunkSize : Nat) : List Nat :=
  List.range' 1 (content.size ⌈/⌉ chunkSize)

/-- Whether a call has brought a response that is a success. -/
def isStored (a : Arrival) : Bool :=
  match a.outcome with
  | .ok r => r.isSuccess
  | .error _ => false

/-- The parts of a session that was opened with a ticket. -/
def partsOf (saveAs : String) (content : ByteArray) (plan : UploadPlan) (t : UploadTicket) : Parts :=
  ⟨saveAs, t.uploadId, content, plan.chunkSize⟩

/-- The call that ends a session whose parts have settled: it commits the session if every part
was stored. -/
def endCall (p : Parts) (settled : List (Nat × Arrival)) : Call :=
  if settled.all fun x => isStored x.2 then commitCall p.saveAs p.uploadId
  else abortCall p.saveAs p.uploadId

/-- What is counted of a part that has settled. -/
def partCounts (p : Parts) (part : Nat) : Outcome ByteArray → List Report
  | .error _ => []
  | .ok _ => [.tick .uploadParts [], .count .uploadBytes (p.chunk part).size []]

/-- What is counted of the parts of a session. -/
def sessionCounts (p : Parts) (settled : List (Nat × Arrival)) : List Report :=
  settled.flatMap fun x => partCounts p x.1 (Exchange.answer x.2.outcome)

/-- The session whose parts have settled in this order. -/
def sessionOf (p : Parts) (name : String) (settled : List (Nat × Arrival)) : Session :=
  settled.foldl (fun s x => Upload.settled p s x.1 (Exchange.answer x.2.outcome))
    ⟨p.uploadId, name, [], [], 0⟩

/-- What a session comes to with the answer to the call that ends it. -/
def ending (p : Parts) (s : Session) (b : Arrival) : Outcome UploadResult :=
  if s.failures.isEmpty then
    (Exchange.answerAs FileInfo.decode (commitCall p.saveAs p.uploadId) b.outcome).map
      fun info => .completed info.name p.content.size p.count (some p.uploadId)
  else
    (Exchange.answer b.outcome).map fun _ =>
      .aborted s.name p.uploadId (Sorting.sorted (· ≤ ·) s.stored)
        (Sorting.sorted (fun a b => a.part ≤ b.part) s.failures)

/-- What is counted at the end of a session. -/
def endCounts : Outcome UploadResult → List Report
  | .error _ => []
  | .ok (.completed ..) => [.tick .uploadsCompleted []]
  | .ok (.aborted ..) => [.tick .uploadsAborted []]

section Phases
variable (saveAs : String) (content : ByteArray) (plan : UploadPlan)

/-- How far an upload in parts has come: the calls sent, the answers that have arrived, by ticket,
and the tickets under way. -/
inductive Phase : List Call → List (Nat × Arrival) → List Nat → Prop where
  | silent : Phase [] [] []
  | opening : Phase [openCall saveAs] [] [0]
  | refused (a : Arrival) (f : Failure) (ha : opened saveAs a = .error f) :
    Phase [openCall saveAs] [(0, a)] []
  /-- The first `asked` parts have been sent, and each of them is settled or under way. -/
  | sending (a : Arrival) (t : UploadTicket) (ha : opened saveAs a = .ok t)
      (asked : Nat) (settled : List (Nat × Arrival)) (underWay : List Nat)
      (each : (settled.map Prod.fst ++ underWay).Perm
        ((partNumbers content plan.chunkSize).take asked))
      (width : underWay.length ≤ min plan.concurrency (content.size ⌈/⌉ plan.chunkSize)) :
    Phase
      (openCall saveAs :: ((partNumbers content plan.chunkSize).take asked).map
        (partsOf saveAs content plan t).call)
      ((0, a) :: settled) underWay
  /-- Every part has settled, and the call that ends the session is under way. -/
  | ending (a : Arrival) (t : UploadTicket) (ha : opened saveAs a = .ok t)
      (settled : List (Nat × Arrival))
      (each : (settled.map Prod.fst).Perm (partNumbers content plan.chunkSize)) :
    Phase
      (openCall saveAs :: (partNumbers content plan.chunkSize).map
        (partsOf saveAs content plan t).call ++ [endCall (partsOf saveAs content plan t) settled])
      ((0, a) :: settled) [0]
  | ended (a : Arrival) (t : UploadTicket) (ha : opened saveAs a = .ok t)
      (settled : List (Nat × Arrival)) (b : Arrival)
      (each : (settled.map Prod.fst).Perm (partNumbers content plan.chunkSize)) :
    Phase
      (openCall saveAs :: (partNumbers content plan.chunkSize).map
        (partsOf saveAs content plan t).call ++ [endCall (partsOf saveAs content plan t) settled])
      ((0, a) :: settled ++ [(0, b)]) []

/-- What an upload in parts comes to, with all calls sent and all answers: the failure to open a
session, or what is left after the one call that ends it. -/
inductive Verdict : List Call → List (Nat × Arrival) → Outcome UploadResult → Prop where
  | refused (a : Arrival) (f : Failure) (ha : opened saveAs a = .error f) :
    Verdict [openCall saveAs] [(0, a)] (.error f)
  | ended (a : Arrival) (t : UploadTicket) (ha : opened saveAs a = .ok t)
      (settled : List (Nat × Arrival)) (b : Arrival) (result : Outcome UploadResult)
      (each : (settled.map Prod.fst).Perm (partNumbers content plan.chunkSize))
      (failed : ∀ f, Exchange.answer b.outcome = .error f → result = .error f) :
    Verdict
      (openCall saveAs :: (partNumbers content plan.chunkSize).map
        (partsOf saveAs content plan t).call ++ [endCall (partsOf saveAs content plan t) settled])
      ((0, a) :: settled ++ [(0, b)]) result

/-- What an upload in parts leaves: the calls sent and the answers, by ticket, what it has come to,
and what it has counted, requests and errors aside. -/
inductive Account : List (Nat × Call) → List (Nat × Arrival) → Outcome UploadResult →
    List Report → Prop where
  | refused (a : Arrival) (f : Failure) (ha : opened saveAs a = .error f) :
    Account [(0, openCall saveAs)] [(0, a)] (.error f) []
  | ended (a : Arrival) (t : UploadTicket) (ha : opened saveAs a = .ok t)
      (settled : List (Nat × Arrival)) (b : Arrival) (result : Outcome UploadResult)
      (each : (settled.map Prod.fst).Perm (partNumbers content plan.chunkSize))
      (comes : result = ending (partsOf saveAs content plan t)
        (sessionOf (partsOf saveAs content plan t) t.name settled) b) :
    Account
      ((0, openCall saveAs) :: (partNumbers content plan.chunkSize).map (fun part =>
        (part, (partsOf saveAs content plan t).call part)) ++
        [(0, endCall (partsOf saveAs content plan t) settled)])
      ((0, a) :: settled ++ [(0, b)]) result
      (sessionCounts (partsOf saveAs content plan t) settled ++ endCounts result)

end Phases

theorem numbers_eq (p : Parts) : p.numbers = partNumbers p.content p.chunkSize := by
  rw [Parts.numbers, Parts.count, Chunks.count_eq, partNumbers, List.range'_eq_map_range]
  exact List.map_congr_left fun i _ => Nat.add_comm i 1

variable {saveAs : String} {content : ByteArray} {plan : UploadPlan}

def AtPhase (saveAs : String) (content : ByteArray) (plan : UploadPlan) (s : Scene) : Prop :=
  Phase saveAs content plan s.sent s.arrived s.underWay

theorem AtPhase.congr {s s' : Scene} (h : AtPhase saveAs content plan s)
    (hs : s.SameCalls s') :
    AtPhase saveAs content plan s' := by
  rw [AtPhase, hs.sent, hs.arrived, hs.underWay]
  exact h

theorem heedless_atPhase : Scene.Heedless (AtPhase saveAs content plan) :=
  fun _ _ hs h => h.congr hs

/-- A scene in which parts are being sent. -/
structure Sending (saveAs : String) (content : ByteArray) (plan : UploadPlan) (a : Arrival)
    (t : UploadTicket) (asked : Nat) (settled : List (Nat × Arrival)) (s : Scene) : Prop where
  launched : s.launched = (0, openCall saveAs) ::
    ((partNumbers content plan.chunkSize).take asked).map fun part =>
      (part, (partsOf saveAs content plan t).call part)
  arrived : s.arrived = (0, a) :: settled
  each : (settled.map Prod.fst ++ s.underWay).Perm
    ((partNumbers content plan.chunkSize).take asked)
  width : s.underWay.length ≤ min plan.concurrency (content.size ⌈/⌉ plan.chunkSize)

variable {a : Arrival} {t : UploadTicket} {asked : Nat} {settled : List (Nat × Arrival)} {s : Scene}

theorem Sending.sent (h : Sending saveAs content plan a t asked settled s) :
    s.sent = openCall saveAs :: ((partNumbers content plan.chunkSize).take asked).map
      (partsOf saveAs content plan t).call := by
  rw [Scene.sent_eq_map_launched, h.launched]
  simp [Function.comp_def]

theorem Sending.atPhase (h : Sending saveAs content plan a t asked settled s)
    (ha : opened saveAs a = .ok t) : AtPhase saveAs content plan s := by
  rw [AtPhase, h.sent, h.arrived]
  exact .sending a t ha asked settled s.underWay h.each h.width

theorem Sending.congr (h : Sending saveAs content plan a t asked settled s) {s' : Scene}
    (hs : s.SameCalls s') : Sending saveAs content plan a t asked settled s' :=
  ⟨hs.launched.trans h.launched, hs.arrived.trans h.arrived, hs.underWay ▸ h.each,
    hs.underWay ▸ h.width⟩

theorem Sending.launch (h : Sending saveAs content plan a t asked settled s) {part : Nat}
    (next : (partNumbers content plan.chunkSize)[asked]? = some part)
    (room : s.underWay.length < min plan.concurrency (content.size ⌈/⌉ plan.chunkSize)) :
    Sending saveAs content plan a t (asked + 1) settled
      (s.launch part ((partsOf saveAs content plan t).call part)) where
  launched := by simp [h.launched, List.take_add_one, next]
  arrived := by simp [h.arrived]
  each := by
    have := h.each.append_right [part]
    simpa [List.take_add_one, next] using this
  width := by
    rw [Scene.underWay_launch, List.length_append]
    exact room

theorem Sending.land (h : Sending saveAs content plan a t asked settled s)
    (moves : List Desk.Move) {k : Nat} (hk : k ∈ s.underWay) (b : Arrival) :
    Sending saveAs content plan a t asked (settled ++ [(k, b)]) ((s.stir moves).land k b) where
  launched := by simp [h.launched]
  arrived := by simp [h.arrived]
  each := by
    have move : (settled.map Prod.fst ++ k :: s.underWay.erase k).Perm
        (settled.map Prod.fst ++ s.underWay) :=
      .append_left _ (List.perm_cons_erase hk).symm
    simpa using move.trans h.each
  width := by
    have := h.width
    simp only [Scene.underWay_land, Scene.underWay_stir, List.length_erase_of_mem hk]
    omega

theorem keeps_launchAll (ha : opened saveAs a = .ok t) {parts : List Nat} {counts : List Report}
    (h : Sending saveAs content plan a t asked settled s) (counted : s.Counts counts)
    (next : parts <+: (partNumbers content plan.chunkSize).drop asked)
    (room : s.underWay.length + parts.length ≤
      min plan.concurrency (content.size ⌈/⌉ plan.chunkSize)) :
    (launchAll (partsOf saveAs content plan t) parts).Keeps (AtPhase saveAs content plan)
      (fun result s' => result = some (.ok ()) ∧
        Sending saveAs content plan a t (asked + parts.length) settled s' ∧ s'.Counts counts ∧
        s'.underWay.length = s.underWay.length + parts.length) s := by
  induction parts generalizing asked s with
  | nil => exact Job.keeps_pure (h.atPhase ha) ⟨rfl, h, counted, rfl⟩
  | cons part rest ih =>
    obtain ⟨more, hmore⟩ := next
    have first : (partNumbers content plan.chunkSize)[asked]? = some part := by
      rw [← List.head?_drop, ← hmore]
      rfl
    have others : rest <+: (partNumbers content plan.chunkSize).drop (asked + 1) := by
      rw [← List.tail_drop, ← hmore]
      exact ⟨more, rfl⟩
    have hl := h.launch first (by simp only [List.length_cons] at room; omega)
    refine Job.Keeps.bind
      ((Job.keeps_send heedless_atPhase (h.atPhase ha) (hl.atPhase ha)).mono ?_)
    rintro _ s' - ⟨rfl, hs'⟩
    have hw : s'.underWay.length = s.underWay.length + 1 := by simp [hs'.calls.underWay]
    have := ih (hl.congr hs'.calls) ((counted.launch _ _).alike hs') others
      (by simp only [List.length_cons] at room; omega)
    refine this.mono fun result s'' _ hq => ⟨hq.1, ?_, hq.2.2.1, ?_⟩
    · rw [List.length_cons, Nat.add_comm rest.length, ← Nat.add_assoc]
      exact hq.2.1
    · rw [hq.2.2.2, hw, List.length_cons]
      omega

theorem keeps_say {I : Scene → Prop} {s : Scene} {r : Report} (hI : Scene.Heedless I) (h : I s) :
    (Job.say r).Keeps I (fun result s' => result = some (.ok ()) ∧ s.Adds [r] s') s := by
  refine (Job.keeps_say hI h).mono ?_
  rintro _ _ - ⟨rfl, rfl⟩
  exact ⟨rfl, .report s r⟩

theorem keeps_tell {I : Scene → Prop} {s : Scene} {uploaded total : Nat} (hI : Scene.Heedless I)
    (h : I s) : (tell uploaded total).Keeps I
      (fun result s' => result = some (.ok ()) ∧ s.Adds [] s') s := by
  have told : s.Adds [] (s.note (.told uploaded total)) :=
    ⟨.note s rfl rfl rfl, fun m => by simp [Report.total]⟩
  have h' : I (s.note (.told uploaded total)) := hI _ _ told.calls h
  refine ⟨h, fun failure => ?_⟩
  cases failure with
  | none => exact Job.keeps_pure h' ⟨rfl, told⟩
  | some f =>
    refine (keeps_say hI h').mono fun _ _ _ hq => ⟨hq.1, (told.trans hq.2).congr ?_⟩
    intro m
    simp [Report.total, Report.warn]

theorem keeps_reportPart {p : Parts} {session : Session} {part : Nat} {answer : Outcome ByteArray}
    (h : AtPhase saveAs content plan s) :
    (reportPart p session part answer).Keeps (AtPhase saveAs content plan)
      (fun result s' => result = some (.ok ()) ∧ s.Adds (partCounts p part answer) s') s := by
  cases answer with
  | error f =>
    refine (keeps_say heedless_atPhase h).mono fun _ _ _ hq => ⟨hq.1, hq.2.congr fun m => ?_⟩
    simp [partCounts, Report.total, Report.warn]
  | ok body =>
    refine Job.Keeps.bind ((keeps_say heedless_atPhase h).mono ?_)
    rintro _ s₁ h₁ ⟨rfl, hs₁⟩
    refine Job.Keeps.bind ((keeps_say heedless_atPhase h₁).mono ?_)
    rintro _ s₂ h₂ ⟨rfl, hs₂⟩
    exact (keeps_tell heedless_atPhase h₂).mono fun _ _ _ hq => ⟨hq.1, hs₁.trans (hs₂.trans hq.2)⟩

/-- A session knows a failure exactly if one of the settled parts was not stored. -/
def Knows (session : Session) (settled : List (Nat × Arrival)) : Prop :=
  session.failures.isEmpty = settled.all fun x => isStored x.2

theorem isStored_eq (a : Arrival) :
    isStored a = match Exchange.answer a.outcome with
      | .ok _ => true
      | .error _ => false := by
  unfold isStored Exchange.answer Exchange.failure?
  cases a.outcome with
  | error f => rfl
  | ok r => cases h : r.isSuccess <;> simp [h]

theorem Knows.settle {session : Session} (h : Knows session settled) (p : Parts) (part : Nat)
    (b : Arrival) :
    Knows (Upload.settled p session part (Exchange.answer b.outcome)) (settled ++ [(part, b)]) := by
  unfold Knows at h ⊢
  rw [List.all_append, ← h, List.all_cons, List.all_nil, isStored_eq]
  cases Exchange.answer b.outcome with
  | error f => simp [Upload.settled]
  | ok body => simp [Upload.settled]

theorem sessionOf_append_singleton (p : Parts) (name : String) (settled : List (Nat × Arrival))
    (part : Nat) (b : Arrival) : sessionOf p name (settled ++ [(part, b)]) =
      Upload.settled p (sessionOf p name settled) part (Exchange.answer b.outcome) := by
  simp [sessionOf]

theorem sessionCounts_append_singleton (p : Parts) (settled : List (Nat × Arrival)) (part : Nat)
    (b : Arrival) : sessionCounts p (settled ++ [(part, b)]) =
      sessionCounts p settled ++ partCounts p part (Exchange.answer b.outcome) := by
  simp [sessionCounts]

theorem knows_sessionOf (p : Parts) (name : String) (settled : List (Nat × Arrival)) :
    Knows (sessionOf p name settled) settled := by
  induction settled using List.reverseRecOn with
  | nil => rfl
  | append_singleton settled x ih =>
    rw [sessionOf_append_singleton]
    exact ih.settle p x.1 x.2

theorem keeps_settleAll (ha : opened saveAs a = .ok t) {unsettled : Nat} {pending : List Nat}
    (h : Sending saveAs content plan a t asked settled s)
    (counted : s.Counts (sessionCounts (partsOf saveAs content plan t) settled))
    (hp : pending = (partNumbers content plan.chunkSize).drop asked)
    (count : unsettled = s.underWay.length + pending.length)
    (busy : s.underWay = [] → pending = []) :
    (settleAll (partsOf saveAs content plan t) unsettled pending
        (sessionOf (partsOf saveAs content plan t) t.name settled)).Keeps
      (AtPhase saveAs content plan)
      (fun result s' => ∃ asked settled,
        result = some (.ok (sessionOf (partsOf saveAs content plan t) t.name settled)) ∧
        Sending saveAs content plan a t asked settled s' ∧
        s'.Counts (sessionCounts (partsOf saveAs content plan t) settled) ∧
        (partNumbers content plan.chunkSize).drop asked = [] ∧ s'.underWay = []) s := by
  -- what is under way and what is pending are the parts that have not settled; each that settles
  -- makes room for the next pending one
  induction unsettled generalizing pending asked settled s with
  | zero =>
    have idle : s.underWay = [] := List.length_eq_zero_iff.mp (by omega)
    have none_left : pending = [] := List.length_eq_zero_iff.mp (by omega)
    exact Job.keeps_pure (h.atPhase ha)
      ⟨asked, settled, rfl, h, counted, hp ▸ none_left, idle⟩
  | succ unsettled ih =>
    refine ⟨h.atPhase ha, ?_, fun moves k b hk => ?_⟩
    · intro idle
      simp [idle, busy idle] at count
    have landed := h.land moves hk b
    refine Job.Keeps.bind (Job.Keeps.attempt ?_)
    refine (Job.keeps_settle heedless_atPhase (landed.atPhase ha)).mono ?_
    rintro _ s₁ - ⟨rfl, hs₁⟩
    have at₁ := landed.congr hs₁.calls
    refine Job.Keeps.bind (Job.Keeps.attempt ((keeps_reportPart (at₁.atPhase ha)).mono ?_))
    rintro _ s₂ - ⟨rfl, hs₂⟩
    have at₂ := at₁.congr hs₂.calls
    have counted₂ := ((counted.land moves k b).alike hs₁).adds hs₂
    rw [← sessionCounts_append_singleton] at counted₂
    have fewer : s₂.underWay.length + 1 = s.underWay.length := by
      have := List.length_pos_of_mem hk
      rw [hs₂.calls.underWay, hs₁.calls.underWay, Scene.underWay_land, Scene.underWay_stir,
        List.length_erase_of_mem hk]
      omega
    have one : (pending.take 1).length ≤ 1 := by simp
    refine Job.Keeps.bind (Job.Keeps.attempt ((keeps_launchAll ha at₂ counted₂ ?_ ?_).mono ?_))
    · rw [← hp]
      exact List.take_prefix 1 pending
    · have := h.width
      omega
    rintro _ s₃ - ⟨rfl, at₃, counted₃, hw⟩
    have left : (pending.drop 1).length = pending.length - (pending.take 1).length := by
      simp only [List.length_drop, List.length_take]
      omega
    have some_of : pending.length = 0 ∨ (pending.take 1).length = 1 := by
      simp only [List.length_take]
      omega
    rw [← sessionOf_append_singleton]
    refine ih at₃ counted₃ ?_ ?_ ?_
    · rw [← List.drop_drop, ← hp]
      simp only [List.length_take]
      cases pending <;> simp
    · have : (pending.take 1).length ≤ pending.length := by simp
      omega
    · intro idle
      have := List.length_eq_zero_iff.mpr idle
      refine List.length_eq_zero_iff.mp ?_
      omega

def HasVerdict (saveAs : String) (content : ByteArray) (plan : UploadPlan)
    (result : Option (Outcome UploadResult)) (s : Scene) : Prop :=
  ∃ r, result = some r ∧ Verdict saveAs content plan s.sent s.arrived r ∧ s.underWay = []

def HasAccount (saveAs : String) (content : ByteArray) (plan : UploadPlan)
    (result : Option (Outcome UploadResult)) (s : Scene) : Prop :=
  ∃ r counts, result = some r ∧ Account saveAs content plan s.launched s.arrived r counts ∧
    s.Counts counts ∧ s.underWay = []

theorem ending_of_error {p : Parts} {session : Session} {b : Arrival} {f : Failure}
    (h : Exchange.answer b.outcome = .error f) : ending p session b = .error f := by
  unfold ending
  split
  · rw [Exchange.answerAs_of_error h]
    rfl
  · rw [h]
    rfl

theorem HasAccount.hasVerdict {result : Option (Outcome UploadResult)} {s : Scene}
    (h : HasAccount saveAs content plan result s) : HasVerdict saveAs content plan result s := by
  obtain ⟨r, counts, hr, account, -, idle⟩ := h
  refine ⟨r, hr, ?_, idle⟩
  rw [Scene.sent_eq_map_launched]
  generalize s.launched = launched at account
  generalize s.arrived = arrived at account
  cases account with
  | refused a f ha => exact .refused a f ha
  | ended a t ha settled b result each comes =>
    simpa [Function.comp_def] using
      Verdict.ended a t ha settled b r each fun f hf => comes.trans (ending_of_error hf)

theorem Sending.each_of_all (h : Sending saveAs content plan a t asked settled s)
    (all : (partNumbers content plan.chunkSize).drop asked = []) (idle : s.underWay = []) :
    (settled.map Prod.fst).Perm (partNumbers content plan.chunkSize) := by
  have := h.each
  rwa [idle, List.append_nil, List.take_of_length_le (List.drop_eq_nil_iff.mp all)] at this

theorem Sending.launched_of_all (h : Sending saveAs content plan a t asked settled s)
    (all : (partNumbers content plan.chunkSize).drop asked = []) :
    s.launched = (0, openCall saveAs) :: (partNumbers content plan.chunkSize).map fun part =>
      (part, (partsOf saveAs content plan t).call part) := by
  rw [h.launched, List.take_of_length_le (List.drop_eq_nil_iff.mp all)]

/-- When no part is left, the call that ends the session takes the upload through its last phases. -/
theorem Sending.end (h : Sending saveAs content plan a t asked settled s)
    (ha : opened saveAs a = .ok t) (all : (partNumbers content plan.chunkSize).drop asked = [])
    (idle : s.underWay = []) :
    let p := partsOf saveAs content plan t
    let launched := s.launch 0 (endCall p settled)
    AtPhase saveAs content plan launched ∧ ∀ moves b,
      AtPhase saveAs content plan ((launched.stir moves).land 0 b) ∧
      ∀ r s', ((launched.stir moves).land 0 b).SameCalls s' →
        r = ending p (sessionOf p t.name settled) b →
        s'.Counts (sessionCounts p settled ++ endCounts r) →
        HasAccount saveAs content plan (some r) s' := by
  have each := h.each_of_all all idle
  have launched := h.launched_of_all all
  have sent : s.sent = openCall saveAs :: (partNumbers content plan.chunkSize).map
      (partsOf saveAs content plan t).call := by
    rw [Scene.sent_eq_map_launched, launched]
    simp [Function.comp_def]
  refine ⟨?_, fun moves b => ⟨?_, fun r s' hs' hr counted => ⟨r, _, rfl, ?_, counted, ?_⟩⟩⟩
  · simpa [AtPhase, sent, h.arrived, idle] using Phase.ending a t ha settled each
  · simpa [AtPhase, sent, h.arrived, idle] using Phase.ended a t ha settled b each
  · simpa [hs'.launched, hs'.arrived, launched, h.arrived] using
      Account.ended a t ha settled b r each hr
  · simp [hs'.underWay, idle]

theorem keeps_reports {α : Type} {s : Scene} (r r' : Report) (x : α)
    (h : AtPhase saveAs content plan s) :
    (do Job.say r; Job.say r'; return x : Job α).Keeps (AtPhase saveAs content plan)
      (fun result s' => result = some (.ok x) ∧ s.Adds [r, r'] s') s := by
  refine Job.Keeps.bind ((keeps_say heedless_atPhase h).mono ?_)
  rintro _ s₁ h₁ ⟨rfl, hs₁⟩
  refine Job.Keeps.bind ((keeps_say heedless_atPhase h₁).mono ?_)
  rintro _ s₂ h₂ ⟨rfl, hs₂⟩
  exact ⟨h₂, rfl, hs₁.trans hs₂⟩

theorem keeps_conclude (ha : opened saveAs a = .ok t)
    (h : Sending saveAs content plan a t asked settled s)
    (counted : s.Counts (sessionCounts (partsOf saveAs content plan t) settled))
    (all : (partNumbers content plan.chunkSize).drop asked = []) (idle : s.underWay = []) :
    (conclude (partsOf saveAs content plan t)
        (sessionOf (partsOf saveAs content plan t) t.name settled)).Keeps
      (AtPhase saveAs content plan) (HasAccount saveAs content plan) s := by
  obtain ⟨launched, landed⟩ := h.end ha all idle
  have knows := knows_sessionOf (partsOf saveAs content plan t) t.name settled
  unfold conclude
  simp only [(Sorting.sorted_perm _ (sessionOf _ _ _).failures).isEmpty_eq]
  split
  case isTrue stored =>
    rw [endCall, if_pos (knows ▸ stored)] at launched landed
    refine Job.Keeps.bind ((Job.keeps_exchangeAs heedless_atPhase idle (h.atPhase ha) launched
      fun moves b => (landed moves b).1).mono ?_)
    rintro _ s₁ h₁ ⟨b, rfl, moves, hs₁⟩
    have counted₁ := ((counted.launch _ _).land moves 0 b).alike hs₁
    cases hb : Exchange.answerAs FileInfo.decode
        (commitCall (partsOf saveAs content plan t).saveAs (partsOf saveAs content plan t).uploadId)
        b.outcome with
    | error f =>
      refine (landed moves b).2 _ _ hs₁.calls ?_ ?_
      · rw [ending, if_pos stored, hb]
        rfl
      · simpa [endCounts] using counted₁
    | ok info =>
      refine (keeps_reports _ _ _ h₁).mono ?_
      rintro _ s₂ - ⟨rfl, hs₂⟩
      refine (landed moves b).2 _ _ (hs₁.calls.trans hs₂.calls) ?_ (counted₁.adds (hs₂.congr ?_))
      · rw [ending, if_pos stored, hb]
        rfl
      · simp [endCounts, Report.total, Report.info]
  case isFalse failed =>
    rw [endCall, if_neg (knows ▸ failed)] at launched landed
    refine Job.Keeps.bind ((Job.keeps_exchange heedless_atPhase idle (h.atPhase ha) launched
      fun moves b => (landed moves b).1).mono ?_)
    rintro _ s₁ h₁ ⟨b, rfl, moves, hs₁⟩
    have counted₁ := ((counted.launch _ _).land moves 0 b).alike hs₁
    cases hb : Exchange.answer b.outcome with
    | error f =>
      refine (landed moves b).2 _ _ hs₁.calls (ending_of_error hb).symm ?_
      simpa [endCounts] using counted₁
    | ok body =>
      refine (keeps_reports _ _ _ h₁).mono ?_
      rintro _ s₂ - ⟨rfl, hs₂⟩
      refine (landed moves b).2 _ _ (hs₁.calls.trans hs₂.calls) ?_ (counted₁.adds (hs₂.congr ?_))
      · rw [ending, if_neg failed, hb]
        rfl
      · simp [endCounts, Report.total, Report.warn]

theorem keeps_parts (ha : opened saveAs a = .ok t) (h : Sending saveAs content plan a t 0 [] s)
    (counted : s.Counts []) (idle : s.underWay = []) :
    let p := partsOf saveAs content plan t
    let width := min plan.concurrency p.count
    (launchAll p (p.numbers.take width) >>= fun _ =>
      settleAll p p.count (p.numbers.drop width) ⟨p.uploadId, t.name, [], [], 0⟩ >>=
        conclude p).Keeps
      (AtPhase saveAs content plan) (HasAccount saveAs content plan) s := by
  intro p width
  have numbers : p.numbers = partNumbers content plan.chunkSize := numbers_eq p
  have count : p.count = content.size ⌈/⌉ plan.chunkSize := Chunks.count_eq _ _
  have many : p.numbers.length = p.count := by simp [Parts.numbers]
  have within : width ≤ p.count := Nat.min_le_right ..
  have wide : (p.numbers.take width).length = width := by
    rw [List.length_take, many]
    exact Nat.min_eq_left within
  refine Job.Keeps.bind ((keeps_launchAll ha h counted ?_ ?_).mono ?_)
  · rw [numbers]
    exact List.take_prefix _ _
  · rw [idle, wide, List.length_nil, Nat.zero_add, ← count]
  rintro _ s₁ - ⟨rfl, at₁, counted₁, hw⟩
  rw [idle, List.length_nil, Nat.zero_add, wide] at hw
  rw [Nat.zero_add, wide] at at₁
  refine Job.Keeps.bind ((keeps_settleAll ha at₁ counted₁ ?_ ?_ ?_).mono ?_)
  · rw [numbers]
  · rw [List.length_drop, many, hw]
    omega
  · intro idle'
    rw [idle', List.length_nil] at hw
    have := plan.concurrency_pos
    rw [List.drop_eq_nil_iff, many]
    omega
  · rintro _ s₂ - ⟨asked, settled, rfl, at₂, counted₂, all, idle₂⟩
    exact keeps_conclude ha at₂ counted₂ all idle₂

/-- Whatever happens to an upload in parts, it is at one of its phases, and leaves an account. -/
theorem keeps_chunked_account (saveAs : String) (content : ByteArray) (plan : UploadPlan)
    (desk : Desk) :
    (chunked saveAs content plan).Keeps (AtPhase saveAs content plan)
      (HasAccount saveAs content plan) ⟨[], desk, []⟩ := by
  have quiet : AtPhase saveAs content plan ⟨[], desk, []⟩ := .silent
  have none_counted : Scene.Counts ⟨[], desk, []⟩ [] := fun _ _ _ => rfl
  have launched : AtPhase saveAs content plan
      ((⟨[], desk, []⟩ : Scene).launch 0 (openCall saveAs)) := .opening
  have answered (moves : List Desk.Move) (a : Arrival) : AtPhase saveAs content plan
      ((((⟨[], desk, []⟩ : Scene).launch 0 (openCall saveAs)).stir moves).land 0 a) := by
    cases ha : opened saveAs a with
    | error f => exact .refused a f ha
    | ok t => exact .sending a t ha 0 [] [] (.refl _) (Nat.zero_le _)
  refine Job.Keeps.bind
    ((Job.keeps_exchangeAs heedless_atPhase rfl quiet launched answered).mono ?_)
  rintro _ s₁ - ⟨a, rfl, moves, hs₁⟩
  have counted₁ := ((none_counted.launch _ _).land moves 0 a).alike hs₁
  have calls := hs₁.calls
  cases ha : Exchange.answerAs UploadTicket.decode (openCall saveAs) a.outcome with
  | error f =>
    refine ⟨_, [], rfl, ?_, counted₁, calls.underWay⟩
    rw [calls.launched, calls.arrived]
    exact .refused a f ha
  | ok t =>
    have idle₁ : s₁.underWay = [] := calls.underWay
    have at₁ : Sending saveAs content plan a t 0 [] s₁ :=
      ⟨calls.launched, calls.arrived, by simp [idle₁], by simp [idle₁]⟩
    refine Job.Keeps.bind ((keeps_say heedless_atPhase (at₁.atPhase ha)).mono ?_)
    rintro _ s₂ - ⟨rfl, hs₂⟩
    have counted₂ : s₂.Counts [] := counted₁.adds (hs₂.congr fun m => by
      simp [Report.total, Report.info])
    exact keeps_parts ha (at₁.congr hs₂.calls) counted₂ (hs₂.calls.underWay.trans idle₁)

/-- Whatever happens to an upload in parts, it is at one of its phases, and ends with a verdict. -/
theorem keeps_chunked (saveAs : String) (content : ByteArray) (plan : UploadPlan) (desk : Desk) :
    (chunked saveAs content plan).Keeps (AtPhase saveAs content plan)
      (HasVerdict saveAs content plan) ⟨[], desk, []⟩ :=
  (keeps_chunked_account saveAs content plan desk).mono fun _ _ _ h => h.hasVerdict

end Depot.Drive.Upload

namespace Depot.Drive
open Upload

theorem concurrency_eq_ok {o : UploadOptions} {n : Nat} (positive : 0 < n)
    (wide : o.concurrency.elim (some 1) Number.natural? = some n) :
    o.concurrencyOrDefault = .ok ⟨n, positive⟩ := by
  unfold UploadOptions.concurrencyOrDefault
  cases ho : o.concurrency with
  | none =>
    rw [ho] at wide
    simp only [Option.elim_none, Option.some.injEq] at wide
    simp only [wide]
  | some x =>
    rw [ho] at wide
    simp only [Option.elim_some] at wide
    simp only [wide]
    exact dif_pos positive

theorem chunkSize_eq_ok {o : UploadOptions} {n : Nat} (positive : 0 < n) (small : n ≤ maxChunkSize)
    (sized : o.chunkSize.elim (some maxChunkSize) Number.natural? = some n) :
    o.chunkSizeOrDefault = .ok ⟨n, positive, small⟩ := by
  unfold UploadOptions.chunkSizeOrDefault
  cases ho : o.chunkSize with
  | none =>
    rw [ho] at sized
    simp only [Option.elim_none, Option.some.injEq] at sized
    simp only [sized]
  | some x =>
    rw [ho] at sized
    simp only [Option.elim_some] at sized
    simp only [sized]
    exact dif_pos ⟨positive, small⟩

theorem plan_eq_ok {o : UploadOptions} {saveAs : String} {plan : UploadPlan} (named : saveAs ≠ "")
    (small : plan.chunkSize ≤ maxChunkSize)
    (sized : o.chunkSize.elim (some maxChunkSize) Number.natural? = some plan.chunkSize)
    (wide : o.concurrency.elim (some 1) Number.natural? = some plan.concurrency) :
    o.plan saveAs = .ok plan := by
  have size := chunkSize_eq_ok plan.chunkSize_pos small sized
  have width := concurrency_eq_ok plan.concurrency_pos wide
  have full : saveAs.isEmpty = false := by
    rw [← Bool.not_eq_true, String.isEmpty_iff]
    exact named
  rw [UploadOptions.plan, size, width, full]
  rfl

/-- The turns of an upload whose second part settles first and is not stored. -/
def secondPartFails : List Turn :=
  [.serve, .serve,
    .answer [] 0 ⟨.ok ⟨200.0, "", [], "\x7B\"upload_id\":\"u\",\"name\":\"f\"\x7D".toUTF8⟩, 0.0⟩,
    .serve, .serve, .serve, .serve, .serve, .serve, .serve,
    .answer [] 2 ⟨.error (.transport "down" none), 0.0⟩, .serve, .serve, .serve,
    .answer [] 1 ⟨.ok ⟨200.0, "", [], ByteArray.empty⟩, 0.0⟩, .serve, .serve, .serve, .serve,
    .hear none, .serve, .serve]

end Depot.Drive
