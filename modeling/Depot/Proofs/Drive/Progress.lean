import Mathlib.Algebra.Order.BigOperators.Group.List
import Depot.Proofs.Drive.Integrity
import Depot.Proofs.Drive.Listeners
import Depot.Proofs.World.Courses
/-!
# What the caller of an upload is told

Whenever a part is stored the caller is told how much is stored then, once and before anything
else arrives, in whatever order the parts settle. The caller has no say in what becomes of the
upload.
-/
namespace Depot

namespace Chunks

theorem size_join (chunks : List ByteArray) :
    (join chunks).size = (chunks.map ByteArray.size).sum := by
  induction chunks using List.reverseRecOn with
  | nil => rfl
  | append_singleton chunks b ih =>
    rw [join_append_singleton, ByteArray.size_append, ih, List.map_append, List.sum_append,
      List.map_singleton, List.sum_singleton]

end Chunks

namespace Drive
namespace Upload

theorem keeps_tell_told {I : Scene → Prop} {s : Scene} {uploaded total : Nat} (deaf : Scene.Deaf I)
    (h : I s) (h' : I (s.note (.told uploaded total))) :
    (tell uploaded total).Keeps I (fun result s' => result = some (.ok ()) ∧
      s'.told = s.told ++ [(uploaded, total)] ∧ s'.arrived = s.arrived ∧
        s'.underWay = s.underWay) s := by
  refine ⟨h, fun failure => ?_⟩
  cases failure with
  | none => exact Job.keeps_pure h' ⟨rfl, by simp, by simp, rfl⟩
  | some f => exact ⟨h', deaf _ _ h', rfl, by simp, by simp, rfl⟩

/-! ### Amounts -/

/-- The amounts, with the total that they are of, when pieces of these sizes are stored one after
another. -/
def tellings (total : Nat) (sizes : List Nat) : List (Nat × Nat) :=
  (List.range sizes.length).map fun i => ((sizes.take (i + 1)).sum, total)

section Amounts
variable {total : Nat} {sizes : List Nat}

theorem tellings_concat (total : Nat) (sizes : List Nat) (n : Nat) :
    tellings total (sizes ++ [n]) = tellings total sizes ++ [((sizes ++ [n]).sum, total)] := by
  have before : ∀ i ∈ List.range sizes.length,
      ((sizes ++ [n]).take (i + 1)).sum = (sizes.take (i + 1)).sum := by
    intro i hi
    rw [List.take_append_of_le_length (List.mem_range.mp hi)]
  have all : (sizes ++ [n]).take (sizes.length + 1) = sizes ++ [n] :=
    List.take_of_length_le (by simp)
  rw [tellings, List.length_append, List.length_singleton, List.range_succ, List.map_append,
    List.map_singleton, all, tellings]
  congr 1
  apply List.map_congr_left
  intro i hi
  rw [before i hi]

theorem length_tellings : (tellings total sizes).length = sizes.length := by simp [tellings]

theorem of_mem_tellings {x : Nat × Nat} (h : x ∈ tellings total sizes) :
    x.1 ≤ sizes.sum ∧ x.2 = total := by
  induction sizes using List.reverseRecOn with
  | nil => cases h
  | append_singleton sizes n ih =>
    rw [tellings_concat, List.mem_append, List.mem_singleton] at h
    rcases h with h | rfl
    · obtain ⟨le, same⟩ := ih h
      exact ⟨by rw [List.sum_append]; omega, same⟩
    · exact ⟨le_rfl, rfl⟩

/-- What is told grows with each piece that is not empty. -/
theorem tellings_increasing (positive : ∀ n ∈ sizes, 0 < n) :
    (tellings total sizes).Pairwise (·.1 < ·.1) := by
  induction sizes using List.reverseRecOn with
  | nil => exact .nil
  | append_singleton sizes n ih =>
    have last := positive n (by simp)
    rw [tellings_concat, List.pairwise_append]
    refine ⟨ih fun m hm => positive m (by simp [hm]), List.pairwise_singleton _ _, ?_⟩
    intro x hx y hy
    have le := (of_mem_tellings hx).1
    rw [List.mem_singleton.mp hy, List.sum_append, List.sum_singleton]
    omega

theorem sum_mem_tellings (some_piece : sizes ≠ []) : (sizes.sum, total) ∈ tellings total sizes := by
  obtain ⟨before, n, rfl⟩ := List.eq_nil_or_concat' sizes |>.resolve_left some_piece
  rw [tellings_concat]
  exact List.mem_append_right _ (List.mem_singleton_self _)

end Amounts

/-! ### Telling as it arrives -/

section Pace
variable (gain : Nat × Arrival → Option Nat) (total : Nat)

/-- The caller has been told of all that has arrived, where `gain` is how much an answer has
stored. -/
def UpToDate (s : Scene) : Prop := s.told = tellings total (s.arrived.filterMap gain)

/-- The caller has been told of all but the last that is stored. -/
def Owes (s : Scene) : Prop :=
  s.told ++ [((s.arrived.filterMap gain).sum, total)] = tellings total (s.arrived.filterMap gain)

def Paced (s : Scene) : Prop := UpToDate gain total s ∨ Owes gain total s

end Pace

section Pace
variable {gain : Nat × Arrival → Option Nat} {total : Nat} {s s' : Scene}

theorem UpToDate.paced (h : UpToDate gain total s) : Paced gain total s := .inl h

theorem Owes.paced (h : Owes gain total s) : Paced gain total s := .inr h

theorem UpToDate.congr (h : UpToDate gain total s) (told : s'.told = s.told)
    (arrived : s'.arrived = s.arrived) : UpToDate gain total s' := by
  rw [UpToDate, told, arrived]
  exact h

theorem Owes.congr (h : Owes gain total s) (told : s'.told = s.told)
    (arrived : s'.arrived = s.arrived) : Owes gain total s' := by
  rw [Owes, told, arrived]
  exact h

theorem deaf_paced : Scene.Deaf (Paced gain total) := fun _ _ h =>
  h.elim (fun h => (h.congr (by simp) (by simp)).paced) fun h => (h.congr (by simp) (by simp)).paced

theorem UpToDate.heard (h : UpToDate gain total s) (rs : List Report) :
    UpToDate gain total (s.heard rs) := h.congr (by simp) (by simp)

theorem Owes.heard (h : Owes gain total s) (rs : List Report) : Owes gain total (s.heard rs) :=
  h.congr (by simp) (by simp)

theorem UpToDate.launch (h : UpToDate gain total s) (k : Nat) (c : Call) :
    UpToDate gain total (s.launch k c) := h.congr (by simp) (by simp)

theorem UpToDate.land (h : UpToDate gain total s) (moves : List Desk.Move) {k : Nat} {a : Arrival}
    (nothing : gain (k, a) = none) : UpToDate gain total ((s.stir moves).land k a) := by
  simpa [UpToDate, nothing] using h

theorem UpToDate.owes (h : UpToDate gain total s) (moves : List Desk.Move) {k n : Nat} {a : Arrival}
    (stored : gain (k, a) = some n) : Owes gain total ((s.stir moves).land k a) := by
  rw [UpToDate] at h
  simp [Owes, stored, h, tellings_concat]

theorem Owes.tell {uploaded : Nat} (h : Owes gain total s)
    (sum : uploaded = (s.arrived.filterMap gain).sum) :
    UpToDate gain total (s.note (.told uploaded total)) := by
  rw [Owes] at h
  simp [UpToDate, ← h, sum]

/-- At all times what was told is the front of what there is to tell, and at most one piece
behind. -/
theorem Paced.prefix (h : Paced gain total s) :
    s.told <+: tellings total (s.arrived.filterMap gain) ∧
      (s.arrived.filterMap gain).length ≤ s.told.length + 1 := by
  rcases h with h | h
  · rw [UpToDate] at h
    rw [h, length_tellings]
    exact ⟨List.prefix_rfl, Nat.le_succ _⟩
  · rw [Owes] at h
    have count := congrArg List.length h
    rw [length_tellings, List.length_append, List.length_singleton] at count
    exact ⟨⟨_, h⟩, count.ge⟩

theorem keeps_tell_paced {uploaded : Nat} (h : Owes gain total s)
    (sum : uploaded = (s.arrived.filterMap gain).sum) :
    (tell uploaded total).Keeps (Paced gain total) (fun result s' => result = some (.ok ()) ∧
      UpToDate gain total s' ∧ s'.arrived = s.arrived ∧ s'.underWay = s.underWay) s := by
  have told := h.tell sum
  refine (keeps_tell_told deaf_paced h.paced told.paced).mono ?_
  rintro _ s' - ⟨rfl, told', arrived, underWay⟩
  exact ⟨rfl, told.congr (by simpa using told') (by simpa using arrived), arrived, underWay⟩

end Pace

/-! ### Uploads in parts -/

section Parts
variable {content : ByteArray} {p : Parts} {s : Scene}

/-- The parts that are stored, in the order in which they have settled. -/
def partsStored (arrived : List (Nat × Arrival)) : List Nat :=
  (arrived.filter fun x => x.1 ≠ 0 && isStored x.2).map Prod.fst

/-- How much of the content an answer has stored. -/
def partGain (content : ByteArray) (size : Nat) (x : Nat × Arrival) : Option Nat :=
  if x.1 ≠ 0 && isStored x.2 then some (piece content size x.1).size else none

theorem filterMap_partGain (content : ByteArray) (size : Nat) (arrived : List (Nat × Arrival)) :
    arrived.filterMap (partGain content size) =
      (partsStored arrived).map fun part => (piece content size part).size := by
  induction arrived with
  | nil => rfl
  | cons x rest ih =>
    rw [partsStored, List.filter_cons, List.filterMap_cons, partGain]
    by_cases stored : (x.1 ≠ 0 && isStored x.2) = true
    · rw [if_pos stored, if_pos stored, ih]
      rfl
    · rw [if_neg stored, if_neg stored, ih]
      rfl

theorem partGain_zero (size : Nat) (a : Arrival) : partGain content size (0, a) = none := rfl

theorem partGain_of_ok {size part : Nat} {b : Arrival} {body : ByteArray} (named : part ≠ 0)
    (h : Exchange.answer b.outcome = .ok body) :
    partGain content size (part, b) = some (Chunks.chunk content size (part - 1)).size := by
  rw [chunk_eq_piece (Nat.pos_of_ne_zero named)]
  simp [partGain, isStored_eq, h, named]

theorem partGain_of_error {size part : Nat} {b : Arrival} {f : Failure}
    (h : Exchange.answer b.outcome = .error f) : partGain content size (part, b) = none := by
  simp [partGain, isStored_eq, h]

/-- The bytes of a session are the parts that are stored. -/
def Holds (p : Parts) (session : Session) (s : Scene) : Prop :=
  session.uploadedBytes = (s.arrived.filterMap (partGain p.content p.chunkSize)).sum

theorem Holds.congr {session : Session} {s' : Scene} (h : Holds p session s)
    (arrived : s'.arrived = s.arrived) : Holds p session s' := by
  rw [Holds, arrived]
  exact h

theorem Holds.land {session : Session} {part : Nat} (h : Holds p session s)
    (moves : List Desk.Move) (named : part ≠ 0) (b : Arrival) :
    Holds p (settled p session part (Exchange.answer b.outcome))
      ((s.stir moves).land part b) := by
  rw [Holds] at h
  cases answer : Exchange.answer b.outcome with
  | error f => simp [Holds, settled, partGain_of_error answer, h]
  | ok body => simp [Holds, settled, partGain_of_ok named answer, h, Parts.chunk]

/-- The caller of an upload in parts is told at once. -/
abbrev PacedParts (p : Parts) : Scene → Prop :=
  Paced (partGain p.content p.chunkSize) p.content.size

abbrev ToldParts (p : Parts) : Scene → Prop :=
  UpToDate (partGain p.content p.chunkSize) p.content.size

theorem keeps_reportPart_paced {session : Session} {part : Nat} {answer : Outcome ByteArray}
    (holds : Holds p session s) (failed : ∀ f, answer = .error f → ToldParts p s)
    (stored : ∀ body, answer = .ok body →
      Owes (partGain p.content p.chunkSize) p.content.size s) :
    (reportPart p session part answer).Keeps (PacedParts p) (fun result s' =>
      result = some (.ok ()) ∧ ToldParts p s' ∧ s'.arrived = s.arrived ∧
        s'.underWay = s.underWay) s := by
  cases answer with
  | error f =>
    have told := failed f rfl
    exact ⟨told.paced, (told.heard [_]).paced, rfl, told.heard [_], by simp, by simp⟩
  | ok body =>
    have owes := stored body rfl
    have owes_later := owes.heard
      [.tick .uploadParts [], .count .uploadBytes (p.chunk part).size []]
    refine Job.Keeps.bind ((Job.keeps_sayAll_heard [_] deaf_paced owes.paced).mono ?_)
    rintro _ _ h₁ ⟨rfl, rfl⟩
    refine Job.Keeps.bind ((Job.keeps_sayAll_heard [_] deaf_paced h₁).mono ?_)
    rintro _ _ h₂ ⟨rfl, rfl⟩
    rw [Scene.heard_heard]
    refine (keeps_tell_paced owes_later ?_).mono ?_
    · rw [Scene.arrived_heard]
      exact holds
    · rintro _ s' - ⟨rfl, told, arrived, underWay⟩
      exact ⟨rfl, told, by simpa using arrived, by simpa using underWay⟩

theorem keeps_launchAll_paced (parts : List Nat) (h : ToldParts p s) :
    (launchAll p parts).Keeps (PacedParts p) (fun result s' => result = some (.ok ()) ∧
      ToldParts p s' ∧ s'.arrived = s.arrived ∧ s'.underWay = s.underWay ++ parts) s := by
  induction parts generalizing s with
  | nil => exact Job.keeps_pure h.paced ⟨rfl, h, rfl, (List.append_nil _).symm⟩
  | cons part rest ih =>
    have launched := (h.heard [Exchange.sending (p.call part)]).launch part (p.call part)
    refine Job.Keeps.bind ((Job.keeps_send_heard deaf_paced h.paced launched.paced).mono ?_)
    rintro _ _ - ⟨rfl, rfl⟩
    refine (ih launched).mono ?_
    rintro _ s' - ⟨rfl, told, arrived, underWay⟩
    exact ⟨rfl, told, by simpa using arrived, by simpa using underWay⟩

theorem keeps_settleAll_paced {unsettled : Nat} {pending : List Nat} {session : Session}
    (h : ToldParts p s) (holds : Holds p session s)
    (count : unsettled = s.underWay.length + pending.length)
    (busy : s.underWay = [] → pending = [])
    (named : ∀ part ∈ s.underWay ++ pending, part ≠ 0) :
    (settleAll p unsettled pending session).Keeps (PacedParts p) (fun result s' =>
      ∃ session, result = some (.ok session) ∧ ToldParts p s' ∧ s'.underWay = []) s := by
  induction unsettled generalizing pending session s with
  | zero => exact Job.keeps_pure h.paced ⟨session, rfl, h, List.length_eq_zero_iff.mp (by omega)⟩
  | succ unsettled ih =>
    refine ⟨h.paced, ?_, fun moves part b hk => ?_⟩
    · intro idle
      simp [idle, busy idle] at count
    have own : part ≠ 0 := named part (List.mem_append_left _ hk)
    have holds₁ := holds.land moves own b
    have landed : PacedParts p ((s.stir moves).land part b) := by
      cases answer : Exchange.answer b.outcome with
      | error f => exact (h.land moves (partGain_of_error answer)).paced
      | ok body => exact (h.owes moves (partGain_of_ok own answer)).paced
    refine Job.Keeps.bind (Job.Keeps.attempt ?_)
    refine (Job.keeps_settle_heard (p.call part) b deaf_paced landed).mono ?_
    rintro _ _ - ⟨rfl, rfl⟩
    refine Job.Keeps.bind (Job.Keeps.attempt ?_)
    refine (keeps_reportPart_paced (holds₁.congr (by simp)) ?_ ?_).mono ?_
    · exact fun f answer => (h.land moves (partGain_of_error answer)).heard _
    · exact fun body answer => (h.owes moves (partGain_of_ok own answer)).heard _
    rintro _ s₂ - ⟨rfl, told₂, arrived₂, underWay₂⟩
    refine Job.Keeps.bind (Job.Keeps.attempt ((keeps_launchAll_paced _ told₂).mono ?_))
    rintro _ s₃ - ⟨rfl, told₃, arrived₃, underWay₃⟩
    have left : s₃.underWay = s.underWay.erase part ++ pending.take 1 := by
      simpa [underWay₂] using underWay₃
    have fewer := List.length_erase_of_mem hk
    have some_left := List.length_pos_of_mem hk
    refine ih told₃ (holds₁.congr (by simp [arrived₃, arrived₂])) ?_ ?_ ?_
    · rw [left, List.length_append, List.length_take, List.length_drop]
      omega
    · intro idle
      have none_left := congrArg List.length (left.symm.trans idle)
      rw [List.length_append, List.length_take, List.length_nil] at none_left
      exact List.drop_eq_nil_iff.mpr (by omega)
    · intro k hk
      rw [left, List.append_assoc, List.take_append_drop] at hk
      refine named k (List.mem_append.mpr ?_)
      exact (List.mem_append.mp hk).imp_left List.mem_of_mem_erase

theorem keeps_reports_paced {α : Type} (r r' : Report) (x : α) (h : ToldParts p s) :
    (do Job.say r; Job.say r'; return x : Job α).Keeps (PacedParts p)
      (fun _ s' => ToldParts p s') s :=
  ⟨h.paced, (h.heard [r]).paced, ((h.heard [r]).heard [r']).paced, (h.heard [r]).heard [r']⟩

/-- A call under the ticket that no part has does not change what is to be told. -/
theorem UpToDate.exchange {size total : Nat} (h : UpToDate (partGain content size) total s)
    (c : Call) (moves : List Desk.Move) (a : Arrival) : UpToDate (partGain content size) total
      ((((s.heard [Exchange.sending c]).launch 0 c).stir moves).land 0 a) :=
  ((h.heard _).launch 0 c).land moves (partGain_zero size a)

theorem keeps_conclude_paced {session : Session} (h : ToldParts p s) (idle : s.underWay = []) :
    (conclude p session).Keeps (PacedParts p) (fun _ s' => ToldParts p s') s := by
  have launched (c : Call) : PacedParts p ((s.heard [Exchange.sending c]).launch 0 c) :=
    ((h.heard _).launch 0 c).paced
  have exchanged (c : Call) (moves : List Desk.Move) (a : Arrival) :
      ToldParts p (s.exchanged c moves a) := (h.exchange c moves a).heard _
  unfold conclude
  simp only
  split
  · refine Job.Keeps.bind ((Job.keeps_exchangeAs_exchanged deaf_paced idle h.paced (launched _)
      fun moves a => (h.exchange _ moves a).paced).mono ?_)
    rintro _ _ - ⟨moves, a, rfl, rfl⟩
    cases Exchange.answerAs FileInfo.decode (commitCall p.saveAs p.uploadId) a.outcome with
    | error f => exact exchanged _ moves a
    | ok info => exact keeps_reports_paced _ _ _ (exchanged _ moves a)
  · refine Job.Keeps.bind ((Job.keeps_exchange_exchanged deaf_paced idle h.paced (launched _)
      fun moves a => (h.exchange _ moves a).paced).mono ?_)
    rintro _ _ - ⟨moves, a, rfl, rfl⟩
    cases Exchange.answer a.outcome with
    | error f => exact exchanged _ moves a
    | ok body => exact keeps_reports_paced _ _ _ (exchanged _ moves a)

theorem keeps_parts_paced {width : Nat} {session : Session} (h : ToldParts p s)
    (holds : Holds p session s) (idle : s.underWay = []) (room : 0 < width) :
    (launchAll p (p.numbers.take (min width p.count)) >>= fun _ =>
      settleAll p p.count (p.numbers.drop (min width p.count)) session >>= conclude p).Keeps
      (PacedParts p) (fun _ s' => ToldParts p s') s := by
  have named : ∀ part ∈ p.numbers, part ≠ 0 := by
    intro part hp
    obtain ⟨i, -, rfl⟩ := List.mem_map.mp hp
    exact Nat.succ_ne_zero i
  have many : p.numbers.length = p.count := by simp [Parts.numbers]
  refine Job.Keeps.bind ((keeps_launchAll_paced _ h).mono ?_)
  rintro _ s₁ - ⟨rfl, told, arrived, sent⟩
  rw [idle, List.nil_append] at sent
  refine Job.Keeps.bind ((keeps_settleAll_paced told (holds.congr arrived) ?_ ?_ ?_).mono ?_)
  · rw [sent, List.length_take, List.length_drop, many]
    omega
  · intro none_sent
    have none_sent := congrArg List.length (sent.symm.trans none_sent)
    rw [List.length_take, List.length_nil, many] at none_sent
    exact List.drop_eq_nil_iff.mpr (by omega)
  · rw [sent, List.take_append_drop]
    exact named
  · rintro _ s₂ - ⟨session, rfl, told, idle⟩
    exact keeps_conclude_paced told idle

/-- The caller of an upload in parts is told of each part that is stored, before anything else
arrives. -/
theorem keeps_chunked_paced (saveAs : String) (content : ByteArray) (plan : UploadPlan)
    (desk : Desk) : (chunked saveAs content plan).Keeps
      (Paced (partGain content plan.chunkSize) content.size)
      (fun _ s => UpToDate (partGain content plan.chunkSize) content.size s) ⟨[], desk, []⟩ := by
  have quiet : UpToDate (partGain content plan.chunkSize) content.size ⟨[], desk, []⟩ := rfl
  refine Job.Keeps.bind ((Job.keeps_exchangeAs_exchanged deaf_paced rfl quiet.paced
    ((quiet.heard _).launch _ _).paced fun moves a => (quiet.exchange _ moves a).paced).mono ?_)
  rintro _ _ - ⟨moves, a, rfl, rfl⟩
  have exchanged := (quiet.exchange (openCall saveAs) moves a).heard
    (Exchange.settle (openCall saveAs) a.latencyMs a.outcome).2
  cases Exchange.answerAs UploadTicket.decode (openCall saveAs) a.outcome with
  | error f => exact exchanged
  | ok t =>
    refine Job.Keeps.bind ((Job.keeps_sayAll_heard [_] deaf_paced exchanged.paced).mono ?_)
    rintro _ _ - ⟨rfl, rfl⟩
    have none_arrived : (⟨[], desk, []⟩ : Scene).arrived = [] := rfl
    refine keeps_parts_paced (p := ⟨saveAs, t.uploadId, content, plan.chunkSize⟩)
      (exchanged.heard _) ?_ rfl plan.concurrency_pos
    simp [Holds, none_arrived, List.filterMap_cons, partGain_zero]

end Parts

/-! ### The parts that are stored -/

/-- The sizes of the parts that are stored, in the order in which they have settled. -/
def storedSizes (content : ByteArray) (size : Nat) (arrived : List (Nat × Arrival)) : List Nat :=
  (partsStored arrived).map fun part => (piece content size part).size

/-- Whether every part of the content is stored. -/
def AllStored (content : ByteArray) (size : Nat) (arrived : List (Nat × Arrival)) : Prop :=
  ∀ part ∈ partNumbers content size, ∃ a, (part, a) ∈ arrived ∧ isStored a = true

section Stored
variable {saveAs : String} {content : ByteArray} {plan : UploadPlan} {size : Nat}
  {arrived : List (Nat × Arrival)} {parts : List Nat}

theorem mem_partsStored {part : Nat} : part ∈ partsStored arrived ↔
    part ≠ 0 ∧ ∃ a, (part, a) ∈ arrived ∧ isStored a = true := by
  simp only [partsStored, List.mem_map, List.mem_filter, Bool.and_eq_true, decide_eq_true_eq]
  constructor
  · rintro ⟨⟨_, a⟩, ⟨mem, named, stored⟩, rfl⟩
    exact ⟨named, a, mem, stored⟩
  · rintro ⟨named, a, mem, stored⟩
    exact ⟨(part, a), ⟨mem, named, stored⟩, rfl⟩

theorem allStored_iff : AllStored content size arrived ↔
    partNumbers content size ⊆ partsStored arrived := by
  refine forall₂_congr fun part hp => ?_
  have named : part ≠ 0 := Nat.ne_of_gt (mem_partNumbers.mp hp).1
  rw [mem_partsStored, and_iff_right named]

theorem partsStored_sublist (settled : List (Nat × Arrival)) :
    (partsStored settled).Sublist (settled.map Prod.fst) := List.filter_sublist.map _

/-- At all times the stored parts are some of the parts, each once. -/
theorem AtPhase.stored_subperm {s : Scene} (h : AtPhase saveAs content plan s) :
    (partsStored s.arrived).Subperm (partNumbers content plan.chunkSize) := by
  unfold AtPhase at h
  generalize s.sent = sent, s.arrived = arrived, s.underWay = underWay at h
  have settling {settled : List (Nat × Arrival)}
      (each : (settled.map Prod.fst).Perm (partNumbers content plan.chunkSize)) :
      (partsStored settled).Subperm (partNumbers content plan.chunkSize) :=
    (partsStored_sublist settled).subperm.trans each.subperm
  cases h with
  | silent | opening | refused => exact List.nil_subperm
  | sending a t ha asked settled _ each width =>
    have some_sent := (List.sublist_append_left (settled.map Prod.fst) underWay).subperm
    exact (partsStored_sublist settled).subperm.trans
      ((some_sent.trans each.subperm).trans (List.take_sublist _ _).subperm)
  | ending a t ha settled each =>
    have some_parts := settling each
    exact some_parts
  | ended a t ha settled b each =>
    have same : partsStored ((0, a) :: settled ++ [(0, b)]) = partsStored settled := by
      simp [partsStored]
    exact same ▸ settling each

/-- The sizes of all parts make up the size of the content. -/
theorem sum_pieces (positive : 0 < size) (content : ByteArray) :
    ((partNumbers content size).map fun part => (piece content size part).size).sum =
      content.size := by
  have joined := congrArg ByteArray.size (pieces positive content).join
  rw [Chunks.size_join, List.map_map] at joined
  exact joined

theorem sum_le_of_subperm {f : Nat → Nat} {parts' : List Nat} (h : parts.Subperm parts') :
    (parts.map f).sum ≤ (parts'.map f).sum := by
  obtain ⟨some_parts, perm, sublist⟩ := h
  rw [← (perm.map f).sum_eq]
  exact (sublist.map f).sum_le_sum fun _ _ => Nat.zero_le _

/-- Some of the parts are as large as the content only if they are all. -/
theorem sum_eq_size_iff (positive : 0 < size)
    (some_parts : parts.Subperm (partNumbers content size)) :
    (parts.map fun part => (piece content size part).size).sum = content.size ↔
      partNumbers content size ⊆ parts := by
  have once : (partNumbers content size).Nodup := List.nodup_range'
  have most := sum_le_of_subperm (f := fun part => (piece content size part).size) some_parts
  rw [sum_pieces positive] at most
  constructor
  · intro all part hp
    by_contra missing
    have more := sum_le_of_subperm (f := fun part => (piece content size part).size)
      (List.cons_subperm_of_not_mem_of_mem missing hp some_parts)
    have byte := (pieces positive content).some_byte part hp
    rw [sum_pieces positive, List.map_cons, List.sum_cons] at more
    omega
  · intro all
    have least := sum_le_of_subperm (f := fun part => (piece content size part).size)
      (once.subperm all)
    rw [sum_pieces positive] at least
    omega

end Stored

/-! ### Uploads in one request -/

section Whole
variable {content : ByteArray} {s : Scene}

/-- At most the whole was told. -/
def ToldAtMost (content : ByteArray) (s : Scene) : Prop :=
  s.told <+: [(content.size, content.size)]

/-- The whole was told once if the upload comes to a result, and nothing if it fails. -/
def HasToldWhole (content : ByteArray) (result : Option (Outcome UploadResult)) (s : Scene) :
    Prop :=
  ∃ r, result = some r ∧ s.told = if r.isOk then [(content.size, content.size)] else []

theorem deaf_toldAtMost : Scene.Deaf (ToldAtMost content) := by
  intro s r h
  rw [ToldAtMost, Scene.told_note]
  simpa [ToldAtMost] using h

theorem toldAtMost_of_told {told : List (Nat × Nat)} (h : s.told = told)
    (few : told <+: [(content.size, content.size)]) : ToldAtMost content s := by
  rw [ToldAtMost, h]
  exact few

theorem keeps_single_told (saveAs : String) (content : ByteArray) (desk : Desk) :
    (single saveAs content).Keeps (ToldAtMost content) (HasToldWhole content) ⟨[], desk, []⟩ := by
  have begins : (⟨[], desk, []⟩ : Scene).told = [] := rfl
  have quiet {s : Scene} (h : s.told = []) : ToldAtMost content s :=
    toldAtMost_of_told h List.nil_prefix
  refine Job.Keeps.bind ((Job.keeps_exchangeAs_exchanged deaf_toldAtMost rfl (quiet begins)
    (quiet (by simp [begins])) fun moves a => quiet (by simp [begins])).mono ?_)
  rintro _ _ h₁ ⟨moves, a, rfl, rfl⟩
  cases Exchange.answerAs FileInfo.decode (fileCall saveAs content) a.outcome with
  | error f => exact ⟨_, rfl, by simp [begins, Except.isOk, Except.toBool]⟩
  | ok info =>
    refine Job.Keeps.bind ((Job.keeps_sayAll_heard [_] deaf_toldAtMost h₁).mono ?_)
    rintro _ _ h₂ ⟨rfl, rfl⟩
    refine Job.Keeps.bind ((keeps_tell_told deaf_toldAtMost h₂ ?_).mono ?_)
    · exact toldAtMost_of_told (by simp [begins]) List.prefix_rfl
    rintro _ s₃ h₃ ⟨rfl, told, -, -⟩
    exact ⟨h₃, _, rfl, by simpa [begins, Except.isOk, Except.toBool] using told⟩

end Whole

/-! ### What the caller is told of an upload -/

/-- The caller of an upload in one request is told once if it comes to a result, and else not. -/
structure TellsWhole (content : ByteArray) (c : Course UploadResult) : Prop where
  told : c.scene.told <+: [(content.size, content.size)]
  ended : ∀ result, c.result? = some result →
    c.scene.told = if result.isOk then [(content.size, content.size)] else []

/-- The caller of an upload in parts is told once for each part that is stored, how much is stored
with this part and how much there is. The last that can be told is that all is stored. -/
structure TellsParts (content : ByteArray) (size : Nat) (c : Course UploadResult) : Prop where
  told : c.scene.told <+: tellings content.size (storedSizes content size c.scene.arrived)
  soon : (partsStored c.scene.arrived).length ≤ c.scene.told.length + 1
  ended : ∀ result, c.result? = some result →
    c.scene.told = tellings content.size (storedSizes content size c.scene.arrived)
  increasing : c.scene.told.Pairwise (·.1 < ·.1)
  within : ∀ x ∈ c.scene.told, x.1 ≤ content.size ∧ x.2 = content.size
  reached : ∀ result, c.result? = some result →
    ((content.size, content.size) ∈ c.scene.told ↔ AllStored content size c.scene.arrived)

/-- What the caller of an upload is told, by how it goes. -/
structure TellsAmounts (saveAs : String) (content : ByteArray) (o : UploadOptions)
    (c : Course UploadResult) : Prop where
  refused : ∀ f, o.plan saveAs = .error f → c.scene.told = []
  whole : ∀ plan, o.plan saveAs = .ok plan → content.size ≤ plan.chunkSize → TellsWhole content c
  parts : ∀ plan, o.plan saveAs = .ok plan → plan.chunkSize < content.size →
    TellsParts content plan.chunkSize c

section TellsAmounts
variable {saveAs : String} {content : ByteArray} {plan : UploadPlan} {c : Course UploadResult}

theorem tellsWhole (kept : c.job.Keeps (ToldAtMost content) (HasToldWhole content) c.scene) :
    TellsWhole content c where
  told := kept.inv
  ended result hr := by
    obtain ⟨r, same, told⟩ := Course.post_of_keeps kept hr
    cases same
    exact told

theorem tellsParts (long : plan.chunkSize < content.size)
    (phase : AtPhase saveAs content plan c.scene)
    (kept : c.job.Keeps (Paced (partGain content plan.chunkSize) content.size)
      (fun _ s => UpToDate (partGain content plan.chunkSize) content.size s) c.scene) :
    TellsParts content plan.chunkSize c := by
  have some_parts := phase.stored_subperm
  obtain ⟨told, soon⟩ := kept.inv.prefix
  rw [filterMap_partGain] at told soon
  rw [List.length_map] at soon
  have ended : ∀ result, c.result? = some result → c.scene.told =
      tellings content.size (storedSizes content plan.chunkSize c.scene.arrived) := by
    intro result hr
    have told : UpToDate _ _ c.scene := Course.post_of_keeps kept hr
    rwa [UpToDate, filterMap_partGain] at told
  have positive : ∀ n ∈ storedSizes content plan.chunkSize c.scene.arrived, 0 < n := by
    intro n hn
    obtain ⟨part, hp, rfl⟩ := List.mem_map.mp hn
    exact (pieces plan.chunkSize_pos content).some_byte part (some_parts.subset hp)
  have most : (storedSizes content plan.chunkSize c.scene.arrived).sum ≤ content.size := by
    rw [← sum_pieces plan.chunkSize_pos content]
    exact sum_le_of_subperm some_parts
  have all := sum_eq_size_iff plan.chunkSize_pos some_parts
  refine ⟨told, soon, ended, ?_, ?_, fun result hr => ?_⟩
  · exact (tellings_increasing positive).sublist told.sublist
  · intro x hx
    obtain ⟨le, total⟩ := of_mem_tellings (told.subset hx)
    exact ⟨le.trans most, total⟩
  · rw [ended result hr, allStored_iff, ← all]
    constructor
    · intro mem
      exact most.antisymm (of_mem_tellings mem).1
    · intro sum
      have some_piece : storedSizes content plan.chunkSize c.scene.arrived ≠ [] := by
        intro nothing
        have empty : content.size = 0 := by
          rw [← sum]
          exact congrArg List.sum nothing
        omega
      have last : (_, content.size) ∈ tellings content.size _ := sum_mem_tellings some_piece
      rwa [show (storedSizes content plan.chunkSize c.scene.arrived).sum = content.size from sum]
        at last

end TellsAmounts

theorem tells_of_run (saveAs : String) (content : FileContent) (o : UploadOptions) {desk : Desk}
    {turns : List Turn} {c : Course UploadResult}
    (run : (Course.start desk (store saveAs content o)).run turns = some c) :
    TellsAmounts saveAs content.toBytes o c := by
  refine ⟨fun f refused => ?_, fun plan planned fits => ?_, fun plan planned long => ?_⟩
  · have refuses : store saveAs content o = Job.ofOutcome (.error f) := by
      rw [store, upload, refused]
      rfl
    rw [refuses] at run
    obtain ⟨-, rfl⟩ := Course.run_still (by rintro (_ | _ | _ | _) <;> rfl) run
    rfl
  · rw [store, upload_of_plan planned, if_pos fits] at run
    exact tellsWhole (Course.keeps_of_run (keeps_single_told saveAs content.toBytes desk) run)
  · rw [store, upload_of_plan planned, if_neg (Nat.not_le.mpr long)] at run
    exact tellsParts long
      (Course.keeps_of_run (keeps_chunked saveAs content.toBytes plan desk) run).inv
      (Course.keeps_of_run (keeps_chunked_paced saveAs content.toBytes plan desk) run)

end Upload

open Upload

/-- The turns of an upload of two parts, the second of which settles first, whose caller fails when
it is told of it. -/
def callerFailsOnce : List Turn :=
  [.serve, .serve,
    .answer [] 0 ⟨.ok ⟨200.0, "", [], "\x7B\"upload_id\":\"u\",\"name\":\"f\"\x7D".toUTF8⟩, 0.0⟩,
    .serve, .serve, .serve, .serve, .serve, .serve, .serve,
    .answer [] 2 ⟨.ok ⟨200.0, "", [], ByteArray.empty⟩, 0.0⟩, .serve, .serve, .serve, .serve,
    .hear (some (.thrown "full")), .serve,
    .answer [] 1 ⟨.ok ⟨200.0, "", [], ByteArray.empty⟩, 0.0⟩, .serve, .serve, .serve, .serve,
    .hear none, .serve, .serve,
    .answer [] 0 ⟨.ok ⟨200.0, "", [], "\x7B\"name\":\"f\"\x7D".toUTF8⟩, 0.0⟩,
    .serve, .serve, .serve, .serve]

end Drive
end Depot
