import Depot.Proofs.Drive.Progress
/-!
# What uploads count

An upload in parts counts the parts that are stored and their bytes, also when it is discarded, and
itself when it comes to a result. An upload in one request counts its bytes when it comes to a
result.
-/
namespace Depot.Drive

/-- The size of the parts in which content goes up, if it goes up in parts. -/
def UploadOptions.partSize? (o : UploadOptions) (saveAs : String) (content : ByteArray) :
    Option Nat :=
  match o.plan saveAs with
  | .ok plan => if content.size ≤ plan.chunkSize then none else some plan.chunkSize
  | .error _ => none

namespace Upload

/-- What an upload that has ended has counted. -/
structure HasCounted (parts bytes ends : Nat) (s : Scene) : Prop where
  parts : s.counted .uploadParts = parts
  bytes : s.counted .uploadBytes = bytes
  ends : s.counted .uploadsCompleted + s.counted .uploadsAborted = ends

theorem HasCounted.of_counts {parts bytes ends : Nat} {s : Scene} {rs : List Report}
    (h : s.Counts rs) (hp : Report.total .uploadParts rs = parts)
    (hb : Report.total .uploadBytes rs = bytes)
    (he : Report.total .uploadsCompleted rs + Report.total .uploadsAborted rs = ends) :
    HasCounted parts bytes ends s := by
  have counted (m : Metric) (h₁ : m ≠ .requestsTotal) (h₂ : m ≠ .errorsTotal) := h m h₁ h₂
  refine ⟨?_, ?_, ?_⟩
  · rw [counted _ (by decide) (by decide), hp]
  · rw [counted _ (by decide) (by decide), hb]
  · rw [counted _ (by decide) (by decide), counted _ (by decide) (by decide), he]

section Session
variable {saveAs : String} {content : ByteArray} {plan : UploadPlan} {p : Parts}
  {settled : List (Nat × Arrival)}

theorem sessionCounts_cons (x : Nat × Arrival) : sessionCounts p (x :: settled) =
    partCounts p x.1 (Exchange.answer x.2.outcome) ++ sessionCounts p settled := rfl

theorem partsStored_cons (x : Nat × Arrival) : partsStored (x :: settled) =
    (if x.1 ≠ 0 && isStored x.2 then [x.1] else []) ++ partsStored settled := by
  rw [partsStored, List.filter_cons]
  split <;> rfl

/-- The parts of a session count one by one, and with their bytes. -/
theorem total_sessionCounts (named : ∀ x ∈ settled, x.1 ≠ 0) :
    Report.total .uploadParts (sessionCounts p settled) = (partsStored settled).length ∧
      Report.total .uploadBytes (sessionCounts p settled) =
        (storedSizes p.content p.chunkSize settled).sum := by
  induction settled with
  | nil => exact ⟨rfl, rfl⟩
  | cons x rest ih =>
    obtain ⟨own, others⟩ := List.forall_mem_cons.mp named
    obtain ⟨parts, bytes⟩ := ih others
    rw [sessionCounts_cons, Report.total_append, Report.total_append, parts, bytes,
      storedSizes, storedSizes, partsStored_cons, List.length_append, List.map_append,
      List.sum_append, isStored_eq]
    cases Exchange.answer x.2.outcome with
    | error f => simp [partCounts, Report.total]
    | ok body =>
      have bytes : (Chunks.chunk p.content p.chunkSize (x.1 - 1)).size =
          (piece p.content p.chunkSize x.1).size := by
        rw [chunk_eq_piece (Nat.pos_of_ne_zero own)]
      simp [partCounts, Report.total, Report.tick, own, Parts.chunk, bytes]

/-- The parts of a session say nothing of how it ends. -/
theorem total_sessionCounts_ends (p : Parts) (settled : List (Nat × Arrival)) :
    Report.total .uploadsCompleted (sessionCounts p settled) = 0 ∧
      Report.total .uploadsAborted (sessionCounts p settled) = 0 := by
  induction settled with
  | nil => exact ⟨rfl, rfl⟩
  | cons x rest ih =>
    rw [sessionCounts_cons, Report.total_append, Report.total_append, ih.1, ih.2]
    cases Exchange.answer x.2.outcome <;> exact ⟨rfl, rfl⟩

theorem total_endCounts (result : Outcome UploadResult) :
    Report.total .uploadParts (endCounts result) = 0 ∧
      Report.total .uploadBytes (endCounts result) = 0 ∧
      Report.total .uploadsCompleted (endCounts result) +
        Report.total .uploadsAborted (endCounts result) = if result.isOk then 1 else 0 := by
  rcases result with f | (_ | _) <;> exact ⟨rfl, rfl, rfl⟩

theorem HasAccount.hasCounted {result : Outcome UploadResult} {s : Scene}
    (h : HasAccount saveAs content plan (some result) s) :
    HasCounted (partsStored s.arrived).length
      (storedSizes content plan.chunkSize s.arrived).sum (if result.isOk then 1 else 0) s := by
  obtain ⟨_, counts, hr, account, counted, -⟩ := h
  cases hr
  generalize s.launched = launched at account
  generalize harrived : s.arrived = arrived at account
  cases account with
  | refused a f ha => exact .of_counts counted rfl rfl rfl
  | ended a t ha settled b result each comes =>
    have named : ∀ x ∈ settled, x.1 ≠ 0 := by
      intro x hx
      exact Nat.ne_of_gt (mem_partNumbers.mp (each.subset (List.mem_map_of_mem hx))).1
    have same : partsStored ((0, a) :: settled ++ [(0, b)]) = partsStored settled := by
      simp [partsStored]
    obtain ⟨parts, bytes⟩ := total_sessionCounts (p := partsOf saveAs content plan t) named
    obtain ⟨none_completed, none_aborted⟩ :=
      total_sessionCounts_ends (partsOf saveAs content plan t) settled
    obtain ⟨none_stored, no_bytes, ends⟩ := total_endCounts result
    rw [storedSizes, same]
    refine .of_counts counted ?_ ?_ ?_
    · rw [Report.total_append, parts, none_stored, Nat.add_zero]
    · rw [Report.total_append, bytes, no_bytes, Nat.add_zero]
      rfl
    · rw [Report.total_append, Report.total_append, none_completed, none_aborted, Nat.zero_add,
        Nat.zero_add, ends]

theorem HasWhole.hasCounted {result : Outcome UploadResult} {s : Scene}
    (h : HasWhole saveAs content (some result) s) :
    HasCounted 0 (if result.isOk then content.size else 0) 0 s := by
  obtain ⟨a, came, -, -, counted⟩ := h
  obtain rfl := Option.some.inj came
  refine .of_counts counted ?_ ?_ ?_ <;> cases whole saveAs content a.outcome <;> rfl

end Session

end Upload

open Upload

/-- What an upload that has ended has counted, by how it goes. -/
theorem hasCounted_of_ended {saveAs : String} {content : FileContent} {o : UploadOptions}
    {desk : Desk} {turns : List Turn} {c : Course UploadResult} {result : Outcome UploadResult}
    (run : (Course.start desk (store saveAs content o)).run turns = some c)
    (ended : c.result? = some result) :
    match o.partSize? saveAs content.toBytes with
    | some size => HasCounted (partsStored c.scene.arrived).length
        (storedSizes content.toBytes size c.scene.arrived).sum (if result.isOk then 1 else 0)
        c.scene
    | none => HasCounted 0 (if result.isOk then content.toBytes.size else 0) 0 c.scene := by
  cases planned : o.plan saveAs with
  | error f =>
    have refuses : store saveAs content o = Job.ofOutcome (.error f) := by
      rw [store, upload, planned]
      rfl
    rw [refuses] at run
    obtain ⟨-, rfl⟩ := Course.run_still (by rintro (_ | _ | _ | _) <;> rfl) run
    cases ended
    rw [UploadOptions.partSize?, planned]
    exact ⟨rfl, rfl, rfl⟩
  | ok plan =>
    rw [UploadOptions.partSize?, planned]
    rw [store, upload_of_plan planned] at run
    by_cases fits : content.toBytes.size ≤ plan.chunkSize
    · rw [if_pos fits] at run
      simp only [if_pos fits]
      exact (Course.post_of_keeps (Course.keeps_of_run (keeps_single saveAs _ desk) run)
        ended).hasCounted
    · rw [if_neg fits] at run
      simp only [if_neg fits]
      exact (Course.post_of_keeps
        (Course.keeps_of_run (keeps_chunked_account saveAs _ plan desk) run) ended).hasCounted

end Depot.Drive
