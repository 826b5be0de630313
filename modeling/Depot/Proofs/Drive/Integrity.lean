import Depot.Proofs.Drive.Single
/-!
# Uploads keep their content

However an upload goes, the calls that carry content carry consecutive pieces of what is stored,
and an upload that is completed has carried all of it.
-/
namespace Depot

/-- The content that a call puts into the body of its request. -/
def Call.carried? (c : Call) : Option ByteArray :=
  match Endpoint.body c.content with
  | .bytes b => some b
  | _ => none

namespace Drive
namespace Upload

/-- The bytes of a part of the content; parts are counted from one. -/
def piece (content : ByteArray) (size part : Nat) : ByteArray :=
  content.extract ((part - 1) * size) (min (part * size) content.size)

/-- The pieces of content make it up. All of them are full but the last, which is not empty. -/
structure Pieces (content : ByteArray) (size : Nat) : Prop where
  some_byte : ∀ part ∈ partNumbers content size, 0 < (piece content size part).size
  fits : ∀ part ∈ partNumbers content size, (piece content size part).size ≤ size
  full : ∀ part ∈ partNumbers content size, part + 1 ∈ partNumbers content size →
    (piece content size part).size = size
  join : Chunks.join ((partNumbers content size).map (piece content size)) = content

/-- A completed upload tells how much its calls have carried, and that is all of the content. -/
def Delivers (content : ByteArray) (c : Course UploadResult) : Prop :=
  ∀ name size parts uploadId,
    c.result? = some (.ok (.completed name size parts uploadId)) →
      size = content.size ∧ parts = (c.scene.sent.filterMap Call.carried?).length ∧
      Chunks.join (c.scene.sent.filterMap Call.carried?) = content

/-- The content goes up in one call, as a whole. -/
structure GoesWhole (saveAs : String) (content : ByteArray) (c : Course UploadResult) : Prop where
  sent : c.scene.sent <+: [fileCall saveAs content]
  ended : ∀ result, c.result? = some result → c.scene.sent = [fileCall saveAs content]

/-- The content goes up in parts, in the order of their numbers, and each part carries its piece
to the session. An upload that has come to a result has carried every piece. -/
structure GoesInParts (saveAs : String) (content : ByteArray) (size : Nat)
    (c : Course UploadResult) : Prop where
  elsewhere : ∀ call ∈ c.scene.sent, call.path ≠ "/files"
  carried : ∃ uploadId asked, c.scene.sent.filter (·.carried?.isSome) =
    ((partNumbers content size).take asked).map fun part =>
      partCall saveAs uploadId part (piece content size part)
  ended : ∀ r, c.result? = some (.ok r) →
    c.scene.sent.filterMap Call.carried? = (partNumbers content size).map (piece content size)

variable {saveAs : String} {content : ByteArray} {plan : UploadPlan}

section Numbers
variable {size part : Nat}

theorem mem_partNumbers : part ∈ partNumbers content size ↔
    1 ≤ part ∧ part - 1 < Chunks.count content.size size := by
  rw [partNumbers, List.mem_range'_1, Chunks.count_eq]
  omega

theorem chunk_eq_piece (h : 1 ≤ part) :
    Chunks.chunk content size (part - 1) = piece content size part := by
  rw [Chunks.chunk, piece, Nat.sub_add_cancel h]

theorem map_piece_eq_split (content : ByteArray) (size : Nat) :
    (partNumbers content size).map (piece content size) = Chunks.split content size := by
  have same : ∀ part ∈ partNumbers content size,
      piece content size part = Chunks.chunk content size (part - 1) := by
    intro part hp
    exact (chunk_eq_piece (mem_partNumbers.mp hp).1).symm
  rw [List.map_congr_left same, Chunks.split, partNumbers, Chunks.count_eq,
    List.range'_eq_map_range, List.map_map]
  apply List.map_congr_left
  intro i _
  simp

theorem pieces (positive : 0 < size) (content : ByteArray) : Pieces content size where
  some_byte part hp := by
    obtain ⟨first, last⟩ := mem_partNumbers.mp hp
    rw [← chunk_eq_piece first]
    exact Chunks.size_chunk_pos positive last
  fits part hp := by
    rw [← chunk_eq_piece (mem_partNumbers.mp hp).1]
    exact Chunks.size_chunk_le ..
  full part hp next := by
    have first := (mem_partNumbers.mp hp).1
    have last := (mem_partNumbers.mp next).2
    rw [← chunk_eq_piece first]
    apply Chunks.size_chunk_eq positive
    omega
  join := by
    rw [map_piece_eq_split]
    exact Chunks.join_split positive content

end Numbers

section Calls
variable {p : Parts}

theorem sessionPath_append_ne (uploadId rest : String) :
    sessionPath uploadId ++ rest ≠ "/files" := by
  intro h
  have := congrArg String.toList h
  simp [sessionPath, String.toList_append] at this

theorem sessionPath_ne (uploadId : String) : sessionPath uploadId ≠ "/files" := by
  intro h
  apply sessionPath_append_ne uploadId ""
  rw [String.append_empty]
  exact h

theorem call_eq {part : Nat} (h : 1 ≤ part) :
    p.call part = partCall p.saveAs p.uploadId part (piece p.content p.chunkSize part) := by
  rw [Parts.call, Parts.chunk, chunk_eq_piece h]

theorem path_endCall_ne (p : Parts) (settled : List (Nat × Arrival)) :
    (endCall p settled).path ≠ "/files" := by
  rw [endCall]
  split <;> exact sessionPath_ne _

theorem carried?_endCall (p : Parts) (settled : List (Nat × Arrival)) :
    (endCall p settled).carried? = none := by
  rw [endCall]
  split <;> rfl

end Calls

/-- The calls of an upload that has asked for its first parts: the one that opens a session comes
before them, and the one that ends it after them. -/
def Asks (saveAs : String) (content : ByteArray) (plan : UploadPlan) (t : UploadTicket)
    (asked : Nat) (sent : List Call) : Prop :=
  ∃ before after, sent = before ++ ((partNumbers content plan.chunkSize).take asked).map
      (partsOf saveAs content plan t).call ++ after ∧
    (∀ c ∈ before, c = openCall saveAs) ∧
    ∀ c ∈ after, ∃ settled, c = endCall (partsOf saveAs content plan t) settled

namespace Asks
variable {t : UploadTicket} {asked : Nat} {sent : List Call}

theorem elsewhere (h : Asks saveAs content plan t asked sent) : ∀ c ∈ sent, c.path ≠ "/files" := by
  obtain ⟨before, after, rfl, opens, ends⟩ := h
  intro c hc
  rw [List.append_assoc, List.mem_append, List.mem_append] at hc
  rcases hc with hc | hc | hc
  · rw [opens c hc]
    change "/uploads" ≠ "/files"
    decide
  · obtain ⟨part, -, rfl⟩ := List.mem_map.mp hc
    exact sessionPath_append_ne _ _
  · obtain ⟨settled, rfl⟩ := ends c hc
    exact path_endCall_ne _ _

/-- Only the parts carry content. -/
theorem filter_carried (h : Asks saveAs content plan t asked sent) :
    sent.filter (·.carried?.isSome) =
      ((partNumbers content plan.chunkSize).take asked).map fun part =>
        partCall saveAs t.uploadId part (piece content plan.chunkSize part) := by
  obtain ⟨before, after, rfl, opens, ends⟩ := h
  have nothing {calls : List Call} (h : ∀ c ∈ calls, c.carried? = none) :
      calls.filter (·.carried?.isSome) = [] := by
    apply List.filter_eq_nil_iff.mpr
    intro c hc
    simp [h c hc]
  have empty_before : ∀ c ∈ before, c.carried? = none := by
    intro c hc
    rw [opens c hc]
    rfl
  have empty_after : ∀ c ∈ after, c.carried? = none := by
    intro c hc
    obtain ⟨settled, rfl⟩ := ends c hc
    exact carried?_endCall _ _
  have all : ∀ c ∈ ((partNumbers content plan.chunkSize).take asked).map
      (partsOf saveAs content plan t).call, c.carried?.isSome := by
    intro c hc
    obtain ⟨part, -, rfl⟩ := List.mem_map.mp hc
    rfl
  rw [List.filter_append, List.filter_append, nothing empty_before, nothing empty_after,
    List.nil_append, List.append_nil, List.filter_eq_self.mpr all]
  apply List.map_congr_left
  intro part hp
  exact call_eq (mem_partNumbers.mp (List.mem_of_mem_take hp)).1

theorem filterMap_carried (h : Asks saveAs content plan t asked sent) :
    sent.filterMap Call.carried? =
      ((partNumbers content plan.chunkSize).take asked).map (piece content plan.chunkSize) := by
  have kept : sent.filterMap Call.carried? =
      (sent.filter (·.carried?.isSome)).filterMap Call.carried? := by
    rw [List.filterMap_filter]
    apply List.filterMap_congr
    intro c _
    cases c.carried? <;> rfl
  rw [kept, h.filter_carried, List.filterMap_map, ← List.filterMap_eq_map]
  rfl

end Asks

theorem AtPhase.asks {s : Scene} (h : AtPhase saveAs content plan s) :
    ∃ t asked, Asks saveAs content plan t asked s.sent := by
  unfold AtPhase at h
  generalize s.sent = sent, s.arrived = arrived, s.underWay = underWay at h
  have unopened : UploadTicket := ⟨"", "", none, none⟩
  cases h with
  | silent => exact ⟨unopened, 0, [], [], rfl, by simp, by simp⟩
  | opening => exact ⟨unopened, 0, [_], [], rfl, by simp, by simp⟩
  | refused a f ha => exact ⟨unopened, 0, [_], [], rfl, by simp, by simp⟩
  | sending a t ha asked settled _ each width =>
    exact ⟨t, asked, [openCall saveAs], [], by simp, by simp, by simp⟩
  | ending a t ha settled each =>
    exact ⟨t, _, [openCall saveAs], [_], by rw [List.take_length]; rfl, by simp, by simp⟩
  | ended a t ha settled b each =>
    exact ⟨t, _, [openCall saveAs], [_], by rw [List.take_length]; rfl, by simp, by simp⟩

/-- An upload in parts that has come to a result has asked for every part. -/
theorem HasAccount.asks {r : UploadResult} {s : Scene}
    (h : HasAccount saveAs content plan (some (.ok r)) s) : ∃ t,
    Asks saveAs content plan t (partNumbers content plan.chunkSize).length s.sent ∧
    ∃ session b, ending (partsOf saveAs content plan t) session b = .ok r := by
  obtain ⟨_, counts, hr, account, -, -⟩ := h
  cases hr
  rw [Scene.sent_eq_map_launched]
  generalize s.launched = launched, s.arrived = arrived at account
  cases account with
  | ended a t ha settled b result each comes =>
    refine ⟨t, ⟨[openCall saveAs], [endCall (partsOf saveAs content plan t) settled], ?_, ?_, ?_⟩,
      _, _, comes.symm⟩
    · rw [List.take_length]
      simp [Function.comp_def]
    · simp
    · simp

theorem ending_completed {p : Parts} {session : Session} {b : Arrival} {name : String}
    {size parts : Nat} {uploadId : Option String}
    (h : ending p session b = .ok (.completed name size parts uploadId)) :
    size = p.content.size ∧ parts = p.count := by
  unfold ending at h
  split at h
  case isTrue =>
    obtain ⟨info, -, same⟩ := exists_of_map_eq_ok h
    cases same
    exact ⟨rfl, rfl⟩
  case isFalse =>
    obtain ⟨body, -, same⟩ := exists_of_map_eq_ok h
    cases same

variable {c : Course UploadResult}

theorem goesWhole
    (kept : c.job.Keeps (SendsWhole saveAs content) (HasWhole saveAs content) c.scene) :
    GoesWhole saveAs content c ∧ Delivers content c := by
  have ended : ∀ result, c.result? = some result → c.scene.sent = [fileCall saveAs content] := by
    intro result hr
    obtain ⟨a, -, launched, -⟩ := Course.post_of_keeps kept hr
    rw [Scene.sent_eq_map_launched, launched]
    rfl
  refine ⟨⟨kept.inv, ended⟩, ?_⟩
  intro name size parts uploadId hr
  obtain ⟨a, came, -⟩ := Course.post_of_keeps kept hr
  have carried : c.scene.sent.filterMap Call.carried? = [content] := by
    rw [ended _ hr]
    rfl
  rw [carried]
  obtain ⟨info, -, same⟩ := exists_of_map_eq_ok (Option.some.inj came).symm
  cases same
  exact ⟨rfl, rfl, ByteArray.empty_append⟩

theorem goesInParts
    (kept : c.job.Keeps (AtPhase saveAs content plan) (HasAccount saveAs content plan) c.scene) :
    GoesInParts saveAs content plan.chunkSize c ∧ Delivers content c := by
  obtain ⟨t, asked, asks⟩ := kept.inv.asks
  have ended : ∀ r, c.result? = some (.ok r) → c.scene.sent.filterMap Call.carried? =
      (partNumbers content plan.chunkSize).map (piece content plan.chunkSize) := by
    intro r hr
    obtain ⟨t, asks, -⟩ := (Course.post_of_keeps kept hr).asks
    rw [asks.filterMap_carried, List.take_length]
  refine ⟨⟨asks.elsewhere, ⟨t.uploadId, asked, asks.filter_carried⟩, ended⟩, ?_⟩
  intro name size parts uploadId hr
  obtain ⟨t, -, session, b, comes⟩ := (Course.post_of_keeps kept hr).asks
  obtain ⟨whole_size, count⟩ := ending_completed comes
  rw [ended _ hr]
  refine ⟨whole_size, ?_, (pieces plan.chunkSize_pos content).join⟩
  rw [count, Parts.count, List.length_map, partNumbers, List.length_range', Chunks.count_eq]
  rfl

end Upload

open Upload

/--
What is stored, bytes or a text in its UTF-8 form, goes up unchanged: in one call exactly if it is
not larger than a chunk, and else in parts, each with the bytes between two multiples of the chunk
size. A completed upload reports the size of the content and the number of calls that carried it.
-/
theorem store_delivers (saveAs : String) (content : FileContent) (o : UploadOptions)
    (plan : UploadPlan) (named : saveAs ≠ "") (small : plan.chunkSize ≤ maxChunkSize)
    (sized : o.chunkSize.elim (some maxChunkSize) Number.natural? = some plan.chunkSize)
    (wide : o.concurrency.elim (some 1) Number.natural? = some plan.concurrency)
    (desk : Desk) (turns : List Turn) (c : Course UploadResult)
    (run : (Course.start desk (store saveAs content o)).run turns = some c) :
    (content.toBytes.size ≤ plan.chunkSize → GoesWhole saveAs content.toBytes c) ∧
    (plan.chunkSize < content.toBytes.size →
      GoesInParts saveAs content.toBytes plan.chunkSize c) ∧
    Pieces content.toBytes plan.chunkSize ∧ Delivers content.toBytes c ∧
    c.Surely fun c => ∃ result, c.result? = some result := by
  have planned := plan_eq_ok named small sized wide
  rw [store, upload_of_plan planned] at run
  have made_up := pieces plan.chunkSize_pos content.toBytes
  by_cases fits : content.toBytes.size ≤ plan.chunkSize
  · rw [if_pos fits] at run
    have kept := Course.keeps_of_run (keeps_single saveAs content.toBytes desk) run
    obtain ⟨goes, delivers⟩ := goesWhole kept
    refine ⟨fun _ => goes, fun long => absurd fits (Nat.not_le.mpr long), made_up, delivers, ?_⟩
    apply Course.surely_ends_of_keeps kept
    rintro s ⟨a, h, -⟩
    cases h
  · rw [if_neg fits] at run
    have kept := Course.keeps_of_run (keeps_chunked_account saveAs content.toBytes plan desk) run
    obtain ⟨goes, delivers⟩ := goesInParts kept
    refine ⟨fun short => absurd short fits, fun _ => goes, made_up, delivers, ?_⟩
    apply Course.surely_ends_of_keeps kept
    rintro s ⟨r, counts, h, -⟩
    cases h

/-- The turns of an upload of two parts, one after the other, that is committed. -/
def twoPartsStored : List Turn :=
  [.serve, .serve,
    .answer [] 0 ⟨.ok ⟨200.0, "", [], "\x7B\"upload_id\":\"u\",\"name\":\"f\"\x7D".toUTF8⟩, 0.0⟩,
    .serve, .serve, .serve, .serve, .serve,
    .answer [] 1 ⟨.ok ⟨200.0, "", [], ByteArray.empty⟩, 0.0⟩, .serve, .serve, .serve, .serve,
    .hear none, .serve, .serve,
    .answer [] 2 ⟨.ok ⟨200.0, "", [], ByteArray.empty⟩, 0.0⟩, .serve, .serve, .serve, .serve,
    .hear none, .serve, .serve,
    .answer [] 0 ⟨.ok ⟨200.0, "", [], "\x7B\"name\":\"f\"\x7D".toUTF8⟩, 0.0⟩,
    .serve, .serve, .serve, .serve]

/-- The size and the number of parts that a completed upload reports. -/
def UploadResult.extent? : UploadResult → Option (Nat × Nat)
  | .completed _ size parts _ => some (size, parts)
  | .aborted .. => none

/-- The two bytes of one character go up in two parts. -/
theorem store_delivers_halves : ∃ c,
    (Course.start ⟨none, [], []⟩ (store "f" (.text "é") ⟨some 1.0, none⟩)).run twoPartsStored =
      some c ∧
    GoesInParts "f" "é".toUTF8 1 c ∧ Delivers "é".toUTF8 c ∧
    c.scene.sent.filterMap Call.carried? = [⟨#[0xC3]⟩, ⟨#[0xA9]⟩] ∧
    (c.result?.bind fun r => r.toOption.bind UploadResult.extent?) = some (2, 2) := by
  have ends : ((Course.start ⟨none, [], []⟩ (store "f" (.text "é") ⟨some 1.0, none⟩)).run
      twoPartsStored).map (fun c => (c.scene.sent.filterMap Call.carried?,
        c.result?.bind fun r => r.toOption.bind UploadResult.extent?)) =
      some ([⟨#[0xC3]⟩, ⟨#[0xA9]⟩], some (2, 2)) := by decide +kernel
  obtain ⟨c, run, shown⟩ := Option.map_eq_some_iff.mp ends
  have stored := store_delivers "f" (.text "é") ⟨some 1.0, none⟩ ⟨1, 1, by decide, by decide⟩
    (by decide) (by decide) (by decide +kernel) (by decide +kernel) _ _ c run
  exact ⟨c, run, stored.2.1 (by decide +kernel), stored.2.2.2.1, congrArg Prod.fst shown,
    congrArg Prod.snd shown⟩

end Drive
end Depot
