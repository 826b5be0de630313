import Depot.Decode.Answers
import Depot.Drive.Chunks
import Depot.Drive.Operations
import Depot.Failure.Summary
import Depot.Sorting
/-!
# Uploads

Content of at most the chunk size is sent in one request. Larger content goes
through a session: it is opened, every part is sent, several at a time if that is
wanted, and when all of them have settled the session is committed if every part
was stored and aborted otherwise.
-/
namespace Depot.Drive

/-- What a caller gives to be stored. -/
inductive FileContent where
  | bytes (b : ByteArray)
  | text (s : String)

/-- The bytes that are stored: those of a text are its UTF-8 form. -/
def FileContent.toBytes : FileContent → ByteArray
  | .bytes b => b
  | .text s => s.toUTF8

instance : Coe ByteArray FileContent := ⟨.bytes⟩

/-- How a file is uploaded. -/
structure UploadOptions where
  /-- The largest part, from one byte to ten mebibytes. -/
  chunkSize : Option Float
  /-- How many parts may be under way at a time. -/
  concurrency : Option Float

/-- Options that are valid. -/
structure UploadPlan where
  chunkSize : Nat
  concurrency : Nat
  chunkSize_pos : 0 < chunkSize
  concurrency_pos : 0 < concurrency

/-- A part that was not stored. -/
structure PartFailure where
  part : Nat
  failure : Failure

inductive UploadResult where
  | completed (name : String) (size parts : Nat) (uploadId : Option String)
  | aborted (name uploadId : String) (uploadedParts : List Nat) (failures : List PartFailure)

namespace UploadResult

/-- The result as a record. -/
def toValue : UploadResult → Value
  | .completed name size parts uploadId =>
    .record [("status", .text "completed"), ("name", .text name), ("size", .nat size),
      ("parts", .nat parts), ("uploadId", .optionalText uploadId)]
  | .aborted name uploadId uploadedParts failures =>
    .record [("status", .text "aborted"), ("name", .text name), ("uploadId", .text uploadId),
      ("uploadedParts", .list (uploadedParts.map .nat)),
      ("failedParts", .list (failures.map fun f => .nat f.part)),
      ("errors", .list (failures.map fun f =>
        .record [("part", .nat f.part), ("error", .record f.failure.summary)]))]

end UploadResult

/-- A session: which parts are stored and which are not, in the order in which they settled. -/
structure Session where
  uploadId : String
  name : String
  stored : List Nat
  failures : List PartFailure
  uploadedBytes : Nat

namespace UploadOptions

/-- The chunk size, which is a natural number from one to the largest. -/
def chunkSizeOrDefault (o : UploadOptions) : Outcome { n : Nat // 0 < n ∧ n ≤ maxChunkSize } :=
  match o.chunkSize with
  | none => .ok ⟨maxChunkSize, by decide⟩
  | some x =>
    match Number.natural? x with
    | some n =>
      if h : 0 < n ∧ n ≤ maxChunkSize then .ok ⟨n, h⟩
      else .error (Precondition.chunkSizeInRange x).failure
    | none => .error (Precondition.chunkSizeInRange x).failure

/-- The concurrency, which is a positive natural number. -/
def concurrencyOrDefault (o : UploadOptions) : Outcome { n : Nat // 0 < n } :=
  match o.concurrency with
  | none => .ok ⟨1, by decide⟩
  | some x =>
    match Number.natural? x with
    | some n =>
      if h : 0 < n then .ok ⟨n, h⟩ else .error (Precondition.concurrencyPositive x).failure
    | none => .error (Precondition.concurrencyPositive x).failure

/-- Checks the name and the options of an upload, in this order. -/
def plan (o : UploadOptions) (saveAs : String) : Outcome UploadPlan :=
  if saveAs.isEmpty then .error Precondition.fileName.failure
  else do
    let chunkSize ← o.chunkSizeOrDefault
    let concurrency ← o.concurrencyOrDefault
    return ⟨chunkSize.1, concurrency.1, chunkSize.2.1, concurrency.2⟩

end UploadOptions

namespace Upload

/-- Tells the caller how much is stored; a caller that fails is only reported. -/
def tell (uploaded total : Nat) : Job Unit :=
  .progress uploaded total fun failure =>
    match failure with
    | none => pure ()
    | some f => Job.say (.warn "Progress callback failed"
        [("uploaded", .nat uploaded), ("total", .nat total), ("error", .text f.message)])

/-- The parameter that names the file in every request of an upload. -/
def nameParam (saveAs : String) : String × Option Param := ("name", some (.text saveAs))

/-- The call that sends the whole content. -/
def fileCall (saveAs : String) (content : ByteArray) : Call :=
  ⟨.post, "/files", [nameParam saveAs], .bytes content⟩

/-- Sends the whole content in one request. -/
def single (saveAs : String) (content : ByteArray) : Job UploadResult := do
  let info ← Job.exchangeAs FileInfo.decode (fileCall saveAs content)
  Job.say (.count .uploadBytes content.size [])
  tell content.size content.size
  return .completed info.name content.size 1 none

def sessionPath (uploadId : String) : String := "/uploads/" ++ Text.Percent.encode uploadId

/-- The call that opens a session. -/
def openCall (saveAs : String) : Call := .plain .post "/uploads" [nameParam saveAs]

/-- The call that sends a part; parts are counted from one. -/
def partCall (saveAs uploadId : String) (part : Nat) (chunk : ByteArray) : Call :=
  ⟨.post, sessionPath uploadId ++ "/parts",
    [nameParam saveAs, ("part", some (.nat part))], .bytes chunk⟩

/-- The call that ends a session for good. -/
def commitCall (saveAs uploadId : String) : Call :=
  .plain .patch (sessionPath uploadId) [nameParam saveAs]

/-- The call that discards a session. -/
def abortCall (saveAs uploadId : String) : Call :=
  .plain .delete (sessionPath uploadId) [nameParam saveAs]

/-- What the parts of one upload have in common. -/
structure Parts where
  saveAs : String
  uploadId : String
  content : ByteArray
  chunkSize : Nat

namespace Parts

def count (p : Parts) : Nat := Chunks.count p.content.size p.chunkSize

/-- The bytes of a part. -/
def chunk (p : Parts) (part : Nat) : ByteArray := Chunks.chunk p.content p.chunkSize (part - 1)

/-- The numbers of all parts. -/
def numbers (p : Parts) : List Nat := (List.range p.count).map (· + 1)

def call (p : Parts) (part : Nat) : Call := partCall p.saveAs p.uploadId part (p.chunk part)

end Parts

/-- Sends some parts without waiting for them. -/
def launchAll (p : Parts) (parts : List Nat) : Job Unit :=
  parts.forM fun part => Job.send part (p.call part)

/-- A session in which one more part has settled. Only the answer decides whether it is stored. -/
def settled (p : Parts) (s : Session) (part : Nat) : Outcome ByteArray → Session
  | .error f => { s with failures := s.failures ++ [⟨part, f.asError⟩] }
  | .ok _ =>
    { s with
      stored := s.stored ++ [part]
      uploadedBytes := s.uploadedBytes + (p.chunk part).size }

/-- Reports what came of a part, of which the session knows. -/
def reportPart (p : Parts) (s : Session) (part : Nat) : Outcome ByteArray → Job Unit
  | .error f =>
    Job.say (.warn "Upload part failed"
      [("uploadId", .text s.uploadId), ("part", .nat part), ("error", .text f.message)])
  | .ok _ => do
    Job.say (.tick .uploadParts [])
    Job.say (.count .uploadBytes (p.chunk part).size [])
    tell s.uploadedBytes p.content.size

/--
Waits until `unsettled` parts have settled. Whenever one has, the next of the
`pending` parts is sent in its place. When one of these steps fails, the parts that
are under way then are left to themselves.
-/
def settleAll (p : Parts) : (unsettled : Nat) → (pending : List Nat) → Session → Job Session
  | 0, _, s => pure s
  | unsettled + 1, pending, s => .await fun part arrival => do
    let answer ← (Job.settle (p.call part) arrival).attempt
    let s := settled p s part answer
    match ← (reportPart p s part answer).attempt with
    | .error f => .detach unsettled (settleAll p unsettled pending s) (Job.fail f)
    | .ok _ =>
      match ← (launchAll p (pending.take 1)).attempt with
      | .error f => .detach unsettled (settleAll p unsettled (pending.drop 1) s) (Job.fail f)
      | .ok _ => settleAll p unsettled (pending.drop 1) s

/-- Ends a session: commits it if every part is stored, and discards it otherwise. -/
def conclude (p : Parts) (s : Session) : Job UploadResult := do
  let stored := Sorting.sorted (· ≤ ·) s.stored
  let failures := Sorting.sorted (fun a b => a.part ≤ b.part) s.failures
  if failures.isEmpty then
    let info ← Job.exchangeAs FileInfo.decode (commitCall p.saveAs p.uploadId)
    Job.say (.tick .uploadsCompleted [])
    Job.say (.info "Upload committed" [("name", .text p.saveAs), ("uploadId", .text p.uploadId)])
    return .completed info.name p.content.size p.count (some p.uploadId)
  else
    let _ ← Job.exchange (abortCall p.saveAs p.uploadId)
    Job.say (.tick .uploadsAborted [])
    Job.say (.warn "Upload aborted"
      [("name", .text p.saveAs), ("uploadId", .text p.uploadId),
       ("failedParts", .list (failures.map fun f => .nat f.part))])
    return .aborted s.name p.uploadId stored failures

/-- Sends the content through a session. -/
def chunked (saveAs : String) (content : ByteArray) (plan : UploadPlan) : Job UploadResult := do
  let ticket ← Job.exchangeAs UploadTicket.decode (openCall saveAs)
  let p : Parts := ⟨saveAs, ticket.uploadId, content, plan.chunkSize⟩
  Job.say (.info "Upload session started"
    [("name", .text saveAs), ("uploadId", .text p.uploadId), ("parts", .nat p.count),
     ("size", .nat content.size)])
  let width := min plan.concurrency p.count
  launchAll p (p.numbers.take width)
  let s ← settleAll p p.count (p.numbers.drop width) ⟨p.uploadId, ticket.name, [], [], 0⟩
  conclude p s

end Upload

/-- Stores bytes under a name. -/
def upload (saveAs : String) (content : ByteArray) (o : UploadOptions) : Job UploadResult := do
  let plan ← Job.ofOutcome (o.plan saveAs)
  if content.size ≤ plan.chunkSize then Upload.single saveAs content
  else Upload.chunked saveAs content plan

/-- Stores what a caller gives under a name. -/
def store (saveAs : String) (content : FileContent) (o : UploadOptions) : Job UploadResult :=
  upload saveAs content.toBytes o

end Depot.Drive
