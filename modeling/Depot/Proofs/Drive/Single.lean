import Depot.Proofs.Drive.Protocol
/-!
# Uploads in one request

Content that is not larger than a chunk is sent whole, by one call, and the answer to it decides
what the upload comes to.
-/
namespace Depot.Drive.Upload

/-- What an upload in one request comes to with the outcome of its call. -/
def whole (saveAs : String) (content : ByteArray) (outcome : Outcome Response) :
    Outcome UploadResult :=
  (Exchange.answerAs FileInfo.decode (fileCall saveAs content) outcome).map fun info =>
    .completed info.name content.size 1 none

/-- What is counted of an upload in one request. -/
def wholeCounts (content : ByteArray) : Outcome UploadResult → List Report
  | .error _ => []
  | .ok _ => [.count .uploadBytes content.size []]

/-- No call was sent but the one that sends the content. -/
def SendsWhole (saveAs : String) (content : ByteArray) (s : Scene) : Prop :=
  s.sent <+: [fileCall saveAs content]

/-- What an upload in one request leaves: its call, the answer to it, what it has come to, and
what it has counted, requests and errors aside. -/
def HasWhole (saveAs : String) (content : ByteArray) (result : Option (Outcome UploadResult))
    (s : Scene) : Prop :=
  ∃ a, result = some (whole saveAs content a.outcome) ∧
    s.launched = [(0, fileCall saveAs content)] ∧ s.arrived = [(0, a)] ∧
    s.Counts (wholeCounts content (whole saveAs content a.outcome))

variable {saveAs : String} {content : ByteArray}

theorem heedless_sendsWhole : Scene.Heedless (SendsWhole saveAs content) := by
  intro s s' hs h
  rw [SendsWhole, hs.sent]
  exact h

theorem keeps_single (saveAs : String) (content : ByteArray) (desk : Desk) :
    (single saveAs content).Keeps (SendsWhole saveAs content) (HasWhole saveAs content)
      ⟨[], desk, []⟩ := by
  have quiet : SendsWhole saveAs content ⟨[], desk, []⟩ := List.nil_prefix
  have none_counted : Scene.Counts ⟨[], desk, []⟩ [] := fun _ _ _ => rfl
  have launched : SendsWhole saveAs content
      ((⟨[], desk, []⟩ : Scene).launch 0 (fileCall saveAs content)) := List.prefix_rfl
  refine Job.Keeps.bind ((Job.keeps_exchangeAs heedless_sendsWhole rfl quiet launched
    fun _ _ => List.prefix_rfl).mono ?_)
  rintro _ s₁ h₁ ⟨a, rfl, moves, hs₁⟩
  have calls := hs₁.calls
  have counted₁ := ((none_counted.launch _ _).land moves 0 a).alike hs₁
  cases ha : Exchange.answerAs FileInfo.decode (fileCall saveAs content) a.outcome with
  | error f =>
    refine ⟨a, ?_, calls.launched, calls.arrived, ?_⟩
    · rw [whole, ha]
      rfl
    · rw [whole, ha]
      exact counted₁
  | ok info =>
    refine Job.Keeps.bind ((keeps_say heedless_sendsWhole h₁).mono ?_)
    rintro _ s₂ h₂ ⟨rfl, hs₂⟩
    refine Job.Keeps.bind ((keeps_tell heedless_sendsWhole h₂).mono ?_)
    rintro _ s₃ h₃ ⟨rfl, hs₃⟩
    have added := hs₂.trans hs₃
    refine ⟨h₃, a, ?_, added.calls.launched.trans calls.launched,
      added.calls.arrived.trans calls.arrived, ?_⟩
    · rw [whole, ha]
      rfl
    · rw [whole, ha]
      exact counted₁.adds added

/-- A plan sends content that is not larger than a chunk whole, and other content in parts. -/
theorem upload_of_plan {o : UploadOptions} {plan : UploadPlan}
    (planned : o.plan saveAs = .ok plan) :
    upload saveAs content o = if content.size ≤ plan.chunkSize then single saveAs content
      else chunked saveAs content plan := by
  rw [upload, planned]
  rfl

end Depot.Drive.Upload
