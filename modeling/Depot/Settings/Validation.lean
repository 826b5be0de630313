import Depot.Decode.Basic
import Depot.Failure.Basic
import Depot.Settings.Basic
import Depot.Url.Valid
/-!
# Valid settings

Which values settings may have. All that is wrong is named at once, in the order
of the settings.
-/
namespace Depot
namespace Settings

open Decoder

/-- The settings that are checked; the project's secret is not among them. -/
structure Checked where
  projectId : String
  baseUrl : String
  driveUrl : String
  requestTimeoutMs : Float
  userAgent : String
  retry : RetryPolicy

def integer : Decoder Float :=
  check number Number.isIntegral "Expected integer, received float"

def atLeast (least : Float) (d : Decoder Float) : Decoder Float :=
  check d (· ≥ least) ("Number must be greater than or equal to " ++ Number.text least)

def atMost (most : Float) (d : Decoder Float) : Decoder Float :=
  check d (· ≤ most) ("Number must be less than or equal to " ++ Number.text most)

def positive (d : Decoder Float) : Decoder Float :=
  check d (· > 0.0) "Number must be greater than 0"

/-- The largest number of retries that can be asked for. -/
def maxRetriesLimit : Float := 10.0

def decodeRetry : Decoder RetryPolicy :=
  check (record fun v =>
    (((((field "maxRetries" (atMost maxRetriesLimit (atLeast 0.0 integer)) v).map
      RetryPolicy.mk).both
      (field "initialBackoffMs" (atLeast 0.0 integer) v)).both
      (field "maxBackoffMs" (atLeast 0.0 integer) v)).both
      (field "backoffMultiplier" (atLeast 1.0 number) v)).both
      (field "jitterFactor" (atMost 1.0 (atLeast 0.0 number)) v))
    (fun p => p.maxBackoffMs ≥ p.initialBackoffMs)
    "maxBackoffMs must be greater than or equal to initialBackoffMs"

/-- The address of a service. -/
def decodeUrl : Decoder String :=
  check (check text Url.isValid "Invalid url") Url.hasWebScheme
    "URL must use HTTP or HTTPS protocol"

def decode : Decoder Checked := record fun v =>
  ((((((field "projectId" (check text (!·.isEmpty) "Project id is required") v).map
    Checked.mk).both (field "baseUrl" decodeUrl v)).both
    (field "driveUrl" decodeUrl v)).both
    (field "requestTimeoutMs" (positive integer) v)).both
    (field "userAgent"
      (check text (!·.isEmpty) "String must contain at least 1 character(s)") v)).both
    (field "retryConfig" decodeRetry v)

/-- The failure that names what is wrong with settings. -/
def invalid (issues : List Issue) : Failure :=
  .configuration ("; ".intercalate (issues.map Issue.text))
    (some [("issues", .list (issues.map fun i =>
      .record [("path", .text i.place), ("message", .text i.message)]))])

/-- The settings that a value holds, if all of them are valid. -/
def validate (v : Value) : Outcome Checked :=
  match (decode v).toExcept with
  | .ok checked => .ok checked
  | .error issues => .error (invalid issues)

/-- Why a text is no project key. -/
def malformedKey : Failure :=
  .configuration "Invalid project key: expected the form \"<projectId>_<secret>\"" none

/-- The project of a key: what stands before its only underscore. -/
def projectOfKey (key : String) : Outcome String :=
  match key.toList.takeWhile (· ≠ '_'), key.toList.dropWhile (· ≠ '_') with
  | c :: project, _ :: d :: secret =>
    if (d :: secret).contains '_' then .error malformedKey
    else .ok (String.ofList (c :: project))
  | _, _ => .error malformedKey

end Settings
end Depot
