import Depot.Number.Exact
import Depot.Secret
import Depot.Value.Basic
/-!
# Settings

What a client is told once: the project and its secret, where the services are,
how long a request may take and how often it is repeated.
-/
namespace Depot

/-- When a request is repeated, and how long to wait before. -/
structure RetryPolicy where
  /-- The most attempts after the first one. -/
  maxRetries : Float
  /-- The delay before the first of them, in milliseconds. -/
  initialBackoffMs : Float
  /-- The largest delay before jitter. -/
  maxBackoffMs : Float
  /-- The factor from one delay to the next. -/
  backoffMultiplier : Float
  /-- The largest share of a delay that is added at random. -/
  jitterFactor : Float

namespace RetryPolicy

/-- Requests are sent once unless more is asked for. -/
def standard : RetryPolicy := ⟨0.0, 500.0, 10000.0, 2.0, 0.1⟩

/-- The largest number of retries, if there is one. -/
def limit? (p : RetryPolicy) : Option Nat := Number.ceilNat? p.maxRetries

/-- Whether another retry is allowed after `retries` of them. -/
def allows (p : RetryPolicy) (retries : Nat) : Bool := p.limit?.all (retries < ·)

def toFields (p : RetryPolicy) : Fields :=
  [("maxRetries", .number p.maxRetries), ("initialBackoffMs", .number p.initialBackoffMs),
   ("maxBackoffMs", .number p.maxBackoffMs), ("backoffMultiplier", .number p.backoffMultiplier),
   ("jitterFactor", .number p.jitterFactor)]

end RetryPolicy

structure Settings where
  projectKey : Secret
  projectId : String
  /-- Where the document store is. -/
  baseUrl : String
  /-- Where the file store is. -/
  driveUrl : String
  requestTimeoutMs : Float
  userAgent : String
  retry : RetryPolicy
  /-- What was given along with the policy and is no part of one. -/
  retryNotes : Fields

namespace Settings

def defaultBaseUrl : String := "https://database.deta.sh/v1"

def defaultDriveUrl : String := "https://drive.deta.sh/v1"

def defaultTimeoutMs : Float := 30000.0

def defaultUserAgent : String := "deta-client/0.1.0"

/-- The settings as a value; the secret stays one. -/
def toValue (s : Settings) : Value :=
  .record [("projectKey", .secret s.projectKey), ("projectId", .text s.projectId),
    ("baseUrl", .text s.baseUrl), ("driveUrl", .text s.driveUrl),
    ("requestTimeoutMs", .number s.requestTimeoutMs), ("userAgent", .text s.userAgent),
    ("retryConfig", .ofFields (s.retry.toFields ++ s.retryNotes))]

end Settings
end Depot
