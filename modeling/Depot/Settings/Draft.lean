import Depot.Number.Reading
import Depot.Settings.Validation
/-!
# Drafts of settings

Settings are put together one by one, in any order and with repetitions, or read
from the environment. A draft becomes settings when it has a project key and all
of it is valid.
-/
namespace Depot.Settings

/-- Settings that are not checked yet. -/
structure Draft where
  projectKey : Option String
  baseUrl : String
  driveUrl : String
  requestTimeoutMs : Value
  userAgent : Value
  retry : Fields

namespace Draft

/-- Everything but the project key has a default. -/
def empty : Draft :=
  { projectKey := none
    baseUrl := defaultBaseUrl
    driveUrl := defaultDriveUrl
    requestTimeoutMs := .number defaultTimeoutMs
    userAgent := .text defaultUserAgent
    retry := RetryPolicy.standard.toFields }

/-- A project key for trying things out. -/
def sampleKey : String := "testproj_test-secret"

/-- The draft that has nothing but a project key for trying things out. -/
def sample : Draft := { empty with projectKey := some sampleKey }

/-- A text without the slashes at its end. -/
def withoutTrailingSlashes (s : String) : String :=
  String.ofList ((s.toList.reverse.dropWhile (· = '/')).reverse)

/-- Sets the project key without the blanks around it; it may not be blank. -/
def withProjectKey (d : Draft) (key : String) : Outcome Draft :=
  let trimmed := Text.trim key
  if trimmed.isEmpty then .error (.configuration "Project key cannot be empty" none)
  else .ok { d with projectKey := some trimmed }

def withBaseUrl (d : Draft) (url : String) : Draft :=
  { d with baseUrl := withoutTrailingSlashes url }

def withDriveUrl (d : Draft) (url : String) : Draft :=
  { d with driveUrl := withoutTrailingSlashes url }

def withTimeout (d : Draft) (ms : Value) : Draft := { d with requestTimeoutMs := ms }

def withUserAgent (d : Draft) (userAgent : Value) : Draft := { d with userAgent := userAgent }

/-- Replaces the retry settings that are named. -/
def withRetry (d : Draft) (changes : Fields) : Draft :=
  { d with retry := changes.foldl (fun t e => Member.insert e.1 e.2 t) d.retry }

/-- One setting of a draft. -/
inductive Step where
  | projectKey (key : String)
  | baseUrl (url : String)
  | driveUrl (url : String)
  | timeout (ms : Value)
  | userAgent (userAgent : Value)
  | retry (changes : Fields)

/-- The draft after a step; a step that is refused yields no draft. -/
def step (d : Draft) : Step → Outcome Draft
  | .projectKey key => d.withProjectKey key
  | .baseUrl url => .ok (d.withBaseUrl url)
  | .driveUrl url => .ok (d.withDriveUrl url)
  | .timeout ms => .ok (d.withTimeout ms)
  | .userAgent userAgent => .ok (d.withUserAgent userAgent)
  | .retry changes => .ok (d.withRetry changes)

/-- The variables of an environment. -/
abbrev Environment := Table String

/-- A variable that is set to something. -/
def Environment.get? (env : Environment) (name : String) : Option String :=
  match Table.get? name env with
  | some s => if s.isEmpty then none else some s
  | none => none

/-- The number at the front of a variable. -/
def Environment.number? (env : Environment) (name : String) : Option Float :=
  (env.get? name).bind Number.integerAtFront?

/-- The draft that an environment describes. -/
def ofEnvironment (env : Environment) : Outcome Draft := do
  let d ← match env.get? "DETA_PROJECT_KEY" with
    | some key => empty.withProjectKey key
    | none => .ok empty
  let d := (env.get? "DETA_BASE_URL").elim d d.withBaseUrl
  let d := (env.get? "DETA_DRIVE_URL").elim d d.withDriveUrl
  let d := (env.number? "DETA_TIMEOUT_MS").elim d fun ms => d.withTimeout (.number ms)
  return (env.number? "DETA_MAX_RETRIES").elim d fun n =>
    d.withRetry [("maxRetries", .number n)]

/-- The retry settings that no policy has; they are kept as they are. -/
def retryNotes (d : Draft) : Fields :=
  d.retry.filter fun (name, _) => !(Table.keys RetryPolicy.standard.toFields).contains name

/-- The settings of a draft as a value, for the project that its key names. -/
def toValue (d : Draft) (projectId : String) : Value :=
  .record [("projectId", .text projectId), ("baseUrl", .text d.baseUrl),
    ("driveUrl", .text d.driveUrl), ("requestTimeoutMs", d.requestTimeoutMs),
    ("userAgent", d.userAgent), ("retryConfig", .record d.retry)]

/-- The settings of a draft, if it has a well-formed key and everything is valid. -/
def build (d : Draft) : Outcome Settings := do
  let some key := d.projectKey
    | .error (.configuration "Project key is required (use withProjectKey())" none)
  let projectId ← projectOfKey key
  let checked ← validate (d.toValue projectId)
  return {
    projectKey := ⟨key⟩
    projectId := projectId
    baseUrl := checked.baseUrl
    driveUrl := checked.driveUrl
    requestTimeoutMs := checked.requestTimeoutMs
    userAgent := checked.userAgent
    retry := checked.retry
    retryNotes := d.retryNotes }

end Draft
end Depot.Settings
