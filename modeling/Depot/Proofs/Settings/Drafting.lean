import Mathlib.Data.List.DropRight
import Depot.Proofs.Value.Members
import Depot.Settings.Draft
/-!
# Drafts after many steps

A draft remembers of each setting what it was last given, and the retry settings one by one. A step
that is refused changes nothing. What an environment describes are the first steps.
-/
namespace Depot

namespace Settings.Draft

namespace Step

/-- The project key that a step sets, unless it is refused. -/
def key? : Step → Option String
  | .projectKey key => if (Text.trim key).isEmpty then none else some (Text.trim key)
  | _ => none

/-- The address of the document store that a step sets. -/
def baseUrl? : Step → Option String
  | .baseUrl url => some url
  | _ => none

/-- The address of the file store that a step sets. -/
def driveUrl? : Step → Option String
  | .driveUrl url => some url
  | _ => none

def timeout? : Step → Option Value
  | .timeout ms => some ms
  | _ => none

def userAgent? : Step → Option Value
  | .userAgent agent => some agent
  | _ => none

/-- The retry settings that a step changes. -/
def changes : Step → Fields
  | .retry changes => changes
  | _ => []

/-- What a step changes a retry setting to. -/
def change? (name : String) (s : Step) : Option Value := Table.last? name s.changes

end Step

/-- The draft after a step, whether it is refused or not. -/
def next (d : Draft) (s : Step) : Draft := (d.step s).toOption.getD d

/-- The draft after steps. -/
def after (d : Draft) (steps : List Step) : Draft := steps.foldl next d

/-- What is set last. -/
def last? {β : Type} (pick : Step → Option β) (steps : List Step) : Option β :=
  (steps.filterMap pick).getLast?

theorem after_toList {β : Type} (f : β → Step) (d : Draft) (o : Option β) :
    d.after (o.map f).toList = o.elim d fun x => d.next (f x) := by
  cases o <;> rfl

theorem after_append (d : Draft) (steps others : List Step) :
    d.after (steps ++ others) = (d.after steps).after others := List.foldl_append

/-- Only a blank project key is refused. -/
theorem step_projectKey (d : Draft) (key : String) : d.step (.projectKey key) =
    if (Text.trim key).isEmpty then .error (.configuration "Project key cannot be empty" none)
    else .ok { d with projectKey := some (Text.trim key) } := rfl

/-- A step sets what it is about, and nothing else. -/
theorem next_eq (d : Draft) (s : Step) : d.next s =
    { projectKey := s.key?.or d.projectKey
      baseUrl := (s.baseUrl?.map withoutTrailingSlashes).getD d.baseUrl
      driveUrl := (s.driveUrl?.map withoutTrailingSlashes).getD d.driveUrl
      requestTimeoutMs := s.timeout?.getD d.requestTimeoutMs
      userAgent := s.userAgent?.getD d.userAgent
      retry := s.changes.foldl (fun t e => Member.insert e.1 e.2 t) d.retry } := by
  cases s with
  | projectKey key =>
    rw [next, step_projectKey, Step.key?]
    split <;> rfl
  | _ => rfl

/-- What each step sets decides what the draft has after all of them. -/
theorem after_eq {β γ : Type} (part : Draft → β) {pick : Step → Option γ} {f : γ → β}
    (each : ∀ d s, part (next d s) = ((pick s).map f).getD (part d)) (d : Draft)
    (steps : List Step) : part (d.after steps) = ((last? pick steps).map f).getD (part d) := by
  induction steps using List.reverseRecOn with
  | nil => rfl
  | append_singleton rest s ih =>
    rw [after_append]
    change part (next (d.after rest) s) = _
    rw [each, ih, last?, last?, List.filterMap_append, List.getLast?_append]
    cases picked : pick s <;> simp [picked]

/-- The values that settings are set to. -/
structure Values where
  projectKey : Option String
  baseUrl : String
  driveUrl : String
  requestTimeoutMs : Value
  userAgent : Value
  retry : String → Value

/-- The values in a draft. -/
def values (d : Draft) : Values :=
  { projectKey := d.projectKey
    baseUrl := d.baseUrl
    driveUrl := d.driveUrl
    requestTimeoutMs := d.requestTimeoutMs
    userAgent := d.userAgent
    retry := (Value.record d.retry).member }

/-- The values that are set last, addresses without the slashes at their ends, and the usual values of
what is not set. -/
def Values.last (steps : List Step) : Values :=
  let address (url : String) := String.ofList (url.toList.rdropWhile (· = '/'))
  { projectKey := last? Step.key? steps
    baseUrl := ((last? Step.baseUrl? steps).map address).getD defaultBaseUrl
    driveUrl := ((last? Step.driveUrl? steps).map address).getD defaultDriveUrl
    requestTimeoutMs := (last? Step.timeout? steps).getD (.number defaultTimeoutMs)
    userAgent := (last? Step.userAgent? steps).getD (.text defaultUserAgent)
    retry := fun name => Value.optional
      ((last? (Step.change? name) steps).or (Table.get? name RetryPolicy.standard.toFields)) }

/-- After steps a new draft has the values that were set last. -/
theorem values_after_empty (steps : List Step) : (empty.after steps).values = .last steps := by
  have key : (empty.after steps).projectKey = ((last? Step.key? steps).map some).getD none :=
    after_eq Draft.projectKey (fun d s => by rw [next_eq]; cases s.key? <;> rfl) empty steps
  have baseUrl : (empty.after steps).baseUrl =
      ((last? Step.baseUrl? steps).map withoutTrailingSlashes).getD defaultBaseUrl :=
    after_eq Draft.baseUrl (fun d s => by rw [next_eq]) empty steps
  have driveUrl : (empty.after steps).driveUrl =
      ((last? Step.driveUrl? steps).map withoutTrailingSlashes).getD defaultDriveUrl :=
    after_eq Draft.driveUrl (fun d s => by rw [next_eq]) empty steps
  have timeout : (empty.after steps).requestTimeoutMs =
      ((last? Step.timeout? steps).map id).getD (.number defaultTimeoutMs) :=
    after_eq Draft.requestTimeoutMs (fun d s => by rw [next_eq, Option.map_id, id]) empty steps
  have userAgent : (empty.after steps).userAgent =
      ((last? Step.userAgent? steps).map id).getD (.text defaultUserAgent) :=
    after_eq Draft.userAgent (fun d s => by rw [next_eq, Option.map_id, id]) empty steps
  have merged (name : String) (d : Draft) (s : Step) : Table.get? name (d.next s).retry =
      ((s.change? name).map some).getD (Table.get? name d.retry) := by
    rw [next_eq, Member.get?_foldl_insert, Step.change?]
    cases Table.last? name s.changes <;> rfl
  have retry (name : String) : Table.get? name (empty.after steps).retry =
      ((last? (Step.change? name) steps).map some).getD
        (Table.get? name RetryPolicy.standard.toFields) :=
    after_eq (fun d => Table.get? name d.retry) (merged name) empty steps
  have member (name : String) : (Value.record (empty.after steps).retry).member name =
      (Values.last steps).retry name := by
    change Value.optional (Table.get? name (empty.after steps).retry) = Value.optional _
    rw [retry]
    cases last? (Step.change? name) steps <;> rfl
  rw [Option.map_id, id] at timeout userAgent
  rw [values, funext member, key, baseUrl, driveUrl, timeout, userAgent]
  cases keys : last? Step.key? steps <;> simp only [Values.last, keys] <;> rfl

/-! ## Environments -/

/-- The steps that an environment describes. -/
def Environment.steps (env : Environment) : List Step :=
  ((env.get? "DETA_PROJECT_KEY").map Step.projectKey).toList ++
    ((env.get? "DETA_BASE_URL").map Step.baseUrl).toList ++
    ((env.get? "DETA_DRIVE_URL").map Step.driveUrl).toList ++
    ((env.number? "DETA_TIMEOUT_MS").map fun ms => Step.timeout (.number ms)).toList ++
    ((env.number? "DETA_MAX_RETRIES").map fun n => Step.retry [("maxRetries", .number n)]).toList

/-- An environment whose project key is blank describes no draft; any other describes the new draft
after its steps. -/
theorem ofEnvironment_eq (env : Environment) : ofEnvironment env =
    if (env.get? "DETA_PROJECT_KEY").any fun key => (Text.trim key).isEmpty then
      .error (.configuration "Project key cannot be empty" none)
    else .ok (empty.after env.steps) := by
  rw [Environment.steps, after_append, after_append, after_append, after_append, after_toList,
    after_toList, after_toList, after_toList, after_toList]
  cases h : env.get? "DETA_PROJECT_KEY" with
  | none =>
    rw [ofEnvironment, h]
    rfl
  | some key =>
    rw [ofEnvironment, h, Option.any_some, Option.elim_some, next]
    change (empty.step (.projectKey key)).bind _ = _
    by_cases blank : (Text.trim key).isEmpty
    · rw [step_projectKey, if_pos blank, if_pos blank]
      rfl
    · rw [step_projectKey, if_neg blank, if_neg blank]
      rfl

end Settings.Draft
end Depot
