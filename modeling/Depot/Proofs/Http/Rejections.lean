import Depot.Proofs.Incidents
import Depot.Proofs.Number.Rank
/-!
# Why a response is no success

The status of a response alone decides which failure it stands for. The body can only add to the
text of that failure, and whatever it holds, it never puts another failure in its place.
-/
namespace Depot

/-- The texts among some values, in their order. -/
inductive Value.TextsAmong : List Value → List String → Prop where
  | nil : TextsAmong [] []
  | text {s : String} {vs : List Value} {texts : List String} (rest : TextsAmong vs texts) :
    TextsAmong (.text s :: vs) (s :: texts)
  | other {v : Value} {vs : List Value} {texts : List String} (h : ∀ s, v ≠ .text s)
      (rest : TextsAmong vs texts) : TextsAmong (v :: vs) texts

namespace Exchange

/-- The texts that a body names as errors: those in the list of errors of a JSON object, and none if
the body is no such object. -/
inductive Names (body : ByteArray) : List String → Prop where
  | listed {fields : Fields} {items : List Value} {texts : List String}
      (read : Value.parse? (Text.Utf8.decode body) = some (.record fields))
      (errors : Table.get? "errors" fields = some (.list items))
      (among : Value.TextsAmong items texts) : Names body texts
  | unlisted (h : ∀ fields items, Value.parse? (Text.Utf8.decode body) = some (.record fields) →
      Table.get? "errors" fields ≠ some (.list items)) : Names body []

/-- The text of an item, if it is one. -/
def text? : Value → Option String
  | .text s => some s
  | _ => none

theorem textsAmong_iff {vs : List Value} {texts : List String} :
    Value.TextsAmong vs texts ↔ texts = vs.filterMap text? := by
  constructor
  · intro among
    induction among with
    | nil => rfl
    | text rest ih => rw [ih]; rfl
    | @other v vs texts h rest ih =>
      have none : text? v = none := by
        cases v with
        | text s => exact absurd rfl (h s)
        | _ => rfl
      rw [ih, List.filterMap_cons_none none]
  · rintro rfl
    induction vs with
    | nil => exact .nil
    | cons v rest ih =>
      cases v with
      | text s => exact .text ih
      | _ => exact .other (fun s h => by cases h) ih

theorem parse?_of_isEmpty {body : ByteArray} (h : body.isEmpty = true) :
    Value.parse? (Text.Utf8.decode body) = none := by
  have size : body.size = 0 := by simpa [ByteArray.isEmpty] using h
  have empty : body = ByteArray.empty := ByteArray.size_eq_zero_iff.mp size
  subst empty
  decide +kernel

/-- Only a record has a member that is a list. -/
theorem member_eq_list {v : Value} {k : String} {items : List Value} :
    v.member k = .list items ↔ ∃ fields, v = .record fields ∧
      Table.get? k fields = some (.list items) := by
  cases v with
  | record fields =>
    cases found : Table.get? k fields with
    | none => simp [Value.member, Value.optional, found]
    | some w => simp [Value.member, Value.optional, found]
  | _ => simp [Value.member]

theorem namedErrors_eq {body : ByteArray} {v : Value} {items : List Value}
    (read : Value.parse? (Text.Utf8.decode body) = some v) (errors : v.member "errors" = .list items) :
    namedErrors body = items.filterMap text? := by
  have content : ¬ body.isEmpty = true := by
    intro empty
    rw [parse?_of_isEmpty empty] at read
    cases read
  rw [namedErrors, if_neg content, read]
  simp only [errors]
  rfl

theorem namedErrors_eq_nil {body : ByteArray} (h : ∀ v items,
    Value.parse? (Text.Utf8.decode body) = some v → v.member "errors" ≠ .list items) :
    namedErrors body = [] := by
  unfold namedErrors
  split
  · rfl
  · split
    case h_1 v read =>
      split
      case h_1 items errors => exact absurd errors (h v items read)
      case h_2 => rfl
    case h_2 => rfl

/-- A body names one list of errors, and that is what is read from it. -/
theorem names_iff {body : ByteArray} {errors : List String} :
    Names body errors ↔ errors = namedErrors body := by
  constructor
  · intro names
    cases names with
    | listed read listed among =>
      rw [namedErrors_eq read (member_eq_list.mpr ⟨_, rfl, listed⟩), textsAmong_iff.mp among]
    | unlisted h =>
      symm
      apply namedErrors_eq_nil
      intro v items read found
      obtain ⟨fields, rfl, listed⟩ := member_eq_list.mp found
      exact h fields items read listed
  · rintro rfl
    by_cases h : ∃ v items, Value.parse? (Text.Utf8.decode body) = some v ∧
        v.member "errors" = .list items
    · obtain ⟨v, items, read, found⟩ := h
      obtain ⟨fields, rfl, listed⟩ := member_eq_list.mp found
      rw [namedErrors_eq read found]
      exact .listed read listed (textsAmong_iff.mpr rfl)
    · have other : ∀ v items, Value.parse? (Text.Utf8.decode body) = some v →
          v.member "errors" ≠ .list items := fun v items read found => h ⟨v, items, read, found⟩
      rw [namedErrors_eq_nil other]
      apply Names.unlisted
      intro fields items read listed
      exact other _ items read (member_eq_list.mpr ⟨fields, rfl, listed⟩)

end Exchange

namespace Failure

/-- The statuses with a failure of their own, with its name, its code, and its message where nothing
else is known. -/
inductive Own : Float → String → String → String → Prop where
  | badRequest : Own 400.0 "BadRequestError" "BAD_REQUEST" "Bad request"
  | unauthorized : Own 401.0 "UnauthorizedError" "UNAUTHORIZED" "Unauthorized"
  | notFound : Own 404.0 "NotFoundError" "NOT_FOUND" "Not found"
  | conflict : Own 409.0 "ConflictError" "CONFLICT" "Conflict"
  | payloadTooLarge : Own 413.0 "PayloadTooLargeError" "PAYLOAD_TOO_LARGE" "Payload too large"

/-- What is said about a response: the errors that it names, or the text of its status. -/
def said (statusText : String) (errors : List String) : String :=
  if errors = [] then statusText else "; ".intercalate errors

/-- What a failure tells of a response that has this status and this text, and names these errors. -/
structure Tells (status : Float) (statusText : String) (errors : List String) (f : Failure) :
    Prop where
  answered : f.status? = some status
  details : f.details? = if errors = [] then none else some [("errors", .list (errors.map .text))]
  own : ∀ name code default, Own status name code default →
    f.name = name ∧ f.code?.map ErrorCode.text = some code ∧
      f.message = if said statusText errors = "" then default else said statusText errors
  other : (∀ name code default, ¬ Own status name code default) →
    f.name = "HttpError" ∧ f.code?.map ErrorCode.text = some "HTTP_ERROR" ∧
      f.message = Text.trim
        ("HTTP error: " ++ Number.text status ++ " " ++ said statusText errors)

theorem own_iff {status : Float} {name code default : String} :
    Own status name code default ↔ ∃ kind, Rejection.ofStatus? status = some kind ∧
      kind.name = name ∧ kind.code.text = code ∧ kind.defaultMessage = default := by
  constructor
  · intro h
    cases h with
    | badRequest => exact ⟨.badRequest, by decide +kernel, rfl, rfl, rfl⟩
    | unauthorized => exact ⟨.unauthorized, by decide +kernel, rfl, rfl, rfl⟩
    | notFound => exact ⟨.notFound, by decide +kernel, rfl, rfl, rfl⟩
    | conflict => exact ⟨.conflict, by decide +kernel, rfl, rfl, rfl⟩
    | payloadTooLarge => exact ⟨.payloadTooLarge, by decide +kernel, rfl, rfl, rfl⟩
  · intro ⟨kind, found, hname, hcode, hdefault⟩
    have equal : (status == Float.ofNat kind.status) = true := by simpa using List.find?_some found
    subst hname hcode hdefault
    cases kind with
    | badRequest => exact Number.eq_of_beq (y := 400.0) equal (by decide +kernel) ▸ .badRequest
    | unauthorized => exact Number.eq_of_beq (y := 401.0) equal (by decide +kernel) ▸ .unauthorized
    | notFound => exact Number.eq_of_beq (y := 404.0) equal (by decide +kernel) ▸ .notFound
    | conflict => exact Number.eq_of_beq (y := 409.0) equal (by decide +kernel) ▸ .conflict
    | payloadTooLarge =>
      exact Number.eq_of_beq (y := 413.0) equal (by decide +kernel) ▸ .payloadTooLarge

theorem tells_ofStatus (status : Float) (statusText : String) (errors : List String) :
    (ofStatus status statusText errors).Tells status statusText errors := by
  have details : (if errors.isEmpty then none else some [("errors", .list (errors.map .text))] :
      Option Fields) = if errors = [] then none else some [("errors", .list (errors.map .text))] := by
    simp only [List.isEmpty_iff]
  have message : (if errors.isEmpty then statusText else "; ".intercalate errors) =
      said statusText errors := by
    simp only [said, List.isEmpty_iff]
  cases found : Rejection.ofStatus? status with
  | some kind =>
    have value : ofStatus status statusText errors = .rejected kind
        (if said statusText errors = "" then kind.defaultMessage else said statusText errors)
        (if errors = [] then none else some [("errors", .list (errors.map .text))]) := by
      simp only [ofStatus, found, message, details, String.isEmpty_iff]
    rw [value]
    have equal : (status == Float.ofNat kind.status) = true := by simpa using List.find?_some found
    have nonzero : Number.rank (Float.ofNat kind.status) ≠ 0 := by
      cases kind <;> decide +kernel
    refine ⟨congrArg some (Number.eq_of_beq equal nonzero).symm, rfl, ?_, ?_⟩
    · intro name code default own
      obtain ⟨kind', found', rfl, rfl, rfl⟩ := own_iff.mp own
      rw [found] at found'
      cases found'
      exact ⟨rfl, rfl, rfl⟩
    · intro none_own
      exact (none_own _ _ _ (own_iff.mpr ⟨kind, found, rfl, rfl, rfl⟩)).elim
  | none =>
    have value : ofStatus status statusText errors = .http status (said statusText errors)
        (if errors = [] then none else some [("errors", .list (errors.map .text))]) := by
      simp only [ofStatus, found, message, details]
    rw [value]
    refine ⟨rfl, rfl, ?_, fun _ => ⟨rfl, rfl, rfl⟩⟩
    intro name code default own
    obtain ⟨kind, found', -⟩ := own_iff.mp own
    rw [found] at found'
    cases found'

end Failure

/-- Whatever happens, the job sends one call, waits for its answer, and fails like this if the answer
is the response. -/
def Job.RejectsOn {α : Type} (r : Response) (f : Failure) (j : Job α) : Prop :=
  ∀ desk, (Course.start desk j).Surely fun c => ∃ result a,
    c.result? = some result ∧ c.scene.arrived = [(0, a)] ∧
      (a.outcome = .ok r → result = .error f)

namespace Job
variable {α : Type} {r : Response} {f : Failure}

theorem rejectsOn_of_keeps {j : Job α} (answer : Outcome Response → Outcome α)
    (h : ∀ s : Scene, s.underWay = [] → j.Keeps (fun _ => True) (fun result s' => ∃ c moves a,
      result = some (answer a.outcome) ∧ s' = s.exchanged c moves a) s)
    (failed : answer (.ok r) = .error f) : j.RejectsOn r f := by
  intro desk
  refine (Course.surely_of_keeps (h ⟨[], desk, []⟩ rfl)).mono fun c hc => ?_
  rcases hc with ⟨result, ended, call, moves, a, answered, after⟩ | ⟨-, call, moves, a, stalled, -⟩
  · refine ⟨result, a, ended, ?_, fun brought => ?_⟩
    · rw [after, Scene.arrived_exchanged]
      rfl
    · rw [Option.some.inj answered, brought, failed]
  · cases stalled

theorem rejectsOn_exchange (failed : Exchange.failure? r = some f) (c : Call) :
    (exchange c).RejectsOn r f := by
  apply rejectsOn_of_keeps Exchange.answer
  · intro s idle
    refine (keeps_exchange_exchanged (fun _ _ _ => trivial) idle trivial trivial
      fun _ _ => trivial).mono ?_
    exact fun result s' _ h => ⟨c, h⟩
  · simp [Exchange.answer, failed]

theorem rejectsOn_exchangeAs (failed : Exchange.failure? r = some f) (decode : Decoder α)
    (c : Call) : (exchangeAs decode c).RejectsOn r f := by
  apply rejectsOn_of_keeps (Exchange.answerAs decode c)
  · intro s idle
    refine (keeps_exchangeAs_exchanged (fun _ _ _ => trivial) idle trivial trivial
      fun _ _ => trivial).mono ?_
    exact fun result s' _ h => ⟨c, h⟩
  · exact Exchange.answerAs_of_error (by simp [Exchange.answer, failed])

end Job

/--
A response whose status is outside 200..299 stands for one failure. Its name and its code depend on
the status alone; it has the status, and the errors that the body names as its details, if there are
any; and its message is made of these, or else of the text of the status. Whatever the body holds,
every call that the response answers fails like this, whether its answer is to be read as data or is
handed on as bytes.
-/
theorem rejects_by_status {r : Response} (failed : ¬ (200.0 ≤ r.status ∧ r.status < 300.0)) :
    ∃ errors f, (∀ errors', Exchange.Names r.body errors' ↔ errors' = errors) ∧
      Failure.Tells r.status r.statusText errors f ∧
      (∀ c, (Job.exchange c).RejectsOn r f) ∧
      ∀ (α : Type) (decode : Decoder α) c, (Job.exchangeAs decode c).RejectsOn r f := by
  have unsuccessful : r.isSuccess = false := by
    rw [Bool.eq_false_iff]
    intro success
    rw [Response.isSuccess, Response.isSuccessStatus, Bool.and_eq_true, decide_eq_true_eq,
      decide_eq_true_eq] at success
    exact failed success
  have failure : Exchange.failure? r =
      some (.ofStatus r.status r.statusText (Exchange.namedErrors r.body)) := by
    simp [Exchange.failure?, unsuccessful]
  exact ⟨_, _, fun _ => Exchange.names_iff, Failure.tells_ofStatus ..,
    Job.rejectsOn_exchange failure, fun _ => Job.rejectsOn_exchangeAs failure⟩

/-- A conflict whose body names an error among other things. -/
theorem rejects_by_status_conflict :
    ∃ f : Failure, f.name = "ConflictError" ∧ f.code? = some .conflict ∧ f.message = "taken" ∧
      ∀ c, (Job.exchange c).RejectsOn
        ⟨409.0, "Conflict", [], "\x7b\"errors\":[null,\"taken\",7]\x7d".toUTF8⟩ f := by
  have outside : ¬ (200.0 ≤ (409.0 : Float) ∧ (409.0 : Float) < 300.0) := by decide +kernel
  obtain ⟨errors, f, only, tells, rejects, -⟩ := rejects_by_status
    (r := ⟨409.0, "Conflict", [], "\x7b\"errors\":[null,\"taken\",7]\x7d".toUTF8⟩) outside
  have named : errors = ["taken"] := by
    rw [← (only _).mp (Exchange.names_iff.mpr rfl)]
    decide +kernel
  subst named
  obtain ⟨name, code, message⟩ := tells.own _ _ _ .conflict
  refine ⟨f, name, ?_, message, rejects⟩
  obtain ⟨code', found, text⟩ := Option.map_eq_some_iff.mp code
  rw [found]
  cases code' <;> first | rfl | exact absurd text (by decide)

end Depot
