import Depot.Proofs.Base.PutMany
import Depot.Proofs.Decode.Items
import Depot.Proofs.Incidents
import Depot.Proofs.Report.Failures
/-!
# Items pass unchanged

Operations that hand on what a service sends send one call at most and read the answer to it. What
they come to is told by the value in the body: it holds items, and these are the result; or it does
not, and the operation fails because its answer cannot be read.
-/
namespace Depot

namespace Exchange
variable {α β : Type} (decode : Decoder α) (c : Call)

section Reading
variable {decode} {body : ByteArray} {v : Value} (read : readBody body = .ok v)
include read

theorem readAs_ok {a : α} (decoded : (decode v).toExcept = .ok a) :
    readAs decode c body = .ok a := by
  simp only [readAs, read, decoded, bind, Except.bind]

theorem readAs_issues {issues : List Issue} (decoded : (decode v).toExcept = .error issues) :
    readAs decode c body = .error (.serialization
      ("unexpected response body for " ++ c.method.text ++ " " ++ c.path) none
      (some [("issues", .list (issues.map fun i => .text i.text))])) := by
  simp only [readAs, read, decoded, bind, Except.bind]

end Reading

/-- What a success comes to whose body is a JSON text. -/
theorem answerAs_of_parse {r : Response} (success : r.isSuccess = true) {v : Value}
    (parsed : Value.parse? (Text.Utf8.decode r.body) = some v) :
    (∀ a, answerAs decode c (.ok r) = .ok a ↔ (decode v).toExcept = .ok a) ∧
      ((∀ a, (decode v).toExcept ≠ .ok a) → ∃ message details,
        answerAs decode c (.ok r) = .error (.serialization message none (some details))) := by
  have body : answer (.ok r) = .ok r.body := by simp [answer, failure?, success]
  have read : readBody r.body = .ok v := by rw [readBody, parsed]
  have reads : answerAs decode c (.ok r) = readAs decode c r.body := by
    rw [answerAs, body]
    rfl
  rw [reads]
  cases decoded : (decode v).toExcept with
  | ok a =>
    rw [readAs_ok c read decoded]
    exact ⟨fun b => by simp, fun none => absurd rfl (none a)⟩
  | error issues =>
    rw [readAs_issues c read decoded]
    exact ⟨fun b => by simp, fun _ => ⟨_, _, rfl⟩⟩

theorem answerAs_map (g : α → β) (outcome : Outcome Response) :
    answerAs (Decoder.map g decode) c outcome = (answerAs decode c outcome).map g := by
  rw [answerAs, answerAs]
  cases answer outcome with
  | error f => rfl
  | ok body =>
    change readAs _ c body = (readAs decode c body).map g
    cases read : readBody body with
    | error f =>
      rw [readAs, readAs, read]
      rfl
    | ok v =>
      have mapped : (Decoder.map g decode v).toExcept = (decode v).toExcept.map g :=
        Decoded.toExcept_map g (decode v)
      cases decoded : (decode v).toExcept with
      | ok a =>
        rw [decoded] at mapped
        rw [readAs_ok c read mapped, readAs_ok c read decoded]
        rfl
      | error issues =>
        rw [decoded] at mapped
        rw [readAs_issues c read mapped, readAs_issues c read decoded]
        rfl

end Exchange

namespace Job
variable {α β : Type} {decode : Decoder α}

/-- Whether a job that begins with nothing under way always ends, and has then heard nothing, or one
answer, of which its result is read. -/
def ReadsBy (decode : Decoder α) (j : Job α) : Prop :=
  ∀ s : Scene, s.underWay = [] → s.arrived = [] → j.Keeps (fun _ => True)
    (fun result s' => ∃ x, result = some x ∧ (s'.arrived = [] ∨
      ∃ c a, s'.arrived = [(0, a)] ∧ x = Exchange.answerAs decode c a.outcome)) s

theorem readsBy_fail (f : Failure) : (fail f : Job α).ReadsBy decode :=
  fun _ _ none => ⟨trivial, _, rfl, .inl none⟩

theorem readsBy_ofOutcome_bind {x : Outcome β} {f : β → Job α}
    (h : ∀ b, x = .ok b → (f b).ReadsBy decode) : (ofOutcome x >>= f).ReadsBy decode := by
  cases x with
  | error e => exact readsBy_fail e
  | ok b => exact h b rfl

theorem readsBy_require_bind {holds : Bool} {p : Precondition} {f : Unit → Job α}
    (h : (f ()).ReadsBy decode) : (require holds p >>= f).ReadsBy decode := by
  cases holds with
  | true => exact h
  | false => exact readsBy_fail p.failure

theorem readsBy_clock {next : Option Instant → Job α} (h : ∀ t, (next t).ReadsBy decode) :
    (clock next).ReadsBy decode :=
  fun s idle none => ⟨trivial, fun t => h t _ idle (by simp [none])⟩

theorem readsBy_query {ref : Nat} {next : Query → Job α} (h : ∀ q, (next q).ReadsBy decode) :
    (query ref next).ReadsBy decode :=
  fun s idle none => ⟨trivial, h _ _ idle (by simp [none])⟩

/-- The first exchange brings the first answer. -/
theorem keeps_exchangeAs_arrived (decode : Decoder α) (c : Call) {s : Scene} (idle : s.underWay = [])
    (none : s.arrived = []) : (exchangeAs decode c).Keeps (fun _ => True) (fun result s' =>
      ∃ a, s'.arrived = [(0, a)] ∧ result = some (Exchange.answerAs decode c a.outcome)) s := by
  refine (keeps_exchangeAs_exchanged (fun _ _ _ => trivial) idle trivial trivial
    fun _ _ => trivial).mono ?_
  rintro _ s' - ⟨moves, a, rfl, rfl⟩
  exact ⟨a, by simp [none], rfl⟩

theorem readsBy_exchangeAs (decode : Decoder α) (c : Call) :
    (exchangeAs decode c).ReadsBy decode := by
  intro s idle none
  refine (keeps_exchangeAs_arrived decode c idle none).mono ?_
  rintro _ s' - ⟨a, arrived, rfl⟩
  exact ⟨_, rfl, .inr ⟨c, a, arrived, rfl⟩⟩

/-- A job that goes on after an answer was read, and makes its result of that without asking for
more. -/
theorem readsBy_exchangeAs_bind {c : Call} {g : α → β} {f : α → Job β}
    (h : ∀ a s, (f a).Keeps (fun _ => True) (fun result s' =>
      result = some (.ok (g a)) ∧ s'.arrived = s.arrived) s) :
    (exchangeAs decode c >>= f).ReadsBy (Decoder.map g decode) := by
  intro s idle none
  refine Keeps.bind ((keeps_exchangeAs_arrived decode c idle none).mono ?_)
  rintro _ s' - ⟨a, arrived, rfl⟩
  have mapped := Exchange.answerAs_map decode c g a.outcome
  cases read : Exchange.answerAs decode c a.outcome with
  | error e =>
    rw [read] at mapped
    exact ⟨_, rfl, .inr ⟨c, a, arrived, mapped.symm⟩⟩
  | ok b =>
    rw [read] at mapped
    refine (h b _).mono ?_
    rintro _ s'' - ⟨rfl, same⟩
    exact ⟨_, rfl, .inr ⟨c, a, same.trans arrived, mapped.symm⟩⟩

/-- Reports after an answer bring none. -/
theorem keeps_sayAll_pure (rs : List Report) (b : β) (s : Scene) :
    (sayAll rs >>= fun _ => (pure b : Job β)).Keeps (fun _ => True) (fun result s' =>
      result = some (.ok b) ∧ s'.arrived = s.arrived) s := by
  refine Keeps.bind ((keeps_sayAll_heard rs (fun _ _ _ => trivial) trivial).mono ?_)
  rintro _ s' - ⟨rfl, rfl⟩
  exact ⟨trivial, rfl, by simp⟩

end Job

namespace Base

/-- The result of a bulk put that was answered like this. -/
def PutResult.ofAnswer (a : PutAnswer) : PutResult := ⟨a.processed.getD [], a.failed.getD []⟩

theorem PutResult.decode_eq_ok {v : Value} (h : v.IsJson) {r : PutResult} :
    (Decoder.map ofAnswer PutAnswer.decode v).toExcept = .ok r ↔ r.IsIn v := by
  simp only [Decoder.map, PutAnswer.decode, Decoded.map_eq_ok, Decoder.record_eq_ok,
    Decoded.both_eq_ok]
  constructor
  · rintro ⟨_, ⟨⟨fields, rfl⟩, _, failed, ⟨processed, read, rfl⟩, read', rfl⟩, rfl⟩
    exact ⟨fields, rfl, (PutAnswer.field_eq_ok h).mp ⟨_, read, rfl⟩,
      (PutAnswer.field_eq_ok h).mp ⟨_, read', rfl⟩⟩
  · rintro ⟨fields, rfl, processed, failed⟩
    obtain ⟨processed, read, first⟩ := (PutAnswer.field_eq_ok h).mpr processed
    obtain ⟨failed, read', second⟩ := (PutAnswer.field_eq_ok h).mpr failed
    refine ⟨⟨processed, failed⟩, ⟨⟨fields, rfl⟩, _, failed, ⟨processed, read, rfl⟩, read', rfl⟩, ?_⟩
    rw [ofAnswer, first, second]

theorem readsBy_get (key : Value) : (get key).ReadsBy Item.decode :=
  Job.readsBy_ofOutcome_bind fun _ _ => Job.readsBy_exchangeAs _ _

theorem readsBy_insert (base : String) (r : Record) :
    (insert base r).ReadsBy (Decoder.map id Item.decode) := by
  apply Job.readsBy_clock
  intro now
  apply Job.readsBy_ofOutcome_bind
  intro item _
  apply Job.readsBy_exchangeAs_bind
  intro created s
  exact Job.keeps_sayAll_pure [.tick .recordsWritten [("base", base)]] created s

theorem readsBy_put (base : String) (rs : List Record) :
    (put base rs).ReadsBy (Decoder.map PutResult.ofAnswer PutAnswer.decode) := by
  apply Job.readsBy_require_bind
  apply Job.readsBy_require_bind
  apply Job.readsBy_clock
  intro now
  apply Job.readsBy_ofOutcome_bind
  intro items _
  apply Job.readsBy_exchangeAs_bind
  intro answer s
  exact Job.keeps_sayAll_pure (putReports base (PutResult.ofAnswer answer)) _ s

end Base

theorem Walk.readsBy_fetch (bound : Bool) (q : Query) : (fetch bound q).ReadsBy Page.decode :=
  Job.readsBy_require_bind (Job.readsBy_exchangeAs _ _)

/-- The operations that hand on items, and what of a value they come to if it holds that. -/
inductive Job.HandsOn : {α : Type} → Job α → (Value → α → Prop) → Prop where
  | get (key : Value) : HandsOn (Base.get key) Item.IsIn
  | insert (base : String) (r : Record) : HandsOn (Base.insert base r) Item.IsIn
  | put (base : String) (rs : List Record) : HandsOn (Base.put base rs) Base.PutResult.IsIn
  | fetch (bound : Bool) (q : Query) : HandsOn (Walk.fetch bound q) Page.IsIn
  | run (bound : Bool) (ref : Nat) : HandsOn (.query ref (Walk.fetch bound)) Page.IsIn

theorem Job.HandsOn.exists_decoder {α : Type} {j : Job α} {isIn : Value → α → Prop}
    (h : j.HandsOn isIn) : ∃ decode, j.ReadsBy decode ∧
      ∀ v, v.IsJson → ∀ x, (decode v).toExcept = .ok x ↔ isIn v x := by
  cases h with
  | get key => exact ⟨_, Base.readsBy_get key, fun v json x => Item.decode_eq_ok json⟩
  | insert base r =>
    refine ⟨_, Base.readsBy_insert base r, fun v json x => ?_⟩
    rw [Decoder.map, Decoded.map_eq_ok, ← Item.decode_eq_ok json]
    simp
  | put base rs =>
    exact ⟨_, Base.readsBy_put base rs, fun v json x => Base.PutResult.decode_eq_ok json⟩
  | fetch bound q => exact ⟨_, Walk.readsBy_fetch bound q, fun v json x => Page.decode_eq_ok json⟩
  | run bound ref =>
    exact ⟨_, Job.readsBy_query fun q => Walk.readsBy_fetch bound q,
      fun v json x => Page.decode_eq_ok json⟩

/--
An operation that hands on items always ends. When it has been answered with a success whose body is
the JSON text of a value, then it comes to just what the value holds: an item is there if the value
is a record with a text for its key, and it is the whole record, at every depth and in its order, but
for the members that records do not keep; a page and the answer to a bulk put are there if each of
their elements is an item. If the value holds nothing of the kind, the operation fails, because its
answer cannot be read.
-/
theorem hands_on_items {α : Type} {j : Job α} {isIn : Value → α → Prop} (operation : j.HandsOn isIn)
    (desk : Desk) :
    ((Course.start desk j).Surely fun c => ∃ result, c.result? = some result) ∧
    ∀ turns c result a r v, (Course.start desk j).run turns = some c → c.result? = some result →
      c.scene.arrived = [(0, a)] → a.outcome = .ok r → r.isSuccess = true →
      Value.parse? (Text.Utf8.decode r.body) = some v →
        (∀ x, result = .ok x ↔ isIn v x) ∧
          ((∀ x, ¬ isIn v x) → ∃ message details,
            result = .error (.serialization message none (some details))) := by
  obtain ⟨decode, reads, accepts⟩ := operation.exists_decoder
  have keeps := reads ⟨[], desk, []⟩ rfl rfl
  refine ⟨Course.surely_ends_of_keeps keeps fun s => by simp, ?_⟩
  intro turns c result a r v run ended arrived brought success parsed
  obtain ⟨x, same, heard⟩ := Course.post_of_keeps (Course.keeps_of_run keeps run) ended
  cases same
  rcases heard with silent | ⟨call, a', arrived', read⟩
  · rw [silent] at arrived
    cases arrived
  · rw [arrived] at arrived'
    cases arrived'
    have json := Value.isJson_of_parse parsed
    obtain ⟨ok, unread⟩ := Exchange.answerAs_of_parse decode call success parsed
    rw [brought] at read
    subst read
    refine ⟨fun x => (ok x).trans (accepts v json x), fun none => unread fun x held => ?_⟩
    exact none x ((accepts v json x).mp held)

/-- An item with members of a name that records do not keep. -/
theorem hands_on_items_pruned : ∃ c i v,
    (Course.start ⟨none, [], []⟩ (Base.get (.text "k"))).run
      (answeredWith 200.0 "\x7b\"__proto__\":1,\"key\":\"k\",\"a\":[\x7b\"__proto__\":2\x7d]\x7d" 2) =
        some c ∧
      c.result? = some (.ok i) ∧ i.IsIn v ∧ Table.keys i.fields = ["key", "a"] := by
  let body := "\x7b\"__proto__\":1,\"key\":\"k\",\"a\":[\x7b\"__proto__\":2\x7d]\x7d"
  have parses : (Value.parse? (Text.Utf8.decode body.toUTF8)).isSome = true := by decide +kernel
  obtain ⟨v, parsed⟩ := Option.isSome_iff_exists.mp parses
  have ends : ((Course.start ⟨none, [], []⟩ (Base.get (.text "k"))).run
      (answeredWith 200.0 body 2)).map (fun c => c.result?.map fun result =>
        result.toOption.map fun i => Table.keys i.fields) = some (some (some ["key", "a"])) := by
    decide +kernel
  obtain ⟨c, run, shown⟩ := Option.map_eq_some_iff.mp ends
  obtain ⟨result, ended, kept⟩ := Option.map_eq_some_iff.mp shown
  cases result with
  | error e => cases kept
  | ok i =>
    have arrived := Course.arrived_of_run run
    have only := (hands_on_items (.get (.text "k")) _).2 _ c _ _ _ v run ended arrived rfl
      (by decide +kernel) parsed
    exact ⟨c, i, v, run, ended, (only.1 i).mp rfl, Option.some.inj kept⟩

end Depot
