import Depot.Drive.Upload
import Depot.Proofs.Query.Resume
import Depot.Query.Pages
/-!
# Routes

The paths that the operations of bases, queries and drives ask for.
-/
namespace Depot

/-- What a request can ask for, below a base or a drive. -/
inductive Route where
  | items
  | item (key : String)
  | query
  | files
  | download
  | uploads
  | session (uploadId : String)
  | parts (uploadId : String)
  deriving DecidableEq

namespace Route

/-- The path of a route, as calls have it. -/
def path : Route → String
  | .items => "/items"
  | .item key => Base.itemPath key
  | .query => "/query"
  | .files => "/files"
  | .download => "/files/download"
  | .uploads => "/uploads"
  | .session uploadId => Drive.Upload.sessionPath uploadId
  | .parts uploadId => Drive.Upload.sessionPath uploadId ++ "/parts"

/-- What the segments of a route name: what the service calls them, and what the caller or the service
has named. -/
def names : Route → List String
  | .items => ["items"]
  | .item key => ["items", key]
  | .query => ["query"]
  | .files => ["files"]
  | .download => ["files", "download"]
  | .uploads => ["uploads"]
  | .session uploadId => ["uploads", uploadId]
  | .parts uploadId => ["uploads", uploadId, "parts"]

end Route

/-- The routes of an upload; which session it is, the service says. -/
def Route.OfUpload (r : Route) : Prop :=
  r = .files ∨ r = .uploads ∨ ∃ uploadId, r = .session uploadId ∨ r = .parts uploadId

/-- The operations of bases, queries and drives, and the routes to what they name. -/
inductive Job.IsOperation : {α : Type} → Job α → (Route → Prop) → Prop where
  | get (key : Value) : IsOperation (Base.get key) fun r => ∃ k, key = .text k ∧ r = .item k
  | delete (key : Value) : IsOperation (Base.delete key) fun r => ∃ k, key = .text k ∧ r = .item k
  | update (key : Value) (p : Patch) :
    IsOperation (Base.update key p) fun r => ∃ k, key = .text k ∧ r = .item k
  | commit (key : Option String) (p : Patch) :
    IsOperation (Base.commit key p) fun r => ∃ k, key = some k ∧ r = .item k
  | insert (base : String) (r : Record) : IsOperation (Base.insert base r) (· = .items)
  | put (base : String) (rs : List Record) : IsOperation (Base.put base rs) (· = .items)
  | putMany (base : String) (rs : List Record) : IsOperation (Base.putMany base rs) (· = .items)
  | fetch (bound : Bool) (q : Query) : IsOperation (Walk.fetch bound q) (· = .query)
  | walk (bound : Bool) (ref : Nat) (policy : PagePolicy) (budget : Nat) :
    IsOperation (Walk.run bound ref policy budget) (· = .query)
  | pull (bound : Bool) (p : Pages) : IsOperation (p.pull bound) (· = .query)
  | list (o : Drive.ListOptions) : IsOperation (Drive.list o) (· = .files)
  | listAll (front : Option String) (budget : Nat) :
    IsOperation (Drive.listAll front budget) (· = .files)
  | download (name : String) : IsOperation (Drive.download name) (· = .download)
  | deleteFiles (names : List String) : IsOperation (Drive.delete names) (· = .files)
  | store (saveAs : String) (content : Drive.FileContent) (o : Drive.UploadOptions) :
    IsOperation (Drive.store saveAs content o) Route.OfUpload

/-- Whether a call goes along one of some routes. -/
def Call.GoesAlong (routes : Route → Prop) (c : Call) : Prop := ∃ r, routes r ∧ c.path = r.path

namespace Drive.Upload

/-- The calls for a session that is open. -/
inductive IsSessionCall (saveAs uploadId : String) : Call → Prop where
  | part (part : Nat) (chunk : ByteArray) :
    IsSessionCall saveAs uploadId (partCall saveAs uploadId part chunk)
  | commit : IsSessionCall saveAs uploadId (commitCall saveAs uploadId)
  | abort : IsSessionCall saveAs uploadId (abortCall saveAs uploadId)

/-- The calls of an upload; which session they are for, the service says. -/
inductive IsCall (saveAs : String) : Call → Prop where
  | file (content : ByteArray) : IsCall saveAs (fileCall saveAs content)
  | opening : IsCall saveAs (openCall saveAs)
  | session (uploadId : String) {c : Call} (h : IsSessionCall saveAs uploadId c) : IsCall saveAs c

theorem IsCall.goesAlong {saveAs : String} {c : Call} (h : IsCall saveAs c) :
    c.GoesAlong Route.OfUpload := by
  cases h with
  | file => exact ⟨.files, .inl rfl, rfl⟩
  | opening => exact ⟨.uploads, .inr (.inl rfl), rfl⟩
  | session uploadId h =>
    cases h with
    | part => exact ⟨.parts uploadId, .inr (.inr ⟨_, .inr rfl⟩), rfl⟩
    | commit | abort => exact ⟨.session uploadId, .inr (.inr ⟨_, .inl rfl⟩), rfl⟩

end Drive.Upload

/-! ## The calls of the operations -/

theorem eq_text_of_validKey {key : Value} {k : String} (h : validKey key = .ok k) :
    key = .text k := by
  cases key with
  | text s =>
    rw [validKey] at h
    split at h
    · cases h
    · rw [Except.ok.inj h]
  | _ => cases h

namespace Job
variable {P : Call → Prop} {R : Nat → Prop}

theorem asksOnly_ofOutcome_bind {α β : Type} {x : Outcome α} {f : α → Job β}
    (h : ∀ a, x = .ok a → (f a).AsksOnly P R) : (ofOutcome x >>= f).AsksOnly P R := by
  cases x with
  | error e => trivial
  | ok a => exact h a rfl

/-- What is asked for an item is asked under its key. -/
theorem asksOnly_keyed {β : Type} {key : Value} {f : String → Job β}
    (h : ∀ k, key = .text k → (f k).AsksOnly P R) :
    (ofOutcome (validKey key) >>= f).AsksOnly P R :=
  asksOnly_ofOutcome_bind fun k hk => h k (eq_text_of_validKey hk)

theorem asksOnly_update {key : Value}
    (calls : ∀ k fields, key = .text k → P (.sending .patch (Base.itemPath k) fields)) (p : Patch) :
    (Base.update key p).AsksOnly P R :=
  asksOnly_keyed fun k hk => (asksOnly_require _ _).bind fun _ => asksOnly_exchangeAs (calls k _ hk)

theorem asksOnly_commit {key : Option String}
    (calls : ∀ k fields, key = some k → P (.sending .patch (Base.itemPath k) fields)) (p : Patch) :
    (Base.commit key p).AsksOnly P R := by
  cases key with
  | none => trivial
  | some key =>
    refine asksOnly_update (fun k fields hk => ?_) p
    cases hk
    exact calls key fields rfl

theorem asksOnly_insert (calls : ∀ fields, P (.sending .post "/items" fields)) (base : String)
    (r : Record) : (Base.insert base r).AsksOnly P R :=
  fun _ => (asksOnly_ofOutcome _).bind fun _ => (asksOnly_exchangeAs (calls _)).bind fun _ =>
    (asksOnly_say _).bind fun _ => trivial

theorem asksOnly_put (calls : ∀ fields, P (.sending .put "/items" fields)) (base : String)
    (rs : List Record) : (Base.put base rs).AsksOnly P R := by
  refine (asksOnly_require _ _).bind fun _ => (asksOnly_require _ _).bind fun _ => fun now => ?_
  refine (asksOnly_ofOutcome _).bind fun items => ?_
  refine (asksOnly_exchangeAs (calls _)).bind fun answer => ?_
  exact (asksOnly_sayAll _).bind fun _ => trivial

theorem asksOnly_putMany (calls : ∀ fields, P (.sending .put "/items" fields)) (base : String)
    (rs : List Record) : (Base.putMany base rs).AsksOnly P R := by
  have batches (batches : List (List Record)) (stored : Base.PutResult) :
      (Base.putBatches base batches stored).AsksOnly P R := by
    induction batches generalizing stored with
    | nil => trivial
    | cons batch rest ih => exact (asksOnly_put calls base batch).bind fun result => ih _
  exact (asksOnly_require _ _).bind fun _ => batches _ _

theorem asksOnly_pull (calls : ∀ q : Query, P q.pageCall) (bound : Bool) (p : Pages) :
    (p.pull bound).AsksOnly P R := by
  rcases p with ⟨_ | q⟩
  · trivial
  · exact (Walk.asksOnly_fetch calls bound q).bind fun _ => trivial

theorem asksOnly_listAll {front : Option String}
    (calls : ∀ last, P (.plain .get "/files" (Drive.ListOptions.mk front none last).params))
    (budget : Nat) : (Drive.listAll front budget).AsksOnly P R := by
  have pages (names : List String) (last : Option String) :
      (Drive.listFrom front budget names last).AsksOnly P R := by
    induction budget generalizing names last with
    | zero => trivial
    | succ budget ih =>
      refine (asksOnly_exchangeAs (calls last)).bind fun page => ?_
      cases page.next? with
      | none => trivial
      | some cursor => exact ih _ _
  exact pages [] none

theorem asksOnly_download {name : String}
    (call : P (.plain .get "/files/download" [("name", some (.text name))])) :
    (Drive.download name).AsksOnly P R :=
  (asksOnly_require _ _).bind fun _ => asksOnly_exchange call

theorem asksOnly_deleteFiles (calls : ∀ fields, P (.sending .delete "/files" fields))
    (names : List String) : (Drive.delete names).AsksOnly P R :=
  (asksOnly_require _ _).bind fun _ => (asksOnly_require _ _).bind fun _ =>
    asksOnly_exchangeAs (calls _)

open Drive.Upload

theorem asksOnly_tell (uploaded total : Nat) : (tell uploaded total).AsksOnly P R := by
  intro failure
  cases failure with
  | none => trivial
  | some f => exact asksOnly_say _

theorem asksOnly_single (saveAs : String) (content : ByteArray) :
    (single saveAs content).AsksOnly (IsCall saveAs) R :=
  (asksOnly_exchangeAs (.file content)).bind fun _ => (asksOnly_say _).bind fun _ =>
    (asksOnly_tell _ _).bind fun _ => trivial

theorem asksOnly_launchAll (p : Parts) (parts : List Nat) :
    (launchAll p parts).AsksOnly (IsCall p.saveAs) R := by
  induction parts with
  | nil => trivial
  | cons part rest ih => exact (asksOnly_send (.session p.uploadId (.part part _))).bind fun _ => ih

theorem asksOnly_reportPart (p : Parts) (s : Drive.Session) (part : Nat)
    (answer : Outcome ByteArray) : (reportPart p s part answer).AsksOnly P R := by
  cases answer with
  | error f => exact asksOnly_say _
  | ok body =>
    exact (asksOnly_say _).bind fun _ => (asksOnly_say _).bind fun _ => asksOnly_tell _ _

theorem asksOnly_settleAll (p : Parts) (unsettled : Nat) (pending : List Nat) (s : Drive.Session) :
    (settleAll p unsettled pending s).AsksOnly (IsCall p.saveAs) R := by
  induction unsettled generalizing pending s with
  | zero => trivial
  | succ unsettled ih =>
    intro part arrival
    refine (asksOnly_settle _ _).attempt.bind fun answer => ?_
    refine (asksOnly_reportPart p _ part answer).attempt.bind fun reported => ?_
    cases reported with
    | error f => exact ⟨ih _ _, trivial⟩
    | ok _ =>
      refine (asksOnly_launchAll p _).attempt.bind fun launched => ?_
      cases launched with
      | error f => exact ⟨ih _ _, trivial⟩
      | ok _ => exact ih _ _

theorem asksOnly_conclude (p : Parts) (s : Drive.Session) :
    (conclude p s).AsksOnly (IsCall p.saveAs) R := by
  rw [conclude]
  split
  · exact (asksOnly_exchangeAs (.session p.uploadId .commit)).bind fun _ =>
      (asksOnly_say _).bind fun _ => (asksOnly_say _).bind fun _ => trivial
  · exact (asksOnly_exchange (.session p.uploadId .abort)).bind fun _ =>
      (asksOnly_say _).bind fun _ => (asksOnly_say _).bind fun _ => trivial

theorem asksOnly_chunked (saveAs : String) (content : ByteArray) (plan : Drive.UploadPlan) :
    (chunked saveAs content plan).AsksOnly (IsCall saveAs) R := by
  refine (asksOnly_exchangeAs .opening).bind fun ticket => (asksOnly_say _).bind fun _ => ?_
  let p : Parts := ⟨saveAs, ticket.uploadId, content, plan.chunkSize⟩
  exact (asksOnly_launchAll p _).bind fun _ => (asksOnly_settleAll p _ _ _).bind fun _ =>
    asksOnly_conclude p _

theorem asksOnly_store (saveAs : String) (content : Drive.FileContent) (o : Drive.UploadOptions) :
    (Drive.store saveAs content o).AsksOnly (IsCall saveAs) R := by
  refine (asksOnly_ofOutcome _).bind fun plan => ?_
  split
  · exact asksOnly_single saveAs _
  · exact asksOnly_chunked saveAs _ plan

/-- Every operation asks along the routes to what it names only. -/
theorem IsOperation.asksOnly {α : Type} {j : Job α} {routes : Route → Prop}
    (h : j.IsOperation routes) : j.AsksOnly (Call.GoesAlong routes) fun _ => True := by
  cases h with
  | get key | delete key =>
    exact asksOnly_keyed fun k hk => asksOnly_exchangeAs ⟨.item k, ⟨k, hk, rfl⟩, rfl⟩
  | update key p => exact asksOnly_update (fun k _ hk => ⟨.item k, ⟨k, hk, rfl⟩, rfl⟩) p
  | commit key p => exact asksOnly_commit (fun k _ hk => ⟨.item k, ⟨k, hk, rfl⟩, rfl⟩) p
  | insert base r => exact asksOnly_insert (fun _ => ⟨.items, rfl, rfl⟩) base r
  | put base rs => exact asksOnly_put (fun _ => ⟨.items, rfl, rfl⟩) base rs
  | putMany base rs => exact asksOnly_putMany (fun _ => ⟨.items, rfl, rfl⟩) base rs
  | fetch bound q => exact Walk.asksOnly_fetch (fun _ => ⟨.query, rfl, rfl⟩) bound q
  | walk bound ref policy budget =>
    exact (Walk.asksOnly_run (fun _ => ⟨.query, rfl, rfl⟩) bound ref policy budget).mono
      (fun _ => id) fun _ _ => trivial
  | pull bound p => exact asksOnly_pull (fun _ => ⟨.query, rfl, rfl⟩) bound p
  | list o => exact asksOnly_exchangeAs ⟨.files, rfl, rfl⟩
  | listAll front budget => exact asksOnly_listAll (fun _ => ⟨.files, rfl, rfl⟩) budget
  | download name => exact asksOnly_download ⟨.download, rfl, rfl⟩
  | deleteFiles names => exact asksOnly_deleteFiles (fun _ => ⟨.files, rfl, rfl⟩) names
  | store saveAs content o =>
    have asks : (Drive.store saveAs content o).AsksOnly _ fun _ => True := asksOnly_store ..
    exact asks.mono (fun _ => IsCall.goesAlong) fun _ => id

end Job
end Depot
