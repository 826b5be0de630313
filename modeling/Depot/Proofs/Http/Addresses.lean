import Depot.Proofs.Drive.Listings
import Depot.Proofs.Drive.Single
import Depot.Proofs.Http.Reaching
import Depot.Proofs.Url.Address
/-!
# Addresses of the operations

What the addresses of the requests are read back as: the key of an item or the session of an upload
as one name on the path, and the parameters that the operation has set, each in its place.
-/
namespace Depot

open Url (Address decode?)
open Text.Percent (encode)

/-- The address of a call that goes along a route is read back as what the route names, and the
parameters of the call. -/
theorem Endpoint.read?_request {c : Call} {r : Route} (h : c.path = r.path) (e : Endpoint) :
    Address.read? e.rootUrl (e.request c).url = some ⟨r.names, c.params.defined⟩ := by
  refine Address.read?_eq ?_
  have path : c.path.toList = (r.names.map fun n => (encode n).toList).flatMap ('/' :: ·) := by
    rw [h, Route.toList_path]
    rfl
  rw [Endpoint.request, Endpoint.url, String.toList_append, String.toList_append, path,
    List.append_assoc]

/-- Whether the address of a call, wherever it is sent, is read back as one of some addresses. -/
def Call.IsAddressed (targets : Address → Prop) (c : Call) : Prop :=
  ∃ a, targets a ∧ ∀ e : Endpoint, Address.read? e.rootUrl (e.request c).url = some a

theorem Call.isAddressed {targets : Address → Prop} {c : Call} (r : Route) (h : c.path = r.path)
    (ht : targets ⟨r.names, c.params.defined⟩) : c.IsAddressed targets :=
  ⟨_, ht, Endpoint.read?_request h⟩

namespace Drive

/-- The parameters of a listing as texts, those without a value left out. -/
def ListOptions.texts (o : ListOptions) : List (String × String) :=
  ("limit", o.limit.elim "1000" Number.text) :: (o.front.map ("prefix", ·)).toList ++
    (o.last.map ("last", ·)).toList

theorem ListOptions.defined_params (o : ListOptions) : o.params.defined = o.texts := by
  have limit : (o.limit.elim (.nat defaultPageLimit) .number : Param).toText =
      o.limit.elim "1000" Number.text := by
    cases o.limit with
    | none => decide
    | some x => rfl
  obtain ⟨front, number, last⟩ := o
  rw [texts, ← limit]
  cases front <;> cases last <;> rfl

/-- What the requests of an upload ask for. -/
inductive Upload.Target (saveAs : String) : Address → Prop where
  | file : Target saveAs ⟨["files"], [("name", saveAs)]⟩
  | opening : Target saveAs ⟨["uploads"], [("name", saveAs)]⟩
  | part (uploadId : String) (part : Nat) :
    Target saveAs ⟨["uploads", uploadId, "parts"], [("name", saveAs), ("part", toString part)]⟩
  | session (uploadId : String) : Target saveAs ⟨["uploads", uploadId], [("name", saveAs)]⟩

end Drive

/-- The operations of bases, queries and drives, and what their requests ask for. -/
inductive Job.Addresses : {α : Type} → Job α → (Address → Prop) → Prop where
  | get (key : Value) :
    Addresses (Base.get key) fun a => ∃ k, key = .text k ∧ a = ⟨["items", k], []⟩
  | delete (key : Value) :
    Addresses (Base.delete key) fun a => ∃ k, key = .text k ∧ a = ⟨["items", k], []⟩
  | update (key : Value) (p : Patch) :
    Addresses (Base.update key p) fun a => ∃ k, key = .text k ∧ a = ⟨["items", k], []⟩
  | commit (key : Option String) (p : Patch) :
    Addresses (Base.commit key p) fun a => ∃ k, key = some k ∧ a = ⟨["items", k], []⟩
  | insert (base : String) (r : Record) : Addresses (Base.insert base r) (· = ⟨["items"], []⟩)
  | put (base : String) (rs : List Record) : Addresses (Base.put base rs) (· = ⟨["items"], []⟩)
  | putMany (base : String) (rs : List Record) :
    Addresses (Base.putMany base rs) (· = ⟨["items"], []⟩)
  | fetch (bound : Bool) (q : Query) : Addresses (Walk.fetch bound q) (· = ⟨["query"], []⟩)
  | walk (bound : Bool) (ref : Nat) (policy : PagePolicy) (budget : Nat) :
    Addresses (Walk.run bound ref policy budget) (· = ⟨["query"], []⟩)
  | pull (bound : Bool) (p : Pages) : Addresses (p.pull bound) (· = ⟨["query"], []⟩)
  | list (o : Drive.ListOptions) : Addresses (Drive.list o) (· = ⟨["files"], o.texts⟩)
  | listAll (front : Option String) (budget : Nat) : Addresses (Drive.listAll front budget)
      fun a => ∃ last, a = ⟨["files"], (Drive.ListOptions.mk front none last).texts⟩
  | download (name : String) :
    Addresses (Drive.download name) (· = ⟨["files", "download"], [("name", name)]⟩)
  | deleteFiles (names : List String) : Addresses (Drive.delete names) (· = ⟨["files"], []⟩)
  | store (saveAs : String) (content : Drive.FileContent) (o : Drive.UploadOptions) :
    Addresses (Drive.store saveAs content o) (Drive.Upload.Target saveAs)

theorem Drive.Upload.IsCall.isAddressed {saveAs : String} {c : Call} (h : IsCall saveAs c) :
    c.IsAddressed (Target saveAs) := by
  cases h with
  | file => exact Call.isAddressed .files rfl .file
  | opening => exact Call.isAddressed .uploads rfl .opening
  | session uploadId h =>
    cases h with
    | part part => exact Call.isAddressed (.parts uploadId) rfl (.part uploadId part)
    | commit | abort => exact Call.isAddressed (.session uploadId) rfl (.session uploadId)

theorem Drive.Upload.IsSessionCall.read? {saveAs uploadId : String} {c : Call}
    (h : IsSessionCall saveAs uploadId c) (e : Endpoint) : ∃ names params,
      Address.read? e.rootUrl (e.request c).url =
        some ⟨"uploads" :: uploadId :: names, params⟩ := by
  cases h with
  | part => exact ⟨_, _, e.read?_request (r := .parts uploadId) rfl⟩
  | commit | abort => exact ⟨_, _, e.read?_request (r := .session uploadId) rfl⟩

theorem Job.Addresses.asksOnly {α : Type} {j : Job α} {targets : Address → Prop}
    (h : j.Addresses targets) : j.AsksOnly (Call.IsAddressed targets) fun _ => True := by
  cases h with
  | get key | delete key =>
    exact asksOnly_keyed fun k hk =>
      asksOnly_exchangeAs (Call.isAddressed (.item k) rfl ⟨k, hk, rfl⟩)
  | update key p =>
    exact asksOnly_update (fun k _ hk => Call.isAddressed (.item k) rfl ⟨k, hk, rfl⟩) p
  | commit key p =>
    exact asksOnly_commit (fun k _ hk => Call.isAddressed (.item k) rfl ⟨k, hk, rfl⟩) p
  | insert base r => exact asksOnly_insert (fun _ => Call.isAddressed .items rfl rfl) base r
  | put base rs => exact asksOnly_put (fun _ => Call.isAddressed .items rfl rfl) base rs
  | putMany base rs => exact asksOnly_putMany (fun _ => Call.isAddressed .items rfl rfl) base rs
  | fetch bound q => exact Walk.asksOnly_fetch (fun _ => Call.isAddressed .query rfl rfl) bound q
  | walk bound ref policy budget =>
    have asks := Walk.asksOnly_run (P := Call.IsAddressed (· = ⟨["query"], []⟩))
      (fun _ => Call.isAddressed .query rfl rfl) bound ref policy budget
    exact asks.mono (fun _ => id) fun _ _ => trivial
  | pull bound p => exact asksOnly_pull (fun _ => Call.isAddressed .query rfl rfl) bound p
  | list o =>
    refine asksOnly_exchangeAs (Call.isAddressed .files rfl ?_)
    exact congrArg (Address.mk _) o.defined_params
  | listAll front budget =>
    refine asksOnly_listAll (fun last => Call.isAddressed .files rfl ⟨last, ?_⟩) budget
    exact congrArg (Address.mk _) (Drive.ListOptions.defined_params _)
  | download name => exact asksOnly_download (Call.isAddressed .download rfl rfl)
  | deleteFiles names => exact asksOnly_deleteFiles (fun _ => Call.isAddressed .files rfl rfl) names
  | store saveAs content o =>
    have asks : (Drive.store saveAs content o).AsksOnly _ fun _ => True := asksOnly_store ..
    exact asks.mono (fun _ => Drive.Upload.IsCall.isAddressed) fun _ => id

/-! ## Courses -/

namespace Drive.Upload
variable {saveAs : String} {content : ByteArray} {plan : UploadPlan}

/-- A call of an upload in parts opens a session, or is for the one that the first answer names. -/
theorem AtPhase.mem_sent {s : Scene} (h : AtPhase saveAs content plan s) {c : Call}
    (hc : c ∈ s.sent) : c = openCall saveAs ∨ ∃ a t, s.arrived.head? = some (0, a) ∧
      opened saveAs a = .ok t ∧ IsSessionCall saveAs t.uploadId c := by
  have ends (t : UploadTicket) (settled : List (Nat × Arrival)) :
      IsSessionCall saveAs t.uploadId (endCall (partsOf saveAs content plan t) settled) := by
    rw [endCall]
    split
    · exact .commit
    · exact .abort
  unfold AtPhase at h
  generalize s.sent = sent, s.arrived = arrived, s.underWay = underWay at h hc
  cases h with
  | silent => cases hc
  | opening | refused => exact .inl (List.mem_singleton.mp hc)
  | sending a t ha asked settled _ each width =>
    rcases List.mem_cons.mp hc with rfl | hc
    · exact .inl rfl
    · obtain ⟨part, -, rfl⟩ := List.mem_map.mp hc
      exact .inr ⟨a, t, rfl, ha, .part part _⟩
  | ending a t ha settled each | ended a t ha settled b each =>
    rcases List.mem_append.mp hc with hc | hc
    · rcases List.mem_cons.mp hc with rfl | hc
      · exact .inl rfl
      · obtain ⟨part, -, rfl⟩ := List.mem_map.mp hc
        exact .inr ⟨a, t, rfl, ha, .part part _⟩
    · rw [List.mem_singleton.mp hc]
      exact .inr ⟨a, t, rfl, ha, ends t settled⟩

/-- A call of an upload sends the whole content, opens a session, or is for the one that the first
answer names. -/
theorem mem_sent_of_store {content : FileContent} {o : UploadOptions} {desk : Desk}
    {turns : List Turn} {c : Course UploadResult}
    (run : (Course.start desk (store saveAs content o)).run turns = some c) {call : Call}
    (hc : call ∈ c.scene.sent) : call = fileCall saveAs content.toBytes ∨ call = openCall saveAs ∨
      ∃ a t, c.scene.arrived.head? = some (0, a) ∧ opened saveAs a = .ok t ∧
        IsSessionCall saveAs t.uploadId call := by
  rw [store] at run
  cases planned : o.plan saveAs with
  | error f =>
    rw [upload, planned] at run
    have nothing : ∀ call ∈ c.scene.sent, False := by
      have asks : (Job.ofOutcome (.error f) : Job UploadResult).AsksOnly (fun _ => False)
          fun _ => True := Job.asksOnly_ofOutcome _
      exact Course.sent_of_asksOnly asks (fun _ h => (List.not_mem_nil h).elim) run
    exact (nothing call hc).elim
  | ok plan =>
    rw [upload_of_plan planned] at run
    split at run
    · have kept := Course.keeps_of_run (keeps_single saveAs _ desk) run
      exact .inl (List.mem_singleton.mp (kept.inv.subset hc))
    · have kept := Course.keeps_of_run (keeps_chunked saveAs _ plan desk) run
      exact .inr (kept.inv.mem_sent hc)

/-- Every call of an upload names the file first, in the same way. -/
theorem IsCall.queryString {c : Call} (h : IsCall saveAs c) : ∃ rest,
    c.params.queryString = "?name=" ++ encode saveAs ++ rest ∧
      (rest = "" ∨ ∃ part : Nat, rest = "&part=" ++ encode (toString part)) := by
  have named : Params.encodePair "name" saveAs = "name=" ++ encode saveAs := by
    rw [Params.encodePair, show encode "name" ++ "=" = "name=" by decide]
  have alone : Params.queryString [nameParam saveAs] = "?name=" ++ encode saveAs ++ "" := by
    have one : Params.defined [nameParam saveAs] = [("name", saveAs)] := rfl
    rw [Params.queryString_eq, one, if_neg (List.cons_ne_nil _ _), List.map_singleton,
      String.intercalate_singleton, named, String.append_empty, ← String.append_assoc]
    rfl
  cases h with
  | file | opening => exact ⟨_, alone, .inl rfl⟩
  | session uploadId h =>
    cases h with
    | part n chunk =>
      have numbered : Params.encodePair "part" (toString n) = "part=" ++ encode (toString n) := by
        rw [Params.encodePair, show encode "part" ++ "=" = "part=" by decide]
      have two : (partCall saveAs uploadId n chunk).params.defined =
        [("name", saveAs), ("part", toString n)] := rfl
      refine ⟨_, ?_, .inr ⟨n, rfl⟩⟩
      rw [Params.queryString_eq, two, if_neg (List.cons_ne_nil _ _), List.map_cons,
        List.map_singleton, String.intercalate_cons_cons, String.intercalate_singleton, named,
        numbered, show "?name=" = "?" ++ "name=" by decide,
        show "&part=" = "&" ++ "part=" by decide]
      simp only [String.append_assoc]
    | commit | abort => exact ⟨_, alone, .inl rfl⟩

end Drive.Upload

open Drive.Upload in
/--
The address of a request below its root is read back as what was asked for: the keys and sessions
as single names on the path, and the parameters that have a value as they are, in their order. So
the query of an address says which parameters it was made from. All requests of an upload name the
file in the same way, and those for a session name the one that the service has opened for it; and
each request of a listing has the cursor that the page before it has named.
-/
theorem addresses_read_back :
    (∀ (e : Endpoint) (r : Route) (c : Call), c.path = r.path →
      Address.read? e.rootUrl (e.request c).url = some ⟨r.names, c.params.defined⟩) ∧
    (∀ {α : Type} (j : Job α) (targets : Address → Prop), j.Addresses targets →
      j.AsksOnly (Call.IsAddressed targets) fun _ => True) ∧
    (∀ params params' : Params, params.queryString = params'.queryString ↔
      params.defined = params'.defined) ∧
    (∀ (saveAs : String) (content : Drive.FileContent) (o : Drive.UploadOptions) (desk : Desk)
      (turns : List Turn) (c : Course Drive.UploadResult),
      (Course.start desk (Drive.store saveAs content o)).run turns = some c →
      ∃ name : String, decode? name.toList = some saveAs ∧ ∀ call ∈ c.scene.sent,
        (∃ rest, call.params.queryString = "?name=" ++ name ++ rest ∧
          (rest = "" ∨ ∃ part : Nat, rest = "&part=" ++ encode (toString part))) ∧
        ∀ (e : Endpoint) (uploadId : String) (names : List String) params,
          Address.read? e.rootUrl (e.request call).url =
            some ⟨"uploads" :: uploadId :: names, params⟩ → ∃ a t,
              c.scene.arrived.head? = some (0, a) ∧ opened saveAs a = .ok t ∧
                t.uploadId = uploadId) ∧
    ∀ (front : Option String) (budget : Nat) (desk : Desk) (turns : List Turn)
      (c : Course (List String)),
      (Course.start desk (Drive.listAll front budget)).run turns = some c →
      ∀ e : Endpoint,
        (c.scene.sent.map fun call => Address.read? e.rootUrl (e.request call).url) <+:
        (Drive.starts front c.scene).map fun last =>
          some ⟨["files"], (Drive.ListOptions.mk front none last).texts⟩ := by
  refine ⟨fun e r c h => e.read?_request h, fun j _ h => h.asksOnly,
    fun _ _ => Params.queryString_inj, fun saveAs content o desk turns c run => ?_,
    fun front budget desk turns c run e => ?_⟩
  · refine ⟨encode saveAs, Url.decode?_encode saveAs, fun call hc => ⟨?_, ?_⟩⟩
    · refine IsCall.queryString ?_
      rcases mem_sent_of_store run hc with rfl | rfl | ⟨a, t, -, -, h⟩
      · exact .file _
      · exact .opening
      · exact .session t.uploadId h
    · intro e uploadId names params read
      rcases mem_sent_of_store run hc with rfl | rfl | ⟨a, t, first, ha, h⟩
      · rw [e.read?_request (r := .files) rfl] at read
        simp [Route.names] at read
      · rw [e.read?_request (r := .uploads) rfl] at read
        simp [Route.names] at read
      · obtain ⟨names', params', same⟩ := h.read? e
        rw [same] at read
        cases read
        exact ⟨a, t, first, ha, rfl⟩
  · have read (last : Option String) : Address.read? e.rootUrl
        (e.request (Drive.pageCall front last)).url =
        some ⟨["files"], (Drive.ListOptions.mk front none last).texts⟩ := by
      rw [e.read?_request (r := .files) rfl]
      exact congrArg (fun ps => some (Address.mk _ ps)) (Drive.ListOptions.defined_params _)
    have listed := (Drive.listsInTurn_of_run front budget run).map
      fun call => Address.read? e.rootUrl (e.request call).url
    rw [List.map_map] at listed
    simpa only [Function.comp_def, read] using listed

/-- A key and a name with the characters that separate the parts of an address. -/
theorem addresses_read_back_separators :
    Address.read? "https://h/u" (Endpoint.request ⟨"https://h/u", ⟨"k"⟩, "", 0.0, none⟩
      (.plain .delete (Base.itemPath "50%/é?") [])).url = some ⟨["items", "50%/é?"], []⟩ ∧
    ∃ c, (Course.start ⟨none, [], []⟩ (Drive.store "a&b=c" (.text "xy") ⟨some 1.0, none⟩)).run
        [.serve, .serve] = some c ∧
      ∃ name : String, decode? name.toList = some "a&b=c" ∧ ∀ call ∈ c.scene.sent,
        ∃ rest, call.params.queryString = "?name=" ++ name ++ rest := by
  have runs : ((Course.start ⟨none, [], []⟩ (Drive.store "a&b=c" (.text "xy")
      ⟨some 1.0, none⟩)).run [.serve, .serve]).isSome = true := by decide +kernel
  obtain ⟨c, run⟩ := Option.isSome_iff_exists.mp runs
  refine ⟨addresses_read_back.1 ⟨"https://h/u", ⟨"k"⟩, "", 0.0, none⟩ (.item "50%/é?")
    (.plain .delete (Base.itemPath "50%/é?") []) rfl, c, run, ?_⟩
  obtain ⟨name, decoded, each⟩ := addresses_read_back.2.2.2.1 _ _ _ _ _ c run
  exact ⟨name, decoded, fun call hc => (each call hc).1.imp fun _ h => h.1⟩

end Depot
