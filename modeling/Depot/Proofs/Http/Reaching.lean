import Depot.Proofs.Http.Endpoint
import Depot.Proofs.Http.Routes
import Depot.Proofs.Settings.Accepted
import Depot.Proofs.Text.Percent
import Depot.Proofs.Url.Place
/-!
# Reaching what is named

Whether a request reaches what it names: whether its address, read as the network reads it, still has
the path of the service, then the project, the name and every segment of the route. It does unless
the address of the service swallows what is written behind it, or something has dots for a name.
-/
namespace Depot

open Text.Percent (encode)

/-- One of the two services of a client. -/
inductive Service where
  | base | drive
  deriving DecidableEq

namespace Service

/-- Where a service is. -/
def root (s : Settings) : Service → String
  | .base => s.baseUrl
  | .drive => s.driveUrl

/-- Where the calls go of what has a name in a service. -/
def endpoint (s : Settings) : Service → String → Outcome Endpoint
  | .base => Endpoint.ofBase s
  | .drive => Endpoint.ofDrive s

end Service

/-- Whether a text can be the name of something: it is no dot segment. -/
def isNameable (s : String) : Bool := s ≠ "." && s ≠ ".."

/-- What an address names behind the one of its service. -/
def Route.namesUnder (s : Settings) (name : String) (r : Route) : List String :=
  s.projectId :: name :: r.names

/-- An address reaches a route below a name of a service: the server is that of the service, and the
path that of the service, followed by the encoded project, name and names of the route. -/
def Reaches (s : Settings) (service : Service) (name : String) (r : Route) (url : String) : Prop :=
  ∃ p q, Url.place? (service.root s) = some p ∧ Url.place? url = some q ∧
    q.IsBelow p ((r.namesUnder s name).map fun n => (encode n).toList)

/-- Whether a route can be reached: what is written behind the service belongs to the path, and no name
is a dot segment. -/
def isReachable (s : Settings) (service : Service) (name : String) (r : Route) : Bool :=
  Url.isOpen (service.root s) && (r.namesUnder s name).all isNameable

/-! ## Dots -/

theorem bytes_of_dots {cs : List Char} {n : Nat} (h : Url.dots? cs = some n) :
    Text.Percent.bytes cs = (List.replicate n '.').flatMap String.utf8EncodeChar := by
  fun_induction Url.dots? cs generalizing n with
  | case1 => cases h; rfl
  | case2 rest ih | case3 rest ih | case4 rest ih =>
    obtain ⟨k, hk, rfl⟩ := Option.map_eq_some_iff.mp h
    rw [List.replicate_succ, List.flatMap_cons, ← ih hk]
    rfl
  | case5 => cases h

/-- Only dots are encoded as dots. -/
theorem eq_of_dots_encode {s : String} {n : Nat} (h : Url.dots? (encode s).toList = some n) :
    s = String.ofList (List.replicate n '.') := by
  have bytes := bytes_of_dots h
  rw [Text.Percent.bytes_encode] at bytes
  have encoded : s.toList.utf8Encode = (List.replicate n '.').utf8Encode :=
    congrArg List.toByteArray bytes
  rw [String.utf8Encode_toList, ← String.toByteArray_ofList] at encoded
  exact String.toByteArray_inj.mp encoded

theorem isDots_encode (s : String) : Url.isDots (encode s).toList = !isNameable s := by
  by_cases one : s = "."
  · subst one; rfl
  · by_cases two : s = ".."
    · subst two; rfl
    · have dots₁ : Url.dots? (encode s).toList ≠ some 1 := fun h => one (eq_of_dots_encode h)
      have dots₂ : Url.dots? (encode s).toList ≠ some 2 := fun h => two (eq_of_dots_encode h)
      simp [Url.isDots, isNameable, dots₁, dots₂, one, two]

/-! ## Characters -/

theorem visible_of_isPlain {c : Char} (h : Text.Percent.isPlain c = true) : 0x20 < c.toNat := by
  by_contra low
  have blanks : ∀ n < 0x21, Text.Percent.isPlain (Char.ofNat n) = false := by decide
  have plain := blanks c.toNat (by omega)
  rw [Char.ofNat_toNat, h] at plain
  cases plain

/-- A character that stands in encoded texts belongs to a segment. -/
structure InSegment (c : Char) : Prop where
  visible : 0x20 < c.toNat
  inside : Url.separates c = false
  onward : Url.endsPath c = false

theorem inSegment_of_mem_encode {s : String} {c : Char} (h : c ∈ (encode s).toList) :
    InSegment c := by
  rcases Text.Percent.isPlain_or_percent_of_mem h with plain | rfl
  · have other (x : Char) (hx : Text.Percent.isPlain x = false) : c ≠ x := by
      rintro rfl
      rw [hx] at plain
      cases plain
    exact ⟨visible_of_isPlain plain,
      by simp [Url.separates, other '/' (by decide), other '\\' (by decide)],
      by simp [Url.endsPath, other '?' (by decide), other '#' (by decide)]⟩
  · exact ⟨by decide, by decide, by decide⟩

theorem mem_intercalate {sep : String} {parts : List String} {c : Char}
    (h : c ∈ (sep.intercalate parts).toList) :
    c ∈ sep.toList ∨ ∃ part ∈ parts, c ∈ part.toList := by
  induction parts with
  | nil => simp at h
  | cons part rest ih =>
    cases rest with
    | nil => exact .inr ⟨part, List.mem_cons_self .., by simpa using h⟩
    | cons next rest =>
      rw [String.intercalate_cons_cons, String.toList_append, String.toList_append,
        List.mem_append, List.mem_append] at h
      rcases h with (h | h) | h
      · exact .inr ⟨part, List.mem_cons_self .., h⟩
      · exact .inl h
      · exact (ih h).imp_right fun ⟨p, hp, hc⟩ => ⟨p, List.mem_cons_of_mem _ hp, hc⟩

/-- The parameters of an address begin with a question mark, and are visible. -/
theorem queryString_spec (params : Params) :
    (params.queryString.toList = [] ∨ params.queryString.toList.head? = some '?') ∧
      ∀ c ∈ params.queryString.toList, 0x20 < c.toNat := by
  have pair {p : String} (hp : p ∈ params.pairs) {c : Char} (hc : c ∈ p.toList) :
      0x20 < c.toNat := by
    obtain ⟨⟨name, value⟩, -, hp⟩ := List.mem_filterMap.mp hp
    obtain ⟨value, -, rfl⟩ := Option.map_eq_some_iff.mp hp
    rw [Params.encodePair, String.toList_append, String.toList_append, List.mem_append,
      List.mem_append] at hc
    rcases hc with (hc | hc) | hc
    · exact (inSegment_of_mem_encode hc).visible
    · rw [List.mem_singleton.mp hc]; decide
    · exact (inSegment_of_mem_encode hc).visible
  rw [Params.queryString]
  split
  · exact ⟨.inl rfl, fun c hc => absurd hc (by simp)⟩
  · rename_i ps _
    rw [String.toList_append]
    refine ⟨.inr rfl, fun c hc => ?_⟩
    rcases List.mem_append.mp hc with hc | hc
    · rw [List.mem_singleton.mp hc]; decide
    · rcases mem_intercalate hc with hc | ⟨p, hp, hc⟩
      · rw [List.mem_singleton.mp hc]; decide
      · exact pair hp hc

/-! ## What is written behind a service -/

/-- Names as segments of an address. -/
def written (names : List String) : List Char := Url.written (names.map fun n => (encode n).toList)

theorem written_cons (n : String) (ns : List String) :
    written (n :: ns) = '/' :: (encode n).toList ++ written ns := rfl

theorem Route.toList_path (r : Route) : r.path.toList = written r.names := by
  cases r with
  | items | query | files | download | uploads => decide
  | item key =>
    have front : "/items/".toList = written ["items"] ++ ['/'] := by decide
    rw [path, Base.itemPath, String.toList_append, front, names, written_cons "items", written_cons]
    simp [written, Url.written]
  | session uploadId =>
    have front : "/uploads/".toList = written ["uploads"] ++ ['/'] := by decide
    rw [path, Drive.Upload.sessionPath, String.toList_append, front, names, written_cons "uploads",
      written_cons]
    simp [written, Url.written]
  | parts uploadId =>
    have front : "/uploads/".toList = written ["uploads"] ++ ['/'] := by decide
    have back : "/parts".toList = written ["parts"] := by decide
    rw [path, Drive.Upload.sessionPath, String.toList_append, String.toList_append, front, back, names,
      written_cons "uploads", written_cons]
    simp [written, Url.written]

theorem Route.names_injective {r r' : Route} (h : r.names = r'.names) : r = r' := by
  cases r <;> cases r' <;> simp [names] at h ⊢ <;> exact h

/-- Behind a service there are the names, and the parameters. -/
theorem isTail (names : List String) (some : 2 ≤ names.length) (params : Params) (text : String)
    (h : text.toList = written names ++ params.queryString.toList) :
    Url.IsTail text (names.map fun n => (encode n).toList) where
  parts := ⟨_, h, (queryString_spec params).1⟩
  visible c hc := by
    rw [h] at hc
    rcases List.mem_append.mp hc with hc | hc
    · obtain ⟨segment, hs, hc⟩ := List.mem_flatMap.mp hc
      obtain ⟨n, -, rfl⟩ := List.mem_map.mp hs
      rcases List.mem_cons.mp hc with rfl | hc
      · decide
      · exact (inSegment_of_mem_encode hc).visible
    · exact (queryString_spec params).2 c hc
  plain segment hs c hc := by
    obtain ⟨n, -, rfl⟩ := List.mem_map.mp hs
    exact ⟨(inSegment_of_mem_encode hc).inside, (inSegment_of_mem_encode hc).onward⟩
  several := by rwa [List.length_map]

theorem isDots_iff (names : List String) :
    (∀ t ∈ names.map fun n => (encode n).toList, Url.isDots t = false) ↔
      names.all isNameable = true := by
  simp [isDots_encode]

section Requests
variable {s : Settings} {service : Service} {name : String} {e : Endpoint}

theorem Service.eq_of_endpoint (h : service.endpoint s name = .ok e) :
    e = .under s (service.root s) name := by
  cases service with
  | base =>
    rw [endpoint, Endpoint.ofBase_eq] at h
    split at h
    · cases h
    · exact (Except.ok.inj h).symm
  | drive =>
    rw [endpoint, Endpoint.ofDrive_eq] at h
    split at h
    · cases h
    · exact (Except.ok.inj h).symm

/-- The address of a request is that of the service with a tail. -/
theorem exists_tail (h : service.endpoint s name = .ok e) {r : Route} {c : Call}
    (routed : c.path = r.path) : ∃ text, (e.request c).url = service.root s ++ text ∧
      Url.IsTail text ((r.namesUnder s name).map fun n => (encode n).toList) := by
  refine ⟨"/" ++ encode s.projectId ++ "/" ++ encode name ++ r.path ++ c.params.queryString, ?_,
    isTail _ (by simp [Route.namesUnder]) c.params _ ?_⟩
  · rw [Service.eq_of_endpoint h]
    simp only [Endpoint.request, Endpoint.url, Endpoint.under, routed, String.append_assoc]
  · simp [Route.namesUnder, Route.toList_path, written, Url.written]

theorem isReachable_iff {r : Route} : isReachable s service name r = true ↔
    Url.isOpen (service.root s) = true ∧
      ∀ t ∈ (r.namesUnder s name).map fun n => (encode n).toList, Url.isDots t = false := by
  rw [isReachable, Bool.and_eq_true, isDots_iff]

end Requests

/-- The requests of all operations go along the routes to what they name, and a request reaches what
is named exactly if the service is one behind whose address there can be a path, and nothing on the
way has dots for a name. Requests that reach something different have different addresses. -/
theorem reaches_iff_isReachable (d : Settings.Draft) (s : Settings) (accepted : d.build = .ok s) :
    (∀ {α : Type} (j : Job α) (routes : Route → Prop), j.IsOperation routes →
      j.AsksOnly (Call.GoesAlong routes) fun _ => True) ∧
    ∀ (service : Service) (name : String) (e : Endpoint), service.endpoint s name = .ok e →
      ∀ (r : Route) (c : Call), c.path = r.path →
        (Reaches s service name r (e.request c).url ↔ isReachable s service name r = true) ∧
        ∀ (name' : String) (e' : Endpoint), service.endpoint s name' = .ok e' →
          ∀ (r' : Route) (c' : Call), c'.path = r'.path →
            isReachable s service name r = true → isReachable s service name' r' = true →
            Url.place? (e'.request c').url = Url.place? (e.request c).url →
            name' = name ∧ r' = r := by
  refine ⟨fun j _ h => h.asksOnly, fun service name e named r c routed => ?_⟩
  obtain ⟨valid, web⟩ : Url.isValid (service.root s) = true ∧
      Url.hasWebScheme (service.root s) = true := by
    obtain ⟨base, drive⟩ := Settings.Draft.webAddresses_of_build accepted
    cases service with
    | base => exact base
    | drive => exact drive
  obtain ⟨text, url, tail⟩ := exists_tail named routed
  refine ⟨⟨?_, fun reachable => ?_⟩, fun name' e' named' r' c' routed' reachable reachable' same => ?_⟩
  · rintro ⟨p, q, hp, hq, below⟩
    exact isReachable_iff.mpr (Url.of_isBelow valid web tail hp (url ▸ hq) below)
  · obtain ⟨opened, plain⟩ := isReachable_iff.mp reachable
    obtain ⟨scheme, authority, dirs, ⟨path, place, slash⟩, behind⟩ :=
      Url.exists_place_behind valid web opened
    refine ⟨_, ⟨scheme, authority, dirs ++ _⟩, place, ?_, rfl, rfl, dirs, slash, rfl⟩
    rw [url]
    exact behind text _ tail plain
  · obtain ⟨text', url', tail'⟩ := exists_tail named' routed'
    obtain ⟨opened, plain⟩ := isReachable_iff.mp reachable
    obtain ⟨-, plain'⟩ := isReachable_iff.mp reachable'
    obtain ⟨scheme, authority, dirs, -, behind⟩ := Url.exists_place_behind valid web opened
    rw [url, url', behind text _ tail plain, behind text' _ tail' plain', Option.some.injEq,
      Url.Place.mk.injEq] at same
    have segments := List.append_cancel_left same.2.2
    have names : r'.namesUnder s name' = r.namesUnder s name := by
      refine List.map_injective_iff.mpr (fun n m h => ?_) segments
      exact Text.Percent.encode_injective (String.toList_injective h)
    obtain ⟨-, name_eq, names⟩ : s.projectId = s.projectId ∧ name' = name ∧ r'.names = r.names := by
      simpa [Route.namesUnder] using names
    exact ⟨name_eq, Route.names_injective names⟩

/-- The settings for trying things out, and where their bases are. -/
theorem exists_sample (name : String) (h : Text.isBlankText name = false) : ∃ s e,
    Settings.Draft.sample.build = .ok s ∧ s.baseUrl = Settings.defaultBaseUrl ∧
      s.projectId = "testproj" ∧ Service.base.endpoint s name = .ok e ∧
      e.rootUrl = Settings.defaultBaseUrl ++ "/" ++ encode "testproj" ++ "/" ++ encode name := by
  have built : (Settings.Draft.sample.build.toOption.map fun s => (s.baseUrl, s.projectId)) =
      some (Settings.defaultBaseUrl, "testproj") := by decide +kernel
  cases accepted : Settings.Draft.sample.build with
  | error f => rw [accepted] at built; cases built
  | ok s =>
    rw [accepted] at built
    obtain ⟨baseUrl, projectId⟩ := Prod.mk.inj (Option.some.inj built)
    refine ⟨s, .under s s.baseUrl name, rfl, baseUrl, projectId, ?_, ?_⟩
    · rw [Service.endpoint, Endpoint.ofBase_eq, h]
      rfl
    · rw [Endpoint.under, baseUrl, projectId]

/-- Slashes and dots are no obstacle to a key that is something else. -/
theorem reaches_iff_isReachable_slash : ∃ s e, Settings.Draft.sample.build = .ok s ∧
    Service.base.endpoint s "users" = .ok e ∧
    Reaches s .base "users" (.item "../k")
      (e.request (.plain .delete (Base.itemPath "../k") [])).url := by
  obtain ⟨s, e, accepted, baseUrl, projectId, named, -⟩ := exists_sample "users" (by decide)
  have reachable : isReachable s .base "users" (.item "../k") = true := by
    rw [isReachable, Service.root, Route.namesUnder, baseUrl, projectId]
    decide +kernel
  exact ⟨s, e, accepted, named,
    (((reaches_iff_isReachable _ s accepted).2 .base "users" e named (.item "../k")
      (.plain .delete (Base.itemPath "../k") []) rfl).1).mpr reachable⟩

/-- The request to delete the item `..` goes to the base, not to an item of it. -/
theorem not_reaches_twoDots : ∃ s e, Settings.Draft.sample.build = .ok s ∧
    Service.base.endpoint s "users" = .ok e ∧ validKey (.text "..") = .ok ".." ∧
    Url.place? (e.request (.plain .delete (Base.itemPath "..") [])).url =
      some ⟨"https", "database.deta.sh".toList, ["v1", "testproj", "users", ""].map String.toList⟩ ∧
    ¬ Reaches s .base "users" (.item "..") (e.request (.plain .delete (Base.itemPath "..") [])).url := by
  obtain ⟨s, e, accepted, -, -, named, root⟩ := exists_sample "users" (by decide)
  have place : Url.place? (e.request (.plain .delete (Base.itemPath "..") [])).url =
      some ⟨"https", "database.deta.sh".toList,
        ["v1", "testproj", "users", ""].map String.toList⟩ := by
    have url : (e.request (.plain .delete (Base.itemPath "..") [])).url =
        e.rootUrl ++ Base.itemPath ".." ++ "" := rfl
    rw [url, root]
    decide +kernel
  refine ⟨s, e, accepted, named, rfl, place, ?_⟩
  rintro ⟨p, q, -, hq, -, -, dirs, -, path⟩
  obtain rfl := Option.some.inj (hq.symm.trans place)
  have dots : "..".toList ∈ ["v1", "testproj", "users", ""].map String.toList := by
    change ["v1", "testproj", "users", ""].map String.toList = _ at path
    rw [path]
    refine List.mem_append_right dirs (List.mem_map.mpr ⟨"..", ?_, by decide⟩)
    simp [Route.namesUnder, Route.names]
  exact absurd dots (by decide)

end Depot
