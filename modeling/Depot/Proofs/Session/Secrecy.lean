import Mathlib.Data.List.Forall2
import Depot.Proofs.Session.Disguise
import Depot.Proofs.Settings.Accepted
/-!
# The secret of a project

What the secret of a project shows in: one header of every request, and nothing else. A client with
another secret is the first one in disguise.
-/
namespace Depot

/-- The header that holds the project key. -/
def keyHeader : String := "X-API-Key"

/-- A request with another project key. -/
def Request.rekey (k : Secret) (r : Request) : Request :=
  { r with headers := r.headers.map fun h => if h.1 = keyHeader then (h.1, k.expose) else h }

/-- A client with another project key. -/
def Disguise.rekey (k : Secret) : Disguise where
  toRecast := Recast.ofUnder (fun s => { s with projectKey := k })
    (fun e => { e with projectKey := k }) (fun _ _ => rfl) (fun _ _ => rfl) (fun _ => rfl)
  sent := Request.rekey k
  request _ _ := rfl
  retry _ := rfl
  method _ := rfl
  url _ := rfl
  timeoutMs _ := rfl

/-- Two requests with the same headers, but for the value of the one that holds the project key, and
with everything else the same. -/
structure Request.SameButKey (r r' : Request) : Prop where
  method : r'.method = r.method
  url : r'.url = r.url
  body : r'.body = r.body
  timeoutMs : r'.timeoutMs = r.timeoutMs
  headers : List.Forall₂ (fun h h' => h'.1 = h.1 ∧ (h.1 ≠ keyHeader → h'.2 = h.2))
    r.headers r'.headers

/-- Two replies whose requests are the same but for the project key, and that agree in everything
else. -/
structure Reply.SameButKey (r r' : Reply) : Prop where
  result : r'.result = r.result
  pages : r'.pages = r.pages
  requests : List.Forall₂ Request.SameButKey r.requests r'.requests
  logs : r'.logs = r.logs
  counters : r'.counters = r.counters
  timings : r'.timings = r.timings
  lines : r'.lines = r.lines
  tellings : r'.tellings = r.tellings
  elapsedMs : r'.elapsedMs = r.elapsedMs

theorem Request.sameButKey_rekey (k : Secret) (r : Request) : r.SameButKey (r.rekey k) where
  method := rfl
  url := rfl
  body := rfl
  timeoutMs := rfl
  headers := by
    refine List.forall₂_map_right_iff.mpr (List.forall₂_same.mpr fun h _ => ?_)
    by_cases key : h.1 = keyHeader
    · simp [key]
    · simp [key]

theorem Reply.sameButKey_rekey (k : Secret) (r : Reply) :
    r.SameButKey ((Disguise.rekey k).reply r) where
  result := rfl
  pages := rfl
  requests :=
    List.forall₂_map_right_iff.mpr (List.forall₂_same.mpr fun r _ => r.sameButKey_rekey k)
  logs := rfl
  counters := rfl
  timings := rfl
  lines := rfl
  tellings := rfl
  elapsedMs := rfl

namespace Settings.Draft

/-- Of two accepted drafts that differ in the secret, the settings differ in the project key. -/
theorem build_rekey {d : Draft} {project secret secret' : String} {s s' : Settings}
    (h : { d with projectKey := some (project ++ "_" ++ secret) }.build = .ok s)
    (h' : { d with projectKey := some (project ++ "_" ++ secret') }.build = .ok s') :
    s' = { s with projectKey := ⟨project ++ "_" ++ secret'⟩ } := by
  rw [build_eq] at h h'
  cases accepted : projectOfKey (project ++ "_" ++ secret) with
  | error f => rw [accepted] at h; cases h
  | ok p =>
    cases accepted' : projectOfKey (project ++ "_" ++ secret') with
    | error f => rw [accepted'] at h'; cases h'
    | ok p' =>
      obtain rfl := project_of_accepted accepted
      obtain rfl := project_of_accepted accepted'
      rw [accepted] at h
      rw [accepted'] at h'
      change (validate (d.toValue _)).map _ = _ at h
      change (validate (d.toValue _)).map _ = _ at h'
      cases valid : validate (d.toValue _) with
      | error f => rw [valid] at h; cases h
      | ok checked =>
        rw [valid] at h h'
        cases h
        cases h'
        rfl

end Settings.Draft

namespace Session

/-- Two clients whose accepted settings differ in the secret of the project show the same settings
as JSON text, and reply to all commands for bases, drives and queries alike, but for the header that
holds the key. -/
theorem secret_shows_in_keyHeader_only (d : Settings.Draft) (project secret secret' : String)
    (s s' : Settings)
    (accepted : { d with projectKey := some (project ++ "_" ++ secret) }.build = .ok s)
    (accepted' : { d with projectKey := some (project ++ "_" ++ secret') }.build = .ok s')
    (observer : Observer) (now : Float) (stopped : Option Float) (channel : Channel)
    (draws : List Float) (commands : List (Command × List Prepared))
    (ofClient : ∀ x ∈ commands, x.1.isOfClient = true) :
    s'.toValue.json = s.toValue.json ∧
      List.Forall₂ Reply.SameButKey
        ((start s observer now stopped channel draws).performAll commands)
        ((start s' observer now stopped channel draws).performAll commands) := by
  obtain rfl := Settings.Draft.build_rekey accepted accepted'
  refine ⟨rfl, ?_⟩
  have disguised : start { s with projectKey := ⟨project ++ "_" ++ secret'⟩ } observer now stopped
      channel draws = (Disguise.rekey ⟨project ++ "_" ++ secret'⟩).session
        (start s observer now stopped channel draws) := rfl
  rw [disguised, Disguise.performAll_session _ _ ofClient]
  exact List.forall₂_map_right_iff.mpr
    (List.forall₂_same.mpr fun r _ => Reply.sameButKey_rekey _ r)

/-- Two drafts for trying things out, and a deletion that is not found. -/
theorem secret_shows_in_keyHeader_only_testproj : ∃ s s' : Settings,
    { Settings.Draft.sample with projectKey := some ("testproj" ++ "_" ++ "one") }.build = .ok s ∧
    { Settings.Draft.sample with projectKey := some ("testproj" ++ "_" ++ "two") }.build = .ok s' ∧
    s'.toValue.json = s.toValue.json ∧
      List.Forall₂ Reply.SameButKey
        ((start s .memory 0.0 none .handed []).performAll
          [(.delete "users" (.text "k"), [⟨.errors 404.0 [], 0.0, [], []⟩])])
        ((start s' .memory 0.0 none .handed []).performAll
          [(.delete "users" (.text "k"), [⟨.errors 404.0 [], 0.0, [], []⟩])]) := by
  have accepted (key : String) (h :
      { Settings.Draft.sample with projectKey := some key }.build.isOk = true) :
      ∃ s, { Settings.Draft.sample with projectKey := some key }.build = .ok s := by
    cases built : { Settings.Draft.sample with projectKey := some key }.build with
    | error f => rw [built] at h; cases h
    | ok s => exact ⟨s, rfl⟩
  obtain ⟨s, one⟩ := accepted ("testproj" ++ "_" ++ "one") (by decide +kernel)
  obtain ⟨s', two⟩ := accepted ("testproj" ++ "_" ++ "two") (by decide +kernel)
  exact ⟨s, s', one, two, secret_shows_in_keyHeader_only _ _ _ _ s s' one two .memory 0.0 none
    .handed [] _ (by simp [Command.isOfClient])⟩

end Session
end Depot
