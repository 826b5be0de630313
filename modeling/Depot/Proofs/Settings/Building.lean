import Depot.Proofs.Number.Order
import Depot.Proofs.Settings.Accepted
import Depot.Proofs.Settings.Drafting
/-!
# Building settings

A draft becomes settings if its project key has the form of one and every value is valid; the
settings then have these values.
-/
namespace Depot

/-- A policy that settings may have. -/
structure RetryPolicy.IsValid (p : RetryPolicy) : Prop where
  maxRetries_integral : Number.isIntegral p.maxRetries = true
  maxRetries_nonneg : 0.0 ≤ p.maxRetries
  maxRetries_le : p.maxRetries ≤ 10.0
  initialBackoffMs_integral : Number.isIntegral p.initialBackoffMs = true
  initialBackoffMs_nonneg : 0.0 ≤ p.initialBackoffMs
  maxBackoffMs_integral : Number.isIntegral p.maxBackoffMs = true
  maxBackoffMs_nonneg : 0.0 ≤ p.maxBackoffMs
  initialBackoffMs_le : p.initialBackoffMs ≤ p.maxBackoffMs
  one_le_backoffMultiplier : 1.0 ≤ p.backoffMultiplier
  jitterFactor_nonneg : 0.0 ≤ p.jitterFactor
  jitterFactor_le : p.jitterFactor ≤ 1.0

namespace Settings

/-! ## Project keys -/

/-- A project key: the project, the only underscore, and the secret. -/
structure IsKey (key project secret : String) : Prop where
  joined : key = project ++ "_" ++ secret
  project_ne : project ≠ ""
  secret_ne : secret ≠ ""
  inProject : '_' ∉ project.toList
  inSecret : '_' ∉ secret.toList

theorem projectOfKey_eq (key : String) :
    projectOfKey key = .error malformedKey ∨ ∃ project, projectOfKey key = .ok project := by
  rw [projectOfKey]
  split
  · split
    · exact .inl rfl
    · exact .inr ⟨_, rfl⟩
  · exact .inl rfl

theorem projectOfKey_joined {key project : String} {secret : List Char}
    (parts : key.toList = project.toList ++ '_' :: secret) (inProject : '_' ∉ project.toList) :
    projectOfKey key = if project = "" ∨ secret = [] ∨ '_' ∈ secret then .error malformedKey
      else .ok project := by
  have front : key.toList.takeWhile (· ≠ '_') = project.toList := by
    rw [parts, List.takeWhile_append_of_pos (by grind), List.takeWhile_cons]
    simp
  have back : key.toList.dropWhile (· ≠ '_') = '_' :: secret := by
    rw [parts, List.dropWhile_append_of_pos (by grind), List.dropWhile_cons]
    simp
  rw [projectOfKey, front, back]
  cases chars : project.toList with
  | nil => simp [String.toList_eq_nil_iff.mp chars]
  | cons c rest =>
    have project_ne : project ≠ "" := fun none => by simp [none] at chars
    cases secret with
    | nil => simp
    | cons d rest => simp [project_ne, ← chars, String.ofList_toList]

theorem projectOfKey_eq_ok {key project : String} :
    projectOfKey key = .ok project ↔ ∃ secret, IsKey key project secret := by
  constructor
  · intro h
    obtain ⟨secret, parts, inProject, inSecret⟩ := key_of_projectOfKey h
    rw [projectOfKey_joined parts inProject] at h
    have well : ¬(project = "" ∨ secret = [] ∨ '_' ∈ secret) := by
      intro bad
      rw [if_pos bad] at h
      cases h
    push Not at well
    refine ⟨String.ofList secret, String.toList_injective (by simp [parts]), well.1, ?_, inProject,
      by simpa using well.2.2⟩
    simpa [← String.toList_eq_nil_iff] using well.2.1
  · rintro ⟨secret, rfl, project_ne, secret_ne, inProject, inSecret⟩
    have parts : (project ++ "_" ++ secret).toList = project.toList ++ '_' :: secret.toList := by
      simp
    rw [projectOfKey_joined parts inProject, if_neg]
    simp [project_ne, secret_ne, inSecret]

/-! ## Values -/

theorem decodeRetry_eq_ok {v : Value} {p : RetryPolicy} :
    (decodeRetry v).toExcept = .ok p ↔
      (∃ fields, v = .record fields) ∧ (∀ e ∈ p.toFields, v.member e.1 = e.2) ∧ p.IsValid := by
  simp only [decodeRetry, Decoder.check_eq_ok, Decoder.record_eq_ok, Decoded.both_eq_ok,
    Decoded.map_eq_ok, Decoder.field_eq_ok, atMost, atLeast, integer, Decoder.number_eq_ok,
    decide_eq_true_eq]
  constructor
  · rintro ⟨⟨record, _, jitter, ⟨_, factor, ⟨_, most, ⟨_, initial, ⟨retries, hr, rfl⟩, hi, rfl⟩,
      hm, rfl⟩, hf, rfl⟩, hj, rfl⟩, order⟩
    refine ⟨record, ?_, ?_⟩
    · simp [RetryPolicy.toFields, hr, hi, hm, hf, hj]
    · exact ⟨hr.1.1.2, hr.1.2, hr.2, hi.1.2, hi.2, hm.1.2, hm.2, order, hf.2, hj.1.2, hj.2⟩
  · rintro ⟨record, read, valid⟩
    obtain ⟨retries, initial, most, factor, jitter⟩ := p
    simp only [RetryPolicy.toFields, List.forall_mem_cons, List.not_mem_nil, false_implies,
      implies_true, and_true] at read
    obtain ⟨hr, hi, hm, hf, hj⟩ := read
    have number {x y : Float} (h : x ≤ y) := (Number.isNaN_of_le h).2
    exact ⟨⟨record, _, jitter, ⟨_, factor, ⟨_, most, ⟨_, initial, ⟨retries,
      ⟨⟨⟨⟨hr, number valid.maxRetries_nonneg⟩, valid.maxRetries_integral⟩,
        valid.maxRetries_nonneg⟩, valid.maxRetries_le⟩, rfl⟩,
      ⟨⟨⟨hi, number valid.initialBackoffMs_nonneg⟩, valid.initialBackoffMs_integral⟩,
        valid.initialBackoffMs_nonneg⟩, rfl⟩,
      ⟨⟨⟨hm, number valid.maxBackoffMs_nonneg⟩, valid.maxBackoffMs_integral⟩,
        valid.maxBackoffMs_nonneg⟩, rfl⟩,
      ⟨⟨hf, number valid.one_le_backoffMultiplier⟩, valid.one_le_backoffMultiplier⟩, rfl⟩,
      ⟨⟨⟨hj, number valid.jitterFactor_nonneg⟩, valid.jitterFactor_nonneg⟩,
        valid.jitterFactor_le⟩, rfl⟩, valid.initialBackoffMs_le⟩

/-- The address of a web service. -/
def IsWebAddress (url : String) : Prop :=
  Url.isValid url = true ∧ (url.startsWith "http://" = true ∨ url.startsWith "https://" = true)

theorem decodeUrl_eq_ok {v : Value} {url : String} :
    (decodeUrl v).toExcept = .ok url ↔ v = .text url ∧ IsWebAddress url := by
  rw [decodeUrl, Decoder.check_eq_ok, Decoder.check_eq_ok, Decoder.text_eq_ok, IsWebAddress,
    Url.hasWebScheme, Bool.or_eq_true, and_assoc]
  exact and_congr_right fun _ => and_congr_right fun _ => or_comm

theorem decode_eq_ok {v : Value} {c : Checked} : (decode v).toExcept = .ok c ↔
    (∃ fields, v = .record fields) ∧
      (v.member "projectId" = .text c.projectId ∧ c.projectId ≠ "") ∧
      (v.member "baseUrl" = .text c.baseUrl ∧ IsWebAddress c.baseUrl) ∧
      (v.member "driveUrl" = .text c.driveUrl ∧ IsWebAddress c.driveUrl) ∧
      (v.member "requestTimeoutMs" = .number c.requestTimeoutMs ∧
        Number.isIntegral c.requestTimeoutMs = true ∧ 0.0 < c.requestTimeoutMs) ∧
      (v.member "userAgent" = .text c.userAgent ∧ c.userAgent ≠ "") ∧
      (decodeRetry (v.member "retryConfig")).toExcept = .ok c.retry := by
  simp only [decode, Decoder.record_eq_ok, Decoded.both_eq_ok, Decoded.map_eq_ok,
    Decoder.field_eq_ok, Decoder.check_eq_ok, Decoder.text_eq_ok, decodeUrl_eq_ok, positive, integer,
    Decoder.number_eq_ok, decide_eq_true_eq, Bool.not_eq_true', String.isEmpty_eq_false_iff]
  constructor
  · rintro ⟨record, _, retry, ⟨_, agent, ⟨_, ms, ⟨_, drive, ⟨_, base, ⟨project, hp, rfl⟩, hb, rfl⟩,
      hd, rfl⟩, ht, rfl⟩, ha, rfl⟩, hr, rfl⟩
    exact ⟨record, hp, hb, hd, ⟨ht.1.1.1, ht.1.2, ht.2⟩, ha, hr⟩
  · obtain ⟨project, base, drive, ms, agent, retry⟩ := c
    rintro ⟨record, hp, hb, hd, ⟨ht, integral, positive⟩, ha, hr⟩
    exact ⟨record, _, retry, ⟨_, agent, ⟨_, ms, ⟨_, drive, ⟨_, base, ⟨project, hp, rfl⟩, hb, rfl⟩,
      hd, rfl⟩, ⟨⟨⟨ht, (Number.isNaN_of_lt positive).2⟩, integral⟩, positive⟩, rfl⟩, ha, rfl⟩, hr, rfl⟩

/-! ## Drafts -/

namespace Draft

/-- The values of settings, valid together. -/
structure Values.IsValid (v : Values) : Prop where
  projectKey : ∃ key project secret, v.projectKey = some key ∧ IsKey key project secret
  baseUrl : IsWebAddress v.baseUrl
  driveUrl : IsWebAddress v.driveUrl
  requestTimeoutMs : ∃ ms, v.requestTimeoutMs = .number ms ∧ Number.isIntegral ms = true ∧ 0.0 < ms
  userAgent : ∃ agent, v.userAgent = .text agent ∧ agent ≠ ""
  retry : ∃ p : RetryPolicy, (∀ e ∈ p.toFields, v.retry e.1 = e.2) ∧ p.IsValid

/-- Settings have these values; their project is named by the key. -/
structure Values.Are (v : Values) (s : Settings) : Prop where
  projectKey : v.projectKey = some s.projectKey.expose
  projectId : ∃ secret, IsKey s.projectKey.expose s.projectId secret
  baseUrl : s.baseUrl = v.baseUrl
  driveUrl : s.driveUrl = v.driveUrl
  requestTimeoutMs : v.requestTimeoutMs = .number s.requestTimeoutMs
  userAgent : v.userAgent = .text s.userAgent
  retry : ∀ e ∈ s.retry.toFields, v.retry e.1 = e.2

/-- Settings that have passed the checks. -/
def checkedSettings (d : Draft) (key projectId : String) (c : Checked) : Settings :=
  { projectKey := ⟨key⟩
    projectId := projectId
    baseUrl := c.baseUrl
    driveUrl := c.driveUrl
    requestTimeoutMs := c.requestTimeoutMs
    userAgent := c.userAgent
    retry := c.retry
    retryNotes := d.retryNotes }

section Keyed
variable {d : Draft} {key : String} (keyed : d.projectKey = some key)
include keyed

theorem build_keyed : d.build = projectOfKey key >>= fun projectId =>
    (validate (d.toValue projectId)).map (d.checkedSettings key projectId) := by
  rw [build, keyed]
  rfl

variable {projectId secret : String} (isKey : IsKey key projectId secret)
include isKey

/-- What is accepted is valid, and stays as it is. -/
theorem values_of_decode {c : Checked} (decoded : (decode (d.toValue projectId)).toExcept = .ok c) :
    d.values.IsValid ∧ d.values.Are (d.checkedSettings key projectId c) := by
  obtain ⟨-, -, ⟨base, webBase⟩, ⟨drive, webDrive⟩, ⟨ms, integral, positive⟩, ⟨agent, nonempty⟩,
    retry⟩ := decode_eq_ok.mp decoded
  obtain ⟨-, policy, valid⟩ := decodeRetry_eq_ok.mp retry
  have base : c.baseUrl = d.values.baseUrl := by injection base.symm
  have drive : c.driveUrl = d.values.driveUrl := by injection drive.symm
  rw [base] at webBase
  rw [drive] at webDrive
  exact ⟨⟨⟨key, projectId, secret, keyed, isKey⟩, webBase, webDrive, ⟨_, ms, integral, positive⟩,
    ⟨_, agent, nonempty⟩, ⟨_, policy, valid⟩⟩,
    ⟨keyed, ⟨secret, isKey⟩, base, drive, ms, agent, policy⟩⟩

omit keyed in
/-- Everything that is valid is accepted. -/
theorem exists_decoded (valid : d.values.IsValid) :
    ∃ c, (decode (d.toValue projectId)).toExcept = .ok c := by
  obtain ⟨-, webBase, webDrive, ⟨ms, isMs, integral, positive⟩, ⟨agent, isAgent, nonempty⟩,
    ⟨p, policy, validPolicy⟩⟩ := valid
  exact ⟨⟨projectId, d.baseUrl, d.driveUrl, ms, agent, p⟩,
    decode_eq_ok.mpr ⟨⟨_, rfl⟩, ⟨rfl, isKey.project_ne⟩, ⟨rfl, webBase⟩, ⟨rfl, webDrive⟩,
      ⟨isMs, integral, positive⟩, ⟨isAgent, nonempty⟩,
      decodeRetry_eq_ok.mpr ⟨⟨_, rfl⟩, policy, validPolicy⟩⟩⟩

end Keyed

/-- A draft is built into settings with its values, or its values are not valid. -/
theorem build_cases (d : Draft) :
    (d.values.IsValid ∧ ∃ s, d.build = .ok s ∧ d.values.Are s) ∨
      ¬d.values.IsValid ∧ ∃ message details, d.build = .error (.configuration message details) := by
  cases keyed : d.projectKey with
  | none =>
    refine .inr ⟨fun valid => ?_, "Project key is required (use withProjectKey())", none, ?_⟩
    · obtain ⟨key, _, _, isSome, -⟩ := valid.projectKey
      cases keyed.symm.trans isSome
    · rw [build, keyed]
  | some key =>
    rw [build_keyed keyed]
    rcases projectOfKey_eq key with refused | ⟨projectId, accepted⟩
    · refine .inr ⟨fun valid => ?_, _, _, by rw [refused]; rfl⟩
      obtain ⟨key', projectId, secret, isSome, isKey⟩ := valid.projectKey
      obtain rfl : key = key' := Option.some.inj (keyed.symm.trans isSome)
      cases refused.symm.trans (projectOfKey_eq_ok.mpr ⟨secret, isKey⟩)
    · obtain ⟨secret, isKey⟩ := projectOfKey_eq_ok.mp accepted
      rw [accepted]
      change _ ∧ (∃ s, (validate (d.toValue projectId)).map _ = _ ∧ _) ∨
        _ ∧ ∃ _ _, (validate (d.toValue projectId)).map _ = _
      rw [validate]
      cases decoded : (decode (d.toValue projectId)).toExcept with
      | ok c =>
        obtain ⟨valid, are⟩ := values_of_decode keyed isKey decoded
        exact .inl ⟨valid, _, rfl, are⟩
      | error issues =>
        refine .inr ⟨fun valid => ?_, _, _, rfl⟩
        obtain ⟨c, read⟩ := exists_decoded isKey valid
        cases decoded.symm.trans read

/-- Where a draft begins: new, or as an environment describes it. -/
def start (env? : Option Environment) : Outcome Draft := env?.elim (.ok empty) ofEnvironment

theorem values_after_start {env? : Option Environment} {d : Draft} (started : start env? = .ok d)
    (steps : List Step) :
    (d.after steps).values = .last (env?.elim [] Environment.steps ++ steps) := by
  cases env? with
  | none =>
    cases started
    exact values_after_empty steps
  | some env =>
    change ofEnvironment env = .ok d at started
    rw [ofEnvironment_eq] at started
    split at started
    · cases started
    · cases started
      rw [← after_append]
      exact values_after_empty _

/-- After steps on a new draft, or on one from an environment, exactly those values are built into
settings that are valid, each the one that was set last; a draft with others is refused. A blank
project key is refused at once and leaves the draft as it was. -/
theorem builds_iff_isValid {env? : Option Environment} {d : Draft} (started : start env? = .ok d)
    (steps : List Step) :
    let v := Values.last (env?.elim [] Environment.steps ++ steps)
    ((∃ s, (d.after steps).build = .ok s) ↔ v.IsValid) ∧
      (∀ s, (d.after steps).build = .ok s → v.Are s) ∧
      (¬v.IsValid →
        ∃ message details, (d.after steps).build = .error (.configuration message details)) ∧
      ∀ key, (Text.trim key).isEmpty →
        (d.after steps).step (.projectKey key) =
            .error (.configuration "Project key cannot be empty" none) ∧
          d.after (steps ++ [.projectKey key]) = d.after steps := by
  intro v
  have last : (d.after steps).values = v := values_after_start started steps
  have blank (key : String) (h : (Text.trim key).isEmpty) : (d.after steps).step (.projectKey key) =
      .error (.configuration "Project key cannot be empty" none) := by
    rw [step_projectKey, if_pos h]
  have refused (key : String) (h : (Text.trim key).isEmpty) :
      d.after (steps ++ [.projectKey key]) = d.after steps := by
    rw [after_append]
    change next (d.after steps) (.projectKey key) = _
    rw [next, blank key h]
    rfl
  rcases build_cases (d.after steps) with ⟨valid, s, built, are⟩ | ⟨invalid, message, details, failed⟩
  · rw [last] at valid are
    refine ⟨⟨fun _ => valid, fun _ => ⟨s, built⟩⟩, fun s' built' => ?_, absurd valid,
      fun key h => ⟨blank key h, refused key h⟩⟩
    obtain rfl : s = s' := Except.ok.inj (built.symm.trans built')
    exact are
  · rw [last] at invalid
    have never (s : Settings) : (d.after steps).build ≠ .ok s := by simp [failed]
    exact ⟨⟨fun built => built.elim fun s built => absurd built (never s),
      fun valid => absurd valid invalid⟩, fun s built => absurd built (never s),
      fun _ => ⟨message, details, failed⟩, fun key h => ⟨blank key h, refused key h⟩⟩

/-- A key from an environment, then a blank key, which is refused, and two retries. -/
theorem builds_iff_isValid_shop :
    let env : Environment := [("DETA_PROJECT_KEY", " shop_s3cret ")]
    let steps : List Step := [.projectKey "  ", .retry [("maxRetries", .number 2.0)]]
    ∃ d s, start (some env) = .ok d ∧ (d.after steps).build = .ok s ∧
      (Values.last (env.steps ++ steps)).IsValid ∧ (Values.last (env.steps ++ steps)).Are s := by
  intro env steps
  let d : Draft := { empty with projectKey := some "shop_s3cret" }
  have started : start (some env) = .ok d := rfl
  have accepted : (d.after steps).build.toOption.isSome := by decide +kernel
  obtain ⟨s, built⟩ : ∃ s, (d.after steps).build = .ok s := by
    cases result : (d.after steps).build with
    | ok s => exact ⟨s, rfl⟩
    | error f =>
      rw [result] at accepted
      cases accepted
  obtain ⟨valid, are, -⟩ := builds_iff_isValid started steps
  exact ⟨d, s, started, built, valid.mp ⟨s, built⟩, are s built⟩

end Draft
end Settings
end Depot
