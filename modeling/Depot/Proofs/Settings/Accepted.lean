import Mathlib.Data.List.Basic
import Mathlib.Data.List.TakeWhile
import Depot.Proofs.Decode.Basic
import Depot.Settings.Draft
/-!
# Accepted settings

What is known of settings that a draft was built into.
-/
namespace Depot
namespace Settings

/-- An accepted project key is the project, an underscore and the secret; there is no other
underscore. -/
theorem key_of_projectOfKey {key project : String} (h : projectOfKey key = .ok project) :
    ∃ secret, key.toList = project.toList ++ '_' :: secret ∧ '_' ∉ project.toList ∧
      '_' ∉ secret := by
  have parts := List.takeWhile_append_dropWhile (p := (· ≠ '_')) (l := key.toList)
  have front : '_' ∉ key.toList.takeWhile (· ≠ '_') := fun mem => by
    simpa using List.mem_takeWhile_imp mem
  have mark (c : Char) (rest : List Char) (h : key.toList.dropWhile (· ≠ '_') = c :: rest) :
      c = '_' := by
    have := List.head?_dropWhile_not (· ≠ '_') key.toList
    rw [h] at this
    simpa using this
  rw [projectOfKey] at h
  split at h
  · rename_i c project mark' d secret hfront hback
    split at h
    · cases h
    · rename_i lone
      cases h
      rw [hfront] at parts front
      rw [hback] at parts
      refine ⟨d :: secret, ?_, ?_, by simpa using lone⟩
      · rw [String.toList_ofList, ← parts, mark _ _ hback]
      · rwa [String.toList_ofList]
  · cases h

/-- The project of an accepted key is what stands before any of its underscores. -/
theorem project_of_accepted {project secret accepted : String}
    (h : projectOfKey (project ++ "_" ++ secret) = .ok accepted) : accepted = project := by
  obtain ⟨rest, parts, front, back⟩ := key_of_projectOfKey h
  have joined : (project ++ "_" ++ secret).toList = project.toList ++ '_' :: secret.toList := by
    simp
  rw [joined] at parts
  exact String.toList_injective ((List.append_cons_inj_of_notMem front back).mp parts.symm).1

namespace Draft

/-- The settings of a draft with a project key. -/
theorem build_eq (d : Draft) (key : String) : { d with projectKey := some key }.build =
    projectOfKey key >>= fun projectId => (validate (d.toValue projectId)).map fun checked =>
      { projectKey := ⟨key⟩
        projectId := projectId
        baseUrl := checked.baseUrl
        driveUrl := checked.driveUrl
        requestTimeoutMs := checked.requestTimeoutMs
        userAgent := checked.userAgent
        retry := checked.retry
        retryNotes := d.retryNotes } := rfl

/-- A draft that was built had a project key. -/
theorem exists_key_of_build {d : Draft} {s : Settings} (h : d.build = .ok s) :
    ∃ key, d = { d with projectKey := some key } := by
  obtain ⟨key, rest⟩ := d
  cases key with
  | none => cases h
  | some key => exact ⟨key, rfl⟩

end Draft

theorem webAddress_of_decodeUrl {v : Value} {url : String} (h : (decodeUrl v).toExcept = .ok url) :
    Url.isValid url = true ∧ Url.hasWebScheme url = true := by
  obtain ⟨valid, web⟩ := Decoder.check_eq_ok.mp h
  exact ⟨(Decoder.check_eq_ok.mp valid).2, web⟩

/-- How the parts of accepted settings were read. -/
theorem parts_of_decode {v : Value} {c : Checked} (h : (decode v).toExcept = .ok c) :
    (decodeUrl (v.member "baseUrl")).toExcept = .ok c.baseUrl ∧
      (decodeUrl (v.member "driveUrl")).toExcept = .ok c.driveUrl ∧
      (decodeRetry (v.member "retryConfig")).toExcept = .ok c.retry := by
  obtain ⟨_, _, toAgent, retry, rfl⟩ := Decoded.both_eq_ok.mp (Decoder.of_record_eq_ok h)
  obtain ⟨_, _, toTimeout, _, rfl⟩ := Decoded.both_eq_ok.mp toAgent
  obtain ⟨_, _, toDrive, _, rfl⟩ := Decoded.both_eq_ok.mp toTimeout
  obtain ⟨_, _, toBase, drive, rfl⟩ := Decoded.both_eq_ok.mp toDrive
  obtain ⟨_, _, toProject, base, rfl⟩ := Decoded.both_eq_ok.mp toBase
  obtain ⟨_, _, rfl⟩ := Decoded.map_eq_ok.mp toProject
  exact ⟨Decoder.field_eq_ok.mp base, Decoder.field_eq_ok.mp drive, Decoder.field_eq_ok.mp retry⟩

/-- The retries that settings allow are a whole number. -/
theorem isIntegral_of_decodeRetry {v : Value} {p : RetryPolicy}
    (h : (decodeRetry v).toExcept = .ok p) : Number.isIntegral p.maxRetries = true := by
  have read := Decoder.of_record_eq_ok (Decoder.check_eq_ok.mp h).1
  obtain ⟨_, _, toMultiplier, _, rfl⟩ := Decoded.both_eq_ok.mp read
  obtain ⟨_, _, toMost, _, rfl⟩ := Decoded.both_eq_ok.mp toMultiplier
  obtain ⟨_, _, toInitial, _, rfl⟩ := Decoded.both_eq_ok.mp toMost
  obtain ⟨_, _, toRetries, _, rfl⟩ := Decoded.both_eq_ok.mp toInitial
  obtain ⟨_, retries, rfl⟩ := Decoded.map_eq_ok.mp toRetries
  obtain ⟨atLeast, -⟩ := Decoder.check_eq_ok.mp (Decoder.field_eq_ok.mp retries)
  exact (Decoder.check_eq_ok.mp (Decoder.check_eq_ok.mp atLeast).1).2

namespace Draft
variable {d : Draft} {s : Settings} (h : d.build = .ok s)
include h

/-- How the parts of the settings that a draft was built into were read. -/
theorem exists_decoded_of_build : ∃ v : Value,
    (decodeUrl (v.member "baseUrl")).toExcept = .ok s.baseUrl ∧
    (decodeUrl (v.member "driveUrl")).toExcept = .ok s.driveUrl ∧
    (decodeRetry (v.member "retryConfig")).toExcept = .ok s.retry := by
  obtain ⟨key, hd⟩ := exists_key_of_build h
  rw [hd, build_eq] at h
  cases accepted : projectOfKey key with
  | error f => rw [accepted] at h; cases h
  | ok projectId =>
    rw [accepted] at h
    change (validate (d.toValue projectId)).map _ = _ at h
    rw [validate] at h
    cases decoded : (decode (d.toValue projectId)).toExcept with
    | error issues => rw [decoded] at h; cases h
    | ok checked =>
      rw [decoded] at h
      cases h
      exact ⟨_, parts_of_decode decoded⟩

theorem webAddresses_of_build :
    (Url.isValid s.baseUrl = true ∧ Url.hasWebScheme s.baseUrl = true) ∧
      (Url.isValid s.driveUrl = true ∧ Url.hasWebScheme s.driveUrl = true) := by
  obtain ⟨v, base, drive, -⟩ := exists_decoded_of_build h
  exact ⟨webAddress_of_decodeUrl base, webAddress_of_decodeUrl drive⟩

/-- There is a limit to the retries of settings that were accepted. -/
theorem exists_limit_of_build : ∃ most, s.retry.limit? = some most := by
  obtain ⟨v, -, -, retry⟩ := exists_decoded_of_build h
  have whole := isIntegral_of_decodeRetry retry
  rw [Number.isIntegral] at whole
  rw [RetryPolicy.limit?, Number.ceilNat?]
  cases exact : Number.exact s.retry.maxRetries with
  | finite negative m e => exact ⟨_, rfl⟩
  | _ =>
    rw [exact] at whole
    cases whole

end Draft
end Settings
end Depot
