import Depot.Http.Request
/-!
# Endpoints by name

What a name that is not blank leads to: an address below the one of its service, and the rest from
the settings.
-/
namespace Depot.Endpoint

/-- Where the calls of a name go, below a service. -/
def under (s : Settings) (service name : String) : Endpoint :=
  { rootUrl := service ++ "/" ++ Text.Percent.encode s.projectId ++ "/" ++ Text.Percent.encode name
    projectKey := s.projectKey
    userAgent := s.userAgent
    timeoutMs := s.requestTimeoutMs
    retry := if s.retry.allows 0 then some s.retry else none }

/-- Why there is nothing of a kind under a blank name. -/
def unnamed (kind : String) : Failure := .configuration (kind ++ " name cannot be empty") none

theorem ofBase_eq (s : Settings) (name : String) : ofBase s name =
    if Text.isBlankText name then .error (unnamed "Base") else .ok (under s s.baseUrl name) := by
  have parts : ofBase s name =
      (if Text.isBlankText name then .error (unnamed "Base") else .ok () : Outcome Unit) >>=
        fun _ => .ok (under s s.baseUrl name) := rfl
  rw [parts]
  cases Text.isBlankText name <;> rfl

theorem ofDrive_eq (s : Settings) (name : String) : ofDrive s name =
    if Text.isBlankText name then .error (unnamed "Drive") else .ok (under s s.driveUrl name) := by
  have parts : ofDrive s name =
      (if Text.isBlankText name then .error (unnamed "Drive") else .ok () : Outcome Unit) >>=
        fun _ => .ok (under s s.driveUrl name) := rfl
  rw [parts]
  cases Text.isBlankText name <;> rfl

end Depot.Endpoint
