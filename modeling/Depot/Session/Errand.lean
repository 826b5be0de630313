import Depot.Session.Command
/-!
# Errands

An errand is a job and the endpoint that its calls go to. Which endpoint that is
is settled before the job begins.
-/
namespace Depot

structure Errand where
  home : Endpoint
  job : Job Result

namespace Errand

/-- An errand whose result is shown as a value. -/
def showing {α : Type} (home : Endpoint) (toValue : α → Value) (job : Job α) : Errand :=
  ⟨home, do return .value (toValue (← job))⟩

/-- Where a query without a base would go. -/
def nowhere (s : Settings) : Endpoint :=
  { rootUrl := ""
    projectKey := s.projectKey
    userAgent := s.userAgent
    timeoutMs := s.requestTimeoutMs
    retry := none }

/-- Where a query goes. -/
def homeOf (s : Settings) (sheet : Sheet) : Endpoint := sheet.home.getD (nowhere s)

/-- An errand for a query on a desk: its job knows its place and whether it has a base. -/
def forQuery {α : Type} (s : Settings) (d : Desk) (name : String) (toValue : α → Value)
    (job : (bound : Bool) → (ref : Nat) → Job α) : Outcome Errand := do
  let (ref, sheet) ← d.find name
  return showing (homeOf s sheet) toValue (job sheet.home.isSome ref)

end Errand
end Depot
