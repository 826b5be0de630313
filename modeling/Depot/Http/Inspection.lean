import Depot.Http.Request
import Depot.Text.Utf8
import Depot.Value.Parsing
/-!
# Inspecting requests

What can be read off a request that was sent: where below a root it went, and
the value that its body holds.
-/
namespace Depot

/-- The rest of a text behind a front that it may have. -/
private def behind : List Char → List Char → Option (List Char)
  | [], cs => some cs
  | _ :: _, [] => none
  | f :: front, c :: cs => if f = c then behind front cs else none

/-- An address relative to a root; one that is not below the root stays whole. -/
def relativeUrl (root url : String) : String :=
  (behind root.toList url.toList).elim url String.ofList

/-- The value that a body holds; no body holds the absent value. -/
def Body.value? : Body → Option Value
  | .none => some .absent
  | .text s => Value.parse? s
  | .bytes b => Value.parse? (Text.Utf8.decode b)

end Depot
