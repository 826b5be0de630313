import Depot.Number.Shortest
import Depot.Text.Percent
import Depot.Value.Basic
/-!
# Calls

A call is what a service asks for: a method, a path below the root of the
service, parameters and a body. Parameters are percent-encoded in their order,
and those without a value are left out.
-/
namespace Depot

inductive Method where
  | get | post | put | patch | delete
  deriving DecidableEq, Repr

namespace Method

def all : List Method := [.get, .post, .put, .patch, .delete]

def text : Method → String
  | .get => "GET"
  | .post => "POST"
  | .put => "PUT"
  | .patch => "PATCH"
  | .delete => "DELETE"

def ofText? (s : String) : Option Method := all.find? (·.text = s)

end Method

/-- The value of a parameter. -/
inductive Param where
  | text (s : String)
  | nat (n : Nat)
  | number (x : Float)

def Param.toText : Param → String
  | .text s => s
  | .nat n => toString n
  | .number x => Number.text x

/-- Named parameters; those without a value are not sent. -/
abbrev Params := List (String × Option Param)

namespace Params

/-- One parameter in its encoded form. -/
def encodePair (name value : String) : String :=
  Text.Percent.encode name ++ "=" ++ Text.Percent.encode value

/-- The encoded parameters that have a value. -/
def pairs (params : Params) : List String :=
  params.filterMap fun (name, value) => value.map fun p => encodePair name p.toText

/-- The query of an address: empty, or a question mark and the parameters. -/
def queryString (params : Params) : String :=
  match pairs params with
  | [] => ""
  | ps => "?" ++ "&".intercalate ps

end Params

/-- What a call sends along. -/
inductive Content where
  | none
  | json (v : Value)
  | bytes (b : ByteArray)

structure Call where
  method : Method
  path : String
  params : Params
  content : Content

namespace Call

/-- A call without parameters that sends a record. -/
def sending (method : Method) (path : String) (fields : Fields) : Call :=
  ⟨method, path, [], .json (.record fields)⟩

/-- A call without a body. -/
def plain (method : Method) (path : String) (params : Params) : Call :=
  ⟨method, path, params, .none⟩

end Call
end Depot
