import Depot.Value.Basic
/-!
# Filters

A filter compares a field with a value. On the wire its key is the field,
followed by a mark and the comparator unless the comparator is equality.
-/
namespace Depot

inductive Comparator where
  | equals | notEquals | greaterThan | greaterThanOrEqual | lessThan | lessThanOrEqual
  | range | contains | notContains | startsWith
  deriving DecidableEq, Repr

namespace Comparator

def all : List Comparator :=
  [.equals, .notEquals, .greaterThan, .greaterThanOrEqual, .lessThan, .lessThanOrEqual,
   .range, .contains, .notContains, .startsWith]

def name : Comparator → String
  | .equals => "equals"
  | .notEquals => "not_equals"
  | .greaterThan => "greater_than"
  | .greaterThanOrEqual => "greater_than_or_equal"
  | .lessThan => "less_than"
  | .lessThanOrEqual => "less_than_or_equal"
  | .range => "range"
  | .contains => "contains"
  | .notContains => "not_contains"
  | .startsWith => "prefix"

def ofName? (s : String) : Option Comparator := all.find? (·.name = s)

/-- What the wire key says of a comparator; equality is silent. -/
def operator : Comparator → String
  | .equals => ""
  | .notEquals => "ne"
  | .greaterThan => "gt"
  | .greaterThanOrEqual => "gte"
  | .lessThan => "lt"
  | .lessThanOrEqual => "lte"
  | .range => "range"
  | .contains => "contains"
  | .notContains => "not_contains"
  | .startsWith => "pfx"

end Comparator

/-- The wire key of a filter. -/
def filterKey (field : String) (comparator : Comparator) : String :=
  match comparator.operator with
  | "" => field
  | operator => field ++ "?" ++ operator

end Depot
