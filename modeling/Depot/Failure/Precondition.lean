import Depot.Failure.Basic
/-!
# Preconditions

What callers must see to before anything is sent.
-/
namespace Depot

/-- The largest number of records in one bulk put. -/
def maxPutRecords : Nat := 25

/-- The default and largest page of a query or a listing. -/
def defaultPageLimit : Nat := 1000

/-- The largest part of a file in one request: ten mebibytes. -/
def maxChunkSize : Nat := 10 * 1024 * 1024

/-- A precondition that an argument breaks. -/
inductive Precondition where
  | keyIsText
  | recordsToPut
  | recordsToPutMany
  | recordsWithinLimit (count : Nat)
  | operationsToUpdate
  | boundUpdater
  | boundQuery
  | noLimitOnWalk (limit : Float)
  | fileName
  | filesToDelete
  | chunkSizeInRange (chunkSize : Float)
  | concurrencyPositive (concurrency : Float)
  | chunkSizePositive

namespace Precondition

def message : Precondition → String
  | .keyIsText => "key must be a non-empty string"
  | .recordsToPut => "put requires at least one record"
  | .recordsToPutMany => "putMany requires at least one record"
  | .recordsWithinLimit count =>
    "put accepts at most " ++ toString maxPutRecords ++ " records, got " ++ toString count
  | .operationsToUpdate => "update requires at least one operation"
  | .boundUpdater => "updater is not bound to an item; create it with base.updater(key)"
  | .boundQuery => "query is not bound to a base; create it with base.query()"
  | .noLimitOnWalk _ => "limit must be unset for full-walk mode"
  | .fileName => "file name must be a non-empty string"
  | .filesToDelete => "delete requires at least one file name"
  | .chunkSizeInRange _ =>
    "chunkSize must be an integer between 1 and " ++ toString maxChunkSize
  | .concurrencyPositive _ => "concurrency must be a positive integer"
  | .chunkSizePositive => "chunk size must be positive"

def details? : Precondition → Option Fields
  | .recordsWithinLimit count => some [("count", .nat count), ("max", .nat maxPutRecords)]
  | .noLimitOnWalk limit => some [("limit", .number limit)]
  | .chunkSizeInRange chunkSize => some [("chunkSize", .number chunkSize)]
  | .concurrencyPositive concurrency => some [("concurrency", .number concurrency)]
  | _ => none

/-- The failure of a call that breaks a precondition. -/
def failure (p : Precondition) : Failure := .payload p.message p.details?

end Precondition
end Depot
