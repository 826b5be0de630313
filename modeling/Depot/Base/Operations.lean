import Depot.Base.Patch
import Depot.Base.Record
import Depot.Decode.Answers
import Depot.Job
/-!
# Operations of a base

Storing, fetching, changing and deleting the items of one base. What can be
checked before anything is sent is checked first.
-/
namespace Depot.Base

/-- The path of an item. -/
def itemPath (key : String) : String := "/items/" ++ Text.Percent.encode key

/-- Fetches one item. -/
def get (key : Value) : Job Item := do
  let key ← Job.ofOutcome (validKey key)
  Job.exchangeAs Item.decode (.plain .get (itemPath key) [])

/-- Deletes one item. -/
def delete (key : Value) : Job DeleteAnswer := do
  let key ← Job.ofOutcome (validKey key)
  Job.exchangeAs DeleteAnswer.decode (.plain .delete (itemPath key) [])

/-- Applies a patch that changes something to one item. -/
def update (key : Value) (p : Patch) : Job UpdateAnswer := do
  let key ← Job.ofOutcome (validKey key)
  Job.require (!p.isEmpty) .operationsToUpdate
  Job.exchangeAs UpdateAnswer.decode (.sending .patch (itemPath key) p.payload)

/-- Applies a patch to the item that it is bound to. -/
def commit (key : Option String) (p : Patch) : Job UpdateAnswer :=
  match key with
  | none => Job.fail Precondition.boundUpdater.failure
  | some key => update (.text key) p

/-- Stores a record under a key that is not taken. -/
def insert (base : String) (r : Record) : Job Item :=
  .clock fun now => do
    let item ← Job.ofOutcome (r.serialize now)
    let created ← Job.exchangeAs Item.decode (.sending .post "/items" [("item", .record item)])
    Job.say (.tick .recordsWritten [("base", base)])
    return created

/-- Which records of a bulk put were stored, and which were not. -/
structure PutResult where
  processed : List Item
  failed : List Item

namespace PutResult

def empty : PutResult := ⟨[], []⟩

def append (a b : PutResult) : PutResult := ⟨a.processed ++ b.processed, a.failed ++ b.failed⟩

def toValue (r : PutResult) : Value :=
  (PutAnswer.mk (some r.processed) (some r.failed)).toValue

end PutResult

/-- What is reported about a bulk put. -/
def putReports (base : String) (r : PutResult) : List Report :=
  .count .recordsWritten r.processed.length [("base", base)] ::
    if r.failed.isEmpty then []
    else [.warn "Some records were not stored"
      [("base", .text base), ("failed", .nat r.failed.length)]]

/-- Stores up to 25 records in one request. -/
def put (base : String) (records : List Record) : Job PutResult := do
  Job.require (!records.isEmpty) .recordsToPut
  Job.require (records.length ≤ maxPutRecords) (.recordsWithinLimit records.length)
  .clock fun now => do
    let items ← Job.ofOutcome (records.mapM (·.serialize now))
    let answer ← Job.exchangeAs PutAnswer.decode
      (.sending .put "/items" [("items", .list (items.map .record))])
    let result : PutResult := ⟨answer.processed.getD [], answer.failed.getD []⟩
    Job.sayAll (putReports base result)
    return result

/-- Consecutive batches of `size` elements, the last of which may be smaller. -/
def batches {α : Type} (size : Nat) (xs : List α) : List (List α) :=
  if xs.isEmpty ∨ size = 0 then []
  else xs.take size :: batches size (xs.drop size)
termination_by xs.length
decreasing_by
  rename_i h
  cases xs with
  | nil => simp at h
  | cons x rest => simp at h ⊢; omega

/-- Stores batch after batch onto what is stored, up to the first failure. -/
def putBatches (base : String) : List (List Record) → PutResult → Job PutResult
  | [], stored => pure stored
  | batch :: rest, stored => do
    let result ← put base batch
    putBatches base rest (stored.append result)

/-- Stores any number of records, 25 in one request, one request after another. -/
def putMany (base : String) (records : List Record) : Job PutResult := do
  Job.require (!records.isEmpty) .recordsToPutMany
  putBatches base (batches maxPutRecords records) .empty

/-- Fetches one page of a query. -/
def fetchPage (q : Query) : Job Page :=
  Job.exchangeAs Page.decode (.sending .post "/query" q.payload)

end Depot.Base
