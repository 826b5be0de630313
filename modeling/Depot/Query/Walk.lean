import Depot.Base.Operations
import Depot.Failure.Summary
/-!
# Walks

A walk fetches every page of a query, following the cursor that each page ends
with. A failure on a later page ends the walk with an error, or with the pages
so far if the caller prefers that. Each page is asked for with the query as it
stands at that time.
-/
namespace Depot

/-- What a failure after the first page does to a walk. -/
inductive PagePolicy where
  | throw
  /-- The walk ends with what it has. -/
  | keep
  deriving DecidableEq, Repr

/-- A walk that is under way: what it has, and where the next page starts. -/
structure Walk where
  items : List Item
  pages : Nat
  cursor : Option String

structure WalkResult where
  items : List Item
  /-- Where a walk that did not end at the last page can be taken up again. -/
  last : Option String
  pages : Nat
  complete : Bool
  /-- What ended a walk that is not complete. -/
  failure : Option Failure

/-- The result as a record; its paging counts all items. -/
def WalkResult.toValue (r : WalkResult) : Value :=
  .record [("items", .list (r.items.map Item.toValue)),
    ("paging", (Paging.mk (Float.ofNat r.items.length) r.last).toValue),
    ("pages", .nat r.pages), ("complete", .bool r.complete),
    ("error", .optional (r.failure.map fun f => .record f.summary))]

namespace Walk

/-- A walk through all pages; a query with a limit has none. -/
def start (q : Query) : Outcome Walk :=
  match q.pageLimit with
  | some limit => .error (Precondition.noLimitOnWalk limit).failure
  | none => .ok ⟨[], 0, q.cursor⟩

/-- The query that asks for the next page. -/
def ask (w : Walk) (q : Query) : Query :=
  match w.cursor with
  | some cursor => q.last cursor
  | none => q

/-- Where a walk stands after an answer. -/
inductive Status where
  | onward (w : Walk)
  | ended (result : Outcome WalkResult)

/-- What is reported about a page. -/
def pageReports (pages size : Nat) : List Report :=
  [.tick .queryPages [], .debug "Fetched query page" [("page", .nat pages), ("size", .nat size)]]

/-- What is reported about a walk that ends early. -/
def stopReport (w : Walk) (f : Failure) : Report :=
  .warn "Query walk stopped early"
    [("pages", .nat w.pages), ("items", .nat w.items.length),
     ("last", .optional (w.cursor.map .text)), ("error", .text f.message)]

/-- Takes in a page or a failure. -/
def absorb (w : Walk) (policy : PagePolicy) : Outcome Page → Status × List Report
  | .ok page =>
    let w : Walk := ⟨w.items ++ page.items, w.pages + 1, page.paging.next?⟩
    let reports := pageReports w.pages page.items.length
    match w.cursor with
    | some _ => (.onward w, reports)
    | none => (.ended (.ok ⟨w.items, none, w.pages, true, none⟩), reports)
  | .error f =>
    if w.pages = 0 ∨ policy = .throw then (.ended (.error f), [])
    else (.ended (.ok ⟨w.items, w.cursor, w.pages, false, some f.asError⟩), [w.stopReport f])

/-- Fetches one page of a query that is bound to a base. -/
def fetch (bound : Bool) (q : Query) : Job Page := do
  Job.require bound .boundQuery
  Base.fetchPage q

/-- Follows a walk for at most `budget` pages. -/
def follow (bound : Bool) (ref : Nat) (policy : PagePolicy) :
    (budget : Nat) → Walk → Job WalkResult
  | 0, _ => .stall
  | budget + 1, w => .query ref fun q => do
    let answer ← (fetch bound (w.ask q)).attempt
    let (status, reports) := w.absorb policy answer
    Job.sayAll reports
    match status with
    | .onward w => follow bound ref policy budget w
    | .ended result => Job.ofOutcome result

/-- Fetches all pages of a query, of which there may be `budget`. -/
def run (bound : Bool) (ref : Nat) (policy : PagePolicy) (budget : Nat) : Job WalkResult :=
  .query ref fun q => do
    let w ← Job.ofOutcome (start q)
    follow bound ref policy budget w

end Walk
end Depot
