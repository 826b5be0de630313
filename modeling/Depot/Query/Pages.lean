import Depot.Query.Walk
/-!
# Pages one by one

The pages of a query, fetched when they are asked for. The query is copied at
the start, so what happens to it later does not show.
-/
namespace Depot

/-- The pages that are still to come: the query of the next one, until there is none. -/
structure Pages where
  next? : Option Query

namespace Pages

def start (q : Query) : Pages := ⟨some q⟩

/-- The pages after one that was asked for with `q`. -/
def after (q : Query) (page : Page) : Pages := ⟨page.paging.next?.map q.last⟩

/-- Fetches the next page, if there is one. -/
def pull (bound : Bool) (p : Pages) : Job (Option (Page × Pages)) :=
  match p.next? with
  | none => pure none
  | some q => do
    let page ← Walk.fetch bound q
    return some (page, after q page)

end Pages
end Depot
