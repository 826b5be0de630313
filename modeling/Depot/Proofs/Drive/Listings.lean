import Depot.Drive.Operations
import Depot.Proofs.Exchange
/-!
# Listings page by page

A listing of all files asks for one page after another: the first from the beginning, and each other
one from the cursor that the page before it has named.
-/
namespace Depot.Drive

/-- The call for a page of the names that begin with a text. -/
def pageCall (front last : Option String) : Call :=
  .plain .get "/files" (ListOptions.mk front none last).params

/-- The cursor that an answer names, if it is a page that is not the last one. -/
def named? (front : Option String) (a : Arrival) : Option String :=
  (Exchange.answerAs Listing.decode (pageCall front none) a.outcome).toOption.bind Listing.next?

/-- Where the pages begin: at the beginning, and then where each answer says. -/
def starts (front : Option String) (s : Scene) : List (Option String) :=
  none :: s.arrived.map fun x => named? front x.2

/-- The calls that were sent ask for the pages in their order. -/
def ListsInTurn (front : Option String) (s : Scene) : Prop :=
  s.sent <+: (starts front s).map (pageCall front)

variable {front last : Option String} {s : Scene}

theorem heedless_listsInTurn : Scene.Heedless (ListsInTurn front) := by
  intro s s' hs h
  rw [ListsInTurn, starts, hs.sent, hs.arrived]
  exact h

/-- A page is a page from wherever it was asked for. -/
theorem named?_eq {a : Arrival} {page : Listing}
    (h : Exchange.answerAs Listing.decode (pageCall front last) a.outcome = .ok page) :
    named? front a = page.next? := by
  have same : Exchange.answerAs Listing.decode (pageCall front none) a.outcome = .ok page := h
  rw [named?, same]
  rfl

theorem keeps_listFrom (budget : Nat) (names : List String) (idle : s.underWay = [])
    (next : s.sent ++ [pageCall front last] = (starts front s).map (pageCall front)) :
    (listFrom front budget names last).Keeps (ListsInTurn front) (fun _ _ => True) s := by
  induction budget generalizing s names last with
  | zero => exact ⟨⟨_, next⟩, trivial⟩
  | succ budget ih =>
    have before : ListsInTurn front s := ⟨_, next⟩
    have launched : ListsInTurn front (s.launch 0 (pageCall front last)) := by
      have sent : (s.launch 0 (pageCall front last)).sent =
          (starts front (s.launch 0 (pageCall front last))).map (pageCall front) := by
        rw [Scene.sent_launch, next, starts, starts, Scene.arrived_launch]
      exact ⟨[], (List.append_nil _).trans sent⟩
    have onward (moves : List Desk.Move) (a : Arrival) :
        (((s.launch 0 (pageCall front last)).stir moves).land 0 a).sent ++
          [pageCall front (named? front a)] =
        (starts front (((s.launch 0 (pageCall front last)).stir moves).land 0 a)).map
          (pageCall front) := by
      simp only [starts, Scene.sent_land, Scene.sent_stir, Scene.sent_launch, Scene.arrived_land,
        Scene.arrived_stir, Scene.arrived_launch, next]
      simp
    refine Job.Keeps.bind ((Job.keeps_exchangeAs heedless_listsInTurn idle before launched
      fun moves a => ⟨_, onward moves a⟩).mono ?_)
    rintro _ s' h' ⟨a, rfl, moves, hs'⟩
    cases ha : Exchange.answerAs Listing.decode (pageCall front last) a.outcome with
    | error f => trivial
    | ok page =>
      have named := named?_eq ha
      cases hn : page.next? with
      | none =>
        simp only [Job.Before, hn]
        exact ⟨h', trivial⟩
      | some cursor =>
        simp only [Job.Before, hn]
        have idle' : s'.underWay = [] := by simp [hs'.calls.underWay, idle]
        refine ih _ idle' ?_
        rw [hs'.calls.sent, starts, hs'.calls.arrived, ← hn, ← named]
        exact onward moves a

/-- Each page of a listing is asked for where the page before it ends. -/
theorem listsInTurn_of_run (front : Option String) (budget : Nat) {desk : Desk} {turns : List Turn}
    {c : Course (List String)}
    (run : (Course.start desk (listAll front budget)).run turns = some c) :
    ListsInTurn front c.scene :=
  (Course.keeps_of_run (keeps_listFrom budget [] rfl rfl) run).inv

end Depot.Drive
