import Depot.Http.Request
import Depot.Proofs.Drive.Listings
import Depot.Proofs.Incidents
import Depot.Proofs.Query.Chain
/-!
# Listings to the last name

A listing of all files goes from page to page as long as a page names a cursor. The invariant between
two pages is that all answers so far were such pages, and that the names so far are theirs. Someone
who asks for one page after another by hand sends the same calls, and comes to the same names.
-/
namespace Depot

namespace Listing

/-- A page names a cursor: its paging has one that is not empty. -/
def Names (p : Listing) (cursor : String) : Prop :=
  ∃ paging, p.paging = some paging ∧ paging.last = some cursor ∧ cursor ≠ ""

/-- A page that is followed by another one. -/
def IsOnward (p : Listing) : Prop := ∃ cursor, p.Names cursor

variable {p : Listing} {cursor : String}

theorem next?_eq_some_iff : p.next? = some cursor ↔ p.Names cursor := by
  rw [next?, Option.bind_eq_some_iff]
  exact exists_congr fun paging => and_congr_right fun _ => Paging.next?_eq_some_iff

theorem next?_eq_none (h : ¬ p.IsOnward) : p.next? = none := by
  by_contra some_cursor
  obtain ⟨cursor, next⟩ := Option.ne_none_iff_exists'.mp some_cursor
  exact h ⟨cursor, next?_eq_some_iff.mp next⟩

/-- The page of file names that an answer brings. -/
def ofArrival (a : Arrival) : Outcome Listing :=
  Exchange.answerAs decode (Drive.pageCall none none) a.outcome

end Listing

namespace Scene

/-- What the answers that have arrived bring, if they are answers to listings. -/
def listings (s : Scene) : List (Outcome Listing) := s.arrived.map fun x => Listing.ofArrival x.2

section Views
variable (s : Scene) (k : Nat) (c : Call) (a : Arrival) (moves : List Desk.Move)

@[simp] theorem listings_launch : (s.launch k c).listings = s.listings := by simp [listings]

@[simp] theorem listings_stir : (s.stir moves).listings = s.listings := rfl

@[simp] theorem listings_land : (s.land k a).listings = s.listings ++ [Listing.ofArrival a] := by
  simp [listings]

end Views

end Scene

namespace Drive
variable {front last : Option String} {pages : List Listing} {answers : List (Outcome Listing)}
  {calls : List Call} {s : Scene}

/-- What is asked for from a cursor on, if these pages were the answers: a page from there, and then
one from where each of them ends. -/
def pageCalls (front last : Option String) (pages : List Listing) : List Call :=
  pageCall front last :: pages.map fun p => pageCall front p.next?

/-- What a listing from a cursor on sends and comes to, with all its answers: the names of all
pages, or the failure of one. -/
inductive Lists (front last : Option String) :
    List Call → List (Outcome Listing) → Outcome (List String) → Prop where
  | complete (pages : List Listing) (page : Listing) (onward : ∀ p ∈ pages, p.IsOnward)
      (ends : ¬ page.IsOnward) :
    Lists front last (pageCalls front last pages) (pages.map .ok ++ [.ok page])
      (.ok ((pages ++ [page]).flatMap Listing.names))
  | failed (pages : List Listing) (f : Failure) (onward : ∀ p ∈ pages, p.IsOnward) :
    Lists front last (pageCalls front last pages) (pages.map .ok ++ [.error f]) (.error f)

/-- The answers to a listing tell what it sends and what it comes to. -/
theorem Lists.unique {calls' : List Call} {r r' : Outcome (List String)}
    (h : Lists front last calls answers r) (h' : Lists front last calls' answers r') :
    calls = calls' ∧ r = r' := by
  have parts {pages pages' : List Listing} {a a' : Outcome Listing}
      (h : pages.map .ok ++ [a] = pages'.map .ok ++ [a']) : pages = pages' ∧ a = a' := by
    have inj : Function.Injective (List.map (Except.ok : Listing → Outcome Listing)) :=
      List.map_injective_iff.mpr fun _ _ h => Except.ok.inj h
    obtain ⟨front, back⟩ := List.append_singleton_inj.mp h
    exact ⟨inj front, back⟩
  generalize same : answers = answers' at h'
  cases h <;> cases h' <;> obtain ⟨rfl, answer⟩ := parts same <;> cases answer <;>
    exact ⟨rfl, rfl⟩

theorem Lists.onward {page : Listing} {cursor : String} {result : Outcome (List String)}
    (names : page.Names cursor) (h : Lists front (some cursor) calls answers result) :
    Lists front last (pageCall front last :: calls) (.ok page :: answers)
      (result.map (page.names ++ ·)) := by
  have next := Listing.next?_eq_some_iff.mpr names
  cases h with
  | complete pages final onward ends =>
    have all : Lists front last _ _ _ := .complete (page :: pages) final
      (List.forall_mem_cons.mpr ⟨⟨cursor, names⟩, onward⟩) ends
    simpa [pageCalls, next, Except.map] using all
  | failed pages f onward =>
    have all : Lists front last _ _ _ := .failed (page :: pages) f
      (List.forall_mem_cons.mpr ⟨⟨cursor, names⟩, onward⟩)
    simpa [pageCalls, next, Except.map] using all

/-- The first answer is the only one, or a page that leads on. -/
theorem Lists.first {result : Outcome (List String)} (h : Lists front last calls answers result) :
    (∃ f, calls = [pageCall front last] ∧ answers = [.error f] ∧ result = .error f) ∨
    (∃ page, ¬ page.IsOnward ∧ calls = [pageCall front last] ∧ answers = [.ok page] ∧
      result = .ok page.names) ∨
    ∃ page cursor calls' answers' result', page.Names cursor ∧
      Lists front (some cursor) calls' answers' result' ∧ calls = pageCall front last :: calls' ∧
      answers = .ok page :: answers' ∧ result = result'.map (page.names ++ ·) := by
  cases h with
  | complete pages final onward ends =>
    cases pages with
    | nil => exact .inr (.inl ⟨final, ends, rfl, rfl, by simp⟩)
    | cons page rest =>
      obtain ⟨⟨cursor, names⟩, onward⟩ := List.forall_mem_cons.mp onward
      exact .inr (.inr ⟨page, cursor, _, _, _, names, .complete rest final onward ends,
        by simp [pageCalls, Listing.next?_eq_some_iff.mpr names], rfl, rfl⟩)
  | failed pages f onward =>
    cases pages with
    | nil => exact .inl ⟨f, rfl, rfl, rfl⟩
    | cons page rest =>
      obtain ⟨⟨cursor, names⟩, onward⟩ := List.forall_mem_cons.mp onward
      exact .inr (.inr ⟨page, cursor, _, _, _, names, .failed rest f onward,
        by simp [pageCalls, Listing.next?_eq_some_iff.mpr names], rfl, rfl⟩)

/-! ## From page to page -/

/-- The cursor that some pages lead to. -/
def cursorAfter (pages : List Listing) : Option String := pages.getLast?.bind Listing.next?

/-- What may be asked for after these answers: the first page, and one for each cursor that a page
names. -/
def asked (front : Option String) (answers : List (Outcome Listing)) : List Call :=
  pageCall front none :: answers.filterMap fun answer =>
    (answer.toOption.bind Listing.next?).map fun cursor => pageCall front (some cursor)

/-- What holds of every scene of a listing: one call after another is sent, and each of them but the
first because a page names a cursor. -/
structure Follows (front : Option String) (s : Scene) : Prop where
  asked : s.sent <+: asked front s.listings
  inTurn : s.listings.length + s.underWay.length = s.sent.length
  alone : s.underWay.length ≤ 1

/-- A scene in which all pages so far lead on. -/
structure Reached (front : Option String) (pages : List Listing) (s : Scene) : Prop where
  answered : s.listings = pages.map .ok
  onward : ∀ p ∈ pages, p.IsOnward
  sent : s.sent ++ [pageCall front (cursorAfter pages)] = pageCalls front none pages
  idle : s.underWay = []

theorem heedless_follows : Scene.Heedless (Follows front) := by
  intro s s' hs h
  have listings : s'.listings = s.listings := by rw [Scene.listings, hs.arrived, Scene.listings]
  refine ⟨?_, ?_, ?_⟩
  · rw [hs.sent, listings]
    exact h.asked
  · rw [hs.sent, listings, hs.underWay]
    exact h.inTurn
  · rw [hs.underWay]
    exact h.alone

theorem cursorAfter_append_singleton (pages : List Listing) (page : Listing) :
    cursorAfter (pages ++ [page]) = page.next? := by simp [cursorAfter]

theorem asked_eq_pageCalls (onward : ∀ p ∈ pages, p.IsOnward) :
    asked front (pages.map .ok) = pageCalls front none pages := by
  have each : ∀ p ∈ pages, (p.next?.map fun cursor => pageCall front (some cursor)) =
      some (pageCall front p.next?) := by
    intro p hp
    obtain ⟨cursor, names⟩ := onward p hp
    rw [Listing.next?_eq_some_iff.mpr names]
    rfl
  have calls := (List.filterMap_congr each).trans
    (congrFun List.filterMap_eq_map pages : _ = pages.map fun p => pageCall front p.next?)
  rw [asked, List.filterMap_map, pageCalls, ← calls]
  rfl

theorem asked_append (answers more : List (Outcome Listing)) :
    asked front answers <+: asked front (answers ++ more) := by
  rw [asked, asked, List.filterMap_append, ← List.cons_append]
  exact List.prefix_append ..

theorem Reached.start (front : Option String) (desk : Desk) :
    Reached front [] ⟨[], desk, []⟩ := ⟨rfl, nofun, rfl, rfl⟩

theorem Reached.even (h : Reached front pages s) : s.sent.length = pages.length := by
  have both := congrArg List.length h.sent
  simpa [pageCalls] using both

theorem Reached.follows (h : Reached front pages s) : Follows front s where
  asked := by
    rw [h.answered, asked_eq_pageCalls h.onward, ← h.sent]
    exact List.prefix_append ..
  inTurn := by simp [h.answered, h.idle, h.even]
  alone := by simp [h.idle]

theorem Reached.launch (h : Reached front pages s) :
    Follows front (s.launch 0 (pageCall front (cursorAfter pages))) where
  asked := by
    have sent : (s.launch 0 (pageCall front (cursorAfter pages))).sent = asked front s.listings := by
      rw [Scene.sent_launch, h.sent, h.answered, asked_eq_pageCalls h.onward]
    simp [sent]
  inTurn := by simp [h.answered, h.idle, h.even]
  alone := by simp [h.idle]

theorem Reached.land (h : Reached front pages s) (moves : List Desk.Move) (a : Arrival) :
    Follows front (((s.launch 0 (pageCall front (cursorAfter pages))).stir moves).land 0 a) where
  asked := by
    rw [Scene.sent_land, Scene.sent_stir, Scene.sent_launch, h.sent, Scene.listings_land,
      Scene.listings_stir, Scene.listings_launch, h.answered, ← asked_eq_pageCalls h.onward]
    exact asked_append ..
  inTurn := by simp [h.answered, h.idle, h.even]
  alone := by simp [h.idle]

theorem Reached.push (h : Reached front pages s) (moves : List Desk.Move) (a : Arrival)
    {page : Listing} (came : Listing.ofArrival a = .ok page) (onward : page.IsOnward) {s' : Scene}
    (same : (((s.launch 0 (pageCall front (cursorAfter pages))).stir moves).land 0 a).SameCalls s') :
    Reached front (pages ++ [page]) s' where
  answered := by
    have listings : s'.listings = s.listings ++ [Listing.ofArrival a] := by
      rw [Scene.listings, same.arrived]
      simp [Scene.listings]
    rw [listings, h.answered, came]
    simp
  onward p hp := (List.mem_append.mp hp).elim (h.onward p) fun hp => by
    rw [List.mem_singleton.mp hp]
    exact onward
  sent := by
    rw [same.sent, Scene.sent_land, Scene.sent_stir, Scene.sent_launch, h.sent,
      cursorAfter_append_singleton, pageCalls, pageCalls]
    simp
  idle := by simp [same.underWay, h.idle]

/-- What a listing comes to. It comes to nothing if there are too many pages. -/
def ListEnds (front : Option String) (most : Nat) :
    Option (Outcome (List String)) → Scene → Prop
  | some result, s => Lists front none s.sent s.listings result
  | none, s => ∃ pages : List Listing, pages.length = most ∧ (∀ p ∈ pages, p.IsOnward) ∧
      s.listings = pages.map .ok

theorem keeps_listFrom_reached (budget : Nat) (h : Reached front pages s) :
    (listFrom front budget (pages.flatMap Listing.names) (cursorAfter pages)).Keeps
      (Follows front) (ListEnds front (pages.length + budget)) s := by
  induction budget generalizing s pages with
  | zero => exact ⟨h.follows, pages, rfl, h.onward, h.answered⟩
  | succ budget ih =>
    refine Job.Keeps.bind ((Job.keeps_exchangeAs heedless_follows h.idle h.follows h.launch
      h.land).mono ?_)
    rintro _ s' kept ⟨a, rfl, moves, alike⟩
    have same := alike.calls
    have brought : Exchange.answerAs Listing.decode (pageCall front (cursorAfter pages)) a.outcome =
        Listing.ofArrival a := rfl
    have sent : s'.sent = pageCalls front none pages := by
      rw [same.sent, Scene.sent_land, Scene.sent_stir, Scene.sent_launch, h.sent]
    have listings : s'.listings = pages.map .ok ++ [Listing.ofArrival a] := by
      rw [Scene.listings, same.arrived, ← h.answered]
      simp [Scene.listings]
    rw [brought]
    -- the answer is a failure, a page that leads on, or the last page
    cases came : Listing.ofArrival a with
    | error f =>
      rw [came] at listings
      change Lists front none s'.sent s'.listings (.error f)
      rw [sent, listings]
      exact .failed pages f h.onward
    | ok page =>
      by_cases onward : page.IsOnward
      · obtain ⟨cursor, names⟩ := onward
        have next := Listing.next?_eq_some_iff.mpr names
        have further := ih (h.push moves a came ⟨cursor, names⟩ same)
        rw [cursorAfter_append_singleton, next, List.flatMap_append, List.flatMap_singleton,
          List.length_append, List.length_singleton, Nat.add_assoc, Nat.add_comm 1] at further
        simp only [Job.Before, next]
        exact further
      · have next := Listing.next?_eq_none onward
        rw [came] at listings
        simp only [Job.Before, next]
        refine ⟨kept, ?_⟩
        change Lists front none s'.sent s'.listings _
        rw [sent, listings, ← List.flatMap_singleton Listing.names page, ← List.flatMap_append]
        exact .complete pages page h.onward onward

/-! ## By hand -/

/-- Someone who lists by hand from a cursor on: what they send, what the answers bring, and what they
come to. Each page is a listing of its own, and the next one is from the cursor that it names. -/
inductive ByHand (front : Option String) : Option String → List Call → List (Outcome Listing) →
    Outcome (List String) → Prop where
  | failed {last : Option String} {desk : Desk} {turns : List Turn} {c : Course Listing} {f : Failure}
      (run : (Course.start desk (list ⟨front, none, last⟩)).run turns = some c)
      (ended : c.result? = some (.error f)) :
    ByHand front last c.scene.sent c.scene.listings (.error f)
  | complete {last : Option String} {desk : Desk} {turns : List Turn} {c : Course Listing}
      {page : Listing} (run : (Course.start desk (list ⟨front, none, last⟩)).run turns = some c)
      (ended : c.result? = some (.ok page)) (ends : ¬ page.IsOnward) :
    ByHand front last c.scene.sent c.scene.listings (.ok page.names)
  | onward {last : Option String} {desk : Desk} {turns : List Turn} {c : Course Listing}
      {page : Listing} {cursor : String} {calls : List Call} {answers : List (Outcome Listing)}
      {result : Outcome (List String)}
      (run : (Course.start desk (list ⟨front, none, last⟩)).run turns = some c)
      (ended : c.result? = some (.ok page)) (names : page.Names cursor)
      (rest : ByHand front (some cursor) calls answers result) :
    ByHand front last (c.scene.sent ++ calls) (c.scene.listings ++ answers)
      (result.map (page.names ++ ·))

theorem list_sends {desk : Desk} {turns : List Turn} {c : Course Listing} {r : Outcome Listing}
    (run : (Course.start desk (list ⟨front, none, last⟩)).run turns = some c)
    (ended : c.result? = some r) : c.scene.sent = [pageCall front last] ∧ c.scene.listings = [r] := by
  have begins : (list ⟨front, none, last⟩).Keeps (fun _ => True) (fun result s => ∃ moves a,
      result = some (Exchange.answerAs Listing.decode (pageCall front last) a.outcome) ∧
      s = (Scene.mk [] desk []).exchanged (pageCall front last) moves a) ⟨[], desk, []⟩ :=
    Job.keeps_exchangeAs_exchanged (fun _ _ _ => trivial) rfl trivial trivial fun _ _ => trivial
  obtain ⟨moves, a, came, scene⟩ := Course.post_of_keeps (Course.keeps_of_run begins run) ended
  cases came
  rw [scene]
  exact ⟨Scene.sent_exchanged .., by rw [Scene.listings, Scene.arrived_exchanged]; rfl⟩

theorem ByHand.lists {result : Outcome (List String)} (h : ByHand front last calls answers result) :
    Lists front last calls answers result := by
  induction h with
  | failed run ended =>
    obtain ⟨sent, listings⟩ := list_sends run ended
    rw [sent, listings]
    exact .failed [] _ nofun
  | @complete last _ _ _ page run ended ends =>
    obtain ⟨sent, listings⟩ := list_sends run ended
    have all : Lists front last _ _ _ := .complete [] page nofun ends
    rw [sent, listings]
    simpa [pageCalls] using all
  | onward run ended names _ ih =>
    obtain ⟨sent, listings⟩ := list_sends run ended
    rw [sent, listings]
    exact ih.onward names

theorem exists_list (front last : Option String) (a : Arrival) : ∃ desk turns c,
    (Course.start desk (list ⟨front, none, last⟩)).run turns = some c ∧
      c.result? = some (Listing.ofArrival a) ∧ c.scene.sent = [pageCall front last] ∧
      c.scene.listings = [Listing.ofArrival a] := by
  obtain ⟨turns, c, run, ended, sent, arrived⟩ :=
    Course.exists_run_exchangeAs ⟨none, [], []⟩ Listing.decode (pageCall front last) a
  exact ⟨_, turns, c, run, ended, sent, by rw [Scene.listings, arrived]; rfl⟩

/-- Whatever a listing comes to, someone who gets the same answers comes to by hand. -/
theorem Lists.byHand {result : Outcome (List String)} {arrivals : List Arrival}
    (h : Lists front last calls (arrivals.map Listing.ofArrival) result) :
    ByHand front last calls (arrivals.map Listing.ofArrival) result := by
  induction arrivals generalizing last calls result with
  | nil =>
    generalize none_came : ([] : List Arrival).map Listing.ofArrival = answers at h
    cases h <;> simp at none_came
  | cons a others ih =>
    obtain ⟨desk, turns, c, run, ended, sent, listings⟩ := exists_list front last a
    rw [List.map_cons] at h ⊢
    rcases h.first with ⟨f, rfl, answers, rfl⟩ | ⟨page, ends, rfl, answers, rfl⟩ |
      ⟨page, cursor, calls', answers', result', names, rest, rfl, answers, rfl⟩
    · obtain ⟨brought, alone⟩ := List.cons.inj answers
      rw [brought] at ended listings
      rw [brought, alone, ← sent, ← listings]
      exact .failed run ended
    · obtain ⟨brought, alone⟩ := List.cons.inj answers
      rw [brought] at ended listings
      rw [brought, alone, ← sent, ← listings]
      exact .complete run ended ends
    · obtain ⟨brought, rfl⟩ := List.cons.inj answers
      rw [brought] at ended listings
      have listed := ByHand.onward run ended names (ih rest)
      rw [sent, listings] at listed
      rw [brought]
      exact listed

theorem url_pageCall (e : Endpoint) (front last : Option String) :
    (e.request (pageCall front last)).url = e.rootUrl ++ "/files?limit=1000" ++
      front.elim "" (fun s => "&prefix=" ++ Text.Percent.encode s) ++
      last.elim "" (fun s => "&last=" ++ Text.Percent.encode s) := by
  have limit : Params.encodePair "limit" (Param.nat defaultPageLimit).toText = "limit=1000" := by
    decide +kernel
  have beginning (s : String) : Params.encodePair "prefix" (Param.text s).toText =
      "prefix=" ++ Text.Percent.encode s := by
    have name : Text.Percent.encode "prefix" ++ "=" = "prefix=" := by decide +kernel
    rw [Params.encodePair, name]
    rfl
  have cursor (s : String) : Params.encodePair "last" (Param.text s).toText =
      "last=" ++ Text.Percent.encode s := by
    have name : Text.Percent.encode "last" ++ "=" = "last=" := by decide +kernel
    rw [Params.encodePair, name]
    rfl
  have parts : (e.request (pageCall front last)).url = e.rootUrl ++ "/files" ++
      Params.queryString (ListOptions.mk front none last).params := rfl
  rw [parts, ← String.toList_inj]
  cases front <;> cases last <;>
    simp [Params.queryString, Params.pairs, ListOptions.params, limit, beginning, cursor]

/-- The turns of a listing of two pages, of which the second cannot be fetched. -/
def secondPageFails : List Turn :=
  [.serve, .serve,
    .answer [] 0 ⟨.ok ⟨200.0, "", [],
      "\x7B\"paging\":\x7B\"size\":1,\"last\":\"a\"\x7D,\"names\":[\"a\"]\x7D".toUTF8⟩, 0.0⟩,
    .serve, .serve, .serve, .serve, .answer [] 0 ⟨.error (.thrown "down"), 0.0⟩, .serve, .serve]

end Drive
end Depot
