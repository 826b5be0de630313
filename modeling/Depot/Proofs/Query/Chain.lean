import Mathlib.Data.List.Basic
import Depot.Query.Walk
import Depot.Proofs.Exchange
/-!
# Chains of pages

The calls for one page after another, each from where the page before it ends. A query
may change between two pages; a chain goes through one query exactly if what it asks
for stays the same.
-/
namespace Depot

/-- A page that another one follows. -/
def Page.IsOnward (p : Page) : Prop := ∃ cursor, p.paging.last = some cursor ∧ cursor ≠ ""

theorem Paging.next?_eq_some_iff {p : Paging} {cursor : String} :
    p.next? = some cursor ↔ p.last = some cursor ∧ cursor ≠ "" := by
  unfold next?
  cases p.last with
  | none => simp
  | some last =>
    by_cases h : last = ""
    · subst h
      simp
    · simp only [String.isEmpty_iff, h, if_false, Option.some.injEq]
      exact ⟨fun e => ⟨e, e ▸ h⟩, And.left⟩

theorem Page.next?_eq_none {p : Page} (h : ¬ p.IsOnward) : p.paging.next? = none := by
  rw [Option.eq_none_iff_forall_ne_some]
  intro cursor hc
  exact h ⟨cursor, Paging.next?_eq_some_iff.mp hc⟩

/-- What a query asks for, wherever it starts: its groups, the size of its pages and its order. -/
def Query.shape (q : Query) : List Fields × Float × Bool :=
  (q.allGroups, q.pageLimit.getD (Float.ofNat defaultPageLimit), q.descending)

namespace Query

def pageCall (q : Query) : Call := .sending .post "/query" q.payload

theorem pageCall_last_inj {q r : Query} {cursor : String} :
    (r.last cursor).pageCall = (q.last cursor).pageCall ↔ r.shape = q.shape := by
  have records : Function.Injective (List.map Value.record) :=
    List.map_injective_iff.mpr fun _ _ h => Value.record.inj h
  have order (b b' : Bool) : (if b then Value.text "desc" else .absent) =
      (if b' then Value.text "desc" else .absent) ↔ b = b' := by
    cases b <;> cases b' <;> simp
  have payload : (r.last cursor).pageCall = (q.last cursor).pageCall ↔
      (r.last cursor).payload = (q.last cursor).payload := by
    simp [Query.pageCall, Call.sending]
  rw [payload]
  simp only [Query.payload, List.cons.injEq, Prod.mk.injEq, Value.number.injEq, Value.list.injEq,
    records.eq_iff, order, true_and, and_true]
  simp only [Query.shape, Prod.mk.injEq]
  exact ⟨fun ⟨size, groups, _, order⟩ => ⟨groups, size, order⟩,
    fun ⟨groups, size, order⟩ => ⟨size, groups, rfl, order⟩⟩

/--
The calls for pages of a query that was `q` at first, each for the query as it stood when its page
was asked for: the first page is that of `q`, and every other starts where the page before it ends.
-/
structure Chain (q : Query) (stood : List Query) (answers : List (Outcome Page))
    (sent : List Call) : Prop where
  length : sent.length = stood.length
  first : ∀ r, stood[0]? = some r → r = q ∧ sent[0]? = some q.pageCall
  next : ∀ i r, stood[i + 1]? = some r → ∃ page cursor, answers[i]? = some (.ok page) ∧
    page.paging.last = some cursor ∧ cursor ≠ "" ∧ sent[i + 1]? = some (r.last cursor).pageCall

namespace Chain
variable {q : Query} {stood : List Query} {answers : List (Outcome Page)} {sent : List Call}

theorem nil (q : Query) : Chain q [] [] [] where
  length := rfl
  first := by simp
  next := by simp

theorem one (q : Query) (answers : List (Outcome Page)) :
    Chain q [q] answers [q.pageCall] where
  length := rfl
  first := by simp
  next := by simp

/-- The page after one that another follows is asked for. -/
theorem push (h : Chain q stood answers sent) {i : Nat} (asked : sent.length = i + 1) {page : Page}
    (answered : answers[i]? = some (.ok page)) {cursor : String}
    (last : page.paging.last = some cursor) (full : cursor ≠ "") {r : Query} :
    Chain q (stood ++ [r]) answers (sent ++ [(r.last cursor).pageCall]) where
  length := by simp [h.length]
  first := by
    intro r' hr'
    have some_sent : 0 < sent.length := by omega
    rw [List.getElem?_append_left (h.length ▸ some_sent)] at hr'
    rw [List.getElem?_append_left some_sent]
    exact h.first r' hr'
  next := by
    intro k r' hr'
    by_cases earlier : k + 1 < stood.length
    · rw [List.getElem?_append_left earlier] at hr'
      rw [List.getElem?_append_left (h.length ▸ earlier)]
      exact h.next k r' hr'
    · have at_end : k + 1 = stood.length := by
        have inside := (List.getElem?_eq_some_iff.mp hr').1
        rw [List.length_append, List.length_singleton] at inside
        omega
      have index : k = i := by
        rw [h.length] at asked
        omega
      have same : r = r' := by simpa [at_end] using hr'
      refine ⟨page, cursor, index ▸ answered, last, full, ?_⟩
      rw [at_end, ← h.length, same]
      simp

theorem answer (h : Chain q stood answers sent) (answer : Outcome Page) :
    Chain q stood (answers ++ [answer]) sent where
  length := h.length
  first := h.first
  next := by
    intro i r hr
    obtain ⟨page, cursor, arrived, rest⟩ := h.next i r hr
    refine ⟨page, cursor, ?_, rest⟩
    rw [List.getElem?_append_left (List.getElem?_eq_some_iff.mp arrived).1]
    exact arrived

/-- A chain goes through its first query exactly if every page was asked for as that one asks. -/
theorem replicate_iff (h : Chain q stood answers sent) :
    Chain q (List.replicate sent.length q) answers sent ↔ ∀ r ∈ stood, r.shape = q.shape := by
  constructor
  · intro isolated r hr
    obtain ⟨i, hi⟩ := List.mem_iff_getElem?.mp hr
    cases i with
    | zero => rw [(h.first r hi).1]
    | succ i =>
      have inside : i + 1 < sent.length := h.length ▸ (List.getElem?_eq_some_iff.mp hi).1
      obtain ⟨page, cursor, answered, last, -, call⟩ := h.next i r hi
      obtain ⟨page', cursor', answered', last', -, call'⟩ := isolated.next i q (by simp [inside])
      rw [answered] at answered'
      cases answered'
      rw [last] at last'
      cases last'
      rw [call] at call'
      exact pageCall_last_inj.mp (Option.some.inj call')
  · intro unchanged
    refine ⟨by simp, ?_, ?_⟩
    · intro r hr
      obtain ⟨some_sent, hr⟩ := List.getElem?_eq_some_iff.mp hr
      rw [List.length_replicate, h.length] at some_sent
      rw [List.getElem_replicate] at hr
      exact ⟨hr.symm, (h.first _ (List.getElem?_eq_getElem some_sent)).2⟩
    · intro i r hr
      obtain ⟨inside, hr⟩ := List.getElem?_eq_some_iff.mp hr
      rw [List.length_replicate, h.length] at inside
      rw [List.getElem_replicate] at hr
      subst hr
      obtain ⟨page, cursor, answered, last, full, call⟩ :=
        h.next i _ (List.getElem?_eq_getElem inside)
      have same := unchanged _ (List.getElem_mem inside)
      exact ⟨page, cursor, answered, last, full, call.trans
        (congrArg some (pageCall_last_inj.mpr same))⟩

end Chain
end Query

/-- What an answer to a call for a page brings. -/
def Page.ofArrival (a : Arrival) : Outcome Page :=
  Exchange.answerAs Page.decode Query.empty.pageCall a.outcome

namespace Scene

/-- What the answers that have arrived bring, if they are answers to calls for pages. -/
def pages (s : Scene) : List (Outcome Page) := s.arrived.map fun x => Page.ofArrival x.2

@[simp] theorem pages_note_read (s : Scene) (r : Query) : (s.note (.read r)).pages = s.pages := by
  simp [pages]

@[simp] theorem pages_launch (s : Scene) (k : Nat) (c : Call) : (s.launch k c).pages = s.pages := by
  simp [pages]

@[simp] theorem pages_land (s : Scene) (k : Nat) (a : Arrival) :
    (s.land k a).pages = s.pages ++ [Page.ofArrival a] := by
  simp [pages]

@[simp] theorem pages_stir (s : Scene) (moves : List Desk.Move) : (s.stir moves).pages = s.pages :=
  rfl

theorem SameCalls.pages {s s' : Scene} (h : s.SameCalls s') : s'.pages = s.pages := by
  rw [Scene.pages, Scene.pages, h.arrived]

end Scene
end Depot
