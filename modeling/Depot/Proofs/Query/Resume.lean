import Depot.Proofs.Asking
import Depot.Proofs.Query.Walk
/-!
# Walks that are taken up again

A walk that a failure has ended names the place where it stopped. Asking from there on, another
walk gets the pages that the first one is lacking: it asks for what the first one would have asked
for, and whoever answers by the calls alone gives the same pages.
-/
namespace Depot

namespace Scene

/-- The outcomes of the calls that are answered, in the order of their arrival. -/
def outcomes (s : Scene) : List (Outcome Response) := s.arrived.map fun x => x.2.outcome

/-- The calls are answered one after another, and each as `server` answers it. -/
def ServedBy (server : Call → Outcome Response) (s : Scene) : Prop :=
  s.outcomes <+: s.sent.map server

/-- A query was `q` whenever it was looked at, and it still is. -/
def Untouched (ref : Nat) (q : Query) (s : Scene) : Prop :=
  s.desk.queryAt ref = q ∧ ∀ r ∈ s.readings, r = q

/-- What a walk meets whose query nobody touches and whose calls are answered by `server`. -/
def Serene (server : Call → Outcome Response) (ref : Nat) (q : Query) (s : Scene) : Prop :=
  s.ServedBy server ∧ s.Untouched ref q

variable {server : Call → Outcome Response} {ref : Nat} {q : Query} {s : Scene}

theorem Serene.note (h : s.Serene server ref q) {i : Incident} (call : i.call? = none)
    (arrival : i.arrival? = none) (query : ∀ r, i.query? = some r → r = q) :
    (s.note i).Serene server ref q := by
  obtain ⟨served, same, readings⟩ := h
  refine ⟨?_, same, ?_⟩
  · rw [ServedBy, outcomes, arrived_note, sent_note, arrival, call, Option.toList_none,
      Option.toList_none, List.append_nil, List.append_nil]
    exact served
  · intro r hr
    rw [readings_note, List.mem_append, Option.mem_toList] at hr
    exact hr.elim (readings r) (query r)

theorem Serene.launch (h : s.Serene server ref q) (k : Nat) (c : Call) :
    (s.launch k c).Serene server ref q := by
  obtain ⟨served, same, readings⟩ := h
  refine ⟨?_, same, by simpa using readings⟩
  rw [ServedBy, outcomes, arrived_launch, sent_launch, List.map_append]
  exact served.trans (List.prefix_append ..)

theorem Serene.land (h : s.Serene server ref q) {k : Nat} {c : Call}
    (next : s.sent[s.outcomes.length]? = some c) :
    ((s.stir []).land k ⟨server c, 0⟩).Serene server ref q := by
  obtain ⟨⟨more, served⟩, same, readings⟩ := h
  refine ⟨?_, same, by simpa using readings⟩
  have asked : (s.sent.map server)[s.outcomes.length]? = some (server c) := by simp [next]
  rw [← served, List.getElem?_append_right (Nat.le_refl _), Nat.sub_self] at asked
  obtain ⟨others, rfl⟩ : ∃ others, more = server c :: others := by
    cases more with
    | nil => simp at asked
    | cons o others => exact ⟨others, by simpa using asked⟩
  refine ⟨others, ?_⟩
  simpa [outcomes] using served

end Scene

/-- What the outcome of a call for a page brings. -/
def Page.ofOutcome : Outcome Response → Outcome Page :=
  Exchange.answerAs Page.decode Query.empty.pageCall

theorem Scene.pages_eq (s : Scene) : s.pages = s.outcomes.map Page.ofOutcome := by
  rw [pages, outcomes, List.map_map]
  rfl

namespace Course
variable {α : Type} {G : Scene → Prop} {P : Course α → Prop}

/-- As long as the surroundings keep to `G`, which they always can, a course comes to where `P`
holds. -/
inductive SurelyWhile (G : Scene → Prop) (P : Course α → Prop) : Course α → Prop where
  | now {c : Course α} (h : P c) : SurelyWhile G P c
  | later {c : Course α} (onward : ∃ t c', c.step t = some c' ∧ G c'.scene)
      (rest : ∀ t c', c.step t = some c' → G c'.scene → SurelyWhile G P c') : SurelyWhile G P c

theorem SurelyWhile.mono {P' : Course α → Prop} {c : Course α} (h : c.SurelyWhile G P)
    (hP : ∀ c, P c → P' c) : c.SurelyWhile G P' := by
  induction h with
  | now h => exact .now (hP _ h)
  | later onward _ ih => exact .later onward ih

theorem surelyWhile_of_invariant (Inv : Course α → Prop)
    (keeps : ∀ c t c', Inv c → c.step t = some c' → Inv c')
    (onward : ∀ c, Inv c → G c.scene → P c ∨ ∃ t c', c.step t = some c' ∧ G c'.scene)
    {c : Course α} (inv : Inv c) (h : G c.scene) : c.SurelyWhile G P := by
  induction c using moves_wellFounded.induction with
  | _ c ih =>
    rcases onward c inv h with arrived | further
    · exact .now arrived
    · refine .later further fun t c' step h' => ?_
      exact ih c' (moves_of_step step) (keeps c t c' inv step) h'

end Course

namespace Query

/-- A chain that begins somewhere in a whole chain goes along with it, if the same calls get the
same answers. -/
theorem Chain.goes_along {q q' : Query} {bring : Call → Outcome Page}
    {answers answers' : List (Outcome Page)} {sent sent' : List Call} {start : Nat}
    (whole : Chain q (List.replicate sent.length q) answers sent)
    (brought : answers = sent.map bring)
    (ends : ∀ i page, answers[i]? = some (.ok page) → page.IsOnward → i + 1 < sent.length)
    (chain : Chain q' (List.replicate sent'.length q') answers' sent') (shape : q'.shape = q.shape)
    (first : sent[start]? = some q'.pageCall)
    (brought' : ∀ i, i + 1 < sent'.length → answers'[i]? = (sent'[i]?).map bring)
    (i : Nat) (inside : i < sent'.length) : sent'[i]? = sent[start + i]? := by
  induction i with
  | zero =>
    have begins := (chain.first q' (by rw [List.getElem?_replicate, if_pos inside])).2
    rw [begins, Nat.add_zero, first]
  | succ i ih =>
    obtain ⟨page, cursor, answered, last, full, call⟩ := chain.next i q' (by simp [inside])
    have same : answers[start + i]? = some (.ok page) := by
      rw [brought, List.getElem?_map, ← ih (by omega), ← brought' i inside, answered]
    have more := ends (start + i) page same ⟨cursor, last, full⟩
    obtain ⟨page', cursor', answered', last', -, call'⟩ :=
      whole.next (start + i) q (by simp [more])
    rw [same] at answered'
    cases answered'
    rw [last] at last'
    cases last'
    rw [call, ← Nat.add_assoc, call']
    exact congrArg some (pageCall_last_inj.mpr shape)

end Query

namespace Walk
variable {policy : PagePolicy} {outcomes : List (Outcome Page)} {r : WalkResult}

theorem Verdict.of_complete (h : Verdict policy outcomes (.ok r)) (complete : r.complete = true) :
    ∃ pages page, outcomes = (pages ++ [page]).map .ok ∧ (∀ p ∈ pages, p.IsOnward) ∧
      ¬ page.IsOnward ∧ r.items = (pages ++ [page]).flatMap Page.items ∧
      r.pages = (pages ++ [page]).length := by
  cases h with
  | last pages page onward ends =>
    exact ⟨pages, page, by rw [List.map_append]; rfl, onward, ends, rfl, by simp⟩
  | kept => cases complete

theorem Verdict.of_stopped (h : Verdict policy outcomes (.ok r)) (stopped : r.complete = false) :
    ∃ pages page f cursor, outcomes = (pages ++ [page]).map .ok ++ [.error f] ∧
      (∀ p ∈ pages ++ [page], p.IsOnward) ∧ page.paging.last = some cursor ∧ cursor ≠ "" ∧
      r.last = some cursor ∧ r.items = (pages ++ [page]).flatMap Page.items ∧
      r.pages = (pages ++ [page]).length := by
  cases h with
  | last => cases stopped
  | kept pages page f onward =>
    obtain ⟨cursor, last, full⟩ := onward page (by simp)
    exact ⟨pages, page, f, cursor, rfl, onward, last, full, last, rfl, by simp⟩

/-- What a walk has asked for and got whose query nobody touches: a chain through that query. -/
theorem Proper.chain_of_readings {q : Query} {s : Scene} (h : Proper q s)
    (unchanged : ∀ r ∈ s.readings, r = q) :
    q.Chain (List.replicate s.sent.length q) s.pages s.sent := by
  refine h.chain.replicate_iff.mpr fun r hr => ?_
  rw [unchanged r (List.mem_of_mem_tail (List.mem_of_mem_take hr))]

theorem asksOnly_fetch {P : Call → Prop} {R : Nat → Prop} (calls : ∀ q : Query, P q.pageCall)
    (bound : Bool) (q : Query) : (fetch bound q).AsksOnly P R :=
  (Job.asksOnly_require _ _).bind fun _ => Job.asksOnly_exchangeAs (calls q)

theorem asksOnly_run {P : Call → Prop} (calls : ∀ q : Query, P q.pageCall) (bound : Bool)
    (ref : Nat) (policy : PagePolicy) (budget : Nat) :
    (run bound ref policy budget).AsksOnly P (· = ref) := by
  have follows (w : Walk) : (follow bound ref policy budget w).AsksOnly P (· = ref) := by
    induction budget generalizing w with
    | zero => trivial
    | succ budget ih =>
      refine ⟨rfl, fun q => (asksOnly_fetch calls bound _).attempt.bind fun answer => ?_⟩
      generalize w.absorb policy answer = taken
      obtain ⟨status, reports⟩ := taken
      refine (Job.asksOnly_sayAll _).bind fun _ => ?_
      cases status with
      | onward w => exact ih w
      | ended result => exact Job.asksOnly_ofOutcome result
  exact ⟨rfl, fun q => (Job.asksOnly_ofOutcome _).bind follows⟩

section Resumption
variable {server : Call → Outcome Response} {q : Query} {sent : List Call} {all : List Page}

/-- A walk to the end: its calls are a chain, `server` brings its pages, and there is another one
after each of them but the last. -/
structure Entire (server : Call → Outcome Response) (q : Query) (sent : List Call)
    (all : List Page) : Prop where
  chain : q.Chain (List.replicate sent.length q) (all.map .ok) sent
  begins : sent[0]? = some q.pageCall
  brought : all.map .ok = sent.map fun c => Page.ofOutcome (server c)
  onward : ∀ i page, all[i]? = some page → (page.IsOnward ↔ i + 1 < all.length)

theorem Entire.length (h : Entire server q sent all) : all.length = sent.length := by
  simpa using congrArg List.length h.brought

theorem entire_of_complete {ref budget : Nat} {desk : Desk} {turns : List Turn}
    {c : Course WalkResult} (unlimited : (desk.queryAt ref).pageLimit = none)
    (run : (Course.start desk (Walk.run true ref policy budget)).run turns = some c)
    (serene : c.scene.Serene server ref (desk.queryAt ref))
    (finished : c.result? = some (.ok r)) (complete : r.complete = true) :
    ∃ all, Entire server (desk.queryAt ref) c.scene.sent all ∧
      r.items = all.flatMap Page.items ∧ r.pages = all.length := by
  have kept := Course.keeps_of_run (keeps_run policy budget unlimited) run
  have chain := kept.inv.chain_of_readings serene.2.2
  have ends := Course.post_of_keeps kept finished
  obtain ⟨pages, page, answered, onward, last, items, count⟩ :=
    (ends.verdict _ rfl).of_complete complete
  refine ⟨pages ++ [page], ⟨answered ▸ chain, ?_, ?_, ?_⟩, items, count⟩
  · have some_sent : 0 < c.scene.sent.length := by
      rw [← ends.even, answered]
      simp
    exact (chain.first _ (by rw [List.getElem?_replicate, if_pos some_sent])).2
  · have every : c.scene.outcomes.length = (c.scene.sent.map server).length := by
      simpa [Scene.pages_eq] using ends.even
    rw [← answered, Scene.pages_eq, serene.1.eq_of_length every, List.map_map]
    rfl
  · intro i p hp
    rcases Nat.lt_trichotomy i pages.length with earlier | rfl | later
    · rw [List.getElem?_append_left earlier] at hp
      simp [onward p (List.mem_of_getElem? hp), earlier]
    · obtain rfl : page = p := by simpa using hp
      simp [last]
    · have inside := (List.getElem?_eq_some_iff.mp hp).1
      rw [List.length_append, List.length_singleton] at inside
      omega

theorem Entire.follows (h : Entire server q sent all) {q' : Query} {answers : List (Outcome Page)}
    {sent' : List Call} {start : Nat}
    (chain : q'.Chain (List.replicate sent'.length q') answers sent') (shape : q'.shape = q.shape)
    (first : sent[start]? = some q'.pageCall)
    (brought : ∀ i, i + 1 < sent'.length →
      answers[i]? = (sent'[i]?).map fun c => Page.ofOutcome (server c))
    (i : Nat) (inside : i < sent'.length) : sent'[i]? = sent[start + i]? := by
  refine h.chain.goes_along h.brought ?_ chain shape first brought i inside
  intro i page answered more
  have there : all[i]? = some page := by simpa using answered
  rw [← h.length]
  exact (h.onward i page there).mp more

/-- A walk that has stopped has the first pages of the walk to the end, and the call that failed is
the next one of that walk. -/
theorem Entire.of_stopped {ref budget : Nat} {desk : Desk} {turns : List Turn}
    {c : Course WalkResult} (h : Entire server (desk.queryAt ref) sent all)
    (unlimited : (desk.queryAt ref).pageLimit = none)
    (run : (Course.start desk (Walk.run true ref policy budget)).run turns = some c)
    (unchanged : ∀ r ∈ c.scene.readings, r = desk.queryAt ref)
    (served : c.scene.outcomes.dropLast <+: c.scene.sent.map server)
    (ended : c.result? = some (.ok r)) (stopped : r.complete = false) :
    ∃ taken cursor, r.last = some cursor ∧
      sent[taken]? = some ((desk.queryAt ref).last cursor).pageCall ∧
      r.items = (all.take taken).flatMap Page.items ∧ r.pages = taken := by
  have kept := Course.keeps_of_run (keeps_run policy budget unlimited) run
  have chain := kept.inv.chain_of_readings unchanged
  have ends := Course.post_of_keeps kept ended
  obtain ⟨pages, page, f, cursor, answered, -, last, -, resume, items, count⟩ :=
    (ends.verdict _ rfl).of_stopped stopped
  -- every call is answered, the last one by the failure
  have asked : c.scene.sent.length = (pages ++ [page]).length + 1 := by
    rw [← ends.even, answered]
    simp
  have brought : ∀ i, i + 1 < c.scene.sent.length → c.scene.pages[i]? =
      (c.scene.sent[i]?).map fun call => Page.ofOutcome (server call) := by
    intro i hi
    have length : c.scene.outcomes.length = c.scene.sent.length := by
      simpa [Scene.pages_eq] using ends.even
    have inside : i < c.scene.outcomes.dropLast.length := by
      rw [List.length_dropLast]
      omega
    have outcome := List.prefix_iff_getElem?.mp served i inside
    rw [List.getElem_dropLast] at outcome
    rw [Scene.pages_eq, List.getElem?_map, List.getElem?_eq_getElem (by omega), Option.map_some]
    rw [List.getElem?_map] at outcome
    cases hc : c.scene.sent[i]? with
    | none => simp [hc] at outcome
    | some call => simpa [hc, eq_comm] using congrArg (Option.map Page.ofOutcome) outcome
  have along := h.follows chain rfl h.begins brought
  simp only [Nat.zero_add] at along
  have first_pages : all.take (pages ++ [page]).length = pages ++ [page] := by
    refine List.ext_getElem? fun i => ?_
    rcases Nat.lt_or_ge i (pages ++ [page]).length with inside | outside
    · have here := brought i (by omega)
      rw [along i (by omega), ← List.getElem?_map, ← h.brought, answered,
        List.getElem?_append_left (by simpa using inside), List.getElem?_map, List.getElem?_map]
        at here
      rw [List.getElem?_take_of_lt inside]
      exact (Option.map_injective (fun _ _ => Except.ok.inj) here).symm
    · rw [List.getElem?_eq_none outside, List.getElem?_eq_none]
      exact Nat.le_trans (List.length_take_le ..) outside
  have failed : c.scene.sent[(pages ++ [page]).length]? =
      some ((desk.queryAt ref).last cursor).pageCall := by
    have here : pages.length + 1 < c.scene.sent.length := by simp [asked]
    obtain ⟨page', cursor', got, last', -, call⟩ :=
      chain.next pages.length _ (by rw [List.getElem?_replicate, if_pos here])
    obtain rfl : page = page' := by simpa [answered] using got
    rw [last] at last'
    cases last'
    simpa using call
  refine ⟨(pages ++ [page]).length, cursor, resume, ?_, ?_, count⟩
  · rw [← along _ (by omega), failed]
  · rw [first_pages, items]

/-- A walk from where the walk to the end asks for a page goes along with that walk. -/
theorem Entire.goes_with (h : Entire server q sent all) {q' : Query} (shape : q'.shape = q.shape)
    {taken : Nat} (next : sent[taken]? = some q'.pageCall) {s : Scene} (proper : Proper q' s)
    {ref : Nat} (serene : s.Serene server ref q') :
    s.sent <+: sent.drop taken ∧ s.pages <+: (all.drop taken).map .ok := by
  obtain ⟨served, -, unchanged⟩ := serene
  have turns : s.outcomes.length + s.underWay.length = s.sent.length := by
    simpa [Scene.pages_eq] using proper.inTurn
  have brought : ∀ i, i + 1 < s.sent.length →
      s.pages[i]? = (s.sent[i]?).map fun c => Page.ofOutcome (server c) := by
    intro i hi
    have inside : i < s.outcomes.length := by
      have := proper.alone
      omega
    have outcome := List.prefix_iff_getElem?.mp served i inside
    rw [List.getElem?_map] at outcome
    rw [Scene.pages_eq, List.getElem?_map, List.getElem?_eq_getElem inside, ← outcome,
      Option.map_map]
    rfl
  have along := h.follows (proper.chain_of_readings unchanged) shape next brought
  have calls : s.sent <+: sent.drop taken := by
    rw [List.prefix_iff_getElem?]
    intro i inside
    rw [List.getElem?_drop, ← along i inside, List.getElem?_eq_getElem inside]
  refine ⟨calls, ?_⟩
  have pages := served.map Page.ofOutcome
  rw [← Scene.pages_eq, List.map_map] at pages
  rw [List.map_drop, h.brought, ← List.map_drop]
  exact pages.trans (calls.map _)

/-- What such a walk comes to when it has ended: the pages that are left. -/
theorem Entire.rest_of_ends (h : Entire server q sent all) {taken : Nat}
    (some_left : taken < all.length) {s : Scene}
    (pages : s.pages <+: (all.drop taken).map .ok) {most : Nat} (room : all.length ≤ taken + most)
    {result : Option (Outcome WalkResult)} (ends : Ends policy most result s) :
    ∃ rest : WalkResult, result = some (.ok rest) ∧ rest.complete = true ∧
      rest.items = (all.drop taken).flatMap Page.items ∧ rest.pages = all.length - taken := by
  have answered {i : Nat} {answer : Outcome Page} (here : s.pages[i]? = some answer) :
      ∃ page, answer = .ok page ∧ (page.IsOnward ↔ taken + i + 1 < all.length) := by
    obtain ⟨inside, same⟩ := List.getElem?_eq_some_iff.mp here
    have there := List.prefix_iff_getElem?.mp pages i inside
    rw [same, List.getElem?_map, List.getElem?_drop] at there
    obtain ⟨page, hp, rfl⟩ := Option.map_eq_some_iff.mp there
    exact ⟨page, rfl, h.onward _ page hp⟩
  cases result with
  | none =>
    obtain ⟨spent, onward⟩ := ends.spent rfl
    have length : s.pages.length = most := by rw [ends.even, spent]
    have last : s.pages[most - 1]? ≠ none := by
      rw [ne_eq, List.getElem?_eq_none_iff]
      omega
    obtain ⟨answer, here⟩ := Option.ne_none_iff_exists'.mp last
    obtain ⟨page, rfl, more⟩ := answered here
    obtain ⟨page', same, goes_on⟩ := onward _ (List.mem_of_getElem? here)
    cases same
    have := more.mp goes_on
    omega
  | some result =>
    have never (front : List Page) (f : Failure) (same : s.pages = front.map .ok ++ [.error f]) :
        False := by
      have here : s.pages[front.length]? = some (.error f) := by simp [same]
      obtain ⟨page, wrong, -⟩ := answered here
      cases wrong
    have verdict := ends.verdict result rfl
    generalize same : s.pages = outcomes at verdict
    cases verdict with
    | last front page onward last =>
      have final : ¬ taken + front.length + 1 < all.length := by
        have here : s.pages[front.length]? = some (.ok page) := by simp [same]
        obtain ⟨page', same_page, more⟩ := answered here
        cases same_page
        exact fun before => last (more.mpr before)
      have whole : front ++ [page] = all.drop taken := by
        have begins : front ++ [page] <+: all.drop taken := by
          rw [same, ← List.map_singleton, ← List.map_append] at pages
          exact (List.prefix_map_iff_of_injective fun _ _ => Except.ok.inj).mp pages
        refine begins.eq_of_length ?_
        have atMost := begins.length_le
        rw [List.length_append, List.length_singleton, List.length_drop] at atMost ⊢
        omega
      refine ⟨_, rfl, rfl, by rw [whole], ?_⟩
      rw [← List.length_drop, ← whole, List.length_append]
      rfl
    | thrown front f => exact (never front f same).elim
    | kept front page f => exact (never (front ++ [page]) f same).elim

/-- From where the walk to the end asks for a page, another walk gets the pages that are left. -/
theorem Entire.surely_rest (h : Entire server q sent all) {q' : Query} (shape : q'.shape = q.shape)
    {taken : Nat} (next : sent[taken]? = some q'.pageCall) {ref most : Nat} {desk : Desk}
    (stands : desk.queryAt ref = q') (unlimited : q'.pageLimit = none)
    (room : all.length ≤ taken + most) :
    (Course.start desk (Walk.run true ref policy most)).SurelyWhile (Scene.Serene server ref q')
      fun c => ∃ rest : WalkResult, c.result? = some (.ok rest) ∧ rest.complete = true ∧
        rest.items = (all.drop taken).flatMap Page.items ∧ rest.pages = all.length - taken := by
  subst stands
  have some_left : taken < all.length := by
    rw [h.length]
    exact (List.getElem?_eq_some_iff.mp next).1
  let Inv (c : Course WalkResult) : Prop :=
    c.job.Keeps (Proper (desk.queryAt ref)) (Ends policy most) c.scene ∧
      c.job.AsksOnly (fun _ => True) (· = ref)
  have begins : Inv (Course.start desk (Walk.run true ref policy most)) :=
    ⟨keeps_run policy most unlimited, asksOnly_run (fun _ => trivial) ..⟩
  have serene : (⟨[], desk, []⟩ : Scene).Serene server ref (desk.queryAt ref) :=
    ⟨List.nil_prefix, rfl, nofun⟩
  refine Course.surelyWhile_of_invariant Inv ?_ ?_ begins serene
  · intro c t c' ⟨kept, asks⟩ step
    have moves := Course.moves_of_step step
    exact ⟨Course.keeps_of_moves kept moves, Course.asksOnly_of_moves asks moves⟩
  · rintro ⟨j, s⟩ ⟨kept, asks⟩ serene
    have pages := (h.goes_with shape next kept.inv serene).2
    cases j with
    | finish result =>
      obtain ⟨rest, ended, facts⟩ := h.rest_of_ends some_left pages room kept.2
      exact .inl ⟨rest, ended, facts⟩
    | stall =>
      obtain ⟨rest, ended, -⟩ := h.rest_of_ends some_left pages room kept.2
      cases ended
    | report r next => exact .inr ⟨.serve, _, rfl, serene.note rfl rfl nofun⟩
    | clock next => exact .inr ⟨.date none, _, rfl, serene.note rfl rfl nofun⟩
    | query place next =>
      obtain rfl := asks.1
      refine .inr ⟨.serve, _, rfl, serene.note rfl rfl ?_⟩
      rintro r ⟨⟩
      exact serene.2.1
    | progress u n next => exact .inr ⟨.hear none, _, rfl, serene.note rfl rfl nofun⟩
    | launch k c next => exact .inr ⟨.serve, _, rfl, serene.launch k c⟩
    | await next =>
      obtain ⟨k, hk⟩ := List.exists_mem_of_ne_nil _ kept.2.1
      have turns : s.outcomes.length + s.underWay.length = s.sent.length := by
        simpa [Scene.pages_eq] using kept.1.inTurn
      have waiting : 0 < s.underWay.length := List.length_pos_of_mem hk
      have asked : s.outcomes.length < s.sent.length := by omega
      exact .inr ⟨.answer [] k ⟨server s.sent[s.outcomes.length], 0⟩, _, if_pos hk,
        serene.land (List.getElem?_eq_getElem asked)⟩
    | detach => exact kept.elim

end Resumption

/--
When a failure has ended a walk that keeps what it has, a walk from the place that it names gets
exactly the rest: for whoever answers by the calls alone, both together have the items and the
number of pages of a walk that nothing has ended.
-/
theorem resumes_without_loss (server : Call → Outcome Response) (ref : Nat) (desk : Desk)
    (unlimited : (desk.queryAt ref).pageLimit = none)
    (policy : PagePolicy) (budget : Nat) (turns : List Turn) (whole : Course WalkResult)
    (run : (Course.start desk (Walk.run true ref policy budget)).run turns = some whole)
    (serene : whole.scene.Serene server ref (desk.queryAt ref)) (full : WalkResult)
    (finished : whole.result? = some (.ok full)) (complete : full.complete = true)
    (budget' : Nat) (turns' : List Turn) (part : Course WalkResult)
    (run' : (Course.start desk (Walk.run true ref .keep budget')).run turns' = some part)
    (untouched : part.scene.Untouched ref (desk.queryAt ref))
    (served : part.scene.outcomes.dropLast <+: part.scene.sent.map server) (r : WalkResult)
    (ended : part.result? = some (.ok r)) (stopped : r.complete = false) :
    ∃ cursor, r.last = some cursor ∧
      ∀ (ref' : Nat) (policy' : PagePolicy) (most : Nat) (desk' : Desk),
        desk'.queryAt ref' = (desk.queryAt ref).last cursor → full.pages ≤ r.pages + most →
        (Course.start desk' (Walk.run true ref' policy' most)).SurelyWhile
          (Scene.Serene server ref' ((desk.queryAt ref).last cursor))
          fun c => ∃ rest, c.result? = some (.ok rest) ∧ rest.complete = true ∧
            r.items ++ rest.items = full.items ∧ r.pages + rest.pages = full.pages := by
  obtain ⟨all, entire, items, count⟩ := entire_of_complete unlimited run serene finished complete
  obtain ⟨taken, cursor, last, next, items', count'⟩ :=
    entire.of_stopped unlimited run' untouched.2 served ended stopped
  refine ⟨cursor, last, fun ref' policy' most desk' stands room => ?_⟩
  have enough : all.length ≤ taken + most := by omega
  have shape : ((desk.queryAt ref).last cursor).shape = (desk.queryAt ref).shape := rfl
  refine (entire.surely_rest shape next stands unlimited enough).mono fun c hc => ?_
  obtain ⟨rest, ended, complete, items'', count''⟩ := hc
  refine ⟨rest, ended, complete, ?_, ?_⟩
  · rw [items, items', items'', ← List.flatMap_append, List.take_append_drop]
  · have some_left : taken < all.length := by
      rw [entire.length]
      exact (List.getElem?_eq_some_iff.mp next).1
    omega

/-- The desk with an empty query. -/
def bareDesk : Desk := ⟨none, [⟨.empty, none⟩], [("q", 0)]⟩

/-- Two pages without items, the second after the cursor `c1`. -/
def emptyPage (first : Bool) : Outcome Response :=
  .ok ⟨200.0, "", [], if first then
      "\x7B\"items\":[],\"paging\":\x7B\"size\":0,\"last\":\"c1\"\x7D\x7D".toUTF8
    else "\x7B\"items\":[],\"paging\":\x7B\"size\":0\x7D\x7D".toUTF8⟩

/-- Whether a call asks for a page without a cursor. -/
def asksFirst (c : Call) : Bool :=
  match c.content with
  | .json v => (v.member "last").isAbsent
  | _ => false

/-- The turns of a walk whose second answer is `second`, and `more` turns after that. -/
def turnsTo (second : Outcome Response) (more : Nat) : List Turn :=
  [.serve, .serve, .serve, .serve, .answer [] 0 ⟨emptyPage true, 0.0⟩,
    .serve, .serve, .serve, .serve, .serve, .serve, .serve, .answer [] 0 ⟨second, 0.0⟩] ++
    List.replicate more .serve

def isBare (q : Query) : Bool :=
  q.groups.isEmpty && q.current.isEmpty && q.pageLimit.isNone && q.cursor.isNone && !q.descending

theorem eq_empty_of_isBare {q : Query} (h : isBare q = true) : q = .empty := by
  obtain ⟨groups, current, pageLimit, cursor, descending⟩ := q
  simpa [isBare, Query.empty, and_assoc] using h

/-- How a walk has ended, which of its calls ask for a first page, and whether its queries are
empty. -/
def glance (c : Course WalkResult) : Option (Bool × Option String × Nat) × List Bool × Bool :=
  (c.result?.bind fun x => x.toOption.map fun r => (r.complete, r.last, r.pages),
    c.scene.sent.map asksFirst,
    isBare (c.scene.desk.queryAt 0) && c.scene.readings.all isBare)

theorem exists_of_glance {policy : PagePolicy} {second : Outcome Response} {more : Nat}
    {ending : Bool × Option String × Nat}
    (shown : ((Course.start bareDesk (Walk.run true 0 policy 3)).run (turnsTo second more)).map
      glance = some (some ending, [true, false], true)) :
    ∃ c r, (Course.start bareDesk (Walk.run true 0 policy 3)).run (turnsTo second more) = some c ∧
      c.scene.Untouched 0 .empty ∧
      c.scene.sent.map (emptyPage ∘ asksFirst) = [emptyPage true, emptyPage false] ∧
      c.scene.outcomes = [emptyPage true, second] ∧
      c.result? = some (.ok r) ∧ (r.complete, r.last, r.pages) = ending := by
  obtain ⟨c, run, shown⟩ := Option.map_eq_some_iff.mp shown
  simp only [glance, Prod.mk.injEq, Bool.and_eq_true, List.all_eq_true] at shown
  obtain ⟨ended, asked, bare, unchanged⟩ := shown
  obtain ⟨result, hr, ended⟩ := Option.bind_eq_some_iff.mp ended
  cases result with
  | error f => cases ended
  | ok r =>
    refine ⟨c, r, run, ⟨eq_empty_of_isBare bare, fun q hq => ?_⟩, ?_, ?_, hr,
      Option.some.inj ended⟩
    · exact eq_empty_of_isBare (unchanged q hq)
    · rw [← List.map_map, asked]
      rfl
    · have silent : (List.replicate more Turn.serve).filterMap Turn.answer? = [] :=
        List.filterMap_eq_nil_iff.mpr fun t ht => by rw [List.eq_of_mem_replicate ht]; rfl
      rw [Scene.outcomes, Course.arrived_of_run run, turnsTo, List.filterMap_append, silent]
      rfl

/-- The second of two pages cannot be had at first. -/
theorem resumes_without_loss_secondPage : ∃ whole full part r cursor,
    (Course.start bareDesk (Walk.run true 0 .throw 3)).run
      (turnsTo (emptyPage false) 4) = some whole ∧
    whole.scene.Serene (emptyPage ∘ asksFirst) 0 .empty ∧
    whole.result? = some (.ok full) ∧ full.complete = true ∧
    (Course.start bareDesk (Walk.run true 0 .keep 3)).run
      (turnsTo (.error (.thrown "down")) 3) = some part ∧
    part.scene.Untouched 0 .empty ∧
    part.scene.outcomes.dropLast <+: part.scene.sent.map (emptyPage ∘ asksFirst) ∧
    part.result? = some (.ok r) ∧ r.complete = false ∧ r.last = some cursor ∧
    (Course.start (bareDesk.playAll [⟨"q", .copy "rest"⟩, ⟨"rest", .edit (.last cursor)⟩]).2
      (Walk.run true 1 .throw 2)).SurelyWhile
        (Scene.Serene (emptyPage ∘ asksFirst) 1 (Query.empty.last cursor))
      fun c => ∃ rest, c.result? = some (.ok rest) ∧ rest.complete = true ∧
        r.items ++ rest.items = full.items ∧ r.pages + rest.pages = full.pages := by
  have shown : ((Course.start bareDesk (Walk.run true 0 .throw 3)).run
      (turnsTo (emptyPage false) 4)).map glance =
      some (some (true, none, 2), [true, false], true) := by decide +kernel
  have shown' : ((Course.start bareDesk (Walk.run true 0 .keep 3)).run
      (turnsTo (.error (.thrown "down")) 3)).map glance =
      some (some (false, some "c1", 1), [true, false], true) := by decide +kernel
  obtain ⟨whole, full, run, untouched, asked, brought, finished, facts⟩ := exists_of_glance shown
  obtain ⟨part, r, run', untouched', asked', brought', ended, facts'⟩ := exists_of_glance shown'
  simp only [Prod.mk.injEq] at facts facts'
  obtain ⟨complete, -, pages⟩ := facts
  obtain ⟨stopped, -, pages'⟩ := facts'
  have serene : whole.scene.Serene (emptyPage ∘ asksFirst) 0 .empty := by
    refine ⟨⟨[], ?_⟩, untouched⟩
    rw [asked, brought]
    rfl
  have served : part.scene.outcomes.dropLast <+: part.scene.sent.map (emptyPage ∘ asksFirst) := by
    rw [asked', brought']
    exact ⟨[emptyPage false], rfl⟩
  obtain ⟨cursor, last, resumes⟩ := resumes_without_loss (emptyPage ∘ asksFirst) 0 bareDesk rfl
    .throw 3 _ whole run serene full finished complete 3 _ part run' untouched' served r ended
    stopped
  exact ⟨whole, full, part, r, cursor, run, serene, finished, complete, run', untouched', served,
    ended, stopped, last, resumes 1 .throw 2 _ rfl (by omega)⟩

end Walk
end Depot
