import Depot.Proofs.Query.Chain
/-!
# Walks

What a walk asks for and what it comes to, for all answers and whatever its caller does
meanwhile. A walk that has taken in some pages is determined by them and by the query
that it began with; but each page is asked for with the query as it stands at that time.
-/
namespace Depot
namespace Walk

/--
What a walk comes to, with all answers: the items of all pages, or after a failure either that
failure or the items of the pages before it.
-/
inductive Verdict (policy : PagePolicy) : List (Outcome Page) → Outcome WalkResult → Prop where
  | last (pages : List Page) (page : Page) (onward : ∀ p ∈ pages, p.IsOnward)
      (ends : ¬ page.IsOnward) :
    Verdict policy (pages.map .ok ++ [.ok page])
      (.ok ⟨(pages ++ [page]).flatMap Page.items, none, pages.length + 1, true, none⟩)
  | thrown (pages : List Page) (f : Failure) (onward : ∀ p ∈ pages, p.IsOnward)
      (hard : pages = [] ∨ policy = .throw) :
    Verdict policy (pages.map .ok ++ [.error f]) (.error f)
  | kept (pages : List Page) (page : Page) (f : Failure) (onward : ∀ p ∈ pages ++ [page], p.IsOnward)
      (soft : policy = .keep) :
    Verdict policy ((pages ++ [page]).map .ok ++ [.error f])
      (.ok ⟨(pages ++ [page]).flatMap Page.items, page.paging.last, pages.length + 1, false,
        some f.asError⟩)

/-- What a walk comes to depends on its answers alone. -/
theorem Verdict.unique {policy : PagePolicy} {outcomes : List (Outcome Page)}
    {r r' : Outcome WalkResult} (h : Verdict policy outcomes r) (h' : Verdict policy outcomes r') :
    r = r' := by
  have parts {pages pages' : List Page} {a a' : Outcome Page}
      (h : pages.map .ok ++ [a] = pages'.map .ok ++ [a']) : pages = pages' ∧ a = a' := by
    have inj : Function.Injective (List.map (Except.ok : Page → Outcome Page)) :=
      List.map_injective_iff.mpr fun _ _ h => Except.ok.inj h
    obtain ⟨front, back⟩ := List.append_singleton_inj.mp h
    exact ⟨inj front, back⟩
  generalize same : outcomes = outcomes' at h'
  cases h <;> cases h' <;> obtain ⟨pages, answer⟩ := parts same <;> simp_all

/-- The walk that began with `q` and has taken in some pages. -/
def through (q : Query) (pages : List Page) : Walk :=
  ⟨pages.flatMap Page.items, pages.length,
    pages.getLast?.elim q.cursor fun page => page.paging.last⟩

variable {q : Query} {pages : List Page}

theorem ask_through (r : Query) (onward : ∀ p ∈ pages, p.IsOnward) (first : pages = [] → r = q) :
    (pages = [] ∧ (through q pages).ask r = q) ∨
      ∃ before page cursor, pages = before ++ [page] ∧ page.paging.last = some cursor ∧
        cursor ≠ "" ∧ (through q pages).ask r = r.last cursor := by
  rcases List.eq_nil_or_concat' pages with rfl | ⟨before, page, rfl⟩
  · have hr : r = q := first rfl
    refine .inl ⟨rfl, ?_⟩
    rw [hr]
    cases hq : q.cursor with
    | none => simp [ask, through, hq]
    | some cursor =>
      have same : q.last cursor = q := by rw [Query.last, ← hq]
      simp [ask, through, hq, same]
  · obtain ⟨cursor, last, full⟩ := onward page (by simp)
    refine .inr ⟨before, page, cursor, rfl, last, full, ?_⟩
    simp [ask, through, last]

/-- Where a walk stands when it takes in what an answer brings. -/
theorem absorb_through (q : Query) (onward : ∀ p ∈ pages, p.IsOnward) (policy : PagePolicy)
    (answer : Outcome Page) :
    (∃ page, answer = .ok page ∧ page.IsOnward ∧ ((through q pages).absorb policy answer).1 =
      .onward (through q (pages ++ [page]))) ∨
    ∃ result, ((through q pages).absorb policy answer).1 = .ended result ∧
      Verdict policy (pages.map .ok ++ [answer]) result := by
  cases answer with
  | ok page =>
    by_cases h : page.IsOnward
    · obtain ⟨cursor, last⟩ := h
      have next := Paging.next?_eq_some_iff.mpr last
      refine .inl ⟨page, rfl, ⟨cursor, last⟩, ?_⟩
      simp [absorb, through, next, last.1]
    · have next := Page.next?_eq_none h
      refine .inr ⟨_, ?_, .last pages page onward h⟩
      simp [absorb, through, next]
  | error f =>
    by_cases hard : pages = [] ∨ policy = .throw
    · refine .inr ⟨_, ?_, .thrown pages f onward hard⟩
      simp [absorb, through, hard]
    · rw [not_or] at hard
      obtain ⟨some, soft⟩ := hard
      obtain ⟨before, page, rfl⟩ := (List.eq_nil_or_concat' pages).resolve_left some
      have soft : policy = .keep := by
        cases policy with
        | throw => exact absurd rfl soft
        | keep => rfl
      refine .inr ⟨_, ?_, .kept before page f onward soft⟩
      simp [absorb, through, soft]

theorem absorb_counts (w : Walk) (policy : PagePolicy) (answer : Outcome Page) :
    Report.total .queryPages (w.absorb policy answer).2 = [answer].countP Except.isOk := by
  cases answer with
  | ok page =>
    cases h : page.paging.next? <;>
      simp [absorb, h, pageReports, Report.total, Report.tick, Report.debug, Except.isOk,
        Except.toBool]
  | error f =>
    by_cases h : w.pages = 0 ∨ policy = .throw <;>
      simp [absorb, h, stopReport, Report.total, Report.warn, Except.isOk, Except.toBool]

theorem chain_ask {stood : List Query} {sent : List Call}
    (h : q.Chain stood (pages.map .ok) sent) (even : sent.length = pages.length)
    (onward : ∀ p ∈ pages, p.IsOnward) {r : Query} (first : pages = [] → r = q) :
    q.Chain (stood ++ [r]) (pages.map .ok) (sent ++ [((through q pages).ask r).pageCall]) := by
  rcases ask_through r onward first with ⟨rfl, hr⟩ | ⟨before, page, cursor, rfl, last, full, hr⟩
  · have none_sent : sent = [] := List.length_eq_zero_iff.mp even
    have none_stood : stood = [] := List.length_eq_zero_iff.mp (h.length.symm.trans even)
    rw [hr, none_sent, none_stood, first rfl]
    exact .one q []
  · rw [hr]
    have asked : sent.length = before.length + 1 := by simpa using even
    exact h.push asked (by simp) last full

/-- The queries as they stood when the calls of a walk were sent; the reading in front of them is
that of its beginning. -/
def stood (s : Scene) : List Query := s.readings.tail.take s.sent.length

/-- What holds of every scene of a walk: its calls are a chain, one after another. -/
structure Proper (q : Query) (s : Scene) : Prop where
  chain : q.Chain (stood s) s.pages s.sent
  inTurn : s.pages.length + s.underWay.length = s.sent.length
  alone : s.underWay.length ≤ 1

theorem heedless_proper : Scene.Heedless (Proper q) := by
  intro s s' hs h
  refine ⟨?_, ?_, ?_⟩
  · rw [stood, hs.pages, hs.sent, hs.readings]
    exact h.chain
  · rw [hs.pages, hs.sent, hs.underWay]
    exact h.inTurn
  · rw [hs.underWay]
    exact h.alone

/-- A scene in which every call of a walk is answered. -/
structure Settled (q : Query) (outcomes : List (Outcome Page)) (counted : Nat) (s : Scene) :
    Prop where
  chain : q.Chain s.readings.tail outcomes s.sent
  answered : s.pages = outcomes
  even : s.sent.length = outcomes.length
  idle : s.underWay = []
  begun : s.readings ≠ []
  counted : s.counted .queryPages = counted

variable {outcomes : List (Outcome Page)} {n : Nat} {s : Scene}

theorem Settled.congr (h : Settled q outcomes n s) {s' : Scene} (hs : s.SameCalls s') {n' : Nat}
    (counted : s'.counted .queryPages = n') : Settled q outcomes n' s' where
  chain := by
    rw [hs.readings, hs.sent]
    exact h.chain
  answered := hs.pages.trans h.answered
  even := by
    rw [hs.sent]
    exact h.even
  idle := hs.underWay.trans h.idle
  begun := by
    rw [hs.readings]
    exact h.begun
  counted := counted

theorem Settled.stood_eq (h : Settled q outcomes n s) : stood s = s.readings.tail := by
  rw [stood, h.chain.length, List.take_length]

theorem Settled.proper (h : Settled q outcomes n s) : Proper q s where
  chain := by
    rw [h.stood_eq, h.answered]
    exact h.chain
  inTurn := by rw [h.answered, h.idle, h.even, List.length_nil, Nat.add_zero]
  alone := by simp [h.idle]

/-- The next page is asked for and answered. -/
theorem Settled.exchange (h : Settled q (pages.map .ok) n s) (onward : ∀ p ∈ pages, p.IsOnward)
    {r : Query} (first : pages = [] → r = q) :
    let called := (s.note (.read r)).launch 0 ((through q pages).ask r).pageCall
    Proper q (s.note (.read r)) ∧ Proper q called ∧ ∀ moves a,
      Settled q (pages.map .ok ++ [Page.ofArrival a]) n ((called.stir moves).land 0 a) := by
  intro called
  have even : s.sent.length = pages.length := by rw [h.even, List.length_map]
  have tail : (s.readings ++ [r]).tail = s.readings.tail ++ [r] := List.tail_append_of_ne_nil h.begun
  have asked := chain_ask h.chain even onward first
  have read : Proper q (s.note (.read r)) := by
    refine ⟨?_, by simp [h.answered, h.idle, even], by simp [h.idle]⟩
    have before : stood (s.note (.read r)) = s.readings.tail := by
      simp [stood, tail, h.chain.length]
    rw [before, Scene.pages_note_read, h.answered]
    simpa using h.chain
  have sent : Proper q called := by
    refine ⟨?_, by simp [called, h.answered, h.idle, even], by simp [called, h.idle]⟩
    have readings : called.readings.tail = s.readings.tail ++ [r] := by simp [called, tail]
    have length : called.sent.length = (s.readings.tail ++ [r]).length := by
      simpa [called] using asked.length
    rw [stood, readings, length, List.take_length]
    simpa [called, h.answered] using asked
  refine ⟨read, sent, fun moves a => ?_⟩
  exact
    { chain := by simpa [called, tail] using asked.answer (Page.ofArrival a)
      answered := by simp [called, h.answered]
      even := by simp [called, even]
      idle := by simp [called, h.idle]
      begun := by simp [called]
      counted := by simpa [called] using h.counted }

/-- What a walk that may ask for `most` pages has come to when it has ended. -/
structure Ends (policy : PagePolicy) (most : Nat) (result : Option (Outcome WalkResult))
    (s : Scene) : Prop where
  /-- Every call is answered. -/
  even : s.pages.length = s.sent.length
  counted : s.counted .queryPages = s.pages.countP Except.isOk
  verdict : ∀ r, result = some r → Verdict policy s.pages r
  paging : ∀ r, result = some (.ok r) → r.toValue.member "paging" =
    (Paging.mk (Float.ofNat r.items.length) r.last).toValue
  /-- A walk that has no result has used up its pages. -/
  spent : result = none →
    s.sent.length = most ∧ ∀ answer ∈ s.pages, ∃ page, answer = .ok page ∧ page.IsOnward

theorem countP_isOk (pages : List Page) :
    (pages.map Except.ok : List (Outcome Page)).countP Except.isOk = pages.length := by
  rw [List.countP_map, List.countP_eq_length]
  intro page _
  rfl

theorem Settled.ends {policy : PagePolicy} {most : Nat} {result : Outcome WalkResult}
    (h : Settled q outcomes (outcomes.countP Except.isOk) s)
    (verdict : Verdict policy outcomes result) : Ends policy most (some result) s where
  even := by rw [h.answered, h.even]
  counted := by rw [h.counted, h.answered]
  verdict := by
    rintro r ⟨⟩
    rw [h.answered]
    exact verdict
  paging := fun _ _ => rfl
  spent := nofun

theorem Settled.stalls {policy : PagePolicy} (h : Settled q (pages.map .ok) pages.length s)
    (onward : ∀ p ∈ pages, p.IsOnward) : Ends policy pages.length none s where
  even := by rw [h.answered, h.even]
  counted := by rw [h.counted, h.answered, countP_isOk]
  verdict := nofun
  paging := nofun
  spent := by
    intro _
    rw [h.even, h.answered, List.length_map]
    refine ⟨rfl, fun answer ha => ?_⟩
    obtain ⟨page, hp, rfl⟩ := List.mem_map.mp ha
    exact ⟨page, rfl, onward page hp⟩

theorem fetch_bound (r : Query) : fetch true r = Job.exchangeAs Page.decode r.pageCall := rfl

theorem keeps_follow {ref : Nat} {policy : PagePolicy} (budget : Nat)
    (h : Settled q (pages.map .ok) pages.length s) (onward : ∀ p ∈ pages, p.IsOnward)
    (first : pages = [] → s.desk.queryAt ref = q) :
    (follow true ref policy budget (through q pages)).Keeps (Proper q)
      (Ends policy (pages.length + budget)) s := by
  -- before every page the walk is `through q pages`, and all calls so far are answered
  induction budget generalizing pages s with
  | zero => exact ⟨h.proper, h.stalls onward⟩
  | succ budget ih =>
    obtain ⟨read, sent, settled⟩ := h.exchange onward first
    have idle : (s.note (.read (s.desk.queryAt ref))).underWay = [] := h.idle
    refine ⟨h.proper, ?_⟩
    refine Job.Keeps.bind (Job.Keeps.attempt ?_)
    rw [fetch_bound]
    refine (Job.keeps_exchangeAs heedless_proper idle read sent
      fun moves a => (settled moves a).proper).mono ?_
    rintro _ s₁ h₁ ⟨a, rfl, moves, hs₁⟩
    have answered : Settled q (pages.map .ok ++ [Page.ofArrival a]) pages.length s₁ := by
      refine (settled moves a).congr hs₁.calls ?_
      rw [hs₁.counted _ (by decide) (by decide)]
      exact (settled moves a).counted
    have counts := absorb_counts (through q pages) policy (Page.ofArrival a)
    have cases := absorb_through q onward policy (Page.ofArrival a)
    have brought : Exchange.answerAs Page.decode
        ((through q pages).ask (s.desk.queryAt ref)).pageCall a.outcome = Page.ofArrival a := rfl
    simp only [brought, Option.map_some, Job.Before]
    -- from here on only what taking in the answer leads to matters
    generalize (through q pages).absorb policy (Page.ofArrival a) = taken at counts cases ⊢
    obtain ⟨status, reports⟩ := taken
    refine Job.Keeps.bind ((Job.keeps_sayAll heedless_proper h₁).mono ?_)
    rintro _ s₂ h₂ ⟨rfl, hs₂, counted⟩
    have counted₂ : s₂.counted .queryPages =
        (pages.map Except.ok ++ [Page.ofArrival a]).countP Except.isOk := by
      rw [counted, counts, answered.counted, List.countP_append, countP_isOk]
    have settled₂ := answered.congr hs₂ counted₂
    rcases cases with ⟨page, ha, more, rfl⟩ | ⟨result, rfl, verdict⟩
    · have onward₂ : ∀ p ∈ pages ++ [page], p.IsOnward :=
        List.forall_mem_append.mpr ⟨onward, by simpa using more⟩
      have taken_in : pages.map Except.ok ++ [Page.ofArrival a] = (pages ++ [page]).map .ok := by
        simp [ha]
      rw [taken_in, countP_isOk] at settled₂
      have rest := ih settled₂ onward₂ (by simp)
      rw [List.length_append, List.length_singleton, Nat.add_right_comm] at rest
      exact rest
    · exact ⟨h₂, settled₂.ends verdict⟩

variable {ref : Nat} {desk : Desk}

/-- Whatever happens to a walk without a limit, its calls are a chain. -/
theorem keeps_run (policy : PagePolicy) (budget : Nat)
    (unlimited : (desk.queryAt ref).pageLimit = none) :
    (run true ref policy budget).Keeps (Proper (desk.queryAt ref)) (Ends policy budget)
      ⟨[], desk, []⟩ := by
  have quiet : Proper (desk.queryAt ref) ⟨[], desk, []⟩ := ⟨.nil _, rfl, Nat.zero_le 1⟩
  have begins : start (desk.queryAt ref) = .ok (through (desk.queryAt ref) []) := by
    rw [start, unlimited]
    rfl
  have settled : Settled (desk.queryAt ref) ([].map .ok) 0
      ((⟨[], desk, []⟩ : Scene).note (.read (desk.queryAt ref))) :=
    ⟨.nil _, rfl, rfl, rfl, List.cons_ne_nil _ _, rfl⟩
  have kept : (follow true ref policy budget (through (desk.queryAt ref) [])).Keeps _ _ _ :=
    keeps_follow budget settled (by simp) fun _ => rfl
  rw [List.length_nil, Nat.zero_add] at kept
  refine ⟨quiet, ?_⟩
  simp only [begins]
  exact kept

theorem keeps_run_limited (policy : PagePolicy) (budget : Nat) {limit : Float}
    (limited : (desk.queryAt ref).pageLimit = some limit) :
    (run true ref policy budget).Keeps Scene.Silent
      (fun result _ => result = some (.error (Precondition.noLimitOnWalk limit).failure))
      ⟨[], desk, []⟩ := by
  have ends : start (desk.queryAt ref) =
      .error (Precondition.noLimitOnWalk limit).failure := by
    rw [start, limited]
  refine ⟨⟨rfl, rfl⟩, ?_⟩
  simp only [ends]
  exact ⟨⟨rfl, rfl⟩, rfl⟩

/--
A walk through a query that nobody changes is refused with a limit, before anything is sent.
Otherwise each page is asked for where the one before it ends, one at a time, and the walk ends
with the first answer that is a failure or a last page.
-/
theorem follows_cursors (ref : Nat) (policy : PagePolicy) (budget : Nat) (desk : Desk)
    (turns : List Turn) (c : Course WalkResult)
    (run : (Course.start desk (Walk.run true ref policy budget)).run turns = some c)
    (unchanged : ∀ r ∈ c.scene.readings, r = desk.queryAt ref) :
    (∀ limit, (desk.queryAt ref).pageLimit = some limit →
      c.Refused (Precondition.noLimitOnWalk limit).failure) ∧
    ((desk.queryAt ref).pageLimit = none →
      (desk.queryAt ref).Chain (List.replicate c.scene.sent.length (desk.queryAt ref))
        c.scene.pages c.scene.sent ∧
      c.scene.pages.length + c.scene.underWay.length = c.scene.sent.length ∧
      c.scene.underWay.length ≤ 1 ∧
      (∀ result, c.result? = some result → Ends policy budget (some result) c.scene) ∧
      (c.job = .stall → Ends policy budget none c.scene)) ∧
    c.Surely fun c => (∃ result, c.result? = some result) ∨ c.job = .stall := by
  cases limited : (desk.queryAt ref).pageLimit with
  | some limit =>
    have kept := Course.keeps_of_run (keeps_run_limited policy budget limited) run
    have refused := Course.refused_of_keeps kept
    refine ⟨?_, by simp, refused.ends.mono fun _ => .inl⟩
    rintro _ ⟨⟩
    exact refused
  | none =>
    have kept := Course.keeps_of_run (keeps_run policy budget limited) run
    have ends : c.Surely fun c => (∃ result, c.result? = some result) ∨ c.job = .stall := by
      refine (Course.surely_of_keeps kept).mono fun c hc => ?_
      rcases hc with ⟨result, ended, -⟩ | ⟨stalled, -⟩
      · exact .inl ⟨result, ended⟩
      · exact .inr stalled
    have same : ∀ r ∈ stood c.scene, r.shape = (desk.queryAt ref).shape := by
      intro r hr
      rw [unchanged r (List.mem_of_mem_tail (List.mem_of_mem_take hr))]
    refine ⟨by simp, fun _ => ⟨kept.inv.chain.replicate_iff.mpr same, kept.inv.inTurn,
      kept.inv.alone, fun result hr => Course.post_of_keeps kept hr, fun stalled => ?_⟩, ends⟩
    rw [stalled] at kept
    exact kept.2

/-- The turns of a walk whose second page cannot be had. -/
def secondPageFails : List Turn :=
  [.serve, .serve, .serve, .serve,
    .answer [] 0 ⟨.ok ⟨200.0, "", [],
      "\x7B\"items\":[],\"paging\":\x7B\"size\":0,\"last\":\"c1\"\x7D\x7D".toUTF8⟩, 0.0⟩,
    .serve, .serve, .serve, .serve, .serve, .serve, .serve,
    .answer [] 0 ⟨.error (.thrown "down"), 0.0⟩, .serve, .serve, .serve]

theorem follows_cursors_secondPageFails : ∃ c,
    (Course.start ⟨none, [⟨.empty, none⟩], [("q", 0)]⟩ (Walk.run true 0 .keep 3)).run
      secondPageFails = some c ∧
    (∀ r ∈ c.scene.readings, r = .empty) ∧ c.scene.pages.map Except.isOk = [true, false] ∧
    ∃ result, c.result? = some result ∧ Ends .keep 3 (some result) c.scene := by
  have ends : ((Course.start ⟨none, [⟨.empty, none⟩], [("q", 0)]⟩ (Walk.run true 0 .keep 3)).run
      secondPageFails).map (fun c =>
        (c.scene.pages.map Except.isOk, c.result?.isSome, c.scene.readings.all fun r =>
          r.groups.isEmpty && r.current.isEmpty && r.pageLimit.isNone && r.cursor.isNone &&
            !r.descending)) = some ([true, false], true, true) := by decide +kernel
  obtain ⟨c, run, shown⟩ := Option.map_eq_some_iff.mp ends
  simp only [Prod.mk.injEq] at shown
  obtain ⟨answered, ended, unchanged⟩ := shown
  have same : ∀ r ∈ c.scene.readings, r = .empty := by
    intro r hr
    have bare := List.all_eq_true.mp unchanged r hr
    obtain ⟨groups, current, pageLimit, cursor, descending⟩ := r
    simpa [Query.empty, and_assoc] using bare
  obtain ⟨result, hr⟩ := Option.isSome_iff_exists.mp ended
  obtain ⟨-, followed, -⟩ := follows_cursors 0 .keep 3 _ _ c run same
  exact ⟨c, run, same, answered, result, hr, (followed rfl).2.2.2.1 result hr⟩

/--
Every page of a walk is asked for as the query stands at that time, so its calls are those of the
query that it began with exactly if that query asks for the same whenever a page is asked for.
What the walk comes to depends on its answers alone.
-/
theorem isolated_iff_unchanged (ref : Nat) (policy : PagePolicy) (budget : Nat) (desk : Desk)
    (unlimited : (desk.queryAt ref).pageLimit = none) (turns : List Turn) (c : Course WalkResult)
    (run : (Course.start desk (Walk.run true ref policy budget)).run turns = some c) :
    (desk.queryAt ref).Chain (stood c.scene) c.scene.pages c.scene.sent ∧
    ((desk.queryAt ref).Chain (List.replicate c.scene.sent.length (desk.queryAt ref))
        c.scene.pages c.scene.sent ↔
      ∀ r ∈ stood c.scene, r.shape = (desk.queryAt ref).shape) ∧
    ∀ turns' c', (Course.start desk (Walk.run true ref policy budget)).run turns' = some c' →
      c'.scene.pages = c.scene.pages →
      ∀ result result', c.result? = some result → c'.result? = some result' → result' = result := by
  have kept := Course.keeps_of_run (keeps_run policy budget unlimited) run
  refine ⟨kept.inv.chain, kept.inv.chain.replicate_iff, ?_⟩
  intro turns' c' run' same result result' hr hr'
  have kept' := Course.keeps_of_run (keeps_run policy budget unlimited) run'
  have ends := Course.post_of_keeps kept hr
  have ends' := Course.post_of_keeps kept' hr'
  exact (same ▸ ends'.verdict result' rfl).unique (ends.verdict result rfl)

/-- A desk with one query, which has one filter. -/
def oneFilter : Desk := ⟨none, [⟨Query.empty.set .equals "x" (.nat 1), none⟩], [("q", 0)]⟩

/-- The turns of a walk of two pages, whose caller adds a filter before the first is there. -/
def lateFilter : List Turn :=
  [.serve, .serve, .serve, .serve,
    .answer [⟨"q", .edit (.set .equals "late" (.nat 1))⟩] 0 ⟨.ok ⟨200.0, "", [],
      "\x7B\"items\":[],\"paging\":\x7B\"size\":0,\"last\":\"c1\"\x7D\x7D".toUTF8⟩, 0.0⟩,
    .serve, .serve, .serve, .serve, .serve, .serve, .serve,
    .answer [] 0 ⟨.ok ⟨200.0, "", [],
      "\x7B\"items\":[],\"paging\":\x7B\"size\":0\x7D\x7D".toUTF8⟩, 0.0⟩,
    .serve, .serve, .serve, .serve]

theorem run_lateFilter :
    ((Course.start oneFilter (Walk.run true 0 .throw 3)).run lateFilter).map (fun c =>
      (c.result?.isSome, (stood c.scene).map fun r => r.allGroups.map List.length)) =
      some (true, [[1], [2]]) := by
  decide +kernel

theorem isolated_iff_unchanged_lateFilter : ∃ c,
    (oneFilter.queryAt 0).pageLimit = none ∧
    (Course.start oneFilter (Walk.run true 0 .throw 3)).run lateFilter = some c ∧
    (oneFilter.queryAt 0).Chain (stood c.scene) c.scene.pages c.scene.sent := by
  obtain ⟨c, run, -⟩ := Option.map_eq_some_iff.mp run_lateFilter
  exact ⟨c, rfl, run, (isolated_iff_unchanged 0 .throw 3 oneFilter rfl lateFilter c run).1⟩

/-- A walk whose query gets another filter meanwhile does not go through one query. -/
theorem lateFilter_not_isolated : ∃ c,
    (oneFilter.queryAt 0).pageLimit = none ∧
    (Course.start oneFilter (Walk.run true 0 .throw 3)).run lateFilter = some c ∧
    ¬ (oneFilter.queryAt 0).Chain (List.replicate c.scene.sent.length (oneFilter.queryAt 0))
      c.scene.pages c.scene.sent := by
  obtain ⟨c, run, shown⟩ := Option.map_eq_some_iff.mp run_lateFilter
  refine ⟨c, rfl, run, fun isolated => ?_⟩
  have kept := Course.keeps_of_run (keeps_run .throw 3 rfl) run
  have unchanged := kept.inv.chain.replicate_iff.mp isolated
  have sizes : (stood c.scene).map (fun r => r.allGroups.map List.length) = [[1], [2]] :=
    congrArg Prod.snd shown
  have two : [2] ∈ (stood c.scene).map fun r => r.allGroups.map List.length := by
    rw [sizes]
    decide
  obtain ⟨r, hr, long⟩ := List.mem_map.mp two
  have groups : r.allGroups = (oneFilter.queryAt 0).allGroups :=
    congrArg Prod.fst (unchanged r hr)
  have short : (oneFilter.queryAt 0).allGroups.map List.length = [1] := by decide +kernel
  rw [groups, short] at long
  cases long

end Walk
end Depot
