import Depot.Proofs.Query.Resume
import Depot.Query.Pages
/-!
# Pages one by one

Who asks for the pages of a query one by one gets those of the query as it stood when the first of
them was asked for, whatever happens to it afterwards. Each page costs one call, and nothing is sent
unless a page is asked for. A walk through a query that nobody touches asks for the same pages.
-/
namespace Depot

/-- Whether a call for a page has brought one that another page follows. -/
def Page.Leads (answer : Outcome Page) : Prop := ∃ page, answer = .ok page ∧ page.IsOnward

namespace Query.Chain
variable {q : Query} {answers answers' : List (Outcome Page)} {sent sent' : List Call}

/-- A call of a chain has been sent after an answer that another page follows. -/
theorem leads (h : Chain q (List.replicate sent.length q) answers sent) {i : Nat}
    (inside : i + 1 < sent.length) : ∃ answer, answers[i]? = some answer ∧ Page.Leads answer := by
  obtain ⟨page, cursor, answered, last, full, -⟩ := h.next i q (by simp [inside])
  exact ⟨.ok page, answered, page, rfl, cursor, last, full⟩

/-- Two chains through one query send the same calls, as far as they get the same answers. -/
theorem goes_with (h : Chain q (List.replicate sent.length q) answers sent)
    (h' : Chain q (List.replicate sent'.length q) answers' sent')
    (same : answers <+: answers' ∨ answers' <+: answers) : sent <+: sent' ∨ sent' <+: sent := by
  have agree {i : Nat} {a a' : Outcome Page} (ha : answers[i]? = some a)
      (ha' : answers'[i]? = some a') : a = a' := by
    rcases same with ⟨more, rfl⟩ | ⟨more, rfl⟩
    · rw [List.getElem?_append_left (List.getElem?_eq_some_iff.mp ha).1, ha] at ha'
      exact Option.some.inj ha'
    · rw [List.getElem?_append_left (List.getElem?_eq_some_iff.mp ha').1, ha'] at ha
      exact (Option.some.inj ha).symm
  have each (i : Nat) (inside : i < sent.length) (inside' : i < sent'.length) :
      sent[i]? = sent'[i]? := by
    cases i with
    | zero => rw [(h.first q (by simp [inside])).2, (h'.first q (by simp [inside'])).2]
    | succ i =>
      obtain ⟨page, cursor, answered, last, -, call⟩ := h.next i q (by simp [inside])
      obtain ⟨page', cursor', answered', last', -, call'⟩ := h'.next i q (by simp [inside'])
      cases agree answered answered'
      rw [last] at last'
      cases last'
      rw [call, call']
  rcases Nat.le_total sent.length sent'.length with short | short
  · refine .inl (List.prefix_iff_getElem?.mpr fun i inside => ?_)
    rw [← each i inside (Nat.lt_of_lt_of_le inside short), List.getElem?_eq_getElem inside]
  · refine .inr (List.prefix_iff_getElem?.mpr fun i inside => ?_)
    rw [each i (Nat.lt_of_lt_of_le inside short) inside, List.getElem?_eq_getElem inside]

end Query.Chain

namespace Pages
open Walk (through)

/-- Someone who asks for the pages of a query one by one. The query is looked at when the first page
is asked for. -/
structure Reader where
  ref : Nat
  /-- The pages that are still to come, once the query has been looked at. -/
  pages? : Option Pages
  scene : Scene
  /-- What asking for a page has come to, each time. -/
  taken : List (Outcome (Option Page))

/-- What a reader does. -/
inductive Act where
  | stir (moves : List Desk.Move)
  /-- Asks for a page, and waits for what comes of it. -/
  | pull (turns : List Turn)

namespace Act

def isPull : Act → Bool
  | .pull _ => true
  | .stir _ => false

def turns : Act → List Turn
  | .pull turns => turns
  | .stir _ => []

end Act

/-- The pages that are still to come when one was asked for. After a failure there are none. -/
def rest : Outcome (Option (Page × Pages)) → Pages
  | .ok (some (_, p)) => p
  | _ => ⟨none⟩

/-- The query as it stands when the first page is asked for. -/
def snapshot (ref : Nat) : List Act → Desk → Query
  | .stir moves :: acts, desk => snapshot ref acts (desk.playAll moves).2
  | _, desk => desk.queryAt ref

namespace Reader

def start (desk : Desk) (ref : Nat) : Reader := ⟨ref, none, ⟨[], desk, []⟩, []⟩

/-- The job that fetches the next page. -/
def pull (r : Reader) : Job (Option (Page × Pages)) :=
  match r.pages? with
  | none => .query r.ref fun q => (Pages.start q).pull true
  | some p => p.pull true

def act : Act → Reader → Option Reader
  | .stir moves, r => some { r with scene := r.scene.stir moves }
  | .pull turns, r => do
    let c ← (Course.mk r.pull r.scene).run turns
    let result ← c.result?
    return { r with
      pages? := some (rest result)
      scene := c.scene
      taken := r.taken ++ [result.map (·.map Prod.fst)] }

def run : List Act → Reader → Option Reader
  | [], r => some r
  | a :: acts, r => (r.act a).bind (run acts)

/-- The last call was answered by a failure, or by a page that no other page follows. -/
def IsOver (r : Reader) : Prop :=
  ∃ answer, r.scene.pages.getLast? = some answer ∧ ¬ Page.Leads answer

/-- The calls for the pages of `q`, one for each page that was asked for, and what asking came to:
what the call was answered. When it is over, asking comes to no page, without a call. -/
structure Follows (q : Query) (r : Reader) : Prop where
  chain : q.Chain (List.replicate r.scene.sent.length q) r.scene.pages r.scene.sent
  answered : r.scene.pages.length = r.scene.sent.length
  leads : ∀ answer ∈ r.scene.pages.dropLast, Page.Leads answer
  taken : ∃ later, r.taken = r.scene.pages.map (·.map some) ++ List.replicate later (.ok none) ∧
    (later ≠ 0 → r.IsOver)

/-- The course of asking for one more page of `q`. -/
structure PullsOn (q : Query) (r : Reader) (c : Course (Option (Page × Pages))) : Prop where
  chain : q.Chain (List.replicate c.scene.sent.length q) c.scene.pages c.scene.sent
  sent : ∃ more, c.scene.sent = r.scene.sent ++ more ∧ more.length ≤ 1 ∧ (r.IsOver → more = [])
  drained : r.IsOver → ∀ result, c.result? = some result → result = .ok none
  page : ¬ r.IsOver → ∀ result, c.result? = some result → ∃ answer,
    c.scene.pages = r.scene.pages ++ [answer] ∧ c.scene.sent.length = r.scene.sent.length + 1 ∧
      result.map (·.map Prod.fst) = answer.map some
  ends : c.Surely fun c => ∃ result, c.result? = some result

/-- A walk that may ask for `most` pages goes along with a reader: they send the same calls, fail
with the same failure, and otherwise get the same items. -/
structure GoesWith (most : Nat) (r : Reader) (c : Course WalkResult) : Prop where
  sent : r.scene.sent <+: c.scene.sent ∨ c.scene.sent <+: r.scene.sent
  ended : r.IsOver → ∀ result, c.result? = some result → c.scene.sent = r.scene.sent ∧
    (∀ f, result = .error f ↔ .error f ∈ r.taken) ∧
    ∀ w, result = .ok w → w.items = (r.taken.filterMap (·.toOption.join)).flatMap Page.items
  /-- Only a walk that may not ask for as many pages stalls. -/
  stalled : r.IsOver → c.job = .stall → most < r.scene.sent.length
  ends : c.Surely fun c => (∃ result, c.result? = some result) ∨ c.job = .stall

end Reader

variable {q : Query} {pages : List Page} {s : Scene}

/-- Asking on from the query of a page is asking from the query of the first one. -/
theorem last_ask (q : Query) (pages : List Page) (cursor : String) :
    ((through q pages).ask q).last cursor = q.last cursor := by
  unfold Walk.ask
  split <;> rfl

theorem ask_nil (q : Query) : (through q []).ask q = q := by
  have none_onward : ∀ p ∈ ([] : List Page), p.IsOnward := nofun
  rcases Walk.ask_through q none_onward fun _ => rfl with ⟨-, same⟩ | ⟨_, _, _, h, -⟩
  · exact same
  · simp at h

theorem after_of_isOnward (q : Query) (pages : List Page) {page : Page} (onward : page.IsOnward) :
    after ((through q pages).ask q) page = ⟨some ((through q (pages ++ [page])).ask q)⟩ := by
  obtain ⟨cursor, last, full⟩ := onward
  rw [after, Paging.next?_eq_some_iff.mpr ⟨last, full⟩, Option.map_some, last_ask]
  simp [Walk.ask, through, last]

theorem after_of_not_isOnward (q : Query) {page : Page} (ends : ¬ page.IsOnward) :
    after q page = ⟨none⟩ := by
  rw [after, Page.next?_eq_none ends]
  rfl

/-- A scene in which all calls for pages of `q` are answered, like this. -/
structure Leafed (q : Query) (answers : List (Outcome Page)) (s : Scene) : Prop where
  chain : q.Chain (List.replicate answers.length q) answers s.sent
  answered : s.pages = answers
  idle : s.underWay = []

namespace Leafed
variable {answers : List (Outcome Page)}

theorem length (h : Leafed q answers s) : s.sent.length = answers.length := by
  rw [h.chain.length, List.length_replicate]

theorem congr (h : Leafed q answers s) {s' : Scene} (hs : s.SameCalls s') :
    Leafed q answers s' where
  chain := hs.sent ▸ h.chain
  answered := hs.pages.trans h.answered
  idle := hs.underWay.trans h.idle

theorem stir (h : Leafed q answers s) (moves : List Desk.Move) : Leafed q answers (s.stir moves) :=
  ⟨h.chain, h.answered, h.idle⟩

theorem proper (h : Leafed q answers s) :
    q.Chain (List.replicate s.sent.length q) s.pages s.sent := by
  rw [h.length, h.answered]
  exact h.chain

/-- The next page is asked for and answered. -/
theorem exchange (h : Leafed q (pages.map .ok) s) (onward : ∀ p ∈ pages, p.IsOnward) :
    let called := s.launch 0 ((through q pages).ask q).pageCall
    q.Chain (List.replicate called.sent.length q) called.pages called.sent ∧
      ∀ moves a, Leafed q (pages.map .ok ++ [Page.ofArrival a]) ((called.stir moves).land 0 a) := by
  intro called
  have even : s.sent.length = pages.length := by rw [h.length, List.length_map]
  have asked := Walk.chain_ask h.chain even onward (r := q) fun _ => rfl
  rw [← List.replicate_succ', List.length_map] at asked
  refine ⟨by simpa [called, h.answered, even] using asked, fun moves a => ⟨?_, ?_, ?_⟩⟩
  · simpa [called] using asked.answer (Page.ofArrival a)
  · simp [called, h.answered]
  · simp [called, h.idle]

end Leafed

/-- While a page is asked for, the calls are those for pages of `q`, of which one at most is new. -/
def Asking (q : Query) (r : Reader) (s : Scene) : Prop :=
  q.Chain (List.replicate s.sent.length q) s.pages s.sent ∧
    ∃ more, s.sent = r.scene.sent ++ more ∧ more.length ≤ 1 ∧ (r.IsOver → more = [])

theorem heedless_asking (r : Reader) : Scene.Heedless (Asking q r) := by
  intro s s' hs h
  rw [Asking, hs.pages, hs.sent]
  exact h

theorem keeps_pull {r : Reader} (goes_on : ¬ r.IsOver) (h : Leafed q (pages.map .ok) s)
    (onward : ∀ p ∈ pages, p.IsOnward) (same : s.sent = r.scene.sent) :
    (pull true ⟨some ((through q pages).ask q)⟩).Keeps (Asking q r) (fun result s' => ∃ answer,
      result = some (answer.map fun page => some (page, after ((through q pages).ask q) page)) ∧
        Leafed q (pages.map .ok ++ [answer]) s') s := by
  obtain ⟨chain, answered⟩ := h.exchange onward
  let call := ((through q pages).ask q).pageCall
  have now : Asking q r s := ⟨h.proper, [], by simp [same], Nat.zero_le 1, fun _ => rfl⟩
  have called : Asking q r (s.launch 0 call) :=
    ⟨chain, [call], by simp [same], Nat.le_refl 1, fun drained => absurd drained goes_on⟩
  have landed (moves : List Desk.Move) (a : Arrival) :
      Asking q r (((s.launch 0 call).stir moves).land 0 a) :=
    ⟨(answered moves a).proper, [call], by simp [same], Nat.le_refl 1,
      fun drained => absurd drained goes_on⟩
  refine Job.Keeps.bind
    ((Job.keeps_exchangeAs (heedless_asking r) h.idle now called landed).mono ?_)
  rintro _ s' asking ⟨a, rfl, moves, hs'⟩
  have taken := (answered moves a).congr hs'.calls
  have brought : Exchange.answerAs Page.decode call a.outcome = Page.ofArrival a := rfl
  rw [brought]
  cases answer : Page.ofArrival a with
  | error f => exact ⟨.error f, rfl, answer ▸ taken⟩
  | ok page => exact ⟨asking, .ok page, rfl, answer ▸ taken⟩

/-- What asking has come to, if nothing but pages was brought. -/
def handed (pages : List Page) : List (Outcome (Option Page)) :=
  pages.map fun page => .ok (some page)

/-- How far a reader has come: nothing was asked for yet, or there are more pages to come, or it is
over. -/
inductive Stage (q : Query) (r : Reader) : Prop where
  | fresh (next : r.pages? = none) (stands : r.scene.desk.queryAt r.ref = q)
      (quiet : r.scene.past = []) (idle : r.scene.underWay = []) (taken : r.taken = [])
  | going (pages : List Page) (onward : ∀ p ∈ pages, p.IsOnward)
      (next : r.pages? = some ⟨some ((through q pages).ask q)⟩)
      (leafed : Leafed q (pages.map .ok) r.scene) (taken : r.taken = handed pages)
  | drained (pages : List Page) (onward : ∀ p ∈ pages, p.IsOnward) (answer : Outcome Page)
      (ends : ¬ Page.Leads answer) (next : r.pages? = some ⟨none⟩)
      (leafed : Leafed q (pages.map .ok ++ [answer]) r.scene) (later : Nat)
      (taken : r.taken = handed pages ++ [answer.map some] ++ List.replicate later (.ok none))

namespace Stage
variable {r r' : Reader}

/-- What the next page comes to: an answer, with which the reader goes on or is over, or nothing. -/
def PullsTo (q : Query) (r : Reader) (result : Option (Outcome (Option (Page × Pages))))
    (s : Scene) : Prop :=
  (r.IsOver ∧ result = some (.ok none) ∧ s = r.scene) ∨
    ¬ r.IsOver ∧ ∃ pages answer, (∀ p ∈ pages, p.IsOnward) ∧ r.scene.pages = pages.map .ok ∧
      r.taken = handed pages ∧
      result = some (answer.map fun page => some (page, after ((through q pages).ask q) page)) ∧
      Leafed q (pages.map .ok ++ [answer]) s

theorem not_isOver (answered : r.scene.pages = pages.map .ok) (onward : ∀ p ∈ pages, p.IsOnward) :
    ¬ r.IsOver := by
  rintro ⟨answer, last, ends⟩
  rw [answered] at last
  obtain ⟨page, hp, rfl⟩ := List.mem_map.mp (List.mem_of_getLast? last)
  exact ends ⟨page, rfl, onward page hp⟩

theorem isOver {answer : Outcome Page} (leafed : Leafed q (pages.map .ok ++ [answer]) r.scene)
    (ends : ¬ Page.Leads answer) : r.IsOver :=
  ⟨answer, by rw [leafed.answered, List.getLast?_concat], ends⟩

theorem of_isOver (h : Stage q r) (drained : r.IsOver) : ∃ pages answer later,
    (∀ p ∈ pages, p.IsOnward) ∧ ¬ Page.Leads answer ∧ r.pages? = some ⟨none⟩ ∧
      Leafed q (pages.map .ok ++ [answer]) r.scene ∧
      r.taken = handed pages ++ [answer.map some] ++ List.replicate later (.ok none) := by
  cases h with
  | fresh next stands quiet =>
    have unread : r.scene.pages = [].map .ok := by simp [Scene.pages, Scene.arrived, quiet]
    exact absurd drained (not_isOver unread (by simp))
  | going pages onward next leafed => exact absurd drained (not_isOver leafed.answered onward)
  | drained pages onward answer ends next leafed later taken =>
    exact ⟨pages, answer, later, onward, ends, next, leafed, taken⟩

theorem keeps (h : Stage q r) : r.pull.Keeps (Asking q r) (PullsTo q r) r.scene := by
  have asking {s : Scene} (pages : List Page) (answered : r.scene.pages = pages.map .ok)
      (onward : ∀ p ∈ pages, p.IsOnward) (leafed : Leafed q (pages.map .ok) s)
      (same : s.sent = r.scene.sent) (taken : r.taken = handed pages) :
      (Pages.pull true ⟨some ((through q pages).ask q)⟩).Keeps (Asking q r) (PullsTo q r) s := by
    have goes_on := not_isOver answered onward
    refine (keeps_pull goes_on leafed onward same).mono ?_
    rintro _ s' - ⟨answer, rfl, leafed⟩
    exact .inr ⟨goes_on, pages, answer, onward, answered, taken, rfl, leafed⟩
  cases h with
  | fresh next stands quiet idle taken =>
    have answered : r.scene.pages = [] := by simp [Scene.pages, Scene.arrived, quiet]
    have sent : r.scene.sent = [] := by simp [Scene.sent, quiet]
    have none_yet : Asking q r r.scene := by
      refine ⟨?_, [], by simp, Nat.zero_le 1, fun _ => rfl⟩
      rw [answered, sent]
      exact .nil q
    have read : Leafed q ([].map .ok) (r.scene.note (.read q)) := by
      refine ⟨?_, by rw [Scene.pages_note_read, answered]; rfl, idle⟩
      rw [Scene.sent_note, sent]
      exact .nil q
    have first := asking [] answered (by simp) read (by simp) taken
    rw [ask_nil] at first
    rw [Reader.pull, next]
    refine ⟨none_yet, ?_⟩
    rw [stands]
    exact first
  | going pages onward next leafed taken =>
    rw [Reader.pull, next]
    exact asking pages leafed.answered onward leafed rfl taken
  | drained pages onward answer ends next leafed =>
    rw [Reader.pull, next]
    exact ⟨⟨leafed.proper, [], by simp, Nat.zero_le 1, fun _ => rfl⟩,
      .inl ⟨isOver leafed ends, rfl, rfl⟩⟩

theorem stir (h : Stage q r) (begun : r.pages? ≠ none) (moves : List Desk.Move) :
    Stage q { r with scene := r.scene.stir moves } := by
  cases h with
  | fresh next => exact absurd next begun
  | going pages onward next leafed taken =>
    exact .going pages onward next (leafed.stir moves) taken
  | drained pages onward answer ends next leafed later taken =>
    exact .drained pages onward answer ends next (leafed.stir moves) later taken

/-- Where an answer leads. -/
theorem of_answer (ref : Nat) {s : Scene} {answer : Outcome Page}
    (onward : ∀ p ∈ pages, p.IsOnward) (leafed : Leafed q (pages.map .ok ++ [answer]) s) :
    Stage q ⟨ref, some (rest (answer.map fun page =>
      some (page, after ((through q pages).ask q) page))), s,
        handed pages ++ [answer.map some]⟩ := by
  by_cases leads : Page.Leads answer
  · obtain ⟨page, rfl, follows⟩ := leads
    refine .going (pages ++ [page]) ?_ ?_ (by simpa using leafed) (by simp [handed, Except.map])
    · exact List.forall_mem_append.mpr ⟨onward, by simpa using follows⟩
    · exact congrArg some (after_of_isOnward q pages follows)
  · refine .drained pages onward answer leads ?_ leafed 0 (by simp)
    cases answer with
    | error f => rfl
    | ok page =>
      exact congrArg some (after_of_not_isOnward _ fun follows => leads ⟨page, rfl, follows⟩)

theorem pull (h : Stage q r) {turns : List Turn} (pulled : r.act (.pull turns) = some r') :
    Stage q r' ∧ r'.pages? ≠ none := by
  obtain ⟨c, run, pulled⟩ := Option.bind_eq_some_iff.mp pulled
  obtain ⟨result, ended, same⟩ := Option.bind_eq_some_iff.mp pulled
  cases same
  refine ⟨?_, Option.some_ne_none _⟩
  have kept : c.job.Keeps _ _ c.scene := Course.keeps_of_run (c := ⟨r.pull, r.scene⟩) h.keeps run
  rcases Course.post_of_keeps kept ended with
    ⟨drained, came, same⟩ | ⟨-, pages, answer, onward, -, taken, came, leafed⟩
  · cases came
    rw [same]
    obtain ⟨pages, answer, later, onward, ends, -, leafed, taken⟩ := h.of_isOver drained
    refine .drained pages onward answer ends rfl leafed (later + 1) ?_
    rw [List.replicate_succ', ← List.append_assoc, ← taken]
    rfl
  · cases came
    have stage := of_answer r.ref onward leafed
    rw [← taken] at stage
    cases answer <;> exact stage

theorem run_of_begun {acts : List Act} (h : Stage q r) (begun : r.pages? ≠ none)
    (run : r.run acts = some r') : Stage q r' := by
  induction acts generalizing r with
  | nil =>
    cases run
    exact h
  | cons a acts ih =>
    obtain ⟨r₁, first, remaining⟩ := Option.bind_eq_some_iff.mp run
    cases a with
    | stir moves =>
      cases first
      exact ih (h.stir begun moves) begun remaining
    | pull turns =>
      obtain ⟨stage, begun⟩ := h.pull first
      exact ih stage begun remaining

/-- Until the first page is asked for, nothing but the queries changes. -/
theorem of_run {ref : Nat} {acts : List Act} {desk : Desk}
    (run : (Reader.start desk ref).run acts = some r) : Stage (snapshot ref acts desk) r := by
  induction acts generalizing desk with
  | nil =>
    cases run
    exact .fresh rfl rfl rfl rfl rfl
  | cons a acts ih =>
    obtain ⟨r₁, first, remaining⟩ := Option.bind_eq_some_iff.mp run
    cases a with
    | stir moves =>
      cases first
      exact ih remaining
    | pull turns =>
      obtain ⟨stage, begun⟩ := Stage.pull (.fresh rfl rfl rfl rfl rfl) first
      exact stage.run_of_begun begun remaining

theorem follows (h : Stage q r) : r.Follows q := by
  cases h with
  | fresh next stands quiet idle taken =>
    have answered : r.scene.pages = [] := by simp [Scene.pages, Scene.arrived, quiet]
    have sent : r.scene.sent = [] := by simp [Scene.sent, quiet]
    refine ⟨?_, by rw [answered, sent]; rfl, by simp [answered], 0, by simp [answered, taken],
      fun never => absurd rfl never⟩
    rw [answered, sent]
    exact .nil q
  | going pages onward next leafed taken =>
    refine ⟨leafed.proper, by rw [leafed.answered, leafed.length], fun answer ha => ?_, 0, ?_,
      by simp⟩
    · rw [leafed.answered] at ha
      obtain ⟨page, hp, rfl⟩ := List.mem_map.mp (List.dropLast_subset _ ha)
      exact ⟨page, rfl, onward page hp⟩
    · simp [leafed.answered, taken, handed, Except.map]
  | drained pages onward answer ends next leafed later taken =>
    refine ⟨leafed.proper, by rw [leafed.answered, leafed.length], fun earlier ha => ?_, later, ?_,
      fun _ => isOver leafed ends⟩
    · rw [leafed.answered, List.dropLast_concat] at ha
      obtain ⟨page, hp, rfl⟩ := List.mem_map.mp ha
      exact ⟨page, rfl, onward page hp⟩
    · simp [leafed.answered, taken, handed, Except.map]

theorem pullsOn (h : Stage q r) {turns : List Turn} {c : Course (Option (Page × Pages))}
    (run : (Course.mk r.pull r.scene).run turns = some c) : r.PullsOn q c := by
  have kept : c.job.Keeps _ _ c.scene := Course.keeps_of_run (c := ⟨r.pull, r.scene⟩) h.keeps run
  obtain ⟨chain, sent⟩ := kept.inv
  refine ⟨chain, sent, fun drained result ended => ?_, fun goes_on result ended => ?_, ?_⟩
  · rcases Course.post_of_keeps kept ended with ⟨-, came, -⟩ | ⟨goes_on, -⟩
    · exact Option.some.inj came
    · exact absurd drained goes_on
  · rcases Course.post_of_keeps kept ended with
      ⟨drained, -⟩ | ⟨-, pages, answer, -, before, -, came, leafed⟩
    · exact absurd drained goes_on
    · cases came
      refine ⟨answer, by rw [leafed.answered, before], ?_, by cases answer <;> rfl⟩
      rw [leafed.length, h.follows.answered.symm, before, List.length_append, List.length_singleton]
  · refine Course.surely_ends_of_keeps kept ?_
    rintro s (⟨-, came, -⟩ | ⟨-, _, _, -, -, -, came, -⟩) <;> cases came

/-- The answers of a walk that has ended are those of a reader for which it is over, if the one has
them as far as the other. -/
theorem answers_eq {answers : List (Outcome Page)} {answer : Outcome Page}
    (same : answers <+: pages.map .ok ++ [answer] ∨ pages.map .ok ++ [answer] <+: answers)
    (onward : ∀ p ∈ pages, p.IsOnward) (ends : ¬ Page.Leads answer) {pages' : List Page}
    {answer' : Outcome Page} (parts : answers = pages'.map .ok ++ [answer'])
    (onward' : ∀ p ∈ pages', p.IsOnward) (ends' : ¬ Page.Leads answer') :
    pages' = pages ∧ answer' = answer := by
  have inj : Function.Injective (List.map (Except.ok : Page → Outcome Page)) :=
    List.map_injective_iff.mpr fun _ _ h => Except.ok.inj h
  -- a last answer cannot stand among those that lead on
  have whole {front back : List Page} {x y : Outcome Page} (leading : ∀ p ∈ back, p.IsOnward)
      (last : ¬ Page.Leads x) (begins : front.map .ok ++ [x] <+: back.map .ok ++ [y]) :
      front.map .ok ++ [x] = back.map .ok ++ [y] := by
    rcases List.prefix_concat_iff.mp begins with all | earlier
    · exact all
    · obtain ⟨page, hp, rfl⟩ := List.mem_map.mp
        (earlier.subset (List.mem_append_right _ (List.mem_singleton_self x)))
      exact absurd ⟨page, rfl, leading page hp⟩ last
  have equal : pages'.map .ok ++ [answer'] = pages.map .ok ++ [answer] := by
    rw [parts] at same
    rcases same with begins | begins
    · exact whole onward ends' begins
    · exact (whole onward' ends begins).symm
  obtain ⟨front, last⟩ := List.append_singleton_inj.mp equal
  exact ⟨inj front, last⟩

theorem goesWith (h : Stage q r) {ref most : Nat} {desk : Desk} {turns : List Turn}
    {c : Course WalkResult} (stands : desk.queryAt ref = q) (unlimited : q.pageLimit = none)
    (run : (Course.start desk (Walk.run true ref .throw most)).run turns = some c)
    (untouched : ∀ x ∈ c.scene.readings, x = q)
    (same : c.scene.pages <+: r.scene.pages ∨ r.scene.pages <+: c.scene.pages) :
    r.GoesWith most c := by
  subst stands
  have kept := Course.keeps_of_run (Walk.keeps_run .throw most unlimited) run
  have chain := kept.inv.chain_of_readings untouched
  have alike := h.follows.chain.goes_with chain same.symm
  refine ⟨alike, fun drained result ended => ?_, fun drained stalled => ?_, ?_⟩
  · have ends := Course.post_of_keeps kept ended
    obtain ⟨pages, answer, later, onward, last, -, leafed, taken⟩ := h.of_isOver drained
    rw [leafed.answered] at same
    have equal (h : c.scene.pages = pages.map .ok ++ [answer]) : c.scene.sent = r.scene.sent := by
      have length : c.scene.sent.length = r.scene.sent.length := by
        rw [← ends.even, h, leafed.length]
      rcases alike with front | front
      · exact (front.eq_of_length length.symm).symm
      · exact front.eq_of_length length
    have verdict := ends.verdict result rfl
    generalize parts : c.scene.pages = answers at verdict same equal
    cases verdict with
    | last pages' page onward' last' =>
      have last' : ¬ Page.Leads (.ok page) := by
        rintro ⟨_, ⟨⟩, more⟩
        exact last' more
      obtain ⟨rfl, rfl⟩ := answers_eq same onward last rfl onward' last'
      refine ⟨equal rfl, fun f => ?_, ?_⟩
      · simp [taken, handed, Except.map]
      · rintro _ ⟨⟩
        simp [taken, handed, Except.map, Except.toOption]
    | thrown pages' f onward' =>
      have last' : ¬ Page.Leads (.error f) := by
        rintro ⟨_, ⟨⟩, -⟩
      obtain ⟨rfl, rfl⟩ := answers_eq same onward last rfl onward' last'
      refine ⟨equal rfl, fun f' => ?_, nofun⟩
      simp [taken, handed, Except.map, eq_comm]
    | kept _ _ _ _ soft => cases soft
  · rw [stalled] at kept
    have ends : Walk.Ends .throw most none c.scene := kept.2
    obtain ⟨spent, leading⟩ := ends.spent rfl
    obtain ⟨pages, answer, later, onward, last, -, leafed, taken⟩ := h.of_isOver drained
    have lacking : answer ∉ c.scene.pages := fun ha => last (leading answer ha)
    rw [leafed.answered] at same
    rcases same with front | front
    · rcases List.prefix_concat_iff.mp front with all | earlier
      · exact absurd (by simp [all]) lacking
      · rw [← spent, ← ends.even, leafed.length, List.length_append, List.length_singleton]
        exact Nat.lt_succ_of_le earlier.length_le
    · exact absurd (front.subset (by simp)) lacking
  · refine (Course.surely_of_keeps kept).mono ?_
    rintro c (⟨result, ended, -⟩ | ⟨stalled, -⟩)
    · exact .inl ⟨result, ended⟩
    · exact .inr stalled

end Stage

/-- What a run has taken, and what has arrived in it. -/
theorem taken_arrived_of_run {r r' : Reader} {acts : List Act} (run : r.run acts = some r') :
    r'.taken.length = r.taken.length + acts.countP Act.isPull ∧
    r'.scene.arrived = r.scene.arrived ++ (acts.flatMap Act.turns).filterMap Turn.answer? := by
  induction acts generalizing r with
  | nil =>
    cases run
    simp
  | cons a acts ih =>
    obtain ⟨r₁, first, remaining⟩ := Option.bind_eq_some_iff.mp run
    obtain ⟨taken, arrived⟩ := ih remaining
    cases a with
    | stir moves =>
      cases first
      exact ⟨taken, arrived⟩
    | pull turns =>
      obtain ⟨c, pulling, pulled⟩ := Option.bind_eq_some_iff.mp first
      obtain ⟨result, -, same⟩ := Option.bind_eq_some_iff.mp pulled
      cases same
      refine ⟨?_, ?_⟩
      · rw [taken, List.countP_cons_of_pos rfl, List.length_append, List.length_singleton]
        omega
      · rw [arrived, Course.arrived_of_run pulling, List.append_assoc, ← List.filterMap_append]
        rfl

/--
Who asks for the pages of a query gets those of the query as it stood at the first time, whatever
happens to it afterwards: each asking costs one call, from where the page before ends, until an
answer is a failure or a last page. A walk through a query that nobody touches and that has no limit
sends the same calls, as far as they are answered alike, and comes to the same items or the same
failure.
-/
theorem reads_snapshot (ref : Nat) (desk : Desk) (acts : List Act) (r : Reader)
    (run : (Reader.start desk ref).run acts = some r) :
    let q := snapshot ref acts desk
    r.Follows q ∧ r.taken.length = acts.countP Act.isPull ∧
    (∀ turns c, (Course.mk r.pull r.scene).run turns = some c → r.PullsOn q c) ∧
    ∀ ref' desk' most turns c, desk'.queryAt ref' = q → q.pageLimit = none →
      (Course.start desk' (Walk.run true ref' .throw most)).run turns = some c →
      (∀ x ∈ c.scene.readings, x = q) →
      (c.scene.pages <+: r.scene.pages ∨ r.scene.pages <+: c.scene.pages) → r.GoesWith most c := by
  intro q
  have stage : Stage q r := .of_run run
  refine ⟨stage.follows, ?_, fun turns c => stage.pullsOn, ?_⟩
  · rw [(taken_arrived_of_run run).1]
    exact Nat.zero_add _
  · intro ref' desk' most turns c stands unlimited run' untouched same
    exact stage.goesWith stands unlimited run' untouched same

open Walk (bareDesk emptyPage turnsTo)

/-- The turns of asking for a page. -/
def pageTurns (asking : List Turn) (moves : List Desk.Move) (first : Bool) : List Turn :=
  asking ++ [.serve, .serve, .answer moves 0 ⟨emptyPage first, 0.0⟩, .serve, .serve]

/-- Two pages, a limit being set meanwhile, and an asking after the last page. -/
def threePulls : List Act :=
  [.pull (pageTurns [.serve] [⟨"q", .edit (.limit 5.0)⟩] true),
    .stir [⟨"q", .edit (.limit 7.0)⟩], .pull (pageTurns [] [] false), .pull []]

theorem reads_snapshot_twoPages : ∃ r whole,
    (Reader.start bareDesk 0).run threePulls = some r ∧ r.Follows .empty ∧ r.IsOver ∧
    r.scene.sent.length = 2 ∧
    (Course.start bareDesk (Walk.run true 0 .throw 3)).run (turnsTo (emptyPage false) 4) =
      some whole ∧
    whole.scene.pages = r.scene.pages ∧ whole.scene.sent = r.scene.sent := by
  have shown : ((Reader.start bareDesk 0).run threePulls).map (fun r => r.scene.sent.length) =
      some 2 := by decide +kernel
  have shown' : ((Course.start bareDesk (Walk.run true 0 .throw 3)).run
      (turnsTo (emptyPage false) 4)).map Walk.glance =
      some (some (true, none, 2), [true, false], true) := by decide +kernel
  obtain ⟨r, run, two⟩ := Option.map_eq_some_iff.mp shown
  obtain ⟨whole, full, run', untouched, -, brought', finished, -⟩ := Walk.exists_of_glance shown'
  have brought : r.scene.pages = whole.scene.pages := by
    rw [Scene.pages_eq, Scene.pages_eq, brought', Scene.outcomes, (taken_arrived_of_run run).2]
    rfl
  obtain ⟨follows, three, -, agrees⟩ := reads_snapshot 0 bareDesk threePulls r run
  have drained : r.IsOver := by
    obtain ⟨later, taken, drained⟩ := follows.taken
    refine drained fun none_later => ?_
    have length := congrArg List.length taken
    rw [three, none_later, List.length_append, List.length_map, follows.answered, two] at length
    exact absurd length (by decide)
  have goes := agrees 0 bareDesk 3 _ whole rfl rfl run' untouched.2 (.inl ⟨[], by simp [brought]⟩)
  exact ⟨r, whole, run, follows, drained, two, run', brought.symm,
    (goes.ended drained _ finished).1⟩

end Pages
end Depot
