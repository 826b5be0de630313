import Depot.Proofs.World.Clock
import Depot.Proofs.World.Courses
/-!
# Reports that are taken

Most loggers take every entry. One that writes lines needs a date for each of them; as the clock never
goes back, it takes all that is reported in between if the clock shows a date in the beginning and in
the end.
-/
namespace Depot

theorem ConsoleLine.exists_line (minLevel : Float) (now : Instant) (e : LogEntry) :
    ∃ line, ofEntry? minLevel (some now) e = .ok line := by
  unfold ofEntry?
  split <;> exact ⟨_, rfl⟩

namespace Observer
variable {o : Observer} {now : Option Instant}

/-- Only at a time that is no date there are entries that are not taken. -/
theorem exists_take (takes : o.logger.TakesAll ∨ now.isSome) (r : Report) :
    ∃ taken, o.take now r = .ok taken := by
  rcases takes with all | dated
  · obtain ⟨logger, taken, -⟩ := take_heard all now r
    exact ⟨_, taken⟩
  · obtain ⟨t, rfl⟩ := Option.isSome_iff_exists.mp dated
    obtain ⟨logger, meter⟩ := o
    cases r with
    | count | time => exact ⟨_, rfl⟩
    | log e =>
      cases logger with
      | memory | silent => exact ⟨_, rfl⟩
      | console minLevel =>
        obtain ⟨line, written⟩ := ConsoleLine.exists_line minLevel t e
        refine ⟨(line.toList, ⟨.console minLevel, meter⟩), ?_⟩
        simp only [take, Logger.write, written]
        rfl

/-- However a report is taken, the meter hears of it, and the logger is of the same kind. -/
theorem of_take {r : Report} {lines : List ConsoleLine} {o' : Observer}
    (taken : o.take now r = .ok (lines, o')) :
    o'.meter = o.meter.heard r ∧ (o.logger.TakesAll → o'.logger.TakesAll) := by
  obtain ⟨logger, meter⟩ := o
  cases r with
  | count | time =>
    cases taken
    exact ⟨rfl, id⟩
  | log e =>
    cases logger with
    | memory | silent =>
      cases taken
      exact ⟨rfl, id⟩
    | console minLevel =>
      simp only [take, Logger.write] at taken
      cases written : ConsoleLine.ofEntry? minLevel now e with
      | error f =>
        rw [written] at taken
        cases taken
      | ok line =>
        rw [written] at taken
        cases taken
        exact ⟨rfl, id⟩

end Observer

namespace World
variable {w : World}

/-- The observer takes what it is told, at least as long as the clock shows dates. -/
def TakesReports (w : World) : Prop := w.observer.logger.TakesAll ∨ w.IsDated

/-- What takes reports in the beginning and in the end takes them in between. -/
def TakesUntil (w w' : World) : Prop := w.observer.logger.TakesAll ∨ w.IsDated ∧ w'.IsDated

theorem TakesUntil.takesReports {w' : World} (h : w.TakesUntil w') : w.TakesReports :=
  h.imp_right And.left

theorem TakesUntil.onward {w₁ w' : World} (h : w.TakesUntil w')
    (takes : w.observer.logger.TakesAll → w₁.observer.logger.TakesAll) (after : w.NotAfter w₁)
    (before : w₁.NotAfter w') : w₁.TakesUntil w' :=
  h.imp takes fun dated => ⟨dated.1.between dated.2 after before, dated.2⟩

/-- All reports in between are taken: always, or because the clock shows dates. -/
def TakesBetween (always : Prop) (w w' : World) : Prop := always ∨ w.IsDated ∧ w'.IsDated

section Between
variable {always : Prop} {w₁ w' : World} (h : TakesBetween always w w')
include h

theorem TakesBetween.takesUntil (all : always → w.observer.logger.TakesAll) : w.TakesUntil w' :=
  h.imp_left all

theorem TakesBetween.fore (after : w.NotAfter w₁) (before : w₁.NotAfter w') :
    TakesBetween always w w₁ := h.imp_right fun dated => ⟨dated.1, dated.1.between dated.2 after before⟩

theorem TakesBetween.rear (after : w.NotAfter w₁) (before : w₁.NotAfter w') :
    TakesBetween always w₁ w' := h.imp_right fun dated => ⟨dated.1.between dated.2 after before, dated.2⟩

end Between

/-- The same world after a report that was taken. -/
structure Heard (w : World) (r : Report) (w₁ : World) : Prop where
  same : ∃ observer past, w₁ = { w with observer := observer, past := past }
  takes : w.observer.logger.TakesAll → w₁.observer.logger.TakesAll
  meter : w₁.observer.meter = w.observer.meter.heard r
  requests : w₁.requests = w.requests
  tellings : w₁.tellings = w.tellings
  pages : w₁.pages = w.pages

/-- Lines on the console are neither requests nor amounts nor pages. -/
theorem seen_written (w : World) (lines : List ConsoleLine) :
    let w₁ := lines.foldl (fun w line => w.happen (.written line)) w
    w₁.requests = w.requests ∧ w₁.tellings = w.tellings ∧ w₁.pages = w.pages := by
  induction lines generalizing w with
  | nil => exact ⟨rfl, rfl, rfl⟩
  | cons line rest ih =>
    obtain ⟨requests, tellings, pages⟩ := ih (w.happen (.written line))
    refine ⟨requests.trans ?_, tellings.trans ?_, pages.trans ?_⟩
    · simp [World.requests, history, happen]
    · simp [World.tellings, history, happen]
    · simp [World.pages, history, happen]

theorem report_cases (w : World) (r : Report) :
    (∃ f, w.report r = (some f, w) ∧ ¬ w.TakesReports) ∨
      ∃ w₁, w.report r = (none, w₁) ∧ w.Heard r w₁ := by
  cases taken : w.observer.take (Instant.ofNumber? w.now) r with
  | error f =>
    refine .inl ⟨f, by simp only [report, taken], fun takes => ?_⟩
    obtain ⟨_, taken'⟩ := Observer.exists_take takes r
    rw [taken] at taken'
    cases taken'
  | ok x =>
    obtain ⟨lines, observer⟩ := x
    obtain ⟨meter, takes⟩ := Observer.of_take taken
    let reported : World := { w.happen (.reported r) with observer := observer }
    obtain ⟨past, written⟩ := exists_foldl_written reported lines
    obtain ⟨requests, tellings, pages⟩ := seen_written reported lines
    rw [written] at requests tellings pages
    refine .inr ⟨{ reported with past := past }, ?_, ?_⟩
    · simp only [report, taken]
      exact congrArg (none, ·) written
    · exact
        { same := ⟨observer, past, rfl⟩
          takes := takes
          meter := meter
          requests := requests.trans (by simp [reported, World.requests, history, happen])
          tellings := tellings.trans (by simp [reported, World.tellings, history, happen])
          pages := pages.trans (by simp [reported, World.pages, history, happen]) }

theorem exists_heard (takes : w.TakesReports) (r : Report) :
    ∃ w₁, w.report r = (none, w₁) ∧ w.Heard r w₁ :=
  (report_cases w r).resolve_left fun ⟨_, _, never⟩ => never takes

theorem requests_report (w : World) (r : Report) : (w.report r).2.requests = w.requests := by
  rcases report_cases w r with ⟨f, refused, -⟩ | ⟨w₁, taken, heard⟩
  · rw [refused]
  · rw [taken, heard.requests]

end World
end Depot
