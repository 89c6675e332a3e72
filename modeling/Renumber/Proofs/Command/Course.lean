import Renumber.Proofs.Command.Stage

/-!
# The course of a run

The steps that a command takes are known once what it reads is: one for a report, and one for each
header that is found, in order.  They are taken one after the other until one fails (`StepsTaken`).
The headers of the second direction are looked for when those of the first have been carried over
(`DirectionsTaken`).

Every run takes such a course (`exists_course`), and nothing happens to the files outside of its
stages.
-/

namespace Renumber

open World

/-! ## Courses -/

/-- Steps are taken one after the other, from one world to another, until one fails. -/
inductive StepsTaken : World → List Step → List Stage → Option Failure → World → Prop where
  | nil {w w' : World} (h : SameFiles w w') : StepsTaken w [] [] none w'
  | next {w w' : World} {stage : Stage} {steps : List Step} {stages : List Stage}
    {failure : Option Failure} (hstart : SameFiles w stage.before) (hok : stage.failure? = none)
    (hrest : StepsTaken stage.after steps stages failure w') :
    StepsTaken w (stage.step :: steps) (stage :: stages) failure w'
  | halt {w w' : World} {stage : Stage} (steps : List Step) {f : Failure}
    (hstart : SameFiles w stage.before) (hfailure : stage.failure? = some f)
    (hend : SameFiles stage.after w') :
    StepsTaken w (stage.step :: steps) [stage] (some f) w'

theorem StepsTaken.of_sameFiles {w₁ w w' : World} {steps : List Step} {stages : List Stage}
    {failure : Option Failure} (hsame : SameFiles w₁ w)
    (h : StepsTaken w steps stages failure w') : StepsTaken w₁ steps stages failure w' := by
  cases h with
  | nil h => exact .nil (trans_of _ hsame h)
  | next hstart hok hrest => exact .next (trans_of _ hsame hstart) hok hrest
  | halt steps hstart hfailure hend => exact .halt steps (trans_of _ hsame hstart) hfailure hend

theorem StepsTaken.to_sameFiles {w w₁ w' : World} {steps : List Step} {stages : List Stage}
    {failure : Option Failure} (h : StepsTaken w steps stages failure w₁)
    (hsame : SameFiles w₁ w') : StepsTaken w steps stages failure w' := by
  induction h with
  | nil h => exact .nil (trans_of _ h hsame)
  | next hstart hok _ ih => exact .next hstart hok (ih hsame)
  | halt steps hstart hfailure hend => exact .halt steps hstart hfailure (trans_of _ hend hsame)

/-- The step of a report. -/
def ReportArguments.step (a : ReportArguments) (r : Revision) : Step :=
  ⟨.report r, a.output.join [Name.ofText reportName], a.force⟩

/-- The steps that carry headers over, each to its own place. -/
def carrySteps (s : Settings) (resolver : Resolver) (force : Bool) (pairs : List (Path × Path)) :
    List Step :=
  pairs.map fun (source, destination) => ⟨.carry s resolver source, destination, force⟩

section

variable (verbosity : Nat) (a : MatchArguments) (s : Settings) (previous current : Revision)

/-- The headers of one direction are found and carried over. -/
inductive HeadersTaken (d : Direction) (input : Path) :
    World → List Stage → Option Failure → World → Prop where
  | lost {w w' : World} {f : Failure}
    (hfiles : perform (headerFiles verbosity input a.output) w = (.error f, w')) :
    HeadersTaken d input w [] (some f) w'
  | found {w w₁ w' : World} {pairs : List (Path × Path)} {stages : List Stage}
    {failure : Option Failure}
    (hfiles : perform (headerFiles verbosity input a.output) w = (.ok pairs, w₁))
    (hsteps : StepsTaken w₁
      (carrySteps s (resolve TieBreak.closest (previous.catalog d) (current.catalog d).index) a.force
        pairs) stages failure w') :
    HeadersTaken d input w stages failure w'

/-- The headers of some directions are carried over, one direction after the other. -/
inductive DirectionsTaken : List Direction → World → List Stage → Option Failure → World → Prop where
  | nil (w : World) : DirectionsTaken [] w [] none w
  | skip {d : Direction} {rest : List Direction} {w w' : World} {stages : List Stage}
    {failure : Option Failure} (hinput : a.headers d = none)
    (hrest : DirectionsTaken rest w stages failure w') :
    DirectionsTaken (d :: rest) w stages failure w'
  | next {d : Direction} {rest : List Direction} {w w₁ w' : World} {input : Path}
    {stages stages' : List Stage} {failure : Option Failure} (hinput : a.headers d = some input)
    (hheaders : HeadersTaken verbosity a s previous current d input w stages none w₁)
    (hrest : DirectionsTaken rest w₁ stages' failure w') :
    DirectionsTaken (d :: rest) w (stages ++ stages') failure w'
  | halt {d : Direction} (rest : List Direction) {w w' : World} {input : Path}
    {stages : List Stage} {f : Failure} (hinput : a.headers d = some input)
    (hheaders : HeadersTaken verbosity a s previous current d input w stages (some f) w') :
    DirectionsTaken (d :: rest) w stages (some f) w'

end

/-- Reads what the headers are carried over by. -/
def MatchArguments.load (verbosity : Nat) (a : MatchArguments) :
    Action (StateM World) (Revision × Revision × Pattern) := do
  let previous ← revisionAt verbosity a.previous
  let current ← revisionAt verbosity a.current
  let pattern ← demand "Invalid identifier pattern" Cause.error (← Host.readPattern a.pattern)
  note verbosity .info s!"Matching {previous.label} -> {current.label}"
  return (previous, current, pattern)

/-- The course of a task: what it reads, and the steps it takes then. -/
inductive Task.Course (verbosity : Nat) :
    Task → World → List Stage → Option Failure → World → Prop where
  | reportUnread {a : ReportArguments} {w w' : World} {f : Failure}
    (hload : perform (revisionAt verbosity a.snapshot) w = (.error f, w')) :
    Course verbosity (.report a) w [] (some f) w'
  | report {a : ReportArguments} {w w₁ w' : World} {r : Revision} {stages : List Stage}
    {failure : Option Failure}
    (hload : perform (revisionAt verbosity a.snapshot) w = (.ok r, w₁))
    (hsteps : StepsTaken w₁ [a.step r] stages failure w') :
    Course verbosity (.report a) w stages failure w'
  | carryUnread {a : MatchArguments} {w w' : World} {f : Failure}
    (hload : perform (a.load verbosity) w = (.error f, w')) :
    Course verbosity (.carry a) w [] (some f) w'
  | carry {a : MatchArguments} {w w₁ w' : World} {previous current : Revision} {pattern : Pattern}
    {stages : List Stage} {failure : Option Failure}
    (hload : perform (a.load verbosity) w = (.ok (previous, current, pattern), w₁))
    (hsteps : DirectionsTaken verbosity a (a.settings pattern previous current) previous current
      Direction.all w₁ stages failure w') :
    Course verbosity (.carry a) w stages failure w'

/-- The course of a command line.  One that asks for no task takes no steps. -/
inductive Course (words : List String) : World → List Stage → Exit → World → Prop where
  | idle {w w' : World} {exit : Exit}
    (hrequest : ∀ verbosity task, Request.ofWords? words ≠ some (.run verbosity task))
    (hexit : exit.code ≠ 1) (hsame : SameFiles w w') : Course words w [] exit w'
  | success {w w' : World} {verbosity : Nat} {task : Task} {stages : List Stage}
    (hrequest : Request.ofWords? words = some (.run verbosity task))
    (htask : task.Course verbosity w stages none w') : Course words w stages .success w'
  | failure {w w' : World} {verbosity : Nat} {task : Task} {stages : List Stage} {f : Failure}
    (hrequest : Request.ofWords? words = some (.run verbosity task))
    (htask : task.Course verbosity w stages (some f) w') : Course words w stages (.failure f) w'

/-! ## Every run takes its course -/

theorem exists_stepsTaken_renumberFiles (verbosity : Nat) (s : Settings) (resolver : Resolver)
    (force : Bool) (d : Direction) (total : Tally) (pairs : List (Path × Path)) (w : World) :
    let result := perform (renumberFiles verbosity s resolver force d total pairs) w
    ∃ stages, StepsTaken w (carrySteps s resolver force pairs) stages (failureOf? result.1)
      result.2 := by
  intro result
  induction pairs generalizing total w with
  | nil => exact ⟨[], .nil (refl_of _ w)⟩
  | cons pair rest ih =>
    obtain ⟨source, destination⟩ := pair
    obtain ⟨w₁, hnote, hsame⟩ := perform_note verbosity .debug
      s!"Patching {source.text} -> {destination.text}" w
    let stage : Stage := ⟨⟨.carry s resolver source, destination, force⟩, w₁⟩
    rcases hrun : perform (renumberFile s resolver force source destination) w₁ with ⟨f | tally, w₂⟩
    · have hresult : result = (.error f, w₂) :=
        (perform_bind_ok hnote _).trans (perform_bind_error hrun _)
      obtain ⟨hfailure, hafter⟩ := stage.ends_of_perform hrun
      rw [hresult]
      exact ⟨[stage], .halt _ hsame hfailure (hafter ▸ refl_of SameFiles stage.after)⟩
    · obtain ⟨w₃, hprint, hsame'⟩ :=
        perform_print s!"{d.title} {destination.text}: Matches: {tally.text}" w₂
      have hresult : result =
          perform (renumberFiles verbosity s resolver force d (total + tally) rest) w₃ :=
        (perform_bind_ok hnote _).trans ((perform_bind_ok hrun _).trans (perform_bind_ok hprint _))
      obtain ⟨hok, hafter⟩ := stage.ends_of_perform hrun
      obtain ⟨stages, hrest⟩ := ih (total + tally) w₃
      rw [hresult]
      exact ⟨stage :: stages, .next hsame hok (hrest.of_sameFiles (hafter ▸ hsame'))⟩

theorem exists_headersTaken (verbosity : Nat) (a : MatchArguments) (s : Settings)
    (previous current : Revision) (d : Direction) (input : Path) (w : World) :
    let result := perform (renumberHeaders verbosity a s previous current d input) w
    ∃ stages, HeadersTaken verbosity a s previous current d input w stages (failureOf? result.1)
      result.2 := by
  intro result
  rcases hfiles : perform (headerFiles verbosity input a.output) w with ⟨f | pairs, w₁⟩
  · have hresult : result = (.error f, w₁) := perform_bind_error hfiles _
    rw [hresult]
    exact ⟨[], .lost hfiles⟩
  · obtain ⟨stages, hsteps⟩ := exists_stepsTaken_renumberFiles verbosity s
      (resolve TieBreak.closest (previous.catalog d) (current.catalog d).index) a.force d {} pairs w₁
    refine ⟨stages, ?_⟩
    rcases hrun : perform (renumberFiles verbosity s
      (resolve TieBreak.closest (previous.catalog d) (current.catalog d).index) a.force d {} pairs) w₁
      with ⟨f | total, w₂⟩
    · have hresult : result = (.error f, w₂) :=
        (perform_bind_ok hfiles _).trans (perform_bind_error hrun _)
      rw [hrun] at hsteps
      rw [hresult]
      exact .found hfiles hsteps
    · obtain ⟨w', hnote, hsame⟩ := perform_note verbosity .info
        (s!"{d.title} messages: {total.matched} matched of {total.tried} attempts " ++
          s!"({total.notIds} invalid, {total.unknown} not found, " ++
          s!"{total.unmatched} without candidate)") w₂
      have hresult : result = (.ok (), w') :=
        (perform_bind_ok hfiles _).trans ((perform_bind_ok hrun _).trans hnote)
      rw [hrun] at hsteps
      rw [hresult]
      exact .found hfiles (hsteps.to_sameFiles hsame)

/-- Carries over the headers of a direction, if there are any. -/
def carryDirection (verbosity : Nat) (a : MatchArguments) (s : Settings)
    (previous current : Revision) (d : Direction) : Action (StateM World) Unit :=
  (a.headers d).elim (pure ()) (renumberHeaders verbosity a s previous current d)

theorem exists_directionsTaken (verbosity : Nat) (a : MatchArguments) (s : Settings)
    (previous current : Revision) (directions : List Direction) (w : World) :
    let result := perform (directions.forM (carryDirection verbosity a s previous current)) w
    ∃ stages, DirectionsTaken verbosity a s previous current directions w stages
      (failureOf? result.1) result.2 := by
  intro result
  induction directions generalizing w with
  | nil => exact ⟨[], .nil w⟩
  | cons d rest ih =>
    have hresult : result = perform (carryDirection verbosity a s previous current d >>= fun _ =>
      rest.forM (carryDirection verbosity a s previous current)) w := rfl
    rw [hresult]
    unfold carryDirection
    cases hinput : a.headers d with
    | none =>
      obtain ⟨stages, hrest⟩ := ih w
      rw [Option.elim_none, pure_bind]
      exact ⟨stages, .skip hinput hrest⟩
    | some input =>
      obtain ⟨stages, hheaders⟩ := exists_headersTaken verbosity a s previous current d input w
      rw [Option.elim_some]
      rcases hrun : perform (renumberHeaders verbosity a s previous current d input) w
        with ⟨f | _, w₁⟩
      · rw [hrun] at hheaders
        rw [perform_bind_error hrun]
        exact ⟨stages, .halt rest hinput hheaders⟩
      · obtain ⟨stages', hrest⟩ := ih w₁
        rw [hrun] at hheaders
        rw [perform_bind_ok hrun]
        exact ⟨stages ++ stages', .next hinput hheaders hrest⟩

theorem reportCommand_eq (verbosity : Nat) (a : ReportArguments) :
    (reportCommand verbosity a : Action (StateM World) Unit) = (do
      let r ← revisionAt verbosity a.snapshot
      let s := r.stats
      note verbosity .info <|
        s!"Revision {r.label}: {s.total} messages, {s.unique} unique, " ++
          s!"{s.collision} in {s.groups} collision group(s), {s.dead} dead"
      let _ ← (a.step r).run
      Host.print s!"Messages Saved: {(a.output.join [Name.ofText reportName]).text}") := by
  unfold reportCommand ReportArguments.step Step.run
  simp only [bind_assoc, pure_bind]

theorem matchCommand_eq (verbosity : Nat) (a : MatchArguments) :
    (matchCommand verbosity a : Action (StateM World) Unit) = (do
      let (previous, current, pattern) ← a.load verbosity
      Direction.all.forM
        (carryDirection verbosity a (a.settings pattern previous current) previous current)) := by
  unfold matchCommand MatchArguments.load carryDirection
  simp only [bind_assoc, pure_bind]
  refine bind_congr fun previous => bind_congr fun current => bind_congr fun read =>
    bind_congr fun pattern => bind_congr fun _ => ?_
  congr 1
  funext d
  cases a.headers d <;> rfl

theorem exists_course_task (verbosity : Nat) (task : Task) (w : World) :
    let result := perform (runTask verbosity task) w
    ∃ stages, task.Course verbosity w stages (failureOf? result.1) result.2 := by
  intro result
  cases task with
  | report a =>
    have hresult : result = perform (reportCommand verbosity a) w := rfl
    rw [reportCommand_eq] at hresult
    rw [hresult]
    rcases hload : perform (revisionAt verbosity a.snapshot) w with ⟨f | r, w₁⟩
    · rw [perform_bind_error hload]
      exact ⟨[], .reportUnread hload⟩
    · obtain ⟨w₂, hnote, hsame⟩ := perform_note verbosity .info
        (s!"Revision {r.label}: {r.stats.total} messages, {r.stats.unique} unique, " ++
          s!"{r.stats.collision} in {r.stats.groups} collision group(s), {r.stats.dead} dead") w₁
      let stage : Stage := ⟨a.step r, w₂⟩
      rw [perform_bind_ok hload]
      dsimp only
      rw [perform_bind_ok hnote]
      rcases hrun : perform (a.step r).run w₂ with ⟨f | tally, w₃⟩
      · obtain ⟨hfailure, hafter⟩ := stage.ends_of_perform hrun
        rw [perform_bind_error hrun]
        exact ⟨[stage], .report hload (.halt [] hsame hfailure (hafter ▸ refl_of SameFiles _))⟩
      · obtain ⟨hok, hafter⟩ := stage.ends_of_perform hrun
        obtain ⟨w', hprint, hsame'⟩ :=
          perform_print s!"Messages Saved: {(a.output.join [Name.ofText reportName]).text}" w₃
        rw [perform_bind_ok hrun, hprint]
        exact ⟨[stage], .report hload (.next hsame hok (.nil (hafter ▸ hsame')))⟩
  | carry a =>
    have hresult : result = perform (matchCommand verbosity a) w := rfl
    rw [matchCommand_eq] at hresult
    rw [hresult]
    rcases hload : perform (a.load verbosity) w with ⟨f | ⟨previous, current, pattern⟩, w₁⟩
    · rw [perform_bind_error hload]
      exact ⟨[], .carryUnread hload⟩
    · rw [perform_bind_ok hload]
      obtain ⟨stages, hsteps⟩ := exists_directionsTaken verbosity a
        (a.settings pattern previous current) previous current Direction.all w₁
      exact ⟨stages, .carry hload hsteps⟩

theorem runRequest_run_task (verbosity : Nat) (task : Task) (w : World) :
    (runRequest (.run verbosity task) : StateM World Exit).run w =
      match perform (runTask verbosity task) w with
      | (.ok (), w') => (.success, w')
      | (.error f, w') => (.failure f, w') := by
  unfold runRequest
  rw [StateT.run_bind]
  rcases hperform : perform (runTask verbosity task) w with ⟨outcome, w'⟩
  have hrun : (runTask verbosity task : Action (StateM World) Unit).run.run w = (outcome, w') :=
    hperform
  rw [hrun]
  cases outcome <;> rfl

/-- A match ends well just if nothing fails. -/
theorem runRequest_run_match (verbosity : Nat) (a : MatchArguments) (w : World) :
    (runRequest (.run verbosity (.carry a)) : StateM World Exit).run w =
      ((failureOf? (perform (matchCommand verbosity a) w).1).elim .success .failure,
        (perform (matchCommand verbosity a) w).2) := by
  rw [runRequest_run_task, runTask]
  rcases perform (matchCommand verbosity a) w with ⟨f | _, w'⟩ <;> rfl

theorem code_elim (failure : Option Failure) :
    (failure.elim Exit.success Exit.failure).code = failure.elim 0 fun _ => 1 := by
  cases failure <;> rfl

theorem runCommand_of_request {words : List String} {request : Request}
    (h : Request.ofWords? words = some request) :
    (runCommand words : StateM World Exit) = runRequest request := by
  unfold runCommand
  rw [h]

theorem runCommand_run_task {words : List String} {verbosity : Nat} {task : Task}
    (h : Request.ofWords? words = some (.run verbosity task)) (w : World) :
    (runCommand words : StateM World Exit).run w =
      match perform (runTask verbosity task) w with
      | (.ok (), w') => (.success, w')
      | (.error f, w') => (.failure f, w') := by
  rw [runCommand_of_request h, runRequest_run_task]

/-- Every run takes its course. -/
theorem exists_course (words : List String) (w : World) :
    let result := (runCommand words : StateM World Exit).run w
    ∃ stages, Course words w stages result.1 result.2 := by
  intro result
  rcases hrequest : Request.ofWords? words with _ | ⟨verbosity, task⟩ | program | _
  · have hresult : result = (.misuse, w) := by
      simp only [result, runCommand, hrequest]
      rfl
    rw [hresult]
    exact ⟨[], .idle (by simp [hrequest]) nofun (refl_of _ w)⟩
  · obtain ⟨stages, htask⟩ := exists_course_task verbosity task w
    have hresult : result = _ := runCommand_run_task hrequest w
    rw [hresult]
    rcases hrun : perform (runTask verbosity task) w with ⟨f | _, w'⟩
    · rw [hrun] at htask
      exact ⟨stages, .failure hrequest htask⟩
    · rw [hrun] at htask
      exact ⟨stages, .success hrequest htask⟩
  · have hresult : result.1 = .success ∧ SameFiles w result.2 := by
      simp only [result, runCommand_of_request hrequest]
      exact ⟨rfl, rfl, rfl⟩
    exact ⟨[], .idle (by simp [hrequest]) (by rw [hresult.1]; nofun) hresult.2⟩
  · have hresult : result.1 = .success ∧ SameFiles w result.2 := by
      simp only [result, runCommand_of_request hrequest]
      exact ⟨rfl, rfl, rfl⟩
    exact ⟨[], .idle (by simp [hrequest]) (by rw [hresult.1]; nofun) hresult.2⟩

end Renumber
