import Mathlib
import Renumber.Proofs.Command.History

/-!
# Which files a run replaces

Without `--force` a run replaces no file (`run_keepsFiles`): it writes only where nothing was, and a
step whose destination leads to something that is there ends it.

With `--force` it can replace a file that a step's destination leads to, and no other
(`run_replaces_targets`).  A header is not carried over to itself where that shows before the
directories above the output are made.  A report is written in place of its own snapshot
(`report_replaces_its_snapshot`).
-/

namespace Renumber

open World

/-- A file at this address keeps its contents. -/
def World.KeepsFile (a : List Name) (w w' : World) : Prop :=
  ∀ contents, w.root.find? a = some (.file contents) → w'.root.find? a = some (.file contents)

/-- All files keep their contents. -/
def World.KeepsFiles (w w' : World) : Prop := ∀ a, KeepsFile a w w'

instance (a : List Name) : IsPreorder World (KeepsFile a) where
  refl _ _ h := h
  trans _ _ _ h h' contents hw := h' contents (h contents hw)

instance : IsPreorder World KeepsFiles where
  refl w a := refl_of (KeepsFile a) w
  trans _ _ _ h h' a := trans_of (KeepsFile a) (h a) (h' a)

theorem World.SameFiles.keepsFile {w w' : World} (h : SameFiles w w') (a : List Name) :
    KeepsFile a w w' := by
  intro contents ha
  rw [h.1]
  exact ha

/-- A stage replaces a file only with `force`, and only the one that it targets. -/
theorem Stage.keepsFile {stage : Stage} (h : stage.step.destination.IsNamed) {a : List Name}
    (hforce : stage.Targets a → stage.step.force = false) : KeepsFile a stage.before stage.after := by
  intro contents ha
  refine (stage.becomes h).root.find?_eq_file ?_ ha
  rintro ⟨htarget, hforced | hnone⟩
  · rw [hforce htarget] at hforced
    cases hforced
  · rw [Node.kind?_eq_file_iff.2 ha] at hnone
    cases hnone

theorem Stage.keepsFiles {stage : Stage} (h : stage.step.destination.IsNamed)
    (hforce : stage.step.force = false) : KeepsFiles stage.before stage.after :=
  fun _ => Stage.keepsFile h fun _ => hforce

namespace History

variable {w w' : World} {stages : List Stage} {failure : Option Failure}

theorem keepsFiles (h : History false w stages failure w') : KeepsFiles w w' :=
  h.stays (fun _ _ => SameFiles.keepsFile) fun _ _ => Stage.keepsFiles

theorem keepsFiles_after (h : History false w stages failure w') {stage : Stage}
    (hstage : stage ∈ stages) : KeepsFiles w stage.after := by
  obtain ⟨done, rest, rfl⟩ := List.append_of_mem hstage
  obtain ⟨hdone, hnamed, hforce, -⟩ := h.split
  exact trans_of KeepsFiles hdone.keepsFiles (Stage.keepsFiles hnamed hforce)

/-- What a stage leaves is kept by all that come after it. -/
theorem pairwise_keepsFiles (h : History false w stages failure w') :
    stages.Pairwise fun earlier later => KeepsFiles earlier.after later.after := by
  generalize hfalse : false = force at h
  induction h with
  | nil => exact .nil
  | next _ _ _ _ hrest ih =>
    subst hfalse
    exact .cons (fun later hlater => hrest.keepsFiles_after hlater) ih
  | halt => exact List.pairwise_singleton _ _

end History

/-- Two snapshots of a build without messages, one of them under the name that reports have. -/
def twoSnapshots : Node :=
  .directory [("Messages.txt", .file [10, 2, 118, 49]), ("v1.pb", .file [10, 2, 118, 49])]

theorem wellFormed_twoSnapshots : twoSnapshots.WellFormed :=
  Node.wellFormed_directory (by decide) (by simp)

/-! ## Main theorems -/

/-- Without `--force` files keep their contents, those that were there before the run and those that
a step of it has written.  A step whose destination is there when it starts, or leads to something
that was there once the directories above it are made, writes no file and ends the run. -/
theorem run_keepsFiles (words : List String) (w : World) (hw : w.root.WellFormed)
    (hforce : ∀ verbosity task, Request.ofWords? words = some (.run verbosity task) →
      task.force = false) :
    let result := (runCommand words : StateM World Exit).run w
    KeepsFiles w result.2 ∧
    ∃ stages, Course words w stages result.1 result.2 ∧
      stages.Pairwise (fun earlier later => KeepsFiles earlier.after later.after) ∧
      ∀ done stage rest, stages = done ++ stage :: rest →
        Becomes (fun a => stage.Targets a ∧ stage.before.root.find? a = none)
          stage.before stage.after ∧
        KeepsFiles stage.after result.2 ∧
        ((stage.before.node? stage.step.destination).isSome ∨ stage.MeetsExisting →
          Becomes (fun _ => False) stage.before stage.after ∧ rest = [] ∧ result.1.code = 1) := by
  intro result
  obtain ⟨stages, hcourse⟩ := exists_course words w
  obtain ⟨force, failure, hhistory, hfailure, hforced⟩ := hcourse.history hw
  obtain rfl : force = false := by
    by_contra htrue
    obtain ⟨verbosity, task, hrequest, htask⟩ := hforced ((Bool.not_eq_false force).mp htrue)
    rw [hforce verbosity task hrequest] at htask
    cases htask
  refine ⟨hhistory.keepsFiles, stages, hcourse, hhistory.pairwise_keepsFiles, ?_⟩
  rintro done stage rest rfl
  obtain ⟨-, hnamed, hstage, hrest, hlast⟩ := hhistory.split
  refine ⟨(stage.becomes hnamed).mono ?_, hrest.keepsFiles, fun hmeets => ?_⟩
  · rintro a ⟨htarget, hforced | hnone⟩
    · rw [hstage] at hforced
      cases hforced
    · exact ⟨htarget, Node.kind?_eq_none_iff.1 hnone⟩
  · have hmeets : stage.MeetsExisting := hmeets.elim (Stage.meetsExisting_of_node? hnamed) id
    obtain ⟨f, hf, hbecomes⟩ := Stage.refuses_existing hnamed hstage hmeets
    obtain ⟨hnil, hended⟩ := hlast f hf
    refine ⟨hbecomes, hnil, ?_⟩
    rw [hfailure f hended]
    rfl

/-- A report is refused where a file of its name is. -/
theorem run_keepsFiles_existingReport :
    let result := (runCommand ["report", "v1.pb"] : StateM World Exit).run { root := twoSnapshots }
    result.1.code = 1 ∧
      result.2.root.find? ["Messages.txt"] = some (.file [10, 2, 118, 49]) := by
  have hforce : ∀ verbosity task,
      Request.ofWords? ["report", "v1.pb"] = some (.run verbosity task) → task.force = false := by
    intro verbosity task hrequest
    cases hrequest
    rfl
  have hkeeps :=
    (run_keepsFiles ["report", "v1.pb"] { root := twoSnapshots } wellFormed_twoSnapshots hforce).1
  exact ⟨by cbv, hkeeps ["Messages.txt"] _ rfl⟩

/-- With or without `--force` a file keeps its contents unless a step with `--force` has a
destination that leads to it.  A header whose destination leads to itself when its step starts is
refused: nothing is written, and the run ends. -/
theorem run_replaces_targets (words : List String) (w : World) (hw : w.root.WellFormed) :
    let result := (runCommand words : StateM World Exit).run w
    ∃ stages, Course words w stages result.1 result.2 ∧
      (∀ a contents, w.root.find? a = some (.file contents) →
        result.2.root.find? a = some (.file contents) ∨
        ∃ stage ∈ stages, stage.step.force = true ∧ stage.Targets a ∧ ¬ stage.CarriesOntoSource) ∧
      ∀ done stage rest, stages = done ++ stage :: rest → stage.CarriesOntoSource →
        stage.after = stage.before ∧ rest = [] ∧ result.1.code = 1 := by
  intro result
  obtain ⟨stages, hcourse⟩ := exists_course words w
  obtain ⟨force, failure, hhistory, hfailure, -⟩ := hcourse.history hw
  refine ⟨stages, hcourse, fun a contents ha => ?_, ?_⟩
  · by_cases htargeted :
      ∃ stage ∈ stages, stage.step.force = true ∧ stage.Targets a ∧ ¬ stage.CarriesOntoSource
    · exact .inr htargeted
    · have hkeeps : KeepsFile a w result.2 := by
        refine hhistory.stays (fun _ _ hsame => hsame.keepsFile a) fun stage hstage hnamed _ => ?_
        by_cases hown : stage.CarriesOntoSource
        · obtain ⟨s, resolver, source, hwork, hsame⟩ := hown
          rw [(Stage.refuses_source hwork hsame).2]
          exact refl_of (KeepsFile a) stage.before
        · refine Stage.keepsFile hnamed fun htarget => ?_
          by_contra hforced
          exact htargeted
            ⟨stage, hstage, (Bool.not_eq_false _).mp hforced, htarget, hown⟩
      exact .inl (hkeeps contents ha)
  · rintro done stage rest rfl ⟨s, resolver, source, hwork, hsame⟩
    obtain ⟨-, -, -, -, hlast⟩ := hhistory.split
    obtain ⟨hrefused, hafter⟩ := Stage.refuses_source hwork hsame
    obtain ⟨hnil, hended⟩ := hlast _ hrefused
    refine ⟨hafter, hnil, ?_⟩
    rw [hfailure _ hended]
    rfl

theorem ofWords?_ownReport : Request.ofWords? ["report", "Messages.txt", "--force"] =
    some (.run 0 (.report ⟨Path.ofText "Messages.txt", Path.ofText ".", true⟩)) := rfl

theorem kind?_ownReport :
    ((runCommand ["report", "Messages.txt", "--force"] : StateM World Exit).run
      { root := twoSnapshots }).2.root.kind? ["Messages.txt"] ≠
      twoSnapshots.kind? ["Messages.txt"] := by
  rw [runCommand_run_task ofWords?_ownReport]
  refine ne_of_beq_false ?_
  cbv

/-- Where a report has the name of its snapshot, a step with `--force` leads to this. -/
theorem run_replaces_targets_ownReport :
    let result := (runCommand ["report", "Messages.txt", "--force"] : StateM World Exit).run
      { root := twoSnapshots }
    ∃ stages,
      Course ["report", "Messages.txt", "--force"] { root := twoSnapshots } stages result.1 result.2 ∧
      ∃ stage ∈ stages, stage.step.force = true ∧ stage.Targets ["Messages.txt"] := by
  intro result
  obtain ⟨stages, hcourse, hreplaced, -⟩ := run_replaces_targets
    ["report", "Messages.txt", "--force"] { root := twoSnapshots } wellFormed_twoSnapshots
  refine ⟨stages, hcourse, ?_⟩
  obtain hkept | ⟨stage, hstage, hforce, htarget, -⟩ := hreplaced ["Messages.txt"] _ rfl
  · exact absurd (congrArg (Option.map Node.kind) hkept) kind?_ownReport
  · exact ⟨stage, hstage, hforce, htarget⟩

/-- A report takes the place of the snapshot that it is about. -/
theorem report_replaces_its_snapshot :
    let result := (runCommand ["report", "Messages.txt", "--force"] : StateM World Exit).run
      { root := twoSnapshots }
    result.1.code = 0 ∧
      result.2.root.find? ["Messages.txt"] ≠ twoSnapshots.find? ["Messages.txt"] := by
  refine ⟨?_, mt (congrArg (Option.map Node.kind)) kind?_ownReport⟩
  rw [runCommand_run_task ofWords?_ownReport]
  cbv

end Renumber
