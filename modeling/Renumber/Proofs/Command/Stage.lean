import Renumber.Proofs.Command.Performing

/-!
# The stages of a run

A run writes its outputs in steps: the report is one step, and each header carried over is one.  A
stage is a step together with the world it starts in.

A stage makes directories and writes at most one file, at the address that its destination leads to
afterwards; without `force` it writes only where nothing was (`Stage.becomes`).  It fails, and
writes no file, if its destination leads to something that was there and there is no `force`
(`Stage.refuses_existing`), or if its destination is its own source (`Stage.refuses_source`).
-/

namespace Renumber

open World

/-! ## Steps and stages -/

/-- What a step writes. -/
inductive Work where
  | report (r : Revision)
  | carry (s : Settings) (resolver : Resolver) (source : Path)

structure Step where
  work : Work
  destination : Path
  force : Bool

/-- Takes a step and gives what was counted, which is nothing for a report. -/
def Step.run (step : Step) : Action (StateM World) Tally :=
  match step.work with
  | .report r => do
    prepareOutput step.destination step.force
    demand s!"Failed to write file: {step.destination.text}" Cause.fault
      (← Host.writeFile step.destination (Text.bytesOf r.report))
    return {}
  | .carry s resolver source => renumberFile s resolver step.force source step.destination

structure Stage where
  step : Step
  before : World

namespace Stage

def after (stage : Stage) : World := (perform stage.step.run stage.before).2

def failure? (stage : Stage) : Option Failure := failureOf? (perform stage.step.run stage.before).1

/-- The address that the destination of a stage leads to once the directories above it are made. -/
def Targets (stage : Stage) (a : List Name) : Prop := stage.after.LeadsTo stage.step.destination a

/-- The destination of a stage leads to something that was there. -/
def MeetsExisting (stage : Stage) : Prop :=
  ∃ a, stage.Targets a ∧ stage.before.root.find? a ≠ none

/-- The header that a stage carries over is the file that its destination leads to when it starts. -/
def CarriesOntoSource (stage : Stage) : Prop :=
  ∃ s resolver source, stage.step.work = .carry s resolver source ∧
    stage.before.root.isSameFile stage.before.here source stage.step.destination

end Stage

/-! ## Writing a prepared output -/

variable {α : Type}

theorem World.Writes.kind?_eq_none {p : Path} {w w' : World} (h : Writes p w w')
    (hnone : w.node? p = none) {a : List Name} (ha : w'.LeadsTo p a) : w.root.kind? a = none := by
  by_contra hkind
  obtain ⟨node, hnode⟩ := Option.ne_none_iff_exists'.1 (mt Node.kind?_eq_none_iff.2 hkind)
  have hsome : w.node? p = some node := Node.node?_eq_some_iff.2 ⟨a, h.led a ha hkind, hnode⟩
  rw [hnone] at hsome
  cases hsome

section

variable {p : Path} {x : Action (StateM World) α}

theorem becomes_of_prepared (hx : Stays (Writes p) x) (force : Bool) (w : World) :
    let w' := (perform (prepareOutput p force >>= fun _ => x) w).2
    Becomes (fun a => w'.LeadsTo p a ∧ (force = true ∨ w.root.kind? a = none)) w w' := by
  intro w'
  rcases hprepare : perform (prepareOutput p force) w with ⟨f | _, w₁⟩
  · have hmade := (stays_prepareOutput p force).of_perform hprepare
    have hw' : w' = w₁ := congrArg Prod.snd (perform_bind_error hprepare fun _ => x)
    rw [hw']
    exact hmade.mono fun _ => False.elim
  · -- directories made on the way can be what lets the path lead to a file, so what is at its address
    -- is looked up when they are there and traced back to the start
    have hmade := (stays_prepareOutput p force).of_perform hprepare
    have hw' : w' = (perform x w₁).2 := congrArg Prod.snd (perform_bind_ok hprepare fun _ => x)
    have hwrites : Writes p w₁ w' := hw' ▸ hx w₁
    refine trans_of _ (hmade.mono fun _ => False.elim) (hwrites.becomes.mono fun a ha => ⟨ha, ?_⟩)
    cases force with
    | true => exact .inl rfl
    | false =>
      refine .inr ?_
      by_contra hkind
      exact hmade.root.kind?_ne_none hkind
        (hwrites.kind?_eq_none (prepareOutput_eq_ok hprepare) ha)

/-- Without `force` what is there is not replaced. -/
theorem error_of_prepared (hx : Stays (Writes p) x) {w : World} {a : List Name}
    (ha : (perform (prepareOutput p false >>= fun _ => x) w).2.LeadsTo p a)
    (hkind : w.root.kind? a ≠ none) :
    ∃ f w', perform (prepareOutput p false >>= fun _ => x) w = (.error f, w') ∧
      Becomes (fun _ => False) w w' := by
  rcases hprepare : perform (prepareOutput p false) w with ⟨f | _, w₁⟩
  · exact ⟨f, w₁, perform_bind_error hprepare _, (stays_prepareOutput p false).of_perform hprepare⟩
  · have hmade := (stays_prepareOutput p false).of_perform hprepare
    rw [perform_bind_ok hprepare] at ha
    exact absurd ((hx w₁).kind?_eq_none (prepareOutput_eq_ok hprepare) ha)
      (hmade.root.kind?_ne_none hkind)

end

/-! ## What a step does after its preparation -/

theorem stays_headerBytes (source : Path) :
    Stays SameFiles (headerBytes source : Action (StateM World) (List UInt8)) := by
  unfold headerBytes
  exact (stays_readFile source).bind fun _ => .demand _ _ _

theorem stays_putHeader {destination : Path} (h : destination.IsNamed) (contents : List UInt8) :
    Stays (Writes destination) (putHeader destination contents : Action (StateM World) Unit) := by
  unfold putHeader
  exact (stays_writeFile h contents).bind fun _ => .demand _ _ _

/-- Carries a file over to an output that has been prepared. -/
def carryOver (s : Settings) (resolver : Resolver) (source destination : Path) :
    Action (StateM World) Tally := do
  let _ ← headerBytes source
  putHeader destination []
  let (sink, outcome) := renumber s resolver (← headerBytes source) {}
  putHeader destination sink.contents
  demand s!"Failed to patch {source.text}" Cause.error outcome

theorem stays_carryOver (s : Settings) (resolver : Resolver) (source : Path) {destination : Path}
    (h : destination.IsNamed) :
    Stays (Writes destination) (carryOver s resolver source destination) := by
  have hread := (stays_headerBytes source).mono fun _ _ h => h.writes destination
  refine hread.bind fun _ => (stays_putHeader h _).bind fun _ => hread.bind fun _ => ?_
  exact (stays_putHeader h _).bind fun _ => .demand _ _ _

theorem perform_renumberFile (s : Settings) (resolver : Resolver) (force : Bool)
    (source destination : Path) (w : World) :
    perform (renumberFile s resolver force source destination) w =
      if w.root.isSameFile w.here source destination then
        (.error ⟨s!"Refusing to overwrite input file: {source.text} (choose another --output)", none⟩,
          w)
      else
        perform (prepareOutput destination force >>= fun _ => carryOver s resolver source destination)
          w := by
  unfold renumberFile
  rw [perform_bind_ok (perform_isSameFile source destination w)]
  split <;> rfl

/-! ## What a stage does -/

namespace Stage

theorem ends_of_perform (stage : Stage) {r : Except Failure Tally} {w : World}
    (h : perform stage.step.run stage.before = (r, w)) :
    stage.failure? = failureOf? r ∧ stage.after = w := by
  unfold failure? after
  rw [h]
  exact ⟨rfl, rfl⟩

/-- A stage is refused at once, or prepares its output and then writes nothing else. -/
theorem perform_run (stage : Stage) (h : stage.step.destination.IsNamed) :
    (∃ f, perform stage.step.run stage.before = (.error f, stage.before)) ∨
    ∃ x : Action (StateM World) Tally, Stays (Writes stage.step.destination) x ∧
      perform stage.step.run stage.before =
        perform (prepareOutput stage.step.destination stage.step.force >>= fun _ => x)
          stage.before := by
  obtain ⟨⟨work, destination, force⟩, w⟩ := stage
  cases work with
  | report r =>
    have hwrite := (stays_writeFile h (Text.bytesOf r.report)).bind fun made =>
      (Stays.demand s!"Failed to write file: {destination.text}" Cause.fault made).bind fun _ =>
        Stays.pure ({} : Tally)
    exact .inr ⟨_, hwrite, rfl⟩
  | carry s resolver source =>
    have hperform := perform_renumberFile s resolver force source destination w
    split_ifs at hperform
    · exact .inl ⟨_, hperform⟩
    · exact .inr ⟨_, stays_carryOver s resolver source h, hperform⟩

/-- A stage makes directories and writes at the address it targets; without `force` only where nothing
was. -/
theorem becomes (stage : Stage) (h : stage.step.destination.IsNamed) :
    Becomes (fun a => stage.Targets a ∧
      (stage.step.force = true ∨ stage.before.root.kind? a = none)) stage.before stage.after := by
  unfold Targets after
  obtain ⟨f, hperform⟩ | ⟨x, hx, hperform⟩ := stage.perform_run h
  · rw [hperform]
    exact refl_of _ stage.before
  · rw [hperform]
    exact becomes_of_prepared hx stage.step.force stage.before

/-- Without `force` a stage that meets something that was there fails and writes no file. -/
theorem refuses_existing {stage : Stage} (h : stage.step.destination.IsNamed)
    (hforce : stage.step.force = false) (hmeets : stage.MeetsExisting) :
    ∃ f, stage.failure? = some f ∧ Becomes (fun _ => False) stage.before stage.after := by
  obtain ⟨a, ha, hfind⟩ := hmeets
  unfold Targets after at ha
  unfold failure? after
  obtain ⟨f, hperform⟩ | ⟨x, hx, hperform⟩ := stage.perform_run h
  · rw [hperform]
    exact ⟨f, rfl, refl_of _ stage.before⟩
  · rw [hperform, hforce] at ha
    rw [hperform, hforce]
    obtain ⟨f, w', heq, hbecomes⟩ := error_of_prepared hx ha (mt Node.kind?_eq_none_iff.1 hfind)
    rw [heq]
    exact ⟨f, rfl, hbecomes⟩

/-- With or without `force`, a header is not carried over to itself. -/
theorem refuses_source {stage : Stage} {s : Settings} {resolver : Resolver} {source : Path}
    (hwork : stage.step.work = .carry s resolver source)
    (hsame : stage.before.root.isSameFile stage.before.here source stage.step.destination) :
    stage.failure? = some
        ⟨s!"Refusing to overwrite input file: {source.text} (choose another --output)", none⟩ ∧
      stage.after = stage.before := by
  obtain ⟨⟨work, destination, force⟩, w⟩ := stage
  obtain rfl : work = .carry s resolver source := hwork
  have hperform := (perform_renumberFile s resolver force source destination w).trans (if_pos hsame)
  unfold failure? after
  dsimp only [Step.run]
  rw [hperform]
  exact ⟨rfl, rfl⟩

/-- What is there when a stage starts is there for it. -/
theorem meetsExisting_of_node? {stage : Stage} (h : stage.step.destination.IsNamed)
    (hnode : (stage.before.node? stage.step.destination).isSome) : stage.MeetsExisting := by
  obtain ⟨node, hnode⟩ := Option.isSome_iff_exists.1 hnode
  obtain ⟨a, ha, hfind⟩ := Node.node?_eq_some_iff.1 hnode
  exact ⟨a, (stage.becomes h).leadsTo ha, hfind ▸ Option.some_ne_none node⟩

end Stage

end Renumber
