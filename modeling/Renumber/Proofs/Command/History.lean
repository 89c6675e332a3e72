import Renumber.Proofs.Command.Course

/-!
# What holds along a run

Forgetting what the steps are for, the course of a run in a well-formed tree is a history: stages
whose destinations end in names, each starting where the one before it ended, and none after one
that failed (`Course.history`).
-/

namespace Renumber

open World

variable {α : Type}

/-! ## Reading changes nothing -/

theorem Stays.run_bind {R : World → World → Prop} [IsPreorder World R] {ε β : Type}
    {x : ExceptT ε (Action (StateM World)) α} {f : α → ExceptT ε (Action (StateM World)) β}
    (hx : Stays R x.run) (hf : ∀ a, Stays R (f a).run) : Stays R (x >>= f).run := by
  have hrun : (x >>= f).run = x.run >>= ExceptT.bindCont f := rfl
  rw [hrun]
  refine hx.bind fun r => ?_
  cases r with
  | ok a => exact hf a
  | error e => exact .pure _

theorem Stays.run_lift {R : World → World → Prop} [IsPreorder World R] {ε : Type}
    {x : Action (StateM World) α} (hx : Stays R x) :
    Stays R (ExceptT.lift x : ExceptT ε (Action (StateM World)) α).run := by
  rw [ExceptT.run_lift, map_eq_pure_bind]
  exact hx.bind fun _ => .pure _

theorem stays_readRevision (verbosity : Nat) (p : Path) :
    Stays SameFiles (readRevision verbosity p : ExceptT Error (Action (StateM World)) Revision).run := by
  have hnote (level : NoteLevel) (text : String) :
      Stays SameFiles (note verbosity level text : ExceptT Error (Action (StateM World)) Unit).run := by
    unfold note
    split
    · exact .run_lift fun _ => ⟨rfl, rfl⟩
    · exact .pure _
  unfold readRevision
  refine .run_bind (.run_lift (stays_readFile p)) fun read => ?_
  split
  · exact .pure _
  · refine .run_bind (hnote _ _) fun _ => .run_bind ?_ fun r => ?_
    · exact .pure _
    · exact .run_bind (hnote _ _) fun _ => .pure _

theorem stays_revisionAt (verbosity : Nat) (p : Path) :
    Stays SameFiles (revisionAt verbosity p : Action (StateM World) Revision) := by
  unfold revisionAt
  refine (stays_isFile p).bind fun found => .ite ?_ (.refuse _)
  exact (stays_readRevision verbosity p).bind fun read => .demand _ _ read

theorem stays_load (verbosity : Nat) (a : MatchArguments) : Stays SameFiles (a.load verbosity) := by
  unfold MatchArguments.load
  refine (stays_revisionAt verbosity a.previous).bind fun previous => ?_
  refine (stays_revisionAt verbosity a.current).bind fun current => ?_
  refine (stays_readPattern a.pattern).bind fun read => (Stays.demand _ _ read).bind fun pattern => ?_
  exact (stays_note _ _ _).bind fun _ => .pure _

theorem stays_headerFiles (verbosity : Nat) (input output : Path) :
    Stays SameFiles (headerFiles verbosity input output : Action (StateM World) _) := by
  unfold headerFiles
  refine (stays_isFile input).bind fun isFile => .ite ?_ ?_
  · split
    · exact .pure _
    · exact .refuse _
  · refine (stays_isDirectory input).bind fun isDirectory => .ite ?_ (.refuse _)
    refine (stays_note _ _ _).bind fun _ => ?_
    refine (stays_visibleFiles input).bind fun found => ?_
    exact (stays_note _ _ _).bind fun _ => .pure _

/-- The headers that are found in a well-formed tree are carried to paths that end in names. -/
theorem isNamed_of_headerFiles {verbosity : Nat} {input output : Path} {w w' : World}
    {pairs : List (Path × Path)} (hw : w.root.WellFormed)
    (h : perform (headerFiles verbosity input output) w = (.ok pairs, w')) :
    ∀ pair ∈ pairs, pair.2.IsNamed := by
  unfold headerFiles at h
  rw [perform_bind_ok (perform_isFile input w)] at h
  split at h
  · split at h
    · rename_i name hname
      obtain rfl := Except.ok.inj (congrArg Prod.fst h)
      intro pair hpair
      obtain rfl := List.mem_singleton.1 hpair
      refine output.join_isNamed (List.cons_ne_nil _ _) fun other hother => ?_
      exact List.mem_singleton.1 hother ▸ Path.isName_of_fileName? hname
    · cases h
  · rw [perform_bind_ok (perform_isDirectory input w)] at h
    split at h
    · rename_i hdirectory
      cases hnode : w.node? input with
      | none =>
        rw [hnode] at hdirectory
        cases hdirectory
      | some node =>
        obtain ⟨a, -, hfind⟩ := Node.node?_eq_some_iff.1 hnode
        have hisFile : node.isFile = false := by simpa [hnode] using hdirectory
        obtain ⟨w₁, hnote, hsame⟩ := perform_note verbosity .info s!"Scanning directory: {input.text}" w
        rw [perform_bind_ok hnote, perform_bind_ok (perform_visibleFiles input w₁),
          hsame.node?_eq input, hnode] at h
        obtain ⟨w₂, hnote, -⟩ := perform_note verbosity .trace
          s!"Found {node.visibleFiles.length} header file(s) in {input.text}" w₁
        obtain rfl := Except.ok.inj (congrArg Prod.fst ((perform_bind_ok hnote _).symm.trans h))
        intro pair hpair
        obtain ⟨names, hnames, rfl⟩ := List.mem_map.1 hpair
        obtain ⟨hnil, hnames⟩ := (hw.of_find? hfind).names_of_mem_visibleFiles hisFile hnames
        exact output.join_isNamed hnil hnames
    · cases h

/-! ## Histories -/

/-- Stages that follow one another with nothing done to the files in between.  Their destinations end
in names, and none comes after one that failed. -/
inductive History (force : Bool) : World → List Stage → Option Failure → World → Prop where
  | nil {w w' : World} (failure : Option Failure) (h : SameFiles w w') :
    History force w [] failure w'
  | next {w w' : World} {stage : Stage} {stages : List Stage} {failure : Option Failure}
    (hnamed : stage.step.destination.IsNamed) (hforce : stage.step.force = force)
    (hstart : SameFiles w stage.before) (hok : stage.failure? = none)
    (hrest : History force stage.after stages failure w') :
    History force w (stage :: stages) failure w'
  | halt {w w' : World} {stage : Stage} {f : Failure}
    (hnamed : stage.step.destination.IsNamed) (hforce : stage.step.force = force)
    (hstart : SameFiles w stage.before) (hfailure : stage.failure? = some f)
    (hend : SameFiles stage.after w') : History force w [stage] (some f) w'

namespace History

variable {force : Bool} {w w₁ w' : World} {stages stages' : List Stage} {failure : Option Failure}

theorem of_sameFiles (hsame : SameFiles w w₁) (h : History force w₁ stages failure w') :
    History force w stages failure w' := by
  cases h with
  | nil failure h => exact .nil failure (trans_of _ hsame h)
  | next hnamed hforce hstart hok hrest =>
    exact .next hnamed hforce (trans_of _ hsame hstart) hok hrest
  | halt hnamed hforce hstart hfailure hend =>
    exact .halt hnamed hforce (trans_of _ hsame hstart) hfailure hend

theorem append (h : History force w stages none w₁) (h' : History force w₁ stages' failure w') :
    History force w (stages ++ stages') failure w' := by
  generalize hnone : (none : Option Failure) = ended at h
  induction h with
  | nil _ h => exact h'.of_sameFiles h
  | next hnamed hforce hstart hok _ ih => exact .next hnamed hforce hstart hok (ih h' hnone)
  | halt => cases hnone

/-- What stays true in every stage stays true along a history. -/
theorem stays {R : World → World → Prop} [IsPreorder World R] (h : History force w stages failure w')
    (hsame : ∀ w w', SameFiles w w' → R w w')
    (hstage : ∀ stage ∈ stages, stage.step.destination.IsNamed → stage.step.force = force →
      R stage.before stage.after) : R w w' := by
  induction h with
  | nil _ h => exact hsame _ _ h
  | next hnamed hforce hstart _ _ ih =>
    have hfirst := hstage _ List.mem_cons_self hnamed hforce
    have hrest := ih fun stage hmem => hstage stage (List.mem_cons_of_mem _ hmem)
    exact trans_of R (hsame _ _ hstart) (trans_of R hfirst hrest)
  | halt hnamed hforce hstart _ hend =>
    have hfirst := hstage _ List.mem_cons_self hnamed hforce
    exact trans_of R (hsame _ _ hstart) (trans_of R hfirst (hsame _ _ hend))

theorem becomes (h : History force w stages failure w') : Becomes (fun _ => True) w w' :=
  h.stays (fun _ _ hsame => hsame.becomes _) fun stage _ hnamed _ =>
    (stage.becomes hnamed).mono fun _ _ => trivial

/-- A history up to a stage, the stage, and the history after it. -/
theorem split {done rest : List Stage} {stage : Stage}
    (h : History force w (done ++ stage :: rest) failure w') :
    History force w done none stage.before ∧ stage.step.destination.IsNamed ∧
      stage.step.force = force ∧ History force stage.after rest failure w' ∧
      ∀ f, stage.failure? = some f → rest = [] ∧ failure = some f := by
  induction done generalizing w with
  | nil =>
    cases h with
    | next hnamed hforce hstart hok hrest =>
      exact ⟨.nil none hstart, hnamed, hforce, hrest, fun f hf => by rw [hok] at hf; cases hf⟩
    | halt hnamed hforce hstart hfailure hend =>
      refine ⟨.nil none hstart, hnamed, hforce, .nil _ hend, fun f hf => ⟨rfl, ?_⟩⟩
      exact hfailure.symm.trans hf
  | cons first done ih =>
    generalize hstages : first :: done ++ stage :: rest = all at h
    cases h with
    | nil => cases hstages
    | next hnamed hforce hstart hok hrest =>
      obtain ⟨rfl, rfl⟩ := List.cons.inj hstages
      obtain ⟨hdone, hstage⟩ := ih hrest
      exact ⟨.next hnamed hforce hstart hok hdone, hstage⟩
    | halt => simp at hstages

end History

/-! ## The course of a run is a history -/

theorem StepsTaken.history {force : Bool} {w w' : World} {steps : List Step} {stages : List Stage}
    {failure : Option Failure} (h : StepsTaken w steps stages failure w')
    (hsteps : ∀ step ∈ steps, step.destination.IsNamed ∧ step.force = force) :
    History force w stages failure w' := by
  induction h with
  | nil h => exact .nil none h
  | next hstart hok _ ih =>
    obtain ⟨hnamed, hforce⟩ := hsteps _ List.mem_cons_self
    exact .next hnamed hforce hstart hok (ih fun step hmem => hsteps step (List.mem_cons_of_mem _ hmem))
  | halt steps hstart hfailure hend =>
    obtain ⟨hnamed, hforce⟩ := hsteps _ List.mem_cons_self
    exact .halt hnamed hforce hstart hfailure hend

section

variable {verbosity : Nat} {a : MatchArguments} {s : Settings} {previous current : Revision}
  {w w' : World} {stages : List Stage} {failure : Option Failure}

theorem HeadersTaken.history {d : Direction} {input : Path} (hw : w.root.WellFormed)
    (h : HeadersTaken verbosity a s previous current d input w stages failure w') :
    History a.force w stages failure w' := by
  cases h with
  | lost hfiles => exact .nil _ ((stays_headerFiles _ _ _).of_perform hfiles)
  | found hfiles hsteps =>
    refine (hsteps.history fun step hstep => ?_).of_sameFiles
      ((stays_headerFiles _ _ _).of_perform hfiles)
    obtain ⟨pair, hpair, rfl⟩ := List.mem_map.1 hstep
    exact ⟨isNamed_of_headerFiles hw hfiles pair hpair, rfl⟩

theorem DirectionsTaken.history {directions : List Direction} (hw : w.root.WellFormed)
    (h : DirectionsTaken verbosity a s previous current directions w stages failure w') :
    History a.force w stages failure w' := by
  induction h with
  | nil w => exact .nil none (refl_of _ w)
  | skip _ _ ih => exact ih hw
  | next _ hheaders _ ih =>
    have hfirst := hheaders.history hw
    exact hfirst.append (ih (hfirst.becomes.wellFormed hw))
  | halt _ _ hheaders => exact hheaders.history hw

end

/-- Whether files may be replaced. -/
def Task.force : Task → Bool
  | .report a => a.force
  | .carry a => a.force

theorem Task.Course.history {verbosity : Nat} {task : Task} {w w' : World} {stages : List Stage}
    {failure : Option Failure} (hw : w.root.WellFormed)
    (h : task.Course verbosity w stages failure w') : History task.force w stages failure w' := by
  cases h with
  | reportUnread hload => exact .nil _ ((stays_revisionAt _ _).of_perform hload)
  | @report a _ _ _ _ _ _ hload hsteps =>
    refine (hsteps.history fun step hstep => ?_).of_sameFiles ((stays_revisionAt _ _).of_perform hload)
    obtain rfl := List.mem_singleton.1 hstep
    have hname : IsName (Name.ofText reportName) := by decide
    refine ⟨a.output.join_isNamed (List.cons_ne_nil _ _) fun name hmem => ?_, rfl⟩
    exact List.mem_singleton.1 hmem ▸ hname
  | carryUnread hload => exact .nil _ ((stays_load _ _).of_perform hload)
  | carry hload hsteps =>
    have hsame := (stays_load _ _).of_perform hload
    exact (hsteps.history ((hsame.becomes fun _ => False).wellFormed hw)).of_sameFiles hsame

/-- The course of a run in a well-formed tree is a history, with `force` only if the command line has
it, and a failure ends the run. -/
theorem Course.history {words : List String} {w w' : World} {stages : List Stage} {exit : Exit}
    (hw : w.root.WellFormed) (h : Course words w stages exit w') :
    ∃ force failure, History force w stages failure w' ∧
      (∀ f, failure = some f → exit = .failure f) ∧
      (force = true → ∃ verbosity task, Request.ofWords? words = some (.run verbosity task) ∧
        task.force = true) := by
  cases h with
  | idle hrequest hexit hsame => exact ⟨false, none, .nil none hsame, nofun, nofun⟩
  | success hrequest htask =>
    exact ⟨_, none, htask.history hw, nofun, fun hforce => ⟨_, _, hrequest, hforce⟩⟩
  | failure hrequest htask =>
    refine ⟨_, some _, htask.history hw, fun f hf => ?_, fun hforce => ⟨_, _, hrequest, hforce⟩⟩
    rw [Option.some.inj hf]

end Renumber
