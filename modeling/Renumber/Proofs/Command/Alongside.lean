import Renumber.Proofs.Command.Transfer
import Renumber.Proofs.Files.Twins

/-!
# Actions in two worlds

An action goes alike in two worlds if it has the same outcome in both and leaves them related as they
were (`GoesAlike`).  Worlds are alongside each other if their trees are twins and the same has been shown
since they started (`World.Alongside`).  Everything that carrying headers over is made of goes alike in
such worlds, but for reading a file that may differ: so the headers must be none of these, now and whatever
becomes of the files (`World.Spares`).
-/

namespace Renumber

open World

variable {α β : Type}

/-! ## Outcomes in related worlds -/

/-- The outcome is the same in related worlds, and they stay related. -/
def GoesAlike (R : World → World → Prop) (x : Action (StateM World) α) : Prop :=
  ∀ w w', R w w' → (perform x w).1 = (perform x w').1 ∧ R (perform x w).2 (perform x w').2

namespace GoesAlike

variable {R : World → World → Prop} {x : Action (StateM World) α}

theorem pure (a : α) : GoesAlike R (Pure.pure a : Action (StateM World) α) := fun _ _ h => ⟨rfl, h⟩

theorem refuse (context : String) : GoesAlike R (Renumber.refuse context : Action (StateM World) α) :=
  fun _ _ h => ⟨rfl, h⟩

theorem demand {ε : Type} (context : String) (wrap : ε → Cause) (e : Except ε α) :
    GoesAlike R (Renumber.demand context wrap e : Action (StateM World) α) := by
  cases e with
  | ok a => exact .pure a
  | error e => exact fun _ _ h => ⟨rfl, h⟩

/-- What is asked of the world goes alike if the answer is the same. -/
theorem query {f : World → α} (hx : ∀ w, perform x w = (.ok (f w), w))
    (hf : ∀ w w', R w w' → f w = f w') : GoesAlike R x := by
  intro w w' h
  rw [hx, hx]
  exact ⟨congrArg Except.ok (hf w w' h), h⟩

theorem bind {f : α → Action (StateM World) β} (hx : GoesAlike R x) (hf : ∀ a, GoesAlike R (f a)) :
    GoesAlike R (x >>= f) := by
  intro w w' h
  obtain ⟨houtcome, hafter⟩ := hx w w' h
  rcases hperform : perform x w with ⟨outcome, w₁⟩
  rcases hperform' : perform x w' with ⟨outcome', w₁'⟩
  rw [hperform, hperform'] at houtcome hafter
  obtain rfl : outcome = outcome' := houtcome
  cases outcome with
  | error f =>
    rw [perform_bind_error hperform, perform_bind_error hperform']
    exact ⟨rfl, hafter⟩
  | ok a =>
    rw [perform_bind_ok hperform, perform_bind_ok hperform']
    exact hf a w₁ w₁' hafter

theorem composes (R : World → World → Prop) : Composes fun _ x => GoesAlike R x := ⟨pure, bind⟩

theorem ite {c : Prop} [Decidable c] {y : Action (StateM World) α} (hx : GoesAlike R x)
    (hy : GoesAlike R y) : GoesAlike R (if c then x else y) := by
  split
  · exact hx
  · exact hy

end GoesAlike

/-! ## Worlds alongside each other -/

namespace World

/-- Two worlds differ in what files hold, as far as this is `allowed`, and in what had been shown in front
of all that both have shown.  The first has come from `start`. -/
structure Alongside (allowed : List Name → List UInt8 → List UInt8 → Prop) (start : World)
    (earlier earlier' : List Output) (w w' : World) : Prop where
  twins : Node.Twins allowed w.root w'.root
  here : w'.here = w.here
  output : ∃ shown, w.output = shown ++ earlier ∧ w'.output = shown ++ earlier'
  becomes : Becomes (fun _ => True) start w
  wellFormed : w.root.WellFormed
  wellFormed' : w'.root.WellFormed

/-- Whatever becomes of the files, the path leads to none of those that may differ. -/
structure Spares (allowed : List Name → List UInt8 → List UInt8 → Prop) (w : World) (p : Path) :
    Prop where
  settled : w.Settled p
  spared : ∀ a c c', w.LeadsTo p a → ¬ allowed a c c'

namespace Alongside

variable {allowed : List Name → List UInt8 → List UInt8 → Prop} {start : World}
  {earlier earlier' : List Output} {w w' : World} (h : Alongside allowed start earlier earlier' w w')

include h

theorem nodes (p : Path) : Node.TwinNodes (w.node? p) (w'.node? p) := by
  unfold World.node?
  rw [h.here]
  exact h.twins.node?_nodes w.here p

theorem isSameFile_eq (p q : Path) :
    w.root.isSameFile w.here p q = w'.root.isSameFile w'.here p q := by
  rw [h.here]
  exact h.twins.isSameFile_eq w.here p q

theorem read_eq {p : Path} (hp : start.Spares allowed p) :
    w.root.read w.here p = w'.root.read w'.here p := by
  rw [h.here]
  exact h.twins.read_eq fun a c c' ha => hp.spared a c c' (hp.settled w h.becomes a ha)

theorem visibleFiles_eq (p : Path) :
    ((w.node? p).map Node.visibleFiles).getD [] = ((w'.node? p).map Node.visibleFiles).getD [] := by
  unfold World.node?
  rw [h.here]
  exact h.twins.visibleFiles_eq h.wellFormed h.wellFormed' w.here p

/-- The same is shown in both. -/
theorem showing (items : List Output) :
    Alongside allowed start earlier earlier' { w with output := items ++ w.output }
      { w' with output := items ++ w'.output } := by
  obtain ⟨shown, hshown, hshown'⟩ := h.output
  have hsame : SameFiles w { w with output := items ++ w.output } := ⟨rfl, rfl⟩
  exact {
    twins := h.twins
    here := h.here
    output := ⟨items ++ shown, by simp [hshown], by simp [hshown']⟩
    becomes := trans_of _ h.becomes (hsame.becomes _)
    wellFormed := h.wellFormed
    wellFormed' := h.wellFormed' }

end Alongside

end World

/-! ## The host -/

section

variable {allowed : List Name → List UInt8 → List UInt8 → Prop} {start : World}
  {earlier earlier' : List Output}

/-- What is asked of a path goes alike if it does not depend on what a file holds. -/
theorem goesAlike_ofNode {x : Action (StateM World) α} {f : Option Node → α} (p : Path)
    (hx : ∀ w, perform x w = (.ok (f (w.node? p)), w))
    (hf : ∀ node node', Node.TwinNodes node node' → f node = f node') :
    GoesAlike (Alongside allowed start earlier earlier') x :=
  .query hx fun _ _ h => hf _ _ (h.nodes p)

theorem goesAlike_isFile (p : Path) : GoesAlike (Alongside allowed start earlier earlier')
    (Host.isFile p : Action (StateM World) Bool) :=
  goesAlike_ofNode p (perform_isFile p) fun _ _ h => by cases h <;> rfl

theorem goesAlike_isDirectory (p : Path) : GoesAlike (Alongside allowed start earlier earlier')
    (Host.isDirectory p : Action (StateM World) Bool) :=
  goesAlike_ofNode p (perform_isDirectory p) fun _ _ h => by cases h <;> rfl

theorem goesAlike_isPresent (p : Path) : GoesAlike (Alongside allowed start earlier earlier')
    (Host.isPresent p : Action (StateM World) Bool) :=
  goesAlike_ofNode p (perform_isPresent p) fun _ _ h => by cases h <;> rfl

theorem goesAlike_visibleFiles (p : Path) : GoesAlike (Alongside allowed start earlier earlier')
    (Host.visibleFiles p : Action (StateM World) (List (List Name))) :=
  .query (perform_visibleFiles p) fun _ _ h => h.visibleFiles_eq p

theorem goesAlike_readFile {p : Path} (hp : start.Spares allowed p) :
    GoesAlike (Alongside allowed start earlier earlier')
      (Host.readFile p : Action (StateM World) (Except IoFault (List UInt8))) :=
  .query (perform_readFile p) fun _ _ h => h.read_eq hp

/-- A change to the files goes alike if it goes through in both of two twins or fails alike in both. -/
theorem goesAlike_change {x : Action (StateM World) (Except IoFault Unit)}
    {f : Node → List Name → Except IoFault Node}
    (hx : ∀ w, perform x w = Prod.map Except.ok id ((World.change f).run w))
    (hf : ∀ root root' here, Node.Twins allowed root root' →
      (∃ fault, f root here = .error fault ∧ f root' here = .error fault) ∨
      ∃ new new', f root here = .ok new ∧ f root' here = .ok new' ∧ Node.Twins allowed new new')
    (hstays : Stays (Becomes fun _ => True) x) :
    GoesAlike (Alongside allowed start earlier earlier') x := by
  intro w w' h
  have hrun : perform x w = _ := (hx w).trans (congrArg _ (change_run f w))
  have hrun' : perform x w' = _ := (hx w').trans (congrArg _ (change_run f w'))
  rw [h.here] at hrun'
  obtain ⟨fault, hfault, hfault'⟩ | ⟨new, new', hnew, hnew', htwins⟩ := hf _ _ w.here h.twins
  · rw [hfault] at hrun
    rw [hfault'] at hrun'
    rw [hrun, hrun']
    exact ⟨rfl, h⟩
  · rw [hnew] at hrun
    rw [hnew'] at hrun'
    have hbecomes := hstays.of_perform hrun
    have hbecomes' := hstays.of_perform hrun'
    rw [hrun, hrun']
    exact ⟨rfl, htwins, rfl, h.output, trans_of _ h.becomes hbecomes,
      hbecomes.wellFormed h.wellFormed, hbecomes'.wellFormed h.wellFormed'⟩

theorem goesAlike_makeDirectory (p : Path) : GoesAlike (Alongside allowed start earlier earlier')
    (Host.makeDirectory p : Action (StateM World) (Except IoFault Unit)) :=
  goesAlike_change (fun _ => rfl) (fun _ _ here h => h.makeDirectory here p) <|
    (stays_makeDirectory p).mono fun _ _ h => h.mono fun _ _ => trivial

theorem goesAlike_writeFile {p : Path} (hp : p.IsNamed) (contents : List UInt8) :
    GoesAlike (Alongside allowed start earlier earlier')
      (Host.writeFile p contents : Action (StateM World) (Except IoFault Unit)) :=
  goesAlike_change (fun _ => rfl) (fun _ _ here h => h.write here p contents) <|
    (stays_writeFile hp contents).mono fun _ _ h => h.becomes.mono fun _ _ => trivial

theorem goesAlike_print (line : String) : GoesAlike (Alongside allowed start earlier earlier')
    (Host.print line : Action (StateM World) Unit) :=
  fun _ _ h => ⟨rfl, h.showing [.printed line]⟩

theorem goesAlike_note (verbosity : Nat) (level : NoteLevel) (text : String) :
    GoesAlike (Alongside allowed start earlier earlier')
      (note verbosity level text : Action (StateM World) Unit) := by
  unfold note
  split
  · exact fun _ _ h => ⟨rfl, h.showing [.noted level (Text.escaped text)]⟩
  · exact .pure ()

/-! ## Preparing outputs -/

theorem goesAlike_prepareOutput (p : Path) (force : Bool) :
    GoesAlike (Alongside allowed start earlier earlier')
      (prepareOutput p force : Action (StateM World) Unit) := by
  have hmake : GoesAlike (Alongside allowed start earlier earlier') (makeAbove p) := by
    unfold makeAbove
    split
    · refine .bind ?_ fun made => .demand _ _ made
      exact (GoesAlike.composes _).makeDirectories goesAlike_makeDirectory goesAlike_isDirectory _
    · exact .pure ()
  rw [prepareOutput_eq]
  refine hmake.bind fun _ => ?_
  unfold refuseExisting
  exact (goesAlike_isPresent p).bind fun present => .ite (.refuse _) (.pure ())

/-! ## Carrying headers over -/

theorem goesAlike_headerBytes {source : Path} (h : start.Spares allowed source) :
    GoesAlike (Alongside allowed start earlier earlier')
      (headerBytes source : Action (StateM World) (List UInt8)) := by
  unfold headerBytes
  exact (goesAlike_readFile h).bind fun read => .demand _ _ read

theorem goesAlike_putHeader {destination : Path} (h : destination.IsNamed) (contents : List UInt8) :
    GoesAlike (Alongside allowed start earlier earlier')
      (putHeader destination contents : Action (StateM World) Unit) := by
  unfold putHeader
  exact (goesAlike_writeFile h contents).bind fun made => .demand _ _ made

theorem goesAlike_renumberFile (s : Settings) (resolver : Resolver) (force : Bool)
    {source destination : Path} (hsource : start.Spares allowed source)
    (hdestination : destination.IsNamed) : GoesAlike (Alongside allowed start earlier earlier')
      (renumberFile s resolver force source destination) := by
  have hcarry : GoesAlike (Alongside allowed start earlier earlier')
      (carryOver s resolver source destination) := by
    unfold carryOver
    refine (goesAlike_headerBytes hsource).bind fun _ => (goesAlike_putHeader hdestination _).bind
      fun _ => (goesAlike_headerBytes hsource).bind fun input => ?_
    exact (goesAlike_putHeader hdestination _).bind fun _ => .demand _ _ _
  intro w w' h
  rw [perform_renumberFile, perform_renumberFile, ← h.isSameFile_eq]
  split
  · exact ⟨rfl, h⟩
  · exact ((goesAlike_prepareOutput destination force).bind fun _ => hcarry) w w' h

theorem goesAlike_renumberFiles (verbosity : Nat) (s : Settings) (resolver : Resolver) (force : Bool)
    (d : Direction) (total : Tally) {pairs : List (Path × Path)}
    (hpairs : ∀ pair ∈ pairs, start.Spares allowed pair.1 ∧ pair.2.IsNamed) :
    GoesAlike (Alongside allowed start earlier earlier')
      (renumberFiles verbosity s resolver force d total pairs) := by
  induction pairs generalizing total with
  | nil => exact .pure total
  | cons pair rest ih =>
    obtain ⟨hsource, hdestination⟩ := hpairs pair List.mem_cons_self
    refine (goesAlike_note _ _ _).bind fun _ => ?_
    refine (goesAlike_renumberFile s resolver force hsource hdestination).bind fun tally => ?_
    refine (goesAlike_print _).bind fun _ => ?_
    exact ih (total + tally) fun other hother => hpairs other (List.mem_cons_of_mem _ hother)

theorem goesAlike_headerFiles (verbosity : Nat) (input output : Path) :
    GoesAlike (Alongside allowed start earlier earlier')
      (headerFiles verbosity input output : Action (StateM World) (List (Path × Path))) := by
  unfold headerFiles
  refine (goesAlike_isFile input).bind fun isFile => .ite ?_ ?_
  · split
    · exact .pure _
    · exact .refuse _
  · refine (goesAlike_isDirectory input).bind fun isDirectory => .ite ?_ (.refuse _)
    refine (goesAlike_note _ _ _).bind fun _ => (goesAlike_visibleFiles input).bind fun found => ?_
    exact (goesAlike_note _ _ _).bind fun _ => .pure _

/-- Carrying over the headers of a direction goes alike, if nothing at their address or below it may
differ. -/
theorem alongside_renumberHeaders (verbosity : Nat) (a : MatchArguments) (s : Settings)
    (previous current : Revision) (d : Direction) {input : Path} (hnil : input.segments ≠ [])
    {start' : World} (h : Alongside allowed start earlier earlier' start start')
    (hinput : ∀ a, start.LeadsTo input a → ∀ b c c', allowed b c c' → ¬ a <+: b) :
    let x : Action (StateM World) Unit := renumberHeaders verbosity a s previous current d input
    (perform x start).1 = (perform x start').1 ∧
      Alongside allowed start earlier earlier' (perform x start).2 (perform x start').2 := by
  intro x
  obtain ⟨houtcome, hafter⟩ := goesAlike_headerFiles verbosity input a.output start start' h
  rcases hperform' : perform (headerFiles verbosity input a.output) start' with ⟨outcome', w₁'⟩
  obtain ⟨pairs, notes, w₁, hfound, -, hperform⟩ | ⟨-, hperform⟩ :=
    perform_headerFiles verbosity hnil a.output start
  · rw [hperform, hperform'] at houtcome hafter
    obtain rfl : .ok pairs = outcome' := houtcome
    have hpairs : ∀ pair ∈ pairs, start.Spares allowed pair.1 ∧ pair.2.IsNamed := by
      intro pair hpair
      obtain ⟨hsettled, hnamed⟩ := hfound.settled_and_isNamed h.wellFormed pair hpair
      refine ⟨⟨hsettled, fun b c c' hb hallowed => ?_⟩, hnamed⟩
      obtain ⟨address, hleads, hbelow⟩ := hfound.below h.wellFormed pair hpair b hb
      exact hinput address hleads b c c' hallowed hbelow
    have hrest : GoesAlike (Alongside allowed start earlier earlier') (do
        let total ← renumberFiles verbosity s
          (resolve TieBreak.closest (previous.catalog d) (current.catalog d).index) a.force d {} pairs
        note verbosity .info (d.totalText total)) :=
      (goesAlike_renumberFiles _ _ _ _ _ _ hpairs).bind fun _ => goesAlike_note _ _ _
    have hx : perform x start = _ := perform_bind_ok hperform _
    have hx' : perform x start' = _ := perform_bind_ok hperform' _
    rw [hx, hx']
    exact hrest w₁ w₁' hafter
  · rw [hperform, hperform'] at houtcome hafter
    obtain rfl : .error _ = outcome' := houtcome
    have hx : perform x start = _ := perform_bind_error hperform _
    have hx' : perform x start' = _ := perform_bind_error hperform' _
    rw [hx, hx']
    exact ⟨rfl, hafter⟩

end

end Renumber
