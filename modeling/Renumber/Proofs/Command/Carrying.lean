import Renumber.Proofs.Command.Stage

/-!
# How carrying a header over ends

Without `--force` there are three ends (`Carriage`).  A header is carried over to an output where
nothing was; or its lines stop the run, and the output holds what became of the lines before; or it is
refused, for one of the reasons in `Refusal`, and no file is written.

The header is the same before and after (`Delivers.read_after`), if its path does not come to lead
somewhere when directories are made (`World.Settled`).
-/

namespace Renumber

open World

/-! ## Ends -/

/-- The path leads nowhere new if directories are made and files are written. -/
def World.Settled (w : World) (p : Path) : Prop :=
  ∀ w', Becomes (fun _ => True) w w' → ∀ a, w'.LeadsTo p a → w.LeadsTo p a

/-- From one world to another, an output is written at an address where nothing was, and nothing else. -/
structure Delivers (source destination : Path) (input contents : List UInt8) (address : List Name)
    (w w' : World) : Prop where
  read : w.root.read w.here source = .ok input
  absent : w.node? destination = none
  free : w.root.find? address = none
  leads : w'.LeadsTo destination address
  holds : w'.root.find? address = some (.file contents)
  becomes : Becomes (· = address) w w'

/-- Why a header is not carried over to its output. -/
inductive Refusal (source destination : Path) (w w' : World) : Failure → Prop
  | ownSource (h : w.root.isSameFile w.here source destination = true) :
    Refusal source destination w w'
      ⟨s!"Refusing to overwrite input file: {source.text} (choose another --output)", none⟩
  | noDirectory {parent : Path} {fault : IoFault} (hparent : destination.parent? = some parent)
    (h : (perform (makeDirectories parent.ancestors) w).1 = .ok (.error fault)) :
    Refusal source destination w w'
      ⟨s!"Failed to create directory: {parent.text}", some (.fault fault)⟩
  | existing (h : (w'.node? destination).isSome = true) :
    Refusal source destination w w'
      ⟨s!"File already exists: {destination.text} (use --force to overwrite)", none⟩
  | unreadable {fault : IoFault} (h : w'.root.read w'.here source = .error fault) :
    Refusal source destination w w'
      ⟨s!"Failed to open input file: {source.text}", some (.fault fault)⟩
  | uncreatable {fault : IoFault} (h : w'.root.write w'.here destination [] = .error fault) :
    Refusal source destination w w'
      ⟨s!"Failed to create file: {destination.text}", some (.fault fault)⟩

/-- How carrying a header over ends, from one world to another. -/
inductive Carriage (s : Settings) (resolver : Resolver) (source destination : Path) (w w' : World) :
    Except Failure Tally → Prop
  | completed {input : List UInt8} {address : List Name} {sink : Sink} {tally : Tally}
    (hrun : renumber s resolver input {} = (sink, .ok tally))
    (h : Delivers source destination input sink.contents address w w') :
    Carriage s resolver source destination w w' (.ok tally)
  | broken {input : List UInt8} {address : List Name} {sink : Sink} {e : Error}
    (hrun : renumber s resolver input {} = (sink, .error e))
    (h : Delivers source destination input sink.contents address w w') :
    Carriage s resolver source destination w w'
      (.error ⟨s!"Failed to patch {source.text}", some (.error e)⟩)
  | refused {f : Failure} (hreason : Refusal source destination w w' f)
    (h : Becomes (fun _ => False) w w') :
    Carriage s resolver source destination w w' (.error f)

/-! ## Reading and writing -/

theorem World.LeadsTo.eq {w : World} {p : Path} {a b : List Name} (ha : w.LeadsTo p a)
    (hb : w.LeadsTo p b) : a = b :=
  Except.ok.inj (ha.symm.trans hb)

/-- A path that leads somewhere leads there for good. -/
theorem World.LeadsTo.settled {w : World} {p : Path} {a : List Name} (ha : w.LeadsTo p a) :
    w.Settled p := by
  intro w' h b hb
  rwa [hb.eq (h.leadsTo ha)]

theorem World.Settled.of_becomes {P : List Name → Prop} {w w' : World} {p : Path}
    (hp : w.Settled p) (h : Becomes P w w') : w'.Settled p := by
  intro w'' h' a ha
  have hall : Becomes (fun _ => True) w w' := h.mono fun _ _ => trivial
  exact h.leadsTo (hp w'' (trans_of _ hall h') a ha)

theorem World.Settled.of_sameFiles {w w' : World} {p : Path} (hp : w.Settled p)
    (h : SameFiles w w') : w'.Settled p :=
  hp.of_becomes (h.becomes fun _ => False)

/-- A file that is not written is read as before, and was read as it is now. -/
theorem World.Settled.read_iff {P : List Name → Prop} {w w' : World} {p : Path}
    (hp : w.Settled p) (h : Becomes P w w') (hnot : ∀ a, P a → ¬ w.LeadsTo p a)
    {contents : List UInt8} :
    w'.root.read w'.here p = .ok contents ↔ w.root.read w.here p = .ok contents := by
  rw [Node.read_eq_ok_iff, Node.read_eq_ok_iff]
  constructor
  · rintro ⟨a, ha, hfind⟩
    have hleads := hp w' (h.mono fun _ _ => trivial) a ha
    refine ⟨a, hleads, ?_⟩
    rw [← Node.kind?_eq_file_iff] at hfind ⊢
    obtain heq | ⟨-, heq⟩ := (h.root a).of_not_allowed fun hmem => hnot a hmem hleads
    · exact heq.symm.trans hfind
    · rw [heq] at hfind
      cases hfind
  · rintro ⟨a, ha, hfind⟩
    exact ⟨a, h.leadsTo ha, h.root.find?_eq_file (fun hmem => hnot a hmem ha) hfind⟩

/-- No file is read where nothing is. -/
theorem not_leadsTo_of_read {w : World} {p : Path} {contents : List UInt8} {a : List Name}
    (hread : w.root.read w.here p = .ok contents) (ha : w.root.find? a = none) :
    ¬ w.LeadsTo p a := by
  intro hleads
  obtain ⟨b, hb, hfind⟩ := Node.read_eq_ok_iff.1 hread
  rw [hleads.eq hb, hfind] at ha
  cases ha

/-- What is not there afterwards was not there before. -/
theorem World.Becomes.find?_eq_none {P : List Name → Prop} {w w' : World} (h : Becomes P w w')
    {a : List Name} (ha : w'.root.find? a = none) : w.root.find? a = none := by
  rw [← Node.kind?_eq_none_iff] at ha ⊢
  by_contra hkind
  exact h.root.kind?_ne_none hkind ha

theorem World.Becomes.node?_eq_none {P : List Name → Prop} {w w' : World} (h : Becomes P w w')
    {p : Path} (hp : w'.node? p = none) : w.node? p = none := by
  by_contra hnode
  obtain ⟨node, hnode⟩ := Option.ne_none_iff_exists'.1 hnode
  obtain ⟨a, ha, hfind⟩ := Node.node?_eq_some_iff.1 hnode
  cases hfind' : w'.root.find? a with
  | none =>
    rw [h.find?_eq_none hfind'] at hfind
    cases hfind
  | some node' =>
    rw [World.node?, Node.node?_eq_some_iff.2 ⟨a, h.leadsTo ha, hfind'⟩] at hp
    cases hp

/-! ## Making directories

The action that makes directories does not fail of itself; it gives the fault, if there is one. -/

/-- The action does not fail. -/
def GoesThrough {α : Type} (x : Action (StateM World) α) : Prop :=
  ∀ w, ∃ a w', perform x w = (.ok a, w')

theorem GoesThrough.pure {α : Type} (a : α) : GoesThrough (Pure.pure a : Action (StateM World) α) :=
  fun w => ⟨a, w, rfl⟩

theorem GoesThrough.bind {α β : Type} {x : Action (StateM World) α}
    {f : α → Action (StateM World) β} (hx : GoesThrough x) (hf : ∀ a, GoesThrough (f a)) :
    GoesThrough (x >>= f) := by
  intro w
  obtain ⟨a, w₁, hperform⟩ := hx w
  rw [perform_bind_ok hperform]
  exact hf a w₁

theorem GoesThrough.composes : Composes fun _ x => GoesThrough x := ⟨.pure, .bind⟩

theorem goesThrough_makeDirectories (lineage : List Path) :
    GoesThrough (makeDirectories lineage : Action (StateM World) (Except IoFault Unit)) :=
  GoesThrough.composes.makeDirectories (fun _ _ => ⟨_, _, rfl⟩) (fun _ _ => ⟨_, _, rfl⟩) lineage

theorem makeAbove_eq_error {p : Path} {w w' : World} {f : Failure}
    (h : perform (makeAbove p) w = (.error f, w')) :
    ∃ parent fault, p.parent? = some parent ∧
      (perform (makeDirectories parent.ancestors) w).1 = .ok (.error fault) ∧
      f = ⟨s!"Failed to create directory: {parent.text}", some (.fault fault)⟩ := by
  unfold makeAbove at h
  split at h
  · rename_i parent hparent
    obtain ⟨made, w₁, hmade⟩ := goesThrough_makeDirectories parent.ancestors w
    rw [perform_bind_ok hmade] at h
    cases made with
    | ok => cases h
    | error fault =>
      refine ⟨parent, fault, hparent, by rw [hmade], ?_⟩
      exact (Except.error.inj (Prod.mk.inj h).1).symm
  · cases h

theorem perform_headerBytes (source : Path) (w : World) :
    perform (headerBytes source : Action (StateM World) (List UInt8)) w =
      match w.root.read w.here source with
      | .ok bytes => (.ok bytes, w)
      | .error fault =>
        (.error ⟨s!"Failed to open input file: {source.text}", some (.fault fault)⟩, w) := by
  unfold headerBytes
  rw [perform_bind_ok (perform_readFile source w)]
  cases w.root.read w.here source <;> rfl

theorem perform_putHeader (destination : Path) (contents : List UInt8) (w : World) :
    perform (putHeader destination contents : Action (StateM World) Unit) w =
      match w.root.write w.here destination contents with
      | .ok root => (.ok (), { w with root })
      | .error fault =>
        (.error ⟨s!"Failed to create file: {destination.text}", some (.fault fault)⟩, w) := by
  unfold putHeader
  rw [perform_bind, perform_writeFile]
  cases w.root.write w.here destination contents <;> rfl

/-- An output that is written where nothing was can be written again, and nothing else changes. -/
theorem exists_rewrite {w : World} {destination : Path} {contents : List UInt8} {root : Node}
    (hnamed : destination.IsNamed) (habsent : w.node? destination = none)
    (h : w.root.write w.here destination contents = .ok root) (contents' : List UInt8) :
    ∃ root' address, root.write w.here destination contents' = .ok root' ∧
      w.root.find? address = none ∧
      ({ w with root := root' } : World).LeadsTo destination address ∧
      root'.find? address = some (.file contents') ∧
      Becomes (· = address) w { w with root } ∧ Becomes (· = address) w { w with root := root' } := by
  obtain ⟨address, hleads, -, hled, hbecomes, hwellFormed⟩ := Node.write_becomes hnamed h
  obtain ⟨root', h'⟩ := Node.write_again hnamed h contents'
  obtain ⟨address', hleads', hfind, -, hbecomes', hwellFormed'⟩ := Node.write_becomes hnamed h'
  obtain rfl : address = address' := Except.ok.inj ((hbecomes'.locate hleads).symm.trans hleads')
  have hfree : w.root.find? address = none := by
    by_contra hkind
    obtain ⟨node, hnode⟩ := Option.ne_none_iff_exists'.1 hkind
    have hpresent := Node.node?_eq_some_iff.2
      ⟨address, hled (mt Node.kind?_eq_none_iff.1 hkind), hnode⟩
    rw [World.node?, hpresent] at habsent
    cases habsent
  exact ⟨root', address, h', hfree, hleads', hfind, ⟨hbecomes, rfl, hwellFormed⟩,
    ⟨hbecomes.trans hbecomes', rfl, hwellFormed' ∘ hwellFormed⟩⟩

/-- The header is the same after it has been carried over. -/
theorem Delivers.read_after {source destination : Path} {input contents : List UInt8}
    {address : List Name} {w w' : World}
    (h : Delivers source destination input contents address w w') (hsource : w.Settled source) :
    w'.root.read w'.here source = .ok input := by
  refine (hsource.read_iff h.becomes ?_).2 h.read
  rintro a rfl
  exact not_leadsTo_of_read h.read h.free

/-! ## Nothing is shown -/

namespace World

/-- Nothing is printed or noted. -/
def SameOutput (w w' : World) : Prop := w'.output = w.output

instance : IsPreorder World SameOutput where
  refl _ := rfl
  trans _ _ _ h h' := h'.trans h

end World

theorem sameOutput_makeDirectory (p : Path) :
    Stays SameOutput (Host.makeDirectory p : Action (StateM World) (Except IoFault Unit)) := by
  intro w
  change SameOutput w ((World.change fun root here => root.makeDirectory here p).run w).2
  rw [change_run]
  split <;> rfl

/-! ## Carrying over -/

section

variable {s : Settings} {resolver : Resolver} {source destination : Path} {w w₁ w' : World}
  {r : Except Failure Tally} (hnamed : destination.IsNamed) (hsource : w.Settled source)

include hnamed hsource

/-- An output that is not there once the directories above it are made, and that is then made empty, can
be written as a whole, and the header is still what it was. -/
theorem exists_delivers (hmade : Becomes (fun _ => False) w w₁)
    (habsent : w₁.node? destination = none) {input : List UInt8}
    (hread : w₁.root.read w₁.here source = .ok input) {root : Node}
    (hwrite : w₁.root.write w₁.here destination [] = .ok root) (contents : List UInt8) :
    ∃ root' address, root.read w₁.here source = .ok input ∧
      root.write w₁.here destination contents = .ok root' ∧
      Delivers source destination input contents address w { w₁ with root := root' } := by
  obtain ⟨root', address, hrewrite, hfree, hleads, hholds, hbecomes, hbecomes'⟩ :=
    exists_rewrite hnamed habsent hwrite contents
  -- the input is not the output: at the address of the output nothing was
  have hother : ∀ a, a = address → ¬ w₁.LeadsTo source a := by
    rintro a rfl
    exact not_leadsTo_of_read hread hfree
  have hsource₁ := hsource.of_becomes hmade
  refine ⟨root', address, (hsource₁.read_iff hbecomes hother).2 hread, hrewrite, ?_⟩
  exact {
    read := (hsource.read_iff hmade fun _ hfalse => hfalse.elim).1 hread
    absent := hmade.node?_eq_none habsent
    free := hmade.find?_eq_none hfree
    leads := hleads
    holds := hholds
    becomes := trans_of _ (hmade.mono fun _ hfalse => hfalse.elim) hbecomes' }

/-- Carrying over to an output that is not there once the directories above it are made. -/
theorem carriage_of_carryOver (hmade : Becomes (fun _ => False) w w₁)
    (habsent : w₁.node? destination = none)
    (h : perform (carryOver s resolver source destination) w₁ = (r, w')) :
    Carriage s resolver source destination w w' r ∧ SameOutput w₁ w' := by
  unfold carryOver at h
  rw [perform_bind, perform_headerBytes] at h
  cases hread : w₁.root.read w₁.here source with
  | error fault =>
    rw [hread] at h
    obtain ⟨rfl, rfl⟩ := Prod.mk.inj h
    exact ⟨.refused (.unreadable hread) hmade, rfl⟩
  | ok input =>
    rw [hread] at h
    dsimp only at h
    rw [perform_bind, perform_putHeader] at h
    cases hwrite : w₁.root.write w₁.here destination [] with
    | error fault =>
      rw [hwrite] at h
      obtain ⟨rfl, rfl⟩ := Prod.mk.inj h
      exact ⟨.refused (.uncreatable hwrite) hmade, rfl⟩
    | ok root =>
      rcases hrun : renumber s resolver input {} with ⟨sink, outcome⟩
      obtain ⟨root', address, hreread, hrewrite, hdelivers⟩ :=
        exists_delivers hnamed hsource hmade habsent hread hwrite sink.contents
      rw [hwrite] at h
      dsimp only at h
      rw [perform_bind, perform_headerBytes, hreread] at h
      dsimp only at h
      rw [hrun] at h
      dsimp only at h
      rw [perform_bind, perform_putHeader, hrewrite] at h
      cases outcome with
      | error e =>
        obtain ⟨rfl, rfl⟩ := Prod.mk.inj h
        exact ⟨.broken hrun hdelivers, rfl⟩
      | ok tally =>
        obtain ⟨rfl, rfl⟩ := Prod.mk.inj h
        exact ⟨.completed hrun hdelivers, rfl⟩

/-- Carrying over without `--force` completes, breaks off or is refused, and shows nothing. -/
theorem carriage_of_renumberFile
    (h : perform (renumberFile s resolver false source destination) w = (r, w')) :
    Carriage s resolver source destination w w' r ∧ SameOutput w w' := by
  rw [perform_renumberFile] at h
  split at h
  · rename_i hsame
    obtain ⟨rfl, rfl⟩ := Prod.mk.inj h
    exact ⟨.refused (.ownSource hsame) (refl_of _ w), rfl⟩
  rw [prepareOutput_eq, bind_assoc] at h
  rcases hmake : perform (makeAbove destination) w with ⟨outcome, w₁⟩
  have hmade := (stays_makeAbove destination).of_perform hmake
  have hshown := (Stays.makeAbove sameOutput_makeDirectory destination).of_perform hmake
  cases outcome with
  | error f =>
    rw [perform_bind_error hmake] at h
    obtain ⟨rfl, rfl⟩ := Prod.mk.inj h
    obtain ⟨parent, fault, hparent, hfault, rfl⟩ := makeAbove_eq_error hmake
    exact ⟨.refused (.noDirectory hparent hfault) hmade, hshown⟩
  | ok =>
    rw [perform_bind_ok hmake, perform_bind, perform_refuseExisting] at h
    cases hnode : w₁.node? destination with
    | some node =>
      rw [hnode] at h
      obtain ⟨rfl, rfl⟩ := Prod.mk.inj h
      exact ⟨.refused (.existing (by rw [hnode]; rfl)) hmade, hshown⟩
    | none =>
      rw [hnode] at h
      obtain ⟨hcarriage, hshown'⟩ := carriage_of_carryOver hnamed hsource hmade hnode h
      exact ⟨hcarriage, trans_of _ hshown hshown'⟩

end

end Renumber
