import Mathlib.Order.RelClasses
import Renumber.Command.Run
import Renumber.Proofs.Files.Resolve

/-!
# What actions do to the files

Performing an action in a world gives an outcome and the world afterwards.  An action stays within a
relation of worlds if the world afterwards is always so related to the one before (`Stays`); for a
preorder it does when its parts do (`Stays.bind`).

Three preorders matter: nothing happens to the files (`World.SameFiles`), directories are made where
nothing was (`World.Becomes`), and only the file is written that a path leads to (`World.Writes`).
-/

namespace Renumber

variable {α β : Type}

/-! ## Performing actions -/

/-- The outcome of an action, and the world afterwards. -/
def perform (x : Action (StateM World) α) (w : World) : Except Failure α × World := x.run w

/-- How an action failed, if it did. -/
def failureOf? : Except Failure α → Option Failure
  | .ok _ => none
  | .error f => some f

theorem perform_bind (x : Action (StateM World) α) (f : α → Action (StateM World) β) (w : World) :
    perform (x >>= f) w =
      match perform x w with
      | (.ok a, w') => perform (f a) w'
      | (.error e, w') => (.error e, w') := by
  have hbind : perform (x >>= f) w = ExceptT.bindCont f (perform x w).1 (perform x w).2 := rfl
  rw [hbind]
  rcases perform x w with ⟨_ | _, _⟩ <;> rfl

theorem perform_bind_ok {x : Action (StateM World) α} {w w' : World} {a : α}
    (h : perform x w = (.ok a, w')) (f : α → Action (StateM World) β) :
    perform (x >>= f) w = perform (f a) w' := by
  rw [perform_bind, h]

theorem perform_bind_error {x : Action (StateM World) α} {w w' : World} {e : Failure}
    (h : perform x w = (.error e, w')) (f : α → Action (StateM World) β) :
    perform (x >>= f) w = (.error e, w') := by
  rw [perform_bind, h]

/-! ## Relations of worlds that actions stay within -/

/-- The world after the action is related to the one before. -/
def Stays (R : World → World → Prop) (x : Action (StateM World) α) : Prop :=
  ∀ w, R w (perform x w).2

theorem Stays.of_perform {R : World → World → Prop} {x : Action (StateM World) α} (hx : Stays R x)
    {w w' : World} {r : Except Failure α} (h : perform x w = (r, w')) : R w w' := by
  have hw := hx w
  rw [h] at hw
  exact hw

theorem Stays.ite {R : World → World → Prop} {c : Prop} [Decidable c]
    {x y : Action (StateM World) α} (hx : Stays R x) (hy : Stays R y) :
    Stays R (if c then x else y) := by
  split
  · exact hx
  · exact hy

section

variable {R : World → World → Prop} [IsPreorder World R]

theorem Stays.pure (a : α) : Stays R (Pure.pure a : Action (StateM World) α) :=
  fun w => refl_of R w

theorem Stays.refuse (context : String) : Stays R (Renumber.refuse context : Action (StateM World) α) :=
  fun w => refl_of R w

theorem Stays.demand {ε : Type} (context : String) (wrap : ε → Cause) (e : Except ε α) :
    Stays R (Renumber.demand context wrap e : Action (StateM World) α) := by
  cases e with
  | ok a => exact .pure a
  | error e => exact fun w => refl_of R w

theorem Stays.bind {x : Action (StateM World) α} {f : α → Action (StateM World) β} (hx : Stays R x)
    (hf : ∀ a, Stays R (f a)) : Stays R (x >>= f) := by
  intro w
  rcases hperform : perform x w with ⟨e | a, w'⟩
  · rw [perform_bind_error hperform]
    exact hx.of_perform hperform
  · rw [perform_bind_ok hperform]
    exact trans_of R (hx.of_perform hperform) (hf a w')

end

namespace World

/-- Nothing happens to the files. -/
def SameFiles (w w' : World) : Prop := w'.root = w.root ∧ w'.here = w.here

instance : IsPreorder World SameFiles where
  refl _ := ⟨rfl, rfl⟩
  trans _ _ _ h h' := ⟨h'.1.trans h.1, h'.2.trans h.2⟩

theorem SameFiles.node?_eq {w w' : World} (h : SameFiles w w') (p : Path) :
    w'.node? p = w.node? p := by
  unfold World.node?
  rw [h.1, h.2]

/-- Directories are made where nothing was, and files are written at the addresses in `P`. -/
structure Becomes (P : List Name → Prop) (w w' : World) : Prop where
  root : w.root.Becomes P w'.root
  here : w'.here = w.here
  wellFormed : w.root.WellFormed → w'.root.WellFormed

instance (P : List Name → Prop) : IsPreorder World (Becomes P) where
  refl w := ⟨.refl P w.root, rfl, id⟩
  trans _ _ _ h h' := ⟨h.root.trans h'.root, h'.here.trans h.here, h'.wellFormed ∘ h.wellFormed⟩

theorem Becomes.mono {P Q : List Name → Prop} {w w' : World} (himp : ∀ a, P a → Q a)
    (h : Becomes P w w') : Becomes Q w w' :=
  ⟨h.root.mono himp, h.here, h.wellFormed⟩

theorem SameFiles.becomes {w w' : World} (h : SameFiles w w') (P : List Name → Prop) :
    Becomes P w w' := by
  obtain ⟨hroot, hhere⟩ := h
  exact ⟨hroot ▸ .refl P w.root, hhere, fun hw => hroot ▸ hw⟩

/-- The address that a path leads to. -/
def LeadsTo (w : World) (p : Path) (a : List Name) : Prop := w.root.locate w.here p = .ok a

theorem Becomes.leadsTo {P : List Name → Prop} {w w' : World} (h : Becomes P w w') {p : Path}
    {a : List Name} (hp : w.LeadsTo p a) : w'.LeadsTo p a := by
  unfold LeadsTo
  rw [h.here]
  exact h.root.locate hp

/-- Only the file is written that a path leads to afterwards.  If it was there before, the path led to
it. -/
structure Writes (p : Path) (w w' : World) : Prop where
  becomes : Becomes (w'.LeadsTo p) w w'
  led : ∀ a, w'.LeadsTo p a → w.root.kind? a ≠ none → w.LeadsTo p a

instance (p : Path) : IsPreorder World (Writes p) where
  refl w := ⟨refl_of _ w, fun _ ha _ => ha⟩
  trans _ _ _ h h' := by
    refine ⟨trans_of _ (h.becomes.mono fun _ => h'.becomes.leadsTo) h'.becomes, fun a ha hkind => ?_⟩
    exact h.led a (h'.led a ha (h.becomes.root.kind?_ne_none hkind)) hkind

theorem SameFiles.writes {w w' : World} (h : SameFiles w w') (p : Path) : Writes p w w' := by
  refine ⟨h.becomes _, fun a ha _ => ?_⟩
  unfold LeadsTo at ha ⊢
  rwa [h.1, h.2] at ha

end World

open World

theorem Stays.mono {R S : World → World → Prop} {x : Action (StateM World) α} (h : Stays R x)
    (himp : ∀ w w', R w w' → S w w') : Stays S x :=
  fun w => himp _ _ (h w)

/-! ## The host -/

theorem perform_isFile (p : Path) (w : World) :
    perform (Host.isFile p : Action (StateM World) Bool) w =
      (.ok ((w.node? p).any Node.isFile), w) := rfl

theorem perform_isDirectory (p : Path) (w : World) :
    perform (Host.isDirectory p : Action (StateM World) Bool) w =
      (.ok ((w.node? p).any (!·.isFile)), w) := rfl

theorem perform_isPresent (p : Path) (w : World) :
    perform (Host.isPresent p : Action (StateM World) Bool) w = (.ok (w.node? p).isSome, w) := rfl

theorem perform_isSameFile (p q : Path) (w : World) :
    perform (Host.isSameFile p q : Action (StateM World) Bool) w =
      (.ok (w.root.isSameFile w.here p q), w) := rfl

theorem perform_visibleFiles (p : Path) (w : World) :
    perform (Host.visibleFiles p : Action (StateM World) (List (List Name))) w =
      (.ok (((w.node? p).map Node.visibleFiles).getD []), w) := rfl

theorem perform_readPattern (text : String) (w : World) :
    perform (Host.readPattern text : Action (StateM World) (Except Error Pattern)) w =
      (.ok (w.readPattern text), w) := rfl

theorem stays_isFile (p : Path) :
    Stays SameFiles (Host.isFile p : Action (StateM World) Bool) := fun w => refl_of SameFiles w

theorem stays_isDirectory (p : Path) :
    Stays SameFiles (Host.isDirectory p : Action (StateM World) Bool) :=
  fun w => refl_of SameFiles w

theorem stays_readFile (p : Path) :
    Stays SameFiles (Host.readFile p : Action (StateM World) (Except IoFault (List UInt8))) :=
  fun w => refl_of SameFiles w

theorem stays_readPattern (text : String) :
    Stays SameFiles (Host.readPattern text : Action (StateM World) (Except Error Pattern)) :=
  fun w => refl_of SameFiles w

theorem stays_visibleFiles (p : Path) :
    Stays SameFiles (Host.visibleFiles p : Action (StateM World) (List (List Name))) :=
  fun w => refl_of SameFiles w

theorem perform_readFile (p : Path) (w : World) :
    perform (Host.readFile p : Action (StateM World) (Except IoFault (List UInt8))) w =
      (.ok (w.root.read w.here p), w) := rfl

theorem perform_print (line : String) (w : World) :
    ∃ w', perform (Host.print line : Action (StateM World) Unit) w = (.ok (), w') ∧ SameFiles w w' :=
  ⟨_, rfl, rfl, rfl⟩

theorem perform_note (verbosity : Nat) (level : NoteLevel) (text : String) (w : World) :
    ∃ w', perform (note verbosity level text : Action (StateM World) Unit) w = (.ok (), w') ∧
      SameFiles w w' := by
  unfold note
  split
  · exact ⟨_, rfl, rfl, rfl⟩
  · exact ⟨w, rfl, rfl, rfl⟩

theorem stays_note (verbosity : Nat) (level : NoteLevel) (text : String) :
    Stays SameFiles (note verbosity level text : Action (StateM World) Unit) := by
  intro w
  obtain ⟨w', hnote, hsame⟩ := perform_note verbosity level text w
  rw [hnote]
  exact hsame

theorem change_run (f : Node → List Name → Except IoFault Node) (w : World) :
    (World.change f).run w =
      match f w.root w.here with
      | .ok root => (.ok (), { w with root })
      | .error fault => (.error fault, w) := by
  unfold World.change
  cases h : f w.root w.here <;> simp [h] <;> rfl

theorem perform_writeFile (p : Path) (contents : List UInt8) (w : World) :
    perform (Host.writeFile p contents : Action (StateM World) (Except IoFault Unit)) w =
      match w.root.write w.here p contents with
      | .ok root => (.ok (.ok ()), { w with root })
      | .error fault => (.ok (.error fault), w) := by
  have hchange : perform (Host.writeFile p contents : Action (StateM World) _) w =
      Prod.map Except.ok id ((World.change fun root here => root.write here p contents).run w) := rfl
  rw [hchange, change_run]
  cases w.root.write w.here p contents <;> rfl

theorem stays_makeDirectory (p : Path) :
    Stays (Becomes fun _ => False)
      (Host.makeDirectory p : Action (StateM World) (Except IoFault Unit)) := by
  intro w
  change Becomes _ w ((World.change fun root here => root.makeDirectory here p).run w).2
  rw [change_run]
  split
  · rename_i root hroot
    obtain ⟨hbecomes, hwellFormed⟩ := Node.makeDirectory_becomes hroot
    exact ⟨hbecomes, rfl, hwellFormed⟩
  · exact refl_of _ w

theorem stays_writeFile {p : Path} (hp : p.IsNamed) (contents : List UInt8) :
    Stays (Writes p) (Host.writeFile p contents : Action (StateM World) (Except IoFault Unit)) := by
  intro w
  change Writes p w ((World.change fun root here => root.write here p contents).run w).2
  rw [change_run]
  split
  · rename_i root hroot
    obtain ⟨address, hleads, -, hled, hbecomes, hwellFormed⟩ := Node.write_becomes hp hroot
    refine ⟨⟨hbecomes.mono ?_, rfl, hwellFormed⟩, fun a ha hkind => ?_⟩
    · rintro a rfl
      exact hleads
    · obtain rfl : a = address := Except.ok.inj (ha.symm.trans hleads)
      exact hled hkind
  · exact refl_of _ w

/-! ## Preparing outputs -/

/-- A property of actions that a whole has if its parts have it. -/
structure Composes (C : (α : Type) → Action (StateM World) α → Prop) : Prop where
  pure {α : Type} (a : α) : C α (Pure.pure a)
  bind {α β : Type} {x : Action (StateM World) α} {f : α → Action (StateM World) β} (hx : C α x)
    (hf : ∀ a, C β (f a)) : C β (x >>= f)

/-- Making the directories of a lineage has the properties that making one and looking for one have. -/
theorem Composes.makeDirectories {C : (α : Type) → Action (StateM World) α → Prop} (hC : Composes C)
    (hmake : ∀ p, C (Except IoFault Unit) (Host.makeDirectory p))
    (hfound : ∀ p, C Bool (Host.isDirectory p)) (lineage : List Path) :
    C (Except IoFault Unit) (Renumber.makeDirectories lineage) := by
  have hsettled : ∀ p fault, C (Except IoFault Unit) (makeDirectories.settled p fault) := by
    intro p fault
    refine hC.bind (hfound p) fun found => ?_
    split
    · exact hC.pure _
    · exact hC.pure _
  induction lineage with
  | nil => exact hC.pure _
  | cons p above ih =>
    refine hC.bind (hmake p) fun made => ?_
    split
    · exact hC.pure _
    · refine hC.bind ih fun madeAbove => ?_
      split
      · exact hC.pure _
      · refine hC.bind (hmake p) fun madeAgain => ?_
        split
        · exact hC.pure _
        · exact hsettled p _
    · exact hsettled p _

theorem Stays.composes (R : World → World → Prop) [IsPreorder World R] :
    Composes fun _ x => Stays R x :=
  ⟨.pure, .bind⟩

/-- Makes the directories above a path. -/
def makeAbove (p : Path) : Action (StateM World) Unit :=
  match p.parent? with
  | some parent => do
    demand s!"Failed to create directory: {parent.text}" Cause.fault
      (← makeDirectories parent.ancestors)
  | none => pure ()

/-- Refuses to replace what is there without `force`. -/
def refuseExisting (p : Path) (force : Bool) : Action (StateM World) Unit := do
  if (← Host.isPresent p) && !force then
    refuse s!"File already exists: {p.text} (use --force to overwrite)"

theorem prepareOutput_eq (p : Path) (force : Bool) :
    (prepareOutput p force : Action (StateM World) Unit) =
      makeAbove p >>= fun _ => refuseExisting p force := by
  unfold prepareOutput makeAbove
  cases p.parent? with
  | none => rfl
  | some parent =>
    rw [bind_assoc]
    rfl

theorem Stays.makeAbove {R : World → World → Prop} [IsPreorder World R]
    (hmake : ∀ p, Stays R (Host.makeDirectory p : Action (StateM World) (Except IoFault Unit)))
    (p : Path) : Stays R (Renumber.makeAbove p) := by
  unfold Renumber.makeAbove
  split
  · have hfound (p : Path) : Stays R (Host.isDirectory p : Action (StateM World) Bool) :=
      fun w => refl_of R w
    exact ((composes R).makeDirectories hmake hfound _).bind fun made => .demand _ _ made
  · exact .pure ()

/-- Directories are made, and nothing else happens to the files. -/
theorem stays_makeAbove (p : Path) : Stays (Becomes fun _ => False) (makeAbove p) :=
  .makeAbove stays_makeDirectory p

theorem perform_refuseExisting (p : Path) (force : Bool) (w : World) :
    perform (refuseExisting p force) w =
      if (w.node? p).isSome && !force then
        (.error ⟨s!"File already exists: {p.text} (use --force to overwrite)", none⟩, w)
      else (.ok (), w) := by
  unfold refuseExisting
  rw [perform_bind_ok (perform_isPresent p w)]
  split <;> rfl

theorem stays_prepareOutput (p : Path) (force : Bool) :
    Stays (Becomes fun _ => False) (prepareOutput p force : Action (StateM World) Unit) := by
  rw [prepareOutput_eq]
  refine (stays_makeAbove p).bind fun _ w => ?_
  rw [perform_refuseExisting]
  split <;> exact refl_of _ w

/-- An output is prepared without `force` only if nothing is there. -/
theorem prepareOutput_eq_ok {p : Path} {w w' : World}
    (h : perform (prepareOutput p false) w = (.ok (), w')) : w'.node? p = none := by
  rw [prepareOutput_eq] at h
  rcases hmake : perform (makeAbove p) w with ⟨f | _, w₁⟩
  · rw [perform_bind_error hmake] at h
    cases h
  · rw [perform_bind_ok hmake, perform_refuseExisting] at h
    cases hnode : w₁.node? p with
    | some node =>
      rw [hnode] at h
      cases h
    | none =>
      rw [hnode] at h
      obtain ⟨-, rfl⟩ := Prod.mk.inj h
      exact hnode

end Renumber
