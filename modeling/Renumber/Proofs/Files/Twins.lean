import Renumber.Proofs.Files.Resolve
import Renumber.Proofs.Files.Walk

/-!
# Trees that differ in what some files hold

Two trees are twins if the same is at every address, but for some files that may hold other bytes in
one than in the other (`Node.Twins`).  Every path leads to the same address in both, or fails alike
(`Node.Twins.locate_eq`), and a walk finds the same files.  Reading a file shows the difference, if
it is one of those.  Making a directory and writing a file goes through in both or fails alike in both,
and leaves twins (`Node.Twins.makeDirectory`, `Node.Twins.write`).
-/

namespace Renumber.Node

/-- The same is at every address, or there are files that hold what is `allowed` at this address. -/
def Twins (allowed : List Name → List UInt8 → List UInt8 → Prop) (root root' : Node) : Prop :=
  ∀ a, root.kind? a = root'.kind? a ∨
    ∃ c c', allowed a c c' ∧ root.kind? a = some (.file c) ∧ root'.kind? a = some (.file c')

/-- What twins may have at an address. -/
inductive TwinNodes : Option Node → Option Node → Prop
  | absent : TwinNodes none none
  | directory (entries entries' : List (Name × Node)) :
    TwinNodes (some (directory entries)) (some (directory entries'))
  | file (c c' : List UInt8) : TwinNodes (some (file c)) (some (file c'))

theorem kind?_append {root node : Node} {a : List Name} (h : root.find? a = some node)
    (b : List Name) : root.kind? (a ++ b) = node.kind? b := by
  unfold kind?
  rw [find?_append, h, Option.bind_some]

namespace Twins

variable {allowed : List Name → List UInt8 → List UInt8 → Prop} {root root' : Node}
  (h : Twins allowed root root')

include h

theorem nodes (a : List Name) : TwinNodes (root.find? a) (root'.find? a) := by
  have ha := h a
  unfold kind? at ha
  rcases hfind : root.find? a with _ | (c | entries) <;>
    rcases hfind' : root'.find? a with _ | (c' | entries') <;>
    simp only [hfind, hfind', Option.map_none, Option.map_some, kind, Option.some.injEq, reduceCtorEq,
      and_false, false_and, exists_false, or_false] at ha
  · exact .absent
  · exact .file c c'
  · exact .directory entries entries'

theorem kind?_eq_directory_iff (a : List Name) :
    root.kind? a = some .directory ↔ root'.kind? a = some .directory := by
  have ha := h.nodes a
  unfold kind?
  generalize root.find? a = node, root'.find? a = node' at ha
  cases ha <;> simp [kind]

theorem kind?_eq_file_iff (a : List Name) :
    (∃ c, root.kind? a = some (.file c)) ↔ ∃ c, root'.kind? a = some (.file c) := by
  have ha := h.nodes a
  unfold kind?
  generalize root.find? a = node, root'.find? a = node' at ha
  cases ha <;> simp [kind]

/-! ## Paths -/

theorem follow_eq (here s : List Name) : root.follow here s = root'.follow here s := by
  induction s generalizing here with
  | nil => rw [follow, follow]
  | cons first rest ih =>
    rw [follow_cons, follow_cons]
    have hhere := h.nodes here
    have hentry := h.nodes (here ++ [first])
    unfold kind?
    generalize root.find? here = node, root'.find? here = node' at hhere
    generalize root.find? (here ++ [first]) = entry, root'.find? (here ++ [first]) = entry' at hentry
    cases hhere with
    | absent => rfl
    | file => rfl
    | directory =>
      simp only [Option.map_some, kind, ih]
      cases hentry <;> rfl

theorem locate_eq (here : List Name) (p : Path) : root.locate here p = root'.locate here p := by
  unfold locate
  exact bind_congr fun start => h.follow_eq start p.segments

theorem place_eq (here : List Name) (p : Path) : root.place here p = root'.place here p := by
  unfold place
  refine bind_congr fun start => ?_
  split
  · rfl
  · simp only [h.follow_eq]
    refine bind_congr fun a => ?_
    have ha := h.nodes a
    generalize root.find? a = node, root'.find? a = node' at ha
    cases ha <;> rfl

theorem node?_nodes (here : List Name) (p : Path) :
    TwinNodes (root.node? here p) (root'.node? here p) := by
  unfold node?
  rw [h.locate_eq]
  cases root'.locate here p with
  | error fault => exact .absent
  | ok a => exact h.nodes a

theorem isSameFile_eq (here : List Name) (p q : Path) :
    root.isSameFile here p q = root'.isSameFile here p q := by
  unfold isSameFile
  rw [h.locate_eq, h.locate_eq]

/-- A file holds the same if nothing else is allowed at its address. -/
theorem read_eq {here : List Name} {p : Path}
    (hp : ∀ a c c', root.locate here p = .ok a → ¬ allowed a c c') :
    root.read here p = root'.read here p := by
  unfold read
  rw [← h.locate_eq]
  cases hlocate : root.locate here p with
  | error fault => rfl
  | ok a =>
    dsimp only
    obtain heq | ⟨c, c', hallowed, -⟩ := h a
    · unfold kind? at heq
      have ha := h.nodes a
      generalize root.find? a = node, root'.find? a = node' at ha heq
      cases ha with
      | absent => rfl
      | directory => rfl
      | file c c' =>
        obtain rfl : c = c' := by simpa [kind] using heq
        rfl
    · exact absurd hallowed (hp a c c' hlocate)

/-- Below the same address there are files in the same places. -/
theorem visibleFiles_eq (hroot : root.WellFormed) (hroot' : root'.WellFormed) (here : List Name)
    (p : Path) :
    ((root.node? here p).map visibleFiles).getD [] =
      ((root'.node? here p).map visibleFiles).getD [] := by
  unfold node?
  rw [← h.locate_eq]
  cases root.locate here p with
  | error fault => rfl
  | ok a =>
    dsimp only
    have ha := h.nodes a
    cases hfind : root.find? a with
    | none =>
      cases hfind' : root'.find? a with
      | none => rfl
      | some node' =>
        rw [hfind, hfind'] at ha
        cases ha
    | some node =>
      cases hfind' : root'.find? a with
      | none =>
        rw [hfind, hfind'] at ha
        cases ha
      | some node' =>
        refine (hroot.of_find? hfind).visibleFiles_eq (hroot'.of_find? hfind') fun b => ?_
        rw [← kind?_append hfind, ← kind?_append hfind']
        exact h.kind?_eq_file_iff (a ++ b)

/-! ## Changes -/

/-- Twins stay twins when a file or an empty directory is put in the same place of both. -/
theorem put {new : Node} {above : List Name} {name : Name} (hnew : new.entries = [])
    (habove : root.kind? above = some .directory)
    (hfree : root.kind? (above ++ [name]) ≠ some .directory) :
    Twins allowed (root.put new (above ++ [name])) (root'.put new (above ++ [name])) := by
  have habove' := (h.kind?_eq_directory_iff above).1 habove
  have hfree' := mt (h.kind?_eq_directory_iff (above ++ [name])).2 hfree
  intro a
  rw [kind?_put hnew habove hfree, kind?_put hnew habove' hfree']
  split
  · exact .inl rfl
  · exact h a

/-- A directory is made in both or in neither. -/
theorem makeDirectory (here : List Name) (p : Path) :
    (∃ fault, root.makeDirectory here p = .error fault ∧ root'.makeDirectory here p = .error fault) ∨
    ∃ new new', root.makeDirectory here p = .ok new ∧ root'.makeDirectory here p = .ok new' ∧
      Twins allowed new new' := by
  unfold Node.makeDirectory
  rw [← h.place_eq]
  cases hplace : root.place here p with
  | error fault => exact .inl ⟨fault, rfl, rfl⟩
  | ok placed =>
    obtain ⟨above, name⟩ := placed
    dsimp only
    by_cases hdots : name = "." ∨ name = ".."
    · rw [if_pos hdots, if_pos hdots]
      exact .inl ⟨_, rfl, rfl⟩
    rw [if_neg hdots, if_neg hdots]
    have habove := (place_eq_ok hplace (not_or.1 hdots).1).2
    have hentry := h.nodes (above ++ [name])
    generalize hfind : root.find? (above ++ [name]) = node,
      root'.find? (above ++ [name]) = node' at hentry ⊢
    cases hentry with
    | absent => exact .inr ⟨_, _, rfl, rfl, h.put rfl habove (by simp [kind?, hfind])⟩
    | directory => exact .inl ⟨_, rfl, rfl⟩
    | file => exact .inl ⟨_, rfl, rfl⟩

/-- A file is written in both or in neither. -/
theorem write (here : List Name) (p : Path) (contents : List UInt8) :
    (∃ fault, root.write here p contents = .error fault ∧
      root'.write here p contents = .error fault) ∨
    ∃ new new', root.write here p contents = .ok new ∧ root'.write here p contents = .ok new' ∧
      Twins allowed new new' := by
  unfold Node.write
  rw [← h.place_eq]
  cases hplace : root.place here p with
  | error fault => exact .inl ⟨fault, rfl, rfl⟩
  | ok placed =>
    obtain ⟨above, name⟩ := placed
    dsimp only
    by_cases hdots : name = "." ∨ name = ".."
    · rw [if_pos hdots, if_pos hdots]
      exact .inl ⟨_, rfl, rfl⟩
    rw [if_neg hdots, if_neg hdots]
    have habove := (place_eq_ok hplace (not_or.1 hdots).1).2
    have hentry := h.nodes (above ++ [name])
    generalize hfind : root.find? (above ++ [name]) = node,
      root'.find? (above ++ [name]) = node' at hentry ⊢
    cases hentry with
    | absent => exact .inr ⟨_, _, rfl, rfl, h.put rfl habove (by simp [kind?, hfind])⟩
    | directory => exact .inl ⟨_, rfl, rfl⟩
    | file => exact .inr ⟨_, _, rfl, rfl, h.put rfl habove (by simp [kind?, hfind, kind])⟩

end Twins

end Renumber.Node
