import Mathlib.Data.List.Nodup
import Renumber.Files.Tree

/-!
# What a file tree holds

A tree is known by what is at each address: nothing, a directory, or a file with its contents
(`Node.kind?`).  Putting a file or an empty directory where no directory is changes this at one
address alone (`Node.kind?_put`).

The trees of a file system are well-formed: the entries of a directory have different names, and no
name is empty or made of one or two dots.  Putting a node there under such a name keeps them so
(`Node.WellFormed.put`).  The files that a walk finds are the files of the tree, each under the
address that leads to it (`Node.WellFormed.find?_of_mem_filesWhere`).
-/

namespace Renumber

/-- A segment of a path that names an entry of a directory. -/
def IsName (s : Name) : Prop := s ≠ "" ∧ s ≠ "." ∧ s ≠ ".."

instance (s : Name) : Decidable (IsName s) := inferInstanceAs (Decidable (_ ∧ _ ∧ _))

namespace Node

/-! ## Addresses -/

@[simp]
theorem find?_nil (node : Node) : node.find? [] = some node := by
  rw [find?]

theorem find?_cons (node : Node) (name : Name) (rest : List Name) :
    node.find? (name :: rest) = (node.entries.lookup name).bind (·.find? rest) := by
  rw [find?]
  cases node.entries.lookup name <;> rfl

theorem find?_singleton (node : Node) (name : Name) :
    node.find? [name] = node.entries.lookup name := by
  rw [find?_cons]
  cases node.entries.lookup name <;> simp

theorem find?_append (node : Node) (a b : List Name) :
    node.find? (a ++ b) = (node.find? a).bind (·.find? b) := by
  induction a generalizing node with
  | nil => simp
  | cons name rest ih =>
    rw [List.cons_append, find?_cons, find?_cons]
    cases node.entries.lookup name with
    | none => rfl
    | some child => exact ih child

theorem find?_of_entries_eq_nil {node : Node} (h : node.entries = []) {a : List Name} (ha : a ≠ []) :
    node.find? a = none := by
  cases a with
  | nil => exact absurd rfl ha
  | cons name rest => rw [find?_cons, h]; rfl

/-! ## What is at an address -/

inductive Kind where
  | directory
  | file (contents : List UInt8)
  deriving DecidableEq

def kind : Node → Kind
  | file contents => .file contents
  | directory _ => .directory

/-- What is at an address. -/
def kind? (root : Node) (a : List Name) : Option Kind := (root.find? a).map kind

theorem kind?_eq_directory_iff {root : Node} {a : List Name} :
    root.kind? a = some .directory ↔ ∃ entries, root.find? a = some (directory entries) := by
  unfold kind?
  rcases root.find? a with _ | (_ | _) <;> simp [kind]

theorem kind?_eq_file_iff {root : Node} {a : List Name} {contents : List UInt8} :
    root.kind? a = some (.file contents) ↔ root.find? a = some (file contents) := by
  unfold kind?
  rcases root.find? a with _ | (_ | _) <;> simp [kind]

theorem kind?_eq_none_iff {root : Node} {a : List Name} :
    root.kind? a = none ↔ root.find? a = none :=
  Option.map_eq_none_iff

theorem kind?_cons (root : Node) (name : Name) (rest : List Name) :
    root.kind? (name :: rest) = (root.entries.lookup name).bind (·.kind? rest) := by
  unfold kind?
  rw [find?_cons]
  cases root.entries.lookup name <;> rfl

/-- Only a directory has something below it. -/
theorem kind?_eq_directory_of_append {root : Node} {a b : List Name} (hb : b ≠ [])
    (h : root.kind? (a ++ b) ≠ none) : root.kind? a = some .directory := by
  rw [Ne, kind?_eq_none_iff, find?_append] at h
  rw [kind?_eq_directory_iff]
  rcases hfind : root.find? a with _ | (contents | entries)
  · rw [hfind] at h
    exact absurd rfl h
  · rw [hfind] at h
    exact absurd (find?_of_entries_eq_nil rfl hb) h
  · exact ⟨entries, rfl⟩

theorem kind?_ne_none_of_append {root : Node} {a b : List Name} (h : root.kind? (a ++ b) ≠ none) :
    root.kind? a ≠ none := by
  by_cases hb : b = []
  · rwa [hb, List.append_nil] at h
  · rw [kind?_eq_directory_of_append hb h]
    exact Option.some_ne_none _

/-! ## Putting a node in place -/

theorem lookup_cons (name : Name) (child : Node) (rest : List (Name × Node)) (other : Name) :
    List.lookup other ((name, child) :: rest) =
      if other = name then some child else rest.lookup other := by
  by_cases h : other = name
  · simp [h]
  · rw [List.lookup_cons, beq_false_of_ne h, if_neg h]

theorem lookup_setEntry (name : Name) (new : Node) (entries : List (Name × Node))
    (other : Name) :
    (setEntry name new entries).lookup other =
      if other = name then some new else entries.lookup other := by
  induction entries with
  | nil => rw [setEntry, lookup_cons]
  | cons entry rest ih =>
    obtain ⟨first, child⟩ := entry
    rw [setEntry, lookup_cons]
    by_cases hfirst : first = name
    · subst hfirst
      rw [if_pos rfl, lookup_cons]
      by_cases hother : other = first <;> simp only [hother, if_true, if_false]
    · rw [if_neg hfirst, lookup_cons, ih]
      by_cases hother : other = first
      · subst hother
        simp only [if_true, if_neg hfirst]
      · simp only [hother, if_false]

theorem names_setEntry (name : Name) (new : Node) (entries : List (Name × Node)) :
    (setEntry name new entries).map Prod.fst =
      if name ∈ entries.map Prod.fst then entries.map Prod.fst else entries.map Prod.fst ++ [name] := by
  induction entries with
  | nil => simp [setEntry]
  | cons entry rest ih =>
    obtain ⟨first, child⟩ := entry
    by_cases hfirst : first = name
    · simp [setEntry, hfirst]
    · by_cases hmem : name ∈ rest.map Prod.fst
      · simp_all [setEntry]
      · simp_all [setEntry, eq_comm]

theorem put_singleton (entries : List (Name × Node)) (new : Node) (name : Name) :
    (directory entries).put new [name] = directory (setEntry name new entries) := by
  rw [put]

theorem put_cons {entries : List (Name × Node)} {name : Name} {child : Node}
    (hchild : entries.lookup name = some child) (new : Node) {rest : List Name} (hrest : rest ≠ []) :
    (directory entries).put new (name :: rest) =
      directory (setEntry name (child.put new rest) entries) := by
  cases rest with
  | nil => exact absurd rfl hrest
  | cons next rest => simp only [put, hchild]

/-- A directory on the way to a node, and the entry that leads on. -/
theorem exists_lookup_of_find?_cons {root node : Node} {name : Name} {rest : List Name}
    (h : root.find? (name :: rest) = some node) :
    ∃ entries child, root = directory entries ∧ entries.lookup name = some child ∧
      child.find? rest = some node := by
  rw [find?_cons, Option.bind_eq_some_iff] at h
  obtain ⟨child, hchild, hnode⟩ := h
  cases root with
  | file contents => cases hchild
  | directory entries => exact ⟨entries, child, rfl, hchild, hnode⟩

/-- Putting a file or an empty directory into a directory, where no directory is, changes what is at
this one address. -/
theorem kind?_put {root new : Node} {above : List Name} {name : Name}
    (hnew : new.entries = []) (habove : root.kind? above = some .directory)
    (hfree : root.kind? (above ++ [name]) ≠ some .directory) (a : List Name) :
    (root.put new (above ++ [name])).kind? a =
      if a = above ++ [name] then some new.kind else root.kind? a := by
  obtain ⟨entries, hentries⟩ := kind?_eq_directory_iff.1 habove
  clear habove
  induction above generalizing root a with
  | nil =>
    obtain rfl := Option.some.inj hentries
    rw [List.nil_append, put_singleton]
    cases a with
    | nil => rfl
    | cons first rest =>
      rw [kind?_cons, kind?_cons, Node.entries, Node.entries, lookup_setEntry]
      by_cases hfirst : first = name
      · subst hfirst
        rw [if_pos rfl, Option.bind_some]
        by_cases hrest : rest = []
        · simp [hrest, kind?]
        · -- below the entry there is nothing, neither before nor after
          have hbelow : (directory entries).kind? ([first] ++ rest) = none := by
            by_contra h
            exact hfree (kind?_eq_directory_of_append hrest h)
          rw [List.singleton_append, kind?_cons] at hbelow
          rw [kind?_eq_none_iff.2 (find?_of_entries_eq_nil hnew hrest), if_neg (by simpa using hrest)]
          exact hbelow.symm
      · rw [if_neg hfirst, if_neg (by simp [hfirst])]
  | cons next above ih =>
    obtain ⟨siblings, child, rfl, hchild, hfind⟩ := exists_lookup_of_find?_cons hentries
    rw [List.cons_append, put_cons hchild new (by simp)]
    cases a with
    | nil => rfl
    | cons first rest =>
      rw [kind?_cons, kind?_cons, Node.entries, Node.entries, lookup_setEntry]
      by_cases hfirst : first = next
      · subst hfirst
        rw [List.cons_append, kind?_cons, Node.entries, hchild, Option.bind_some] at hfree
        rw [if_pos rfl, Option.bind_some, ih hfree rest hfind, hchild, Option.bind_some]
        simp
      · rw [if_neg hfirst, if_neg (by simp [hfirst])]

/-! ## Well-formed trees -/

/-- The names of the entries of a directory are names, and different. -/
def ProperEntries (entries : List (Name × Node)) : Prop :=
  (entries.map Prod.fst).Nodup ∧ ∀ name ∈ entries.map Prod.fst, IsName name

instance (entries : List (Name × Node)) : Decidable (ProperEntries entries) :=
  inferInstanceAs (Decidable (_ ∧ _))

/-- Every directory of the tree has proper entries. -/
def WellFormed (root : Node) : Prop :=
  ∀ a entries, root.find? a = some (directory entries) → ProperEntries entries

theorem wellFormed_of_entries_eq_nil {node : Node} (h : node.entries = []) : node.WellFormed := by
  intro a entries hfind
  by_cases ha : a = []
  · subst ha
    obtain rfl := Option.some.inj hfind
    obtain rfl : entries = [] := h
    exact ⟨List.nodup_nil, fun name hname => absurd hname List.not_mem_nil⟩
  · rw [find?_of_entries_eq_nil h ha] at hfind
    cases hfind

@[simp]
theorem wellFormed_file (contents : List UInt8) : (file contents).WellFormed :=
  wellFormed_of_entries_eq_nil rfl

theorem wellFormed_directory_iff {entries : List (Name × Node)} :
    (directory entries).WellFormed ↔
      ProperEntries entries ∧ ∀ name child, entries.lookup name = some child → child.WellFormed := by
  constructor
  · intro h
    refine ⟨h [] entries rfl, fun name child hchild a below hbelow => h (name :: a) below ?_⟩
    rw [find?_cons, Node.entries, hchild]
    exact hbelow
  · rintro ⟨hentries, hchildren⟩ a below hbelow
    cases a with
    | nil =>
      obtain rfl := Node.directory.inj (Option.some.inj hbelow)
      exact hentries
    | cons name rest =>
      obtain ⟨_, child, heq, hchild, hbelow⟩ := exists_lookup_of_find?_cons hbelow
      obtain rfl := Node.directory.inj heq
      exact hchildren name child hchild rest below hbelow

theorem wellFormed_directory {entries : List (Name × Node)} (h : ProperEntries entries)
    (hchildren : ∀ entry ∈ entries, entry.2.WellFormed) : (directory entries).WellFormed := by
  refine wellFormed_directory_iff.2 ⟨h, fun name child hchild => ?_⟩
  obtain ⟨front, back, rfl, -⟩ := List.lookup_eq_some_iff.1 hchild
  exact hchildren (name, child) (by simp)

theorem ProperEntries.setEntry {entries : List (Name × Node)} (h : ProperEntries entries)
    {name : Name} (hname : IsName name) (new : Node) :
    ProperEntries (setEntry name new entries) := by
  obtain ⟨hnodup, hnames⟩ := h
  unfold ProperEntries
  rw [names_setEntry]
  by_cases hmem : name ∈ entries.map Prod.fst
  · rw [if_pos hmem]
    exact ⟨hnodup, hnames⟩
  · rw [if_neg hmem]
    refine ⟨(List.nodup_append_comm).1 (List.nodup_cons.2 ⟨hmem, hnodup⟩), fun other hother => ?_⟩
    rw [List.mem_append, List.mem_singleton] at hother
    obtain hother | rfl := hother
    · exact hnames other hother
    · exact hname

theorem wellFormed_setEntry {entries : List (Name × Node)} (h : (directory entries).WellFormed)
    {name : Name} (hname : IsName name) {new : Node} (hnew : new.WellFormed) :
    (directory (setEntry name new entries)).WellFormed := by
  rw [wellFormed_directory_iff] at h ⊢
  refine ⟨h.1.setEntry hname new, fun other child hchild => ?_⟩
  rw [lookup_setEntry] at hchild
  by_cases hother : other = name
  · rw [if_pos hother] at hchild
    exact Option.some.inj hchild ▸ hnew
  · rw [if_neg hother] at hchild
    exact h.2 other child hchild

theorem WellFormed.of_find? {root node : Node} (h : root.WellFormed) {a : List Name}
    (hfind : root.find? a = some node) : node.WellFormed := by
  intro b entries hentries
  refine h (a ++ b) entries ?_
  rw [find?_append, hfind]
  exact hentries

/-- The names on the way to a node of a well-formed tree. -/
theorem WellFormed.isName_of_find? {root : Node} (h : root.WellFormed) {a : List Name} {node : Node}
    (hfind : root.find? a = some node) : ∀ name ∈ a, IsName name := by
  induction a generalizing root with
  | nil => exact fun name hname => absurd hname List.not_mem_nil
  | cons first rest ih =>
    obtain ⟨entries, child, rfl, hchild, hnode⟩ := exists_lookup_of_find?_cons hfind
    obtain ⟨hentries, hchildren⟩ := wellFormed_directory_iff.1 h
    intro name hname
    obtain rfl | hname := List.mem_cons.1 hname
    · obtain ⟨front, back, heq, -⟩ := List.lookup_eq_some_iff.1 hchild
      exact hentries.2 name (by simp [heq])
    · exact ih (hchildren first child hchild) hnode name hname

theorem WellFormed.put {root new : Node} (h : root.WellFormed) (hnew : new.entries = [])
    {above : List Name} {name : Name} (hname : IsName name)
    (habove : root.kind? above = some .directory) : (root.put new (above ++ [name])).WellFormed := by
  obtain ⟨entries, hentries⟩ := kind?_eq_directory_iff.1 habove
  clear habove
  induction above generalizing root with
  | nil =>
    obtain rfl := Option.some.inj hentries
    rw [List.nil_append, put_singleton]
    exact wellFormed_setEntry h hname (wellFormed_of_entries_eq_nil hnew)
  | cons next above ih =>
    have hnext : IsName next := h.isName_of_find? hentries next List.mem_cons_self
    obtain ⟨siblings, child, rfl, hchild, hfind⟩ := exists_lookup_of_find?_cons hentries
    rw [List.cons_append, put_cons hchild new (by simp)]
    exact wellFormed_setEntry h hnext (ih ((wellFormed_directory_iff.1 h).2 next child hchild) hfind)

/-! ## Walking -/

theorem mem_filesOfEntries_iff {keep : Name → Bool} {entries : List (Name × Node)} {name : Name}
    {files : List (List Name × List UInt8)} :
    (name, files) ∈ filesOfEntries keep entries ↔
      keep name = true ∧ ∃ node, (name, node) ∈ entries ∧ files = filesWhere keep node := by
  induction entries with
  | nil => simp [filesOfEntries]
  | cons entry rest ih =>
    obtain ⟨first, child⟩ := entry
    rw [filesOfEntries]
    by_cases hkeep : keep first = true
    · rw [if_pos hkeep, List.mem_cons, ih]
      constructor
      · rintro (heq | ⟨hname, node, hmem, hfiles⟩)
        · obtain ⟨rfl, rfl⟩ := Prod.mk.inj heq
          exact ⟨hkeep, child, List.mem_cons_self, rfl⟩
        · exact ⟨hname, node, List.mem_cons_of_mem _ hmem, hfiles⟩
      · rintro ⟨hname, node, hmem, rfl⟩
        obtain heq | hmem := List.mem_cons.1 hmem
        · obtain ⟨rfl, rfl⟩ := Prod.mk.inj heq
          exact .inl rfl
        · exact .inr ⟨hname, node, hmem, rfl⟩
    · rw [if_neg hkeep, ih]
      refine and_congr_right fun hname => exists_congr fun node => and_congr_left fun _ => ?_
      rw [List.mem_cons, or_iff_right]
      intro heq
      exact hkeep ((Prod.mk.inj heq).1 ▸ hname)

/-- A walk of a directory goes into the entries that are kept. -/
theorem mem_filesWhere_directory_iff {keep : Name → Bool} {entries : List (Name × Node)}
    {a : List Name} {contents : List UInt8} :
    (a, contents) ∈ filesWhere keep (directory entries) ↔
      ∃ name child rest, a = name :: rest ∧ (name, child) ∈ entries ∧ keep name = true ∧
        (rest, contents) ∈ filesWhere keep child := by
  rw [filesWhere, List.mem_flatMap]
  constructor
  · rintro ⟨⟨name, files⟩, hfiles, hmem⟩
    obtain ⟨⟨rest, _⟩, hrest, heq⟩ := List.mem_map.1 hmem
    obtain ⟨rfl, rfl⟩ := Prod.mk.inj heq
    obtain ⟨hkeep, child, hchild, rfl⟩ := mem_filesOfEntries_iff.1 (List.mem_mergeSort.1 hfiles)
    exact ⟨name, child, rest, rfl, hchild, hkeep, hrest⟩
  · rintro ⟨name, child, rest, rfl, hchild, hkeep, hrest⟩
    have hfiles := mem_filesOfEntries_iff.2 ⟨hkeep, child, hchild, rfl⟩
    exact ⟨_, List.mem_mergeSort.2 hfiles, List.mem_map.2 ⟨_, hrest, rfl⟩⟩

theorem sizeOf_lt_of_mem {entries : List (Name × Node)} {name : Name} {child : Node}
    (h : (name, child) ∈ entries) : sizeOf child < sizeOf (directory entries) := by
  have hentry : sizeOf (name, child) < sizeOf entries := List.sizeOf_lt_of_mem h
  simp only [Prod.mk.sizeOf_spec, directory.sizeOf_spec] at hentry ⊢
  omega

theorem ProperEntries.lookup_eq_some {entries : List (Name × Node)} (h : ProperEntries entries)
    {name : Name} {node : Node} (hmem : (name, node) ∈ entries) :
    entries.lookup name = some node := by
  obtain ⟨front, back, rfl⟩ := List.append_of_mem hmem
  refine List.lookup_eq_some_iff.2 ⟨front, back, rfl, fun entry hentry => bne_iff_ne.2 fun heq => ?_⟩
  have hnodup := h.1
  rw [List.map_append, List.nodup_append] at hnodup
  exact hnodup.2.2 entry.1 (List.mem_map_of_mem hentry) name (by simp) heq.symm

/-- A walk of a well-formed tree gives each file the address that leads to it. -/
theorem WellFormed.find?_of_mem_filesWhere {keep : Name → Bool} :
    (node : Node) → node.WellFormed → ∀ {a : List Name} {contents : List UInt8},
      (a, contents) ∈ filesWhere keep node → node.find? a = some (file contents)
  | file own, _, a, contents, hmem => by
    rw [filesWhere, List.mem_singleton] at hmem
    obtain ⟨rfl, rfl⟩ := Prod.mk.inj hmem
    rfl
  | directory entries, h, a, contents, hmem => by
    obtain ⟨name, child, rest, rfl, hchild, -, hrest⟩ := mem_filesWhere_directory_iff.1 hmem
    obtain ⟨hentries, hchildren⟩ := wellFormed_directory_iff.1 h
    have hlookup := hentries.lookup_eq_some hchild
    have hsize := sizeOf_lt_of_mem hchild
    rw [find?_cons, Node.entries, hlookup, Option.bind_some]
    exact find?_of_mem_filesWhere child (hchildren name child hlookup) hrest
  termination_by node => sizeOf node
  decreasing_by exact hsize

theorem WellFormed.exists_file_of_mem_visibleFiles {node : Node} (h : node.WellFormed)
    {a : List Name} (ha : a ∈ node.visibleFiles) :
    ∃ contents, node.find? a = some (file contents) := by
  obtain ⟨⟨_, contents⟩, hmem, rfl⟩ := List.mem_map.1 ha
  exact ⟨contents, find?_of_mem_filesWhere node h hmem⟩

/-- Names lead from a directory of a well-formed tree to its visible files. -/
theorem WellFormed.names_of_mem_visibleFiles {node : Node} (h : node.WellFormed)
    (hnode : node.isFile = false) {a : List Name} (ha : a ∈ node.visibleFiles) :
    a ≠ [] ∧ ∀ name ∈ a, IsName name := by
  obtain ⟨contents, hfind⟩ := h.exists_file_of_mem_visibleFiles ha
  refine ⟨?_, h.isName_of_find? hfind⟩
  rintro rfl
  obtain rfl := Option.some.inj hfind
  cases hnode

end Node

end Renumber
