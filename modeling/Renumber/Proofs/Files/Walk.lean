import Mathlib.Data.List.Sort
import Renumber.Proofs.Files.Tree

/-!
# What a walk finds

A walk of a well-formed tree finds every file whose address has only names that are kept, and nothing
else (`Node.WellFormed.mem_filesWhere_iff`), in the lexicographic order of the addresses
(`Node.WellFormed.filesWhere_ascending`).  So what a walk finds depends on nothing but where there are
files (`Node.WellFormed.visibleFiles_eq`): neither on what they hold, nor on the order in which the
entries of a directory are kept.
-/

namespace Renumber

instance : Std.Asymm (fun a b : Name => a < b) := ⟨fun _ _ => @List.lt_asymm UInt8 _ _ _ _⟩

namespace Node

variable {keep : Name → Bool}

/-! ## Which files -/

theorem mem_filesWhere_of_find? {node : Node} {a : List Name} {contents : List UInt8}
    (hfind : node.find? a = some (file contents)) (hkeep : ∀ name ∈ a, keep name = true) :
    (a, contents) ∈ filesWhere keep node := by
  induction a generalizing node with
  | nil =>
    obtain rfl := Option.some.inj hfind
    simp [filesWhere]
  | cons name rest ih =>
    obtain ⟨entries, child, rfl, hchild, hfind⟩ := exists_lookup_of_find?_cons hfind
    have hrest := ih hfind fun other hother => hkeep other (List.mem_cons_of_mem _ hother)
    obtain ⟨front, back, rfl, -⟩ := List.lookup_eq_some_iff.1 hchild
    exact mem_filesWhere_directory_iff.2
      ⟨name, child, rest, rfl, by simp, hkeep name List.mem_cons_self, hrest⟩

/-- The names on the way to a file that a walk finds are kept. -/
theorem keep_of_mem_filesWhere {node : Node} {a : List Name} {contents : List UInt8}
    (hmem : (a, contents) ∈ filesWhere keep node) : ∀ name ∈ a, keep name = true := by
  induction a generalizing node with
  | nil => exact fun name hname => absurd hname List.not_mem_nil
  | cons first rest ih =>
    cases node with
    | file own => simp [filesWhere] at hmem
    | directory entries =>
      obtain ⟨_, child, _, heq, -, hkeep, hrest⟩ := mem_filesWhere_directory_iff.1 hmem
      obtain ⟨rfl, rfl⟩ := List.cons.inj heq
      exact List.forall_mem_cons.2 ⟨hkeep, ih hrest⟩

/-! ## In which order -/

/-- The names of the entries that are kept. -/
theorem names_filesOfEntries (keep : Name → Bool) (entries : List (Name × Node)) :
    (filesOfEntries keep entries).map Prod.fst = (entries.map Prod.fst).filter keep := by
  induction entries with
  | nil => rfl
  | cons entry rest ih =>
    obtain ⟨name, child⟩ := entry
    rw [filesOfEntries, List.map_cons, List.filter_cons]
    split
    · rw [List.map_cons, ih]
    · exact ih

/-- Entries with different names are put in the strict order of their names. -/
theorem byName_ascending {α : Type} {entries : List (Name × α)} (h : (entries.map Prod.fst).Nodup) :
    (byName entries).Pairwise (·.1 < ·.1) := by
  have hsorted : (byName entries).Pairwise fun a b => decide (a.1.bytes ≤ b.1.bytes) = true := by
    refine List.pairwise_mergeSort (fun a b c hab hbc => ?_) (fun a b => ?_) entries
    · rw [decide_eq_true_iff] at hab hbc ⊢
      exact List.le_trans hab hbc
    · simpa using List.le_total a.1.bytes b.1.bytes
  have hdistinct : (byName entries).Pairwise (·.1 ≠ ·.1) := by
    have hperm : ((byName entries).map Prod.fst).Perm (entries.map Prod.fst) :=
      (List.mergeSort_perm entries _).map _
    exact List.pairwise_map.1 (hperm.nodup_iff.2 h)
  refine (hsorted.and hdistinct).imp fun {a b} ⟨hle, hne⟩ => ?_
  have hbytes : a.1.bytes ≠ b.1.bytes := fun h => hne (congrArg Name.mk h)
  show a.1.bytes < b.1.bytes
  exact Std.lt_of_le_of_ne (of_decide_eq_true hle) hbytes

namespace WellFormed

theorem mem_filesWhere_iff {node : Node} (h : node.WellFormed) {a : List Name}
    {contents : List UInt8} :
    (a, contents) ∈ filesWhere keep node ↔
      node.find? a = some (file contents) ∧ ∀ name ∈ a, keep name = true :=
  ⟨fun hmem => ⟨find?_of_mem_filesWhere node h hmem, keep_of_mem_filesWhere hmem⟩,
    fun hmem => mem_filesWhere_of_find? hmem.1 hmem.2⟩

/-- A walk of a well-formed tree goes through the addresses of the files in order. -/
theorem filesWhere_ascending : (node : Node) → node.WellFormed →
    ((filesWhere keep node).map Prod.fst).Pairwise (· < ·)
  | file own, _ => by simp [filesWhere]
  | directory entries, h => by
    obtain ⟨hentries, hchildren⟩ := wellFormed_directory_iff.1 h
    have hnodup : ((filesOfEntries keep entries).map Prod.fst).Nodup := by
      rw [names_filesOfEntries]
      exact hentries.1.filter _
    rw [filesWhere, List.map_flatMap, List.pairwise_flatMap]
    constructor
    · rintro ⟨name, files⟩ hfiles
      obtain ⟨-, child, hchild, rfl⟩ := mem_filesOfEntries_iff.1 (List.mem_mergeSort.1 hfiles)
      have hsize := sizeOf_lt_of_mem hchild
      have hbelow := filesWhere_ascending child (hchildren name child (hentries.lookup_eq_some hchild))
      rw [List.map_map, List.pairwise_map]
      exact (List.pairwise_map.1 hbelow).imp fun hlt => List.Lex.cons hlt
    · -- files below different entries are in the order of the entries' names
      refine (byName_ascending hnodup).imp fun {entry other} hlt a ha b hb => ?_
      simp only [List.map_map, List.mem_map] at ha hb
      obtain ⟨⟨rest, _⟩, -, rfl⟩ := ha
      obtain ⟨⟨rest', _⟩, -, rfl⟩ := hb
      exact List.Lex.rel hlt
  termination_by node => sizeOf node
  decreasing_by exact hsize

theorem mem_visibleFiles_iff {node : Node} (h : node.WellFormed) {a : List Name} :
    a ∈ node.visibleFiles ↔
      (∃ contents, node.kind? a = some (.file contents)) ∧ ∀ name ∈ a, isHidden name = false := by
  simp only [visibleFiles, List.mem_map, Prod.exists, h.mem_filesWhere_iff, kind?_eq_file_iff]
  simp

/-- What a walk finds depends only on where there are files. -/
theorem visibleFiles_eq {node node' : Node} (h : node.WellFormed) (h' : node'.WellFormed)
    (hfiles : ∀ a, (∃ contents, node.kind? a = some (.file contents)) ↔
      ∃ contents, node'.kind? a = some (.file contents)) :
    node.visibleFiles = node'.visibleFiles := by
  refine (filesWhere_ascending node h).eq_of_mem_iff (filesWhere_ascending node' h') fun a => ?_
  exact (h.mem_visibleFiles_iff.trans (and_congr_left fun _ => hfiles a)).trans
    h'.mem_visibleFiles_iff.symm

end WellFormed

end Node

end Renumber
