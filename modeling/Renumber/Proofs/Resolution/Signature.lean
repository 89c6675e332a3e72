import Mathlib.Data.Bool.AllAny
import Mathlib.Data.List.Forall2
import Mathlib.Data.List.TakeWhile
import Renumber.Resolution.Shape

/-!
# Signatures are read as they were written

`Shape.Nested` says that the brackets of a text are properly nested, and whether commas may stand outside
of them.  A properly nested text is passed over by the search for the closing parenthesis
(`closing?_append`), and by the cutting at commas if it has none outside of its brackets
(`splitParameters_append`).

`Shape.Declares` lists the ways to write a parameter of a type: the type alone, behind a name, or with a
default after it, and blanks around each of them.  Whichever way it is written, the type is what is read
from it (`declaredType_eq`); blanks at its ends change nothing (`declaredType_blanks_append`,
`declaredType_append_blanks`).  So the shape of a signature that was written from a list of types is this
list (`ofSignature?_eq_some`).
-/

namespace Renumber.Shape

open Text

def brackets : List Char := ['(', ')', '<', '>', '[', ']', '\x7b', '\x7d']

/-- A bracket and its counterpart. -/
inductive IsPair : Char → Char → Prop
  | round : IsPair '(' ')'
  | angle : IsPair '<' '>'
  | square : IsPair '[' ']'
  | curly : IsPair '\x7b' '\x7d'

/-- Text whose brackets are properly nested; a comma outside of all brackets is for lists only. -/
inductive Nested : (isList : Bool) → List Char → Prop
  | nil {isList : Bool} : Nested isList []
  | char {isList : Bool} {c : Char} {rest : List Char} (hc : c ∉ brackets)
      (hcomma : c = ',' → isList) (hrest : Nested isList rest) : Nested isList (c :: rest)
  | group {isList : Bool} {o c : Char} {inner rest : List Char} (hpair : IsPair o c)
      (hinner : Nested true inner) (hrest : Nested isList rest) :
      Nested isList (o :: (inner ++ c :: rest))

/-- The characters with a meaning in a parameter list. -/
def marks : List Char := ',' :: ':' :: '=' :: brackets

/-- What may stand as a type. -/
structure IsType (type : List Char) : Prop where
  starts : ∃ c ∈ type.head?, isBlank c = false
  ends : ∃ c ∈ type.getLast?, isBlank c = false
  colon_notMem : ':' ∉ type
  equals_notMem : '=' ∉ type
  nested : Nested false type

/-- The ways to write a parameter of a type. -/
inductive Declares (type : List Char) : List Char → Prop
  | bare {b₁ b₂ : List Char} (h₁ : ∀ c ∈ b₁, isBlank c) (h₂ : ∀ c ∈ b₂, isBlank c) :
      Declares type (b₁ ++ type ++ b₂)
  | named {b₁ name b₂ b₃ b₄ : List Char} (h₁ : ∀ c ∈ b₁, isBlank c)
      (hname : ∀ c ∈ name, c ∉ marks) (h₂ : ∀ c ∈ b₂, isBlank c) (h₃ : ∀ c ∈ b₃, isBlank c)
      (h₄ : ∀ c ∈ b₄, isBlank c) :
      Declares type (b₁ ++ name ++ b₂ ++ ':' :: (b₃ ++ type ++ b₄))
  | withDefault {b₁ name b₂ b₃ b₄ b₅ default b₆ : List Char} (h₁ : ∀ c ∈ b₁, isBlank c)
      (hname : ∀ c ∈ name, c ∉ marks) (h₂ : ∀ c ∈ b₂, isBlank c) (h₃ : ∀ c ∈ b₃, isBlank c)
      (h₄ : ∀ c ∈ b₄, isBlank c) (h₅ : ∀ c ∈ b₅, isBlank c) (hdefault : Nested false default)
      (h₆ : ∀ c ∈ b₆, isBlank c) :
      Declares type
        (b₁ ++ name ++ b₂ ++ ':' :: (b₃ ++ type ++ b₄ ++ '=' :: (b₅ ++ default ++ b₆)))

/-! ## Nested text -/

section

variable {isList : Bool} {text text' rest : List Char}

theorem notMem_marks_of_isBlank {c : Char} (h : isBlank c) : c ∉ marks := by
  have hall : ∀ d ∈ marks, isBlank d = false := List.all_iff_forall_prop.1 (by decide)
  intro hmem
  rw [hall c hmem] at h
  cases h

theorem Nested.append (h : Nested isList text) (h' : Nested isList text') :
    Nested isList (text ++ text') := by
  induction h with
  | nil => exact h'
  | char hc hcomma _ ih => exact .char hc hcomma (ih h')
  | group hpair hinner _ _ ih =>
    rw [List.cons_append, List.append_assoc, List.cons_append]
    exact .group hpair hinner (ih h')

/-- Without commas outside of the brackets a text can be part of a list. -/
theorem Nested.inList (h : Nested isList text) : Nested true text := by
  induction h with
  | nil => exact .nil
  | char hc _ _ ih => exact .char hc (fun _ => rfl) ih
  | group hpair hinner _ _ ih => exact .group hpair hinner ih

theorem nested_of_notMem_brackets (h : ∀ c ∈ text, c ∉ brackets) (hcomma : ',' ∈ text → isList) :
    Nested isList text := by
  induction text with
  | nil => exact .nil
  | cons c text ih =>
    obtain ⟨hc, htext⟩ := List.forall_mem_cons.1 h
    exact .char hc (fun heq => hcomma (heq ▸ List.mem_cons_self))
      (ih htext fun hmem => hcomma (List.mem_cons_of_mem c hmem))

theorem nested_of_notMem_marks (h : ∀ c ∈ text, c ∉ marks) : Nested isList text := by
  refine nested_of_notMem_brackets (fun c hc hmem => ?_) fun hcomma => ?_
  · exact h c hc (by simp [marks, hmem])
  · exact absurd (by decide) (h ',' hcomma)

theorem nested_of_blank (h : ∀ c ∈ text, isBlank c) : Nested isList text :=
  nested_of_notMem_marks fun c hc => notMem_marks_of_isBlank (h c hc)

theorem IsPair.mem_brackets {o c : Char} (h : IsPair o c) : o ∈ brackets ∧ c ∈ brackets := by
  cases h <;> decide

theorem IsPair.nesting_eq {o c : Char} (h : IsPair o c) : nesting o = 1 ∧ nesting c = -1 := by
  cases h <;> decide

theorem nesting_of_notMem {c : Char} (h : c ∉ brackets) : nesting c = 0 := by
  simp only [brackets, List.mem_cons, not_or] at h
  simp [nesting, h]

theorem closing?_cons {c : Char} (ho : c ≠ '(') (hc : c ≠ ')') (depth : Nat) (rest : List Char) :
    closing? depth (c :: rest) = (closing? depth rest).map (· + 1) := by
  rw [closing?, if_neg ho, if_neg hc]

/-- A bracket takes the search to a depth from which its counterpart takes it back. -/
theorem IsPair.closing? {o c : Char} (h : IsPair o c) {depth : Nat} (hdepth : 0 < depth) :
    ∃ inside, 0 < inside ∧
      (∀ rest, Shape.closing? depth (o :: rest) = (Shape.closing? inside rest).map (· + 1)) ∧
      ∀ rest, Shape.closing? inside (c :: rest) = (Shape.closing? depth rest).map (· + 1) := by
  cases h with
  | round =>
    have hback : ¬ depth + 1 - 1 = 0 := by omega
    refine ⟨depth + 1, Nat.succ_pos depth, fun rest => ?_, fun rest => ?_⟩
    · rw [Shape.closing?, if_pos rfl]
    · rw [Shape.closing?, if_neg (by decide), if_pos rfl, if_neg hback, Nat.add_sub_cancel]
  | _ =>
    exact ⟨depth, hdepth, closing?_cons (by decide) (by decide) depth,
      closing?_cons (by decide) (by decide) depth⟩

/-- The search for the counterpart of an open parenthesis passes over nested text. -/
theorem closing?_append (h : Nested isList text) {depth : Nat} (hdepth : 0 < depth)
    (rest : List Char) :
    closing? depth (text ++ rest) = (closing? depth rest).map (· + text.length) := by
  induction h generalizing depth rest with
  | nil => simp
  | @char isList c text hc _ _ ih =>
    have ho : c ≠ '(' := by
      rintro rfl
      exact hc (by decide)
    have hc' : c ≠ ')' := by
      rintro rfl
      exact hc (by decide)
    rw [List.cons_append, closing?_cons ho hc', ih hdepth, Option.map_map]
    rfl
  | @group isList o c inner text hpair _ _ ihinner ihrest =>
    obtain ⟨inside, hinside, hopen, hclose⟩ := hpair.closing? hdepth
    rw [List.cons_append, List.append_assoc, List.cons_append, hopen, ihinner hinside, hclose,
      ihrest hdepth]
    cases closing? depth rest with
    | none => rfl
    | some place =>
      simp only [Option.map_some, List.length_cons, List.length_append, Option.some.injEq]
      omega

/-! ## Cutting at commas -/

theorem splitParameters_cons {c : Char} {depth : Int} (h : ¬ (c = ',' ∧ depth = 0))
    (rest : List Char) :
    splitParameters depth (c :: rest) =
      (splitParameters (depth + nesting c) rest).modifyHead (c :: ·) := by
  rw [splitParameters, if_neg h]

/-- Nested text is not cut, unless it is a list that is in no brackets. -/
theorem splitParameters_append (h : Nested isList text) {depth : Int} (hdepth : 0 ≤ depth)
    (hlist : isList → 0 < depth) (rest : List Char) :
    splitParameters depth (text ++ rest) =
      (splitParameters depth rest).modifyHead (text ++ ·) := by
  induction h generalizing depth rest with
  | nil => exact (congrFun List.modifyHead_id _).symm
  | @char isList c text hc hcomma _ ih =>
    have hcut : ¬ (c = ',' ∧ depth = 0) := fun ⟨hc, hzero⟩ => by
      have := hlist (hcomma hc)
      omega
    rw [List.cons_append, splitParameters_cons hcut, nesting_of_notMem hc, Int.add_zero,
      ih hdepth hlist, List.modifyHead_modifyHead]
    rfl
  | @group isList o c inner text hpair _ _ ihinner ihrest =>
    obtain ⟨ho, hc⟩ := hpair.nesting_eq
    have hcut : ∀ {d : Char} {depth : Int}, d ∈ brackets → ¬ (d = ',' ∧ depth = 0) := by
      rintro d depth hd ⟨rfl, -⟩
      exact absurd hd (by decide)
    obtain ⟨homem, hcmem⟩ := hpair.mem_brackets
    rw [List.cons_append, List.append_assoc, List.cons_append, splitParameters_cons (hcut homem), ho,
      ihinner (by omega) (fun _ => by omega), splitParameters_cons (hcut hcmem), hc,
      Int.add_neg_cancel_right, ihrest hdepth hlist]
    simp only [List.modifyHead_modifyHead]
    congr 1
    funext rest
    simp

theorem splitParameters_intercalate {pieces : List (List Char)} (hne : pieces ≠ [])
    (h : ∀ piece ∈ pieces, Nested false piece) :
    splitParameters 0 ([','].intercalate pieces) = pieces := by
  induction pieces with
  | nil => exact absurd rfl hne
  | cons piece pieces ih =>
    obtain ⟨hpiece, hpieces⟩ := List.forall_mem_cons.1 h
    have hcut := splitParameters_append hpiece (Int.le_refl 0) nofun
    cases pieces with
    | nil =>
      rw [List.intercalate_singleton, ← List.append_nil piece, hcut]
      simp [splitParameters]
    | cons next pieces =>
      rw [List.intercalate_cons_cons, List.append_assoc, hcut, List.singleton_append, splitParameters,
        if_pos ⟨rfl, rfl⟩, ih (List.cons_ne_nil _ _) hpieces, List.modifyHead_cons, List.append_nil]

theorem nested_intercalate {pieces : List (List Char)} (h : ∀ piece ∈ pieces, Nested false piece) :
    Nested true ([','].intercalate pieces) := by
  have hcomma : Nested true [','] := .char (by decide) (fun _ => rfl) .nil
  induction pieces with
  | nil => exact .nil
  | cons piece pieces ih =>
    obtain ⟨hpiece, hpieces⟩ := List.forall_mem_cons.1 h
    cases pieces with
    | nil =>
      rw [List.intercalate_singleton]
      exact hpiece.inList
    | cons next pieces =>
      rw [List.intercalate_cons_cons]
      exact (hpiece.inList.append hcomma).append (ih hpieces)

end

/-! ## Blanks around a text -/

section

variable {text blanks : List Char} (hblanks : ∀ c ∈ blanks, isBlank c)

include hblanks

theorem trim_blanks_append : trim (blanks ++ text) = trim text := by
  rw [trim, trimStart, List.dropWhile_append_of_pos hblanks]
  rfl

theorem trimEnd_append_blanks : trimEnd (text ++ blanks) = trimEnd text := by
  rw [trimEnd, List.reverse_append, List.dropWhile_append_of_pos (by simpa using hblanks)]
  rfl

theorem trim_append_blanks : trim (text ++ blanks) = trim text := by
  rw [trim, trimStart, List.dropWhile_append]
  split
  · rename_i hempty
    rw [List.dropWhile_eq_nil_iff.2 hblanks, trim, trimStart, List.isEmpty_iff.1 hempty]
  · exact trimEnd_append_blanks hblanks

theorem ne_of_mem_blanks {c d : Char} (hd : d ∈ marks) (hc : c ∈ blanks) : decide (c ≠ d) := by
  refine decide_eq_true fun h => ?_
  exact notMem_marks_of_isBlank (hblanks c hc) (h ▸ hd)

/-- Blanks in front of a parameter are no part of its type. -/
theorem declaredType_blanks_append : declaredType (blanks ++ text) = declaredType text := by
  have hequals : ∀ c ∈ blanks, decide (c ≠ '=') := fun c => ne_of_mem_blanks hblanks (by decide)
  have hcolon : ∀ c ∈ blanks.reverse, decide (c ≠ ':') := fun c hc =>
    ne_of_mem_blanks hblanks (by decide) (List.mem_reverse.1 hc)
  simp only [declaredType]
  rw [List.takeWhile_append_of_pos hequals, List.reverse_append, List.takeWhile_append]
  split
  · -- the parameter has no name, so that the blanks are next to its type
    rename_i hall
    rw [(List.takeWhile_prefix _).eq_of_length hall, List.takeWhile_eq_self_iff.2 hcolon,
      ← List.reverse_append, List.reverse_reverse, List.reverse_reverse, trim_blanks_append hblanks]
  · rfl

/-- Blanks behind a parameter are no part of its type. -/
theorem declaredType_append_blanks : declaredType (text ++ blanks) = declaredType text := by
  have hequals : ∀ c ∈ blanks, decide (c ≠ '=') := fun c => ne_of_mem_blanks hblanks (by decide)
  have hcolon : ∀ c ∈ blanks.reverse, decide (c ≠ ':') := fun c hc =>
    ne_of_mem_blanks hblanks (by decide) (List.mem_reverse.1 hc)
  simp only [declaredType]
  rw [List.takeWhile_append]
  split
  · -- the parameter has no default, so that the blanks are next to its type
    rename_i hall
    rw [(List.takeWhile_prefix _).eq_of_length hall, List.takeWhile_eq_self_iff.2 hequals,
      List.reverse_append, List.takeWhile_append_of_pos hcolon, List.reverse_append,
      List.reverse_reverse, trim_append_blanks hblanks]
  · rfl

/-- Blanks in front of a list belong to its first parameter. -/
theorem splitParameters_blanks_append (depth : Int) :
    splitParameters depth (blanks ++ text) =
      (splitParameters depth text).modifyHead (blanks ++ ·) := by
  induction blanks with
  | nil => exact (congrFun List.modifyHead_id _).symm
  | cons c blanks ih =>
    obtain ⟨hc, hblanks⟩ := List.forall_mem_cons.1 hblanks
    have hmark := notMem_marks_of_isBlank hc
    have hcut : ¬ (c = ',' ∧ depth = 0) := fun h => hmark (by simp [marks, h.1])
    have hbracket : c ∉ brackets := fun h => hmark (by simp [marks, h])
    rw [List.cons_append, splitParameters_cons hcut, nesting_of_notMem hbracket, Int.add_zero,
      ih hblanks, List.modifyHead_modifyHead]
    rfl

/-- Blanks behind a list belong to its last parameter. -/
theorem exists_splitParameters_append_blanks (text : List Char) (depth : Int) :
    ∃ front last, splitParameters depth text = front ++ [last] ∧
      splitParameters depth (text ++ blanks) = front ++ [last ++ blanks] := by
  induction text generalizing depth with
  | nil =>
    have h : splitParameters depth (blanks ++ []) = [blanks ++ []] :=
      splitParameters_blanks_append hblanks depth
    rw [List.append_nil] at h
    exact ⟨[], [], rfl, h⟩
  | cons c text ih =>
    by_cases hcut : c = ',' ∧ depth = 0
    · obtain ⟨front, last, h, h'⟩ := ih depth
      refine ⟨[] :: front, last, ?_, ?_⟩
      · rw [splitParameters, if_pos hcut, h, List.cons_append]
      · rw [List.cons_append, splitParameters, if_pos hcut, h', List.cons_append]
    · obtain ⟨front, last, h, h'⟩ := ih (depth + nesting c)
      rw [List.cons_append, splitParameters_cons hcut, splitParameters_cons hcut, h, h']
      cases front with
      | nil => exact ⟨[], c :: last, rfl, rfl⟩
      | cons first front => exact ⟨(c :: first) :: front, last, rfl, rfl⟩

end

/-- The types in a list are the same without the blanks around the list. -/
theorem map_declaredType_trim (text : List Char) :
    (splitParameters 0 (trim text)).map declaredType =
      (splitParameters 0 text).map declaredType := by
  obtain ⟨behind, htrim, hbehind⟩ := exists_eq_trimEnd_append (trimStart text)
  have htext : text.takeWhile isBlank ++ trimStart text = text := List.takeWhile_append_dropWhile
  have hfront : ∀ c ∈ text.takeWhile isBlank, isBlank c := fun c hc => List.mem_takeWhile_imp hc
  have hhead : ∀ pieces : List (List Char),
      (pieces.modifyHead (text.takeWhile isBlank ++ ·)).map declaredType =
        pieces.map declaredType := by
    intro pieces
    cases pieces with
    | nil => rfl
    | cons piece pieces =>
      rw [List.modifyHead_cons, List.map_cons, List.map_cons, declaredType_blanks_append hfront]
  obtain ⟨front, last, h, h'⟩ :=
    exists_splitParameters_append_blanks hbehind (trimEnd (trimStart text)) 0
  calc (splitParameters 0 (trim text)).map declaredType
      = (front ++ [last]).map declaredType := by rw [trim, h]
    _ = (front ++ [last ++ behind]).map declaredType := by
        simp only [List.map_append, List.map_singleton, declaredType_append_blanks hbehind]
    _ = (splitParameters 0 (trimStart text)).map declaredType := by rw [← h', ← htrim]
    _ = (splitParameters 0 text).map declaredType := by
        rw [← hhead, ← splitParameters_blanks_append hfront, htext]

/-! ## Declarations -/

section

variable {type text : List Char}

theorem trim_of_isType (h : IsType type) : trim type = type := by
  have hstart : trimStart type = type := by
    obtain ⟨c, hc, hblank⟩ := h.starts
    obtain ⟨rest, rfl⟩ := List.head?_eq_some_iff.1 hc
    exact List.dropWhile_cons_of_neg (by simp [hblank])
  have hend : trimEnd type = type := by
    obtain ⟨c, hc, hblank⟩ := h.ends
    obtain ⟨front, rfl⟩ := List.getLast?_eq_some_iff.1 hc
    rw [trimEnd, List.reverse_concat, List.dropWhile_cons_of_neg (by simp [hblank]),
      List.reverse_cons, List.reverse_reverse]
  rw [trim, hstart, hend]

theorem Declares.nested (hnested : Nested false type) (h : Declares type text) : Nested false text := by
  have hcolon : ∀ {rest}, Nested false rest → Nested false (':' :: rest) :=
    .char (by decide) nofun
  have hequals : ∀ {rest}, Nested false rest → Nested false ('=' :: rest) :=
    .char (by decide) nofun
  cases h with
  | bare h₁ h₂ => exact ((nested_of_blank h₁).append hnested).append (nested_of_blank h₂)
  | named h₁ hname h₂ h₃ h₄ =>
    exact (((nested_of_blank h₁).append (nested_of_notMem_marks hname)).append
      (nested_of_blank h₂)).append
      (hcolon (((nested_of_blank h₃).append hnested).append (nested_of_blank h₄)))
  | withDefault h₁ hname h₂ h₃ h₄ h₅ hdefault h₆ =>
    exact (((nested_of_blank h₁).append (nested_of_notMem_marks hname)).append
      (nested_of_blank h₂)).append
      (hcolon ((((nested_of_blank h₃).append hnested).append (nested_of_blank h₄)).append
        (hequals (((nested_of_blank h₅).append hdefault).append (nested_of_blank h₆)))))

theorem declaredType_of_notMem (hcolon : ':' ∉ text) (hequals : '=' ∉ text) :
    declaredType text = trim text := by
  have hequals' : ∀ c ∈ text, decide (c ≠ '=') := fun c hc =>
    decide_eq_true fun h => hequals (h ▸ hc)
  have hcolon' : ∀ c ∈ text.reverse, decide (c ≠ ':') := fun c hc =>
    decide_eq_true fun h => hcolon (h ▸ List.mem_reverse.1 hc)
  rw [declaredType, List.takeWhile_eq_self_iff.2 hequals', List.takeWhile_eq_self_iff.2 hcolon',
    List.reverse_reverse]

/-- A name is no part of the type. -/
theorem declaredType_append_colon {name : List Char} (hname : '=' ∉ name) (hcolon : ':' ∉ text)
    (hequals : '=' ∉ text) : declaredType (name ++ ':' :: text) = declaredType text := by
  have hequals' : ∀ c ∈ name ++ ':' :: text, decide (c ≠ '=') := fun c hc =>
    decide_eq_true fun h => by simp [h, hname, hequals] at hc
  have hcolon' : ∀ c ∈ text.reverse, decide (c ≠ ':') := fun c hc =>
    decide_eq_true fun h => hcolon (h ▸ List.mem_reverse.1 hc)
  rw [declaredType_of_notMem hcolon hequals, declaredType, List.takeWhile_eq_self_iff.2 hequals',
    List.reverse_append, List.reverse_cons, List.append_assoc,
    List.takeWhile_append_of_pos hcolon', List.singleton_append,
    List.takeWhile_cons_of_neg (by decide), List.append_nil, List.reverse_reverse]

/-- A default is no part of the type. -/
theorem declaredType_append_equals (h : '=' ∉ text) (default : List Char) :
    declaredType (text ++ '=' :: default) = declaredType text := by
  have hequals : ∀ c ∈ text, decide (c ≠ '=') := fun c hc => decide_eq_true fun he => h (he ▸ hc)
  have hfront : (text ++ '=' :: default).takeWhile (fun c => decide (c ≠ '=')) = text := by
    rw [List.takeWhile_append_of_pos hequals, List.takeWhile_cons_of_neg (by decide), List.append_nil]
  rw [declaredType, declaredType, hfront, List.takeWhile_eq_self_iff.2 hequals]

theorem declaredType_of_blanks {b b' : List Char} (h : IsType type) (hb : ∀ c ∈ b, isBlank c)
    (hb' : ∀ c ∈ b', isBlank c) : declaredType (b ++ type ++ b') = type := by
  rw [declaredType_append_blanks hb', declaredType_blanks_append hb,
    declaredType_of_notMem h.colon_notMem h.equals_notMem, trim_of_isType h]

/-- Whichever way a parameter is written, its type is read from it. -/
theorem declaredType_eq (htype : IsType type) (h : Declares type text) : declaredType text = type := by
  have hfree : ∀ {part : List Char}, (∀ c ∈ part, c ∉ marks) → ':' ∉ part ∧ '=' ∉ part :=
    fun hpart => ⟨fun hc => hpart _ hc (by decide), fun hc => hpart _ hc (by decide)⟩
  have hblank : ∀ {part : List Char}, (∀ c ∈ part, isBlank c) → ':' ∉ part ∧ '=' ∉ part :=
    fun hpart => hfree fun c hc => notMem_marks_of_isBlank (hpart c hc)
  have hcolon := htype.colon_notMem
  have hequals := htype.equals_notMem
  cases h with
  | bare h₁ h₂ => exact declaredType_of_blanks htype h₁ h₂
  | named h₁ hname h₂ h₃ h₄ =>
    rw [declaredType_append_colon, declaredType_of_blanks htype h₃ h₄]
    · simp [hblank h₁, hfree hname, hblank h₂]
    · simp [hblank h₃, hcolon, hblank h₄]
    · simp [hblank h₃, hequals, hblank h₄]
  | withDefault h₁ hname h₂ h₃ h₄ h₅ hdefault h₆ =>
    rw [← List.cons_append, ← List.append_assoc, declaredType_append_equals,
      declaredType_append_colon, declaredType_of_blanks htype h₃ h₄]
    · simp [hblank h₁, hfree hname, hblank h₂]
    · simp [hblank h₃, hcolon, hblank h₄]
    · simp [hblank h₃, hequals, hblank h₄]
    · simp [hblank h₁, hfree hname, hblank h₂, hblank h₃, hequals, hblank h₄]

end

/-! ## Signatures -/

/-- The parameter list is what stands between the first parenthesis and its counterpart. -/
theorem parameterList?_eq {leading inner : List Char} (hleading : '(' ∉ leading)
    (hinner : Nested true inner) (trailing : List Char) :
    parameterList? (leading ++ '(' :: (inner ++ ')' :: trailing)) = some inner := by
  have hskip : ∀ c ∈ leading, decide (c ≠ '(') := fun c hc =>
    decide_eq_true fun h => hleading (h ▸ hc)
  have hclosing : closing? 0 ('(' :: (inner ++ ')' :: trailing)) = some (inner.length + 1) := by
    rw [closing?, if_pos rfl, closing?_append hinner Nat.one_pos, closing?, if_neg (by decide),
      if_pos rfl, if_pos rfl]
    simp
  rw [parameterList?, List.dropWhile_append_of_pos hskip, List.dropWhile_cons_of_neg (by decide)]
  simp only [hclosing, Option.map_some, Nat.add_sub_cancel, List.take_left]

theorem trim_ne_nil {text : List Char} {c : Char} (hc : c ∈ text) (hblank : isBlank c = false) :
    trim text ≠ [] := by
  intro hnil
  obtain ⟨behind, htrim, hbehind⟩ := exists_eq_trimEnd_append (trimStart text)
  rw [← trim, hnil, List.nil_append] at htrim
  have hblanks : isBlank c := by
    rw [← List.takeWhile_append_dropWhile (p := isBlank) (l := text)] at hc
    rcases List.mem_append.1 hc with hc | hc
    · exact List.mem_takeWhile_imp hc
    · exact hbehind c (htrim ▸ hc)
  rw [hblank] at hblanks
  cases hblanks

theorem ofText?_of_nested {leading inner : List Char} (hleading : '(' ∉ leading)
    (hinner : Nested true inner) (hne : trim inner ≠ []) (trailing : List Char) :
    ofText? (leading ++ '(' :: (inner ++ ')' :: trailing)) =
      some ⟨((splitParameters 0 inner).map declaredType).map String.ofList⟩ := by
  obtain ⟨c, rest, htrim⟩ := List.exists_cons_of_ne_nil hne
  rw [ofText?, parameterList?_eq hleading hinner, ← map_declaredType_trim, htrim, List.map_map]
  simp only [Option.map_some, htrim]
  rfl

theorem Declares.subset {type text : List Char} (h : Declares type text) : type ⊆ text := by
  intro c hc
  cases h <;> simp [hc]

/-- What is between the commas of a list is nested, and the types are what is read from it. -/
theorem nested_and_declaredType {types : List String} {parameters : List (List Char)}
    (h : List.Forall₂ (fun type text => IsType type.toList ∧ Declares type.toList text) types
      parameters) :
    (∀ text ∈ parameters, Nested false text) ∧
      (parameters.map declaredType).map String.ofList = types := by
  induction h with
  | nil => simp
  | @cons type text types parameters hfirst _ ih =>
    obtain ⟨htype, hdeclares⟩ := hfirst
    refine ⟨List.forall_mem_cons.2 ⟨hdeclares.nested htype.nested, ih.1⟩, ?_⟩
    rw [List.map_cons, List.map_cons, declaredType_eq htype hdeclares, String.ofList_toList, ih.2]

/-! ## Main theorem -/

/-- The shape of a signature is the list of the types it was written from, whatever stands in front of the
parameter list and behind it. -/
theorem ofSignature?_eq_some (types : List String) (parameters : List (List Char))
    (leading trailing : List Char) (htypes : ∀ type ∈ types, IsType type.toList)
    (hparameters : List.Forall₂ (fun type text => Declares type.toList text) types parameters)
    (hleading : '(' ∉ leading) :
    ∃ shape,
      ofSignature? (String.ofList
        (leading ++ ['('] ++ [','].intercalate parameters ++ [')'] ++ trailing)) = some shape ∧
      shape.types = types ∧ shape.arity = parameters.length := by
  obtain ⟨hnested, hread⟩ :=
    nested_and_declaredType ((List.forall₂_and_left types parameters).2 ⟨htypes, hparameters⟩)
  have hinner := nested_intercalate hnested
  have hlist : leading ++ ['('] ++ [','].intercalate parameters ++ [')'] ++ trailing =
      leading ++ '(' :: ([','].intercalate parameters ++ ')' :: trailing) := by
    simp
  refine ⟨⟨types⟩, ?_, rfl, hparameters.length_eq⟩
  rw [ofSignature?, String.toList_ofList, hlist]
  cases hparameters with
  | nil =>
    rw [ofText?, parameterList?_eq hleading hinner]
    rfl
  | @cons type text types parameters hfirst hrest =>
    -- the first type keeps the list from being blank
    obtain ⟨c, hc, hblank⟩ := (htypes type List.mem_cons_self).starts
    have hmem : c ∈ [','].intercalate (text :: parameters) := by
      have htext := hfirst.subset (List.mem_of_mem_head? hc)
      cases parameters with
      | nil => rwa [List.intercalate_singleton]
      | cons next parameters => simp [List.intercalate_cons_cons, htext]
    rw [ofText?_of_nested hleading hinner (trim_ne_nil hmem hblank),
      splitParameters_intercalate (List.cons_ne_nil _ _) hnested, hread]

/-- A type with a comma in its brackets, a default with all the marks in it, and a bare type. -/
theorem ofSignature?_eq_some_threeForms :
    let types := ["Map<K, V>", "Function(int)", "int"]
    let parameters := [" m : Map<K, V> ".toList, "f:Function(int) = g(a = [1, 2], b: 3)".toList,
      ['\t', 'i', 'n', 't']]
    (∀ type ∈ types, IsType type.toList) ∧
    List.Forall₂ (fun type text => Declares type.toList text) types parameters ∧
    '(' ∉ "Chat".toList ∧
    ∃ shape,
      ofSignature? (String.ofList ("Chat".toList ++ ['('] ++ [','].intercalate parameters ++ [')'] ++
        " => (x)".toList)) = some shape ∧
      shape.types = types ∧ shape.arity = 3 := by
  intro types parameters
  have hall : ∀ {p : Char → Prop} [DecidablePred p] {text : List Char},
      (text.all fun c => p c) → ∀ c ∈ text, p c := List.all_iff_forall_prop.1
  have hmap : Nested false ("Map".toList ++ '<' :: ("K, V".toList ++ ['>'])) :=
    .append (nested_of_notMem_marks (hall (by decide)))
      (.group .angle (nested_of_notMem_brackets (hall (by decide)) (by decide)) .nil)
  have hfunction : Nested false ("Function".toList ++ '(' :: ("int".toList ++ [')'])) :=
    .append (nested_of_notMem_marks (hall (by decide)))
      (.group .round (nested_of_notMem_marks (hall (by decide))) .nil)
  have hvalues : Nested true
      ("a = ".toList ++ '[' :: ("1, 2".toList ++ ']' :: ", b: 3".toList)) :=
    .append (nested_of_notMem_brackets (hall (by decide)) (by decide))
      (.group .square (nested_of_notMem_brackets (hall (by decide)) (by decide))
        (nested_of_notMem_brackets (hall (by decide)) (by decide)))
  have hdefault : Nested false
      (['g'] ++ '(' :: (("a = ".toList ++ '[' :: ("1, 2".toList ++ ']' :: ", b: 3".toList)) ++ [')'])) :=
    .append (nested_of_notMem_marks (hall (by decide))) (.group .round hvalues .nil)
  have htypes : ∀ type ∈ types, IsType type.toList := by
    refine List.forall_mem_cons.2 ⟨?_, List.forall_mem_cons.2 ⟨?_, List.forall_mem_singleton.2 ?_⟩⟩
    · exact ⟨⟨'M', rfl, rfl⟩, ⟨'>', rfl, rfl⟩, by decide, by decide, hmap⟩
    · exact ⟨⟨'F', rfl, rfl⟩, ⟨')', rfl, rfl⟩, by decide, by decide, hfunction⟩
    · exact ⟨⟨'i', rfl, rfl⟩, ⟨'t', rfl, rfl⟩, by decide, by decide,
        nested_of_notMem_marks (hall (by decide))⟩
  have hparameters :
      List.Forall₂ (fun type text => Declares type.toList text) types parameters := by
    have hm : Declares "Map<K, V>".toList
        ([' '] ++ ['m'] ++ [' '] ++ ':' :: ([' '] ++ "Map<K, V>".toList ++ [' '])) :=
      .named (hall (by decide)) (hall (by decide)) (hall (by decide)) (hall (by decide))
        (hall (by decide))
    have hf : Declares "Function(int)".toList
        ([] ++ ['f'] ++ [] ++ ':' :: ([] ++ "Function(int)".toList ++ [' '] ++
          '=' :: ([' '] ++ "g(a = [1, 2], b: 3)".toList ++ []))) :=
      .withDefault (hall (by decide)) (hall (by decide)) (hall (by decide)) (hall (by decide))
        (hall (by decide)) (hall (by decide)) hdefault (hall (by decide))
    have hint : Declares "int".toList (['\t'] ++ "int".toList ++ []) :=
      .bare (hall (by decide)) (hall (by decide))
    exact .cons hm (.cons hf (.cons hint .nil))
  have hleading : '(' ∉ "Chat".toList := by decide
  exact ⟨htypes, hparameters, hleading,
    ofSignature?_eq_some types parameters _ _ htypes hparameters hleading⟩

end Renumber.Shape
