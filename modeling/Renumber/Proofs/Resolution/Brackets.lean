import Renumber.Proofs.Resolution.Signature
import Renumber.Proofs.Text.Pieces

/-!
# Where brackets that need not match lead

A signature may have any brackets in any order.  Its list ends where the closing parentheses have caught
up with the opening ones for the first time, from the first opening one on: `IsEnclosed` says so without
a search, and the search finds this place, or there is none (`parameterList?_eq_some_iff`,
`parameterList?_eq_none_iff`).

A list is cut at the commas in front of which as many brackets were opened as were closed, no matter of
which kinds and in which order (`mem_cutPlaces_iff`).  The pieces are all of the list
(`intercalate_splitParameters`).
-/

namespace Renumber.Shape

open Text

/-- As many parentheses are closed in a text as are opened in it, or more. -/
def CaughtUp (text : List Char) : Prop := text.count '(' ≤ text.count ')'

/-- The shortest text, not empty, with which another one begins and in which the closing parentheses have
caught up with the opening ones. -/
structure IsEnclosed (text front : List Char) : Prop where
  isPrefix : front <+: text
  ne_nil : front ≠ []
  caughtUp : CaughtUp front
  isFirst : ∀ front', front' <+: text → front' ≠ [] → CaughtUp front' → front <+: front'

def openings (text : List Char) : Nat := text.countP (· ∈ ['(', '<', '[', '\x7b'])

def closings (text : List Char) : Nat := text.countP (· ∈ [')', '>', ']', '\x7d'])

/-! ## The end of the list -/

section

variable {text inner : List Char} {depth : Nat}

/-- Looking at one character, the search ends or goes on at the depth to which the character leads. -/
theorem closing?_step (hdepth : 0 < depth) (c : Char) (rest : List Char) :
    (c = ')' ∧ depth = 1 ∧ closing? depth (c :: rest) = some 0) ∨
      ∃ depth', 0 < depth' ∧ depth' + [c].count ')' = depth + [c].count '(' ∧
        closing? depth (c :: rest) = (closing? depth' rest).map (· + 1) := by
  rw [closing?]
  by_cases hopen : c = '('
  · subst hopen
    exact .inr ⟨depth + 1, Nat.succ_pos depth, rfl, if_pos rfl⟩
  by_cases hclose : c = ')'
  · subst hclose
    rw [if_neg hopen, if_pos rfl]
    by_cases hlast : depth = 1
    · exact .inl ⟨rfl, hlast, if_pos (by omega)⟩
    · refine .inr ⟨depth - 1, by omega, ?_, if_neg (by omega)⟩
      have hopens : [')'].count '(' = 0 := rfl
      have hcloses : [')'].count ')' = 1 := rfl
      omega
  · refine .inr ⟨depth, hdepth, ?_, by rw [if_neg hopen, if_neg hclose]⟩
    rw [List.count_singleton, List.count_singleton]
    simp [hopen, hclose]

/-- Behind some opening parentheses either the closing ones never catch up with them, or the search ends
at the first place at which they do. -/
theorem closing?_cases (hdepth : 0 < depth) (text : List Char) :
    (closing? depth text = none ∧
      ∀ front, front <+: text → front.count ')' < front.count '(' + depth) ∨
    ∃ inner trailing, text = inner ++ ')' :: trailing ∧ closing? depth text = some inner.length ∧
      inner.count ')' + 1 = inner.count '(' + depth ∧
      ∀ front, front <+: inner → front.count ')' < front.count '(' + depth := by
  induction text generalizing depth with
  | nil =>
    refine .inl ⟨rfl, fun front hfront => ?_⟩
    rw [List.prefix_nil.1 hfront]
    simpa using hdepth
  | cons c rest ih =>
    rcases closing?_step hdepth c rest with ⟨rfl, rfl, hend⟩ | ⟨depth', hpos, hcount, hstep⟩
    · refine .inr ⟨[], rest, rfl, hend, rfl, fun front hfront => ?_⟩
      rw [List.prefix_nil.1 hfront]
      exact Nat.one_pos
    -- what holds of the prefixes of the rest holds of them behind the character
    have hcons : ∀ text, (∀ front, front <+: text → front.count ')' < front.count '(' + depth') →
        ∀ front, front <+: c :: text → front.count ')' < front.count '(' + depth := by
      intro text hall front hfront
      rcases List.prefix_cons_iff.1 hfront with rfl | ⟨front, rfl, hprefix⟩
      · simpa using hdepth
      · have := hall front hprefix
        rw [← List.singleton_append, List.count_append, List.count_append]
        omega
    rcases ih hpos with ⟨hnone, hall⟩ | ⟨inner, trailing, rfl, hsome, hcaught, hall⟩
    · exact .inl ⟨by rw [hstep, hnone]; rfl, hcons rest hall⟩
    · refine .inr ⟨c :: inner, trailing, rfl, by rw [hstep, hsome]; rfl, ?_, hcons inner hall⟩
      rw [← List.singleton_append, List.count_append, List.count_append]
      omega

theorem not_caughtUp_cons (h : text.count ')' < text.count '(' + 1) : ¬ CaughtUp ('(' :: text) := by
  have hopens : ('(' :: text).count '(' = text.count '(' + 1 := List.count_cons_self
  have hcloses : ('(' :: text).count ')' = text.count ')' := List.count_cons_of_ne (by decide)
  unfold CaughtUp
  omega

theorem IsEnclosed.eq {front front' : List Char} (h : IsEnclosed text front)
    (h' : IsEnclosed text front') : front = front' :=
  (h.isFirst front' h'.isPrefix h'.ne_nil h'.caughtUp).eq_of_length_le
    (h'.isFirst front h.isPrefix h.ne_nil h.caughtUp).length_le

theorem not_caughtUp_within {rest : List Char}
    (h : ∀ front, front <+: rest → front.count ')' < front.count '(' + 1) :
    ∀ front, front <+: '(' :: rest → front ≠ [] → ¬ CaughtUp front := by
  intro front hfront hne
  rcases List.prefix_cons_iff.1 hfront with rfl | ⟨front, rfl, hprefix⟩
  · exact absurd rfl hne
  · exact not_caughtUp_cons (h front hprefix)

theorem isEnclosed_of_caughtUp {trailing : List Char} (hcaught : inner.count ')' = inner.count '(')
    (hall : ∀ front, front <+: inner → front.count ')' < front.count '(' + 1) :
    IsEnclosed ('(' :: (inner ++ ')' :: trailing)) ('(' :: (inner ++ [')'])) where
  isPrefix := ⟨trailing, by simp⟩
  ne_nil := List.cons_ne_nil _ _
  caughtUp := by
    unfold CaughtUp
    simp [hcaught]
  isFirst := by
    intro front hfront hne hcaughtUp
    have hlonger : ('(' :: inner) ++ [')'] <+: '(' :: (inner ++ ')' :: trailing) := ⟨trailing, by simp⟩
    rcases List.prefix_or_prefix_of_prefix hfront hlonger with h | h
    · -- a shorter text cannot do, by what is known of the prefixes of the list
      rcases List.prefix_concat_iff.1 h with rfl | h
      · exact List.prefix_rfl
      · exact absurd hcaughtUp (not_caughtUp_within hall front h hne)
    · exact h

theorem dropWhile_of_notMem (h : '(' ∉ text) : text.dropWhile (· ≠ '(') = [] :=
  List.dropWhile_eq_nil_iff.2 fun _ hc => decide_eq_true fun heq => h (heq ▸ hc)

theorem dropWhile_append {front : List Char} (h : '(' ∉ front) (rest : List Char) :
    (front ++ '(' :: rest).dropWhile (· ≠ '(') = '(' :: rest := by
  have hskip : ∀ c ∈ front, decide (c ≠ '(') := fun c hc =>
    decide_eq_true fun heq => h (heq ▸ hc)
  rw [List.dropWhile_append_of_pos hskip]
  exact List.dropWhile_cons_of_neg (by decide)

theorem parameterList?_of_notMem (h : '(' ∉ text) : parameterList? text = none := by
  rw [parameterList?, dropWhile_of_notMem h]

theorem parameterList?_append {front : List Char} (h : '(' ∉ front) (rest : List Char) :
    parameterList? (front ++ '(' :: rest) =
      (closing? 1 rest).map fun place => rest.take place := by
  simp only [parameterList?, dropWhile_append h]
  rw [closing?, if_pos rfl, Option.map_map]
  rfl

/-- The list of a signature is in parentheses, or there is no list, and the closing parentheses never
catch up with the opening ones from the first one on. -/
theorem parameterList?_cases (signature : List Char) :
    (parameterList? signature = none ∧ ∀ front, front <+: signature.dropWhile (· ≠ '(') →
      front ≠ [] → ¬ CaughtUp front) ∨
    ∃ inner, parameterList? signature = some inner ∧
      IsEnclosed (signature.dropWhile (· ≠ '(')) ('(' :: (inner ++ [')'])) := by
  by_cases hmem : '(' ∈ signature
  · obtain ⟨leading, rest, rfl, hleading⟩ := List.eq_append_cons_of_mem hmem
    rw [parameterList?_append hleading, dropWhile_append hleading]
    rcases closing?_cases Nat.one_pos rest with
      ⟨hnone, hall⟩ | ⟨inner, trailing, rfl, hsome, hcaught, hall⟩
    · exact .inl ⟨by rw [hnone]; rfl, not_caughtUp_within hall⟩
    · refine .inr ⟨inner, ?_, isEnclosed_of_caughtUp (by omega) hall⟩
      rw [hsome, Option.map_some, List.take_left]
  · rw [parameterList?_of_notMem hmem, dropWhile_of_notMem hmem]
    exact .inl ⟨rfl, fun front hfront hne => absurd (List.prefix_nil.1 hfront) hne⟩

theorem parameterList?_eq_none_iff {signature : List Char} :
    parameterList? signature = none ↔ '(' ∉ signature ∨
      ∀ front, front <+: signature.dropWhile (· ≠ '(') → front ≠ [] → ¬ CaughtUp front := by
  rcases parameterList?_cases signature with ⟨hnone, hall⟩ | ⟨inner, hsome, henclosed⟩
  · exact iff_of_true hnone (.inr hall)
  · refine iff_of_false (by simp [hsome]) ?_
    rintro (hmem | hall)
    · have hprefix := henclosed.isPrefix
      rw [dropWhile_of_notMem hmem] at hprefix
      exact henclosed.ne_nil (List.prefix_nil.1 hprefix)
    · exact hall _ henclosed.isPrefix henclosed.ne_nil henclosed.caughtUp

theorem parameterList?_eq_some_iff {signature : List Char} :
    parameterList? signature = some inner ↔
      IsEnclosed (signature.dropWhile (· ≠ '(')) ('(' :: (inner ++ [')'])) := by
  rcases parameterList?_cases signature with ⟨hnone, hall⟩ | ⟨inner', hsome, henclosed⟩
  · refine iff_of_false (by simp [hnone]) fun h => ?_
    exact hall _ h.isPrefix h.ne_nil h.caughtUp
  · rw [hsome, Option.some.injEq]
    constructor
    · rintro rfl
      exact henclosed
    · intro h
      simpa using henclosed.eq h

end

/-! ## The pieces of a list -/

section

variable {text : List Char}

theorem splitParameters_ne_nil (depth : Int) (text : List Char) : splitParameters depth text ≠ [] := by
  induction text generalizing depth with
  | nil => exact List.cons_ne_nil _ _
  | cons c rest ih =>
    rw [splitParameters]
    split
    · exact List.cons_ne_nil _ _
    · simpa [← List.length_eq_zero_iff] using ih (depth + nesting c)

theorem intercalate_modifyHead {sep : List Char} (c : Char) {pieces : List (List Char)}
    (h : pieces ≠ []) : sep.intercalate (pieces.modifyHead (c :: ·)) = c :: sep.intercalate pieces := by
  obtain ⟨piece, pieces, rfl⟩ := List.exists_cons_of_ne_nil h
  cases pieces with
  | nil => rfl
  | cons next pieces => rfl

/-- Nothing is lost where a text is cut, and nothing appears twice. -/
theorem intercalate_splitParameters (depth : Int) (text : List Char) :
    [','].intercalate (splitParameters depth text) = text := by
  induction text generalizing depth with
  | nil => rfl
  | cons c rest ih =>
    by_cases hcut : c = ',' ∧ depth = 0
    · rw [splitParameters, if_pos hcut,
        List.intercalate_cons_of_ne_nil (splitParameters_ne_nil depth rest), ih, hcut.1]
      rfl
    · rw [splitParameters_cons hcut, intercalate_modifyHead c (splitParameters_ne_nil _ rest), ih]

/-- The depth to which a text leads. -/
def depthBehind (text : List Char) : Int := (text.map nesting).sum

theorem depthBehind_cons (c : Char) (text : List Char) :
    depthBehind (c :: text) = nesting c + depthBehind text := by
  rw [depthBehind, List.map_cons, List.sum_cons]
  rfl

theorem depthBehind_eq (text : List Char) :
    depthBehind text = (openings text : Int) - closings text := by
  induction text with
  | nil => rfl
  | cons c rest ih =>
    rw [depthBehind_cons, ih, openings, openings, closings, closings, List.countP_cons,
      List.countP_cons]
    simp only [nesting, List.mem_cons, List.not_mem_nil, or_false, decide_eq_true_eq]
    split <;> split <;> grind

theorem cutPlaces_cons_modifyHead (old : List Char) (start : Nat) (c : Char)
    (pieces : List (List Char)) :
    cutPlaces old start (pieces.modifyHead (c :: ·)) = cutPlaces old (start + 1) pieces := by
  match pieces with
  | [] => rfl
  | [_] => rfl
  | front :: piece :: pieces =>
    have hplace : start + (c :: front).length = start + 1 + front.length := by
      rw [List.length_cons]
      omega
    rw [List.modifyHead_cons, cutPlaces, cutPlaces, hplace]

/-- The commas at which a text is cut are those outside of all brackets. -/
theorem mem_cutPlaces_splitParameters {i start : Nat} {depth : Int} :
    i ∈ cutPlaces [','] start (splitParameters depth text) ↔
      ∃ k, i = start + k ∧ text[k]? = some ',' ∧ depth + depthBehind (text.take k) = 0 := by
  induction text generalizing start depth with
  | nil => simp [splitParameters, cutPlaces]
  | cons c rest ih =>
    by_cases hcut : c = ',' ∧ depth = 0
    · obtain ⟨piece, pieces, hpieces⟩ :=
        List.exists_cons_of_ne_nil (splitParameters_ne_nil depth rest)
      have hplaces : cutPlaces [','] start (splitParameters depth (c :: rest)) =
          start :: cutPlaces [','] (start + 1) (splitParameters depth rest) := by
        rw [splitParameters, if_pos hcut, hpieces, cutPlaces]
        rfl
      obtain ⟨rfl, rfl⟩ := hcut
      have hflat : nesting ',' = 0 := by decide
      rw [hplaces, List.mem_cons, ih]
      constructor
      · rintro (rfl | ⟨k, rfl, hcomma, hdepth⟩)
        · exact ⟨0, rfl, rfl, rfl⟩
        · refine ⟨k + 1, by omega, hcomma, ?_⟩
          rw [List.take_succ_cons, depthBehind_cons, hflat]
          omega
      · rintro ⟨k, rfl, hcomma, hdepth⟩
        cases k with
        | zero => exact .inl rfl
        | succ k =>
          rw [List.take_succ_cons, depthBehind_cons, hflat] at hdepth
          exact .inr ⟨k, by omega, hcomma, by omega⟩
    · rw [splitParameters_cons hcut, cutPlaces_cons_modifyHead, ih]
      constructor
      · rintro ⟨k, rfl, hcomma, hdepth⟩
        refine ⟨k + 1, by omega, hcomma, ?_⟩
        rw [List.take_succ_cons, depthBehind_cons]
        omega
      · rintro ⟨k, rfl, hcomma, hdepth⟩
        cases k with
        | zero =>
          exact absurd ⟨by simpa using hcomma, by simpa [depthBehind] using hdepth⟩ hcut
        | succ k =>
          rw [List.take_succ_cons, depthBehind_cons] at hdepth
          exact ⟨k, by omega, hcomma, by omega⟩

theorem mem_cutPlaces_iff {i : Nat} :
    i ∈ cutPlaces [','] 0 (splitParameters 0 text) ↔
      text[i]? = some ',' ∧ openings (text.take i) = closings (text.take i) := by
  rw [mem_cutPlaces_splitParameters]
  have hdepth : ∀ k, (0 + depthBehind (text.take k) = 0 ↔
      openings (text.take k) = closings (text.take k)) := by
    intro k
    rw [depthBehind_eq]
    omega
  simp only [hdepth, Nat.zero_add]
  constructor
  · rintro ⟨k, rfl, h⟩
    exact h
  · exact fun h => ⟨i, rfl, h⟩

end

end Renumber.Shape
