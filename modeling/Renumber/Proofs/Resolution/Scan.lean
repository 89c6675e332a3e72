import Renumber.Proofs.Fallible
import Renumber.Proofs.Resolution.Brackets
import Renumber.Proofs.Text.ByteCut

/-!
# Signatures are scanned without a fault

`scan` finds the shape of a signature as a program does that goes through its bytes: it cuts the text at
byte positions, counts the parentheses that are open by a number without a sign, and the brackets by one
of 32 bits.  Each of these steps may fail in it, with the fault of `ScanFault` that it would be.

The list is found in any signature (`scanList_eq`), since the search for its end begins at an opening
parenthesis and never goes on with none open (`closingByte_eq`), and every cut is at an end of a text or
next to a parenthesis, comma or colon, which are one byte long.  Only the count of the brackets may run
over, in a list of `2 ^ 31` characters or more (`scanPieces_cases`, `nestsWithin32_of_length`); else the
shape is found that `ofText?` finds (`scan_cases`).
-/

namespace Renumber.Shape

open Text

/-! ## The scan -/

/-- The byte at which the closing parentheses catch up with the opening ones, if `depth` of these are
open at byte `position`. -/
def closingByte (depth position : Nat) : List Char → Except ScanFault (Option Nat)
  | [] => .ok none
  | c :: rest =>
    if c = '(' then closingByte (depth + 1) (position + c.utf8Size) rest
    else if c = ')' then do
      let depth ← countDown depth
      if depth = 0 then return some position
      else closingByte depth (position + c.utf8Size) rest
    else closingByte depth (position + c.utf8Size) rest

def scanList (signature : List Char) : Except ScanFault (Option (List Char)) :=
  match firstByte? '(' signature with
  | none => .ok none
  | some opening => do
    let text ← sliceFrom opening signature
    match ← closingByte 0 opening text with
    | none => return none
    | some closing => return some (← slice (opening + 1) closing signature)

/-- Cuts at the commas of depth zero.  The current piece begins at byte `start`, and the rest of the text
at byte `position`. -/
def scanPieces (text : List Char) (depth : Int) (start position : Nat) :
    List Char → Except ScanFault (List (List Char))
  | [] => do return [← sliceFrom start text]
  | c :: rest =>
    if c = ',' ∧ depth = 0 then do
      let piece ← slice start position text
      let pieces ← scanPieces text depth (position + 1) (position + c.utf8Size) rest
      return piece :: pieces
    else do
      let depth ← count32 (depth + nesting c)
      scanPieces text depth start (position + c.utf8Size) rest

def scanType (parameter : List Char) : Except ScanFault (List Char) :=
  let declared := parameter.takeWhile (· ≠ '=')
  match lastByte? ':' declared with
  | none => .ok (trim declared)
  | some colon => (sliceFrom (colon + 1) declared).map trim

def scan (signature : List Char) : Except ScanFault (Option Shape) := do
  match ← scanList signature with
  | none => return none
  | some inner =>
    match trim inner with
    | [] => return some ⟨[]⟩
    | list =>
      let pieces ← scanPieces list 0 0 0 list
      let types ← pieces.mapM scanType
      return some ⟨types.map String.ofList⟩

/-- Nowhere in a text the brackets nest so deep, or are closed so often without being open, that a count
of 32 bits with a sign runs over. -/
def NestsWithin32 (text : List Char) : Prop :=
  ∀ front, front <+: text → Fits32 (openings front - closings front)

/-! ## The end of the list -/

section

variable {text front rest : List Char}

/-- Behind an opening parenthesis there is something to count down wherever a parenthesis is closed. -/
theorem closingByte_eq {depth : Nat} (hdepth : 0 < depth) (position : Nat) (text : List Char) :
    closingByte depth position text =
      .ok ((closing? depth text).map fun place => position + byteLength (text.take place)) := by
  induction text generalizing depth position with
  | nil => rfl
  | cons c rest ih =>
    have hgoOn : ∀ {depth'}, 0 < depth' →
        closingByte depth' (position + c.utf8Size) rest = .ok (((closing? depth' rest).map (· + 1)).map
          fun place => position + byteLength ((c :: rest).take place)) := by
      intro depth' hdepth'
      rw [ih hdepth', Option.map_map]
      congr 2
      funext place
      simp [Nat.add_assoc]
    rw [closingByte, closing?]
    by_cases hopen : c = '('
    · rw [if_pos hopen, if_pos hopen]
      exact hgoOn (Nat.succ_pos depth)
    by_cases hclose : c = ')'
    · obtain ⟨below, rfl⟩ := Nat.exists_eq_add_one.2 hdepth
      rw [if_neg hopen, if_neg hopen, if_pos hclose, if_pos hclose, Nat.add_sub_cancel]
      show (if below = 0 then _ else _) = _
      by_cases hlast : below = 0
      · rw [if_pos hlast, if_pos hlast]
        rfl
      · rw [if_neg hlast, if_neg hlast]
        exact hgoOn (Nat.pos_of_ne_zero hlast)
    · rw [if_neg hopen, if_neg hopen, if_neg hclose, if_neg hclose]
      exact hgoOn hdepth

/-- The list of any signature is found, and cut out, without a fault. -/
theorem scanList_eq (signature : List Char) : scanList signature = .ok (parameterList? signature) := by
  by_cases hmem : '(' ∈ signature
  · obtain ⟨front, rest, rfl, hfront⟩ := List.eq_append_cons_of_mem hmem
    have hclosing : closingByte 0 (byteLength front) ('(' :: rest) =
        .ok ((closing? 1 rest).map fun place =>
          byteLength front + 1 + byteLength (rest.take place)) := by
      rw [closingByte, if_pos rfl]
      exact closingByte_eq Nat.one_pos _ rest
    rw [scanList, firstByte?_append hfront, parameterList?_append hfront]
    show (sliceFrom (byteLength front) _ >>= _) = _
    rw [sliceFrom_append]
    show (closingByte 0 (byteLength front) ('(' :: rest) >>= _) = _
    rw [hclosing]
    cases closing? 1 rest with
    | none => rfl
    | some place =>
      have hone : '('.utf8Size = 1 := rfl
      have hslice : slice (byteLength front + 1) (byteLength front + 1 + byteLength (rest.take place))
          (front ++ '(' :: rest) = .ok (rest.take place) :=
        slice_eq_ok_iff.2 ⟨front ++ ['('], rest.drop place, by simp, by simp [hone],
          by simp [hone, Nat.add_assoc]⟩
      show (slice _ _ _ >>= _) = _
      rw [hslice]
      rfl
  · rw [scanList, firstByte?_of_notMem hmem, parameterList?_of_notMem hmem]

/-! ## The pieces of a list -/

theorem modifyHead_nil_append (pieces : List (List Char)) :
    pieces.modifyHead ([] ++ ·) = pieces := congrFun List.modifyHead_id pieces

/-- At a comma of depth zero the current piece is cut off, and the next one begins behind the comma. -/
theorem scanPieces_comma {text front piece rest : List Char}
    (htext : text = front ++ piece ++ ',' :: rest) :
    scanPieces text 0 (byteLength front) (byteLength (front ++ piece)) (',' :: rest) =
      (scanPieces text 0 (byteLength (front ++ piece ++ [',']))
        (byteLength (front ++ piece ++ [','])) rest).map (piece :: ·) := by
  have hone : ','.utf8Size = 1 := rfl
  have hslice : slice (byteLength front) (byteLength (front ++ piece)) text = .ok piece := by
    rw [htext, slice_append]
  rw [scanPieces, if_pos ⟨rfl, rfl⟩, hslice, byteLength_append _ [','], byteLength_cons, hone,
    byteLength_nil]
  show (scanPieces text 0 _ _ rest >>= _) = _
  cases scanPieces text 0 _ _ rest <;> rfl

/-- Any other character belongs to the current piece, and changes the count of the brackets. -/
theorem scanPieces_of_not_cut {text front piece rest : List Char} {depth : Int} {c : Char}
    (hcut : ¬ (c = ',' ∧ depth = 0)) :
    scanPieces text depth (byteLength front) (byteLength (front ++ piece)) (c :: rest) =
      (count32 (depth + nesting c)).bind fun depth =>
        scanPieces text depth (byteLength front) (byteLength (front ++ (piece ++ [c]))) rest := by
  have hposition : byteLength (front ++ (piece ++ [c])) = byteLength (front ++ piece) + c.utf8Size := by
    simp [Nat.add_assoc]
  rw [scanPieces, if_neg hcut, hposition]
  rfl

/-- Behind what was cut off and what belongs to the current piece, the rest is cut as it is without byte
positions, and the current piece is in front of its first one; nothing can go wrong but that the count of
the brackets runs over. -/
theorem scanPieces_behind {text front piece rest : List Char} {depth : Int}
    (htext : text = front ++ piece ++ rest) :
    scanPieces text depth (byteLength front) (byteLength (front ++ piece)) rest =
        .ok ((splitParameters depth rest).modifyHead (piece ++ ·)) ∨
      scanPieces text depth (byteLength front) (byteLength (front ++ piece)) rest =
          .error .outOfRange ∧
        ∃ ahead, ahead <+: rest ∧ ¬ Fits32 (depth + depthBehind ahead) := by
  induction rest generalizing front piece depth with
  | nil =>
    rw [List.append_nil] at htext
    rw [scanPieces, htext, sliceFrom_append, splitParameters, List.modifyHead_cons, List.append_nil]
    exact .inl rfl
  | cons c rest ih =>
    -- where the count runs over behind the character, it does so in the whole
    have hbehind : ∀ ahead, ahead <+: rest → ¬ Fits32 (depth + nesting c + depthBehind ahead) →
        ∃ ahead, ahead <+: c :: rest ∧ ¬ Fits32 (depth + depthBehind ahead) := by
      intro ahead hahead hover
      rw [Int.add_assoc, ← depthBehind_cons] at hover
      exact ⟨c :: ahead, List.cons_prefix_cons.2 ⟨rfl, hahead⟩, hover⟩
    by_cases hcut : c = ',' ∧ depth = 0
    · obtain ⟨rfl, rfl⟩ := hcut
      have hrest := @ih (front ++ piece ++ [',']) [] 0 (by simp [htext])
      rw [List.append_nil, modifyHead_nil_append] at hrest
      rw [scanPieces_comma htext, splitParameters, if_pos ⟨rfl, rfl⟩, List.modifyHead_cons,
        List.append_nil]
      rcases hrest with hok | ⟨herror, ahead, hahead, hover⟩
      · rw [hok]
        exact .inl rfl
      · rw [herror]
        exact .inr ⟨rfl, hbehind ahead hahead hover⟩
    · rw [scanPieces_of_not_cut hcut, splitParameters_cons hcut, List.modifyHead_modifyHead]
      by_cases hfits : Fits32 (depth + nesting c)
      · have hhead : (piece ++ ·) ∘ (c :: ·) = (piece ++ [c] ++ ·) := by
          funext ahead
          exact (List.append_assoc piece [c] ahead).symm
        rw [count32, if_pos hfits, hhead]
        have hrest := @ih front (piece ++ [c]) (depth + nesting c) (by simp [htext])
        rcases hrest with hok | ⟨herror, ahead, hahead, hover⟩
        · exact .inl hok
        · exact .inr ⟨herror, hbehind ahead hahead hover⟩
      · rw [count32, if_neg hfits]
        refine .inr ⟨rfl, hbehind [] List.nil_prefix ?_⟩
        rwa [depthBehind, List.map_nil, List.sum_nil, Int.add_zero]

/-- A text is cut at the same commas, or the count of its brackets runs over. -/
theorem scanPieces_cases (text : List Char) :
    scanPieces text 0 0 0 text = .ok (splitParameters 0 text) ∨
      scanPieces text 0 0 0 text = .error .outOfRange ∧ ¬ NestsWithin32 text := by
  have hcases := @scanPieces_behind text [] [] text 0 rfl
  rw [modifyHead_nil_append] at hcases
  rcases hcases with hok | ⟨herror, ahead, hahead, hover⟩
  · exact .inl hok
  · refine .inr ⟨herror, fun hnests => ?_⟩
    rw [Int.zero_add, depthBehind_eq] at hover
    exact hover (hnests ahead hahead)

/-! ## The types -/

theorem exists_append_of_mem {c : Char} (h : c ∈ text) :
    ∃ front back, text = front ++ c :: back ∧ c ∉ back := by
  obtain ⟨back, front, hreverse, hback⟩ := List.eq_append_cons_of_mem (List.mem_reverse.2 h)
  refine ⟨front.reverse, back.reverse, ?_, mt List.mem_reverse.1 hback⟩
  rw [← text.reverse_reverse, hreverse]
  simp

theorem declaredType_takeWhile (parameter : List Char) :
    declaredType (parameter.takeWhile (· ≠ '=')) = declaredType parameter := by
  rw [declaredType, declaredType, List.takeWhile_idem]

theorem scanType_eq (parameter : List Char) : scanType parameter = .ok (declaredType parameter) := by
  have hequals : '=' ∉ parameter.takeWhile (· ≠ '=') := fun h => by
    simpa using List.mem_takeWhile_imp h
  rw [scanType, ← declaredType_takeWhile parameter]
  generalize parameter.takeWhile (· ≠ '=') = declared at hequals ⊢
  by_cases hmem : ':' ∈ declared
  · obtain ⟨front, back, rfl, hback⟩ := exists_append_of_mem hmem
    obtain ⟨hfront, -, hequals⟩ : '=' ∉ front ∧ '=' ≠ ':' ∧ '=' ∉ back := by simpa using hequals
    have hone : ':'.utf8Size = 1 := rfl
    have hslice : sliceFrom (byteLength front + 1) (front ++ ':' :: back) = .ok back :=
      sliceFrom_eq_ok_iff.2 ⟨front ++ [':'], by simp, by simp [hone]⟩
    rw [declaredType_append_colon hfront hback hequals, declaredType_of_notMem hback hequals]
    simp only [lastByte?_append front hback, hslice]
    rfl
  · rw [declaredType_of_notMem hmem hequals]
    simp only [lastByte?_of_notMem hmem]

theorem mapM_scanType (pieces : List (List Char)) :
    pieces.mapM scanType = .ok (pieces.map declaredType) :=
  mapM_eq_ok_iff.2 (List.forall₂_map_right_iff.2 (List.forall₂_same.2 fun piece _ => scanType_eq piece))

/-- A signature is scanned, and its shape is found, or the count of the brackets in its list runs
over. -/
theorem scan_cases (signature : List Char) :
    scan signature = .ok (ofText? signature) ∨
      scan signature = .error .outOfRange ∧
        ∃ inner, parameterList? signature = some inner ∧ ¬ NestsWithin32 (trim inner) := by
  rw [scan, scanList_eq, ofText?]
  cases hlist : parameterList? signature with
  | none => exact .inl rfl
  | some inner =>
    show (match trim inner with | [] => _ | list => _) = _ ∨
      (match trim inner with | [] => _ | list => _) = _ ∧ _
    rw [Option.map_some]
    cases htrim : trim inner with
    | nil => exact .inl rfl
    | cons c rest =>
      show (scanPieces (c :: rest) 0 0 0 (c :: rest) >>= _) = _ ∨
        (scanPieces (c :: rest) 0 0 0 (c :: rest) >>= _) = _ ∧ _
      rcases scanPieces_cases (c :: rest) with hok | ⟨herror, hnests⟩
      · rw [hok]
        refine .inl ?_
        show (List.mapM scanType _ >>= _) = _
        rw [mapM_scanType]
        show Except.ok (some (Shape.mk (List.map String.ofList (List.map declaredType _)))) = _
        rw [List.map_map]
        rfl
      · rw [herror]
        exact .inr ⟨rfl, inner, rfl, htrim ▸ hnests⟩

/-- In a text shorter than `2 ^ 31` characters no count of brackets runs over. -/
theorem nestsWithin32_of_length (h : text.length < 2 ^ 31) : NestsWithin32 text := by
  intro front hfront
  have hlength := hfront.length_le
  have hopenings : openings front ≤ front.length := List.countP_le_length
  have hclosings : closings front ≤ front.length := List.countP_le_length
  unfold Fits32
  omega

end

/-! ## Main theorem -/

/-- A signature, malformed as it may be, has no shape if no parenthesis is opened, or if from the first
one on the closing parentheses never catch up with the opening ones.  Otherwise its list ends where they
first do.  The list is found without a count below zero and without a cut out of place, and so is the
shape, unless the brackets nest too deep for a count of 32 bits.

A text is cut at the commas in front of which as many brackets were opened as were closed, and nothing of
it is lost or appears twice. -/
theorem scan_isExact (signature text : List Char) :
    (ofText? signature = none ↔ '(' ∉ signature ∨
      ∀ front, front <+: signature.dropWhile (· ≠ '(') → front ≠ [] → ¬ CaughtUp front) ∧
    (∀ inner, parameterList? signature = some inner ↔
      IsEnclosed (signature.dropWhile (· ≠ '(')) ('(' :: (inner ++ [')']))) ∧
    scanList signature = .ok (parameterList? signature) ∧
    (scan signature = .ok (ofText? signature) ∨
      scan signature = .error .outOfRange ∧
        ∃ inner, parameterList? signature = some inner ∧ ¬ NestsWithin32 (trim inner)) ∧
    [','].intercalate (splitParameters 0 text) = text ∧
    (∀ i, i ∈ cutPlaces [','] 0 (splitParameters 0 text) ↔
      text[i]? = some ',' ∧ openings (text.take i) = closings (text.take i)) ∧
    (scanPieces text 0 0 0 text = .ok (splitParameters 0 text) ∨
      scanPieces text 0 0 0 text = .error .outOfRange ∧ ¬ NestsWithin32 text) := by
  refine ⟨?_, fun inner => parameterList?_eq_some_iff, scanList_eq signature, scan_cases signature,
    intercalate_splitParameters 0 text, fun i => mem_cutPlaces_iff, scanPieces_cases text⟩
  rw [ofText?, Option.map_eq_none_iff, parameterList?_eq_none_iff]

/-- Brackets of different kinds close each other, and a comma behind a stray closing one is cut at only
after another one was opened. -/
theorem scan_isExact_mismatched :
    scan "é)f(a:[int, b>, é:x)y)".toList = .ok (some ⟨["[int, b>", "x"]⟩) ∧
    scanPieces ")a,b(,c".toList 0 0 0 ")a,b(,c".toList = .ok [")a,b(".toList, "c".toList] ∧
    5 ∈ cutPlaces [','] 0 (splitParameters 0 ")a,b(,c".toList) := by
  obtain ⟨-, -, -, hscan, -, hcut, hpieces⟩ :=
    scan_isExact "é)f(a:[int, b>, é:x)y)".toList ")a,b(,c".toList
  have hlist : parameterList? "é)f(a:[int, b>, é:x)y)".toList = some "a:[int, b>, é:x".toList := by
    decide
  refine ⟨?_, ?_, (hcut 5).2 (by decide)⟩
  · rcases hscan with hok | ⟨-, inner, hinner, hover⟩
    · exact hok.trans (by decide)
    · rw [hlist] at hinner
      cases hinner
      exact absurd (nestsWithin32_of_length (by decide)) hover
  · rcases hpieces with hok | ⟨-, hover⟩
    · exact hok.trans (by decide)
    · exact absurd (nestsWithin32_of_length (by decide)) hover

end Renumber.Shape
