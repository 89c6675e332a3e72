import Mathlib.Order.Bounds.Basic
import Renumber.Proofs.Header.Marker
import Renumber.Proofs.Text.AsciiByte

/-!
# What is left of a line, told by byte positions

A line is stored as bytes, and a marker is looked for among them: two slashes, with a byte in front that
may lead a comment.  Slashes, letters and the blanks that may lead one are bytes of their own, so that
the places of the markers among the bytes are those among the characters (`isMarkerAt_iff`,
`acceptsAt_iff`), and the line can be cut there.

`Remainder` says what is left of a line by the first marker and the last accepted one.  The main theorem
is that this is what is left (`withoutComment?_closedForm`), and that going backward through the bytes
ends at the last accepted marker or tells that there is none.
-/

namespace Renumber

open Text

def isLetterByte (b : UInt8) : Bool := 0x41 ≤ b && b ≤ 0x5A || 0x61 ≤ b && b ≤ 0x7A

def isBlankByte (b : UInt8) : Bool := b == 0x20 || b == 0x09 || b == 0x0A || b == 0x0C || b == 0x0D

def CommentLead.allowsByte : CommentLead → UInt8 → Bool
  | .letter, b => isLetterByte b
  | .letterOrBlank, b => isLetterByte b || isBlankByte b

/-- Two slashes stand at byte `i`. -/
def isMarkerAt (bytes : List UInt8) (i : Nat) : Bool := [0x2F, 0x2F].isPrefixOf (bytes.drop i)

/-- A marker stands at byte `i`, and the byte in front of it may lead a comment. -/
def CommentLead.acceptsAt (lead : CommentLead) (bytes : List UInt8) (i : Nat) : Bool :=
  isMarkerAt bytes i && (decide (0 < i) && (bytes[i - 1]?).any lead.allowsByte)

/-- Looks for an accepted marker at byte `i`, and then at the bytes in front of it. -/
def CommentLead.scanFrom (lead : CommentLead) (bytes : List UInt8) : Nat → Option Nat
  | 0 => none
  | i + 1 => if lead.acceptsAt bytes (i + 1) then some (i + 1) else lead.scanFrom bytes i

/-- Looks for an accepted marker from the last place where there can be one. -/
def CommentLead.scan (lead : CommentLead) (bytes : List UInt8) : Option Nat :=
  lead.scanFrom bytes (bytes.length - 2)

/-- What is left of a line, told by the bytes at which its first marker and its last accepted one
stand. -/
inductive Remainder (lead : CommentLead) (line : List Char) : Option (List Char) → Prop
  | unmarked (hnone : ∀ i, isMarkerAt (encode line) i = false) : Remainder lead line (some line)
  | cut {c : Nat} {front : List Char}
      (hlast : IsGreatest {i | lead.acceptsAt (encode line) i} c)
      (hfirst : IsLeast {i | isMarkerAt (encode line) i} c)
      (hfront : encode front = (encode line).take c) (hkept : ∃ x ∈ front, isBlank x = false) :
      Remainder lead line (some (trimEnd front))
  | blank {c : Nat} {front : List Char}
      (hlast : IsGreatest {i | lead.acceptsAt (encode line) i} c)
      (hfront : encode front = (encode line).take c) (hblank : ∀ x ∈ front, isBlank x) :
      Remainder lead line none
  | markerLeft {c f : Nat} (hlast : IsGreatest {i | lead.acceptsAt (encode line) i} c)
      (hfirst : IsLeast {i | isMarkerAt (encode line) i} f) (hne : c ≠ f) : Remainder lead line none
  | comment {f : Nat} {front : List Char} (hnone : ∀ i, lead.acceptsAt (encode line) i = false)
      (hfirst : IsLeast {i | isMarkerAt (encode line) i} f)
      (hfront : encode front = (encode line).take f) (hblank : ∀ x ∈ front, isBlank x) :
      Remainder lead line none
  | content {f : Nat} {front : List Char} (hnone : ∀ i, lead.acceptsAt (encode line) i = false)
      (hfirst : IsLeast {i | isMarkerAt (encode line) i} f)
      (hfront : encode front = (encode line).take f) (hkept : ∃ x ∈ front, isBlank x = false) :
      Remainder lead line (some line)

/-! ## Bytes and characters -/

theorem allowsByte_eq (lead : CommentLead) (b : UInt8) :
    lead.allowsByte b = lead.allows (Char.ofNat b.toNat) := by
  have hall : ∀ n < 256, isLetterByte (UInt8.ofNat n) = (Char.ofNat n).isAlpha ∧
      isBlankByte (UInt8.ofNat n) = isFileBlank (Char.ofNat n) := by
    decide +kernel
  obtain ⟨hletter, hblank⟩ := hall b.toNat b.toNat_lt
  rw [UInt8.ofNat_toNat] at hletter hblank
  cases lead with
  | letter => exact hletter
  | letterOrBlank => exact congrArg₂ or hletter hblank

theorem lt_of_allowsByte {lead : CommentLead} {b : UInt8} (h : lead.allowsByte b) :
    b.toNat < 0x80 := by
  have hall : ∀ n < 256, isLetterByte (UInt8.ofNat n) || isBlankByte (UInt8.ofNat n) → n < 0x80 := by
    decide +kernel
  refine hall b.toNat b.toNat_lt ?_
  rw [UInt8.ofNat_toNat, Bool.or_eq_true]
  cases lead with
  | letter => exact Or.inl h
  | letterOrBlank => exact Bool.or_eq_true_iff.1 h

theorem lt_of_allows {lead : CommentLead} {c : Char} (h : lead.allows c) : c.toNat < 0x80 := by
  have hbelow : ∀ d : Char, c.val ≤ d.val → d.toNat < 0x80 → c.toNat < 0x80 := fun d hd =>
    Nat.lt_of_le_of_lt (UInt32.le_iff_toNat_le.1 hd)
  have hletter : c.isAlpha → c.toNat < 0x80 := by
    intro h
    rcases Bool.or_eq_true_iff.1 h with h | h
    · exact hbelow 'Z' (of_decide_eq_true h).2 (by decide)
    · exact hbelow 'z' (of_decide_eq_true (Bool.and_eq_true_iff.1 h).2) (by decide)
  cases lead with
  | letter => exact hletter h
  | letterOrBlank =>
    rcases Bool.or_eq_true_iff.1 h with h | h
    · exact hletter h
    · simp only [isFileBlank, Bool.or_eq_true, beq_iff_eq] at h
      obtain (((rfl | rfl) | rfl) | rfl) | rfl := h <;> decide

/-- A character that may lead a comment is a byte that may. -/
theorem encode_of_allows {lead : CommentLead} {c : Char} (h : lead.allows c) :
    ∃ b : UInt8, encode [c] = [b] ∧ lead.allowsByte b := by
  have hbytes := utf8EncodeChar_of_ascii (lt_of_allows h)
  have hb : c.val.toUInt8.toNat < 0x80 := by
    rw [UInt32.toNat_toUInt8]
    exact Nat.lt_of_le_of_lt (Nat.mod_le _ _) (lt_of_allows h)
  obtain ⟨-, hc⟩ := utf8EncodeChar_of_mem (c := c) hb (by rw [hbytes]; exact List.mem_singleton_self _)
  refine ⟨c.val.toUInt8, ?_, ?_⟩
  · rw [encode_eq_flatMap, List.flatMap_singleton, hbytes]
  · rw [allowsByte_eq, ← hc]
    exact h

section

variable {line front : List Char} {lead : CommentLead} {i : Nat}

theorem encode_slashes : encode slashes = [0x2F, 0x2F] := by decide

/-- The markers among the bytes are those among the characters. -/
theorem isMarkerAt_iff :
    isMarkerAt (encode line) i ↔
      ∃ front, HasMarkerBehind line front ∧ (encode front).length = i := by
  unfold isMarkerAt
  rw [List.isPrefixOf_iff_prefix]
  constructor
  · rintro ⟨back, h⟩
    have hsplit : encode line = (encode line).take i ++ 0x2F :: 0x2F :: back := by
      conv_lhs => rw [← List.take_append_drop i (encode line), ← h]
      rfl
    have hle : i ≤ (encode line).length := by
      have hlength := congrArg List.length h
      rw [List.length_append, List.length_drop] at hlength
      simp only [List.length_cons] at hlength
      omega
    obtain ⟨front, rest, rfl, hfront, hrest⟩ := exists_of_encode_eq (by decide) hsplit
    have hnext : encode rest = [] ++ 0x2F :: back := hrest
    obtain ⟨between, back', rfl, hbetween, -⟩ := exists_of_encode_eq (by decide) hnext
    obtain rfl := encode_eq_nil_iff.1 hbetween
    refine ⟨front, ⟨back', List.append_assoc _ _ _⟩, ?_⟩
    rw [hfront, List.length_take, Nat.min_eq_left hle]
  · rintro ⟨front, ⟨back, rfl⟩, rfl⟩
    rw [encode_append, encode_append, List.append_assoc, List.drop_left, encode_slashes]
    exact List.prefix_append _ _

theorem any_getLast?_encode :
    (encode front).getLast?.any lead.allowsByte ↔ ∃ c ∈ front.getLast?, lead.allows c := by
  rw [Option.any_eq_true]
  constructor
  · rintro ⟨b, hlast, hb⟩
    obtain ⟨bytes, hbytes⟩ := List.getLast?_eq_some_iff.1 hlast
    obtain ⟨front', back, rfl, -, hback⟩ := exists_of_encode_eq (lt_of_allowsByte hb) hbytes
    obtain rfl := encode_eq_nil_iff.1 hback
    rw [allowsByte_eq] at hb
    exact ⟨_, by simp, hb⟩
  · rintro ⟨c, hlast, hc⟩
    obtain ⟨front', rfl⟩ := List.getLast?_eq_some_iff.1 hlast
    obtain ⟨b, hencode, hb⟩ := encode_of_allows hc
    exact ⟨b, by rw [encode_append, hencode, List.getLast?_concat], hb⟩

/-- The accepted markers among the bytes are those among the characters. -/
theorem acceptsAt_iff :
    lead.acceptsAt (encode line) i ↔
      ∃ front, lead.AcceptsBehind line front ∧ (encode front).length = i := by
  have hbefore : ∀ front, HasMarkerBehind line front → 0 < (encode front).length →
      (encode line)[(encode front).length - 1]? = (encode front).getLast? := by
    rintro front h hpos
    obtain ⟨back, rfl⟩ := h.isPrefix
    rw [encode_append, List.getElem?_append_left (by omega), List.getLast?_eq_getElem?]
  unfold CommentLead.acceptsAt
  rw [Bool.and_eq_true, Bool.and_eq_true, isMarkerAt_iff, decide_eq_true_eq]
  constructor
  · rintro ⟨⟨front, hmarked, rfl⟩, hpos, hallows⟩
    rw [hbefore front hmarked hpos, any_getLast?_encode] at hallows
    exact ⟨front, ⟨hmarked, hallows⟩, rfl⟩
  · rintro ⟨front, ⟨hmarked, hallows⟩, rfl⟩
    have hpos : 0 < (encode front).length := by
      obtain ⟨c, hlast, -⟩ := hallows
      refine List.length_pos_of_ne_nil fun hnil => ?_
      rw [encode_eq_nil_iff.1 hnil] at hlast
      cases hlast
    refine ⟨⟨front, hmarked, rfl⟩, hpos, ?_⟩
    rw [hbefore front hmarked hpos, any_getLast?_encode]
    exact hallows

theorem IsFirstMarker.isLeast (h : IsFirstMarker line front) :
    IsLeast {i | isMarkerAt (encode line) i} (encode front).length := by
  refine ⟨isMarkerAt_iff.2 ⟨front, h.marked, rfl⟩, fun i hi => ?_⟩
  obtain ⟨front', hfront', rfl⟩ := isMarkerAt_iff.1 hi
  exact length_encode_le (h.first front' hfront')

theorem CommentLead.IsLastAccepted.isGreatest (h : lead.IsLastAccepted line front) :
    IsGreatest {i | lead.acceptsAt (encode line) i} (encode front).length := by
  refine ⟨acceptsAt_iff.2 ⟨front, h.accepted, rfl⟩, fun i hi => ?_⟩
  obtain ⟨front', hfront', rfl⟩ := acceptsAt_iff.1 hi
  exact length_encode_le (h.last front' hfront')

/-- What stands in front of a place is what the bytes in front of it say. -/
theorem encode_eq_take (h : front <+: line) :
    encode front = (encode line).take (encode front).length := by
  obtain ⟨back, rfl⟩ := h
  rw [encode_append, List.take_left]

theorem exists_of_isLeast {f : Nat} (h : IsLeast {i | isMarkerAt (encode line) i} f) :
    ∃ first, IsFirstMarker line first ∧ (encode first).length = f := by
  obtain ⟨front, hfront, -⟩ := isMarkerAt_iff.1 h.1
  obtain ⟨first, hfirst⟩ := exists_isFirstMarker hfront
  exact ⟨first, hfirst, hfirst.isLeast.unique h⟩

theorem exists_of_isGreatest {c : Nat} (h : IsGreatest {i | lead.acceptsAt (encode line) i} c) :
    ∃ cut, lead.IsLastAccepted line cut ∧ (encode cut).length = c := by
  obtain ⟨front, hfront, -⟩ := acceptsAt_iff.1 h.1
  obtain ⟨cut, hcut⟩ := exists_isLastAccepted hfront
  exact ⟨cut, hcut, hcut.isGreatest.unique h⟩

theorem eq_of_encode_eq_take {first : List Char} (hfirst : first <+: line)
    (h : encode front = (encode line).take (encode first).length) : front = first :=
  encode_inj (h.trans (encode_eq_take hfirst).symm)

end

/-! ## Going backward -/

section

variable {lead : CommentLead} {bytes : List UInt8} {n c : Nat}

theorem acceptsAt_zero : lead.acceptsAt bytes 0 = false := by
  simp [CommentLead.acceptsAt]

theorem le_of_acceptsAt {i : Nat} (h : lead.acceptsAt bytes i) : i ≤ bytes.length - 2 := by
  unfold CommentLead.acceptsAt isMarkerAt at h
  rw [Bool.and_eq_true, List.isPrefixOf_iff_prefix] at h
  have hle := h.1.length_le
  rw [List.length_drop] at hle
  simp only [List.length_cons, List.length_nil] at hle
  omega

/-- From byte `n` backward the first accepted marker is found, if there is one. -/
theorem scanFrom_cases (lead : CommentLead) (bytes : List UInt8) (n : Nat) :
    (lead.scanFrom bytes n = none ∧ ∀ i ≤ n, lead.acceptsAt bytes i = false) ∨
      ∃ c, lead.scanFrom bytes n = some c ∧ IsGreatest {i | i ≤ n ∧ lead.acceptsAt bytes i} c := by
  induction n with
  | zero =>
    refine Or.inl ⟨rfl, fun i hi => ?_⟩
    rw [Nat.le_zero.1 hi]
    exact acceptsAt_zero
  | succ n ih =>
    unfold CommentLead.scanFrom
    by_cases h : lead.acceptsAt bytes (n + 1)
    · rw [if_pos h]
      exact Or.inr ⟨n + 1, rfl, ⟨Nat.le_refl _, h⟩, fun i hi => hi.1⟩
    · rw [if_neg h]
      -- what lies below `n + 1` and is not `n + 1` lies below `n`
      have hbelow : ∀ i, i ≤ n + 1 → lead.acceptsAt bytes i → i ≤ n := by
        intro i hi haccepts
        refine Nat.le_of_lt_succ (Nat.lt_of_le_of_ne hi ?_)
        rintro rfl
        exact h haccepts
      rcases ih with ⟨hnone, hall⟩ | ⟨c, hsome, ⟨hc, haccepts⟩, hgreatest⟩
      · refine Or.inl ⟨hnone, fun i hi => Bool.eq_false_iff.2 fun haccepts => ?_⟩
        rw [hall i (hbelow i hi haccepts)] at haccepts
        cases haccepts
      · exact Or.inr ⟨c, hsome, ⟨Nat.le_succ_of_le hc, haccepts⟩,
          fun i hi => hgreatest ⟨hbelow i hi.1 hi.2, hi.2⟩⟩

/-- Going backward ends at the last accepted marker, or there is none. -/
theorem scan_cases (lead : CommentLead) (bytes : List UInt8) :
    (lead.scan bytes = none ∧ ∀ i, lead.acceptsAt bytes i = false) ∨
      ∃ c, lead.scan bytes = some c ∧ IsGreatest {i | lead.acceptsAt bytes i} c := by
  rcases scanFrom_cases lead bytes (bytes.length - 2) with ⟨hnone, hall⟩ | ⟨c, hsome, hc, hgreatest⟩
  · refine Or.inl ⟨hnone, fun i => Bool.eq_false_iff.2 fun haccepts => ?_⟩
    rw [hall i (le_of_acceptsAt haccepts)] at haccepts
    cases haccepts
  · exact Or.inr ⟨c, hsome, hc.2, fun i hi => hgreatest ⟨le_of_acceptsAt hi, hi⟩⟩

theorem scan_eq_some_iff :
    lead.scan bytes = some c ↔ IsGreatest {i | lead.acceptsAt bytes i} c := by
  rcases scan_cases lead bytes with ⟨hnone, hall⟩ | ⟨c', hsome, hgreatest⟩
  · rw [hnone]
    simp only [reduceCtorEq, false_iff]
    intro h
    have haccepts : lead.acceptsAt bytes c = true := h.1
    rw [hall c] at haccepts
    cases haccepts
  · rw [hsome, Option.some.injEq]
    constructor
    · rintro rfl
      exact hgreatest
    · exact fun h => hgreatest.unique h

/-- Both ways of looking for the last accepted marker lead to the same place. -/
theorem scan_encode (lead : CommentLead) (line : List Char) :
    lead.scan (encode line) =
      (lastAccepted? lead line).map fun i => (encode (line.take i)).length := by
  cases h : lastAccepted? lead line with
  | some i => exact scan_eq_some_iff.2 (isLastAccepted_of_lastAccepted? h).1.isGreatest
  | none =>
    rcases scan_cases lead (encode line) with ⟨hnone, -⟩ | ⟨c, -, hgreatest⟩
    · exact hnone
    · obtain ⟨front, hfront, -⟩ := acceptsAt_iff.1 hgreatest.1
      exact absurd hfront (lastAccepted?_eq_none_iff.1 h front)

end

/-! ## Main theorem -/

section

variable {lead : CommentLead} {line : List Char}

/-- Nowhere among the bytes is what stands nowhere among the characters. -/
theorem forall_eq_false_iff {isAt : Nat → Bool} {standsBehind : List Char → Prop}
    (h : ∀ i, isAt i ↔ ∃ front, standsBehind front ∧ (encode front).length = i) :
    (∀ i, isAt i = false) ↔ ∀ front, ¬ standsBehind front := by
  constructor
  · intro hnone front hfront
    have hat := (h _).2 ⟨front, hfront, rfl⟩
    rw [hnone] at hat
    cases hat
  · intro hnone i
    refine Bool.eq_false_iff.2 fun hat => ?_
    obtain ⟨front, hfront, -⟩ := (h i).1 hat
    exact hnone front hfront

theorem unaccepted_iff :
    (∀ i, lead.acceptsAt (encode line) i = false) ↔ ∀ front, ¬ lead.AcceptsBehind line front :=
  forall_eq_false_iff fun _ => acceptsAt_iff

theorem unmarked_iff :
    (∀ i, isMarkerAt (encode line) i = false) ↔ ∀ front, ¬ HasMarkerBehind line front :=
  forall_eq_false_iff fun _ => isMarkerAt_iff

theorem remainder_withoutComment? (lead : CommentLead) (line : List Char) :
    Remainder lead line (withoutComment? lead line) := by
  by_cases hmarked : ∀ front, ¬ HasMarkerBehind line front
  · rw [withoutComment?_of_unmarked hmarked]
    exact .unmarked (unmarked_iff.2 hmarked)
  obtain ⟨front, hfront⟩ := not_forall_not.1 hmarked
  obtain ⟨first, hfirst⟩ := exists_isFirstMarker hfront
  have hslice := encode_eq_take hfirst.marked.isPrefix
  by_cases hnone : ∀ front, ¬ lead.AcceptsBehind line front
  · rw [withoutComment?_of_unaccepted hfirst hnone]
    split
    · rename_i hblank
      exact .comment (unaccepted_iff.2 hnone) hfirst.isLeast hslice (List.all_eq_true.1 hblank)
    · rename_i hkept
      exact .content (unaccepted_iff.2 hnone) hfirst.isLeast hslice (not_all_isBlank_iff.1 hkept)
  · obtain ⟨front', hfront'⟩ := not_forall_not.1 hnone
    obtain ⟨cut, hcut⟩ := exists_isLastAccepted hfront'
    rw [withoutComment?_of_accepted hfirst hcut]
    by_cases heq : first = cut
    · subst heq
      by_cases hblank : first.all isBlank = true
      · rw [if_neg fun h => h.2 hblank]
        exact .blank hcut.isGreatest hslice (List.all_eq_true.1 hblank)
      · rw [if_pos ⟨rfl, hblank⟩]
        exact .cut hcut.isGreatest hfirst.isLeast hslice (not_all_isBlank_iff.1 hblank)
    · rw [if_neg fun h => heq h.1]
      refine .markerLeft hcut.isGreatest hfirst.isLeast fun hlength => heq ?_
      exact eq_of_length_encode_eq (hfirst.first cut hcut.accepted.1) hlength.symm

theorem Remainder.eq {r : Option (List Char)} (h : Remainder lead line r) :
    withoutComment? lead line = r := by
  cases h with
  | unmarked hnone => exact withoutComment?_of_unmarked (unmarked_iff.1 hnone)
  | cut hgreatest hleast hfront hkept =>
    obtain ⟨cut, hcut, rfl⟩ := exists_of_isGreatest hgreatest
    obtain ⟨first, hfirst, hlength⟩ := exists_of_isLeast hleast
    obtain rfl := eq_of_length_encode_eq (hfirst.first cut hcut.accepted.1) hlength
    obtain rfl := eq_of_encode_eq_take hfirst.marked.isPrefix hfront
    rw [withoutComment?_of_accepted hfirst hcut, if_pos ⟨rfl, not_all_isBlank_iff.2 hkept⟩]
  | blank hgreatest hfront hblank =>
    obtain ⟨cut, hcut, rfl⟩ := exists_of_isGreatest hgreatest
    obtain ⟨first, hfirst⟩ := exists_isFirstMarker hcut.accepted.1
    obtain rfl := eq_of_encode_eq_take hcut.accepted.1.isPrefix hfront
    rw [withoutComment?_of_accepted hfirst hcut, if_neg]
    exact fun h => h.2 (List.all_eq_true.2 hblank)
  | markerLeft hgreatest hleast hne =>
    obtain ⟨cut, hcut, rfl⟩ := exists_of_isGreatest hgreatest
    obtain ⟨first, hfirst, rfl⟩ := exists_of_isLeast hleast
    rw [withoutComment?_of_accepted hfirst hcut, if_neg]
    rintro ⟨rfl, -⟩
    exact hne rfl
  | comment hnone hleast hfront hblank =>
    obtain ⟨first, hfirst, rfl⟩ := exists_of_isLeast hleast
    obtain rfl := eq_of_encode_eq_take hfirst.marked.isPrefix hfront
    rw [withoutComment?_of_unaccepted hfirst (unaccepted_iff.1 hnone),
      if_pos (List.all_eq_true.2 hblank)]
  | content hnone hleast hfront hkept =>
    obtain ⟨first, hfirst, rfl⟩ := exists_of_isLeast hleast
    obtain rfl := eq_of_encode_eq_take hfirst.marked.isPrefix hfront
    rw [withoutComment?_of_unaccepted hfirst (unaccepted_iff.1 hnone),
      if_neg (not_all_isBlank_iff.2 hkept)]

/-- What is left of a line is what its first marker and its last accepted one say.  Every marker stands
between two characters, and going backward through the bytes of any line ends at the last accepted
marker, or finds none, and so at the place where the line is cut. -/
theorem withoutComment?_closedForm (lead : CommentLead) (line : List Char) :
    (∀ r, withoutComment? lead line = r ↔ Remainder lead line r) ∧
    (∀ i, isMarkerAt (encode line) i → ∃ front, encode front = (encode line).take i) ∧
    (∀ c, lead.scan (encode line) = some c ↔
      IsGreatest {i | lead.acceptsAt (encode line) i} c) ∧
    lead.scan (encode line) =
      (lastAccepted? lead line).map fun i => (encode (line.take i)).length := by
  refine ⟨fun r => ⟨?_, Remainder.eq⟩, fun i hi => ?_, fun c => scan_eq_some_iff,
    scan_encode lead line⟩
  · rintro rfl
    exact remainder_withoutComment? lead line
  · obtain ⟨front, hfront, rfl⟩ := isMarkerAt_iff.1 hi
    exact ⟨front, encode_eq_take hfront.isPrefix⟩

/-- Of two markers that overlap only the first is accepted, behind two characters that take three
bytes. -/
theorem withoutComment?_closedForm_overlappingMarkers :
    let line := ['é', 'a', '/', '/', '/']
    isMarkerAt (encode line) 3 ∧ (∃ front, encode front = (encode line).take 3) ∧
    CommentLead.letter.scan (encode line) = some 3 ∧
    IsGreatest {i | CommentLead.letter.acceptsAt (encode line) i} 3 ∧
    withoutComment? .letter line = some ['é', 'a'] ∧ Remainder .letter line (some ['é', 'a']) := by
  intro line
  have hmarker : isMarkerAt (encode line) 3 := by decide
  have hscan : CommentLead.letter.scan (encode line) = some 3 := by decide
  have hleft : withoutComment? .letter line = some ['é', 'a'] := by decide
  obtain ⟨hform, hslices, hfound, -⟩ := withoutComment?_closedForm .letter line
  exact ⟨hmarker, hslices 3 hmarker, hscan, (hfound 3).1 hscan, hleft, (hform _).1 hleft⟩

end

end Renumber
