import Mathlib.Data.List.SplitBy
import Renumber.Header.Basic

/-!
# The lines of a text

`cutAfter` cuts a list behind every end mark; what is left over at the end, if anything, is the last
piece.  With the line feed as end mark this is how a header is cut into lines
(`splitLines_eq_cutAfter`).

`IsCut text lines` says what the lines of a text are: the content of a line, without a line feed, and
its ending, which is a line feed with the carriage return in front of it if there is one, or nothing
for the rest of the text.  Every text has such lines (`exists_isCut`), and cutting its bytes gives the
bytes of its lines (`cutAfter_encode`): in UTF-8 the byte of a line feed stands for nothing else
(`lineFeed_mem_encode`).
-/

namespace Renumber

/-- Cuts behind every end mark. -/
def cutAfter {α : Type} (isEnd : α → Bool) : List α → List (List α)
  | [] => []
  | a :: rest =>
    if isEnd a then [a] :: cutAfter isEnd rest
    else
      match cutAfter isEnd rest with
      | [] => [[a]]
      | line :: lines => (a :: line) :: lines

def isLineFeed (b : UInt8) : Bool := b == 0x0A

/-- What a line says, and how it ends. -/
structure TextLine where
  content : List Char
  ending : List Char

namespace TextLine

def text (l : TextLine) : List Char := l.content ++ l.ending

/-- A line that is ended by a line feed, with or without a carriage return. -/
inductive IsEnded : TextLine → Prop
  | lf {content : List Char} (h : '\n' ∉ content) (hcr : content.getLast? ≠ some '\r') :
      IsEnded ⟨content, ['\n']⟩
  | crlf {content : List Char} (h : '\n' ∉ content) : IsEnded ⟨content, ['\r', '\n']⟩

end TextLine

/-- The lines of a text; what is behind the last line feed is a line if it is not empty. -/
inductive IsCut : List Char → List TextLine → Prop
  | nil : IsCut [] []
  | rest {content : List Char} (hne : content ≠ []) (h : '\n' ∉ content) :
      IsCut content [⟨content, []⟩]
  | line {l : TextLine} {text : List Char} {lines : List TextLine} (hl : l.IsEnded)
      (h : IsCut text lines) : IsCut (l.text ++ text) (l :: lines)

/-! ## Cutting -/

section

variable {α : Type} {isEnd : α → Bool}

/-- A list is empty, or without end marks, or goes on behind its first end mark. -/
theorem cutInduction (isEnd : α → Bool) {motive : List α → Prop} (nil : motive [])
    (rest : ∀ l : List α, l ≠ [] → (∀ a ∈ l, isEnd a = false) → motive l)
    (line : ∀ (body : List α) (e : α) (tail : List α), (∀ a ∈ body, isEnd a = false) →
      isEnd e = true → motive tail → motive (body ++ e :: tail)) (l : List α) : motive l := by
  induction hn : l.length using Nat.strongRecOn generalizing l with
  | ind n ih =>
    by_cases hl : ∀ a ∈ l, isEnd a = false
    · by_cases hne : l = []
      · rw [hne]
        exact nil
      · exact rest l hne hl
    · have hsome : (l.find? isEnd).isSome := by simpa using hl
      obtain ⟨e, he⟩ := Option.isSome_iff_exists.1 hsome
      obtain ⟨hend, body, tail, rfl, hbody⟩ := List.find?_eq_some_iff_append.1 he
      refine line body e tail (by simpa using hbody) hend (ih tail.length ?_ tail rfl)
      rw [← hn]
      simp
      omega

theorem cutAfter_of_line {body tail : List α} {e : α} (hb : ∀ a ∈ body, isEnd a = false)
    (he : isEnd e = true) :
    cutAfter isEnd (body ++ e :: tail) = (body ++ [e]) :: cutAfter isEnd tail := by
  induction body with
  | nil => simp [cutAfter, he]
  | cons a body ih =>
    have ha := hb a List.mem_cons_self
    have := ih fun a h => hb a (List.mem_cons_of_mem _ h)
    simp [cutAfter, ha, this]

theorem cutAfter_of_rest {l : List α} (hne : l ≠ []) (h : ∀ a ∈ l, isEnd a = false) :
    cutAfter isEnd l = [l] := by
  induction l with
  | nil => exact absurd rfl hne
  | cons a l ih =>
    have ha := h a List.mem_cons_self
    by_cases hl : l = []
    · simp [cutAfter, ha, hl]
    · have := ih hl fun a h' => h a (List.mem_cons_of_mem _ h')
      simp [cutAfter, ha, this]

/-- A piece is not cut again. -/
theorem cutAfter_of_mem {l piece : List α} (h : piece ∈ cutAfter isEnd l) :
    cutAfter isEnd piece = [piece] := by
  induction l using cutInduction isEnd with
  | nil => simp [cutAfter] at h
  | rest l hne hl =>
    rw [cutAfter_of_rest hne hl, List.mem_singleton] at h
    rw [h, cutAfter_of_rest hne hl]
  | line body e tail hb he ih =>
    rw [cutAfter_of_line hb he, List.mem_cons] at h
    rcases h with rfl | h
    · rw [cutAfter_of_line hb he]
      rfl
    · exact ih h

end

theorem isChain_of_noLineFeed {body : List UInt8} (h : ∀ b ∈ body, isLineFeed b = false)
    (e : UInt8) : (body ++ [e]).IsChain fun b _ => decide (b ≠ 0x0A) = true := by
  induction body with
  | nil => simp
  | cons a body ih =>
    have ha : a ≠ 0x0A := by simpa [isLineFeed] using h a List.mem_cons_self
    have := ih fun b hb => h b (List.mem_cons_of_mem _ hb)
    cases body with
    | nil => simpa using ha
    | cons b body => exact List.isChain_cons_cons.2 ⟨by simpa using ha, this⟩

theorem splitLines_eq_cutAfter (input : List UInt8) :
    splitLines input = cutAfter isLineFeed input := by
  unfold splitLines
  induction input using cutInduction isLineFeed with
  | nil => rfl
  | rest l hne hl =>
    rw [cutAfter_of_rest hne hl]
    apply List.splitBy_of_isChain hne
    -- whether the last member is an end mark does not matter to a chain
    have := isChain_of_noLineFeed (fun b hb => hl b (l.dropLast_subset hb)) (l.getLast hne)
    rwa [List.dropLast_concat_getLast] at this
  | line body e tail hb he ih =>
    have hlf : e = 0x0A := by simpa [isLineFeed] using he
    rw [cutAfter_of_line hb he, ← ih, List.append_cons, List.splitBy_append (by simp [hlf]),
      List.splitBy_of_isChain (by simp) (isChain_of_noLineFeed hb e)]
    rfl

/-! ## Bytes -/

theorem encode_eq_flatMap (text : List Char) : encode text = text.flatMap String.utf8EncodeChar := by
  unfold encode Text.bytesOf
  rw [String.toByteArray_ofList]
  simp [List.utf8Encode]

theorem encode_append (a b : List Char) : encode (a ++ b) = encode a ++ encode b := by
  rw [encode_eq_flatMap, encode_eq_flatMap, encode_eq_flatMap, List.flatMap_append]

theorem encode_eq_nil_iff {text : List Char} : encode text = [] ↔ text = [] := by
  rw [encode_eq_flatMap, List.flatMap_eq_nil_iff]
  constructor
  · intro h
    cases text with
    | nil => rfl
    | cons c rest => exact absurd (h c List.mem_cons_self) String.utf8EncodeChar_ne_nil
  · rintro rfl
    simp

theorem encode_toList (text : String) : encode text.toList = Text.bytesOf text := by
  unfold encode
  rw [String.ofList_toList]

/-- In a character of several bytes every byte has its high bit set. -/
theorem le_of_mem_utf8EncodeChar {c : Char} (hc : 0x7F < c.val.toNat) {b : UInt8}
    (hb : b ∈ String.utf8EncodeChar c) : 0x80 ≤ b.toNat := by
  unfold String.utf8EncodeChar at hb
  simp only [if_neg (Nat.not_le_of_lt hc)] at hb
  generalize c.val.toNat = v at hb
  by_cases h2 : v ≤ 0x7FF
  · simp only [if_pos h2, List.mem_cons, List.not_mem_nil, or_false] at hb
    rcases hb with rfl | rfl <;> rw [UInt8.toNat_ofNat'] <;> omega
  rw [if_neg h2] at hb
  by_cases h3 : v ≤ 0xFFFF
  · simp only [if_pos h3, List.mem_cons, List.not_mem_nil, or_false] at hb
    rcases hb with rfl | rfl | rfl <;> rw [UInt8.toNat_ofNat'] <;> omega
  · simp only [if_neg h3, List.mem_cons, List.not_mem_nil, or_false] at hb
    rcases hb with rfl | rfl | rfl | rfl <;> rw [UInt8.toNat_ofNat'] <;> omega

theorem lineFeed_mem_utf8EncodeChar {c : Char} :
    (0x0A : UInt8) ∈ String.utf8EncodeChar c ↔ c = '\n' := by
  constructor
  · intro h
    by_cases hc : c.val.toNat ≤ 0x7F
    · unfold String.utf8EncodeChar at h
      simp only [if_pos hc, List.mem_singleton, ← UInt8.toNat_inj, UInt8.toNat_ofNat'] at h
      rw [← Char.val_inj, ← UInt32.toNat_inj]
      show c.val.toNat = 10
      change 10 = _ at h
      omega
    · have := le_of_mem_utf8EncodeChar (Nat.lt_of_not_le hc) h
      contradiction
  · rintro rfl
    decide

theorem lineFeed_mem_encode {text : List Char} : (0x0A : UInt8) ∈ encode text ↔ '\n' ∈ text := by
  rw [encode_eq_flatMap, List.mem_flatMap]
  constructor
  · rintro ⟨c, hc, h⟩
    rwa [← lineFeed_mem_utf8EncodeChar.1 h]
  · intro h
    exact ⟨'\n', h, lineFeed_mem_utf8EncodeChar.2 rfl⟩

theorem isLineFeed_of_mem_encode {text : List Char} (h : '\n' ∉ text) :
    ∀ b ∈ encode text, isLineFeed b = false := by
  intro b hb
  unfold isLineFeed
  rw [beq_eq_false_iff_ne]
  rintro rfl
  exact h (lineFeed_mem_encode.1 hb)

/-! ## Lines -/

theorem TextLine.IsEnded.text_eq {l : TextLine} (h : l.IsEnded) :
    ∃ body, l.text = body ++ ['\n'] ∧ '\n' ∉ body := by
  cases h with
  | @lf content h hcr => exact ⟨content, rfl, h⟩
  | @crlf content h => exact ⟨content ++ ['\r'], by simp [TextLine.text], by simp [h]⟩

theorem exists_isCut (text : List Char) : ∃ lines, IsCut text lines := by
  induction text using cutInduction (· == '\n') with
  | nil => exact ⟨[], .nil⟩
  | rest l hne hl =>
    exact ⟨_, .rest hne fun h => by simpa using hl '\n' h⟩
  | line body e tail hb he ih =>
    obtain ⟨lines, hlines⟩ := ih
    obtain rfl : e = '\n' := by simpa using he
    have hbody : '\n' ∉ body := fun h => by simpa using hb '\n' h
    by_cases hcr : body.getLast? = some '\r'
    · obtain ⟨content, rfl⟩ := List.getLast?_eq_some_iff.1 hcr
      have hcontent : '\n' ∉ content := fun h => hbody (List.mem_append_left _ h)
      have := IsCut.line (.crlf hcontent) hlines
      simp only [TextLine.text, List.append_assoc, List.cons_append, List.nil_append] at this ⊢
      exact ⟨_, this⟩
    · have := IsCut.line (.lf hbody hcr) hlines
      simp only [TextLine.text, List.append_assoc, List.cons_append, List.nil_append] at this
      exact ⟨_, this⟩

theorem cutAfter_encode {text : List Char} {lines : List TextLine} (h : IsCut text lines) :
    cutAfter isLineFeed (encode text) = lines.map fun l => encode l.text := by
  induction h with
  | nil => rfl
  | @rest content hne h =>
    rw [cutAfter_of_rest (mt encode_eq_nil_iff.1 hne) (isLineFeed_of_mem_encode h)]
    simp [TextLine.text]
  | @line l text lines hl h ih =>
    obtain ⟨body, hbody, hlf⟩ := hl.text_eq
    have hencode : encode ['\n'] = [0x0A] := by decide
    rw [encode_append, hbody, encode_append, hencode, ← List.append_cons,
      cutAfter_of_line (isLineFeed_of_mem_encode hlf) rfl, ih]
    simp [hbody, encode_append, hencode]

theorem splitEnding_of_notMem {text : List Char} (h : '\n' ∉ text) :
    splitEnding text = (text, []) := by
  unfold splitEnding
  split
  · rename_i hr
    exact absurd (List.mem_reverse.1 (hr ▸ List.mem_cons_self)) h
  · rename_i hr
    exact absurd (List.mem_reverse.1 (hr ▸ List.mem_cons_self)) h
  · rfl

/-- A text of one line is split where its ending begins. -/
theorem IsCut.splitEnding_eq {text : List Char} {l : TextLine} (h : IsCut text [l]) :
    splitEnding text = (l.content, l.ending) := by
  cases h with
  | rest hne h => exact splitEnding_of_notMem h
  | line hl h =>
    cases h
    rw [List.append_nil]
    unfold splitEnding
    cases hl with
    | @lf content h hcr =>
      have hr : (⟨content, ['\n']⟩ : TextLine).text.reverse = '\n' :: content.reverse := by
        simp [TextLine.text]
      rw [hr]
      split
      · rename_i rest he
        have hlast : content.getLast? = some '\r' := by
          rw [← List.head?_reverse, (List.cons.inj he).2]
          rfl
        exact absurd hlast hcr
      · rename_i rest _ he
        rw [← (List.cons.inj he).2, List.reverse_reverse]
      · rename_i hno
        exact absurd rfl (hno _)
    | @crlf content h =>
      have hr : (⟨content, ['\r', '\n']⟩ : TextLine).text.reverse =
          '\n' :: '\r' :: content.reverse := by
        simp [TextLine.text]
      rw [hr]
      simp

theorem IsCut.text_eq {text : List Char} {l : TextLine} (h : IsCut text [l]) : text = l.text := by
  cases h with
  | rest => exact (List.append_nil _).symm
  | line _ h =>
    cases h
    exact List.append_nil _

theorem IsCut.eq_of_text_eq {text : List Char} {l l' : TextLine} (h : IsCut text [l])
    (h' : IsCut text [l']) : l = l' := by
  have hsplit := h.splitEnding_eq.symm.trans h'.splitEnding_eq
  cases l
  cases l'
  simpa using hsplit

theorem IsCut.of_mem {text : List Char} {lines : List TextLine} (h : IsCut text lines)
    {l : TextLine} (hl : l ∈ lines) : IsCut l.text [l] := by
  induction h with
  | nil => cases hl
  | rest hne h =>
    rw [List.mem_singleton] at hl
    subst hl
    simpa [TextLine.text] using IsCut.rest hne h
  | line hended h ih =>
    rcases List.mem_cons.1 hl with rfl | hl
    · simpa using IsCut.line hended .nil
    · exact ih hl

/-- A piece of a header that can be read is one line. -/
theorem exists_isCut_of_mem {input : List UInt8} {text : String}
    (h : Text.bytesOf text ∈ cutAfter isLineFeed input) : ∃ l, IsCut text.toList [l] := by
  obtain ⟨lines, hlines⟩ := exists_isCut text.toList
  have hcut := cutAfter_encode hlines
  rw [encode_toList, cutAfter_of_mem h] at hcut
  obtain ⟨l, rfl⟩ := List.length_eq_one_iff.1 (by simpa using (congrArg List.length hcut).symm)
  exact ⟨l, hlines⟩

end Renumber
