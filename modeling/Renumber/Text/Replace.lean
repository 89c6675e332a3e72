/-!
# Replacing a text inside another

`replaceAll old new text` writes `new` for the occurrences of `old` in `text`, found from left to
right without overlap.  `old` is not to be empty.
-/

namespace Renumber.Text

/-! ## Algorithm -/

/-- Replaces from here on, after passing over `pending` characters of an occurrence. -/
def replaceFrom (old new : List Char) (pending : Nat) : List Char → List Char
  | [] => []
  | c :: rest =>
    match pending with
    | n + 1 => replaceFrom old new n rest
    | 0 =>
      if old.isPrefixOf (c :: rest) then new ++ replaceFrom old new (old.length - 1) rest
      else c :: replaceFrom old new 0 rest

def replaceAll (old new text : List Char) : List Char := replaceFrom old new 0 text

/-! ## Lemmas -/

theorem replaceAll_of_absent {old new text : List Char} (h : ¬ old <:+: text) :
    replaceAll old new text = text := by
  unfold replaceAll
  induction text with
  | nil => rfl
  | cons c rest ih =>
    have hhere : ¬ old.isPrefixOf (c :: rest) = true := fun hprefix =>
      h (List.isPrefixOf_iff_prefix.1 hprefix).isInfix
    have hrest : ¬ old <:+: rest := fun hinfix => h (List.infix_cons hinfix)
    simp only [replaceFrom, if_neg hhere, ih hrest]

end Renumber.Text
