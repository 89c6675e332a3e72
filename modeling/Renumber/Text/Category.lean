import Renumber.Text.Category.Letters
import Renumber.Text.Category.Marks
import Renumber.Text.Category.Numbers
import Renumber.Text.Category.Others
import Renumber.Text.Category.Signs
import Renumber.Text.DecimalDigit

/-!
# General categories

Every character has one general category.  A character that no other category holds is unassigned;
surrogates, which have a category of their own, are no characters.
-/

namespace Renumber.Text

/-! ## Algorithm -/

inductive Category where
  | uppercaseLetter
  | lowercaseLetter
  | titlecaseLetter
  | modifierLetter
  | otherLetter
  | nonspacingMark
  | spacingMark
  | enclosingMark
  | decimalNumber
  | letterNumber
  | otherNumber
  | connectorPunctuation
  | dashPunctuation
  | openPunctuation
  | closePunctuation
  | initialPunctuation
  | finalPunctuation
  | otherPunctuation
  | mathSymbol
  | currencySymbol
  | modifierSymbol
  | otherSymbol
  | spaceSeparator
  | lineSeparator
  | paragraphSeparator
  | control
  | format
  | privateUse
  | unassigned
  deriving DecidableEq

namespace Category

def cased : List Category := [uppercaseLetter, lowercaseLetter, titlecaseLetter]

def letters : List Category := cased ++ [modifierLetter, otherLetter]

def marks : List Category := [nonspacingMark, spacingMark, enclosingMark]

def numbers : List Category := [decimalNumber, letterNumber, otherNumber]

def punctuation : List Category :=
  [connectorPunctuation, dashPunctuation, openPunctuation, closePunctuation, initialPunctuation,
   finalPunctuation, otherPunctuation]

def symbols : List Category := [mathSymbol, currencySymbol, modifierSymbol, otherSymbol]

def separators : List Category := [spaceSeparator, lineSeparator, paragraphSeparator]

def invisible : List Category := [control, format, privateUse]

def assigned : List Category :=
  letters ++ marks ++ numbers ++ punctuation ++ symbols ++ separators ++ invisible

/-- The runs of an assigned category, ascending. -/
def assignedRanges : Category → List (Nat × Nat)
  | uppercaseLetter => uppercaseLetterRanges
  | lowercaseLetter => lowercaseLetterRanges
  | titlecaseLetter => titlecaseLetterRanges
  | modifierLetter => modifierLetterRanges
  | otherLetter => otherLetterRanges
  | nonspacingMark => nonspacingMarkRanges
  | spacingMark => spacingMarkRanges
  | enclosingMark => enclosingMarkRanges
  | decimalNumber => decimalDigitRanges
  | letterNumber => letterNumberRanges
  | otherNumber => otherNumberRanges
  | connectorPunctuation => connectorRanges
  | dashPunctuation => dashRanges
  | openPunctuation => openPunctuationRanges
  | closePunctuation => closePunctuationRanges
  | initialPunctuation => initialQuoteRanges
  | finalPunctuation => finalQuoteRanges
  | otherPunctuation => otherPunctuationRanges
  | mathSymbol => mathSymbolRanges
  | currencySymbol => currencySymbolRanges
  | modifierSymbol => modifierSymbolRanges
  | otherSymbol => otherSymbolRanges
  | spaceSeparator => spaceSeparatorRanges
  | lineSeparator => lineSeparatorRanges
  | paragraphSeparator => paragraphSeparatorRanges
  | control => controlRanges
  | format => formatRanges
  | privateUse => privateUseRanges
  | unassigned => []

/-- The runs of a category, ascending. -/
def ranges : Category → List (Nat × Nat)
  | unassigned => complementRanges (normalized (assigned.flatMap assignedRanges))
  | c => c.assignedRanges

end Category

/-- Whether a character is a number of any kind: a decimal digit, a letter that counts, or another
figure such as a fraction. -/
def isNumber (c : Char) : Bool :=
  Category.numbers.any fun category => inRanges category.ranges c

end Renumber.Text
