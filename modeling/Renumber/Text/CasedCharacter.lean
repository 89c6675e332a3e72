import Renumber.Text.Category

/-!
# Upper and lower case

A character is lower case if it is of the category of lowercase letters or one of a few other
characters, such as the small Roman numerals; upper case likewise.
-/

namespace Renumber.Text

/-! ## Algorithm -/

/-- The lower case characters of other categories, as runs of code points, ascending. -/
def otherLowercaseRanges : List (Nat × Nat) :=
  [(0xAA, 0xAA), (0xBA, 0xBA), (0x2B0, 0x2B8), (0x2C0, 0x2C1), (0x2E0, 0x2E4), (0x345, 0x345),
   (0x37A, 0x37A), (0x10FC, 0x10FC), (0x1D2C, 0x1D6A), (0x1D78, 0x1D78), (0x1D9B, 0x1DBF),
   (0x2071, 0x2071), (0x207F, 0x207F), (0x2090, 0x209C), (0x2170, 0x217F), (0x24D0, 0x24E9),
   (0x2C7C, 0x2C7D), (0xA69C, 0xA69D), (0xA770, 0xA770), (0xA7F2, 0xA7F4), (0xA7F8, 0xA7F9),
   (0xAB5C, 0xAB5F), (0xAB69, 0xAB69), (0x10780, 0x10780), (0x10783, 0x10785), (0x10787, 0x107B0),
   (0x107B2, 0x107BA), (0x1E030, 0x1E06D)]

/-- The upper case characters of other categories, as runs of code points, ascending. -/
def otherUppercaseRanges : List (Nat × Nat) :=
  [(0x2160, 0x216F), (0x24B6, 0x24CF), (0x1F130, 0x1F149), (0x1F150, 0x1F169), (0x1F170, 0x1F189)]

def lowercaseRanges : List (Nat × Nat) :=
  unionRanges Category.lowercaseLetter.ranges otherLowercaseRanges

def uppercaseRanges : List (Nat × Nat) :=
  unionRanges Category.uppercaseLetter.ranges otherUppercaseRanges

end Renumber.Text
