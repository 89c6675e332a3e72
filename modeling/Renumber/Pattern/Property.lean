import Renumber.Pattern.NamedSet
import Renumber.Text.CasedCharacter
import Renumber.Text.Emoji
import Renumber.Text.Identifier
import Renumber.Text.Ideograph
import Renumber.Text.MathCharacter
import Renumber.Text.Script

/-!
# Properties of characters

The sets that a pattern names by a property: a general category or a group of categories, a script,
or a property that characters have or have not.  Categories and scripts can also be given as the
value of `gc` and of `sc`.  Names are compared without regard to case, blanks, underscores, hyphens
and an `is` in front.

Ages, script extensions, the classes of graphemes, words and sentences, and the rarer properties that
characters have or have not, such as being a diacritic, are not known here, so no pattern with one of them
can be read.  Whoever runs a command says how patterns are read, and may know more.
-/

namespace Renumber.Pattern.Property

/-! ## Algorithm -/

def ofCategories (categories : List Text.Category) : CharSet :=
  .ofRanges (categories.flatMap Text.Category.ranges)

/-- The categories and their groups by name. -/
def category? (name : String) : Option (List Text.Category) :=
  match name with
  | "l" | "letter" => some Text.Category.letters
  | "lc" | "casedletter" => some Text.Category.cased
  | "lu" | "uppercaseletter" => some [.uppercaseLetter]
  | "ll" | "lowercaseletter" => some [.lowercaseLetter]
  | "lt" | "titlecaseletter" => some [.titlecaseLetter]
  | "lm" | "modifierletter" => some [.modifierLetter]
  | "lo" | "otherletter" => some [.otherLetter]
  | "m" | "mark" | "combiningmark" => some Text.Category.marks
  | "mn" | "nonspacingmark" => some [.nonspacingMark]
  | "mc" | "spacingmark" => some [.spacingMark]
  | "me" | "enclosingmark" => some [.enclosingMark]
  | "n" | "number" => some Text.Category.numbers
  | "nd" | "decimalnumber" | "digit" => some [.decimalNumber]
  | "nl" | "letternumber" => some [.letterNumber]
  | "no" | "othernumber" => some [.otherNumber]
  | "p" | "punctuation" | "punct" => some Text.Category.punctuation
  | "pc" | "connectorpunctuation" => some [.connectorPunctuation]
  | "pd" | "dashpunctuation" => some [.dashPunctuation]
  | "ps" | "openpunctuation" => some [.openPunctuation]
  | "pe" | "closepunctuation" => some [.closePunctuation]
  | "pi" | "initialpunctuation" => some [.initialPunctuation]
  | "pf" | "finalpunctuation" => some [.finalPunctuation]
  | "po" | "otherpunctuation" => some [.otherPunctuation]
  | "s" | "symbol" => some Text.Category.symbols
  | "sm" | "mathsymbol" => some [.mathSymbol]
  | "sc" | "currencysymbol" => some [.currencySymbol]
  | "sk" | "modifiersymbol" => some [.modifierSymbol]
  | "so" | "othersymbol" => some [.otherSymbol]
  | "z" | "separator" => some Text.Category.separators
  | "zs" | "spaceseparator" => some [.spaceSeparator]
  | "zl" | "lineseparator" => some [.lineSeparator]
  | "zp" | "paragraphseparator" => some [.paragraphSeparator]
  | "c" | "other" => some (.unassigned :: Text.Category.invisible)
  | "cc" | "control" | "cntrl" => some [.control]
  | "cf" | "format" => some [.format]
  | "co" | "privateuse" => some [.privateUse]
  | "cn" | "unassigned" => some [.unassigned]
  | _ => none

def categorySet? (name : String) : Option CharSet :=
  match name with
  | "any" => some .all
  | "ascii" => some .ascii
  | "assigned" => some (ofCategories [.unassigned]).compl
  | _ => (category? name).map ofCategories

def identifierStart : CharSet :=
  ((ofCategories (.letterNumber :: Text.Category.letters)).union
    (.ofRanges Text.otherIdentifierStartRanges)).diff (.ofRanges Text.notIdentifierStartRanges)

def identifierPart : CharSet :=
  (identifierStart.union (.ofRanges Text.otherIdentifierPartRanges)).union
    (ofCategories [.nonspacingMark, .spacingMark, .decimalNumber, .connectorPunctuation])

def closedIdentifierStart : CharSet :=
  identifierStart.diff (.ofRanges (Text.unclosedRanges ++ Text.unclosedStartRanges))

def closedIdentifierPart : CharSet := identifierPart.diff (.ofRanges Text.unclosedRanges)

/-- The dashes by category, and the signs of other categories that are dashes. -/
def dash : CharSet :=
  (ofCategories [.dashPunctuation]).union (.ofCodes [0x2053, 0x207B, 0x208B, 0x2212])

/-- The hexadecimal digits, also in full width. -/
def hexDigit : CharSet :=
  .ofRanges [(0x30, 0x39), (0x41, 0x46), (0x61, 0x66), (0xFF10, 0xFF19), (0xFF21, 0xFF26),
    (0xFF41, 0xFF46)]

def quotationMark : CharSet :=
  .ofRanges [(0x22, 0x22), (0x27, 0x27), (0xAB, 0xAB), (0xBB, 0xBB), (0x2018, 0x201F),
    (0x2039, 0x203A), (0x2E42, 0x2E42), (0x300C, 0x300F), (0x301D, 0x301F), (0xFE41, 0xFE44),
    (0xFF02, 0xFF02), (0xFF07, 0xFF07), (0xFF62, 0xFF63)]

/-- The properties that a character has or has not. -/
def binarySet? (name : String) : Option CharSet :=
  match name with
  | "alpha" | "alphabetic" => some (.ofRanges Text.letterRanges)
  | "lower" | "lowercase" => some (.ofRanges Text.lowercaseRanges)
  | "upper" | "uppercase" => some (.ofRanges Text.uppercaseRanges)
  | "cased" =>
    some (.ofRanges
      (Text.lowercaseRanges ++ Text.uppercaseRanges ++ Text.Category.titlecaseLetter.ranges))
  | "space" | "wspace" | "whitespace" => some .blank
  | "joinc" | "joincontrol" => some (.ofRanges Text.joinControlRanges)
  | "ahex" | "asciihexdigit" => CharSet.named? "xdigit"
  | "hex" | "hexdigit" => some hexDigit
  | "dash" => some dash
  | "qmark" | "quotationmark" => some quotationMark
  | "math" => some (.ofRanges Text.mathRanges)
  | "ids" | "idstart" => some identifierStart
  | "idc" | "idcontinue" => some identifierPart
  | "xids" | "xidstart" => some closedIdentifierStart
  | "xidc" | "xidcontinue" => some closedIdentifierPart
  | "ideo" | "ideographic" => some (.ofRanges Text.ideographRanges)
  | "uideo" | "unifiedideograph" => some (.ofRanges Text.unifiedIdeographRanges)
  | "emoji" => some (.ofRanges Text.emojiRanges)
  | "epres" | "emojipresentation" => some (.ofRanges Text.emojiPresentationRanges)
  | "emod" | "emojimodifier" => some (.ofRanges Text.emojiModifierRanges)
  | "ebase" | "emojimodifierbase" => some (.ofRanges Text.emojiModifierBaseRanges)
  | "ecomp" | "emojicomponent" => some (.ofRanges Text.emojiComponentRanges)
  | "extpict" | "extendedpictographic" => some (.ofRanges Text.pictographRanges)
  | "vs" | "variationselector" =>
    some (.ofRanges [(0x180B, 0x180D), (0x180F, 0x180F), (0xFE00, 0xFE0F), (0xE0100, 0xE01EF)])
  | "ri" | "regionalindicator" => some (.ofRanges [(0x1F1E6, 0x1F1FF)])
  | _ => none

def scriptSet? (name : String) : Option CharSet :=
  (Text.Script.named? name).map fun script => .ofRanges script.ranges

/-- The name without what makes no difference.  After an `is` a single `c` is no category. -/
def plainName (name : List Char) : String :=
  let (started, rest) :=
    match name with
    | c :: c' :: rest => if c.toLower = 'i' ∧ c'.toLower = 's' then (true, rest) else (false, name)
    | _ => (false, name)
  let kept := rest.filter fun c => c.toNat < 0x80 && c != ' ' && c != '_' && c != '-'
  let plain := String.ofList (kept.map Char.toLower)
  if started ∧ plain = "c" then "isc" else plain

/-- The name of a property and its value, if one is given. -/
def nameAndValue (text : List Char) : List Char × Option (List Char) :=
  let cut (sign : List Char) : Option (List Char × List Char) :=
    (List.range text.length).findSome? fun i =>
      if sign.isPrefixOf (text.drop i) then some (text.take i, text.drop (i + sign.length))
      else none
  match (cut ['!', '=']).or ((cut [':']).or (cut ['='])) with
  | some (name, value) => (name, some value)
  | none => (text, none)

/-- The set that the text between the braces of `\p` names. -/
def set? (text : List Char) : Option CharSet :=
  match nameAndValue text with
  | (name, none) =>
    let name := plainName name
    (binarySet? name).or ((categorySet? name).or (scriptSet? name))
  | (name, some value) =>
    match plainName name with
    | "gc" | "generalcategory" => categorySet? (plainName value)
    | "sc" | "script" => scriptSet? (plainName value)
    | _ => none

end Renumber.Pattern.Property
