import Renumber.Header.Comment
import Renumber.Header.TokenChoice
import Renumber.Pattern.Basic
import Renumber.Resolution.Basic
import Renumber.Text.Replace

/-!
# One line of a header

A line loses its trailing comment.  If the pattern finds no token in the rest, the rest is kept as
it is.  Otherwise one token is chosen and replaced by the id of the current build; in front of it
and behind it the label of the previous build gives way to the current one, and a remark says what
the token was.  A token that is no id or has no counterpart is replaced by `-1`.
-/

namespace Renumber

/-! ## Algorithm -/

/-- How a header is carried from one build to another. -/
structure Settings where
  pattern : Pattern
  choice : TokenChoice := .last
  previousLabel : String
  currentLabel : String
  /-- Leave out the banner and the remarks. -/
  bare : Bool := false
  /-- Write the fingerprint in place of the new id. -/
  asFingerprints : Bool := false
  lead : CommentLead := .letter

/-- What became of the chosen token. -/
inductive TokenFate where
  | notAnId (token : List Char)
  /-- The previous catalog has no message of this id. -/
  | unknown (id : MessageId)
  /-- The current catalog has no counterpart of the message. -/
  | unmatched (id : MessageId)
  | matched (previous current : MessageId)
  deriving DecidableEq

namespace TokenFate

/-- Whether there was a message to find a counterpart for. -/
def isTried : TokenFate → Bool
  | unmatched _ | matched _ _ => true
  | _ => false

def isMatched : TokenFate → Bool
  | matched _ _ => true
  | _ => false

def remark : TokenFate → List Char
  | notAnId token => " //! Invalid Message ID: ".toList ++ token
  | unknown id => " //! Message Not Found: ".toList ++ Text.decimal id.toNat
  | unmatched id => " //! No Matches: ".toList ++ Text.decimal id.toNat
  | matched previous _ => " // ".toList ++ Text.decimal previous.toNat

end TokenFate

/-- What becomes of a line. -/
inductive LineChange where
  /-- The line is a comment. -/
  | dropped
  /-- The line has no token; the text is what is left of it without a trailing comment. -/
  | kept (text : List Char)
  | renumbered (text : List Char) (fate : TokenFate)
  deriving DecidableEq

/-- What is written in place of an id without counterpart. -/
def noNumber : List Char := "-1".toList

def readId? (token : List Char) : Option MessageId :=
  (Text.readNumeral UInt32.size token).map UInt32.ofNat

/-- What replaces a token. -/
structure Replacement where
  value : List Char
  fate : TokenFate
  /-- The signature of the message that was found. -/
  signature : List Char := []

def replaceToken (s : Settings) (resolver : Resolver) (token : List Char) : Replacement :=
  match readId? token with
  | none => ⟨noNumber, .notAnId token, []⟩
  | some id =>
    match resolver id with
    | .unknownId => ⟨noNumber, .unknown id, []⟩
    | .noCandidate => ⟨noNumber, .unmatched id, []⟩
    | .resolved message =>
      { value :=
          if s.asFingerprints then message.fingerprint.toList else Text.decimal message.id.toNat
        fate := .matched id message.id
        signature := message.signature.toList }

/-- The remark on the token, and the signature unless it is blank. -/
def Replacement.comment (r : Replacement) : List Char :=
  r.fate.remark ++
    if r.signature.all Text.isBlank then [] else " | ".toList ++ r.signature

def updateLabel (s : Settings) (text : List Char) : List Char :=
  if s.previousLabel = "" ∨ s.previousLabel = s.currentLabel then text
  else Text.replaceAll s.previousLabel.toList s.currentLabel.toList text

/-- Carries over a line without its ending; `number` counts lines from one. -/
def renumberLine (s : Settings) (resolver : Resolver) (number : Nat) (line : List Char) :
    Except Error LineChange :=
  match withoutComment? s.lead line with
  | none => .ok .dropped
  | some rest =>
    match s.pattern.tokens rest with
    | [] => .ok (.kept rest)
    | first :: others =>
      match s.choice.select number first others with
      | .error e => .error e
      | .ok span =>
        let r := replaceToken s resolver (span.covered rest)
        let text := updateLabel s (span.before rest) ++ r.value ++ updateLabel s (span.after rest)
        .ok (.renumbered (if s.bare then text else text ++ r.comment) r.fate)

end Renumber
