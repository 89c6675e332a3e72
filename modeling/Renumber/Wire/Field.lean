import Renumber.Text.Utf8
import Renumber.Wire.Varint

/-!
# Fields

A message is a list of fields.  Each begins with a key: a number that holds the field's tag and its
wire type.  A text or a message inside a message follows its length.

Fields of unknown tag are skipped; groups among them may be nested to a limit of depth, and a
message inside a message takes one level of it as well.  The length of an inner message is measured
against all bytes that are left, not against the message around it.
-/

namespace Renumber.Wire

/-! ## Algorithm -/

def WireType.number : WireType → Nat
  | .varint => 0
  | .fixed64 => 1
  | .lengthDelimited => 2
  | .startGroup => 3
  | .endGroup => 4
  | .fixed32 => 5

def WireType.ofNumber? : Nat → Option WireType
  | 0 => some .varint
  | 1 => some .fixed64
  | 2 => some .lengthDelimited
  | 3 => some .startGroup
  | 4 => some .endGroup
  | 5 => some .fixed32
  | _ => none

structure Key where
  tag : Nat
  type : WireType

/-! ### Writing -/

def Key.bytes (k : Key) : List UInt8 := varint (8 * k.tag + k.type.number)

def delimited (tag : Nat) (content : List UInt8) : List UInt8 :=
  Key.bytes ⟨tag, .lengthDelimited⟩ ++ varint content.length ++ content

/-- A number, left out if it is zero. -/
def numberField (tag n : Nat) : List UInt8 :=
  if n = 0 then [] else Key.bytes ⟨tag, .varint⟩ ++ varint n

/-- A text, left out if it is empty. -/
def textField (tag : Nat) (text : String) : List UInt8 :=
  if text = "" then [] else delimited tag (Text.bytesOf text)

/-- A text that is written even if it is empty. -/
def optionalTextField (tag : Nat) : Option String → List UInt8
  | none => []
  | some text => delimited tag (Text.bytesOf text)

/-! ### Reading -/

def fail {α : Type} (reason : Reason) : Except Fault α := .error ⟨reason, []⟩

/-- Tells a fault where it happened. -/
def located {α : Type} (place : String) (x : Except Fault α) : Except Fault α :=
  x.mapError (·.within place)

def readKey (bytes : List UInt8) : Except Fault (Decoded Key) := do
  let (n, rest) ← readVarint bytes
  if UInt32.size ≤ n then fail (.invalidKey n)
  else
    match WireType.ofNumber? (n % 8) with
    | none => fail (.unknownWireType (n % 8))
    | some type => if n / 8 = 0 then fail .tagZero else .ok (⟨n / 8, type⟩, rest)

def expect (expected found : WireType) : Except Fault Unit :=
  if found = expected then .ok () else fail (.wrongWireType found expected)

/-- Takes a number of bytes. -/
def takeBytes (n : Nat) (bytes : List UInt8) : Except Fault (Decoded (List UInt8)) :=
  if bytes.length < n then fail .bufferUnderflow else .ok (bytes.take n, bytes.drop n)

def readNumber (type : WireType) (bytes : List UInt8) : Except Fault (Decoded Nat) := do
  expect .varint type
  readVarint bytes

def readText (type : WireType) (bytes : List UInt8) : Except Fault (Decoded String) := do
  expect .lengthDelimited type
  let (length, rest) ← readVarint bytes
  let (content, rest) ← takeBytes length rest
  match Text.ofBytes? content with
  | some text => .ok (text, rest)
  | none => fail .invalidUtf8

/-- Skips the fields of a group up to its end; each takes at least a byte, so one step more than
there are bytes is enough `fuel`. -/
def skipGroup (skip : Key → List UInt8 → Except Fault (List UInt8)) (tag : Nat) :
    (fuel : Nat) → List UInt8 → Except Fault (List UInt8)
  | 0, _ => fail .invalidVarint
  | fuel + 1, bytes => do
    let (key, rest) ← readKey bytes
    if key.type = .endGroup then
      if key.tag = tag then .ok rest else fail .unexpectedEndGroup
    else
      let rest ← skip key rest
      skipGroup skip tag fuel rest

/-- Skips the value of a field; `depth` is how many levels may still be entered. -/
def skipField : (depth : Nat) → Key → List UInt8 → Except Fault (List UInt8)
  | 0, _, _ => fail .recursionLimit
  | depth + 1, key, bytes =>
    match key.type with
    | .varint => (readVarint bytes).map (·.2)
    | .fixed32 => (takeBytes 4 bytes).map (·.2)
    | .fixed64 => (takeBytes 8 bytes).map (·.2)
    | .lengthDelimited => do
      let (length, rest) ← readVarint bytes
      (takeBytes length rest).map (·.2)
    | .startGroup => skipGroup (skipField depth) key.tag (bytes.length + 1) bytes
    | .endGroup => fail .unexpectedEndGroup

/-- Reads the value of a field into the message so far. -/
abbrev FieldReader (α : Type) := α → Key → List UInt8 → Except Fault (Decoded α)

/-- Reads fields until at most `limit` bytes are left; each takes at least a byte, so one step more
than there are bytes is enough `fuel`. -/
def readFields {α : Type} (readField : FieldReader α) (limit : Nat) :
    (fuel : Nat) → α → List UInt8 → Except Fault (Decoded α)
  | 0, message, bytes => .ok (message, bytes)
  | fuel + 1, message, bytes =>
    if bytes.length ≤ limit then .ok (message, bytes)
    else do
      let (key, rest) ← readKey bytes
      let (message, rest) ← readField message key rest
      readFields readField limit fuel message rest

/-- Reads a message inside a message; `readField` is told how many levels are left. -/
def readMessage {α : Type} (readField : Nat → FieldReader α) (start : α) (depth : Nat)
    (type : WireType) (bytes : List UInt8) : Except Fault (Decoded α) := do
  expect .lengthDelimited type
  match depth with
  | 0 => fail .recursionLimit
  | depth + 1 =>
    let (length, rest) ← readVarint bytes
    if rest.length < length then fail .bufferUnderflow
    else
      let limit := rest.length - length
      let (message, rest) ← readFields (readField depth) limit (rest.length + 1) start rest
      if rest.length = limit then .ok (message, rest) else fail .lengthExceeded

end Renumber.Wire
