/-!
# Why bytes cannot be decoded

A fault has a reason and the places of the fields around it, the innermost first.
-/

namespace Renumber.Wire

/-! ## Algorithm -/

/-- How the value of a field is laid out. -/
inductive WireType where
  | varint
  | fixed64
  | lengthDelimited
  | startGroup
  | endGroup
  | fixed32
  deriving DecidableEq

def WireType.name : WireType → String
  | .varint => "Varint"
  | .fixed64 => "SixtyFourBit"
  | .lengthDelimited => "LengthDelimited"
  | .startGroup => "StartGroup"
  | .endGroup => "EndGroup"
  | .fixed32 => "ThirtyTwoBit"

inductive Reason where
  | invalidVarint
  | invalidKey (key : Nat)
  | unknownWireType (number : Nat)
  | tagZero
  | wrongWireType (found expected : WireType)
  | bufferUnderflow
  | lengthExceeded
  | invalidUtf8
  | recursionLimit
  | unexpectedEndGroup
  deriving DecidableEq

def Reason.message : Reason → String
  | .invalidVarint => "invalid varint"
  | .invalidKey key => s!"invalid key value: {key}"
  | .unknownWireType number => s!"invalid wire type value: {number}"
  | .tagZero => "invalid tag value: 0"
  | .wrongWireType found expected =>
    s!"invalid wire type: {found.name} (expected {expected.name})"
  | .bufferUnderflow => "buffer underflow"
  | .lengthExceeded => "delimited length exceeded"
  | .invalidUtf8 => "invalid string value: data is not UTF-8 encoded"
  | .recursionLimit => "recursion limit reached"
  | .unexpectedEndGroup => "unexpected end group tag"

structure Fault where
  reason : Reason
  places : List String := []
  deriving DecidableEq

def Fault.message (f : Fault) : String :=
  "failed to decode Protobuf message: " ++ String.join (f.places.map (· ++ ": ")) ++
    f.reason.message

/-- The fault as seen from the field around it. -/
def Fault.within (place : String) (f : Fault) : Fault := { f with places := f.places ++ [place] }

end Renumber.Wire
