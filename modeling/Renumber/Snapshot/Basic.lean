import Renumber.Error
import Renumber.Wire.Field

/-!
# Snapshots

A snapshot holds the messages of a build as they are stored: a label and a list of entries.  Unlike
a catalog it may name a message twice, in any order, and with a direction that means nothing.

    snapshot: 1 label (text), 2 entry (message, repeated)
    entry:    1 id, 2 fingerprint (text), 3 direction, 4 reference count,
              5 signature (text), 6 name (text), 7 parser (text, optional)

Zeros and empty texts are left out; a parser is written whenever there is one.  A direction is
written as a number of 64 bits with its sign.  In reading the last value of a field counts, entries
are collected, and numbers are cut to 32 bits.
-/

namespace Renumber

/-! ## Algorithm -/

structure SnapshotEntry where
  id : MessageId := 0
  fingerprint : String := ""
  /-- One for outgoing, two for incoming. -/
  direction : Int32 := 0
  references : UInt32 := 0
  signature : String := ""
  name : String := ""
  parser : Option String := none
  deriving DecidableEq

structure Snapshot where
  label : String := ""
  entries : List SnapshotEntry := []
  deriving DecidableEq

open Wire

/-! ### Writing -/

/-- The number of 64 bits that stands for a signed one. -/
def signedNumber (n : Int32) : Nat := n.toInt64.toUInt64.toNat

def SnapshotEntry.bytes (e : SnapshotEntry) : List UInt8 :=
  numberField 1 e.id.toNat ++ textField 2 e.fingerprint ++
    numberField 3 (signedNumber e.direction) ++ numberField 4 e.references.toNat ++
    textField 5 e.signature ++ textField 6 e.name ++ optionalTextField 7 e.parser

def Snapshot.bytes (s : Snapshot) : List UInt8 :=
  textField 1 s.label ++ s.entries.flatMap fun e => delimited 2 e.bytes

/-! ### Reading -/

def SnapshotEntry.readField (depth : Nat) (e : SnapshotEntry) (key : Key) (bytes : List UInt8) :
    Except Fault (Decoded SnapshotEntry) :=
  let number (place : String) (set : Nat → SnapshotEntry) : Except Fault (Decoded SnapshotEntry) :=
    (located place (readNumber key.type bytes)).map fun (n, rest) => (set n, rest)
  let text (place : String) (set : String → SnapshotEntry) : Except Fault (Decoded SnapshotEntry) :=
    (located place (readText key.type bytes)).map fun (t, rest) => (set t, rest)
  match key.tag with
  | 1 => number "MessageEntry.id" fun n => { e with id := UInt32.ofNat n }
  | 2 => text "MessageEntry.fingerprint" fun t => { e with fingerprint := t }
  | 3 => number "MessageEntry.direction" fun n => { e with direction := Int32.ofNat n }
  | 4 => number "MessageEntry.reference_count" fun n => { e with references := UInt32.ofNat n }
  | 5 => text "MessageEntry.display_signature" fun t => { e with signature := t }
  | 6 => text "MessageEntry.symbolic_name" fun t => { e with name := t }
  | 7 => text "MessageEntry.parser_name" fun t => { e with parser := some t }
  | _ => (skipField depth key bytes).map (e, ·)

def Snapshot.readField (depth : Nat) (s : Snapshot) (key : Key) (bytes : List UInt8) :
    Except Fault (Decoded Snapshot) :=
  match key.tag with
  | 1 =>
    (located "RevisionSnapshot.revision" (readText key.type bytes)).map fun (t, rest) =>
      ({ s with label := t }, rest)
  | 2 =>
    (located "RevisionSnapshot.messages"
      (readMessage SnapshotEntry.readField {} depth key.type bytes)).map fun (e, rest) =>
        ({ s with entries := s.entries ++ [e] }, rest)
  | _ => (skipField depth key bytes).map (s, ·)

/-- How deeply messages and groups may be nested. -/
def nestingLimit : Nat := 100

def Snapshot.ofBytes? (bytes : List UInt8) : Except Error Snapshot :=
  match readFields (Snapshot.readField nestingLimit) 0 (bytes.length + 1) {} bytes with
  | .ok (s, _) => .ok s
  | .error fault => .error (.malformedSnapshot fault)

end Renumber
