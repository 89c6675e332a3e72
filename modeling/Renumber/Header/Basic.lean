import Renumber.Header.Tally
import Renumber.Text.Utf8

/-!
# Headers

A header is read as bytes and cut behind every line feed.  Line by line it is decoded, carried over
and written, and the line's own ending is kept.  A banner with the labels of the two builds comes
first, unless comments are to be left out.

The output goes to a sink that may have room for a number of bytes only; a write that does not fit
fills the room and fails.  What was written before a failure stays written.
-/

namespace Renumber

/-! ## Algorithm -/

structure Sink where
  /-- How many bytes still fit; no number means any. -/
  room : Option Nat := none
  /-- What has been written, latest first. -/
  chunks : List (List UInt8) := []

namespace Sink

def contents (sink : Sink) : List UInt8 := sink.chunks.reverse.flatten

/-- The sink after a write, and whether all of it fitted. -/
def write (sink : Sink) (bytes : List UInt8) : Sink × Bool :=
  match sink.room with
  | none => ({ sink with chunks := bytes :: sink.chunks }, true)
  | some n =>
    if bytes.length ≤ n then (⟨some (n - bytes.length), bytes :: sink.chunks⟩, true)
    else (⟨some 0, bytes.take n :: sink.chunks⟩, false)

end Sink

/-- Cuts behind every line feed. -/
def splitLines (input : List UInt8) : List (List UInt8) := input.splitBy fun b _ => b ≠ 0x0A

/-- A line without its ending, and the ending. -/
def splitEnding (text : List Char) : List Char × List Char :=
  match text.reverse with
  | '\n' :: '\r' :: rest => (rest.reverse, ['\r', '\n'])
  | '\n' :: rest => (rest.reverse, ['\n'])
  | _ => (text, [])

def encode (text : List Char) : List UInt8 := Text.bytesOf (String.ofList text)

def banner (s : Settings) : List Char :=
  if s.bare then []
  else
    "// Current: ".toList ++ s.currentLabel.toList ++ "\n// Previous: ".toList ++
      s.previousLabel.toList ++ ['\n']

/-- The text that takes the place of a line. -/
def LineChange.output (change : LineChange) (ending : List Char) : List Char :=
  match change with
  | .dropped => []
  | .kept text => text ++ ending
  | .renumbered text _ => text ++ ending

/-- Carries over the line behind those that `tally` has counted. -/
def renumberRaw (s : Settings) (resolver : Resolver) (tally : Tally) (raw : List UInt8) :
    Except Error (Tally × List UInt8) :=
  match Text.ofBytes? raw with
  | none => .error (.stream .invalidUtf8)
  | some text =>
    let (line, ending) := splitEnding text.toList
    match renumberLine s resolver (tally.lines + 1) line with
    | .error e => .error e
    | .ok change => .ok (tally.countLine change, encode (change.output ending))

def renumberLines (s : Settings) (resolver : Resolver) (tally : Tally) (sink : Sink) :
    List (List UInt8) → Sink × Except Error Tally
  | [] => (sink, .ok tally)
  | raw :: rest =>
    match renumberRaw s resolver tally raw with
    | .error e => (sink, .error e)
    | .ok (tally, bytes) =>
      match sink.write bytes with
      | (sink, true) => renumberLines s resolver tally sink rest
      | (sink, false) => (sink, .error (.stream .sinkFull))

/-- Carries a header over into a sink. -/
def renumber (s : Settings) (resolver : Resolver) (input : List UInt8) (sink : Sink) :
    Sink × Except Error Tally :=
  match sink.write (encode (banner s)) with
  | (sink, true) => renumberLines s resolver {} sink (splitLines input)
  | (sink, false) => (sink, .error (.stream .sinkFull))

end Renumber
