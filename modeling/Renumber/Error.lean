import Renumber.Message
import Renumber.Wire.Fault

/-!
# What can go wrong

The conditions that end a piece of work.  Ids that cannot be read or resolved while a text is being
carried over are no errors but outcomes of their own.
-/

namespace Renumber

/-- A fault in the files and streams around the program. -/
inductive IoFault where
  | notFound
  | fileExists
  | notADirectory
  | isADirectory
  | nameTooLong
  | nulInName
  | invalidUtf8
  | sinkFull
  | described (text : String)
  deriving DecidableEq

def IoFault.message : IoFault → String
  | .notFound => "No such file or directory (os error 2)"
  | .fileExists => "File exists (os error 17)"
  | .notADirectory => "Not a directory (os error 20)"
  | .isADirectory => "Is a directory (os error 21)"
  | .nameTooLong => "File name too long (os error 36)"
  | .nulInName => "file name contained an unexpected NUL byte"
  | .invalidUtf8 => "stream did not contain valid UTF-8"
  | .sinkFull => "failed to write whole buffer"
  | .described text => text

/-- A fault in the content of a snapshot that could be decoded. -/
inductive SnapshotFault where
  | noDirection (id : MessageId)
  | unknownDirection (id : MessageId) (direction : Int32)
  | swappedOutgoing
  | swappedIncoming
  | described (text : String)
  deriving DecidableEq

def SnapshotFault.message : SnapshotFault → String
  | .noDirection id => s!"message {id.toNat} has no direction"
  | .unknownDirection id direction => s!"message {id.toNat} has unknown direction {direction.toInt}"
  | .swappedOutgoing => "outgoing catalog holds incoming messages"
  | .swappedIncoming => "incoming catalog holds outgoing messages"
  | .described text => text

inductive Error where
  | unreadableFile (path : String) (fault : IoFault)
  | stream (fault : IoFault)
  | invalidPattern (pattern : String)
  | tokenOutOfRange (line : Nat) (index : UInt64) (found : Nat)
  | malformedSnapshot (fault : Wire.Fault)
  | invalidSnapshot (fault : SnapshotFault)
  | duplicateId (direction : Direction) (id : MessageId)
  | wrongDirection (id : MessageId) (expected found : Direction)
  deriving DecidableEq

def Error.message : Error → String
  | .unreadableFile path fault => s!"failed to read file '{path}': {fault.message}"
  | .stream fault => s!"I/O error: {fault.message}"
  | .invalidPattern pattern => s!"invalid identifier pattern '{pattern}'"
  | .tokenOutOfRange line index found =>
    s!"occurrence index {index.toNat} out of range on line {line}: only {found} match(es)"
  | .malformedSnapshot fault => s!"failed to decode revision snapshot: {fault.message}"
  | .invalidSnapshot fault => s!"invalid revision snapshot: {fault.message}"
  | .duplicateId direction id => s!"duplicate {direction.title} message id {id.toNat}"
  | .wrongDirection id expected found =>
    s!"message {id.toNat} is {found.title} but the catalog is {expected.title}"

end Renumber
