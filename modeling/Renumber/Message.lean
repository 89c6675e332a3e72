/-!
# Protocol messages

A message is sent by the client (outgoing) or by the server (incoming).  Its id is the number that
one client build gives it; its fingerprint describes its structure and stays the same from build to
build as long as the structure does.  A message that nothing in the client refers to is dead.
-/

namespace Renumber

inductive Direction where
  | outgoing
  | incoming
  deriving DecidableEq

/-- Report order. -/
def Direction.all : List Direction := [.outgoing, .incoming]

def Direction.title : Direction → String
  | .outgoing => "Outgoing"
  | .incoming => "Incoming"

/-- The number of a message, unique within a direction of one build. -/
abbrev MessageId := UInt32

structure Message where
  id : MessageId
  fingerprint : String
  direction : Direction
  /-- How often the client refers to the message. -/
  references : UInt32 := 1
  /-- Parameter list shown in reports, such as `(k:int, name:String)`. -/
  signature : String := ""
  /-- Class name of the message. -/
  name : String := ""
  /-- Class name of the parser; only incoming messages have one. -/
  parser : Option String := none
  deriving DecidableEq

def Message.isDead (m : Message) : Bool := m.references == 0

end Renumber
