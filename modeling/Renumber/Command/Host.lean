import Renumber.Files.Tree
import Renumber.Pattern.Basic

/-!
# What commands need around them

A host has files, knows the language that patterns are written in, and takes what is printed and noted.
Notes go where the printed text goes and keep their order.  `World` is a host in memory: a file tree, the
address of the working directory in it, a reader of patterns, and what has been printed and noted so far.
What is proved of all worlds does not depend on how patterns are read.
-/

namespace Renumber

/-! ## Algorithm -/

/-- Who a note is for: the more there are to read it, the less often it is written. -/
inductive NoteLevel where
  | info
  | debug
  | trace
  deriving DecidableEq

def NoteLevel.name : NoteLevel → String
  | info => "INFO"
  | debug => "DEBUG"
  | trace => "TRACE"

class Host (m : Type → Type) where
  isFile : Path → m Bool
  isDirectory : Path → m Bool
  isPresent : Path → m Bool
  /-- Whether two paths lead to one file that is there. -/
  isSameFile : Path → Path → m Bool
  readFile : Path → m (Except IoFault (List UInt8))
  /-- The files below a directory, as the names that lead to them; hidden names are left out. -/
  visibleFiles : Path → m (List (List Name))
  makeDirectory : Path → m (Except IoFault Unit)
  /-- Writes a file, in place of one that is there. -/
  writeFile : Path → List UInt8 → m (Except IoFault Unit)
  readPattern : String → m (Except Error Pattern)
  print : String → m Unit
  /-- Takes a note for those who want to follow the work. -/
  note : NoteLevel → String → m Unit

/-- An action that can fail has the host of the actions in it. -/
instance {m : Type → Type} {ε : Type} [Monad m] [Host m] : Host (ExceptT ε m) where
  isFile p := ExceptT.lift (Host.isFile p)
  isDirectory p := ExceptT.lift (Host.isDirectory p)
  isPresent p := ExceptT.lift (Host.isPresent p)
  isSameFile p q := ExceptT.lift (Host.isSameFile p q)
  readFile p := ExceptT.lift (Host.readFile p)
  visibleFiles p := ExceptT.lift (Host.visibleFiles p)
  makeDirectory p := ExceptT.lift (Host.makeDirectory p)
  writeFile p contents := ExceptT.lift (Host.writeFile p contents)
  readPattern text := ExceptT.lift (Host.readPattern text)
  print line := ExceptT.lift (Host.print line)
  note level text := ExceptT.lift (Host.note level text)

/-- What a host has been given to show. -/
inductive Output where
  | printed (line : String)
  | noted (level : NoteLevel) (text : String)
  deriving DecidableEq

structure World where
  root : Node
  /-- The address of the working directory. -/
  here : List Name := []
  readPattern : String → Except Error Pattern := Pattern.ofText?
  /-- What has been printed and noted, latest first. -/
  output : List Output := []

namespace World

def node? (world : World) (p : Path) : Option Node := world.root.node? world.here p

/-- Puts the result of a change to the files in place. -/
def change (f : Node → List Name → Except IoFault Node) :
    StateM World (Except IoFault Unit) := do
  let world ← get
  match f world.root world.here with
  | .ok root =>
    set { world with root }
    return .ok ()
  | .error fault => return .error fault

instance : Host (StateM World) where
  isFile p := return ((← get).node? p).any Node.isFile
  isDirectory p := return ((← get).node? p).any (!·.isFile)
  isPresent p := return ((← get).node? p).isSome
  isSameFile p q := do
    let world ← get
    return world.root.isSameFile world.here p q
  readFile p := do
    let world ← get
    return world.root.read world.here p
  visibleFiles p := return (((← get).node? p).map Node.visibleFiles).getD []
  makeDirectory p := change fun root here => root.makeDirectory here p
  writeFile p contents := change fun root here => root.write here p contents
  readPattern text := return (← get).readPattern text
  print line := modify fun world => { world with output := .printed line :: world.output }
  note level text := modify fun world => { world with output := .noted level text :: world.output }

end World

end Renumber
