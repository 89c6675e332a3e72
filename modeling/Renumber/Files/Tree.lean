import Renumber.Error
import Renumber.Files.Path

/-!
# File trees

A node is a file or a directory with named entries.  An address is a list of names that leads from
the root of a tree to a node.  A path is resolved to an address by `locate`, from the root if it is
absolute and otherwise from the working directory, whose address is called `here`.  What is above
the root is the root itself.  Names have at most `nameLimit` bytes and paths at most `pathLimit`.

`visibleFiles` walks a directory: entries in the order of their names, a directory being entered
where its name stands, entries with a dot in front left out.  All directories below can be read, however
long the path to one would be.
-/

namespace Renumber

/-! ## Algorithm -/

inductive Node where
  | file (contents : List UInt8)
  | directory (entries : List (Name × Node))

namespace Node

def empty : Node := directory []

def isFile : Node → Bool
  | file _ => true
  | directory _ => false

def entries : Node → List (Name × Node)
  | file _ => []
  | directory entries => entries

/-- The node at an address. -/
def find? (node : Node) : List Name → Option Node
  | [] => some node
  | name :: rest =>
    match node.entries.lookup name with
    | some child => child.find? rest
    | none => none

/-- Gives a name to a node, in place of what had the name before. -/
def setEntry (name : Name) (node : Node) : List (Name × Node) → List (Name × Node)
  | [] => [(name, node)]
  | (other, child) :: rest =>
    if other = name then (name, node) :: rest else (other, child) :: setEntry name node rest

/-- Puts a node at an address, if all but the last name lead through directories. -/
def put (node new : Node) : List Name → Node
  | [] => new
  | name :: rest =>
    match node with
    | file contents => file contents
    | directory entries =>
      match rest, entries.lookup name with
      | [], _ => directory (setEntry name new entries)
      | _ :: _, some child => directory (setEntry name (child.put new rest) entries)
      | _ :: _, none => directory entries

/-! ### Resolving paths -/

def nameLimit : Nat := 255

def pathLimit : Nat := 4095

/-- The fault of a name that is not there. -/
def absence (name : Name) : IoFault :=
  if nameLimit < name.bytes.length then .nameTooLong else .notFound

/-- Follows the segments of a path from the address `here`. -/
def follow (root : Node) (here : List Name) : List Name → Except IoFault (List Name)
  | [] => .ok here
  | s :: rest =>
    match root.find? here with
    | none => .error .notFound
    | some (file _) => .error .notADirectory
    | some (directory entries) =>
      if s = "" ∨ s = "." then follow root here rest
      else if s = ".." then follow root here.dropLast rest
      else
        match entries.lookup s with
        | some _ => follow root (here ++ [s]) rest
        | none => .error (absence s)

/-- The address from which a path is followed. -/
def origin (here : List Name) (p : Path) : Except IoFault (List Name) :=
  if p.isEmpty then .error .notFound
  else if p.bytes.contains 0 then .error .nulInName
  else if pathLimit < p.bytes.length then .error .nameTooLong
  else .ok (if p.isAbsolute then [] else here)

/-- The address that a path leads to. -/
def locate (root : Node) (here : List Name) (p : Path) : Except IoFault (List Name) := do
  root.follow (← origin here p) p.segments

def node? (root : Node) (here : List Name) (p : Path) : Option Node :=
  match root.locate here p with
  | .ok address => root.find? address
  | .error _ => none

def read (root : Node) (here : List Name) (p : Path) : Except IoFault (List UInt8) :=
  match root.locate here p with
  | .error fault => .error fault
  | .ok address =>
    match root.find? address with
    | some (file contents) => .ok contents
    | some (directory _) => .error .isADirectory
    | none => .error .notFound

/-- The address of the directory that a new entry of this path goes into, and the entry's name. -/
def place (root : Node) (here : List Name) (p : Path) :
    Except IoFault (List Name × Name) := do
  let here ← origin here p
  match p.segments.reverse.dropWhile (· = Name.ofText "") with
  | [] => return ([], Name.ofText ".")
  | name :: above =>
    let address ← root.follow here above.reverse
    match root.find? address with
    | some (directory _) =>
      if nameLimit < name.bytes.length then throw .nameTooLong else return (address, name)
    | some (file _) => throw .notADirectory
    | none => throw .notFound

/-- Makes one directory. -/
def makeDirectory (root : Node) (here : List Name) (p : Path) : Except IoFault Node :=
  match root.place here p with
  | .error fault => .error fault
  | .ok (address, name) =>
    if name = "." ∨ name = ".." then .error .fileExists
    else
      match root.find? (address ++ [name]) with
      | some _ => .error .fileExists
      | none => .ok (root.put empty (address ++ [name]))

/-- Writes a file, in place of one that is there. -/
def write (root : Node) (here : List Name) (p : Path) (contents : List UInt8) :
    Except IoFault Node :=
  match root.place here p with
  | .error fault => .error fault
  | .ok (address, name) =>
    if name = "." ∨ name = ".." then .error .isADirectory
    else
      match root.find? (address ++ [name]) with
      | some (directory _) => .error .isADirectory
      | _ => .ok (root.put (file contents) (address ++ [name]))

def isSameFile (root : Node) (here : List Name) (p q : Path) : Bool :=
  match root.locate here p, root.locate here q with
  | .ok a, .ok b => a == b
  | _, _ => false

/-! ### Walking -/

/-- In the order of the names, which compare as their bytes do. -/
def byName {α : Type} (entries : List (Name × α)) : List (Name × α) :=
  entries.mergeSort fun a b => decide (a.1.bytes ≤ b.1.bytes)

mutual

/-- The files below a node with their addresses, all names on the way being kept by `keep`. -/
def filesWhere (keep : Name → Bool) : Node → List (List Name × List UInt8)
  | file contents => [([], contents)]
  | directory entries =>
    (byName (filesOfEntries keep entries)).flatMap fun (name, files) =>
      files.map fun (address, contents) => (name :: address, contents)

/-- The files below each entry. -/
def filesOfEntries (keep : Name → Bool) :
    List (Name × Node) → List (Name × List (List Name × List UInt8))
  | [] => []
  | (name, node) :: rest =>
    if keep name then (name, filesWhere keep node) :: filesOfEntries keep rest
    else filesOfEntries keep rest

end

/-- Whether a name is a text with a dot in front.  A name that is no text is not hidden. -/
def isHidden (name : Name) : Bool := name.text?.any fun text => text.toList.head? == some '.'

/-- The addresses of the files below a directory that no hidden name leads to. -/
def visibleFiles (node : Node) : List (List Name) :=
  (filesWhere (!isHidden ·) node).map (·.1)

end Node

end Renumber
