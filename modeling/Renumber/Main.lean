import Renumber.Command.Run

/-!
# The program

The commands on the files of the computer.
-/

namespace Renumber

def IoFault.ofError : IO.Error → IoFault
  | .noFileOrDirectory .. => .notFound
  | .alreadyExists .. => .fileExists
  | e => .described (toString e)

/-- Tries an action on files. -/
def attempt {α : Type} (action : IO α) : IO (Except IoFault α) := do
  try
    return .ok (← action)
  catch e =>
    return .error (IoFault.ofError e)

def fileType? (p : Path) : IO (Option IO.FS.FileType) := do
  try
    let path ← IO.FS.realPath p.text
    return some (← path.metadata).type
  catch _ =>
    return none

/-- The tree of names below a directory; the contents of the files are left out. -/
partial def readTree (directory : String) : IO Node := do
  let path ← IO.FS.realPath directory
  let entries ← (← path.readDir).toList.filterMapM fun entry => do
    match (← entry.path.metadata).type with
    | .dir => return some (Name.ofText entry.fileName, ← readTree entry.path.toString)
    | .file => return some (Name.ofText entry.fileName, Node.file [])
    | _ => return none
  return .directory entries

instance : Host IO where
  isFile p := return (← fileType? p) == some .file
  isDirectory p := return (← fileType? p) == some .dir
  isPresent p := return (← fileType? p).isSome
  isSameFile p q := do
    try
      return (← IO.FS.realPath p.text).toString == (← IO.FS.realPath q.text).toString
    catch _ =>
      return false
  readFile p := attempt do return (← IO.FS.readBinFile p.text).data.toList
  visibleFiles p := return (← readTree p.text).visibleFiles
  makeDirectory p := attempt (IO.FS.createDir p.text)
  writeFile p contents := attempt (IO.FS.writeBinFile p.text ⟨contents.toArray⟩)
  readPattern text := return Pattern.ofText? text
  print line := IO.println line
  note level text := IO.println s!"{level.name} {text}"

end Renumber

def main (words : List String) : IO UInt32 := do
  let exit ← Renumber.runCommand words
  match exit with
  | .failure f => IO.eprint f.report
  | .misuse => IO.eprintln Renumber.helpText
  | .success => pure ()
  return exit.code
