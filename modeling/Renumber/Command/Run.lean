import Renumber.Command.Arguments
import Renumber.Command.Failure
import Renumber.Command.Host
import Renumber.Header.Basic
import Renumber.Report.Stats
import Renumber.Report.Text
import Renumber.Snapshot.Revision
import Renumber.Text.Escaped

/-!
# The commands

`report` writes the text report of a snapshot.  `match` carries header files from one snapshot to
another: client headers by the outgoing messages, then server headers by the incoming ones.  A
directory is carried over file by file, in the same layout.

Notes at the level `info` are complete.  Of the finer ones those are here that tell of snapshots that are
read and of headers that are found and begun; those about single lines, single messages, an index and the
counts of one header are left out.  Which levels are taken is up to the command line alone.

An output takes the place of a file only with `--force`, and a header is refused as its own output, as
far as this shows before directories are made.  The first failure ends a command; what was written
before it stays, also the part of a text in front of the failure.
-/

namespace Renumber

/-! ## Algorithm -/

variable {m : Type → Type} [Monad m] [Host m]

/-- An action that can fail. -/
abbrev Action (m : Type → Type) := ExceptT Failure m

/-- Says what was to be done when something has gone wrong. -/
def demand {α : Type} (context : String) (wrap : ε → Cause) : Except ε α → Action m α
  | .ok a => pure a
  | .error e => throw ⟨context, some (wrap e)⟩

def refuse {α : Type} (context : String) : Action m α := throw ⟨context, none⟩

/-- The least verbosity with which notes of a level are taken. -/
def NoteLevel.verbosity : NoteLevel → Nat
  | info => 1
  | debug => 2
  | trace => 3

def note (verbosity : Nat) (level : NoteLevel) (text : String) : m Unit :=
  if level.verbosity ≤ verbosity then Host.note level (Text.escaped text) else pure ()

/-! ### Reading -/

/-- Reads, decodes and checks the snapshot at a path. -/
def readRevision (verbosity : Nat) (p : Path) : ExceptT Error m Revision := do
  match ← Host.readFile p with
  | .error fault => throw (.unreadableFile p.text fault)
  | .ok bytes =>
    note verbosity .trace s!"Read {bytes.length} bytes from {p.text}"
    let r ← ExceptT.mk (pure (Revision.ofBytes bytes))
    note verbosity .debug <|
      s!"Loaded revision {r.label}: {r.outgoing.messages.length} outgoing, " ++
        s!"{r.incoming.messages.length} incoming"
    return r

def revisionAt (verbosity : Nat) (p : Path) : Action m Revision := do
  if ← Host.isFile p then
    demand s!"Failed to load snapshot: {p.text}" Cause.error (← (readRevision verbosity p).run)
  else refuse s!"Snapshot does not exist: {p.text}"

/-! ### Writing -/

/-- Makes the directories of a lineage, the deepest first, as far as they are missing. -/
def makeDirectories : List Path → m (Except IoFault Unit)
  | [] => return .ok ()
  | p :: above => do
    match ← Host.makeDirectory p with
    | .ok () => return .ok ()
    | .error .notFound =>
      match ← makeDirectories above with
      | .error fault => return .error fault
      | .ok () => again p
    | .error fault => settled p fault
where
  /-- A directory that is there is as good as one just made. -/
  settled (p : Path) (fault : IoFault) : m (Except IoFault Unit) := do
    if ← Host.isDirectory p then return .ok () else return .error fault
  again (p : Path) : m (Except IoFault Unit) := do
    match ← Host.makeDirectory p with
    | .ok () => return .ok ()
    | .error fault => settled p fault

/-- Makes the directories above a file to be written, and refuses to replace a file without
`force`. -/
def prepareOutput (p : Path) (force : Bool) : Action m Unit := do
  match p.parent? with
  | some parent =>
    demand s!"Failed to create directory: {parent.text}" Cause.fault
      (← makeDirectories parent.ancestors)
  | none => pure ()
  if (← Host.isPresent p) && !force then
    refuse s!"File already exists: {p.text} (use --force to overwrite)"

/-! ### Reporting -/

def reportName : String := "Messages.txt"

def reportCommand (verbosity : Nat) (a : ReportArguments) : Action m Unit := do
  let r ← revisionAt verbosity a.snapshot
  let s := r.stats
  note verbosity .info <|
    s!"Revision {r.label}: {s.total} messages, {s.unique} unique, " ++
      s!"{s.collision} in {s.groups} collision group(s), {s.dead} dead"
  let destination := a.output.join [Name.ofText reportName]
  prepareOutput destination a.force
  demand s!"Failed to write file: {destination.text}" Cause.fault
    (← Host.writeFile destination (Text.bytesOf r.report))
  Host.print s!"Messages Saved: {destination.text}"

/-! ### Carrying headers over -/

/-- The files that a header path stands for, each with the place for its output. -/
def headerFiles (verbosity : Nat) (input output : Path) : Action m (List (Path × Path)) := do
  if ← Host.isFile input then
    match input.fileName? with
    | some name => return [(input, output.join [name])]
    | none => refuse s!"Input has no file name: {input.text}"
  else if ← Host.isDirectory input then
    note verbosity .info s!"Scanning directory: {input.text}"
    let found ← Host.visibleFiles input
    note verbosity .trace s!"Found {found.length} header file(s) in {input.text}"
    return found.map fun names => (input.join names, output.join names)
  else refuse s!"Header input does not exist: {input.text}"

def headerBytes (source : Path) : Action m (List UInt8) := do
  demand s!"Failed to open input file: {source.text}" Cause.fault (← Host.readFile source)

def putHeader (destination : Path) (contents : List UInt8) : Action m Unit := do
  demand s!"Failed to create file: {destination.text}" Cause.fault
    (← Host.writeFile destination contents)

/-- Carries a file over.  The output is made once the input is known to be readable, and before it is
read: if both are one file after all, which shows only when the directories above the output are
there, the input is empty by then. -/
def renumberFile (s : Settings) (resolver : Resolver) (force : Bool) (source destination : Path) :
    Action m Tally := do
  if ← Host.isSameFile source destination then
    refuse s!"Refusing to overwrite input file: {source.text} (choose another --output)"
  prepareOutput destination force
  let _ ← headerBytes source
  putHeader destination []
  let (sink, outcome) := renumber s resolver (← headerBytes source) {}
  putHeader destination sink.contents
  demand s!"Failed to patch {source.text}" Cause.error outcome

/-- Carries files over one after the other and adds up what was counted. -/
def renumberFiles (verbosity : Nat) (s : Settings) (resolver : Resolver) (force : Bool)
    (d : Direction) (total : Tally) : List (Path × Path) → Action m Tally
  | [] => pure total
  | (source, destination) :: rest => do
    note verbosity .debug s!"Patching {source.text} -> {destination.text}"
    let tally ← renumberFile s resolver force source destination
    Host.print s!"{d.title} {destination.text}: Matches: {tally.text}"
    renumberFiles verbosity s resolver force d (total + tally) rest

/-- Carries over the headers of one direction. -/
def renumberHeaders (verbosity : Nat) (a : MatchArguments) (s : Settings)
    (previous current : Revision) (d : Direction) (input : Path) : Action m Unit := do
  let resolver := resolve TieBreak.closest (previous.catalog d) (current.catalog d).index
  let pairs ← headerFiles verbosity input a.output
  let total ← renumberFiles verbosity s resolver a.force d {} pairs
  note verbosity .info <|
    s!"{d.title} messages: {total.matched} matched of {total.tried} attempts " ++
      s!"({total.notIds} invalid, {total.unknown} not found, " ++
      s!"{total.unmatched} without candidate)"

def MatchArguments.headers (a : MatchArguments) : Direction → Option Path
  | .outgoing => a.clientHeaders
  | .incoming => a.serverHeaders

def MatchArguments.settings (a : MatchArguments) (pattern : Pattern) (previous current : Revision) :
    Settings where
  pattern
  choice := a.choice
  previousLabel := previous.label
  currentLabel := current.label
  bare := a.bare
  asFingerprints := a.asFingerprints
  lead := a.lead

def matchCommand (verbosity : Nat) (a : MatchArguments) : Action m Unit := do
  let previous ← revisionAt verbosity a.previous
  let current ← revisionAt verbosity a.current
  let pattern ← demand "Invalid identifier pattern" Cause.error (← Host.readPattern a.pattern)
  let s := a.settings pattern previous current
  note verbosity .info s!"Matching {previous.label} -> {current.label}"
  Direction.all.forM fun d =>
    match a.headers d with
    | some input => renumberHeaders verbosity a s previous current d input
    | none => pure ()

/-! ### Running a command line -/

inductive Exit where
  | success
  | failure (f : Failure)
  /-- The command line is not well-formed. -/
  | misuse

def Exit.code : Exit → UInt32
  | success => 0
  | failure _ => 1
  | misuse => 2

def programVersion : String := "0.1.0"

def helpText : String :=
  "Carry protocol message ids across client revisions\n\n" ++
  "Usage: revmatch [-v] report SNAPSHOT [-o DIR] [--force]\n" ++
  "       revmatch [-v] match --previous SNAPSHOT --current SNAPSHOT\n" ++
  "         [--client-headers PATH] [--server-headers PATH]\n" ++
  "         [--pattern PATTERN] [--index INDEX]\n" ++
  "         [--minimal-comments] [--output-hashes] [--strip-spaced-comments] [-o DIR] [--force]"

def runTask (verbosity : Nat) : Task → Action m Unit
  | .report a => reportCommand verbosity a
  | .carry a => matchCommand verbosity a

def runRequest : Request → m Exit
  | .help => do
    Host.print helpText
    return .success
  | .version program => do
    Host.print (program ++ " " ++ programVersion)
    return .success
  | .run verbosity task => do
    match ← (runTask verbosity task : Action m Unit).run with
    | .ok () => return .success
    | .error f => return .failure f

def runCommand (words : List String) : m Exit :=
  match Request.ofWords? words with
  | none => return .misuse
  | some request => runRequest request

end Renumber
