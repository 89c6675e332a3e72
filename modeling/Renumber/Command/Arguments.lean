import Renumber.Files.Path
import Renumber.Header.Comment
import Renumber.Header.TokenChoice
import Renumber.Pattern.Basic

/-!
# The command line

    report SNAPSHOT [-o DIR] [--force]
    match --previous SNAPSHOT --current SNAPSHOT [--client-headers PATH] [--server-headers PATH]
      [--pattern PATTERN] [--index INDEX] [--minimal-comments] [--output-hashes]
      [--strip-spaced-comments] [-o DIR] [--force]

The words are read from left to right, and the first mistake or request for the version or for
help decides.  A value stands behind its option or, with an equals sign, in the same word; the
short option may have it attached.  A separate value does not begin with a hyphen, unless it is a
single one.  Every option but `-v` is allowed once.  What comes behind `--` is no option.
-/

namespace Renumber

/-! ## Algorithm -/

structure ReportArguments where
  snapshot : Path
  output : Path
  force : Bool
  deriving DecidableEq

structure MatchArguments where
  previous : Path
  current : Path
  clientHeaders : Option Path
  serverHeaders : Option Path
  pattern : String
  choice : TokenChoice
  bare : Bool
  asFingerprints : Bool
  lead : CommentLead
  output : Path
  force : Bool
  deriving DecidableEq

inductive Task where
  | report (arguments : ReportArguments)
  | carry (arguments : MatchArguments)
  deriving DecidableEq

/-- What a command line asks for. -/
inductive Request where
  | run (verbosity : Nat) (task : Task)
  | version (program : String)
  | help
  deriving DecidableEq

namespace Arguments

/-- The options of a command by their long names, and how many other words it takes. -/
structure Grammar where
  valued : List String := []
  switches : List String := []
  words : Nat := 0

structure Collected where
  verbosity : Nat := 0
  values : List (String × String) := []
  switches : List String := []
  words : List String := []

/-- Where reading an option leads to. -/
inductive Step where
  | next (c : Collected)
  /-- The option needs the next word as its value. -/
  | awaits (option : String)
  | version
  | help

/-- A word of the command line that is no option. -/
def isPlain (word : String) : Bool :=
  match word.toList with
  | '-' :: _ :: _ => false
  | _ => true

/-- Whether a text can be the value of an option: a path is not empty, an index is well-formed. -/
def admits (option value : String) : Bool :=
  if option = "pattern" then true
  else if option = "index" then (TokenChoice.ofText? value.toList).isSome
  else value ≠ ""

namespace Collected

def setValue? (c : Collected) (option value : String) : Option Collected :=
  if (c.values.lookup option).isSome ∨ ¬ admits option value then none
  else some { c with values := (option, value) :: c.values }

def setSwitch? (c : Collected) (switch : String) : Option Collected :=
  if c.switches.contains switch then none else some { c with switches := switch :: c.switches }

def addWord? (g : Grammar) (c : Collected) (word : String) : Option Collected :=
  if c.words.length < g.words ∧ word ≠ "" then some { c with words := c.words ++ [word] } else none

def raiseVerbosity (c : Collected) : Collected := { c with verbosity := c.verbosity + 1 }

def path? (c : Collected) (option : String) : Option Path :=
  (c.values.lookup option).map Path.ofText

/-- The directory for the output: the working directory unless another is given. -/
def output (c : Collected) : Path := (c.path? "output").getD (Path.ofText ".")

def has (c : Collected) (switch : String) : Bool := c.switches.contains switch

end Collected

/-- Reads a long option, without its hyphens. -/
def longOption? (g : Grammar) (c : Collected) (text : List Char) : Option Step :=
  match text.span (· ≠ '=') with
  | (name, '=' :: value) =>
    let name := String.ofList name
    if g.valued.contains name then (c.setValue? name (String.ofList value)).map .next else none
  | (name, _) =>
    match String.ofList name with
    | "verbose" => some (.next c.raiseVerbosity)
    | "version" => some .version
    | "help" => some .help
    | name =>
      if g.valued.contains name then some (.awaits name)
      else if g.switches.contains name then (c.setSwitch? name).map .next
      else none

/-- Reads short options that share one word, without the hyphen. -/
def shortOptions? (g : Grammar) (c : Collected) : List Char → Option Step
  | [] => some (.next c)
  | 'v' :: rest => shortOptions? g c.raiseVerbosity rest
  | 'V' :: _ => some .version
  | 'h' :: _ => some .help
  | 'o' :: rest =>
    if g.valued.contains "output" then
      match rest with
      | [] => some (.awaits "output")
      | '=' :: value => (c.setValue? "output" (String.ofList value)).map .next
      | value => (c.setValue? "output" (String.ofList value)).map .next
    else none
  | _ => none

def option? (g : Grammar) (c : Collected) (word : String) : Option Step :=
  match word.toList with
  | '-' :: '-' :: text => longOption? g c text
  | '-' :: text => shortOptions? g c text
  | _ => none

/-- Reads the words behind the name of a command. -/
def read? (g : Grammar) (c : Collected) : List String → Option Step
  | [] => some (.next c)
  | word :: rest =>
    if word = "--" then (rest.foldlM (Collected.addWord? g) c).map .next
    else if isPlain word then
      match c.addWord? g word with
      | some c => read? g c rest
      | none => none
    else
      match option? g c word with
      | some (.next c) => read? g c rest
      | some (.awaits option) =>
        match rest with
        | [] => none
        | value :: rest =>
          if isPlain value then
            match c.setValue? option value with
            | some c => read? g c rest
            | none => none
          else none
      | some stop => some stop
      | none => none

/-! ### Commands -/

def programName : String := "revmatch"

def reportGrammar : Grammar where
  valued := ["output"]
  switches := ["force"]
  words := 1

def matchGrammar : Grammar where
  valued :=
    ["previous", "current", "client-headers", "server-headers", "pattern", "index", "output"]
  switches := ["minimal-comments", "output-hashes", "strip-spaced-comments", "force"]

def reportTask? (c : Collected) : Option Task :=
  match c.words with
  | [snapshot] =>
    some (.report {
      snapshot := Path.ofText snapshot
      output := c.output
      force := c.has "force" })
  | _ => none

/-- There must be a header to carry over. -/
def matchTask? (c : Collected) : Option Task := do
  let previous ← c.path? "previous"
  let current ← c.path? "current"
  let clientHeaders := c.path? "client-headers"
  let serverHeaders := c.path? "server-headers"
  let choice ← (c.values.lookup "index").elim (some .last) fun text =>
    TokenChoice.ofText? text.toList
  if clientHeaders.isNone ∧ serverHeaders.isNone then none
  else some (.carry {
    previous, current, clientHeaders, serverHeaders
    pattern := (c.values.lookup "pattern").getD Pattern.defaultText
    choice
    bare := c.has "minimal-comments"
    asFingerprints := c.has "output-hashes"
    lead := if c.has "strip-spaced-comments" then .letterOrBlank else .letter
    output := c.output
    force := c.has "force" })

/-- Reads the rest of a command line for a command.  The verbosity asked for in front of the command
holds unless one is asked for behind it. -/
def command? (name : String) (g : Grammar) (task? : Collected → Option Task) (verbosity : Nat)
    (rest : List String) : Option Request :=
  match read? g {} rest with
  | some (.next c) =>
    (task? c).map (.run (if c.verbosity = 0 then verbosity else c.verbosity))
  | some .version => some (.version (programName ++ "-" ++ name))
  | some .help => some .help
  | _ => none

def isCommand (name : String) : Bool := name = "report" || name = "match" || name = "help"

/-- Reads a command line from the words in front of the command on. -/
def request? (c : Collected) : List String → Option Request
  | [] => none
  | word :: rest =>
    if isPlain word then
      match word with
      | "report" => command? word reportGrammar reportTask? c.verbosity rest
      | "match" => command? word matchGrammar matchTask? c.verbosity rest
      | "help" =>
        match rest with
        | [] => some .help
        | [name] => if isCommand name then some .help else none
        | _ => none
      | _ => none
    else
      match option? {} c word with
      | some (.next c) => request? c rest
      | some .version => some (.version programName)
      | some .help => some .help
      | _ => none

end Arguments

/-- The request of a command line, if it is well-formed. -/
def Request.ofWords? (words : List String) : Option Request := Arguments.request? {} words

end Renumber
