import Renumber.Report.Walk
import Renumber.Text.Numeral

/-!
# The text report

Every message is one line: its direction, a mark for colliding and dead messages, its id and
fingerprint, name, signature and parser.

The text goes to a page that takes characters one by one.  A page may be limited to a number of
bytes; then it refuses the first character that does not fit, and the report ends there.
-/

namespace Renumber

/-! ## Algorithm -/

/-- A text under way. -/
structure Page where
  /-- How many bytes still fit; no number means any. -/
  room : Option Nat := none
  /-- The characters so far, latest first. -/
  written : List Char := []

def Page.text (page : Page) : String := String.ofList page.written.reverse

def Page.fits (page : Page) (c : Char) : Bool := page.room.all (c.utf8Size ≤ ·)

/-- The page after some characters, and whether all of them fitted. -/
def Page.write (page : Page) : List Char → Page × Bool
  | [] => (page, true)
  | c :: rest =>
    if page.fits c then
      Page.write ⟨page.room.map (· - c.utf8Size), c :: page.written⟩ rest
    else (page, false)

def Message.entry (m : Message) : List Char :=
  ['['] ++ Text.decimal m.id.toNat ++ ", ".toList ++ m.fingerprint.toList ++ "] = ".toList ++
    m.name.toList ++ m.signature.toList ++
    (match m.parser with
    | some parser => "[Parser: ".toList ++ parser.toList ++ [']']
    | none => []) ++
    ['\n']

def ReportEvent.text : ReportEvent → List Char
  | revision label => "// ".toList ++ label.toList ++ ['\n']
  | direction d total =>
    "\n// ".toList ++ d.title.toList ++ " Messages | ".toList ++ Text.grouped total ++ ['\n']
  | unique m => m.direction.title.toList ++ m.entry
  | collisions d => "\n// ".toList ++ d.title.toList ++ " Message Hash Collisions\n".toList
  | group _ _ => []
  | collision m size =>
    m.direction.title.toList ++ "[Collisions: ".toList ++ Text.decimal size ++ [']'] ++ m.entry
  | deadSection d => "\n// ".toList ++ d.title.toList ++ " Dead Messages\n".toList
  | dead m => m.direction.title.toList ++ "[Dead]".toList ++ m.entry

/-- A report in the making: it can fail, and what was written stays. -/
abbrev Reporting (σ : Type) := ExceptT Unit (StateM σ)

def writeText (event : ReportEvent) : Reporting Page Unit := do
  let (page, fitted) := (← get).write event.text
  set page
  if fitted then pure () else throw ()

/-- The text report of a revision on a page, and whether all of it fitted. -/
def Revision.reportOn (r : Revision) (page : Page) : Page × Bool :=
  match (walkRevision writeText r).run.run page with
  | (.ok (), page) => (page, true)
  | (.error (), page) => (page, false)

def Revision.report (r : Revision) : String := (r.reportOn {}).1.text

end Renumber
