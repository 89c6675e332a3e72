import Mathlib
import Renumber.Proofs.Command.Inputs

/-!
# Attempts

Once a match has loaded what it needs, it attempts one header after the other, until one is not carried
over (`Transfer.Pairs`).  An entry is printed for each that is.  The headers of a direction are found when
those of the direction before have been carried over, and their total is noted when all of them have been
(`Transfer.Rounds`).

Every match goes this way (`Transfer.exists_rounds`).
-/

namespace Renumber

open World

/-- What headers are carried over with. -/
structure Transfer where
  verbosity : Nat
  arguments : MatchArguments
  previous : Revision
  current : Revision
  pattern : Pattern

/-- An attempt to carry a header over, and the world in which it begins. -/
structure Attempt where
  direction : Direction
  source : Path
  destination : Path
  before : World

/-- What is printed of a header that has been carried over, in front of a line feed. -/
def Attempt.entry (x : Attempt) (tally : Tally) : String :=
  s!"{x.direction.title} {x.destination.text}: Matches: {tally.text}"

/-- What is noted of the headers of a direction. -/
def Direction.totalText (d : Direction) (total : Tally) : String :=
  s!"{d.title} messages: {total.matched} matched of {total.tried} attempts " ++
    s!"({total.notIds} invalid, {total.unknown} not found, " ++
    s!"{total.unmatched} without candidate)"

/-- All components of the total are the sums over the tallies. -/
structure Tally.IsSum (total : Tally) (tallies : List Tally) : Prop where
  lines : total.lines = (tallies.map Tally.lines).sum
  dropped : total.dropped = (tallies.map Tally.dropped).sum
  tried : total.tried = (tallies.map Tally.tried).sum
  matched : total.matched = (tallies.map Tally.matched).sum
  notIds : total.notIds = (tallies.map Tally.notIds).sum
  unknown : total.unknown = (tallies.map Tally.unknown).sum
  unmatched : total.unmatched = (tallies.map Tally.unmatched).sum

namespace Transfer

section

variable (t : Transfer)

def settings : Settings := t.arguments.settings t.pattern t.previous t.current

def resolver (d : Direction) : Resolver :=
  resolve TieBreak.closest (t.previous.catalog d) (t.current.catalog d).index

def stage (x : Attempt) : Stage :=
  ⟨⟨.carry t.settings (t.resolver x.direction) x.source, x.destination, t.arguments.force⟩, x.before⟩

def outcome (x : Attempt) : Except Failure Tally := (perform (t.stage x).step.run x.before).1

def after (x : Attempt) : World := (t.stage x).after

/-- What was counted in an attempt that was completed. -/
def tally? (x : Attempt) : Option Tally := (t.outcome x).toOption

/-- What is printed of an attempt that was completed, in front of a line feed. -/
def printed? (x : Attempt) : Option String := (t.tally? x).map x.entry

/-- Pairs of headers and outputs are attempted in order, until an attempt fails. -/
inductive Pairs (d : Direction) :
    World → List (Path × Path) → List Attempt → Option Failure → World → Prop
  | nil (w : World) : Pairs d w [] [] none w
  | next {w w₁ w' : World} {x : Attempt} {tally : Tally} {rest : List (Path × Path)}
    {attempts : List Attempt} {failure : Option Failure}
    (hdirection : x.direction = d) (hstart : Shows [] w x.before) (hok : t.outcome x = .ok tally)
    (hprint : Shows [.printed (x.entry tally)] (t.after x) w₁)
    (hrest : Pairs d w₁ rest attempts failure w') :
    Pairs d w ((x.source, x.destination) :: rest) (x :: attempts) failure w'
  | halt {w : World} {x : Attempt} {f : Failure} (rest : List (Path × Path))
    (hdirection : x.direction = d) (hstart : Shows [] w x.before) (herror : t.outcome x = .error f) :
    Pairs d w ((x.source, x.destination) :: rest) [x] (some f) (t.after x)

/-- The headers of some directions are attempted, one direction after the other, until a path leads
nowhere or an attempt fails. -/
inductive Rounds : List Direction → World → List Attempt → Option Failure → World → Prop
  | nil (w : World) : Rounds [] w [] none w
  | skip {d : Direction} {rest : List Direction} {w w' : World} {attempts : List Attempt}
    {failure : Option Failure} (hinput : t.arguments.headers d = none)
    (hrest : Rounds rest w attempts failure w') : Rounds (d :: rest) w attempts failure w'
  | lost {d : Direction} (rest : List Direction) {w : World} {input : Path}
    (hinput : t.arguments.headers d = some input) (hnode : w.node? input = none) :
    Rounds (d :: rest) w [] (some ⟨s!"Header input does not exist: {input.text}", none⟩) w
  | next {d : Direction} {rest : List Direction} {w w₁ w₂ w₃ w' : World} {input : Path}
    {pairs : List (Path × Path)} {notes : List Output} {total : Tally}
    {attempts attempts' : List Attempt} {failure : Option Failure}
    (hinput : t.arguments.headers d = some input)
    (hfound : StandsFor t.verbosity w input t.arguments.output pairs notes)
    (hnotes : Shows notes w w₁) (hpairs : t.Pairs d w₁ pairs attempts none w₂)
    (htotal : total.IsSum (attempts.filterMap t.tally?))
    (hnote : Shows (infoNote t.verbosity (d.totalText total)) w₂ w₃)
    (hrest : Rounds rest w₃ attempts' failure w') :
    Rounds (d :: rest) w (attempts ++ attempts') failure w'
  | halt {d : Direction} (rest : List Direction) {w w₁ w' : World} {input : Path}
    {pairs : List (Path × Path)} {notes : List Output} {attempts : List Attempt} {f : Failure}
    (hinput : t.arguments.headers d = some input)
    (hfound : StandsFor t.verbosity w input t.arguments.output pairs notes)
    (hnotes : Shows notes w w₁) (hpairs : t.Pairs d w₁ pairs attempts (some f) w') :
    Rounds (d :: rest) w attempts (some f) w'

end

end Transfer

/-! ## Totals -/

namespace Tally

theorem foldl_add (component : Tally → Nat)
    (hadd : ∀ t u, component (t + u) = component t + component u) (tallies : List Tally)
    (t : Tally) :
    component (tallies.foldl (· + ·) t) = component t + (tallies.map component).sum := by
  induction tallies generalizing t with
  | nil => rfl
  | cons u rest ih => rw [List.foldl_cons, ih, hadd, List.map_cons, List.sum_cons, Nat.add_assoc]

theorem isSum_foldl (tallies : List Tally) :
    (tallies.foldl (· + ·) ({} : Tally)).IsSum tallies where
  lines := (foldl_add lines (fun _ _ => rfl) tallies {}).trans (Nat.zero_add _)
  dropped := (foldl_add dropped (fun _ _ => rfl) tallies {}).trans (Nat.zero_add _)
  tried := (foldl_add tried (fun _ _ => rfl) tallies {}).trans (Nat.zero_add _)
  matched := (foldl_add matched (fun _ _ => rfl) tallies {}).trans (Nat.zero_add _)
  notIds := (foldl_add notIds (fun _ _ => rfl) tallies {}).trans (Nat.zero_add _)
  unknown := (foldl_add unknown (fun _ _ => rfl) tallies {}).trans (Nat.zero_add _)
  unmatched := (foldl_add unmatched (fun _ _ => rfl) tallies {}).trans (Nat.zero_add _)

end Tally

/-! ## Every match goes this way -/

namespace Transfer

variable {t : Transfer}

theorem exists_pairs (d : Direction) (total : Tally) (pairs : List (Path × Path)) (w : World) :
    let result :=
      perform (renumberFiles t.verbosity t.settings (t.resolver d) t.arguments.force d total pairs) w
    ∃ attempts, t.Pairs d w pairs attempts (failureOf? result.1) result.2 ∧
      ∀ total', result.1 = .ok total' →
        total' = (attempts.filterMap t.tally?).foldl (· + ·) total := by
  intro result
  induction pairs generalizing total w with
  | nil => exact ⟨[], .nil w, fun total' h => (Except.ok.inj h).symm⟩
  | cons pair rest ih =>
    obtain ⟨source, destination⟩ := pair
    obtain ⟨w₁, hnote, hstart⟩ := perform_note_detail t.verbosity .debug nofun
      s!"Patching {source.text} -> {destination.text}" w
    let x : Attempt := ⟨d, source, destination, w₁⟩
    rcases hrun : perform
      (renumberFile t.settings (t.resolver d) t.arguments.force source destination) w₁
      with ⟨f | tally, w₂⟩
    · have hresult : result = (.error f, w₂) :=
        (perform_bind_ok hnote _).trans (perform_bind_error hrun _)
      have herror : t.outcome x = .error f := congrArg Prod.fst hrun
      obtain rfl : t.after x = w₂ := congrArg Prod.snd hrun
      rw [hresult]
      exact ⟨[x], .halt rest rfl hstart herror, nofun⟩
    · obtain ⟨w₃, hprint, hshows⟩ := perform_print_shows (x.entry tally) w₂
      have hresult : result = perform (renumberFiles t.verbosity t.settings (t.resolver d)
          t.arguments.force d (total + tally) rest) w₃ :=
        (perform_bind_ok hnote _).trans ((perform_bind_ok hrun _).trans (perform_bind_ok hprint _))
      have hok : t.outcome x = .ok tally := congrArg Prod.fst hrun
      obtain rfl : t.after x = w₂ := congrArg Prod.snd hrun
      have htally : t.tally? x = some tally := congrArg Except.toOption hok
      obtain ⟨attempts, hrest, htotal⟩ := ih (total + tally) w₃
      rw [hresult]
      refine ⟨x :: attempts, .next rfl hstart hok hshows hrest, fun total' h => ?_⟩
      rw [List.filterMap_cons_some htally, List.foldl_cons]
      exact htotal total' h

theorem renumberHeaders_eq (t : Transfer) (d : Direction) (input : Path) :
    (renumberHeaders t.verbosity t.arguments t.settings t.previous t.current d input :
      Action (StateM World) Unit) = (do
      let pairs ← headerFiles t.verbosity input t.arguments.output
      let total ← renumberFiles t.verbosity t.settings (t.resolver d) t.arguments.force d {} pairs
      note t.verbosity .info (d.totalText total)) := rfl

/-- The headers of a direction are not there, or attempted until an attempt fails, or all carried over
and their total noted. -/
theorem perform_renumberHeaders (d : Direction) {input : Path} (hnil : input.segments ≠ [])
    (w : World) :
    let result :=
      perform (renumberHeaders t.verbosity t.arguments t.settings t.previous t.current d input) w
    (w.node? input = none ∧
      result = (.error ⟨s!"Header input does not exist: {input.text}", none⟩, w)) ∨
    ∃ pairs notes w₁ attempts, StandsFor t.verbosity w input t.arguments.output pairs notes ∧
      Shows notes w w₁ ∧
      ((∃ f w', t.Pairs d w₁ pairs attempts (some f) w' ∧ result = (.error f, w')) ∨
      ∃ w₂ total w', t.Pairs d w₁ pairs attempts none w₂ ∧
        total.IsSum (attempts.filterMap t.tally?) ∧
        Shows (infoNote t.verbosity (d.totalText total)) w₂ w' ∧ result = (.ok (), w')) := by
  intro result
  obtain ⟨pairs, notes, w₁, hfound, hnotes, hfiles⟩ | ⟨hnode, hfiles⟩ :=
    perform_headerFiles t.verbosity hnil t.arguments.output w
  swap
  · exact .inl ⟨hnode, perform_bind_error hfiles _⟩
  obtain ⟨attempts, hpairs, htotal⟩ := exists_pairs d {} pairs w₁
  refine .inr ⟨pairs, notes, w₁, attempts, hfound, hnotes, ?_⟩
  have hresult : result = _ := (congrArg (perform · w) (t.renumberHeaders_eq d input)).trans
    (perform_bind_ok hfiles _)
  rcases hrun : perform (renumberFiles t.verbosity t.settings (t.resolver d) t.arguments.force d
    {} pairs) w₁ with ⟨f | total, w₂⟩
  · rw [hrun] at hpairs
    exact .inl ⟨f, w₂, hpairs, hresult.trans (perform_bind_error hrun _)⟩
  · rw [hrun] at hpairs htotal
    obtain rfl := htotal total rfl
    obtain ⟨w', hnote, hshows⟩ := perform_note_info t.verbosity
      (d.totalText ((attempts.filterMap t.tally?).foldl (· + ·) {})) w₂
    exact .inr ⟨w₂, _, w', hpairs, Tally.isSum_foldl _, hshows,
      hresult.trans ((perform_bind_ok hrun _).trans hnote)⟩

theorem exists_rounds
    (hsegments : ∀ d input, t.arguments.headers d = some input → input.segments ≠ [])
    (directions : List Direction) (w : World) :
    let result := perform (directions.forM
      (carryDirection t.verbosity t.arguments t.settings t.previous t.current)) w
    ∃ attempts, t.Rounds directions w attempts (failureOf? result.1) result.2 := by
  intro result
  induction directions generalizing w with
  | nil => exact ⟨[], .nil w⟩
  | cons d rest ih =>
    have hresult : result =
      perform (carryDirection t.verbosity t.arguments t.settings t.previous t.current d >>= fun _ =>
        rest.forM (carryDirection t.verbosity t.arguments t.settings t.previous t.current)) w := rfl
    cases hinput : t.arguments.headers d with
    | none =>
      obtain ⟨attempts, hrest⟩ := ih w
      rw [hresult, carryDirection, hinput, Option.elim_none, pure_bind]
      exact ⟨attempts, .skip hinput hrest⟩
    | some input =>
      rw [carryDirection, hinput, Option.elim_some] at hresult
      obtain ⟨hnode, hlost⟩ | ⟨pairs, notes, w₁, attempts, hfound, hnotes, hround⟩ :=
        t.perform_renumberHeaders d (hsegments d input hinput) w
      · rw [hresult, perform_bind_error hlost]
        exact ⟨[], .lost rest hinput hnode⟩
      obtain ⟨f, w', hpairs, hhalted⟩ | ⟨w₂, total, w₃, hpairs, htotal, hnote, hdone⟩ := hround
      · rw [hresult, perform_bind_error hhalted]
        exact ⟨attempts, .halt rest hinput hfound hnotes hpairs⟩
      · obtain ⟨attempts', hrest⟩ := ih w₃
        rw [hresult, perform_bind_ok hdone]
        exact ⟨attempts ++ attempts', .next hinput hfound hnotes hpairs htotal hnote hrest⟩

end Transfer

end Renumber
