import Renumber.Proofs.Report.Events
import Renumber.Report.Text

/-!
# Reports that are interrupted

A walk over a revision is over at the first event that the writer refuses: the writer is called for
the events before it and for this one, and for no other, and it is left as that call leaves it
(`run_forM_of_failsOn`).  What a writer is called for is seen by keeping a log of the calls, which does
not disturb the writer (`run_forM_logged`).

The text report is one long write of the texts of all events (`Revision.reportOn_eq`), since writing a
text in two parts is writing it at once (`Page.write_append`).  So a page with room for `n` bytes ends up
with as many characters of it as fit (`Page.write_limited`).
-/

namespace Renumber

section

variable {σ : Type}

/-- What a call of the writer gives, and the state that it leaves. -/
def call (write : ReportEvent → Reporting σ Unit) (event : ReportEvent) (st : σ) :
    Except Unit Unit × σ :=
  (write event).run.run st

/-- The writer takes these events one after the other, from the first state to the second. -/
inductive Takes (write : ReportEvent → Reporting σ Unit) : List ReportEvent → σ → σ → Prop
  | nil {st : σ} : Takes write [] st st
  | cons {event : ReportEvent} {rest : List ReportEvent} {st st₁ st₂ : σ}
      (h : call write event st = (.ok (), st₁)) (hrest : Takes write rest st₁ st₂) :
      Takes write (event :: rest) st st₂

/-- From the first state on the writer takes `n` of these events, which leads it to the second, and
refuses the next if there is one. -/
structure FailsOn (write : ReportEvent → Reporting σ Unit) (events : List ReportEvent) (n : Nat)
    (st st₁ : σ) : Prop where
  takes : Takes write (events.take n) st st₁
  refuses : ∀ event ∈ events[n]?, (call write event st₁).1 = .error ()

/-- The same writer with a log of what it is called for. -/
def logged (write : ReportEvent → Reporting σ Unit) (event : ReportEvent) :
    Reporting (σ × List ReportEvent) Unit :=
  ExceptT.mk fun (st, calls) =>
    let (result, st') := call write event st
    (result, (st', calls ++ [event]))

/-- How a walk ends, the state in which it leaves the writer, and what it has called the writer for. -/
def loggedWalk (write : ReportEvent → Reporting σ Unit) (r : Revision) (st : σ) :
    Except Unit Unit × σ × List ReportEvent :=
  (walkRevision (logged write) r).run.run (st, [])

end

/-- The longest part of a text, from its beginning on and in whole characters, of at most `n` bytes. -/
structure IsLongestFit (part whole : String) (n : Nat) : Prop where
  begins : part.toList <+: whole.toList
  size_le : part.utf8ByteSize ≤ n
  longest : ∀ other : String, other.toList <+: whole.toList → other.utf8ByteSize ≤ n →
    other.toList <+: part.toList

/-! ## Walks -/

section

variable {σ : Type} (write : ReportEvent → Reporting σ Unit)

theorem run_forM_cons (event : ReportEvent) (rest : List ReportEvent) (st : σ) :
    (forM (event :: rest) write : Reporting σ Unit).run.run st =
      match call write event st with
      | (.error e, st) => (.error e, st)
      | (.ok _, st) => (forM rest write : Reporting σ Unit).run.run st := by
  rw [List.forM_cons]
  unfold call ExceptT.run StateT.run
  simp only [bind, ExceptT.bind, ExceptT.mk, StateT.bind, ExceptT.bindCont]
  rcases write event st with ⟨_ | _, st'⟩ <;> rfl

theorem call_logged (event : ReportEvent) (st : σ) (calls : List ReportEvent) :
    call (logged write) event (st, calls) =
      ((call write event st).1, ((call write event st).2, calls ++ [event])) := rfl

/-- The log of a walk does not disturb the writer. -/
theorem run_forM_logged (events : List ReportEvent) (st : σ) (calls : List ReportEvent) :
    let logging :=
      (forM events (logged write) : Reporting (σ × List ReportEvent) Unit).run.run (st, calls)
    (forM events write : Reporting σ Unit).run.run st = (logging.1, logging.2.1) := by
  induction events generalizing st calls with
  | nil => rfl
  | cons event rest ih =>
    simp only [run_forM_cons, call_logged]
    rcases call write event st with ⟨_ | _, st'⟩
    · rfl
    · exact ih st' (calls ++ [event])

variable {write}

/-- A walk goes on up to the event on which the writer fails, and no farther. -/
theorem run_forM_of_failsOn {events : List ReportEvent} {n : Nat} {st st₁ : σ}
    (h : FailsOn write events n st st₁) (calls : List ReportEvent) :
    (forM events (logged write) : Reporting (σ × List ReportEvent) Unit).run.run (st, calls) =
      match events[n]? with
      | none => (.ok (), st₁, calls ++ events)
      | some event => (.error (), (call write event st₁).2, calls ++ events.take (n + 1)) := by
  induction n generalizing events st calls with
  | zero =>
    cases h.takes
    cases events with
    | nil => simp; rfl
    | cons event rest =>
      have hevent := h.refuses event rfl
      rw [run_forM_cons, call_logged, hevent]
      rfl
  | succ n ih =>
    cases events with
    | nil =>
      cases h.takes
      simp; rfl
    | cons event rest =>
      obtain ⟨htakes, hrefuses⟩ := h
      rw [List.take_succ_cons] at htakes
      cases htakes with
      | cons hcall hrest =>
        rw [run_forM_cons, call_logged, hcall, List.getElem?_cons_succ]
        simp only
        rw [ih ⟨hrest, hrefuses⟩]
        cases rest[n]? <;> simp

theorem takes_of_ok (h : ∀ event st, call write event st = (.ok (), st)) (events : List ReportEvent)
    (st : σ) : Takes write events st st := by
  induction events with
  | nil => exact .nil
  | cons event rest ih => exact .cons (h event st) ih

theorem loggedWalk_of_failsOn {r : Revision} {n : Nat} {st st₁ : σ}
    (h : FailsOn write r.events n st st₁) :
    loggedWalk write r st =
      match r.events[n]? with
      | none => (.ok (), st₁, r.events)
      | some event => (.error (), (call write event st₁).2, r.events.take (n + 1)) := by
  unfold loggedWalk
  rw [walkRevision_eq_forM, run_forM_of_failsOn h]
  rfl

end

/-! ## Pages -/

theorem utf8ByteSize_ofList_cons (c : Char) (text : List Char) :
    (String.ofList (c :: text)).utf8ByteSize = c.utf8Size + (String.ofList text).utf8ByteSize := by
  simp

namespace Page

/-- A text that is written in two parts is written as at once. -/
theorem write_append (a b : List Char) (page : Page) :
    page.write (a ++ b) =
      match page.write a with
      | (page, true) => page.write b
      | (page, false) => (page, false) := by
  induction a generalizing page with
  | nil => rfl
  | cons c rest ih =>
    rw [List.cons_append, write, write]
    split
    · exact ih _
    · rfl

theorem write_unlimited (text written : List Char) :
    (⟨none, written⟩ : Page).write text = (⟨none, text.reverse ++ written⟩, true) := by
  induction text generalizing written with
  | nil => rfl
  | cons c rest ih =>
    have hfits : (⟨none, written⟩ : Page).fits c = true := rfl
    rw [write, if_pos hfits, Option.map_none, ih]
    simp

/-- As many characters are written as fit. -/
theorem write_limited (n : Nat) (text written : List Char) :
    ∃ front back room, text = front ++ back ∧
      (⟨some n, written⟩ : Page).write text = (⟨some room, front.reverse ++ written⟩, back.isEmpty) ∧
      (String.ofList front).utf8ByteSize ≤ n ∧
      ∀ c ∈ back.head?, n < (String.ofList front).utf8ByteSize + c.utf8Size := by
  induction text generalizing n written with
  | nil => exact ⟨[], [], n, rfl, rfl, by simp, by simp⟩
  | cons c rest ih =>
    rw [write]
    by_cases hfits : c.utf8Size ≤ n
    · obtain ⟨front, back, room, rfl, hwrite, hle, hback⟩ := ih (n - c.utf8Size) (c :: written)
      refine ⟨c :: front, back, room, rfl, ?_, ?_, ?_⟩
      · rw [if_pos (by simpa [fits] using hfits), Option.map_some, hwrite]
        simp
      · rw [utf8ByteSize_ofList_cons]
        omega
      · intro d hd
        have := hback d hd
        rw [utf8ByteSize_ofList_cons]
        omega
    · refine ⟨[], c :: rest, n, rfl, ?_, by simp, ?_⟩
      · rw [if_neg (by simpa [fits] using hfits)]
        rfl
      · simpa using Nat.lt_of_not_le hfits

end Page

/-! ## Texts -/

theorem isLongestFit_of_append {front back : List Char} {n : Nat}
    (hle : (String.ofList front).utf8ByteSize ≤ n)
    (hback : ∀ c ∈ back.head?, n < (String.ofList front).utf8ByteSize + c.utf8Size) :
    IsLongestFit (String.ofList front) (String.ofList (front ++ back)) n where
  begins := by simp
  size_le := hle
  longest other hother hsize := by
    rw [String.toList_ofList] at hother ⊢
    rcases List.prefix_or_prefix_of_prefix hother (List.prefix_append front back) with h | h
    · exact h
    obtain ⟨more, hmore⟩ := h
    cases more with
    | nil => simp [← hmore]
    | cons c more =>
      -- one character more would not fit
      rw [← hmore, List.prefix_append_right_inj] at hother
      obtain ⟨others, rfl⟩ := hother
      have hlarge := hback c rfl
      rw [← String.ofList_toList (s := other), ← hmore, String.ofList_append,
        String.utf8ByteSize_append, utf8ByteSize_ofList_cons] at hsize
      omega

theorem call_writeText (event : ReportEvent) (page : Page) :
    call writeText event page =
      match page.write event.text with
      | (page, true) => (.ok (), page)
      | (page, false) => (.error (), page) := by
  have hcall : call writeText event page =
      (if (page.write event.text).2 then pure () else throw () : Reporting Page Unit).run.run
        (page.write event.text).1 := rfl
  rw [hcall]
  rcases page.write event.text with ⟨page', _ | _⟩ <;> rfl

theorem run_forM_writeText (events : List ReportEvent) (page : Page) :
    (forM events writeText : Reporting Page Unit).run.run page =
      match page.write (events.flatMap ReportEvent.text) with
      | (page, true) => (.ok (), page)
      | (page, false) => (.error (), page) := by
  induction events generalizing page with
  | nil => rfl
  | cons event rest ih =>
    rw [run_forM_cons, call_writeText, List.flatMap_cons, Page.write_append]
    rcases page.write event.text with ⟨page', _ | _⟩
    · rfl
    · exact ih page'

namespace Revision

/-- The text of a report. -/
def fullText (r : Revision) : List Char := r.events.flatMap ReportEvent.text

theorem reportOn_eq (r : Revision) (page : Page) : r.reportOn page = page.write r.fullText := by
  unfold reportOn fullText
  rw [walkRevision_eq_forM, run_forM_writeText]
  rcases page.write (r.events.flatMap ReportEvent.text) with ⟨page', _ | _⟩ <;> rfl

theorem report_eq (r : Revision) : r.report = String.ofList r.fullText := by
  unfold report
  rw [reportOn_eq, show ({} : Page) = ⟨none, []⟩ from rfl, Page.write_unlimited]
  simp [Page.text]

end Revision

/-! ## Main theorem -/

end Renumber
