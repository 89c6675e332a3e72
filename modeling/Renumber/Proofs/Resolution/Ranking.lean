import Mathlib.Data.Prod.Lex
import Mathlib.Order.Lattice.Nat
import Renumber.Proofs.Resolution.Closest

/-!
# Which candidate a tie-break picks

`Message.rank` places the candidates for a message in a linear order: by the number of parameters, the
parameter types in common, the name, the parser, the distance between the reference counts, and the id,
in this order.  What `TieBreak.closeness` compares is the rank (`closeness_eq_gt_iff`).

Both tie-breaks go through the candidates with the best one so far, which is kept or gives way to the
next one.  Such a search ends at the member that no member before it would have kept out and that keeps
out every member behind it (`foldl_isKept`, `IsKept.eq`).  So `TieBreak.closest` takes the last
candidate of the greatest rank, and `TieBreak.lowest` the first one of the lowest id; and where no two
candidates have the same id, the order in which they come does not matter (`tieBreak_isOptimal`).
-/

namespace Renumber

/-! ## Ranks -/

namespace Message

/-- Both signatures have a shape, and with the same number of parameters. -/
def SameArity (p m : Message) : Prop :=
  ∃ s t, Shape.ofSignature? p.signature = some s ∧ Shape.ofSignature? m.signature = some t ∧
    s.arity = t.arity

instance (p m : Message) : Decidable (p.SameArity m) :=
  decidable_of_iff _ Similarity.arityAgrees_iff

/-- The parameter types in the signature; none if it has no shape. -/
def types (m : Message) : List String := (Shape.ofSignature? m.signature).elim [] Shape.types

/-- The number of positions with the same parameter type in both signatures. -/
def typesInCommon (p m : Message) : ℕ := (p.types.zip m.types).countP fun (a, b) => a == b

def SameName (p m : Message) : Prop := p.name ≠ "" ∧ p.name = m.name

def SameParser (p m : Message) : Prop := p.parser.isSome ∧ p.parser = m.parser

instance (p m : Message) : Decidable (p.SameName m) := inferInstanceAs (Decidable (_ ∧ _))

instance (p m : Message) : Decidable (p.SameParser m) := inferInstanceAs (Decidable (_ ∧ _))

/-- The distance between the reference counts. -/
def usageDistance (p m : Message) : ℕ := ((p.references.toNat : ℤ) - m.references.toNat).natAbs

/-- How close a candidate is to a message; of distance and id, the smaller one ranks higher. -/
def rank (p m : Message) : Bool ×ₗ ℕ ×ₗ Bool ×ₗ Bool ×ₗ ℕᵒᵈ ×ₗ ℕᵒᵈ :=
  toLex (decide (p.SameArity m), toLex (p.typesInCommon m, toLex (decide (p.SameName m),
    toLex (decide (p.SameParser m), toLex (OrderDual.toDual (p.usageDistance m),
      OrderDual.toDual m.id.toNat)))))

end Message

/-- The member at which a search from left to right ends, if `keeps best a` says that the best member so
far is kept when it meets `a`. -/
def IsKept {α : Type} (keeps : α → α → Prop) (l : List α) (a : α) : Prop :=
  ∃ front back, l = front ++ a :: back ∧ (∀ b ∈ front, ¬ keeps b a) ∧ ∀ b ∈ back, keeps a b

/-! ## Closeness and rank -/

section

variable (p m : Message)

theorem typesInCommon_eq : p.typesInCommon m = (Similarity.between p m).agreeingTypes := by
  simp only [Message.typesInCommon, Message.types, Similarity.between]
  cases Shape.ofSignature? p.signature <;> cases Shape.ofSignature? m.signature <;>
    simp [Shape.agreeingTypes]

theorem usageDistance_eq : p.usageDistance m = (Similarity.between p m).usageGap := by
  simp only [Message.usageDistance, Similarity.between]
  omega

/-- The rank is made of the similarity and the id. -/
theorem rank_eq : p.rank m =
    toLex ((Similarity.between p m).arityAgrees, toLex ((Similarity.between p m).agreeingTypes,
      toLex ((Similarity.between p m).nameAgrees, toLex ((Similarity.between p m).parserAgrees,
        toLex (OrderDual.toDual (Similarity.between p m).usageGap,
          OrderDual.toDual m.id.toNat))))) := by
  have hdecide : ∀ {q : Prop} [Decidable q] {b : Bool}, (b ↔ q) → decide q = b := fun h =>
    (decide_eq_decide.2 h.symm).trans (Bool.decide_coe _)
  have harity : decide (p.SameArity m) = (Similarity.between p m).arityAgrees :=
    hdecide Similarity.arityAgrees_iff
  have hname : decide (p.SameName m) = (Similarity.between p m).nameAgrees :=
    hdecide Similarity.nameAgrees_iff
  have hparser : decide (p.SameParser m) = (Similarity.between p m).parserAgrees :=
    hdecide Similarity.parserAgrees_iff
  rw [Message.rank, harity, hname, hparser, typesInCommon_eq, usageDistance_eq]

end

theorem Message.id_eq_of_rank_eq {p a b : Message} (h : p.rank a = p.rank b) : a.id = b.id := by
  simp only [Message.rank, toLex_inj, Prod.mk.injEq, OrderDual.toDual_inj] at h
  exact UInt32.toNat_inj.1 h.2.2.2.2.2

/-- Of two candidates the first is closer if it ranks higher. -/
theorem closeness_eq_gt_iff {p a b : Message} :
    TieBreak.closeness p a b = .gt ↔ p.rank b < p.rank a := by
  have hid : a.id < b.id ↔ a.id.toNat < b.id.toNat := UInt32.lt_iff_toNat_lt
  rw [rank_eq, rank_eq]
  simp only [TieBreak.closeness, Similarity.compare, Ordering.then_assoc, Ordering.then_eq_gt,
    compare_gt_iff_gt (α := Bool), Std.compare_eq_gt, Std.compare_eq_iff_eq, hid,
    Prod.Lex.toLex_lt_toLex, OrderDual.toDual_lt_toDual, OrderDual.toDual_inj]
  simp only [eq_comm]

/-! ## The search -/

section

variable {α : Type} {keeps : α → α → Prop}

/-- A search ends at one member only. -/
theorem IsKept.eq {l : List α} {a b : α} (ha : IsKept keeps l a) (hb : IsKept keeps l b) : a = b := by
  obtain ⟨front, back, rfl, hfront, hback⟩ := ha
  obtain ⟨front', back', heq, hfront', hback'⟩ := hb
  rcases List.append_eq_append_iff.1 heq with ⟨more, rfl, hmore⟩ | ⟨more, rfl, hmore⟩
  · cases more with
    | nil => exact (List.cons.inj hmore).1
    | cons c more =>
      -- `a` stands in front of `b` and has kept it out
      obtain ⟨rfl, rfl⟩ := List.cons.inj hmore
      exact absurd (hback b (by simp)) (hfront' a (by simp))
  · cases more with
    | nil => exact (List.cons.inj hmore).1.symm
    | cons c more =>
      obtain ⟨rfl, rfl⟩ := List.cons.inj hmore
      exact absurd (hback' a (by simp)) (hfront b (by simp))

theorem IsKept.mem {l : List α} {a : α} (h : IsKept keeps l a) : a ∈ l := by
  obtain ⟨front, back, rfl, -, -⟩ := h
  simp

/-- A member that would not have kept out the one at which the search ends can stand in front. -/
theorem IsKept.cons {l : List α} {a b : α} (h : IsKept keeps l a) (hb : ¬ keeps b a) :
    IsKept keeps (b :: l) a := by
  obtain ⟨front, back, rfl, hfront, hback⟩ := h
  exact ⟨b :: front, back, rfl, List.forall_mem_cons.2 ⟨hb, hfront⟩, hback⟩

theorem IsKept.eq_or_not {l : List α} {a b : α} (h : IsKept keeps (b :: l) a) :
    b = a ∨ ¬ keeps b a := by
  obtain ⟨front, back, heq, hfront, -⟩ := h
  cases front with
  | nil => exact Or.inl (List.cons.inj heq).1
  | cons c front =>
    rw [(List.cons.inj heq).1]
    exact Or.inr (hfront c List.mem_cons_self)

/-- Where of any two members one keeps the other out, the search ends at the one that keeps out all. -/
theorem isKept_iff {l : List α} {a : α} (hnodup : l.Nodup)
    (htotal : ∀ b ∈ l, ∀ c ∈ l, b ≠ c → (keeps b c ↔ ¬ keeps c b)) :
    IsKept keeps l a ↔ a ∈ l ∧ ∀ b ∈ l, b ≠ a → keeps a b := by
  constructor
  · intro h
    refine ⟨h.mem, fun b hb hne => ?_⟩
    rw [htotal a h.mem b hb hne.symm]
    obtain ⟨front, back, rfl, hfront, hback⟩ := h
    rcases List.mem_append.1 hb with hb' | hb'
    · exact hfront b hb'
    · have hkeeps := hback b ((List.mem_cons.1 hb').resolve_left hne)
      exact (htotal a (by simp) b hb hne.symm).1 hkeeps
  · rintro ⟨ha, hkeeps⟩
    obtain ⟨front, back, rfl⟩ := List.append_of_mem ha
    obtain ⟨hfront, hback⟩ := List.nodup_cons.1 (List.nodup_middle.1 hnodup)
    rw [List.mem_append, not_or] at hfront
    refine ⟨front, back, rfl, fun b hb => ?_, fun b hb => ?_⟩
    · have hne : b ≠ a := fun h => hfront.1 (h ▸ hb)
      exact (htotal a ha b (by simp [hb]) hne.symm).1 (hkeeps b (by simp [hb]) hne)
    · have hne : b ≠ a := fun h => hfront.2 (h ▸ hb)
      exact hkeeps b (by simp [hb]) hne

section

variable (htrans : ∀ a b c, keeps a b → keeps b c → keeps a c)

include htrans

/-- A member that is kept out by the first one can stand behind it. -/
theorem IsKept.insert {l : List α} {a b c : α} (h : IsKept keeps (b :: l) a) (hc : keeps b c) :
    IsKept keeps (b :: c :: l) a := by
  obtain ⟨front, back, heq, hfront, hback⟩ := h
  cases front with
  | nil =>
    obtain ⟨rfl, rfl⟩ := List.cons.inj heq
    exact ⟨[], c :: l, rfl, hfront, List.forall_mem_cons.2 ⟨hc, hback⟩⟩
  | cons d front =>
    obtain ⟨rfl, rfl⟩ := List.cons.inj heq
    obtain ⟨hb, hfront⟩ := List.forall_mem_cons.1 hfront
    have hc' : ¬ keeps c a := fun h => hb (htrans b c a hc h)
    exact ⟨b :: c :: front, back, rfl,
      List.forall_mem_cons.2 ⟨hb, List.forall_mem_cons.2 ⟨hc', hfront⟩⟩, hback⟩

variable [DecidableRel keeps] (hsplit : ∀ a b c, keeps a c → keeps a b ∨ keeps b c)

include hsplit

theorem foldl_isKept (l : List α) (a : α) :
    IsKept keeps (a :: l) (l.foldl (fun best b => if keeps best b then best else b) a) := by
  induction l generalizing a with
  | nil => exact ⟨[], [], rfl, by simp, by simp⟩
  | cons b rest ih =>
    rw [List.foldl_cons]
    by_cases hkeeps : keeps a b
    · rw [if_pos hkeeps]
      exact (ih a).insert htrans hkeeps
    · rw [if_neg hkeeps]
      refine (ih b).cons fun h => ?_
      -- what keeps out the last one keeps out `b` already, or `b` keeps the last one out
      rcases hsplit a b _ h with hab | hb
      · exact hkeeps hab
      · rcases (ih b).eq_or_not with heq | hnot
        · exact hkeeps (heq ▸ h)
        · exact hnot hb

theorem pick_eq_some_iff {pick : List α → Option α} (hnil : pick [] = none)
    (hcons : ∀ a l, pick (a :: l) =
      some (l.foldl (fun best b => if keeps best b then best else b) a))
    {l : List α} {a : α} : pick l = some a ↔ IsKept keeps l a := by
  cases l with
  | nil =>
    rw [hnil]
    exact ⟨nofun, fun h => nomatch h.mem⟩
  | cons b l =>
    have hkept := foldl_isKept htrans hsplit l b
    rw [hcons, Option.some.injEq]
    constructor
    · rintro rfl
      exact hkept
    · exact fun h => hkept.eq h

end

end

namespace TieBreak

variable {p m : Message} {candidates : List Message}

theorem closest_eq_some_iff :
    closest p candidates = some m ↔
      IsKept (fun best b => p.rank b < p.rank best) candidates m := by
  have hcons : ∀ a rest, closest p (a :: rest) =
      some (rest.foldl (fun best b => if p.rank b < p.rank best then best else b) a) := by
    intro a rest
    simp only [closest, lastGreatest?, closeness_eq_gt_iff]
  refine pick_eq_some_iff (fun (a b c : Message) hab hbc => ?_) (fun a b c hac => ?_) rfl hcons
  · exact lt_trans hbc hab
  · exact (lt_or_ge (p.rank b) (p.rank a)).imp_right fun h => lt_of_lt_of_le hac h

theorem lowest_eq_some_iff :
    lowest p candidates = some m ↔ IsKept (fun best b => best.id ≤ b.id) candidates m := by
  have hcons : ∀ a rest, lowest p (a :: rest) =
      some (rest.foldl (fun best b => if best.id ≤ b.id then best else b) a) := by
    intro a rest
    simp only [lowest, firstLeast?, Std.compare_eq_gt, ← UInt32.not_le, ite_not]
  refine pick_eq_some_iff (fun (a b c : Message) hab hbc => ?_) (fun a b c hac => ?_) rfl hcons
  · exact UInt32.le_trans hab hbc
  · exact (UInt32.le_total a.id b.id).imp_right fun h => UInt32.le_trans h hac

theorem PicksMember.eq_none_iff {tieBreak : TieBreak} (h : tieBreak.PicksMember)
    (hnil : tieBreak p [] = none) : tieBreak p candidates = none ↔ candidates = [] := by
  constructor
  · intro hnone
    by_contra hne
    obtain ⟨m, -, hm⟩ := h p candidates hne
    rw [hnone] at hm
    cases hm
  · rintro rfl
    exact hnil

/-- A tie-break that keeps the one or the other of any two candidates of different ids does not depend on
their order. -/
theorem eq_of_perm {tieBreak : TieBreak} {keeps : Message → Message → Prop}
    (hkept : ∀ l m, tieBreak p l = some m ↔ IsKept keeps l m)
    (htotal : ∀ b c : Message, b.id ≠ c.id → (keeps b c ↔ ¬ keeps c b))
    (hnodup : (candidates.map (·.id)).Nodup) {other : List Message} (hperm : other.Perm candidates) :
    tieBreak p other = tieBreak p candidates := by
  have hids : ∀ b ∈ candidates, ∀ c ∈ candidates, b ≠ c → (keeps b c ↔ ¬ keeps c b) :=
    fun b hb c hc hne => htotal b c fun hid => hne (List.inj_on_of_nodup_map hnodup hb hc hid)
  refine Option.ext fun m => ?_
  rw [hkept, hkept, isKept_iff (List.Nodup.of_map _ hnodup) hids,
    isKept_iff (hperm.nodup_iff.2 (List.Nodup.of_map _ hnodup)) fun b hb c hc =>
      hids b (hperm.mem_iff.1 hb) c (hperm.mem_iff.1 hc)]
  simp only [hperm.mem_iff]

end TieBreak

/-! ## Main theorem -/

/-- The closest candidate is the last one of the greatest rank, and the lowest the first one of the lowest
id; candidates of different ids may come in any order. -/
theorem tieBreak_isOptimal (p : Message) (candidates : List Message) :
    (TieBreak.closest p candidates = none ↔ candidates = []) ∧
    (∀ m, TieBreak.closest p candidates = some m ↔
      ∃ front back, candidates = front ++ m :: back ∧
        (∀ b ∈ front, p.rank b ≤ p.rank m) ∧ ∀ b ∈ back, p.rank b < p.rank m) ∧
    (TieBreak.lowest p candidates = none ↔ candidates = []) ∧
    (∀ m, TieBreak.lowest p candidates = some m ↔
      ∃ front back, candidates = front ++ m :: back ∧
        (∀ b ∈ front, m.id < b.id) ∧ ∀ b ∈ back, m.id ≤ b.id) ∧
    ((candidates.map (·.id)).Nodup → ∀ other : List Message, other.Perm candidates →
      TieBreak.closest p other = TieBreak.closest p candidates ∧
      TieBreak.lowest p other = TieBreak.lowest p candidates) := by
  refine ⟨TieBreak.closest_picksMember.eq_none_iff rfl, fun m => ?_,
    TieBreak.lowest_picksMember.eq_none_iff rfl, fun m => ?_, fun hnodup other hperm => ⟨?_, ?_⟩⟩
  · rw [TieBreak.closest_eq_some_iff, IsKept]
    simp only [not_lt]
  · rw [TieBreak.lowest_eq_some_iff, IsKept]
    simp only [UInt32.not_le]
  · refine TieBreak.eq_of_perm (fun l m => TieBreak.closest_eq_some_iff) (fun b c hne => ?_) hnodup
      hperm
    have hrank : p.rank b ≠ p.rank c := mt Message.id_eq_of_rank_eq hne
    rw [not_lt, le_iff_lt_or_eq, or_iff_left hrank.symm]
  · refine TieBreak.eq_of_perm (fun l m => TieBreak.lowest_eq_some_iff) (fun b c hne => ?_) hnodup
      hperm
    rw [UInt32.not_le, UInt32.lt_iff_le_and_ne, and_iff_left hne]

/-- Three candidates of different ids in two orders; the two that have the same parameter type differ in
their ids alone. -/
theorem tieBreak_isOptimal_twoOrders :
    let message (id : MessageId) (signature : String) : Message :=
      { id, fingerprint := "f", direction := .outgoing, signature }
    let previous := message 9 "(k:int)"
    let candidates := [message 4 "(s:String)", message 6 "(n:int)", message 5 "(n:int = 0)"]
    (candidates.map (·.id)).Nodup ∧
    TieBreak.closest previous candidates = some (message 5 "(n:int = 0)") ∧
    TieBreak.closest previous candidates.reverse = some (message 5 "(n:int = 0)") ∧
    TieBreak.lowest previous candidates = some (message 4 "(s:String)") ∧
    TieBreak.lowest previous candidates.reverse = some (message 4 "(s:String)") := by
  intro message previous candidates
  have hnodup : (candidates.map (·.id)).Nodup := by decide
  have hclosest : TieBreak.closest previous candidates = some (message 5 "(n:int = 0)") := by decide
  have hlowest : TieBreak.lowest previous candidates = some (message 4 "(s:String)") := by decide
  obtain ⟨-, -, -, -, horder⟩ := tieBreak_isOptimal previous candidates
  obtain ⟨hclosest', hlowest'⟩ := horder hnodup candidates.reverse (List.reverse_perm _)
  exact ⟨hnodup, hclosest, hclosest'.trans hclosest, hlowest, hlowest'.trans hlowest⟩

end Renumber
