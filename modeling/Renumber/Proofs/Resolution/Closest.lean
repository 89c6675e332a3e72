import Renumber.Proofs.Resolution.Counterpart

/-!
# What the closest candidate has in common with a message

Closeness is an order in which candidates of different ids are never equal, and `TieBreak.closest`
takes the greatest of them (`TieBreak.closest_greatest`).

The similarity it begins with is not symmetric: a message that has no name, no parser or no shape has
none of them in common with anything, not even with itself.  But no candidate is closer to a message
than the message itself (`Similarity.between_atMost_self`), one that is as close has whatever the
message is recognized by (`Message.resembles_of_between_eq`), and what has all this is as close to any
third message (`Similarity.between_atMost_of_resembles`).
-/

namespace Renumber

open Std

/-- The first message has what the second one is recognized by. -/
structure Message.Resembles (y x : Message) : Prop where
  fingerprint : y.fingerprint = x.fingerprint
  references : y.references = x.references
  shape : ∀ s, Shape.ofSignature? x.signature = some s → Shape.ofSignature? y.signature = some s
  name : x.name ≠ "" → y.name = x.name
  parser : ∀ p, x.parser = some p → y.parser = some p

/-! ## Shapes -/

namespace Shape

theorem agreeingTypes_le (s t : Shape) : s.agreeingTypes t ≤ s.arity := by
  unfold agreeingTypes arity
  refine Nat.le_trans List.countP_le_length ?_
  rw [List.length_zip]
  exact Nat.min_le_left _ _

theorem agreeingTypes_self (s : Shape) : s.agreeingTypes s = s.arity := by
  unfold agreeingTypes arity
  induction s.types with
  | nil => rfl
  | cons type rest ih => simp [ih]

/-- Shapes with the same number of parameters are equal if all their types agree. -/
theorem eq_of_agreeingTypes {s t : Shape} (harity : s.arity = t.arity)
    (h : s.agreeingTypes t = s.arity) : s = t := by
  obtain ⟨types⟩ := s
  obtain ⟨types'⟩ := t
  simp only [agreeingTypes, arity] at harity h
  have hall : ∀ pair ∈ types.zip types', pair.1 == pair.2 := by
    refine List.countP_eq_length.1 (h.trans ?_)
    rw [List.length_zip, harity, Nat.min_self]
  congr 1
  refine List.ext_getElem harity fun i hi hi' => ?_
  have hmem : (types[i], types'[i]) ∈ types.zip types' := by
    rw [← List.getElem_zip (h := by rw [List.length_zip]; exact Nat.lt_min.2 ⟨hi, hi'⟩)]
    exact List.getElem_mem _
  simpa using hall _ hmem

end Shape

/-! ## The order of similarities -/

namespace Similarity

instance : TransCmp compare :=
  inferInstanceAs <| TransCmp <| compareLex (compareOn arityAgrees) <|
    compareLex (compareOn agreeingTypes) <| compareLex (compareOn nameAgrees) <|
      compareLex (compareOn parserAgrees) fun s t => compareOn usageGap t s

instance : LawfulEqCmp compare where
  eq_of_compare {s t} h := by
    obtain ⟨arityAgrees, agreeingTypes, nameAgrees, parserAgrees, usageGap⟩ := s
    obtain ⟨arityAgrees', agreeingTypes', nameAgrees', parserAgrees', usageGap'⟩ := t
    simp only [compare, Ordering.then_eq_eq, LawfulEqOrd.compare_eq_iff_eq] at h
    obtain ⟨rfl, rfl, rfl, rfl, rfl⟩ := h
    rfl

/-- The first similarity is in no way closer than the second. -/
structure AtMost (s t : Similarity) : Prop where
  arityAgrees : s.arityAgrees → t.arityAgrees
  agreeingTypes : s.agreeingTypes ≤ t.agreeingTypes
  nameAgrees : s.nameAgrees → t.nameAgrees
  parserAgrees : s.parserAgrees → t.parserAgrees
  usageGap : t.usageGap ≤ s.usageGap

theorem isLE_compare_of_imp {a b : Bool} (h : a → b) : (Ord.compare a b).isLE := by
  cases a <;> cases b <;> first | decide | exact absurd (h rfl) (by decide)

theorem AtMost.isLE_compare {s t : Similarity} (h : s.AtMost t) : (s.compare t).isLE := by
  have hthen : ∀ {o₁ o₂ : Ordering}, o₁.isLE → o₂.isLE → (o₁.then o₂).isLE := by decide
  refine hthen (isLE_compare_of_imp h.arityAgrees) (hthen (Nat.isLE_compare.2 h.agreeingTypes) ?_)
  refine hthen (isLE_compare_of_imp h.nameAgrees) (hthen (isLE_compare_of_imp h.parserAgrees) ?_)
  exact Nat.isLE_compare.2 h.usageGap

/-! ## What counts as similar -/

section

variable {p x y : Message}

theorem arityAgrees_iff : (between p x).arityAgrees ↔
    ∃ s t, Shape.ofSignature? p.signature = some s ∧ Shape.ofSignature? x.signature = some t ∧
      s.arity = t.arity := by
  simp only [between]
  cases Shape.ofSignature? p.signature <;> cases Shape.ofSignature? x.signature <;> simp

theorem agreeingTypes_of_some {s t : Shape} (hs : Shape.ofSignature? p.signature = some s)
    (ht : Shape.ofSignature? x.signature = some t) :
    (between p x).agreeingTypes = s.agreeingTypes t := by
  simp only [between, hs, ht]

theorem agreeingTypes_le_iff {n : Nat} : (between p x).agreeingTypes ≤ n ↔
    ∀ s t, Shape.ofSignature? p.signature = some s → Shape.ofSignature? x.signature = some t →
      s.agreeingTypes t ≤ n := by
  simp only [between]
  cases Shape.ofSignature? p.signature <;> cases Shape.ofSignature? x.signature <;> simp

theorem nameAgrees_iff : (between p x).nameAgrees ↔ p.name ≠ "" ∧ p.name = x.name := by
  simp [between]

theorem parserAgrees_iff :
    (between p x).parserAgrees ↔ p.parser.isSome ∧ p.parser = x.parser := by
  simp [between]

/-- Nothing is closer to a message than the message itself. -/
theorem between_atMost_self (x y : Message) : (between x y).AtMost (between x x) where
  arityAgrees := by
    rw [arityAgrees_iff, arityAgrees_iff]
    rintro ⟨s, _, hs, -, -⟩
    exact ⟨s, s, hs, hs, rfl⟩
  agreeingTypes := by
    rw [agreeingTypes_le_iff]
    intro s t hs _
    rw [agreeingTypes_of_some hs hs, Shape.agreeingTypes_self]
    exact s.agreeingTypes_le t
  nameAgrees := by
    rw [nameAgrees_iff, nameAgrees_iff]
    exact fun h => ⟨h.1, rfl⟩
  parserAgrees := by
    rw [parserAgrees_iff, parserAgrees_iff]
    exact fun h => ⟨h.1, rfl⟩
  usageGap := by
    simp only [between]
    omega

/-- What has all that a message is recognized by is as close as it to any other message. -/
theorem between_atMost_of_resembles (h : y.Resembles x) (p : Message) :
    (between p x).AtMost (between p y) where
  arityAgrees := by
    rw [arityAgrees_iff, arityAgrees_iff]
    rintro ⟨s, t, hs, ht, harity⟩
    exact ⟨s, t, hs, h.shape t ht, harity⟩
  agreeingTypes := by
    rw [agreeingTypes_le_iff]
    intro s t hs ht
    exact Nat.le_of_eq (agreeingTypes_of_some hs (h.shape t ht)).symm
  nameAgrees := by
    rw [nameAgrees_iff, nameAgrees_iff]
    rintro ⟨hp, hx⟩
    exact ⟨hp, hx.trans (h.name (hx ▸ hp)).symm⟩
  parserAgrees := by
    rw [parserAgrees_iff, parserAgrees_iff]
    rintro ⟨hp, hx⟩
    obtain ⟨n, hn⟩ := Option.isSome_iff_exists.1 hp
    exact ⟨hp, hn.trans (h.parser n (hx.symm.trans hn)).symm⟩
  usageGap := by
    simp only [between, h.references]
    exact Nat.le_refl _

end

end Similarity

/-- What is as close to a message as the message itself has all that it is recognized by. -/
theorem Message.resembles_of_between_eq {x y : Message} (hf : y.fingerprint = x.fingerprint)
    (h : Similarity.between x y = Similarity.between x x) : y.Resembles x where
  fingerprint := hf
  references := by
    have hgap := congrArg Similarity.usageGap h
    simp only [Similarity.between] at hgap
    exact UInt32.toNat_inj.1 (by omega)
  shape := by
    intro s hs
    have harity : (Similarity.between x y).arityAgrees := by
      rw [h, Similarity.arityAgrees_iff]
      exact ⟨s, s, hs, hs, rfl⟩
    obtain ⟨_, t, hs', ht, harity⟩ := Similarity.arityAgrees_iff.1 harity
    obtain rfl : s = _ := Option.some.inj (hs.symm.trans hs')
    have htypes := congrArg Similarity.agreeingTypes h
    rw [Similarity.agreeingTypes_of_some hs ht, Similarity.agreeingTypes_of_some hs hs,
      Shape.agreeingTypes_self] at htypes
    rw [ht, Shape.eq_of_agreeingTypes harity htypes]
  name := by
    intro hx
    have hname : (Similarity.between x y).nameAgrees := by
      rw [h, Similarity.nameAgrees_iff]
      exact ⟨hx, rfl⟩
    exact (Similarity.nameAgrees_iff.1 hname).2.symm
  parser := by
    intro p hp
    have hparser : (Similarity.between x y).parserAgrees := by
      rw [h, Similarity.parserAgrees_iff]
      exact ⟨by rw [hp]; rfl, rfl⟩
    rw [← (Similarity.parserAgrees_iff.1 hparser).2, hp]

/-! ## The greatest candidate -/

namespace TieBreak

theorem foldl_greatest {α : Type} {compare : α → α → Ordering} [TransCmp compare] (l : List α)
    (a : α) : ∀ b ∈ a :: l,
      (compare b (l.foldl (fun best b => if compare best b = .gt then best else b) a)).isLE := by
  induction l generalizing a with
  | nil =>
    intro b hb
    rw [List.mem_singleton.1 hb]
    exact ReflCmp.isLE_rfl
  | cons c rest ih =>
    intro b hb
    rw [List.foldl_cons]
    by_cases hgt : compare a c = .gt
    · rw [if_pos hgt]
      rcases List.mem_cons.1 hb with rfl | hb
      · exact ih b b List.mem_cons_self
      · rcases List.mem_cons.1 hb with rfl | hb
        · have hlt := OrientedCmp.lt_of_gt hgt
          exact TransCmp.isLE_trans (Ordering.isLE_of_eq_lt hlt) (ih a a List.mem_cons_self)
        · exact ih a b (List.mem_cons_of_mem _ hb)
    · rw [if_neg hgt]
      rcases List.mem_cons.1 hb with rfl | hb
      · have hle := Ordering.isLE_iff_ne_gt.2 hgt
        exact TransCmp.isLE_trans hle (ih c c List.mem_cons_self)
      · exact ih c b hb

instance (previous : Message) : TransCmp fun a b : Message =>
    (Similarity.between previous a).compare (Similarity.between previous b) where
  eq_swap := (inferInstance : OrientedCmp Similarity.compare).eq_swap
  isLE_trans := (inferInstance : TransCmp Similarity.compare).isLE_trans

instance (previous : Message) : TransCmp (closeness previous) :=
  inferInstanceAs <| TransCmp <| compareLex
    (fun a b => (Similarity.between previous a).compare (Similarity.between previous b))
    fun a b => compareOn Message.id b a

theorem closest_eq_some {previous m : Message} {candidates : List Message}
    (h : closest previous candidates = some m) :
    m ∈ candidates ∧ ∀ b ∈ candidates, (closeness previous b m).isLE := by
  cases candidates with
  | nil => cases h
  | cons a rest =>
    obtain ⟨m', hm', hclosest⟩ := lastGreatest?_mem (closeness previous) (List.cons_ne_nil a rest)
    obtain rfl : m = m' := Option.some.inj (h.symm.trans hclosest)
    refine ⟨hm', fun b hb => ?_⟩
    rw [← Option.some.inj h]
    exact foldl_greatest rest a b hb

/-- A candidate that is similar enough to win loses by its id alone. -/
theorem eq_and_id_le_of_isLE {previous m b : Message} (h : (closeness previous b m).isLE)
    (hmost : (Similarity.between previous m).AtMost (Similarity.between previous b)) :
    Similarity.between previous b = Similarity.between previous m ∧ m.id ≤ b.id := by
  unfold closeness at h
  rcases Ordering.isLE_then_iff_or.1 h with hlt | ⟨heq, hid⟩
  · exact absurd hmost.isLE_compare (OrientedCmp.not_isLE_of_lt hlt)
  · exact ⟨LawfulEqCmp.eq_of_compare heq, (LawfulOrderOrd.isLE_compare _ _).1 hid⟩

variable {candidates : List Message}

/-- The closest candidate to one of the candidates has all that this one is recognized by. -/
theorem resembles_of_closest {x y : Message} (hf : y.fingerprint = x.fingerprint)
    (hx : x ∈ candidates) (h : closest x candidates = some y) : y.Resembles x ∧ y.id ≤ x.id := by
  obtain ⟨-, hgreatest⟩ := closest_eq_some h
  obtain ⟨heq, hid⟩ :=
    eq_and_id_le_of_isLE (hgreatest x hx) (Similarity.between_atMost_self x y)
  exact ⟨Message.resembles_of_between_eq hf heq.symm, hid⟩

end TieBreak

end Renumber
