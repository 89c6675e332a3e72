import Mathlib.Data.List.Zip
import Renumber.Proofs.Resolution.Closest

/-!
# Shapes that agree in everything

Two shapes agree in as many parameter types as there are positions with the same type in both.  That
does not depend on which shape is named first (`Shape.agreeingTypes_comm`), and it is the number of
parameters of both only if the shapes are equal (`Shape.eq_iff_agreeingTypes`).

So the first two things that candidates for a message are compared by, the number of parameters and the
types in common, cannot be greater than they are for a candidate of the message's own shape
(`Similarity.agreeingTypes_le_arity`), and are as great for no other one
(`Similarity.agrees_fully_iff`).  A candidate of this shape is closer than any other
(`Similarity.compare_eq_lt`), whatever their names, parsers and reference counts.
-/

namespace Renumber

namespace Shape

theorem agreeingTypes_comm (s t : Shape) : s.agreeingTypes t = t.agreeingTypes s := by
  unfold agreeingTypes
  rw [← List.zip_swap, List.countP_map]
  refine List.countP_congr fun (a, b) _ => ?_
  rw [Function.comp_apply, Prod.swap_prod_mk, beq_iff_eq, beq_iff_eq]
  exact eq_comm

theorem agreeingTypes_le_min (s t : Shape) : s.agreeingTypes t ≤ min s.arity t.arity := by
  have hle := t.agreeingTypes_le s
  rw [agreeingTypes_comm] at hle
  exact Nat.le_min.2 ⟨s.agreeingTypes_le t, hle⟩

theorem eq_iff_agreeingTypes {s t : Shape} :
    s = t ↔ s.arity = t.arity ∧ t.arity = s.agreeingTypes t := by
  constructor
  · rintro rfl
    exact ⟨rfl, s.agreeingTypes_self.symm⟩
  · rintro ⟨harity, htypes⟩
    exact eq_of_agreeingTypes harity (htypes.symm.trans harity.symm)

end Shape

/-! ## The closest shape -/

namespace Similarity

variable {p x y : Message} {s : Shape} (hp : Shape.ofSignature? p.signature = some s)

include hp

theorem agreeingTypes_le_arity (x : Message) : (between p x).agreeingTypes ≤ s.arity := by
  rw [agreeingTypes_le_iff]
  intro s' t hs' _
  obtain rfl : s = s' := Option.some.inj (hp.symm.trans hs')
  exact s.agreeingTypes_le t

/-- A candidate has all of a message's parameter types, and no others, if it has the same shape. -/
theorem agrees_fully_iff :
    (between p x).arityAgrees ∧ (between p x).agreeingTypes = s.arity ↔
      Shape.ofSignature? x.signature = some s := by
  constructor
  · rintro ⟨harity, htypes⟩
    obtain ⟨s', t, hs', ht, harity⟩ := arityAgrees_iff.1 harity
    obtain rfl : s = s' := Option.some.inj (hp.symm.trans hs')
    rw [agreeingTypes_of_some hp ht] at htypes
    rw [ht, Shape.eq_of_agreeingTypes harity htypes]
  · intro hx
    exact ⟨arityAgrees_iff.2 ⟨s, s, hp, hx, rfl⟩,
      (agreeingTypes_of_some hp hx).trans s.agreeingTypes_self⟩

/-- A candidate of the same shape is closer than one of another shape. -/
theorem compare_eq_lt (hx : Shape.ofSignature? x.signature = some s)
    (hy : Shape.ofSignature? y.signature ≠ some s) :
    (between p y).compare (between p x) = .lt := by
  obtain ⟨harity, htypes⟩ := (agrees_fully_iff hp).2 hx
  have hle := agreeingTypes_le_arity hp y
  have hfewer := mt (agrees_fully_iff hp).1 hy
  unfold Similarity.compare
  rw [harity, htypes]
  cases hyarity : (between p y).arityAgrees with
  | false => rfl
  | true =>
    have hlt : (between p y).agreeingTypes < s.arity :=
      Nat.lt_of_le_of_ne hle fun heq => hfewer ⟨hyarity, heq⟩
    rw [Nat.compare_eq_lt.2 hlt]
    rfl

end Similarity

/-! ## Main theorem -/

/-- The number of agreeing types is the same from both sides and at most the smaller number of
parameters, and it is the number of parameters of both only for equal shapes.  So no candidate for a
message of a shape has more in common with it than one that has this shape; any other has less, and
ranks lower. -/
theorem agreeingTypes_isSound (s t : Shape) :
    s.agreeingTypes t = t.agreeingTypes s ∧
    s.agreeingTypes t ≤ min s.arity t.arity ∧
    (s = t ↔ s.arity = t.arity ∧ t.arity = s.agreeingTypes t) ∧
    ∀ p x : Message, Shape.ofSignature? p.signature = some s →
      (Similarity.between p x).agreeingTypes ≤ s.arity ∧
      ((Similarity.between p x).arityAgrees ∧ (Similarity.between p x).agreeingTypes = s.arity ↔
        Shape.ofSignature? x.signature = some s) ∧
      ∀ y : Message, Shape.ofSignature? x.signature = some s →
        Shape.ofSignature? y.signature ≠ some s →
          (Similarity.between p y).compare (Similarity.between p x) = .lt :=
  ⟨s.agreeingTypes_comm t, s.agreeingTypes_le_min t, Shape.eq_iff_agreeingTypes, fun _ x hp =>
    ⟨Similarity.agreeingTypes_le_arity hp x, Similarity.agrees_fully_iff hp,
      fun _ hx hy => Similarity.compare_eq_lt hp hx hy⟩⟩

/-- The same types under other names win against the same number of types, one of them another, in a
message of the same name and parser. -/
theorem agreeingTypes_isSound_otherNames :
    let message (name signature : String) : Message :=
      { id := 1, fingerprint := "f", direction := .incoming, name, parser := some name, signature }
    let p := message "Chat" "(k:int, s:String)"
    let x := message "Shout" "(a:int, b:String)"
    let y := message "Chat" "(k:int, s:int)"
    Shape.ofSignature? p.signature = some ⟨["int", "String"]⟩ ∧
    Shape.ofSignature? y.signature = some ⟨["int", "int"]⟩ ∧
    Shape.agreeingTypes ⟨["int", "String"]⟩ ⟨["int", "int"]⟩ = 1 ∧
    (Similarity.between p y).arityAgrees ∧ (Similarity.between p x).agreeingTypes = 2 ∧
    (Similarity.between p y).compare (Similarity.between p x) = .lt := by
  intro message p x y
  have hp : Shape.ofSignature? p.signature = some ⟨["int", "String"]⟩ := by decide
  have hx : Shape.ofSignature? x.signature = some ⟨["int", "String"]⟩ := by decide
  have hy : Shape.ofSignature? y.signature = some ⟨["int", "int"]⟩ := by decide
  obtain ⟨-, -, -, hclosest⟩ := agreeingTypes_isSound ⟨["int", "String"]⟩ ⟨["int", "int"]⟩
  obtain ⟨-, hfully, hcloser⟩ := hclosest p x hp
  exact ⟨hp, hy, by decide, by decide, (hfully.2 hx).2, hcloser y hx (by rw [hy]; decide)⟩

end Renumber
