/-!
# Checks one after the other

A validator that refuses at the first thing it finds is a sequence of checks in
`Except`. It accepts when every one of them does.
-/

namespace VastCsi.Lib

universe u

variable {ε α : Type u}

def refuseIf (p : Prop) [Decidable p] (e : ε) : Except ε PUnit := if p then .error e else .ok ⟨⟩

theorem refuseIf_ok_iff {p : Prop} [Decidable p] {e : ε} {a : PUnit} :
    refuseIf p e = .ok a ↔ ¬p := by
  rw [refuseIf]
  split
  next h => simp only [reduceCtorEq, h, not_true_eq_false]
  next h => simp only [h, not_false_eq_true]

/-- A check and what follows it. -/
theorem check_ok_iff {x : Except ε PUnit} {f : PUnit → Except ε α} {a : α} :
    (x >>= f) = .ok a ↔ x = .ok ⟨⟩ ∧ f ⟨⟩ = .ok a := by
  cases x with
  | error e =>
    show (Except.error e : Except ε α) = .ok a ↔ _
    simp only [reduceCtorEq, false_and]
  | ok u =>
    show f u = .ok a ↔ _
    simp only [true_and]

end VastCsi.Lib
