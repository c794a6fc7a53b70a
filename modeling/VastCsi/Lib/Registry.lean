import Mathlib.Logic.Function.Basic
import Mathlib.Data.Option.Basic

/-!
# Objects found by name

A store in which an object is found by its key alone, and each object was made for one user.
Nothing checks for whom: a user who comes to a key with another's object *crosses* that one. Where
every object stands at a key of the user it was made for (`Owned`), a user crosses nobody at a key
that is theirs alone.
-/

namespace VastCsi.Lib

open Function

/-- For whom the object at each key was made. -/
abbrev Registry (κ ι : Type) := κ → Option ι

namespace Registry

variable {κ ι : Type} [DecidableEq κ]

/-- Make the object at a key unless there is one. -/
def ensure (r : Registry κ ι) (k : κ) (i : ι) : Registry κ ι := update r k (some ((r k).getD i))

/-- Remove what is at a key. -/
def remove (r : Registry κ ι) (k : κ) : Registry κ ι := update r k none

/-- A user coming to a key finds the object of another there. -/
def Crosses (r : Registry κ ι) (k : κ) (i : ι) : Prop := ∃ j, r k = some j ∧ j ≠ i

instance [DecidableEq ι] (r : Registry κ ι) (k : κ) (i : ι) : Decidable (Crosses r k i) :=
  match h : r k with
  | none => isFalse fun ⟨_, hj, _⟩ => nomatch h.symm.trans hj
  | some j =>
    if hne : j = i then isFalse fun ⟨_, hj, hi⟩ => hi (Option.some.inj (hj.symm.trans h) ▸ hne)
    else isTrue ⟨j, h, hne⟩

variable {r : Registry κ ι} {k k' : κ} {i j : ι}

@[simp]
theorem ensure_self : ensure r k i k = some ((r k).getD i) := update_self ..

@[simp]
theorem ensure_of_ne (h : k' ≠ k) : ensure r k i k' = r k' := update_of_ne h ..

@[simp]
theorem remove_self : remove r k k = none := update_self ..

@[simp]
theorem remove_of_ne (h : k' ≠ k) : remove r k k' = r k' := update_of_ne h ..

-- from here on the two are what these lemmas say; keys are never compared by unfolding
attribute [irreducible] ensure remove

/-- An object stays whose it is while others are made. -/
theorem ensure_of_some (h : r k' = some j) : ensure r k i k' = some j := by
  by_cases hk : k' = k
  · subst hk
    rw [ensure_self, h]
    rfl
  · rw [ensure_of_ne hk, h]

/-- An object that is there was there, or is the one just made. -/
theorem ensure_eq_some (h : ensure r k i k' = some j) :
    r k' = some j ∨ r k = none ∧ k' = k ∧ j = i := by
  by_cases hk : k' = k
  · subst hk
    cases hr : r k' with
    | none =>
      rw [ensure_self, hr] at h
      exact .inr ⟨rfl, rfl, (Option.some.inj h).symm⟩
    | some j' =>
      rw [ensure_of_some hr] at h
      exact .inl h
  · rw [ensure_of_ne hk] at h
    exact .inl h

/-- Whoever crosses nobody at a key finds it empty or their own. -/
theorem ensure_self_of_not_crosses (h : ¬Crosses r k i) : ensure r k i k = some i := by
  rw [ensure_self]
  cases hk : r k with
  | none => rfl
  | some j =>
    by_cases hj : j = i
    · rw [hj]; rfl
    · exact absurd ⟨j, hk, hj⟩ h

/-- Every object is at a key of the one it was made for. -/
def Owned (keys : ι → κ → Prop) (r : Registry κ ι) : Prop := ∀ k i, r k = some i → keys i k

namespace Owned

variable {keys : ι → κ → Prop}

omit [DecidableEq κ] in
theorem empty : Owned keys fun _ => none := fun _ _ h => nomatch h

/-- Making an object leaves every object its owner's. -/
theorem ensure (h : Owned keys r) (hk : r k = none → keys i k) : Owned keys (ensure r k i) := by
  intro k' j hj
  rcases ensure_eq_some hj with hj | ⟨hnone, rfl, rfl⟩
  · exact h k' j hj
  · exact hk hnone

/-- So does removing one. -/
theorem remove (h : Owned keys r) : Owned keys (remove r k) := by
  intro k' j hj
  by_cases heq : k' = k
  · subst heq
    rw [remove_self] at hj
    cases hj
  · rw [remove_of_ne heq] at hj
    exact h k' j hj

omit [DecidableEq κ] in
/-- At a key of one user only, that user crosses nobody. -/
theorem not_crosses (h : Owned keys r) (hk : ∀ j, keys j k → j = i) : ¬Crosses r k i :=
  fun ⟨j, hj, hne⟩ => hne (hk j (h k j hj))

end Owned

end Registry

end VastCsi.Lib
