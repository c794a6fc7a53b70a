/-!
# Fields of a versioned record

A client that prepared its own copy of the fields of a record sends it as a *replacement* of a
region of the record (`overlay`), or as a *merge patch* of the fields in which the copy differs
from the base it was prepared from (`mergePatch`). For either, `_keeps_iff` says when one field of
the server survives.
-/

namespace VastCsi.Lib

universe u v

variable {L : Type u} {V : Type v}

/-- The server's fields after a replacement of the region `R`. -/
def overlay (R : L → Bool) (mine server : L → V) : L → V :=
  fun l => if R l then mine l else server l

/-- The server's fields after a merge patch from `base` to `mine`. -/
def mergePatch [DecidableEq V] (base mine server : L → V) : L → V :=
  fun l => if mine l = base l then server l else mine l

theorem overlay_keeps_iff {R : L → Bool} {mine server : L → V} {l : L} :
    overlay R mine server l = server l ↔ (R l = true → mine l = server l) := by
  unfold overlay
  cases hR : R l with
  | true => simp
  | false => simp

theorem mergePatch_keeps_iff [DecidableEq V] {base mine server : L → V} {l : L} :
    mergePatch base mine server l = server l ↔ mine l = base l ∨ mine l = server l := by
  unfold mergePatch
  by_cases h : mine l = base l
  · rw [if_pos h]
    exact iff_of_true rfl (.inl h)
  · rw [if_neg h]
    constructor
    · intro hs
      exact .inr hs
    · intro hs
      exact hs.resolve_left h

end VastCsi.Lib
