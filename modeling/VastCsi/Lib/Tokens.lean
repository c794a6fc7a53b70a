import Mathlib.Data.List.DropRight

/-!
# Words of a text

`tokens sep l` are the non-empty runs between separators, and `strip p l` is what is left when the
ends are trimmed. The words have no separators, every other symbol is in one of them, and a
separator splits them; from this two splitters are compared.
-/

namespace VastCsi.Lib.Tokens

open List

variable {α : Type} {p sep sep' : α → Bool}

/-- Without the `p` at both ends. -/
def strip (p : α → Bool) (l : List α) : List α := (l.dropWhile p).rdropWhile p

theorem strip_spec (p : α → Bool) (l : List α) :
    ∃ a b, (∀ x ∈ a, p x = true) ∧ (∀ x ∈ b, p x = true) ∧ l = a ++ strip p l ++ b := by
  refine ⟨l.takeWhile p, (l.dropWhile p).rtakeWhile p, fun x hx => ?_, fun x hx => ?_, ?_⟩
  · exact mem_takeWhile_imp hx
  · exact mem_rtakeWhile_imp hx
  · rw [strip, append_assoc, rdropWhile_append_rtakeWhile, takeWhile_append_dropWhile]

variable {l : List α} {x : α}

theorem mem_of_mem_strip (h : x ∈ strip p l) : x ∈ l := by
  obtain ⟨a, b, -, -, hl⟩ := strip_spec p l
  rw [hl]
  exact mem_append_left b (mem_append_right a h)

/-- Trimming takes nothing but `p`. -/
theorem mem_strip (h : x ∈ l) (hx : p x = false) : x ∈ strip p l := by
  obtain ⟨a, b, ha, hb, hl⟩ := strip_spec p l
  rw [hl] at h
  rcases mem_append.mp h with h | h
  · rcases mem_append.mp h with h | h
    · rw [ha x h] at hx
      cases hx
    · exact h
  · rw [hb x h] at hx
    cases hx

theorem strip_between {a b : List α} (ha : ∀ x ∈ a, p x = true) (hl : ∀ x ∈ l, p x = false)
    (hb : ∀ x ∈ b, p x = true) : strip p (a ++ l ++ b) = l := by
  rw [strip, append_assoc, dropWhile_append_of_pos ha]
  cases l with
  | nil =>
    have hnil : ([] ++ b).dropWhile p = [] := dropWhile_eq_nil_iff.mpr hb
    rw [hnil, rdropWhile_nil]
  | cons x l =>
    have hx : p x = false := hl x mem_cons_self
    have hkeep : (x :: l ++ b).dropWhile p = x :: l ++ b :=
      dropWhile_cons_of_neg (by rw [hx]; decide)
    have hdrop : ∀ y ∈ b.reverse, p y = true := fun y hy => hb y (mem_reverse.mp hy)
    have hself : (x :: l).rdropWhile p = x :: l :=
      rdropWhile_eq_self_iff.mpr fun hne => by
        rw [hl _ (getLast_mem hne)]
        decide
    rw [hkeep, List.rdropWhile, reverse_append, dropWhile_append_of_pos hdrop]
    exact hself

theorem strip_eq_self (h : ∀ x ∈ l, p x = false) : strip p l = l := by
  have hbetween := strip_between (a := []) (b := []) (fun x hx => nomatch hx) h
    fun x hx => nomatch hx
  rwa [nil_append, append_nil] at hbetween

/-- A symbol that stays at the front. -/
theorem head_strip {x : α} {l : List α} (hx : p x = false) : ∃ m, strip p (x :: l) = x :: m := by
  have hkeep : (x :: l).dropWhile p = x :: l := dropWhile_cons_of_neg (by rw [hx]; decide)
  have hmem : x ∈ strip p (x :: l) := mem_strip mem_cons_self hx
  obtain ⟨b, hb⟩ : strip p (x :: l) <+: x :: l := by
    rw [strip, hkeep]
    exact rdropWhile_prefix p _
  cases hm : strip p (x :: l) with
  | nil =>
    rw [hm] at hmem
    cases hmem
  | cons y m =>
    rw [hm, cons_append] at hb
    exact ⟨m, by rw [(List.cons.inj hb).1]⟩

theorem strip_strip (p : α → Bool) (l : List α) : strip p (strip p l) = strip p l := by
  have hkeep : (strip p l).dropWhile p = strip p l := by
    cases hl : l.dropWhile p with
    | nil => rw [strip, hl]; rfl
    | cons x rest =>
      have hx : p x = false := by
        have hne : l.dropWhile p ≠ [] := by rw [hl]; exact cons_ne_nil x rest
        have hhead := head_dropWhile_not p hne
        simpa [hl] using hhead
      have hself : strip p l = strip p (x :: rest) := by
        rw [strip, strip, hl, dropWhile_cons_of_neg (by rw [hx]; decide)]
      obtain ⟨m, hm⟩ := head_strip (l := rest) hx
      rw [hself, hm, dropWhile_cons_of_neg (by rw [hx]; decide)]
  rw [strip, hkeep, strip]
  exact rdropWhile_idempotent p _

/-- The non-empty runs between separators. -/
def tokens (sep : α → Bool) (l : List α) : List (List α) := (l.splitOnP sep).filter (!·.isEmpty)

theorem tokens_nil : tokens sep [] = [] := rfl

theorem tokens_append_cons {c : α} (hc : sep c = true) (a b : List α) :
    tokens sep (a ++ c :: b) = tokens sep a ++ tokens sep b := by
  rw [tokens, splitOnP_append_cons a b hc, filter_append]
  rfl

/-- A text without separators. -/
theorem tokens_of_forall (h : ∀ x ∈ l, sep x = false) :
    tokens sep l = if l.isEmpty then [] else [l] := by
  rw [tokens, splitOnP_eq_singleton h]
  cases l <;> rfl

theorem tokens_word (hne : l ≠ []) (h : ∀ x ∈ l, sep x = false) : tokens sep l = [l] := by
  rw [tokens_of_forall h, if_neg (by rwa [List.isEmpty_iff])]

theorem mem_splitOnP {w : List α} :
    ∀ {l : List α}, w ∈ l.splitOnP sep → ∀ x ∈ w, x ∈ l ∧ sep x = false
  | [], h, x, hx => by
    rw [splitOnP_nil, mem_singleton] at h
    rw [h] at hx
    cases hx
  | c :: l, h, x, hx => by
    have ih : ∀ {w}, w ∈ l.splitOnP sep → ∀ x ∈ w, x ∈ c :: l ∧ sep x = false := fun hw x hx =>
      ⟨mem_cons_of_mem c (mem_splitOnP hw x hx).1, (mem_splitOnP hw x hx).2⟩
    rw [splitOnP_cons_eq_if_modifyHead] at h
    split at h
    next =>
      rcases mem_cons.mp h with rfl | h
      · cases hx
      · exact ih h x hx
    next hc =>
      -- the first word of the rest grows by `c`
      cases hl : l.splitOnP sep with
      | nil => exact absurd hl (splitOnP_ne_nil sep l)
      | cons q qs =>
        rw [hl] at h ih
        rcases mem_cons.mp h with rfl | h
        · rcases mem_cons.mp hx with rfl | hx
          · exact ⟨mem_cons_self, Bool.eq_false_iff.mpr hc⟩
          · exact ih mem_cons_self x hx
        · exact ih (mem_cons_of_mem q h) x hx

theorem mem_tokens {w : List α} (h : w ∈ tokens sep l) :
    w ≠ [] ∧ ∀ x ∈ w, x ∈ l ∧ sep x = false := by
  obtain ⟨hmem, hne⟩ := mem_filter.mp h
  refine ⟨fun hnil => ?_, mem_splitOnP hmem⟩
  rw [hnil] at hne
  cases hne

/-- What is not a separator is in some word. -/
theorem exists_mem_tokens (hx : sep x = false) (h : x ∈ l) : ∃ w ∈ tokens sep l, x ∈ w := by
  have hsplit : ∃ w ∈ l.splitOnP sep, x ∈ w := by
    induction l with
    | nil => cases h
    | cons c l ih =>
      rw [splitOnP_cons_eq_if_modifyHead]
      rcases mem_cons.mp h with rfl | h
      · rw [hx]
        cases hl : l.splitOnP sep with
        | nil => exact absurd hl (splitOnP_ne_nil sep l)
        | cons q qs => exact ⟨x :: q, mem_cons_self, mem_cons_self⟩
      · obtain ⟨w, hw, hxw⟩ := ih h
        split
        next => exact ⟨w, mem_cons_of_mem _ hw, hxw⟩
        next =>
          cases hl : l.splitOnP sep with
          | nil => exact absurd hl (splitOnP_ne_nil sep l)
          | cons q qs =>
            rw [hl] at hw
            rcases mem_cons.mp hw with rfl | hw
            · exact ⟨c :: w, mem_cons_self, mem_cons_of_mem c hxw⟩
            · exact ⟨w, mem_cons_of_mem _ hw, hxw⟩
  obtain ⟨w, hw, hxw⟩ := hsplit
  refine ⟨w, mem_filter.mpr ⟨hw, ?_⟩, hxw⟩
  cases w with
  | nil => cases hxw
  | cons y w => rfl

/-- Two splitters that agree on the symbols of a text; the symbols may be rewritten where they
separate. -/
theorem tokens_map {f : α → α} (hsep : ∀ x ∈ l, sep (f x) = sep' x)
    (hf : ∀ x ∈ l, sep' x = false → f x = x) : tokens sep (l.map f) = tokens sep' l := by
  have hsplit : (l.map f).splitOnP sep = l.splitOnP sep' := by
    induction l with
    | nil => rfl
    | cons c l ih =>
      have ih := ih (fun x hx => hsep x (mem_cons_of_mem c hx))
        fun x hx => hf x (mem_cons_of_mem c hx)
      have hc := hsep c mem_cons_self
      rw [map_cons, splitOnP_cons_eq_if_modifyHead, splitOnP_cons_eq_if_modifyHead, ih, hc]
      split
      next => rfl
      next hfalse => rw [hf c mem_cons_self (Bool.eq_false_iff.mpr hfalse)]
  rw [tokens, tokens, hsplit]

theorem tokens_congr (h : ∀ x ∈ l, sep x = sep' x) : tokens sep l = tokens sep' l := by
  have hmap := tokens_map (f := id) h fun _ _ _ => rfl
  rwa [map_id] at hmap

/-- Separators at the ends do not matter. -/
theorem tokens_between {a b : List α} (l : List α) (ha : ∀ x ∈ a, sep x = true)
    (hb : ∀ x ∈ b, sep x = true) : tokens sep (a ++ l ++ b) = tokens sep l := by
  have hleft : ∀ l : List α, tokens sep (a ++ l) = tokens sep l := by
    intro l
    induction a with
    | nil => rfl
    | cons c a ih =>
      have hcons := tokens_append_cons (ha c mem_cons_self) [] (a ++ l)
      rw [tokens_nil, nil_append, nil_append] at hcons
      rw [cons_append, hcons]
      exact ih fun x hx => ha x (mem_cons_of_mem c hx)
  have hright : ∀ l : List α, tokens sep (l ++ b) = tokens sep l := by
    induction b with
    | nil =>
      intro l
      rw [append_nil]
    | cons c b ih =>
      intro l
      have ih := ih (fun x hx => hb x (mem_cons_of_mem c hx)) []
      rw [tokens_append_cons (hb c mem_cons_self), ← nil_append b, ih, tokens_nil, append_nil]
  rw [hright, hleft]

/-- The words of a text that was joined from words. -/
theorem tokens_intercalate [DecidableEq α] {c : α} {ws : List (List α)}
    (h : ∀ w ∈ ws, w ≠ [] ∧ c ∉ w) : tokens (· == c) ([c].intercalate ws) = ws := by
  cases ws with
  | nil => rfl
  | cons w ws =>
    have hsplit : ([c].intercalate (w :: ws)).splitOn c = w :: ws :=
      splitOn_intercalate c (fun v hv => (h v hv).2) (by simp)
    rw [tokens, ← splitOn_eq_splitOnP, hsplit, filter_eq_self]
    intro v hv
    have hne := (h v hv).1
    simpa using hne

end VastCsi.Lib.Tokens
