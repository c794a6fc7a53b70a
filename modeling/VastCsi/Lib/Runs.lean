import Mathlib.Data.List.DropRight
import VastCsi.Lib.Text

/-!
# Text between separators

Joining two texts with a separator keeps the list of pieces between separators
(`join_eq_iff_pieces`). Collapsing runs of the separator loses the empty pieces too: the loop
computes `squeeze` (`collapse_eq_squeeze`), and without a separator at either end that is the
non-empty pieces, the `words`, joined by one separator each (`squeeze_eq_unwords`). `clip` cuts a
text to a length.
-/

namespace VastCsi.Lib.Text

open List Bool Nat Option

variable {c : Char}

theorem splitOn_injective {l l' : List Char} (h : l.splitOn c = l'.splitOn c) : l = l' := by
  calc l = [c].intercalate (l.splitOn c) := (intercalate_splitOn c).symm
    _ = [c].intercalate (l'.splitOn c) := by rw [h]
    _ = l' := intercalate_splitOn c

/-- Two joined texts are the same exactly if their pieces are. -/
theorem join_eq_iff_pieces {a b a' b' : List Char} : a ++ c :: b = a' ++ c :: b' ↔
      a.splitOn c ++ b.splitOn c = a'.splitOn c ++ b'.splitOn c := by
  rw [← splitOn_append_cons_self, ← splitOn_append_cons_self]
  exact ⟨fun h => by rw [h], splitOn_injective⟩

/-- The non-empty pieces. -/
def words (c : Char) (l : List Char) : List (List Char) := (l.splitOn c).filter (!·.isEmpty)

/-- Words with one separator between them. -/
def unwords (c : Char) (ws : List (List Char)) : List Char := [c].intercalate ws

theorem words_append (a b : List Char) : words c (a ++ c :: b) = words c a ++ words c b := by
  rw [words, splitOn_append_cons_self, filter_append]
  rfl

theorem words_cons_self (l : List Char) : words c (c :: l) = words c l := by
  have h := words_append (c := c) [] l
  rw [nil_append] at h
  rw [h]
  rfl

/-- A first character that is no separator begins the first word. -/
theorem words_cons_of_ne {x y : Char} {l : List Char} (hx : x ≠ c) (hy : y ≠ c) :
    ∃ w ws, words c (y :: l) = w :: ws ∧ words c (x :: y :: l) = (x :: w) :: ws := by
  cases hl : l.splitOn c with
  | nil => exact absurd hl (splitOn_ne_nil c l)
  | cons p ps =>
    refine ⟨y :: p, ps.filter (!·.isEmpty), ?_, ?_⟩
    · rw [words, splitOn_cons_eq_if_modifyHead, if_neg (by simpa using hy), hl]
      rfl
    · rw [words, splitOn_cons_eq_if_modifyHead, if_neg (by simpa using hx),
        splitOn_cons_eq_if_modifyHead, if_neg (by simpa using hy), hl]
      rfl

theorem words_singleton {x : Char} (hx : x ≠ c) : words c [x] = [[x]] := by
  rw [words, splitOn_cons_eq_if_modifyHead, if_neg (by simpa using hx), splitOn_nil]
  rfl

/-- `strings.ReplaceAll(s, "cc", "c")`. -/
def replacePairs (c : Char) : List Char → List Char
  | a :: b :: l => if a = c ∧ b = c then c :: replacePairs c l else a :: replacePairs c (b :: l)
  | l => l

/-- Replace while there is a pair, at most so many times. -/
def collapseLoop (c : Char) : Nat → List Char → List Char
  | 0, l => l
  | n + 1, l => if occurs [c, c] l then collapseLoop c n (replacePairs c l) else l

/-- Replace until there is no pair left. -/
def collapse (c : Char) (l : List Char) : List Char := collapseLoop c l.length l

/-- One of each run. -/
def squeeze (c : Char) : List Char → List Char
  | a :: b :: l => if a = c ∧ b = c then squeeze c (b :: l) else a :: squeeze c (b :: l)
  | l => l

theorem squeeze_cons (a : Char) (l : List Char) :
    squeeze c (a :: l) = if a = c ∧ l.head? = some c then squeeze c l else a :: squeeze c l := by
  cases l with
  | nil => rw [if_neg fun h => nomatch h.2]; rfl
  | cons b l =>
    rw [squeeze]
    simp only [head?_cons, some.injEq]

theorem head?_replacePairs : ∀ l : List Char, (replacePairs c l).head? = l.head?
  | [] => rfl
  | [_] => rfl
  | a :: b :: l => by
    rw [replacePairs]
    split
    next h => rw [h.1]; rfl
    next => rfl

theorem squeeze_replacePairs : ∀ l : List Char, squeeze c (replacePairs c l) = squeeze c l
  | [] => rfl
  | [_] => rfl
  | a :: b :: l => by
    rw [replacePairs]
    split
    next h =>
      -- what becomes of a pair is squeezed with what follows, as the pair is
      rw [squeeze_cons, head?_replacePairs, squeeze_replacePairs l, ← squeeze_cons, squeeze,
        if_pos h, h.2]
    next h => rw [squeeze_cons, head?_replacePairs, squeeze_replacePairs (b :: l), ← squeeze_cons]

theorem squeeze_eq_self : ∀ {l : List Char}, occurs [c, c] l = false → squeeze c l = l
  | [], _ => rfl
  | [_], _ => rfl
  | a :: b :: l, h => by
    rw [occurs, or_eq_false_iff] at h
    rw [squeeze, if_neg, squeeze_eq_self h.2]
    rintro ⟨rfl, rfl⟩
    simp [List.isPrefixOf] at h

theorem replacePairs_length_le : ∀ l : List Char, (replacePairs c l).length ≤ l.length
  | [] => le_refl _
  | [_] => le_refl _
  | a :: b :: l => by
    rw [replacePairs]
    split
    next =>
      have := replacePairs_length_le l
      simp only [length_cons]
      omega
    next =>
      have := replacePairs_length_le (b :: l)
      simp only [length_cons] at this ⊢
      omega

theorem replacePairs_length_lt :
    ∀ {l : List Char}, occurs [c, c] l = true → (replacePairs c l).length < l.length
  | [], h => by simp [occurs] at h
  | [a], h => by simp [occurs, List.isPrefixOf] at h
  | a :: b :: l, h => by
    rw [replacePairs]
    split
    next =>
      have := replacePairs_length_le (c := c) l
      simp only [length_cons]
      omega
    next hne =>
      rw [occurs, or_eq_true] at h
      -- no pair here, so it is further on
      have hrest : occurs [c, c] (b :: l) = true := by
        refine h.resolve_left fun hp => hne ?_
        simp only [List.isPrefixOf, and_eq_true, beq_iff_eq] at hp
        exact ⟨hp.1.symm, hp.2.1.symm⟩
      have := replacePairs_length_lt hrest
      simp only [length_cons] at this ⊢
      omega

theorem collapseLoop_eq_squeeze :
    ∀ {n : Nat} {l : List Char}, l.length ≤ n → collapseLoop c n l = squeeze c l
  | 0, l, h => by
    rw [length_eq_zero_iff.mp (le_zero.mp h)]
    rfl
  | n + 1, l, h => by
    rw [collapseLoop]
    split
    next hp =>
      -- each turn is shorter, so the length is fuel enough
      have := replacePairs_length_lt hp
      rw [collapseLoop_eq_squeeze (by omega), squeeze_replacePairs]
    next hp => rw [squeeze_eq_self (eq_false_iff.mpr hp)]

/-- The loop leaves one of each run. -/
theorem collapse_eq_squeeze (l : List Char) : collapse c l = squeeze c l :=
  collapseLoop_eq_squeeze (le_refl _)

theorem words_ne_nil : ∀ {l : List Char}, l ≠ [] → l.getLast? ≠ some c → words c l ≠ []
  | [], h, _ => absurd rfl h
  | [x], _, h => by
    rw [words_singleton fun hx => h (by rw [hx]; rfl)]
    exact cons_ne_nil _ _
  | x :: y :: l, _, h => by
    have ih : words c (y :: l) ≠ [] := words_ne_nil (cons_ne_nil _ _) h
    by_cases hx : x = c
    · subst hx
      rw [words_cons_self]
      exact ih
    · by_cases hy : y = c
      · subst hy
        rw [show x :: y :: l = [x] ++ y :: l from rfl, words_append, words_singleton hx]
        exact cons_ne_nil _ _
      · obtain ⟨w, ws, _, hws⟩ := words_cons_of_ne (l := l) hx hy
        rw [hws]
        exact cons_ne_nil _ _

theorem unwords_cons {w : List Char} {ws : List (List Char)} (h : ws ≠ []) :
    unwords c (w :: ws) = w ++ c :: unwords c ws := by
  cases ws with
  | nil => exact absurd rfl h
  | cons v vs => rw [unwords, intercalate_cons_cons]; simp [unwords]

/-- A squeezed text that does not end in a separator: one separator if it begins
with one, and the words. -/
theorem squeeze_eq : ∀ {l : List Char}, l.getLast? ≠ some c →
    squeeze c l = (if l.head? = some c then [c] else []) ++ unwords c (words c l)
  | [], _ => by simp [squeeze, words, unwords]
  | [x], h => by
    have hx : x ≠ c := fun hx => h (by rw [hx]; rfl)
    rw [words_singleton hx, if_neg (by simpa using hx)]
    simp [squeeze, unwords]
  | x :: y :: l, h => by
    have hlast : (y :: l).getLast? ≠ some c := h
    have hne := words_ne_nil (cons_ne_nil y l) hlast
    rw [squeeze_cons, squeeze_eq hlast]
    by_cases hx : x = c
    · subst hx
      rw [words_cons_self]
      by_cases hy : y = x
      · subst hy
        simp
      · simp [hy]
    · have hhead : (x :: y :: l).head? ≠ some c := by simpa using hx
      rw [if_neg fun hc => hx hc.1, if_neg hhead, nil_append]
      by_cases hy : y = c
      · subst hy
        rw [words_cons_self] at hne
        rw [show x :: y :: l = [x] ++ y :: l from rfl, words_append, words_singleton hx,
          singleton_append, unwords_cons hne, words_cons_self]
        simp
      · have hhead' : (y :: l).head? ≠ some c := by simpa using hy
        obtain ⟨w, ws, hw, hxw⟩ := words_cons_of_ne (l := l) hx hy
        rw [hw, hxw, if_neg hhead', nil_append]
        cases ws with
        | nil => simp [unwords]
        | cons v vs =>
          rw [unwords_cons (cons_ne_nil _ _), unwords_cons (cons_ne_nil _ _)]
          rfl

/-- Without a separator at either end, squeezing joins the words. -/
theorem squeeze_eq_unwords {l : List Char} (hfirst : l.head? ≠ some c)
    (hlast : l.getLast? ≠ some c) : squeeze c l = unwords c (words c l) := by
  rw [squeeze_eq hlast, if_neg hfirst, nil_append]

/-- Squeezing goes through a separator that is alone. -/
theorem squeeze_append_cons {b : List Char} (hb : b.head? ≠ some c) :
    ∀ {a : List Char}, a.getLast? ≠ some c →
      squeeze c (a ++ c :: b) = squeeze c a ++ c :: squeeze c b
  | [], _ => by
    rw [nil_append, squeeze_cons, if_neg fun h => hb h.2]
    rfl
  | [x], ha => by
    have hx : x ≠ c := fun hx => ha (by rw [hx]; rfl)
    rw [singleton_append, squeeze_cons, if_neg fun h => hx h.1, squeeze_cons,
      if_neg fun h => hb h.2]
    rfl
  | x :: y :: a, ha => by
    have ih := squeeze_append_cons hb (a := y :: a) ha
    rw [cons_append, squeeze_cons, ih, squeeze_cons x (y :: a)]
    by_cases h : x = c ∧ y = c
    · rw [if_pos ⟨h.1, congrArg some h.2⟩, if_pos ⟨h.1, congrArg some h.2⟩]
    · have hxy : ¬(x = c ∧ some y = some c) := fun h' => h ⟨h'.1, some.inj h'.2⟩
      rw [if_neg (show ¬(x = c ∧ (y :: a).head? = some c) from hxy),
        if_neg (show ¬(x = c ∧ (y :: a ++ c :: b).head? = some c) from hxy)]
      rfl

theorem squeeze_ne_nil : ∀ {l : List Char}, l ≠ [] → squeeze c l ≠ []
  | [], h => absurd rfl h
  | [_], h => h
  | a :: b :: l, _ => by
    rw [squeeze]
    split
    next => exact squeeze_ne_nil (cons_ne_nil b l)
    next => exact cons_ne_nil _ _

theorem head?_squeeze : ∀ l : List Char, (squeeze c l).head? = l.head?
  | [] => rfl
  | [_] => rfl
  | a :: b :: l => by
    rw [squeeze]
    split
    next h => rw [head?_squeeze, h.1, h.2]; rfl
    next => rfl

theorem getLast?_squeeze : ∀ l : List Char, (squeeze c l).getLast? = l.getLast?
  | [] => rfl
  | [_] => rfl
  | a :: b :: l => by
    have ih := getLast?_squeeze (b :: l)
    rw [squeeze]
    split
    next => rw [ih]; rfl
    next =>
      cases hs : squeeze c (b :: l) with
      | nil => exact absurd hs (squeeze_ne_nil (cons_ne_nil b l))
      | cons x xs =>
        rw [hs] at ih
        rw [getLast?_cons_cons, ih]
        rfl

theorem mem_of_mem_squeeze : ∀ {l : List Char} {x : Char}, x ∈ squeeze c l → x ∈ l
  | [], _, h => h
  | [_], _, h => h
  | a :: b :: l, x, h => by
    rw [squeeze] at h
    split at h
    next => exact mem_cons_of_mem a (mem_of_mem_squeeze h)
    next =>
      rcases mem_cons.mp h with rfl | h
      · exact mem_cons_self
      · exact mem_cons_of_mem a (mem_of_mem_squeeze h)

theorem occurs_squeeze : ∀ l : List Char, occurs [c, c] (squeeze c l) = false
  | [] => rfl
  | [x] => by simp [squeeze, occurs, List.isPrefixOf]
  | a :: b :: l => by
    have ih := occurs_squeeze (b :: l)
    rw [squeeze]
    split
    next => exact ih
    next h =>
      -- what follows `a` begins as `b :: l` does
      have hhead := head?_squeeze (c := c) (b :: l)
      cases hs : squeeze c (b :: l) with
      | nil => exact absurd hs (squeeze_ne_nil (cons_ne_nil b l))
      | cons x xs =>
        rw [hs] at ih hhead
        obtain rfl : x = b := some.inj hhead
        rw [occurs, ih, Bool.or_false, Bool.eq_false_iff]
        intro hp
        simp only [List.isPrefixOf, and_eq_true, beq_iff_eq] at hp
        exact h ⟨hp.1.symm, hp.2.1.symm⟩

/-- A beginning of a squeezed text is squeezed. -/
theorem squeeze_eq_of_start {l m : List Char} (h : m <+: squeeze c l) : squeeze c m = m := by
  refine squeeze_eq_self (eq_false_iff.mpr fun ho => ?_)
  have := occurs_iff.mpr ((occurs_iff.mp ho).trans h.isInfix)
  rw [occurs_squeeze] at this
  cases this

theorem mem_words {w l : List Char} (h : w ∈ words c l) : w ≠ [] ∧ c ∉ w := by
  obtain ⟨hw, hne⟩ := mem_filter.mp h
  refine ⟨?_, not_mem_of_mem_splitOn hw⟩
  rintro rfl
  cases hne

/-- Words without separators are found again. -/
theorem unwords_inj {ws ws' : List (List Char)} (hne : ws ≠ []) (hne' : ws' ≠ [])
    (h : ∀ w ∈ ws, c ∉ w) (h' : ∀ w ∈ ws', c ∉ w) : unwords c ws = unwords c ws' ↔ ws = ws' := by
  refine ⟨fun heq => ?_, fun heq => by rw [heq]⟩
  rw [← splitOn_intercalate c h hne, ← splitOn_intercalate c h' hne']
  exact congrArg (List.splitOn c) heq

section Clip

variable {α : Type} {p : α → Bool} {n : Nat}

theorem rdropWhile_append_of_all {s : List α} (l : List α) (hs : ∀ x ∈ s, p x = true) :
    (l ++ s).rdropWhile p = l.rdropWhile p := by
  rw [List.rdropWhile, reverse_append, dropWhile_append_of_pos fun x hx => hs x (mem_reverse.mp hx)]
  rfl

theorem exists_rdropWhile_append (p : α → Bool) (l : List α) :
    ∃ s, (∀ x ∈ s, p x = true) ∧ l.rdropWhile p ++ s = l := by
  refine ⟨(l.reverse.takeWhile p).reverse, fun x hx => ?_, ?_⟩
  · exact mem_takeWhile_imp (mem_reverse.mp hx)
  · rw [List.rdropWhile, ← reverse_append, takeWhile_append_dropWhile, reverse_reverse]

/-- No more than `n`, and where something is cut off, no `p` at the end. -/
def clip (p : α → Bool) (n : Nat) (l : List α) : List α :=
  if n < l.length then (l.take n).rdropWhile p else l

theorem prefix_clip (p : α → Bool) (n : Nat) (l : List α) : clip p n l <+: l := by
  rw [clip]
  split
  next =>
    have htrim := rdropWhile_prefix p (l.take n)
    have htake := take_prefix n l
    exact htrim.trans htake
  next => exact prefix_rfl

theorem rdropWhile_ne_nil {l : List α} {x : α} (hx : l.head? = some x) (hp : p x = false) :
    l.rdropWhile p ≠ [] := by
  intro h
  rw [rdropWhile_eq_nil_iff] at h
  rw [h x (mem_of_mem_head? hx)] at hp
  cases hp

/-- A clipped text that begins and ends well still does. -/
theorem clip_getLast {l : List α} {x : α} (hn : 0 < n) (hx : l.head? = some x)
    (hp : p x = false) (hlast : ∀ y, l.getLast? = some y → p y = false) :
    clip p n l ≠ [] ∧ ∀ y, (clip p n l).getLast? = some y → p y = false := by
  have hl : l ≠ [] := by
    rintro rfl
    cases hx
  rw [clip]
  split
  next =>
    have htake : (l.take n).head? = some x := by rw [head?_take, if_neg (by omega), hx]
    have hne := rdropWhile_ne_nil htake hp
    refine ⟨hne, fun y hy => ?_⟩
    rw [getLast?_eq_getLast_of_ne_nil hne, some.injEq] at hy
    rw [← hy]
    exact eq_false_iff.mpr (rdropWhile_last_not p (l.take n) hne)
  next => exact ⟨hl, hlast⟩

/-- Clipping the second part first changes nothing. -/
theorem clip_append_clip {a b : List α} {x : α} (hn : 0 < n) (hx : b.head? = some x)
    (hp : p x = false) : clip p n (a ++ clip p n b) = clip p n (a ++ b) := by
  by_cases hb : n < b.length
  · obtain ⟨s, hs, hsb⟩ := exists_rdropWhile_append p (b.take n)
    have htake : (b.take n).head? = some x := by rw [head?_take, if_neg (by omega), hx]
    have hne := rdropWhile_ne_nil htake hp
    have hlast := rdropWhile_last_not p (b.take n) hne
    rw [clip, clip, clip, if_pos hb, if_pos (show n < (a ++ b).length by simp; omega)]
    generalize (b.take n).rdropWhile p = b' at hsb hne hlast ⊢
    -- within `n` the second part is `b'` and then what is dropped again at the end
    have hcut : (a ++ b).take n = ((a ++ b') ++ s).take n := by
      rw [append_assoc, hsb, take_append, take_append, take_take, min_eq_left (sub_le n a.length)]
    have hsplit : ((a ++ b') ++ s).take n = (a ++ b').take n ++ s.take (n - (a ++ b').length) :=
      take_append
    rw [hcut, hsplit, rdropWhile_append_of_all _ fun y hy => hs y (mem_of_mem_take hy)]
    split
    next => rfl
    next hlen =>
      rw [take_of_length_le (by omega), rdropWhile_eq_self_iff.mpr]
      intro hab
      rw [getLast_append_of_ne_nil _ hne]
      exact hlast
  · rw [show clip p n b = b from if_neg hb]

end Clip

end VastCsi.Lib.Text
