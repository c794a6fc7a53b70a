import Mathlib.Data.List.Nodup

/-!
# Tables of rows with unique ids

`Table α key` is a list of rows no two of which share a `key`. Rows leave by key (`erase`), enter
under a key nobody has (`insert`) and are rewritten in place (`modify`). What the operations do is
stated by membership.
-/

namespace VastCsi.Lib

open List

variable {α κ : Type} {key : α → κ}

/-- Rows with pairwise distinct keys. -/
structure Table (α : Type) {κ : Type} (key : α → κ) where
  rows : List α
  nodup : (rows.map key).Nodup

namespace Table

instance : Membership α (Table α key) := ⟨fun t r => r ∈ t.rows⟩

instance [DecidableEq α] (t : Table α key) (r : α) : Decidable (r ∈ t) :=
  inferInstanceAs (Decidable (r ∈ t.rows))

variable {t : Table α key} {r : α}

theorem mem_def : r ∈ t ↔ r ∈ t.rows := Iff.rfl

theorem eq_of_rows {t' : Table α key} (h : t.rows = t'.rows) : t = t' := by
  cases t
  cases t'
  cases h
  rfl

def empty : Table α key := ⟨[], nodup_nil⟩

/-- A row is determined by its key. -/
theorem eq_of_key {r' : α} (h : r ∈ t) (h' : r' ∈ t) (hk : key r = key r') : r = r' :=
  inj_on_of_nodup_map t.nodup h h' hk

/-- The rows a query selects, in table order. -/
def select (t : Table α key) (q : α → Bool) : List α := t.rows.filter q

theorem mem_select {q : α → Bool} : r ∈ t.select q ↔ r ∈ t ∧ q r = true := mem_filter

theorem select_and (q q' : α → Bool) :
    t.select (fun r => q r && q' r) = (t.select q).filter q' := by
  unfold select
  rw [filter_filter]
  exact filter_congr fun r _ => Bool.and_comm ..

/-- Drop the rows a predicate does not keep. -/
def keep (t : Table α key) (p : α → Bool) : Table α key :=
  ⟨t.rows.filter p, (filter_sublist.map key).nodup t.nodup⟩

theorem mem_keep {p : α → Bool} : r ∈ t.keep p ↔ r ∈ t ∧ p r = true := mem_filter

section Keys

variable [DecidableEq κ]

def erase (t : Table α key) (k : κ) : Table α key := t.keep (key · != k)

variable {t : Table α key} {k : κ} {r r' : α} {f : α → α} {hf : ∀ r, key (f r) = key r}

theorem mem_erase : r ∈ t.erase k ↔ r ∈ t ∧ key r ≠ k := by
  rw [erase, mem_keep]
  simp

/-- Erasing the key of a row takes that row and nothing else. -/
theorem mem_erase_key (h : r ∈ t) : r' ∈ t.erase (key r) ↔ r' ∈ t ∧ r' ≠ r := by
  rw [mem_erase]
  constructor
  · rintro ⟨hm, hk⟩
    exact ⟨hm, fun he => hk (by rw [he])⟩
  · rintro ⟨hm, hne⟩
    exact ⟨hm, fun hk => hne (eq_of_key hm h hk)⟩

def find? (t : Table α key) (k : κ) : Option α := t.rows.find? (key · == k)

theorem find?_eq_some_iff : t.find? k = some r ↔ r ∈ t ∧ key r = k := by
  constructor
  · intro h
    have hk := find?_some (p := fun r => key r == k) h
    exact ⟨mem_of_find?_eq_some h, beq_iff_eq.mp hk⟩
  · rintro ⟨hm, hk⟩
    cases hf : t.find? k with
    | none => exact absurd (beq_iff_eq.mpr hk) (find?_eq_none.mp hf r hm)
    | some r' =>
      have hk' := beq_iff_eq.mp (find?_some (p := fun r => key r == k) hf)
      rw [eq_of_key (mem_of_find?_eq_some hf) hm (hk'.trans hk.symm)]

def hasKey (t : Table α key) (k : κ) : Bool := t.rows.any (key · == k)

theorem hasKey_iff : t.hasKey k = true ↔ ∃ r ∈ t, key r = k := by simp [hasKey, mem_def]

/-- Add a row; a row whose key is taken is not added. -/
def insert (t : Table α key) (r : α) : Table α key :=
  if h : t.hasKey (key r) = true then t
  else
    ⟨t.rows ++ [r], by
      rw [map_append, nodup_append]
      refine ⟨t.nodup, by simp, ?_⟩
      intro a ha b hb hab
      obtain ⟨x, hx, rfl⟩ := mem_map.mp ha
      rw [map_singleton, mem_singleton] at hb
      exact h (hasKey_iff.mpr ⟨x, hx, hab.trans hb⟩)⟩

theorem mem_insert : r' ∈ t.insert r ↔ r' ∈ t ∨ r' = r ∧ t.hasKey (key r) = false := by
  rw [insert]
  split
  next h => simp [h]
  next h =>
    rw [Bool.eq_false_iff, and_iff_left h]
    exact mem_append.trans (or_congr_right mem_singleton)

/-- What a table has after a row was added. -/
theorem mem_insert_cases (h : r' ∈ t.insert r) : r' ∈ t ∨ r' = r :=
  (mem_insert.mp h).imp_right And.left

theorem mem_insert_of_mem (h : r' ∈ t) : r' ∈ t.insert r := mem_insert.mpr (.inl h)

theorem mem_insert_self (h : t.hasKey (key r) = false) : r ∈ t.insert r :=
  mem_insert.mpr (.inr ⟨rfl, h⟩)

theorem insert_of_find? (h : t.find? (key r) = some r') : t.insert r = t :=
  dif_pos (hasKey_iff.mpr ⟨r', find?_eq_some_iff.mp h⟩)

theorem hasKey_eq_false_iff : t.hasKey k = false ↔ t.find? k = none := by
  rw [hasKey, find?, any_eq_false, find?_eq_none]

theorem select_insert (h : t.hasKey (key r) = false) (q : α → Bool) :
    (t.insert r).select q = t.select q ++ [r].filter q := by
  rw [insert, dif_neg (by rw [h]; decide)]
  exact filter_append ..

/-- Rewrite the row under a key, its key kept. -/
def modify (t : Table α key) (k : κ) (f : α → α) (hf : ∀ r, key (f r) = key r) : Table α key :=
  ⟨t.rows.map fun r => if key r = k then f r else r, by
    have : (t.rows.map fun r => if key r = k then f r else r).map key = t.rows.map key := by
      rw [map_map]
      refine map_congr_left fun r _ => ?_
      show key (if key r = k then f r else r) = key r
      split
      next => exact hf r
      next => rfl
    rw [this]
    exact t.nodup⟩

theorem mem_modify : r ∈ t.modify k f hf ↔ ∃ r' ∈ t, r = if key r' = k then f r' else r' := by
  constructor
  · intro h
    obtain ⟨r', hr', rfl⟩ := mem_map.mp h
    exact ⟨r', hr', rfl⟩
  · rintro ⟨r', hr', rfl⟩
    exact mem_map.mpr ⟨r', hr', rfl⟩

theorem mem_modify_of_ne (h : r ∈ t) (hk : key r ≠ k) : r ∈ t.modify k f hf :=
  mem_modify.mpr ⟨r, h, by rw [if_neg hk]⟩

/-- The row under a key after another was rewritten. -/
theorem find?_modify {k' : κ} :
    (t.modify k f hf).find? k' = (t.find? k').map fun r => if key r = k then f r else r := by
  have hcomp : ((key · == k') ∘ fun r => if key r = k then f r else r) = (key · == k') := by
    funext r
    show (key (if key r = k then f r else r) == k') = (key r == k')
    split
    next => rw [hf r]
    next => rfl
  rw [find?, find?, modify, find?_map, hcomp]

/-- A query that does not see the change. -/
theorem select_modify {q : α → Bool} (hq : ∀ r, q (f r) = q r) :
    (t.modify k f hf).select q = (t.select q).map fun r => if key r = k then f r else r := by
  have hcomp : (q ∘ fun r => if key r = k then f r else r) = q := by
    funext r
    show q (if key r = k then f r else r) = q r
    split
    next => exact hq r
    next => rfl
  rw [select, select, modify, filter_map, hcomp]

/-- Rewriting the row that was added last. -/
theorem modify_insert_self (h : t.hasKey (key r) = false) :
    (t.insert r).modify (key r) f hf = t.insert (f r) := by
  have hother : ∀ r' ∈ t.rows, (if key r' = key r then f r' else r') = r' := by
    intro r' hr'
    refine if_neg fun hk => ?_
    rw [hasKey_iff.mpr ⟨r', hr', hk⟩] at h
    cases h
  have hrows : (t.insert r).rows = t.rows ++ [r] := by rw [insert, dif_neg (by rw [h]; decide)]
  have hrows' : (t.insert (f r)).rows = t.rows ++ [f r] := by
    rw [insert, dif_neg (by rw [hf, h]; decide)]
  refine eq_of_rows ?_
  show (t.insert r).rows.map (fun r' => if key r' = key r then f r' else r') = _
  rw [hrows, hrows', map_append, map_congr_left hother]
  simp

end Keys

variable {num : α → Nat}

/-- A key above every key of the table. -/
def fresh (t : Table α num) : Nat := (t.rows.map num).foldl max 0 + 1

theorem le_foldl_max : ∀ {l : List Nat} {a x : Nat}, x = a ∨ x ∈ l → x ≤ l.foldl max a
  | [], a, x, h => by
    rcases h with rfl | h
    · exact Nat.le_refl _
    · cases h
  | b :: l, a, x, h => by
    rw [foldl_cons]
    rcases h with rfl | h
    · exact Nat.le_trans (Nat.le_max_left x b) (le_foldl_max (.inl rfl))
    · rcases mem_cons.mp h with rfl | h'
      · exact Nat.le_trans (Nat.le_max_right a x) (le_foldl_max (.inl rfl))
      · exact le_foldl_max (.inr h')

/-- Nobody has the fresh key. -/
theorem hasKey_fresh {t : Table α num} : t.hasKey t.fresh = false := by
  rw [Bool.eq_false_iff]
  intro h
  obtain ⟨r, hr, hk⟩ := hasKey_iff.mp h
  have hle : num r ≤ (t.rows.map num).foldl max 0 := le_foldl_max (.inr (mem_map_of_mem hr))
  rw [hk, fresh] at hle
  omega

end Table

end VastCsi.Lib
