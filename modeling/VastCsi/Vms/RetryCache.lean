import Mathlib.Order.Lattice
import Mathlib.Order.Nat

/-!
# The retry counters of `wait_task`

`VtaskRetryCache.bump` first drops every entry that has not been bumped within the TTL, whatever
its key, and then counts. Clock readings are floating-point numbers: of their difference `gap`
only that rounding keeps it monotone in the later reading is used. A history has its latest bump
first.
-/

namespace VastCsi.Vms.RetryCache

open List Function

/-- `_RetryEntry`. -/
structure RetryEntry (T : Type) where
  attempts : Nat
  lastSeen : T
  deriving DecidableEq, Repr

variable {Key T D : Type} [DecidableEq Key] [LinearOrder D]

section Cache

variable (gap : T → T → D) (ttl : D)

def prune (now : T) (entries : Key → Option (RetryEntry T)) : Key → Option (RetryEntry T) :=
  fun key => (entries key).filter fun entry => !decide (ttl < gap now entry.lastSeen)

def bump (key : Key) (now : T) (entries : Key → Option (RetryEntry T)) :
    Nat × (Key → Option (RetryEntry T)) :=
  let pruned := prune gap ttl now entries
  -- a new entry has no attempts
  let attempts := ((pruned key).map (·.attempts)).getD 0 + 1
  (attempts, update pruned key (some ⟨attempts, now⟩))

/-- The entries after these bumps. -/
def after : List (Key × T) → Key → Option (RetryEntry T)
  | [] => fun _ => none
  | (key, now) :: history => (bump gap ttl key now (after history)).2

/-- The length of the longest run of these times that leads up to `now` without a gap of more
than the TTL. -/
def recentRun (now : T) : List T → Nat
  | [] => 0
  | t :: ts => if gap now t ≤ ttl then recentRun t ts + 1 else 0

/-- The entry of a key that was bumped at these times, as `now` finds it. -/
def lastRun (now : T) : List T → Option (RetryEntry T)
  | [] => none
  | t :: ts => if gap now t ≤ ttl then some ⟨recentRun gap ttl t ts + 1, t⟩ else none

end Cache

def timesOf (key : Key) (history : List (Key × T)) : List T :=
  (history.filter (·.1 == key)).map (·.2)

section Runs

variable {gap : T → T → D} {ttl : D} {history : List (Key × T)} {key key' : Key} {now : T}

theorem attempts_lastRun (ts : List T) :
    ((lastRun gap ttl now ts).map (·.attempts)).getD 0 = recentRun gap ttl now ts := by
  cases ts with
  | nil => rfl
  | cons t ts =>
    rw [lastRun, recentRun]
    split
    next => rfl
    next => rfl

theorem prune_update_self {entries : Key → Option (RetryEntry T)} {n : Nat} {t : T} :
    prune gap ttl now (update entries key (some ⟨n, t⟩)) key =
      if gap now t ≤ ttl then some ⟨n, t⟩ else none := by
  rw [prune, update_self, Option.filter_some]
  by_cases h : gap now t ≤ ttl
  · rw [if_pos h, decide_eq_false (not_lt.mpr h)]
    rfl
  · rw [if_neg h, decide_eq_true (not_le.mp h)]
    rfl

omit [DecidableEq Key] in
/-- What was dropped at an earlier reading would be dropped now. -/
theorem prune_prune {earlier : T} (hgap : ∀ s, gap earlier s ≤ gap now s)
    (entries : Key → Option (RetryEntry T)) :
    prune gap ttl now (prune gap ttl earlier entries) = prune gap ttl now entries := by
  funext key
  unfold prune
  rw [Option.filter_filter]
  refine congrFun (congrArg Option.filter (funext fun entry => ?_)) (entries key)
  by_cases h : ttl < gap earlier entry.lastSeen
  · rw [decide_eq_true h, decide_eq_true (lt_of_lt_of_le h (hgap entry.lastSeen))]
    rfl
  · rw [decide_eq_false h]
    exact Bool.true_and _

theorem bump_entries_of_ne {entries : Key → Option (RetryEntry T)} (h : key' ≠ key) :
    (bump gap ttl key now entries).2 key' = prune gap ttl now entries key' :=
  update_of_ne h ..

variable [LinearOrder T]

/-- The invariant: pruned at a later reading, the entries are those of the last runs. -/
theorem prune_after (hgap : ∀ s, Monotone (gap · s)) (key : Key) :
    ∀ {history : List (Key × T)} {now : T},
      ((key, now) :: history).Pairwise (fun b a => a.2 ≤ b.2) →
      prune gap ttl now (after gap ttl history) key = lastRun gap ttl now (timesOf key history)
  | [], _, _ => rfl
  | (key', t) :: history, now, hsorted => by
    obtain ⟨hnow, hsorted⟩ := pairwise_cons.mp hsorted
    obtain ⟨ht, hrest⟩ := pairwise_cons.mp hsorted
    have hsorted' : ∀ key, ((key, t) :: history).Pairwise (fun b a => a.2 ≤ b.2) :=
      fun key => pairwise_cons.mpr ⟨ht, hrest⟩
    unfold timesOf
    rw [after, bump]
    by_cases hkey : key' = key
    · subst hkey
      rw [filter_cons_of_pos (by simp), map_cons, prune_update_self,
        prune_after hgap key' (hsorted' key'), attempts_lastRun]
      rfl
    · have hlater : ∀ s, gap t s ≤ gap now s := fun s => hgap s (hnow _ mem_cons_self)
      have hother : ∀ {entries : Key → Option (RetryEntry T)} {entry},
          prune gap ttl now (update entries key' entry) key = prune gap ttl now entries key := by
        intro entries entry
        rw [prune, update_of_ne (Ne.symm hkey)]
        rfl
      rw [filter_cons_of_neg (by simpa using hkey), hother, prune_prune hlater]
      exact prune_after hgap key
        (pairwise_cons.mpr ⟨fun b hb => hnow b (mem_cons_of_mem _ hb), hrest⟩)

theorem bump_after (hgap : ∀ s, Monotone (gap · s))
    (hsorted : ((key, now) :: history).Pairwise fun b a => a.2 ≤ b.2) :
    (bump gap ttl key now (after gap ttl history)).1 =
      recentRun gap ttl now (timesOf key history) + 1 := by
  rw [bump, prune_after hgap key hsorted, attempts_lastRun]

omit [LinearOrder T] in
theorem mem_of_after {entry : RetryEntry T} :
    ∀ {history : List (Key × T)}, after gap ttl history key = some entry →
      (key, entry.lastSeen) ∈ history
  | (key', now) :: history, h => by
    by_cases hkey : key = key'
    · subst hkey
      cases (update_self ..).symm.trans h
      exact mem_cons_self
    · rw [after, bump_entries_of_ne hkey] at h
      exact mem_cons_of_mem _ (mem_of_after (Option.filter_eq_some_iff.mp h).1)

end Runs

/-- **The retry counters**: a bump returns one more than the length of the run of bumps of its key
that leads up to it. What is stored after it was bumped by it or at most the TTL before. -/
theorem bump_counts [LinearOrder T] (gap : T → T → D) (ttl : D)
    (hgap : ∀ s, Monotone (gap · s)) (history : List (Key × T)) (key : Key) (now : T)
    (hsorted : ((key, now) :: history).Pairwise fun b a => a.2 ≤ b.2) :
    (bump gap ttl key now (after gap ttl history)).1 =
        recentRun gap ttl now (timesOf key history) + 1 ∧
      (bump gap ttl key now (after gap ttl history)).1 =
        (bump gap ttl key now (after gap ttl (history.filter (·.1 == key)))).1 ∧
      ∀ key' entry, (bump gap ttl key now (after gap ttl history)).2 key' = some entry →
        (key', entry.lastSeen) ∈ (key, now) :: history ∧
          (key' = key ∨ gap now entry.lastSeen ≤ ttl) := by
  refine ⟨bump_after hgap hsorted, ?_, fun key' entry h => ⟨?_, ?_⟩⟩
  · have hown : ((key, now) :: history.filter (·.1 == key)).Pairwise fun b a => a.2 ≤ b.2 :=
      hsorted.sublist (filter_sublist.cons_cons _)
    rw [bump_after hgap hsorted, bump_after hgap hown, timesOf, timesOf, filter_filter]
    simp only [Bool.and_self]
  · have hafter : after gap ttl ((key, now) :: history) key' = some entry := h
    exact mem_of_after hafter
  · by_cases hkey : key' = key
    · exact .inl hkey
    · rw [bump_entries_of_ne hkey] at h
      have hfresh := (Option.filter_eq_some_iff.mp h).2
      exact .inr (not_lt.mp (by simpa using hfresh))

/-- Two bumps of `a` with one of `b` between them, at a TTL of two minutes. -/
theorem bump_counts_twice : (bump (fun now seen : Nat => now - seen) 120 "a" 90
      (after (fun now seen => now - seen) 120 [("b", 60), ("a", 30)])).1 = 2 := by
  have hgap : ∀ s, Monotone fun now : Nat => now - s := fun s a b h => Nat.sub_le_sub_right h s
  exact (bump_counts (fun now seen : Nat => now - seen) 120 hgap [("b", 60), ("a", 30)] "a" 90
    (by decide)).1

end VastCsi.Vms.RetryCache
