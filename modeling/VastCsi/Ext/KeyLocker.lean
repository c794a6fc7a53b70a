import Mathlib.Logic.Function.Basic
import VastCsi.Lib.Trace

/-!
# `KeyLocker`: per-key mutexes that remove themselves from the map

`key_locker.go` keeps one `refLock` (a mutex and a reference counter) per key in a `sync.Map`.
Between `LoadOrStore` and the increment a goroutine holds an entry that is not counted yet, and
between the decrement to zero and `Delete` the entry can still be fetched. In both windows
`Delete` removes the key from under a goroutine, and the next caller gets a fresh mutex. The
invariant is that goroutines that have yet to leave hold the entry the map has *now* (`Inv.cur`).
-/

namespace VastCsi.Ext.KeyLocker

open Lib Function Nat Option

/-- `refLock`: whether the mutex is locked, and the `int32` counter. -/
structure RefLock where
  mu : Bool
  ref : BitVec 32
  deriving DecidableEq, Repr

/-- Where a goroutine is in `Lock` and in the closure it returns. Past
`out` it carries its combined key and the entry it was handed. -/
inductive Pc where
  | out
  /-- `LoadOrStore` returned. -/
  | loaded (k : String) (l : Nat)
  /-- `AddInt32(&lock.ref, 1)` done, at `lock.mu.Lock()`. -/
  | counted (k : String) (l : Nat)
  /-- Holds the mutex: the critical section. -/
  | inside (k : String) (l : Nat)
  /-- `lock.mu.Unlock()` done. -/
  | unlocked (k : String) (l : Nat)
  /-- `AddInt32(&lock.ref, -1)` returned zero, at `kl.locks.Delete`. -/
  | last (k : String) (l : Nat)
  deriving DecidableEq, Repr

/-- The key and the entry of a goroutine that has yet to leave the
critical section. -/
def Pc.pending : Pc → Option (String × Nat)
  | .loaded k l => some (k, l)
  | .counted k l => some (k, l)
  | .inside k l => some (k, l)
  | _ => none

/-- The goroutines' places, the `sync.Map`, the allocated entries and the
next free address. -/
structure State (G : Type) where
  pc : G → Pc
  locks : String → Option Nat
  heap : Nat → RefLock
  next : Nat

/-- The parts of the key, already rendered with `%v`, joined by `kl.sep`. -/
def combinedKey (keys : List String) : String := ":".intercalate keys

inductive Act (G : Type) where
  | loadOrStore (g : G) (keys : List String)
  | addRef (g : G)
  | lock (g : G)
  | unlock (g : G)
  | dropRef (g : G)
  | delete (g : G)
  deriving DecidableEq, Repr

variable {G : Type}

def init : State G where
  pc := fun _ => .out
  locks := fun _ => none
  heap := fun _ => ⟨false, 0⟩
  next := 0

/-- Goroutine `g` is in the critical section of key `k`. -/
def Inside (s : State G) (g : G) (k : String) : Prop := ∃ l, s.pc g = .inside k l

/-- At most one goroutine is in the critical section of a key. -/
def MutexPerKey (s : State G) : Prop := ∀ k g g', Inside s g k → Inside s g' k → g = g'

/-- A `Delete(k)` is taken only while no goroutine that was handed an entry for `k` has yet to
leave the critical section. -/
def QuietDelete (s : State G) : Act G → Prop
  | .delete g => ∀ k l, s.pc g = .last k l → ∀ g' l', (s.pc g').pending ≠ some (k, l')
  | _ => True

/-- Pending goroutines hold the entry the map has now, map entries are allocated, and a locked
mutex has one holder. -/
structure Inv (s : State G) : Prop where
  cur : ∀ g k l, (s.pc g).pending = some (k, l) → s.locks k = some l
  bound : ∀ k l, s.locks k = some l → l < s.next
  held : ∀ g k l, s.pc g = .inside k l → (s.heap l).mu = true
  sole : ∀ g g' k k' l, s.pc g = .inside k l → s.pc g' = .inside k' l → g = g'

theorem init_inv : Inv (init : State G) where
  cur := by intro g k l h; simp [init, Pc.pending] at h
  bound := by intro k l h; simp [init] at h
  held := by intro g k l h; simp [init] at h
  sole := by intro g g' k k' l h; simp [init] at h

section Steps

variable [DecidableEq G]

def State.goto (s : State G) (g : G) (p : Pc) : State G := { s with pc := update s.pc g p }

def State.write (s : State G) (l : Nat) (r : RefLock) : State G :=
  { s with heap := update s.heap l r }

/-- The steps of `Lock` and of the closure. Each is enabled only where the
code of the goroutine is; `lock` blocks while the mutex is locked. -/
def step (s : State G) : Act G → Option (State G)
  | .loadOrStore g keys =>
    match s.pc g with
    | .out =>
      match s.locks (combinedKey keys) with
      | some l => some (s.goto g (.loaded (combinedKey keys) l))
      | none =>
        some
          { pc := update s.pc g (.loaded (combinedKey keys) s.next)
            locks := update s.locks (combinedKey keys) (some s.next)
            heap := update s.heap s.next ⟨false, 0⟩
            next := s.next + 1 }
    | _ => none
  | .addRef g =>
    match s.pc g with
    | .loaded k l =>
      some ((s.write l { s.heap l with ref := (s.heap l).ref + 1 }).goto g (.counted k l))
    | _ => none
  | .lock g =>
    match s.pc g with
    | .counted k l =>
      if (s.heap l).mu then none
      else some ((s.write l { s.heap l with mu := true }).goto g (.inside k l))
    | _ => none
  | .unlock g =>
    match s.pc g with
    | .inside k l => some ((s.write l { s.heap l with mu := false }).goto g (.unlocked k l))
    | _ => none
  | .dropRef g =>
    match s.pc g with
    | .unlocked k l =>
      -- the comparison is on the value the atomic add returned
      some ((s.write l { s.heap l with ref := (s.heap l).ref - 1 }).goto g
        (if (s.heap l).ref - 1 = 0 then .last k l else .out))
    | _ => none
  | .delete g =>
    match s.pc g with
    | .last k _ => some ({ s with locks := update s.locks k none }.goto g .out)
    | _ => none

theorem goto_pc_self (s : State G) (g : G) (p : Pc) : (s.goto g p).pc g = p := by simp [State.goto]

variable {s : State G} {g : G} {k : String}

theorem goto_pc_ne {g' : G} (h : g' ≠ g) (p : Pc) : (s.goto g p).pc g' = s.pc g' := by
  simp [State.goto, h]

/-- Being inside after a move to a place that is not inside was being inside before, for another
goroutine. -/
theorem inside_goto {g' : G} {p : Pc} {l : Nat} (hp : ∀ k l, p ≠ .inside k l)
    (h : (s.goto g p).pc g' = .inside k l) :
    g' ≠ g ∧ s.pc g' = .inside k l := by
  by_cases hg : g' = g
  · subst hg
    rw [goto_pc_self] at h
    exact absurd h (hp k l)
  · rw [goto_pc_ne hg] at h
    exact ⟨hg, h⟩

/-- A move that keeps the map and only touches the counters of the heap, to a place whose pending
entry is the map's, preserves the invariant. -/
theorem inv_goto {p : Pc} {heap : Nat → RefLock} (h : Inv s) (hp : ∀ k l, p ≠ .inside k l)
    (hcur : ∀ k l, p.pending = some (k, l) → s.locks k = some l)
    (hmu : ∀ g' k l, g' ≠ g → s.pc g' = .inside k l → (heap l).mu = (s.heap l).mu) :
    Inv ({ s with heap := heap }.goto g p) where
  cur := by
    intro g' k l hpend
    by_cases hg : g' = g
    · subst hg
      rw [goto_pc_self] at hpend
      exact hcur k l hpend
    · rw [goto_pc_ne hg] at hpend
      exact h.cur g' k l hpend
  bound := h.bound
  held := by
    intro g' k l hin
    obtain ⟨hg, hin'⟩ := inside_goto hp hin
    show (heap l).mu = true
    rw [hmu g' k l hg hin']
    exact h.held g' k l hin'
  sole := by
    intro g₁ g₂ k k' l h₁ h₂
    obtain ⟨-, h₁'⟩ := inside_goto hp h₁
    obtain ⟨-, h₂'⟩ := inside_goto hp h₂
    exact h.sole g₁ g₂ k k' l h₁' h₂'

/-- A goroutine that enters through an unlocked mutex is its only holder. -/
theorem inv_enter {l : Nat} (h : Inv s) (hpc : s.pc g = .counted k l)
    (hmu : (s.heap l).mu = false) :
    Inv ((s.write l { s.heap l with mu := true }).goto g (.inside k l)) := by
  -- nobody is inside through `l` yet, the mutex being free
  have hfree : ∀ g' k', s.pc g' ≠ .inside k' l := by
    intro g' k' hin
    have := h.held g' k' l hin
    rw [hmu] at this
    exact absurd this (by simp)
  have hold : ∀ {g' : G} {k' : String} {l' : Nat}, g' ≠ g →
      ((s.write l { s.heap l with mu := true }).goto g (.inside k l)).pc g' = .inside k' l' →
      s.pc g' = .inside k' l' ∧ l' ≠ l := by
    intro g' k' l' hg hin
    rw [goto_pc_ne hg] at hin
    exact ⟨hin, fun he => hfree g' k' (he ▸ hin)⟩
  refine ⟨?_, h.bound, ?_, ?_⟩
  · intro g' k' l' hpend
    by_cases hg : g' = g
    · subst hg
      rw [goto_pc_self] at hpend
      cases hpend
      exact h.cur g' k l (by rw [hpc]; rfl)
    · rw [goto_pc_ne hg] at hpend
      exact h.cur g' k' l' hpend
  · intro g' k' l' hin
    show ((update s.heap l { s.heap l with mu := true }) l').mu = true
    by_cases hg : g' = g
    · subst hg
      rw [goto_pc_self] at hin
      cases hin
      simp
    · obtain ⟨hin', hne⟩ := hold hg hin
      rw [update_of_ne hne]
      exact h.held g' k' l' hin'
  · intro g₁ g₂ k₁ k₂ l' h₁ h₂
    by_cases hg₁ : g₁ = g
    · by_cases hg₂ : g₂ = g
      · rw [hg₁, hg₂]
      · subst hg₁
        rw [goto_pc_self] at h₁
        cases h₁
        exact absurd rfl (hold hg₂ h₂).2
    · by_cases hg₂ : g₂ = g
      · subst hg₂
        rw [goto_pc_self] at h₂
        cases h₂
        exact absurd rfl (hold hg₁ h₁).2
      · exact h.sole g₁ g₂ k₁ k₂ l' (hold hg₁ h₁).1 (hold hg₂ h₂).1

/-- Storing a fresh entry under a key the map does not have. -/
theorem inv_store (h : Inv s) (hpc : s.pc g = .out) (hk : s.locks k = none) :
    Inv { pc := update s.pc g (.loaded k s.next)
          locks := update s.locks k (some s.next)
          heap := update s.heap s.next ⟨false, 0⟩
          next := s.next + 1 : State G } := by
  -- no goroutine is pending on `k`: it would hold the entry the map has
  have hnone : ∀ g' l', (s.pc g').pending ≠ some (k, l') := by
    intro g' l' hpend
    rw [h.cur g' k l' hpend] at hk
    cases hk
  have hin : ∀ {g' : G} {k' : String} {l' : Nat},
      update s.pc g (.loaded k s.next) g' = .inside k' l' →
      s.pc g' = .inside k' l' := by
    intro g' k' l' hi
    by_cases hg : g' = g
    · subst hg
      simp at hi
    · rwa [update_of_ne hg] at hi
  refine ⟨?_, ?_, ?_, ?_⟩
  · intro g' k' l' hpend
    by_cases hg : g' = g
    · subst hg
      simp only [update_self, Pc.pending, some.injEq, Prod.mk.injEq] at hpend
      obtain ⟨rfl, rfl⟩ := hpend
      simp
    · simp only [update_of_ne hg] at hpend
      have hkk : k' ≠ k := fun he => hnone g' l' (he ▸ hpend)
      simp only [update_of_ne hkk]
      exact h.cur g' k' l' hpend
  · intro k' l' hl
    by_cases hkk : k' = k
    · subst hkk
      simp only [update_self, some.injEq] at hl
      subst hl
      exact lt_succ_self _
    · simp only [update_of_ne hkk] at hl
      exact lt_succ_of_lt (h.bound k' l' hl)
  · intro g' k' l' hi
    have hi' := hin hi
    have hlt : l' < s.next := h.bound k' l' (h.cur g' k' l' (by rw [hi']; rfl))
    show ((update s.heap s.next ⟨false, 0⟩) l').mu = true
    rw [update_of_ne (Nat.ne_of_lt hlt)]
    exact h.held g' k' l' hi'
  · intro g₁ g₂ k₁ k₂ l' h₁ h₂
    exact h.sole g₁ g₂ k₁ k₂ l' (hin h₁) (hin h₂)

/-- A quiet `Delete` takes the entry from nobody. -/
theorem inv_delete (h : Inv s) (hquiet : ∀ g' l', (s.pc g').pending ≠ some (k, l')) :
    Inv ({ s with locks := update s.locks k none }.goto g .out) where
  cur := by
    intro g' k' l' hpend
    have hg : g' ≠ g := by
      intro he
      subst he
      rw [goto_pc_self] at hpend
      simp [Pc.pending] at hpend
    rw [goto_pc_ne hg] at hpend
    have hkk : k' ≠ k := fun he => hquiet g' l' (he ▸ hpend)
    show update s.locks k none k' = some l'
    rw [update_of_ne hkk]
    exact h.cur g' k' l' hpend
  bound := by
    intro k' l' hl
    have hl' : update s.locks k none k' = some l' := hl
    by_cases hkk : k' = k
    · rw [hkk, update_self] at hl'
      cases hl'
    · rw [update_of_ne hkk] at hl'
      exact h.bound k' l' hl'
  held := by
    intro g' k' l' hin
    exact h.held g' k' l' (inside_goto (by simp) hin).2
  sole := by
    intro g₁ g₂ k₁ k₂ l' h₁ h₂
    exact h.sole g₁ g₂ k₁ k₂ l' (inside_goto (by simp) h₁).2 (inside_goto (by simp) h₂).2

/-- **The step lemma**: every step whose `Delete` is quiet preserves the
locker invariant. -/
theorem step_inv {s' : State G} {a : Act G} (h : Inv s) (hq : QuietDelete s a)
    (hs : step s a = some s') : Inv s' := by
  cases a with
  | loadOrStore g keys =>
    simp only [step] at hs
    cases hpc : s.pc g with
    | out =>
      rw [hpc] at hs
      cases hl : s.locks (combinedKey keys) with
      | some l =>
        rw [hl] at hs
        simp only [some.injEq] at hs
        subst hs
        refine inv_goto h (by simp) ?_ (fun _ _ _ _ _ => rfl)
        intro k l' hp
        simp only [Pc.pending, some.injEq, Prod.mk.injEq] at hp
        obtain ⟨rfl, rfl⟩ := hp
        exact hl
      | none =>
        rw [hl] at hs
        simp only [some.injEq] at hs
        subst hs
        exact inv_store h hpc hl
    | _ => rw [hpc] at hs; cases hs
  | addRef g =>
    simp only [step] at hs
    cases hpc : s.pc g with
    | loaded k l =>
      rw [hpc] at hs
      simp only [some.injEq] at hs
      subst hs
      refine inv_goto h (by simp) ?_ ?_
      · intro k' l' hp
        simp only [Pc.pending, some.injEq, Prod.mk.injEq] at hp
        obtain ⟨rfl, rfl⟩ := hp
        exact h.cur g k l (by rw [hpc]; rfl)
      · intro g' k' l' _ _
        by_cases hll : l' = l
        · subst hll; simp
        · rw [update_of_ne hll]
    | _ => rw [hpc] at hs; cases hs
  | lock g =>
    simp only [step] at hs
    cases hpc : s.pc g with
    | counted k l =>
      rw [hpc] at hs
      cases hmu : (s.heap l).mu with
      | true => simp [hmu] at hs
      | false =>
        simp only [hmu, Bool.false_eq_true, if_false, some.injEq] at hs
        subst hs
        exact inv_enter h hpc hmu
    | _ => rw [hpc] at hs; cases hs
  | unlock g =>
    simp only [step] at hs
    cases hpc : s.pc g with
    | inside k l =>
      rw [hpc] at hs
      simp only [some.injEq] at hs
      subst hs
      refine inv_goto h (by simp) (by simp [Pc.pending]) ?_
      -- another goroutine inside holds another mutex
      intro g' k' l' hg hin
      have hll : l' ≠ l := fun he => hg (h.sole g' g k' k l (he ▸ hin) hpc)
      rw [update_of_ne hll]
    | _ => rw [hpc] at hs; cases hs
  | dropRef g =>
    simp only [step] at hs
    cases hpc : s.pc g with
    | unlocked k l =>
      rw [hpc] at hs
      simp only [some.injEq] at hs
      subst hs
      refine inv_goto h (by split <;> simp) ?_ ?_
      · intro k' l' hp
        split at hp <;> simp [Pc.pending] at hp
      · intro g' k' l' _ _
        by_cases hll : l' = l
        · subst hll; simp
        · rw [update_of_ne hll]
    | _ => rw [hpc] at hs; cases hs
  | delete g =>
    simp only [step] at hs
    cases hpc : s.pc g with
    | last k l =>
      rw [hpc] at hs
      simp only [some.injEq] at hs
      subst hs
      exact inv_delete h (hq k l hpc)
    | _ => rw [hpc] at hs; cases hs

omit [DecidableEq G] in
/-- Under the invariant the goroutines inside one key share one mutex. -/
theorem mutexPerKey_of_inv (h : Inv s) : MutexPerKey s := by
  rintro k g g' ⟨l, hl⟩ ⟨l', hl'⟩
  have h₁ := h.cur g k l (by rw [hl]; rfl)
  have h₂ := h.cur g' k l' (by rw [hl']; rfl)
  rw [h₁] at h₂
  cases h₂
  exact h.sole g g' k k l hl hl'

/-- **Per-key mutual exclusion**, for any number of goroutines and every
schedule whose `Delete`s are quiet. -/
theorem mutex_of_quiet_deletes (as : List (Act G)) {s : State G}
    (hq : RunMeets step QuietDelete init as) (hr : runFrom step init as = some s) :
    MutexPerKey s :=
  mutexPerKey_of_inv
    (runFrom_invariant (fun _ _ _ hi hok hs => step_inv hi hok hs) as init_inv hq hr)

end Steps

def quietSchedule : List (Act Nat) :=
  [.loadOrStore 0 ["vscr", "ns", "a"], .addRef 0, .lock 0, .unlock 0, .dropRef 0, .delete 0,
   .loadOrStore 1 ["vscr", "ns", "a"], .addRef 1, .lock 1]

/-- The second goroutine fetches the entry after the first one counted
itself out and before it deletes the key; the third stores a new entry. -/
def racingSchedule : List (Act Nat) :=
  [.loadOrStore 0 ["vscr", "ns", "a"], .addRef 0, .lock 0, .unlock 0, .dropRef 0,
   .loadOrStore 1 ["vscr", "ns", "a"], .addRef 1, .lock 1, .delete 0,
   .loadOrStore 2 ["vscr", "ns", "a"], .addRef 2, .lock 2]

/-- The quiet schedule ends with the second goroutine alone inside. -/
theorem mutex_of_quiet_deletes_handover : ∃ s : State Nat,
    runFrom step init quietSchedule = some s ∧ Inside s 1 "vscr:ns:a" ∧ MutexPerKey s := by
  refine ⟨_, rfl, ⟨1, rfl⟩, mutex_of_quiet_deletes quietSchedule ?_ rfl⟩
  refine .cons trivial rfl <| .cons trivial rfl <| .cons trivial rfl <| .cons trivial rfl <|
    .cons trivial rfl <| .cons ?_ rfl <| .cons trivial rfl <| .cons trivial rfl <|
    .cons trivial rfl trivial
  -- at the `Delete` every goroutine but the deleting one is still outside
  intro k l _ g' l'
  by_cases hg : g' = 0
  · subst hg
    simp [State.goto, State.write, init, Pc.pending]
  · simp [State.goto, State.write, init, Pc.pending, hg]

/-- **Two goroutines inside one key**: `Delete` ran after the entry had
been handed out again. -/
theorem two_inside_one_key : ∃ s : State Nat, runFrom step init racingSchedule = some s ∧
    Inside s 1 "vscr:ns:a" ∧ Inside s 2 "vscr:ns:a" ∧ ¬ MutexPerKey s := by
  refine ⟨_, rfl, ⟨0, rfl⟩, ⟨1, rfl⟩, fun h => ?_⟩
  have h₁₂ : (1 : Nat) = 2 := h "vscr:ns:a" 1 2 ⟨0, rfl⟩ ⟨1, rfl⟩
  exact absurd h₁₂ (by decide)

end VastCsi.Ext.KeyLocker
