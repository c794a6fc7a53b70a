import VastCsi.Csi.Promote

/-!
# `_wait_for_ppath_active`, over endless polls

The lookup is ready when `protected_path_state` is `active` or `partially active`; a poll is ready
only when the first of `state` and `protected_path_state` that is there is `active`. Polls see the
path as `Env.path` has it, and the timeout is a number of polls.

By induction on the polls the wait returns once one shows `active` (`waitActive_returns`), and runs
into the timeout where none does (`waitActive_timeout`).
-/

namespace VastCsi.Csi.Promote

open Lib EStateM Nat
open VastCsi.Vms (Err Fault)

def shownState (p : Ppath) : String :=
  lower (if p.state = "" then p.protectedPathState else p.state)

def Env.withPolls (env : Env) (n : Nat) : Env := { env with polls := n }

/-- The poll is answered, and shows a state that is neither failed nor unknown. -/
def CleanAt (env : Env) (k : Nat) : Prop :=
  env.fate k = .answered ∧ ∃ p, env.path k = some p ∧
    (shownState p = "active" ∨ runningStates.contains (shownState p) = true)

/-- The poll shows `active`. -/
def ActiveAt (env : Env) (k : Nat) : Prop := ∃ p, env.path k = some p ∧ shownState p = "active"

/-- The wait returns when there is time for `n` further polls. -/
def Returns (env : Env) (name : String) (p : Ppath) (w : World) (n : Nat) : Prop :=
  ∃ t, waitForPpathActive (env.withPolls n) name p w = .ok () t

variable {p : Ppath} {env : Env} {w : World}

theorem inTargetState_active (h : shownState p = "active") : inTargetState p = .ok true := if_pos h

theorem inTargetState_running (hne : shownState p ≠ "active")
    (h : runningStates.contains (shownState p) = true) : inTargetState p = .ok false := by
  have hfailed : ¬ failedStates.contains (shownState p) = true := by
    -- no running state is a failed one
    have hdisjoint : runningStates.all (fun s => !failedStates.contains s) = true := by decide
    have hrunning := List.all_eq_true.mp hdisjoint _ (List.contains_iff_mem.mp h)
    rw [Bool.not_eq_true'] at hrunning
    rw [hrunning]
    exact Bool.false_ne_true
  exact (if_neg hne).trans ((if_neg hfailed).trans (if_pos h))

theorem readPath_clean (hfate : env.fate w.calls = .answered) (hp : env.path w.calls = some p) :
    readPath env w = .ok (some p) { w with calls := w.calls + 1 } := by
  unfold readPath
  rw [hfate, hp]
  rfl

/-- A poll that shows `active` ends the wait. -/
theorem waitActive_active (hclean : CleanAt env w.calls) (hactive : ActiveAt env w.calls)
    (n : Nat) :
    waitActive env n w = .ok () { w with calls := w.calls + 1 } := by
  obtain ⟨p, hp, hstate⟩ := hactive
  have hread := readPath_clean hclean.1 hp
  cases n with
  | zero =>
    show EStateM.bind _ _ w = _
    rw [EStateM.bind, hread]
    dsimp only
    rw [inTargetState_active hstate]
    rfl
  | succ n =>
    show EStateM.bind _ _ w = _
    rw [EStateM.bind, hread]
    dsimp only
    rw [inTargetState_active hstate]
    rfl

/-- Any other poll is followed by the next one, or by the timeout. -/
theorem waitActive_running (hclean : CleanAt env w.calls) (hnot : ¬ ActiveAt env w.calls) :
    waitActive env 0 w = .error (.exception "did not reach state 'active'")
        { w with calls := w.calls + 1 } ∧
      ∀ n, waitActive env (n + 1) w = waitActive env n { w with calls := w.calls + 1 } := by
  obtain ⟨hfate, p, hp, hstate⟩ := hclean
  have hne : shownState p ≠ "active" := fun h => hnot ⟨p, hp, h⟩
  have hread := readPath_clean hfate hp
  have htarget := inTargetState_running hne (hstate.resolve_left hne)
  constructor
  · show EStateM.bind _ _ w = _
    rw [EStateM.bind, hread]
    dsimp only
    rw [htarget]
    rfl
  · intro n
    show EStateM.bind _ _ w = _
    rw [EStateM.bind, hread]
    dsimp only
    rw [htarget]
    rfl

section

variable {env : Env}

/-- With time for the poll that shows `active`, the wait returns. -/
theorem waitActive_returns : ∀ (d n : Nat) (w : World), (∀ k, w.calls ≤ k → CleanAt env k) →
    ActiveAt env (w.calls + d) → d ≤ n → ∃ t, waitActive env n w = .ok () t := by
  intro d
  induction d with
  | zero =>
    intro n w hclean hactive _
    exact ⟨_, waitActive_active (hclean _ (Nat.le_refl _)) hactive n⟩
  | succ d ih =>
    intro n w hclean hactive hle
    by_cases hnow : ActiveAt env w.calls
    · exact ⟨_, waitActive_active (hclean _ (Nat.le_refl _)) hnow n⟩
    · obtain ⟨m, rfl⟩ : ∃ m, n = m + 1 := ⟨n - 1, by omega⟩
      rw [(waitActive_running (hclean _ (Nat.le_refl _)) hnow).2 m]
      refine ih m _ (fun k hk => hclean k (le_of_succ_le hk)) ?_ (le_of_succ_le_succ hle)
      show ActiveAt env (w.calls + 1 + d)
      rw [Nat.add_assoc, Nat.add_comm 1 d]
      exact hactive

/-- Where no poll shows `active`, the wait lasts until the timeout. -/
theorem waitActive_timeout : ∀ (n : Nat) (w : World), (∀ k, w.calls ≤ k → CleanAt env k) →
    (∀ k, w.calls ≤ k → ¬ ActiveAt env k) →
    waitActive env n w = .error (.exception "did not reach state 'active'")
      { w with calls := w.calls + n + 1 } := by
  intro n
  induction n with
  | zero =>
    intro w hclean hnone
    exact (waitActive_running (hclean _ (Nat.le_refl _)) (hnone _ (Nat.le_refl _))).1
  | succ n ih =>
    intro w hclean hnone
    rw [(waitActive_running (hclean _ (Nat.le_refl _)) (hnone _ (Nat.le_refl _))).2 n,
      ih { w with calls := w.calls + 1 } (fun k hk => hclean k (le_of_succ_le hk))
        fun k hk => hnone k (le_of_succ_le hk)]
    show EStateM.Result.error _ { w with calls := w.calls + 1 + n + 1 } = _
    rw [Nat.add_assoc w.calls 1 n, Nat.add_comm 1 n]

end

theorem waitForPpathActive_ready {name : String}
    (h : readyStates.contains (lower p.protectedPathState) = true) :
    waitForPpathActive env name p w = .ok () w := by
  unfold waitForPpathActive validateActivePpathStatus
  dsimp only
  rw [if_pos h]
  rfl

theorem waitForPpathActive_unready {name : String}
    (h : ¬ readyStates.contains (lower p.protectedPathState) = true) :
    waitForPpathActive env name p w = waitActive env env.polls w := by
  unfold waitForPpathActive validateActivePpathStatus
  dsimp only
  rw [if_neg h]

/-- **Waiting for a path**, when every poll shows a state that is neither failed nor unknown:
without a timeout the wait returns exactly when the lookup has found the path ready, or a poll
shows `active`. -/
theorem wait_returns_iff (env : Env) (name : String) (p : Ppath) (w : World)
    (hclean : ∀ k, w.calls ≤ k → CleanAt env k) :
    (∃ N, ∀ n, N ≤ n → Returns env name p w n) ↔
      readyStates.contains (lower p.protectedPathState) = true ∨
        ∃ k, w.calls ≤ k ∧ ActiveAt env k := by
  have hpolls : ∀ n k, w.calls ≤ k → CleanAt (env.withPolls n) k := fun _ => hclean
  by_cases hready : readyStates.contains (lower p.protectedPathState) = true
  · exact ⟨fun _ => .inl hready, fun _ => ⟨0, fun n _ => ⟨w, waitForPpathActive_ready hready⟩⟩⟩
  · constructor
    · intro hreturns
      obtain ⟨N, hN⟩ := hreturns
      refine .inr (by_contra fun hnone => ?_)
      obtain ⟨t, ht⟩ := hN N (Nat.le_refl N)
      have hnever : ∀ k, w.calls ≤ k → ¬ ActiveAt (env.withPolls N) k :=
        fun k hk hactive => hnone ⟨k, hk, hactive⟩
      rw [waitForPpathActive_unready hready] at ht
      cases (waitActive_timeout N w (hpolls N) hnever).symm.trans ht
    · intro hactive
      obtain ⟨k, hk, hactive⟩ := hactive.resolve_left hready
      refine ⟨k - w.calls, fun n hn => ?_⟩
      have hthen : ActiveAt (env.withPolls n) (w.calls + (k - w.calls)) := by
        rw [Nat.add_sub_cancel' hk]
        exact hactive
      obtain ⟨t, ht⟩ := waitActive_returns (k - w.calls) n w (hpolls n) hthen hn
      exact ⟨t, (waitForPpathActive_unready hready).trans ht⟩

/-- A path of a group, which is never anything but partially active once it is set up. -/
def groupPath (k : Nat) : Option Ppath :=
  some ⟨7, "SOURCE", "", if k = 0 then "Initial Sync" else "Partially Active", "", true⟩

def lookedUp : Ppath := ⟨7, "SOURCE", "", "Initial Sync", "", true⟩

theorem cleanAt_groupPath (k : Nat) : CleanAt (steady groupPath) k := by
  refine ⟨rfl, _, rfl, .inr ?_⟩
  by_cases hk : k = 0
  · rw [if_pos hk]
    decide
  · rw [if_neg hk]
    decide

theorem not_activeAt_groupPath (k : Nat) : ¬ ActiveAt (steady groupPath) k := by
  intro hactive
  obtain ⟨p, hp, hstate⟩ := hactive
  cases hp
  by_cases hk : k = 0
  · rw [if_pos hk] at hstate
    exact absurd hstate (by decide)
  · rw [if_neg hk] at hstate
    exact absurd hstate (by decide)

/-- From its second poll on the path is ready, and every wait for it ends with the timeout. -/
theorem partially_active_for_good : (∀ k, 0 < k → ∃ p, groupPath k = some p ∧
        readyStates.contains (lower p.protectedPathState) = true) ∧
      ∀ n, waitForPpathActive ((steady groupPath).withPolls n) "ppath" lookedUp ⟨0, []⟩ =
        .error (.exception "did not reach state 'active'") ⟨n + 1, []⟩ := by
  constructor
  · intro k hk
    refine ⟨_, rfl, ?_⟩
    rw [if_neg (Nat.pos_iff_ne_zero.mp hk)]
    decide
  · intro n
    have hclean : ∀ k, 0 ≤ k → CleanAt ((steady groupPath).withPolls n) k :=
      fun k _ => cleanAt_groupPath k
    have hnone : ∀ k, 0 ≤ k → ¬ ActiveAt ((steady groupPath).withPolls n) k :=
      fun k _ => not_activeAt_groupPath k
    rw [waitForPpathActive_unready (by decide)]
    refine (waitActive_timeout n ⟨0, []⟩ hclean hnone).trans ?_
    rw [Nat.zero_add]

def singlePath (k : Nat) : Option Ppath :=
  some ⟨7, "SOURCE", "", if k < 2 then "Initial Sync" else "Active", "", true⟩

theorem wait_returns_iff_single :
    ∃ N, ∀ n, N ≤ n → Returns (steady singlePath) "ppath" lookedUp ⟨0, []⟩ n := by
  refine (wait_returns_iff (steady singlePath) "ppath" lookedUp ⟨0, []⟩ fun k _ => ?_).mpr
    (.inr ⟨2, zero_le 2, _, rfl, by decide⟩)
  refine ⟨rfl, _, rfl, ?_⟩
  by_cases hk : k < 2
  · rw [if_pos hk]
    exact .inr (by decide)
  · rw [if_neg hk]
    exact .inl (by decide)

end VastCsi.Csi.Promote
