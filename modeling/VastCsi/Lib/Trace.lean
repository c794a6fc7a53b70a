/-!
# Runs of a labelled transition system

A concurrent component is a partial step function `step : σ → α → Option σ`: `σ` is the state of
the whole system, an action names the party that moves and the atomic step it takes, and `none`
means that it is not enabled. An interleaving is a list of actions. `RunMeets step P s as` says
that every step the run takes meets `P` in the state it is taken from: a proviso on the schedule.
-/

namespace VastCsi.Lib

open List

universe u v

variable {σ : Type u} {α : Type v}

/-- Run the actions of a list in order; `none` when one is not enabled. -/
def runFrom (step : σ → α → Option σ) : σ → List α → Option σ
  | s, [] => some s
  | s, a :: as => (step s a).bind fun s' => runFrom step s' as

/-- Every step taken by the run meets `P` in the state before it. -/
def RunMeets (step : σ → α → Option σ) (P : σ → α → Prop) : σ → List α → Prop
  | _, [] => True
  | s, a :: as => P s a ∧ ∀ s', step s a = some s' → RunMeets step P s' as

instance decidableRunMeets {step : σ → α → Option σ} {P : σ → α → Prop}
    [∀ s a, Decidable (P s a)] : ∀ (as : List α) (s : σ), Decidable (RunMeets step P s as)
  | [], _ => isTrue trivial
  | a :: as, s =>
    match hs : step s a with
    | none => decidable_of_iff (P s a) ⟨fun h => ⟨h, fun _ h' => nomatch hs ▸ h'⟩, And.left⟩
    | some s' =>
      have : Decidable (RunMeets step P s' as) := decidableRunMeets as s'
      decidable_of_iff (P s a ∧ RunMeets step P s' as)
        ⟨fun h => ⟨h.1, fun _ h' => Option.some.inj (hs ▸ h') ▸ h.2⟩, fun h => ⟨h.1, h.2 s' hs⟩⟩

/-- The states some interleaving leads to. -/
def Reachable (step : σ → α → Option σ) (init s : σ) : Prop := ∃ as, runFrom step init as = some s

@[simp] theorem runFrom_nil (step : σ → α → Option σ) (s : σ) : runFrom step s [] = some s := rfl

variable {step : σ → α → Option σ} {s : σ} {a : α} {as : List α} {P : σ → α → Prop}

/-- A nonempty run takes its first step and runs on from there. -/
theorem runFrom_cons_iff {t : σ} : runFrom step s (a :: as) = some t ↔
      ∃ s', step s a = some s' ∧ runFrom step s' as = some t := by
  simp only [runFrom]
  cases hs : step s a with
  | none => simp
  | some s' => simp

/-- A run is run in two parts. -/
theorem runFrom_append_iff {bs : List α} {t : σ} : runFrom step s (as ++ bs) = some t ↔
      ∃ u, runFrom step s as = some u ∧ runFrom step u bs = some t := by
  induction as generalizing s with
  | nil => simp
  | cons a as ih =>
    rw [cons_append, runFrom_cons_iff]
    constructor
    · rintro ⟨s', hs, hr⟩
      obtain ⟨u, hu, ht⟩ := ih.mp hr
      exact ⟨u, runFrom_cons_iff.mpr ⟨s', hs, hu⟩, ht⟩
    · rintro ⟨u, hu, ht⟩
      obtain ⟨s', hs, hr⟩ := runFrom_cons_iff.mp hu
      exact ⟨s', hs, ih.mpr ⟨u, hr, ht⟩⟩

/-- One more step from a reachable state. -/
theorem Reachable.tail {init s' : σ} (h : Reachable step init s) (hs : step s a = some s') :
    Reachable step init s' := by
  obtain ⟨as, has⟩ := h
  refine ⟨as ++ [a], ?_⟩
  induction as generalizing init with
  | nil =>
    cases has
    exact runFrom_cons_iff.mpr ⟨s', hs, rfl⟩
  | cons b as ih =>
    obtain ⟨t, ht, hr⟩ := runFrom_cons_iff.mp has
    exact runFrom_cons_iff.mpr ⟨t, ht, ih hr⟩

/-- A proviso is checked along a run one step at a time. -/
theorem RunMeets.cons {s' : σ} (hp : P s a) (hs : step s a = some s') (h : RunMeets step P s' as) :
    RunMeets step P s (a :: as) := by
  refine ⟨hp, fun t ht => ?_⟩
  rw [hs] at ht
  cases ht
  exact h

/-- A proviso along a run, at each place of the run. -/
theorem runMeets_iff : RunMeets step P s as ↔
      ∀ pre a post u, as = pre ++ a :: post → runFrom step s pre = some u → P u a := by
  induction as generalizing s with
  | nil => simp [RunMeets]
  | cons b as ih =>
    constructor
    · intro h pre a post u heq hu
      cases pre with
      | nil =>
        obtain ⟨rfl, rfl⟩ := List.cons.inj heq
        cases hu
        exact h.1
      | cons c pre =>
        obtain ⟨rfl, rfl⟩ := List.cons.inj heq
        obtain ⟨s', hs, hr⟩ := runFrom_cons_iff.mp hu
        exact ih.mp (h.2 s' hs) pre a post u rfl hr
    · intro h
      refine ⟨h [] b as s rfl rfl, fun s' hs => ih.mpr fun pre a post u heq hu => ?_⟩
      exact h (b :: pre) a post u (by rw [heq]; rfl) (runFrom_cons_iff.mpr ⟨s', hs, hu⟩)

/-- A stronger proviso. -/
theorem RunMeets.mono {Q : σ → α → Prop} (h : ∀ s a, P s a → Q s a) :
    ∀ {as : List α} {s : σ}, RunMeets step P s as → RunMeets step Q s as
  | [], _, _ => trivial
  | a :: _, s, hrun => ⟨h s a hrun.1, fun s' hs => RunMeets.mono h (hrun.2 s' hs)⟩

/-- A proviso that always holds. -/
theorem runMeets_of_forall (h : ∀ s a, P s a) : ∀ (as : List α) (s : σ), RunMeets step P s as
  | [], _ => trivial
  | a :: as, s => ⟨h s a, fun s' _ => runMeets_of_forall h as s'⟩

/-- **The invariant rule**: what holds at the start and is preserved by
every step that meets the proviso holds in the state a run reaches. -/
theorem runFrom_invariant {I : σ → Prop}
    (hstep : ∀ s a s', I s → P s a → step s a = some s' → I s') :
    ∀ (as : List α) {s t : σ}, I s → RunMeets step P s as → runFrom step s as = some t → I t
  | [], s, t, hi, _, h => by
    rw [runFrom_nil] at h
    cases h
    exact hi
  | a :: as, s, t, hi, hok, h => by
    obtain ⟨s', hs, hr⟩ := runFrom_cons_iff.mp h
    exact runFrom_invariant hstep as (hstep s a s' hi hok.1 hs) (hok.2 s' hs) hr

/-- The invariant rule for a property of the state and of the steps that led to it. -/
theorem runFrom_history {I : List α → σ → Prop}
    (hstep : ∀ pre s a s', I pre s → P s a → step s a = some s' → I (pre ++ [a]) s') :
    ∀ (as : List α) {pre : List α} {s t : σ}, I pre s → RunMeets step P s as →
      runFrom step s as = some t → I (pre ++ as) t
  | [], pre, s, t, hi, _, h => by
    rw [runFrom_nil] at h
    cases h
    rw [append_nil]
    exact hi
  | a :: as, pre, s, t, hi, hok, h => by
    obtain ⟨s', hs, hr⟩ := runFrom_cons_iff.mp h
    rw [append_cons]
    exact runFrom_history hstep as (hstep pre s a s' hi hok.1 hs) (hok.2 s' hs) hr

/-- The same without a proviso. -/
theorem reachable_invariant {I : σ → Prop} {init : σ}
    (hstep : ∀ s a s', I s → step s a = some s' → I s') (hinit : I init)
    (h : Reachable step init s) : I s := by
  obtain ⟨as, hr⟩ := h
  exact runFrom_invariant (P := fun _ _ => True) (fun s a s' hi _ hs => hstep s a s' hi hs) as hinit
    (runMeets_of_forall (fun _ _ => trivial) as init) hr

/-- **The measure rule**: when every step lowers `μ`, a run has at most `μ` steps. -/
theorem runFrom_measure {μ : σ → Nat} (hstep : ∀ s a s', step s a = some s' → μ s' < μ s) :
    ∀ (as : List α) {s t : σ}, runFrom step s as = some t → as.length + μ t ≤ μ s
  | [], s, t, h => by
    cases h
    exact Nat.le_of_eq (Nat.zero_add _)
  | a :: as, s, t, h => by
    obtain ⟨s', hs, hr⟩ := runFrom_cons_iff.mp h
    have hlt := hstep s a s' hs
    have hle := runFrom_measure hstep as hr
    rw [length_cons]
    omega

end VastCsi.Lib
