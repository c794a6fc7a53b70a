/-!
# Stateful procedures that can fail part-way

A handler reads and writes a shared state and raises exceptions; what it changed before the
exception stays changed. That is `EStateM ε σ` without backtracking. The `_ok_iff` lemmas take a
successful run apart. `Meets P x Q E` is the triple with a postcondition per exit; its rules
follow the constructs of a handler, down to a remote call that may answer with a fault before or
after its effect took place (`remote`).
-/

namespace VastCsi.Lib

universe u

variable {ε σ α β : Type u}

open EStateM (Result)

/-- The state a run ends in. -/
def endState : Result ε σ α → σ
  | .ok _ s => s
  | .error _ s => s

variable {x : EStateM ε σ α} {s t : σ} {I P : σ → Prop} {Q : α → σ → Prop} {E : ε → σ → Prop}
  {f : β → EStateM ε σ PUnit}

/-- A sequence succeeds when its parts do, one after the other. -/
theorem bind_ok_iff {f : α → EStateM ε σ β} {b : β} :
    (x >>= f) s = .ok b t ↔ ∃ a s', x s = .ok a s' ∧ f a s' = .ok b t := by
  show EStateM.bind x f s = .ok b t ↔ _
  unfold EStateM.bind
  constructor
  · intro h
    cases hx : x s with
    | ok a s' => rw [hx] at h; exact ⟨a, s', rfl, h⟩
    | error e s' => rw [hx] at h; cases h
  · rintro ⟨a, s', hx, hf⟩
    rw [hx]
    exact hf

theorem pure_ok_iff {a b : α} : (pure a : EStateM ε σ α) s = .ok b t ↔ a = b ∧ s = t := by
  show (Result.ok a s : Result ε σ α) = .ok b t ↔ _
  simp

def isOk : Result ε σ α → Bool
  | .ok _ _ => true
  | .error _ _ => false

theorem exists_ok_of_isOk {r : Result ε σ α} (h : isOk r = true) : ∃ a t, r = .ok a t := by
  cases r with
  | ok a t => exact ⟨a, t, rfl⟩
  | error e t => cases h

/-- From a state in `P`, `x` returns in `Q` or raises in `E`. -/
def Meets (P : σ → Prop) (x : EStateM ε σ α) (Q : α → σ → Prop) (E : ε → σ → Prop) : Prop :=
  ∀ s, P s → match x s with
    | .ok a t => Q a t
    | .error e t => E e t

/-- It returns in `Q`, or raises. -/
abbrev Yields (P : σ → Prop) (x : EStateM ε σ α) (Q : α → σ → Prop) : Prop :=
  Meets P x Q fun _ _ => True

/-- It returns, in `Q`. -/
abbrev Finishes (P : σ → Prop) (x : EStateM ε σ α) (Q : α → σ → Prop) : Prop :=
  Meets P x Q fun _ _ => False

section Rules

variable {P : σ → Prop} {Q : α → σ → Prop} {R : β → σ → Prop} {E : ε → σ → Prop}

variable {x : EStateM ε σ α} {s : σ}

theorem Meets.ok {t : σ} {a : α} (h : Meets P x Q E) (hs : P s) (hx : x s = .ok a t) : Q a t := by
  have := h s hs
  rw [hx] at this
  exact this

theorem Meets.error {t : σ} {e : ε} (h : Meets P x Q E) (hs : P s) (hx : x s = .error e t) :
    E e t := by
  have := h s hs
  rw [hx] at this
  exact this

/-- Both exits at once, where they promise the same. -/
theorem Meets.endState {I : σ → Prop} (h : Meets P x (fun _ => I) (fun _ => I)) (hs : P s) :
    I (endState (x s)) := by
  have := h s hs
  cases hx : x s with
  | ok a t => rw [hx] at this; exact this
  | error e t => rw [hx] at this; exact this

/-- The rule of consequence. -/
theorem Meets.weaken {P' : σ → Prop} {Q' : α → σ → Prop} {E' : ε → σ → Prop} (h : Meets P x Q E)
    (hp : ∀ s, P' s → P s) (hq : ∀ a s, Q a s → Q' a s) (he : ∀ e s, E e s → E' e s) :
    Meets P' x Q' E' := by
  intro s hs
  have := h s (hp s hs)
  cases hx : x s with
  | ok a t => rw [hx] at this; exact hq a t this
  | error e t => rw [hx] at this; exact he e t this

theorem Meets.pre {P' : σ → Prop} (h : Meets P x Q E) (hp : ∀ s, P' s → P s) : Meets P' x Q E :=
  h.weaken hp (fun _ _ hq => hq) (fun _ _ he => he)

theorem Meets.post {Q' : α → σ → Prop} (h : Meets P x Q E) (hq : ∀ a s, Q a s → Q' a s) :
    Meets P x Q' E :=
  h.weaken (fun _ hs => hs) hq (fun _ _ he => he)

theorem Meets.raise {E' : ε → σ → Prop} (h : Meets P x Q E) (he : ∀ e s, E e s → E' e s) :
    Meets P x Q E' :=
  h.weaken (fun _ hs => hs) (fun _ _ hq => hq) he

theorem Meets.preLeft {P' : σ → Prop} (h : Meets P x Q E) : Meets (fun s => P s ∧ P' s) x Q E :=
  h.pre fun _ hs => hs.1

theorem Meets.raiseLeft {E' : ε → σ → Prop} (h : Meets P x Q fun e s => E e s ∧ E' e s) :
    Meets P x Q E :=
  h.raise fun _ _ hs => hs.1

/-- What a procedure returns in, when nobody asks where it raises. -/
theorem Meets.okOnly (h : Meets P x Q E) : Meets P x Q (fun _ _ => True) :=
  h.raise fun _ _ _ => True.intro

theorem Meets.trivial (x : EStateM ε σ α) :
    Meets (fun _ => True) x (fun _ _ => True) (fun _ _ => True) := by
  intro s _
  cases x s with
  | ok a t => exact True.intro
  | error e t => exact True.intro

theorem Meets.pure {a : α} (h : ∀ s, P s → Q a s) : Meets P (pure a) Q E := fun s hs => h s hs

theorem Meets.throw {e : ε} (h : ∀ s, P s → E e s) : Meets P (throw e) Q E := fun s hs => h s hs

theorem Meets.ret {a : α} : Meets P (Pure.pure a) (fun _ => P) E := .pure fun _ hs => hs

theorem Meets.err {e : ε} : Meets P (MonadExcept.throw e) Q fun _ => P := .throw fun _ hs => hs

/-- Sequencing: the middle assertion is the first part's postcondition. -/
theorem Meets.bind {f : α → EStateM ε σ β} (hx : Meets P x Q E) (hf : ∀ a, Meets (Q a) (f a) R E) :
    Meets P (x >>= f) R E := by
  intro s hs
  have h₁ := hx s hs
  show match EStateM.bind x f s with
    | .ok a t => R a t
    | .error e t => E e t
  unfold EStateM.bind
  cases hxs : x s with
  | ok a t => rw [hxs] at h₁; exact hf a t h₁
  | error e t => rw [hxs] at h₁; exact h₁

/-- `try`/`except`: the handler starts where the block raised. -/
theorem Meets.tryCatch {h : ε → EStateM ε σ α} {F : ε → σ → Prop} (hx : Meets P x Q F)
    (hh : ∀ e, Meets (F e) (h e) Q E) : Meets P (tryCatch x h) Q E := by
  intro s hs
  have h₁ := hx s hs
  show match EStateM.tryCatch x h s with
    | .ok a t => Q a t
    | .error e t => E e t
  unfold EStateM.tryCatch
  cases hxs : x s with
  | ok a t => rw [hxs] at h₁; exact h₁
  | error e t => rw [hxs] at h₁; exact hh e t h₁

/-- Two triples about one procedure. -/
theorem Meets.and {P₁ P₂ : σ → Prop} {Q₁ Q₂ : α → σ → Prop} {E₁ E₂ : ε → σ → Prop}
    (h₁ : Meets P₁ x Q₁ E₁) (h₂ : Meets P₂ x Q₂ E₂) :
    Meets (fun s => P₁ s ∧ P₂ s) x (fun a s => Q₁ a s ∧ Q₂ a s) (fun e s => E₁ e s ∧ E₂ e s) := by
  intro s hs
  have h₁' := h₁ s hs.1
  have h₂' := h₂ s hs.2
  cases hx : x s with
  | ok a t => rw [hx] at h₁' h₂'; exact ⟨h₁', h₂'⟩
  | error e t => rw [hx] at h₁' h₂'; exact ⟨h₁', h₂'⟩

/-- A fact of the starting state that does not depend on the state. -/
theorem Meets.assuming {p : Prop} (hp : ∀ s, P s → p) (h : p → Meets P x Q E) : Meets P x Q E :=
  fun s hs => h (hp s hs) s hs

end Rules

/-- The procedure keeps an assertion at either exit. -/
abbrev Keeps (I : σ → Prop) (x : EStateM ε σ α) : Prop := Meets I x (fun _ => I) (fun _ => I)

/-- A run keeps what holds where it ends. -/
theorem keeps_of_endState (h : ∀ s, I s → I (endState (x s))) : Keeps I x := by
  intro s hs
  have := h s hs
  cases hx : x s with
  | ok a t => rw [hx] at this; exact this
  | error e t => rw [hx] at this; exact this

theorem keeps_pure (a : α) : Keeps I (pure a : EStateM ε σ α) := Meets.ret

theorem keeps_throw (e : ε) : Keeps I (throw e : EStateM ε σ α) := Meets.err

/-- `try`/`finally`: the second procedure runs at either exit of the first,
and an error of its own replaces the result. -/
def finalizing (x : EStateM ε σ α) (fin : EStateM ε σ PUnit) : EStateM ε σ α := fun s =>
  match x s with
  | .ok a t =>
    match fin t with
    | .ok _ u => .ok a u
    | .error e u => .error e u
  | .error e t =>
    match fin t with
    | .ok _ u => .error e u
    | .error e' u => .error e' u

/-- `try`/`finally` with a postcondition per exit. -/
theorem Meets.finalizing_exits {Q' : α → σ → Prop} {E' : ε → σ → Prop} {fin : EStateM ε σ PUnit}
    (hx : Meets P x Q E) (hok : ∀ a, Meets (Q a) fin (fun _ => Q' a) E')
    (herr : ∀ e, Meets (E e) fin (fun _ => E' e) E') :
    Meets P (VastCsi.Lib.finalizing x fin) Q' E' := by
  intro s hs
  have h₁ := hx s hs
  unfold VastCsi.Lib.finalizing
  cases hxs : x s with
  | ok a t =>
    rw [hxs] at h₁
    have h₂ := hok a t h₁
    cases hft : fin t with
    | ok b u => rw [hft] at h₂; simpa only [hft] using h₂
    | error e u => rw [hft] at h₂; simpa only [hft] using h₂
  | error e t =>
    rw [hxs] at h₁
    have h₂ := herr e t h₁
    cases hft : fin t with
    | ok b u => rw [hft] at h₂; simpa only [hft] using h₂
    | error e u => rw [hft] at h₂; simpa only [hft] using h₂

/-- What both parts keep is kept. -/
theorem Meets.finalizing {fin : EStateM ε σ PUnit} (hx : Keeps I x) (hf : Keeps I fin) :
    Keeps I (finalizing x fin) :=
  hx.finalizing_exits (fun _ => hf) fun _ => hf

/-- A deferred procedure: it is told the error of the first one, if any, and
its own is dropped. -/
def deferring (x : EStateM ε σ α) (fin : Option ε → EStateM ε σ PUnit) : EStateM ε σ α :=
  fun s =>
    match x s with
    | .ok a t => .ok a (endState (fin none t))
    | .error e t => .error e (endState (fin (some e) t))

/-- The deferred procedure starts from either exit of the first and ends it the same way. -/
theorem Meets.deferring {Q' : α → σ → Prop} {E' : ε → σ → Prop} {fin : Option ε → EStateM ε σ PUnit}
    (hx : Meets P x Q E) (hok : ∀ a, Meets (Q a) (fin none) (fun _ => Q' a) (fun _ => Q' a))
    (herr : ∀ e, Meets (E e) (fin (some e)) (fun _ => E' e) (fun _ => E' e)) :
    Meets P (deferring x fin) Q' E' := by
  intro s hs
  have h := hx s hs
  unfold VastCsi.Lib.deferring
  cases hxs : x s with
  | ok a t => rw [hxs] at h; exact (hok a).endState h
  | error e t => rw [hxs] at h; exact (herr e).endState h

def assertThat (b : Bool) (e : ε) : EStateM ε σ PUnit := if b then pure ⟨⟩ else throw e

/-- Raise unless the condition holds. -/
theorem Meets.assertThat {Q : PUnit → σ → Prop} {b : Bool} {e : ε}
    (ht : b = true → ∀ s, P s → Q ⟨⟩ s) (hf : b = false → ∀ s, P s → E e s) :
    Meets P (assertThat b e) Q E := by
  cases b with
  | true => exact Meets.pure (ht rfl)
  | false => exact Meets.throw (hf rfl)

theorem keeps_assertThat (b : Bool) (e : ε) : Keeps I (assertThat b e) :=
  Meets.assertThat (fun _ _ hs => hs) (fun _ _ hs => hs)

/-- Run a procedure on each element of a list in turn. -/
def forEach (f : β → EStateM ε σ PUnit) : List β → EStateM ε σ PUnit
  | [] => pure ⟨⟩
  | b :: bs => do
    f b
    forEach f bs

/-- The loop rule. -/
theorem Meets.forEach : ∀ {bs : List β}, (∀ b ∈ bs, Meets I (f b) (fun _ => I) E) →
      Meets I (forEach f bs) (fun _ => I) E
  | [], _ => Meets.ret
  | b :: _, h =>
    Meets.bind (h b List.mem_cons_self)
      fun _ => Meets.forEach fun c hc => h c (List.mem_cons_of_mem b hc)

/-- What one element establishes and the others keep, from `A` to `B`. -/
theorem meets_forEach_mem {A B : σ → Prop} {b : β} : ∀ {bs : List β}, b ∈ bs →
      (∀ c ∈ bs, c ≠ b → Meets A (f c) (fun _ => A) (fun _ _ => True)) →
      Meets A (f b) (fun _ => B) (fun _ _ => True) →
      (∀ c ∈ bs, Meets B (f c) (fun _ => B) (fun _ _ => True)) →
      Meets A (forEach f bs) (fun _ => B) (fun _ _ => True)
  | c :: cs, hb, hA, hAB, hB => by
    by_cases hc : c = b
    · subst hc
      refine Meets.bind hAB fun _ => ?_
      have hrest : ∀ {ds : List β}, (∀ d ∈ ds, d ∈ c :: cs) →
          Meets B (forEach f ds) (fun _ => B) (fun _ _ => True) := by
        intro ds
        induction ds with
        | nil =>
          intro _
          exact Meets.ret
        | cons d ds ih =>
          intro hds
          refine Meets.bind (hB d (hds d List.mem_cons_self)) fun _ => ?_
          exact ih fun e he => hds e (List.mem_cons_of_mem d he)
      exact hrest fun d hd => List.mem_cons_of_mem c hd
    · refine Meets.bind (hA c List.mem_cons_self hc) fun _ => ?_
      exact meets_forEach_mem ((List.mem_cons.mp hb).resolve_left (Ne.symm hc))
        (fun d hd => hA d (List.mem_cons_of_mem c hd)) hAB
        (fun d hd => hB d (List.mem_cons_of_mem c hd))

/-- What each element establishes for itself and the others keep. -/
theorem meets_forEach_all {B : β → σ → Prop} : ∀ {bs : List β} {I : σ → Prop},
      (∀ c ∈ bs, Meets I (f c) (fun _ s => I s ∧ B c s) (fun _ _ => True)) →
      (∀ b, ∀ c ∈ bs, Meets (fun s => I s ∧ B b s) (f c) (fun _ s => I s ∧ B b s)
        (fun _ _ => True)) →
      Meets I (forEach f bs) (fun _ s => I s ∧ ∀ b ∈ bs, B b s) (fun _ _ => True)
  | [], _, _, _ => Meets.pure fun _ hs => ⟨hs, fun _ hb => absurd hb List.not_mem_nil⟩
  | c :: cs, I, hown, hkeep => by
    refine Meets.bind (hown c List.mem_cons_self) fun _ => ?_
    have hown' : ∀ d ∈ cs, Meets (fun s => I s ∧ B c s) (f d)
        (fun _ s => (I s ∧ B c s) ∧ B d s) (fun _ _ => True) := by
      intro d hd
      have hd' := List.mem_cons_of_mem c hd
      exact ((hkeep c d hd').and (hown d hd')).weaken (fun _ hs => ⟨hs, hs.1⟩)
        (fun _ _ hs => ⟨hs.1, hs.2.2⟩) (fun _ _ _ => trivial)
    have hkeep' : ∀ b, ∀ d ∈ cs, Meets (fun s => (I s ∧ B c s) ∧ B b s) (f d)
        (fun _ s => (I s ∧ B c s) ∧ B b s) (fun _ _ => True) := by
      intro b d hd
      have hd' := List.mem_cons_of_mem c hd
      exact ((hkeep c d hd').and (hkeep b d hd')).weaken (fun _ hs => ⟨hs.1, hs.1.1, hs.2⟩)
        (fun _ _ hs => ⟨hs.1, hs.2.2⟩) (fun _ _ _ => trivial)
    exact (meets_forEach_all hown' hkeep').weaken (fun _ hs => hs)
      (fun _ _ hs => ⟨hs.1.1, List.forall_mem_cons.mpr ⟨hs.1.2, hs.2⟩⟩) (fun _ _ _ => trivial)

/-- Run a procedure and hand its error, if any, to the caller. -/
def attempt (x : EStateM ε σ PUnit) : EStateM ε σ (Option ε) := fun s =>
  match x s with
  | .ok _ t => .ok none t
  | .error e t => .ok (some e) t

/-- Run a procedure on each element of a list, past failures, and collect the
errors. -/
def collectErrors (f : β → EStateM ε σ PUnit) : List β → EStateM ε σ (List ε)
  | [] => pure []
  | b :: bs => do
    let e ← attempt (f b)
    let es ← collectErrors f bs
    pure (e.toList ++ es)

theorem attempt_ok_iff {x : EStateM ε σ PUnit} {r : Option ε} : attempt x s = .ok r t ↔
      (r = none ∧ x s = .ok ⟨⟩ t) ∨ ∃ e, r = some e ∧ x s = .error e t := by
  unfold attempt
  cases hx : x s with
  | ok a u =>
    simp only [Result.ok.injEq, reduceCtorEq, and_false, exists_false, or_false, true_and,
      eq_comm (a := none)]
  | error e u =>
    simp only [Result.ok.injEq, Result.error.injEq, reduceCtorEq, and_false, false_or]
    constructor
    · rintro ⟨rfl, rfl⟩
      exact ⟨e, rfl, rfl, rfl⟩
    · rintro ⟨e', rfl, rfl, rfl⟩
      exact ⟨rfl, rfl⟩

/-- No error was collected: every element went through. -/
theorem collectErrors_nil_iff :
    ∀ {bs : List β} {s t : σ}, collectErrors f bs s = .ok [] t ↔ forEach f bs s = .ok ⟨⟩ t
  | [], s, t => by
    rw [collectErrors, forEach, pure_ok_iff, pure_ok_iff]
    simp only [true_and]
  | b :: bs, s, t => by
    simp only [collectErrors, forEach, bind_ok_iff, attempt_ok_iff, pure_ok_iff]
    constructor
    · rintro ⟨r, s₁, hr, es, s₂, hes, happ, rfl⟩
      obtain ⟨hnone, hnil⟩ := List.append_eq_nil_iff.mp happ
      subst hnil
      rcases hr with ⟨rfl, hb⟩ | ⟨e, rfl, _⟩
      · exact ⟨⟨⟩, s₁, hb, collectErrors_nil_iff.mp hes⟩
      · cases hnone
    · rintro ⟨_, s₁, hb, hrest⟩
      exact ⟨none, s₁, .inl ⟨rfl, hb⟩, [], t, collectErrors_nil_iff.mpr hrest, rfl, rfl⟩

/-- When no error was collected, what the loop establishes holds. -/
theorem meets_collectErrors_nil {Q : σ → Prop} {bs : List β}
    (h : Meets P (forEach f bs) (fun _ => Q) (fun _ _ => True)) :
    Meets P (collectErrors f bs) (fun es s => es = [] → Q s) (fun _ _ => True) := by
  intro s hs
  cases hrun : collectErrors f bs s with
  | ok es t =>
    intro hnil
    subst hnil
    exact h.ok hs (collectErrors_nil_iff.mp hrun)
  | error e t => exact True.intro

/-- Whether there is an error tells which exit was taken. -/
theorem Meets.attempt_cases {Q K : σ → Prop} {x : EStateM ε σ PUnit}
    (h : Meets P x (fun _ => Q) (fun _ => K)) :
    Meets P (attempt x) (fun r s => r = none ∧ Q s ∨ r.isSome = true ∧ K s) E := by
  intro s hs
  have hx := h s hs
  unfold VastCsi.Lib.attempt
  cases hxs : x s with
  | ok a t => rw [hxs] at hx; exact .inl ⟨rfl, hx⟩
  | error e t => rw [hxs] at hx; exact .inr ⟨rfl, hx⟩

/-- What both exits promise holds when the error is handed on. -/
theorem Meets.attempt {x : EStateM ε σ PUnit} (hx : Meets P x (fun _ => I) (fun _ => I)) :
    Meets P (attempt x) (fun _ => I) E :=
  hx.attempt_cases.post fun _ _ hs => hs.elim And.right And.right

/-- A procedure that does not fail has no error to hand on. -/
theorem meets_attempt_none {Q : σ → Prop} {x : EStateM ε σ PUnit}
    (h : Meets P x (fun _ => Q) (fun _ _ => False)) :
    Meets P (attempt x) (fun r s => r = none ∧ Q s) E :=
  h.attempt_cases.post fun _ _ hs => hs.resolve_right And.right

/-- A loop none of whose turns fails collects nothing. -/
theorem meets_collectErrors_none {I : σ → Prop} {f : β → EStateM ε σ PUnit} {E : ε → σ → Prop} :
    ∀ {bs : List β}, (∀ b ∈ bs, Meets I (f b) (fun _ => I) (fun _ _ => False)) →
      Meets I (collectErrors f bs) (fun es s => es = [] ∧ I s) E
  | [], _ => Meets.pure fun _ hs => ⟨rfl, hs⟩
  | b :: bs, h => by
    refine Meets.bind (meets_attempt_none (h b List.mem_cons_self)) fun r => ?_
    refine Meets.assuming (p := r = none) (fun _ hs => hs.1) fun hr => ?_
    subst hr
    have hrest := meets_collectErrors_none (E := E) fun c hc => h c (List.mem_cons_of_mem b hc)
    refine Meets.bind (hrest.weaken (fun _ hs => hs.2) (fun _ _ hs => hs) (fun _ _ hs => hs))
      fun es => ?_
    exact Meets.pure fun _ hs => ⟨hs.1, hs.2⟩

/-- The loop rule past failures. -/
theorem Meets.collectErrors : ∀ {bs : List β}, (∀ b ∈ bs, Keeps I (f b)) →
      Meets I (collectErrors f bs) (fun _ => I) E
  | [], _ => Meets.ret
  | b :: _, h =>
    Meets.bind (Meets.attempt (h b List.mem_cons_self)) fun _ =>
      Meets.bind (Meets.collectErrors fun c hc => h c (List.mem_cons_of_mem b hc)) fun _ =>
        Meets.ret

/-- The state after a number of attempts, each of which ended somehow; `reset` is what
happens between two of them. -/
def afterAttempts {ι : Type} (reset : σ → σ) (x : ι → EStateM ε σ α) (s : σ) (is : List ι) : σ :=
  is.foldl (fun s i => VastCsi.Lib.endState (x i (reset s))) s

/-- What every attempt keeps. -/
theorem afterAttempts_invariant {ι : Type} (reset : σ → σ) (x : ι → EStateM ε σ α)
    (hreset : ∀ s, I s → I (reset s)) {is : List ι} (hx : ∀ i ∈ is, Keeps I (x i)) (hs : I s) :
    I (afterAttempts reset x s is) := by
  induction is generalizing s with
  | nil => exact hs
  | cons i is ih =>
    exact ih (fun j hj => hx j (List.mem_cons_of_mem i hj))
      ((hx i List.mem_cons_self).endState (hreset s hs))

/-- How a remote call fares: it answers, it fails before it had any effect,
or its effect took place and the answer is lost. -/
inductive Fate (φ : Type u) where
  | answered
  | failed (f : φ)
  | lost (f : φ)

/-- A remote call under a fate, with the error each fault is seen as. -/
def remote {φ : Type u} (err : φ → ε) (x : EStateM ε σ α) : Fate φ → EStateM ε σ α
  | .answered => x
  | .failed f => throw (err f)
  | .lost f => fun s => .error (err f) (endState (x s))

/-- A remote call does what its effect does, or raises a fault where the
effect did not start or where it ended. -/
theorem Meets.remote {φ : Type u} {err : φ → ε} (hP : ∀ f s, P s → E (err f) s)
    (hQ : ∀ f a s, Q a s → E (err f) s) (hE : ∀ f e s, E e s → E (err f) s) (hx : Meets P x Q E) :
    ∀ fate : Fate φ, Meets P (remote err x fate) Q E
  | .answered => hx
  | .failed f => Meets.throw fun s hs => hP f s hs
  | .lost f => by
    have h : Meets P x (fun _ => E (err f)) (fun _ => E (err f)) :=
      hx.weaken (fun _ hs => hs) (hQ f) (hE f)
    exact fun _ hs => h.endState hs

end VastCsi.Lib
