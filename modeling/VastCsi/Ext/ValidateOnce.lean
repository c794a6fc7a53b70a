import VastCsi.Ext.OwnObject
import VastCsi.Lib.Trace

/-!
# Validation, once

A replication object is validated when its finalizer is added, and not again. The finalizer is
written first; when `validateOnce` then fails it is taken off, and an error of that is ignored. A
crash is a reconcile whose calls all fail from some point on.

`Sound` says that what carries the finalizer, and is not under deletion, was validated, and so is
whatever has come past the gate. A reconcile keeps it when the removal after a failed validation
takes effect (`Settles`); `sound_run` is the run.
-/

namespace VastCsi.Ext.ValidateOnce

open Lib CsiAddons Vvr Bool

def untilValidation (env : Env) : Rec Bool := do
  external env "failed to build VMS REST clients"
  external env "failed to fetch StorageClass objects"
  if (← getMem).finalizer then pure false
  else do
    modifyMem fun m => { m with finalizer := true }
    withContext "failed to add finalizer"
      (writeBack env.fates fun _ v => { v with finalizer := true })
    pure true

def settle (env : Env) : Rec Unit :=
  match env.validation with
  | none => pure ()
  | some e => do
    let _ ← attempt (removeFinalizer env)
    throw e

theorem gate_eq (env : Env) :
    gate env = (do if ← untilValidation env then settle env else pure ()) := by
  simp only [gate, ensureFinalizer, untilValidation, bind_assoc]
  refine bind_congr fun _ => bind_congr fun _ => bind_congr fun m => ?_
  split
  next => rfl
  next =>
    simp only [bind_assoc, pure_bind, if_true]
    rfl

def atGate (env : Env) (w : World Own) : Option (World Own) :=
  match fetch env w with
  | .ok true w' => if w'.own.mem.deleting then none else some w'
  | _ => none

def passes (env : Env) (w : World Own) : Bool := (atGate env w).any fun w' => isOk (gate env w')

def validatesAt (env : Env) (w : World Own) : Bool :=
  match untilValidation env w with
  | .ok true _ => env.validation.isNone
  | _ => false

def validates (env : Env) (w : World Own) : Bool := (atGate env w).any (validatesAt env)

/-- The object, with what its reconciles have come to. -/
structure State where
  world : World Own
  past : Bool := false
  validated : Bool := false

inductive Act (ε : Type) where
  | reconcile (env : ε)
  | edit (primaryStorageClass : String) (protectionTopology : List ReplicationTarget)
    (failoverType : String) (resync : Bool)
  | delete

def State.change (s : State) (f : VastVolumeReplication → Option VastVolumeReplication) : State :=
  { s with world := { s.world with own :=
    { s.world.own with stored := s.world.own.stored.bind f } } }

def step {ε : Type} (c : Controller ε) (s : State) : Act ε → Option State
  | .reconcile env => some
      { world := endState (c.reconcile env s.world)
        past := s.past || passes (c.toEnv env) s.world
        validated := s.validated || validates (c.toEnv env) s.world }
  | .edit primaryStorageClass protectionTopology failoverType resync =>
    some (s.change fun v =>
      some { v with primaryStorageClass, protectionTopology, failoverType, resync })
  | .delete => some (s.change deleted)

/-- A finalizer that is added is not left behind: its write does not take effect without
an answer, and a failed `validateOnce` is followed by a removal that takes effect. The
calls of a reconcile are the read of the object, two for what it needs, the write of
the finalizer and its removal. -/
def Settled (env : Env) (w : World Own) : Prop :=
  ∀ v, w.own.stored = some v → v.deleting = false → v.finalizer = false →
    env.fates w.calls = .answered → env.fates (w.calls + 1) = .answered →
      env.fates (w.calls + 2) = .answered → (∀ f, env.fates (w.calls + 3) ≠ .lost f) ∧
          (env.fates (w.calls + 3) = .answered → env.validation.isSome = true →
            ∀ f, env.fates (w.calls + 4) ≠ .failed f)

def Settles {ε : Type} (c : Controller ε) (s : State) : Act ε → Prop
  | .reconcile env => Settled (c.toEnv env) s.world
  | _ => True

/-- An object with its finalizer, unless it is under deletion, has `P`. -/
def Marked (P : Prop) (w : World Own) : Prop :=
  ∀ v, w.own.stored = some v → v.deleting = false → v.finalizer = true → P

theorem kept_marked {P : Prop} : Kept (Marked P) where
  blind := fun _ _ _ hw => hw
  mem := fun _ _ _ hw => hw
  store := by
    intro w v v' hs hstep hw u hu hdel hf
    cases hu
    cases hstep with
    | status => exact hw v hs hdel hf
    | peers => exact hw v hs hdel hf
    | resync => exact hw v hs hdel hf
  remove := by
    intro w v hs hw u hu hdel hf
    dsimp only at hu
    split at hu
    next => cases hu
    next =>
      cases hu
      cases hf

section Gate

variable {env : Env} {own : Own} {v : VastVolumeReplication} {n : Nat}

theorem meets_external_at {context : String} {K : World Own → Prop} (hK : ∀ w, w.own = own → K w) :
    Meets (At own n) (external env context)
      (fun _ w => At own (n + 1) w ∧ env.fates n = .answered) (fun _ => K) :=
  meets_callOut_at hK

def Unmarked (w : World Own) : Prop := ∀ v, w.own.stored = some v → v.finalizer = false

/-- Up to the validation of an object without finalizer: it is called with the finalizer written, or
the reconcile fails and there is none. -/
theorem meets_untilValidation (hf : v.finalizer = false)
    (hlost : env.fates n = .answered → env.fates (n + 1) = .answered →
      ∀ f, env.fates (n + 2) ≠ .lost f) :
    Meets (At ⟨some v, v⟩ n) (untilValidation env)
      (fun called w => called = true ∧ (env.fates n = .answered ∧
          env.fates (n + 1) = .answered ∧ env.fates (n + 2) = .answered) ∧
        At ⟨some { v with finalizer := true }, { v with finalizer := true }⟩ (n + 3) w)
      (fun _ => Unmarked) := by
  have hsame : ∀ w : World Own, w.own = ⟨some v, v⟩ → Unmarked w := by
    intro w hw u hu
    rw [hw] at hu
    cases hu
    exact hf
  refine .bind (meets_external_at hsame) fun _ => ?_
  refine .assuming (fun _ hw => hw.2) fun h₀ => ?_
  refine .bind ((meets_external_at (n := n + 1) hsame).preLeft) fun _ => ?_
  refine .assuming (fun _ hw => hw.2) fun h₁ => ?_
  refine .bind (Q := fun m w => m = v ∧ At ⟨some v, v⟩ (n + 2) w)
    (fun w hw => ⟨by rw [hw.1.1], hw.1⟩) fun m => ?_
  refine .assuming (fun _ hw => hw.1) fun hm => ?_
  rw [hm, if_neg (by rw [hf]; decide)]
  refine .bind (Q := fun _ => At ⟨some v, { v with finalizer := true }⟩ (n + 2))
    (fun w hw => ⟨by rw [hw.2.1], hw.2.2⟩) fun _ => ?_
  have hwrite : Meets (At ⟨some v, { v with finalizer := true }⟩ (n + 2))
      (writeBack env.fates fun _ v => { v with finalizer := true })
      (fun _ w => env.fates (n + 2) = .answered ∧
        At ⟨some { v with finalizer := true }, { v with finalizer := true }⟩ (n + 3) w)
      (fun _ => Unmarked) := by
    refine meets_api_at (fun h₂ w hw => ?_) (fun _ _ w hw u hu => ?_) fun f hfate => ?_
    · rw [hw.1]
      exact ⟨h₂, rfl, hw.2⟩
    · rw [hw.1] at hu
      cases hu
      exact hf
    · exact absurd hfate (hlost h₀ h₁ f)
  refine .bind (meets_withContext hwrite) fun _ => .pure fun w hw => ?_
  exact ⟨rfl, ⟨h₀, h₁, hw.1⟩, hw.2⟩

def dropMarker : Rec Unit := fun w =>
  match w.own.stored with
  | none => .ok () w
  | some v => .ok () { w with own := { w.own with
      stored := if v.deleting then none else some { v with finalizer := false } } }

/-- After a failed validation the finalizer is off, if its removal takes effect. -/
theorem meets_settle {m : VastVolumeReplication} (hdel : v.deleting = false)
    (hremove : env.validation.isSome = true → ∀ f, env.fates n ≠ .failed f) :
    Meets (At ⟨some v, m⟩ n) (settle env) (fun _ _ => env.validation = none)
      (fun _ => Unmarked) := by
  unfold settle
  cases hval : env.validation with
  | none => exact .pure fun _ _ => rfl
  | some e =>
    have hgone : Meets (At ⟨some v, m⟩ n) (removeFinalizer env) (fun _ => Unmarked)
        (fun _ => Unmarked) := by
      have heffect : Meets (At ⟨some v, { m with finalizer := false }⟩ (n + 1)) dropMarker
          (fun _ => Unmarked) (fun _ => Unmarked) := by
        intro w hw
        unfold dropMarker
        rw [hw.1]
        intro u hu
        dsimp only at hu
        rw [hdel, if_neg (by decide)] at hu
        cases hu
        rfl
      refine .bind (Q := fun _ => At ⟨some v, { m with finalizer := false }⟩ n)
        (fun w hw => ⟨by rw [hw.1], hw.2⟩) fun _ => ?_
      refine meets_api_at (fun _ => heffect) (fun f hfate => ?_) fun _ _ => heffect
      exact absurd hfate (hremove (by rw [hval]; rfl) f)
    exact .bind (.attempt hgone) fun _ => .err

/-- Unless `validateOnce` is called with success the reconcile fails, and leaves no finalizer. -/
theorem gate_fails (hf : v.finalizer = false) (hdel : v.deleting = false)
    (hlost : env.fates n = .answered → env.fates (n + 1) = .answered →
      ∀ f, env.fates (n + 2) ≠ .lost f)
    (hremove : env.fates n = .answered → env.fates (n + 1) = .answered →
      env.fates (n + 2) = .answered → env.validation.isSome = true →
        ∀ f, env.fates (n + 3) ≠ .failed f)
    {w : World Own} (hw : At ⟨some v, v⟩ n w) (hval : validatesAt env w = false) :
    ∃ e t, gate env w = .error e t ∧ Unmarked t := by
  have huntil := meets_untilValidation hf hlost
  have hgate : Meets (fun w' => w' = w) (gate env) (fun _ _ => False) (fun _ => Unmarked) := by
    rw [gate_eq]
    refine .bind (Q := fun called w' => untilValidation env w = .ok called w') ?_ ?_
    · intro w' hw'
      rw [hw']
      cases hrun : untilValidation env w with
      | ok called t => exact rfl
      | error e t => exact huntil.error hw hrun
    intro called t ht
    obtain ⟨rfl, ⟨h₀, h₁, h₂⟩, hat⟩ := huntil.ok hw ht
    have hfailed : env.validation.isSome = true := by
      rw [validatesAt, ht] at hval
      exact Option.isNone_eq_false_iff.mp hval
    rw [if_pos rfl]
    refine ((meets_settle (v := { v with finalizer := true }) hdel (hremove h₀ h₁ h₂)).post
      (fun _ _ hnone => ?_)) t hat
    rw [hnone] at hfailed
    cases hfailed
  cases hrun : gate env w with
  | ok a t => exact (hgate.ok rfl hrun).elim
  | error e t => exact ⟨e, t, rfl, hgate.error rfl hrun⟩

def readStored : Rec Bool := fun w =>
  match w.own.stored with
  | none => .ok false w
  | some v => .ok true { w with own := { w.own with mem := v } }

/-- The read of the object. -/
theorem meets_fetch (env : Env) (w : World Own) : Meets (fun w' => w' = w) (fetch env)
      (fun found t => t.own.stored = w.own.stored ∧ (found = true → ∃ v,
        w.own.stored = some v ∧ env.fates w.calls = .answered ∧ At ⟨some v, v⟩ (w.calls + 1) t))
      (fun _ t => t.own.stored = w.own.stored) := by
  have heffect : Meets (At w.own (w.calls + 1)) readStored
      (fun found t => t.own.stored = w.own.stored ∧ (found = true → ∃ v,
        w.own.stored = some v ∧ At ⟨some v, v⟩ (w.calls + 1) t))
      (fun _ t => t.own.stored = w.own.stored) := by
    rintro t ⟨hown, hcalls⟩
    unfold readStored
    rw [hown]
    cases hs : w.own.stored with
    | none => exact ⟨by rw [hown, hs], nofun⟩
    | some v => exact ⟨hs, fun _ => ⟨v, rfl, by rw [← hs], hcalls⟩⟩
  refine Meets.weaken (P := At w.own w.calls) (meets_api_at (fun ha => ?_)
    (fun _ _ t ht => by rw [ht.1])
    fun _ _ => heffect.post fun _ _ ht => ht.1)
      (fun _ ht => by rw [ht]; exact ⟨rfl, rfl⟩) (fun _ _ ht => ht) (fun _ _ ht => ht)
  refine heffect.post (fun _ _ ht => ⟨ht.1, fun hfound => ?_⟩)
  obtain ⟨v, hs, hat⟩ := ht.2 hfound
  exact ⟨v, hs, ha, hat⟩

end Gate

theorem Marked.of_stored {P : Prop} {w t : World Own} (h : Marked P w)
    (hs : t.own.stored = w.own.stored) : Marked P t := by
  intro v hv
  rw [hs] at hv
  exact h v hv

section Reconcile

variable {ε : Type} {c : Controller ε} {env : ε} {w t : World Own} {v : VastVolumeReplication}
  {n : Nat}

/-- A reconcile with an object to work on. -/
theorem reconcile_of_fetch (h : fetch (c.toEnv env) w = .ok true t) :
    c.reconcile env w = c.resume env t := by
  show EStateM.bind _ _ w = _
  rw [EStateM.bind, h]
  rfl

/-- The body looks at the copy first. -/
theorem body_of_mem (hat : At ⟨some v, v⟩ n t) : c.body env t = if v.deleting then c.deletion env t
      else (do gate (c.toEnv env); c.work env) t := by
  show (if t.own.mem.deleting then c.deletion env else _ : Rec Unit) t = _
  rw [hat.1]
  cases v.deleting with
  | true => rfl
  | false => rfl

/-- An object under deletion does not get its finalizer back. -/
theorem marked_deletion (hat : At ⟨some v, v⟩ n t) (hdel : v.deleting = true)
    (ht : Marked False t) :
    Marked False (endState (c.resume env t)) := by
  have hbody : Meets (fun w' => w' = t) (c.body env) (fun _ => Marked False)
      (fun _ => Marked False) := by
    intro w' hw'
    rw [hw', body_of_mem hat, hdel, if_pos rfl]
    exact c.keeps_deletion env kept_marked t ht
  exact (Meets.deferring hbody (fun _ => c.keeps_syncStatus env _ kept_marked)
    fun _ => c.keeps_syncStatus env _ kept_marked).endState rfl

/-- Behind a gate that fails only the outcome is recorded. -/
theorem marked_of_gate_fails {e : KErr} {t' : World Own} (hat : At ⟨some v, v⟩ n t)
    (hdel : v.deleting = false) (hgate : gate (c.toEnv env) t = .error e t')
    (ht' : Unmarked t') :
    Marked False (endState (c.resume env t)) := by
  have hbody : c.body env t = .error e t' := by
    rw [body_of_mem hat, hdel, if_neg (by decide)]
    show EStateM.bind _ _ t = _
    rw [EStateM.bind, hgate]
  have hmarked : Marked False t' := by
    intro u hu _ hfin
    rw [ht' u hu] at hfin
    cases hfin
  rw [Controller.resume, deferring, hbody]
  exact (c.keeps_syncStatus env (some e) kept_marked).endState hmarked

/-- Without a success of `validateOnce` a reconcile does not get behind the validation, and an
object without finalizer has none afterwards. -/
theorem blocked (hw : Marked False w) (hset : Settled (c.toEnv env) w)
    (hval : validates (c.toEnv env) w = false) :
    passes (c.toEnv env) w = false ∧ Marked False (endState (c.reconcile env w)) := by
  have hread := meets_fetch (c.toEnv env) w
  cases hfetch : fetch (c.toEnv env) w with
  | error e t =>
    have hrun : c.reconcile env w = .error e t := by
      show EStateM.bind _ _ w = _
      rw [EStateM.bind, hfetch]
    rw [hrun, passes, atGate, hfetch]
    exact ⟨rfl, hw.of_stored (hread.error rfl hfetch)⟩
  | ok found t =>
    obtain ⟨hstored, hfound⟩ := hread.ok rfl hfetch
    cases found with
    | false =>
      have hrun : c.reconcile env w = .ok () t := bind_ok_iff.mpr ⟨false, t, hfetch, rfl⟩
      rw [hrun, passes, atGate, hfetch]
      exact ⟨rfl, hw.of_stored hstored⟩
    | true =>
      obtain ⟨v, hs, h₀, hat⟩ := hfound rfl
      rw [reconcile_of_fetch hfetch]
      cases hdel : v.deleting with
      | true =>
        refine ⟨?_, marked_deletion hat hdel (hw.of_stored hstored)⟩
        rw [passes, atGate, hfetch]
        dsimp only
        rw [hat.1, hdel, if_pos rfl]
        rfl
      | false =>
        have hgateAt : atGate (c.toEnv env) w = some t := by
          rw [atGate, hfetch]
          dsimp only
          rw [hat.1, hdel, if_neg (by decide)]
        rw [validates, hgateAt] at hval
        have hf : v.finalizer = false := eq_false_iff.mpr (hw v hs hdel)
        obtain ⟨e, t', hgate, hunmarked⟩ := gate_fails hf hdel
          (fun h₁ h₂ => (hset v hs hdel hf h₀ h₁ h₂).1)
          (fun h₁ h₂ => (hset v hs hdel hf h₀ h₁ h₂).2) hat hval
        refine ⟨?_, marked_of_gate_fails hat hdel hgate hunmarked⟩
        rw [passes, hgateAt, Option.any_some, hgate]
        rfl

end Reconcile

/-- What is past the gate, or carries the finalizer, was validated. -/
structure Sound (s : State) : Prop where
  past : s.past = true → s.validated = true
  marked : Marked (s.validated = true) s.world

/-- One event keeps it. -/
theorem Sound.step {ε : Type} {c : Controller ε} {s s' : State} {a : Act ε} (hs : Sound s)
    (ha : Settles c s a) (h : step c s a = some s') : Sound s' := by
  cases a with
  | reconcile env =>
    cases h
    rcases eq_false_or_eq_true (s.validated || validates (c.toEnv env) s.world) with hv | hv
    · exact ⟨fun _ => hv, fun _ _ _ _ => hv⟩
    · obtain ⟨hs', hval⟩ := or_eq_false_iff.mp hv
      have hmarked : Marked False s.world := by
        intro v hstored hdel hf
        have := hs.marked v hstored hdel hf
        rw [hs'] at this
        cases this
      obtain ⟨hpasses, hend⟩ := blocked hmarked ha hval
      refine ⟨fun hpast => ?_, fun v hstored hdel hf => (hend v hstored hdel hf).elim⟩
      dsimp only at hpast
      rw [hpasses, Bool.or_false] at hpast
      rw [hs.past hpast] at hs'
      cases hs'
  | edit primarySC topology failoverType resync =>
    cases h
    refine ⟨hs.past, fun v hv hdel hf => ?_⟩
    obtain ⟨u, hu, heq⟩ := Option.bind_eq_some_iff.mp hv
    cases heq
    exact hs.marked u hu hdel hf
  | delete =>
    cases h
    refine ⟨hs.past, fun v hv hdel hf => ?_⟩
    obtain ⟨u, -, hu⟩ := Option.bind_eq_some_iff.mp hv
    rw [deleted] at hu
    split at hu
    next =>
      cases hu
      cases hdel
    next => cases hu

def start (w : World Own) : State := { world := w }

/-- And so does a run. -/
theorem sound_run {ε : Type} {c : Controller ε} {w : World Own} {acts : List (Act ε)} {s : State}
    (hstart : Unmarked w) (hrun : runFrom (step c) (start w) acts = some s)
    (hset : RunMeets (step c) (Settles c) (start w) acts) : Sound s := by
  have hnot : (start w).past ≠ true := false_ne_true
  refine runFrom_invariant (fun _ _ _ hs ha h => hs.step ha h) acts
    ⟨fun h => absurd h hnot, ?_⟩ hset hrun
  intro v hv _ hf
  rw [hstart v hv] at hf
  cases hf

/-- **Nothing gets past the validation without it**: as long as no finalizer is left behind by a
reconcile that fails, one has got behind the validation only if some `validateOnce` returned
success. -/
theorem past_validated (w : World Own) (hstart : Unmarked w) :
    (∀ (acts : List (Act Env)) (s : State), runFrom (step vvrController) (start w) acts = some s →
      RunMeets (step vvrController) (Settles vvrController) (start w) acts →
        s.past = true → s.validated = true) ∧
    ∀ (acts : List (Act Vscr.Env)) (s : State),
      runFrom (step vscrController) (start w) acts = some s →
      RunMeets (step vscrController) (Settles vscrController) (start w) acts →
        s.past = true → s.validated = true :=
  ⟨fun _ _ hrun hset => (sound_run hstart hrun hset).past,
    fun _ _ hrun hset => (sound_run hstart hrun hset).past⟩

/-- No call fails. -/
theorem settled_steady {env : Env} (h : env.fates = steady) (w : World Own) : Settled env w := by
  intro v _ _ _ _ _ _
  rw [h]
  exact ⟨nofun, fun _ _ => nofun⟩

def unseen : VastVolumeReplication where
  name := "group"
  finalizer := false
  primaryStorageClass := "east"
  protectionTopology := [⟨"east", "west", "link"⟩]

def submitted : World Own := { objs := fun _ => none, own := ⟨some unseen, unseen⟩ }

def misconfigured : Option KErr := some ⟨[.invalid], "primaryStorageClass must not be empty"⟩

def State.outcome (s : State) : Bool × Bool := (s.past, s.validated)

theorem past_validated_retry : (∃ s, runFrom (step vvrController) (start submitted)
        [.reconcile { validation := misconfigured }, .reconcile {}] = some s ∧
      s.past = true ∧ s.validated = true) ∧
    ∃ s, runFrom (step vscrController) (start submitted)
        [.reconcile { validation := misconfigured }, .reconcile {}] = some s ∧
      s.past = true ∧ s.validated = true := by
  have hstart : Unmarked submitted := by
    intro v hv
    cases hv
    rfl
  obtain ⟨hvvr, hvscr⟩ := past_validated submitted hstart
  constructor
  · have hrun : (runFrom (step vvrController) (start submitted)
        [.reconcile { validation := misconfigured }, .reconcile {}]).map State.past =
          some true := by decide +kernel
    obtain ⟨s, hs, hpast⟩ := Option.map_eq_some_iff.mp hrun
    exact ⟨s, hs, hpast, hvvr _ s hs ⟨settled_steady rfl _, fun _ _ =>
      ⟨settled_steady rfl _, fun _ _ => trivial⟩⟩ hpast⟩
  · have hrun : (runFrom (step vscrController) (start submitted)
        [.reconcile { validation := misconfigured }, .reconcile {}]).map State.past =
          some true := by decide +kernel
    obtain ⟨s, hs, hpast⟩ := Option.map_eq_some_iff.mp hrun
    exact ⟨s, hs, hpast, hvscr _ s hs ⟨settled_steady rfl _, fun _ _ =>
      ⟨settled_steady rfl _, fun _ _ => trivial⟩⟩ hpast⟩

def stopsAtRemoval : Fates := fun n => if n < 4 then .answered else .failed .unreachable

/-- The validation of the first reconcile fails, and so does the removal of the finalizer. The
next one finds the finalizer and goes on. -/
theorem unvalidated_passes : (runFrom (step vvrController) (start submitted)
        [.reconcile { fates := stopsAtRemoval, validation := misconfigured },
          .reconcile { validation := misconfigured }]).map State.outcome = some (true, false) ∧
      (runFrom (step vscrController) (start submitted)
        [.reconcile { fates := stopsAtRemoval, validation := misconfigured },
          .reconcile { validation := misconfigured }]).map State.outcome = some (true, false) := by
  decide +kernel

end VastCsi.Ext.ValidateOnce
