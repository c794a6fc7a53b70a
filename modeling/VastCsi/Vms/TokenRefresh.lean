import Mathlib.Algebra.BigOperators.Group.Finset.Piecewise
import Mathlib.Algebra.Order.BigOperators.Group.Finset
import VastCsi.Lib.Trace

/-!
# One token refresh at a time

A worker whose request finds no `authorization` header, or is answered with 403, calls
`refresh_auth_token`: the first one sets `_authorizing`, clears the header and sends the POST for
a token, the others wait on a condition variable. A worker of the model is one call of `request`.
What is done under `_token_refresh_lock` is one step; everything else interleaves freely. The
facts about one worker are in `Pc.Ok`.
-/

namespace VastCsi.Vms.TokenRefresh

open Lib List Function Bool Option

inductive Cause where
  | unset
  /-- The request was answered with 403; this is the header it was sent with. -/
  | forbidden (auth : String)
  deriving DecidableEq, Repr

/-- A call of `refresh_auth_token`, and the attempts left to the request it belongs to. -/
structure Call where
  cause : Cause
  retries : Nat
  deriving DecidableEq, Repr

/-- How a POST for a token fails: without a connection, or otherwise (a timeout, a status
for `raise_for_status`, an answer without `access`). -/
inductive PostError where
  | connection
  | other
  deriving DecidableEq, Repr

inductive Err where
  /-- `ApiError` with the text about the unreachable host. -/
  | unreachable
  | post
  /-- `retrying.Retry`, after the last attempt. -/
  | retry
  deriving DecidableEq, Repr

def PostError.err : PostError → Err
  | .connection => .unreachable
  | .other => .post

inductive Pc where
  /-- At the check of the header. -/
  | start (retries : Nat)
  /-- In `refresh_auth_token`, at the lock. -/
  | enter (k : Call)
  /-- In the wait set of the condition. -/
  | waiting (k : Call)
  /-- Notified, at the lock again. -/
  | notified (k : Call)
  /-- Has set the flag and cleared the header. -/
  | claimed (k : Call)
  /-- The POST is in flight. -/
  | inFlight (k : Call)
  /-- Has a token, at the lock. -/
  | granted (k : Call) (token : String)
  /-- Has written the header, at `finally`. -/
  | written (k : Call)
  /-- The POST has failed, at `finally`. -/
  | failing (e : PostError)
  /-- Back from `refresh_auth_token`. The header at that time is noted. -/
  | refreshed (k : Call) (seen : String)
  /-- At `super().request`. -/
  | ready (retries : Nat)
  /-- The request is in flight, with this header. -/
  | sent (retries : Nat) (auth : String)
  /-- Another status than 403. -/
  | answered
  | raised (e : Err)
  deriving DecidableEq, Repr

def Pc.isClaimed : Pc → Bool
  | .claimed _ | .inFlight _ | .granted _ _ | .written _ | .failing _ => true
  | _ => false

/-- With a next step, and not between claiming and releasing. -/
def Pc.isPending : Pc → Bool
  | .start _ | .enter _ | .notified _ | .refreshed _ _ | .ready _ | .sent _ _ => true
  | _ => false

theorem Pc.isClaimed_of_isPending {p : Pc} (h : p.isPending = true) : p.isClaimed = false := by
  cases p with
  | claimed k => cases h
  | inFlight k => cases h
  | granted k token => cases h
  | written k => cases h
  | failing e => cases h
  | _ => rfl

def Pc.isInside : Pc → Bool
  | .waiting _ | .notified _ => true
  | p => p.isClaimed

theorem Pc.isInside_of_isClaimed {p : Pc} (h : p.isClaimed = true) : p.isInside = true := by
  cases p with
  | waiting k => rfl
  | notified k => rfl
  | _ => exact h

def Pc.notify : Pc → Pc
  | .waiting k => .notified k
  | p => p

theorem Pc.notify_ne_waiting (p : Pc) (k : Call) : p.notify ≠ .waiting k := by
  cases p <;> exact nofun

@[simp] theorem Pc.isClaimed_notify (p : Pc) : p.notify.isClaimed = p.isClaimed := by
  cases p <;> rfl

/-- `_authorizing`, the header, and the places of the workers. -/
structure State (W : Type) where
  authorizing : Bool
  authorization : String
  pc : W → Pc

inductive Act (W : Type) where
  | check (w : W)
  | enter (w : W)
  | wake (w : W)
  | post (w : W)
  | postAnswer (w : W) (r : Except PostError String)
  | setHeader (w : W)
  | release (w : W)
  | resume (w : W)
  | send (w : W)
  | answer (w : W) (forbidden : Bool)

def Act.worker {W : Type} : Act W → W
  | .check w | .enter w | .wake w | .post w | .postAnswer w _ | .setHeader w | .release w
  | .resume w | .send w | .answer w _ => w

def bearer (token : String) : String := "Bearer " ++ token

theorem bearer_ne_empty (token : String) : bearer token ≠ "" := by
  intro h
  have hlen := congrArg String.length h
  rw [bearer, String.length_append] at hlen
  have : "Bearer ".length = 7 := by decide
  have : "".length = 0 := by decide
  omega

section Steps

variable {W : Type} [DecidableEq W]

def State.goto (s : State W) (w : W) (p : Pc) : State W :=
  { s with pc := update s.pc w p }

def State.claim (s : State W) (w : W) (k : Call) : State W :=
  { authorizing := true, authorization := "", pc := update s.pc w (.claimed k) }

def State.write (s : State W) (w : W) (k : Call) (header : String) : State W :=
  { s with authorization := header, pc := update s.pc w (.written k) }

def State.release (s : State W) (w : W) (p : Pc) : State W :=
  { s with authorizing := false, pc := update (fun v => (s.pc v).notify) w p }

/-- The steps of `request` and `refresh_auth_token`. With an API token (`self.token`) a 403
is a status as any other. -/
def step (hasToken : Bool) (s : State W) : Act W → Option (State W)
  | .check w =>
    match s.pc w with
    | .start n => some (s.goto w (if s.authorization = "" then .enter ⟨.unset, n⟩ else .ready n))
    | _ => none
  | .enter w =>
    match s.pc w with
    | .enter k => some (if s.authorizing then s.goto w (.waiting k) else s.claim w k)
    | _ => none
  | .wake w =>
    match s.pc w with
    | .notified k =>
      -- the `while` loop first, then the check of the header
      some (if s.authorizing then s.goto w (.waiting k)
        else if s.authorization = "" then s.claim w k
        else s.goto w (.refreshed k s.authorization))
    | _ => none
  | .post w =>
    match s.pc w with
    | .claimed k => some (s.goto w (.inFlight k))
    | _ => none
  | .postAnswer w r =>
    match s.pc w, r with
    | .inFlight k, .ok token => some (s.goto w (.granted k token))
    | .inFlight _, .error e => some (s.goto w (.failing e))
    | _, _ => none
  | .setHeader w =>
    match s.pc w with
    | .granted k token => some (s.write w k (bearer token))
    | _ => none
  | .release w =>
    match s.pc w with
    | .written k => some (s.release w (.refreshed k s.authorization))
    | .failing e => some (s.release w (.raised e.err))
    | _ => none
  | .resume w =>
    match s.pc w with
    | .refreshed ⟨.unset, n⟩ _ => some (s.goto w (.ready n))
    | .refreshed ⟨.forbidden _, n + 1⟩ _ => some (s.goto w (.start n))
    | .refreshed ⟨.forbidden _, 0⟩ _ => some (s.goto w (.raised .retry))
    | _ => none
  | .send w =>
    match s.pc w with
    | .ready n => some (s.goto w (.sent n s.authorization))
    | _ => none
  | .answer w forbidden =>
    match s.pc w with
    | .sent n auth =>
      some (s.goto w (if !hasToken && forbidden then .enter ⟨.forbidden auth, n⟩ else .answered))
    | _ => none

variable {s : State W} {v w : W} {p : Pc} {k : Call}

@[simp] theorem goto_pc_self : (s.goto w p).pc w = p := update_self ..

theorem goto_pc_of_ne (h : v ≠ w) : (s.goto w p).pc v = s.pc v := update_of_ne h ..

@[simp] theorem claim_pc_self : (s.claim w k).pc w = .claimed k := update_self ..

theorem claim_pc_of_ne (h : v ≠ w) : (s.claim w k).pc v = s.pc v := update_of_ne h ..

@[simp] theorem write_pc_self {header : String} : (s.write w k header).pc w = .written k :=
  update_self ..

theorem write_pc_of_ne {header : String} (h : v ≠ w) : (s.write w k header).pc v = s.pc v :=
  update_of_ne h ..

@[simp] theorem release_pc_self : (s.release w p).pc w = p := by
  simp only [State.release, update_self]

theorem release_pc_of_ne (h : v ≠ w) : (s.release w p).pc v = (s.pc v).notify := by
  simp only [State.release, update_of_ne h]

/-- A place outside `refresh_auth_token`, or at its entry. -/
inductive Pc.Outside : Pc → Prop where
  | start (n : Nat) : Outside (.start n)
  | enter (k : Call) : Outside (.enter k)
  | ready (n : Nat) : Outside (.ready n)
  | sent (n : Nat) (auth : String) : Outside (.sent n auth)
  | answered : Outside .answered
  | raised (e : Err) : Outside (.raised e)

def Act.isPost : Act W → Bool
  | .post _ => true
  | _ => false

inductive Effect (s : State W) : Act W → State W → Prop where
  /-- A worker moves outside `refresh_auth_token`. -/
  | outside {a : Act W} {w : W} {p : Pc} (hw : (s.pc w).isPending = true) (hp : p.Outside)
      (ha : a.isPost = false) (hent : ∀ v, a ≠ .enter v) : Effect s a (s.goto w p)
  /-- It joins the wait set. -/
  | wait {a : Act W} {w : W} {k : Call} (hw : (s.pc w).isPending = true)
      (ha : s.authorizing = true) (hpost : a.isPost = false) : Effect s a (s.goto w (.waiting k))
  /-- It uses the header of another worker. -/
  | use {w : W} {k : Call} (hpc : s.pc w = .notified k) (ha : s.authorizing = false)
      (he : s.authorization ≠ "") : Effect s (.wake w) (s.goto w (.refreshed k s.authorization))
  /-- It claims. -/
  | claim {a : Act W} {w : W} {k : Call} (hw : (s.pc w).isPending = true)
      (ha : s.authorizing = false)
      (hact : a = .enter w ∨ a = .wake w ∧ s.authorization = "") : Effect s a (s.claim w k)
  | post {w : W} {k : Call} (hpc : s.pc w = .claimed k) :
      Effect s (.post w) (s.goto w (.inFlight k))
  | grant {w : W} {k : Call} {token : String} (hpc : s.pc w = .inFlight k) :
      Effect s (.postAnswer w (.ok token)) (s.goto w (.granted k token))
  | fail {w : W} {k : Call} {e : PostError} (hpc : s.pc w = .inFlight k) :
      Effect s (.postAnswer w (.error e)) (s.goto w (.failing e))
  | write {w : W} {k : Call} {token : String} (hpc : s.pc w = .granted k token) :
      Effect s (.setHeader w) (s.write w k (bearer token))
  | release {w : W} {k : Call} (hpc : s.pc w = .written k) :
      Effect s (.release w) (s.release w (.refreshed k s.authorization))
  | abort {w : W} {e : PostError} (hpc : s.pc w = .failing e) :
      Effect s (.release w) (s.release w (.raised e.err))

/-- What one step does: to the worker that moves, and to flag and header. -/
theorem step_effect {hasToken : Bool} {a : Act W} {s' : State W}
    (hs : step hasToken s a = some s') : Effect s a s' := by
  cases a with
  | check w =>
    simp only [step] at hs
    split at hs <;> cases hs
    rename_i n hpc
    refine .outside (by rw [hpc]; rfl) ?_ rfl nofun
    split
    · exact .enter _
    · exact .ready _
  | enter w =>
    simp only [step] at hs
    split at hs <;> cases hs
    rename_i k hpc
    split
    · next ha => exact .wait (by rw [hpc]; rfl) ha rfl
    · next ha => exact .claim (by rw [hpc]; rfl) (not_eq_true _ ▸ ha) (Or.inl rfl)
  | wake w =>
    simp only [step] at hs
    split at hs <;> cases hs
    rename_i k hpc
    split
    · next ha => exact .wait (by rw [hpc]; rfl) ha rfl
    · next ha =>
      have ha : s.authorizing = false := not_eq_true _ ▸ ha
      split
      · next he => exact .claim (by rw [hpc]; rfl) ha (Or.inr ⟨rfl, he⟩)
      · next he => exact .use hpc ha he
  | post w =>
    simp only [step] at hs
    split at hs <;> cases hs
    rename_i k hpc
    exact .post hpc
  | postAnswer w r =>
    simp only [step] at hs
    split at hs <;> cases hs
    · rename_i k token hpc
      exact .grant hpc
    · rename_i k e hpc
      exact .fail hpc
  | setHeader w =>
    simp only [step] at hs
    split at hs <;> cases hs
    rename_i k token hpc
    exact .write hpc
  | release w =>
    simp only [step] at hs
    split at hs <;> cases hs
    · rename_i k hpc
      exact .release hpc
    · rename_i e hpc
      exact .abort hpc
  | resume w =>
    simp only [step] at hs
    split at hs <;> cases hs
    all_goals
      rename_i hpc
      refine .outside (by rw [hpc]; rfl) (by constructor) rfl nofun
  | send w =>
    simp only [step] at hs
    split at hs <;> cases hs
    rename_i n hpc
    exact .outside (by rw [hpc]; rfl) (.sent _ _) rfl nofun
  | answer w forbidden =>
    simp only [step] at hs
    split at hs <;> cases hs
    rename_i n auth hpc
    refine .outside (by rw [hpc]; rfl) ?_ rfl nofun
    split
    · exact .enter _
    · exact .answered

end Steps

section Invariant

variable {W : Type} {s s' : State W} {as : List (Act W)} {o : Option W} {w : W} {p : Pc}

/-- The header is that of a token which a POST of the run has brought. -/
def Obtained (as : List (Act W)) (header : String) : Prop :=
  ∃ w token, .postAnswer w (.ok token) ∈ as ∧ header = bearer token

def Pc.Ok (as : List (Act W)) (header : String) : Pc → Prop
  | .waiting _ | .notified _ => header = "" ∨ Obtained as header
  | .claimed _ | .inFlight _ | .failing _ => header = ""
  | .granted _ token => header = "" ∧ Obtained as (bearer token)
  | .written _ => Obtained as header
  | .refreshed _ seen => Obtained as seen
  | _ => True

/-- The facts of the places hold, and the flag is that of the one worker, if any, that has
claimed. -/
structure Inv (as : List (Act W)) (s : State W) (holder : Option W) : Prop where
  ok : ∀ w, (s.pc w).Ok as s.authorization
  waits : ∀ w k, s.pc w = .waiting k → s.authorizing = true
  claimed : ∀ w, (s.pc w).isClaimed = true ↔ holder = some w
  flag : s.authorizing = holder.isSome

/-- A session nobody is refreshing. Workers may be anywhere in `request`, or may just have
called `refresh_auth_token`. -/
structure Fresh (s : State W) : Prop where
  authorizing : s.authorizing = false
  outside : ∀ w, (s.pc w).Outside

variable {as as' : List (Act W)} {header : String} {p : Pc} {v : W} {hasToken : Bool}

theorem Obtained.mono (h : Obtained as header) (hsub : as ⊆ as') : Obtained as' header := by
  obtain ⟨w, token, hmem, heq⟩ := h
  exact ⟨w, token, hsub hmem, heq⟩

theorem Pc.Ok.mono (h : p.Ok as header) (hsub : as ⊆ as') : p.Ok as' header := by
  cases p with
  | waiting k => exact h.imp id (·.mono hsub)
  | notified k => exact h.imp id (·.mono hsub)
  | granted k token => exact ⟨h.1, h.2.mono hsub⟩
  | written k => exact Obtained.mono h hsub
  | refreshed k seen => exact Obtained.mono h hsub
  | claimed k => exact h
  | inFlight k => exact h
  | failing e => exact h
  | _ => trivial

/-- Inside the function the header is empty or that of a token. -/
theorem Pc.Ok.clean (h : p.Ok as header) (hin : p.isInside = true) :
    header = "" ∨ Obtained as header := by
  cases p with
  | waiting k => exact h
  | notified k => exact h
  | granted k token => exact Or.inl h.1
  | written k => exact Or.inr h
  | claimed k => exact Or.inl h
  | inFlight k => exact Or.inl h
  | failing e => exact Or.inl h
  | _ => cases hin

theorem Pc.Ok.notify (h : p.Ok as header) : p.notify.Ok as header := by
  cases p <;> exact h

/-- Where a worker has not claimed, its place says the same of another header that is empty or that
of a token. -/
theorem Pc.Ok.other {header' : String} (h : p.Ok as header) (hc : p.isClaimed = false)
    (hclean : header' = "" ∨ Obtained as header') : p.Ok as header' := by
  cases p with
  | waiting k => exact hclean
  | notified k => exact hclean
  | refreshed k seen => exact h
  | claimed k => cases hc
  | inFlight k => cases hc
  | granted k token => cases hc
  | written k => cases hc
  | failing e => cases hc
  | _ => trivial

theorem Pc.Outside.isClaimed (h : p.Outside) : p.isClaimed = false := by
  cases h <;> rfl

theorem Pc.Outside.ok (h : p.Outside) (as : List (Act W)) (header : String) :
    p.Ok as header := by
  cases h <;> trivial

theorem Inv.init (h : Fresh s) : Inv [] s none where
  ok w := (h.outside w).ok _ _
  waits w k hpc := by
    have hout := h.outside w
    rw [hpc] at hout
    cases hout
  claimed w := by
    rw [(h.outside w).isClaimed]
    exact ⟨fun hc => absurd hc false_ne_true, fun ho => absurd ho (by simp)⟩
  flag := h.authorizing

theorem Inv.mono (h : Inv as s o) (hsub : as ⊆ as') : Inv as' s o :=
  ⟨fun w => (h.ok w).mono hsub, h.waits, h.claimed, h.flag⟩

theorem Inv.ok_at (h : Inv as s o) (hpc : s.pc w = p) : p.Ok as s.authorization := by
  rw [← hpc]
  exact h.ok w

theorem Inv.holder_eq (h : Inv as s o) (hpc : s.pc w = p) (hc : p.isClaimed = true) :
    o = some w := by
  rw [← hpc] at hc
  exact (h.claimed w).mp hc

theorem Inv.not_claimed (h : Inv as s o) (ha : s.authorizing = false) (w : W) :
    (s.pc w).isClaimed = false := by
  rw [eq_false_iff]
  intro hw
  rw [h.flag, (h.claimed w).mp hw] at ha
  cases ha

theorem Inv.false_of_claimed (h : Inv as s o) (ha : s.authorizing = false) (hpc : s.pc w = p)
    (hc : p.isClaimed = true) : False := by
  rw [← hpc, h.not_claimed ha w] at hc
  cases hc

/-- Two workers that have claimed are one. -/
theorem Inv.eq_of_claimed (h : Inv as s o) (hv : (s.pc v).isClaimed = true)
    (hw : (s.pc w).isClaimed = true) : v = w := by
  rw [h.claimed] at hv hw
  exact some.inj (hv.symm.trans hw)

/-- While the flag is on the header is empty or that of a token. -/
theorem Inv.clean (h : Inv as s o) (ha : s.authorizing = true) :
    s.authorization = "" ∨ Obtained as s.authorization := by
  rw [h.flag] at ha
  obtain ⟨w, rfl⟩ := isSome_iff_exists.mp ha
  exact (h.ok w).clean (Pc.isInside_of_isClaimed ((h.claimed w).mpr rfl))

variable [DecidableEq W]

/-- A worker moves and stays on its side of the claim. -/
theorem Inv.goto (h : Inv as s o) (hc : p.isClaimed = (s.pc w).isClaimed)
    (hwait : ∀ k, p = .waiting k → s.authorizing = true)
    (hok : p.Ok as s.authorization) : Inv as (s.goto w p) o := by
  refine ⟨fun v => ?_, fun v k => ?_, fun v => ?_, h.flag⟩
  all_goals by_cases hv : v = w
  · rw [hv, goto_pc_self]
    exact hok
  · rw [goto_pc_of_ne hv]
    exact h.ok v
  · rw [hv, goto_pc_self]
    exact hwait k
  · rw [goto_pc_of_ne hv]
    exact h.waits v k
  · rw [hv, goto_pc_self, hc]
    exact h.claimed w
  · rw [goto_pc_of_ne hv]
    exact h.claimed v

/-- A worker claims while nobody has. -/
theorem Inv.claim (h : Inv as s o) (ha : s.authorizing = false) (k : Call) :
    Inv as (s.claim w k) (some w) := by
  refine ⟨fun v => ?_, fun _ _ _ => rfl, fun v => ?_, rfl⟩
  all_goals by_cases hv : v = w
  · rw [hv, claim_pc_self]
    exact rfl
  · rw [claim_pc_of_ne hv]
    exact (h.ok v).other (h.not_claimed ha v) (Or.inl rfl)
  · rw [hv, claim_pc_self]
    exact ⟨fun _ => rfl, fun _ => rfl⟩
  · rw [claim_pc_of_ne hv, h.not_claimed ha v]
    refine ⟨nofun, fun heq => absurd (some.inj heq).symm hv⟩

/-- The worker that has claimed writes the header. -/
theorem Inv.write (h : Inv as s (some w)) (hheader : Obtained as header) (k : Call) :
    Inv as (s.write w k header) (some w) := by
  refine ⟨fun v => ?_, fun v k' => ?_, fun v => ?_, h.flag⟩
  all_goals by_cases hv : v = w
  · rw [hv, write_pc_self]
    exact hheader
  · have hc : (s.pc v).isClaimed = false := by
      rw [eq_false_iff]
      intro hc
      exact hv (some.inj ((h.claimed v).mp hc)).symm
    rw [write_pc_of_ne hv]
    exact (h.ok v).other hc (Or.inr hheader)
  · rw [hv, write_pc_self]
    exact nofun
  · rw [write_pc_of_ne hv]
    exact h.waits v k'
  · rw [hv, write_pc_self]
    exact ⟨fun _ => rfl, fun _ => rfl⟩
  · rw [write_pc_of_ne hv]
    exact h.claimed v

/-- The worker that has claimed releases, and everybody who waits is notified. -/
theorem Inv.release (h : Inv as s (some w)) (hp : p.isInside = false)
    (hok : p.Ok as s.authorization) : Inv as (s.release w p) none := by
  refine ⟨fun v => ?_, fun v k => ?_, fun v => ?_, rfl⟩
  all_goals by_cases hv : v = w
  · rw [hv, release_pc_self]
    exact hok
  · rw [release_pc_of_ne hv]
    exact (h.ok v).notify
  · rw [hv, release_pc_self]
    intro hk
    rw [hk] at hp
    cases hp
  · rw [release_pc_of_ne hv]
    exact fun hk => absurd hk (Pc.notify_ne_waiting _ _)
  · rw [hv, release_pc_self]
    refine ⟨fun hc => ?_, fun ho => absurd ho (by simp)⟩
    rw [Pc.isInside_of_isClaimed hc] at hp
    cases hp
  · rw [release_pc_of_ne hv, Pc.isClaimed_notify, h.claimed v]
    exact ⟨fun heq => absurd (some.inj heq).symm hv, fun ho => absurd ho (by simp)⟩

/-- **One step.** -/
theorem Inv.step {a : Act W} (h : Inv as s o) (hs : step hasToken s a = some s') :
    ∃ o', Inv (as ++ [a]) s' o' := by
  replace h := h.mono (subset_append_left as [a])
  cases step_effect hs with
  | outside hw hp =>
    have hc := Pc.isClaimed_of_isPending hw
    refine ⟨o, h.goto (hp.isClaimed.trans hc.symm) (fun k hk => ?_) (hp.ok _ _)⟩
    rw [hk] at hp
    cases hp
  | wait hw ha =>
    have hc := Pc.isClaimed_of_isPending hw
    exact ⟨o, h.goto hc.symm (fun _ _ => ha) (h.clean ha)⟩
  | use hpc ha he =>
    exact ⟨o, h.goto (by rw [hpc]; rfl) nofun ((h.ok_at hpc).resolve_left he)⟩
  | claim hw ha => exact ⟨_, h.claim ha _⟩
  | post hpc =>
    have hok := h.ok_at hpc
    exact ⟨o, h.goto (by rw [hpc]; rfl) nofun hok⟩
  | @grant w k token hpc =>
    refine ⟨o, h.goto (by rw [hpc]; rfl) nofun ⟨h.ok_at hpc, w, token, ?_, rfl⟩⟩
    exact mem_append_right as (mem_singleton_self _)
  | fail hpc =>
    have hok := h.ok_at hpc
    exact ⟨o, h.goto (by rw [hpc]; rfl) nofun hok⟩
  | write hpc =>
    obtain rfl := h.holder_eq hpc rfl
    exact ⟨_, h.write (h.ok_at hpc).2 _⟩
  | release hpc =>
    have hok := h.ok_at hpc
    obtain rfl := h.holder_eq hpc rfl
    exact ⟨none, h.release rfl hok⟩
  | abort hpc =>
    obtain rfl := h.holder_eq hpc rfl
    exact ⟨none, h.release rfl trivial⟩

/-! ## After a failed POST -/

def Pc.isFailed : Pc → Bool
  | .failing _ | .raised _ => true
  | _ => false

theorem Pc.isFailed_of_isPending (h : p.isPending = true) : p.isFailed = false := by
  cases p with
  | failing e => cases h
  | raised e => cases h
  | _ => rfl

@[simp] theorem Pc.isFailed_notify (p : Pc) : p.notify.isFailed = p.isFailed := by
  cases p <;> rfl

structure Failed (w : W) (s : State W) : Prop where
  failed : (s.pc w).isFailed = true
  header : s.authorization = ""

omit [DecidableEq W] in
theorem Failed.ne (h : Failed w s) (hv : (s.pc v).isFailed = false) : w ≠ v := by
  intro heq
  rw [← heq, h.failed] at hv
  cases hv

theorem step_postAnswer_error {e : PostError}
    (hs : step hasToken s (.postAnswer w (.error e)) = some s') :
    ∃ k, s.pc w = .inFlight k ∧ s' = s.goto w (.failing e) := by
  simp only [TokenRefresh.step] at hs
  cases hpc : s.pc w with
  | inFlight k =>
    rw [hpc] at hs
    cases hs
    exact ⟨k, rfl, rfl⟩
  | _ => rw [hpc] at hs; cases hs

theorem Failed.goto (h : Failed w s) (hv : (s.pc v).isFailed = false) :
    Failed w (s.goto v p) := by
  refine ⟨?_, h.header⟩
  rw [goto_pc_of_ne (h.ne hv)]
  exact h.failed

theorem Failed.release (h : Failed w s) (hv : v = w → p.isFailed = true) :
    Failed w (s.release v p) := by
  refine ⟨?_, h.header⟩
  by_cases hw : w = v
  · rw [hw, release_pc_self]
    exact hv hw.symm
  · rw [release_pc_of_ne hw, Pc.isFailed_notify]
    exact h.failed

/-- Only another worker writes a header after that. -/
theorem Failed.step {a : Act W} (h : Failed w s) (ha : ∀ v, v ≠ w → a ≠ .setHeader v)
    (hs : step hasToken s a = some s') :
    Failed w s' := by
  cases step_effect hs with
  | outside hw => exact h.goto (Pc.isFailed_of_isPending hw)
  | wait hw => exact h.goto (Pc.isFailed_of_isPending hw)
  | use hpc => exact h.goto (by rw [hpc]; rfl)
  | claim hw =>
    refine ⟨?_, rfl⟩
    rw [claim_pc_of_ne (h.ne (Pc.isFailed_of_isPending hw))]
    exact h.failed
  | post hpc => exact h.goto (by rw [hpc]; rfl)
  | grant hpc => exact h.goto (by rw [hpc]; rfl)
  | fail hpc => exact h.goto (by rw [hpc]; rfl)
  | @write v k token hpc =>
    have hne : w ≠ v := h.ne (by rw [hpc]; rfl)
    exact absurd rfl (ha v hne.symm)
  | @release v k hpc =>
    have hne : w ≠ v := h.ne (by rw [hpc]; rfl)
    exact h.release fun heq => absurd heq.symm hne
  | abort hpc => exact h.release fun _ => rfl

/-! ## Every interleaving -/

/-- What the workers of a session can rely on, in the state `s` after the steps `as`. -/
structure Coordinated (as : List (Act W)) (s : State W) : Prop where
  /-- At most one POST is in flight. -/
  one_post : ∀ w w' k k', s.pc w = .inFlight k → s.pc w' = .inFlight k' → w = w'
  /-- The flag is on exactly while a worker is between claiming and releasing, -/
  authorizing_iff : s.authorizing = true ↔ ∃ w, (s.pc w).isClaimed = true
  /-- and that is one worker. -/
  one_claimed : ∀ w w', (s.pc w).isClaimed = true → (s.pc w').isClaimed = true → w = w'
  /-- Nobody waits while the flag is off. -/
  no_waiter : s.authorizing = false → ∀ w k, s.pc w ≠ .waiting k
  /-- A worker that has returned has seen the header of a token. -/
  returned : ∀ w k seen, s.pc w = .refreshed k seen → Obtained as seen
  /-- After a failed POST there is no header until another worker sets one. -/
  failed : ∀ pre w e post, as = pre ++ .postAnswer w (.error e) :: post →
    (∀ v, v ≠ w → .setHeader v ∉ post) → s.authorization = ""

/-- **The refresh of tokens, for every interleaving** of any number of workers, whatever the
POSTs come to. -/
theorem refresh_coordinated {hasToken : Bool} {s₀ : State W} (hinit : Fresh s₀)
    (hrun : runFrom (step hasToken) s₀ as = some s) : Coordinated as s := by
  have hinv : ∀ {pre t}, runFrom (TokenRefresh.step hasToken) s₀ pre = some t →
      ∃ o, Inv pre t o := by
    intro pre t ht
    exact runFrom_history (P := fun _ _ => True) (I := fun as s => ∃ o, Inv as s o)
      (fun _ _ _ _ h _ hs => h.elim fun _ h => h.step hs) pre ⟨none, .init hinit⟩
      (runMeets_of_forall (fun _ _ => trivial) _ _) ht
  obtain ⟨o, h⟩ := hinv hrun
  refine ⟨fun w w' k k' hw hw' => ?_, ?_, fun _ _ hw hw' => h.eq_of_claimed hw hw', ?_,
    fun w k seen hpc => h.ok_at hpc, ?_⟩
  · exact h.eq_of_claimed (by rw [hw]; rfl) (by rw [hw']; rfl)
  · rw [h.flag, isSome_iff_exists]
    exact exists_congr fun w => (h.claimed w).symm
  · intro ha w k hpc
    rw [h.waits w k hpc] at ha
    cases ha
  · intro pre w e post heq hpost
    rw [heq] at hrun
    obtain ⟨u, hu, hrun⟩ := runFrom_append_iff.mp hrun
    obtain ⟨u', hu', hrun⟩ := runFrom_cons_iff.mp hrun
    obtain ⟨_, hinvu⟩ := hinv hu
    have hfailed : Failed w u' := by
      obtain ⟨k, hpc, rfl⟩ := step_postAnswer_error hu'
      exact ⟨by rw [goto_pc_self]; rfl, hinvu.ok_at hpc⟩
    refine (runFrom_invariant (P := fun _ a => ∀ v, v ≠ w → a ≠ .setHeader v)
      (fun _ _ _ h ha hs => h.step ha hs) post hfailed (runMeets_iff.mpr ?_) hrun).header
    rintro pre' a post' _ rfl _ v hv rfl
    exact hpost v hv (mem_append_right _ (mem_cons_self ..))

def created (retries : Nat) : State W := ⟨false, "", fun _ => .start retries⟩

omit [DecidableEq W] in
theorem fresh_created (retries : Nat) : Fresh (created retries : State W) :=
  ⟨rfl, fun _ => .start retries⟩

end Invariant

/-! ## Every request ends

A worker in the wait set is woken at every `release`, and may go back to sleep. That ends because a
call releases at most once and a request makes finitely many calls: a call is worth `b`, which pays
for all the workers its release wakes. -/

section Progress

variable {W : Type} [DecidableEq W] {hasToken : Bool} {s s' : State W} {v w : W} {p : Pc}

/-- The worth of the calls a request may still make after this one. -/
def Call.rest (b : Nat) : Call → Nat
  | ⟨.unset, n⟩ => n * (2 * b) + b
  | ⟨.forbidden _, n⟩ => n * (2 * b)

def Pc.work (b : Nat) : Pc → Nat
  | .start n => (⟨.unset, n⟩ : Call).rest b + b + 8
  | .enter k | .notified k => k.rest b + b + 7
  | .waiting k => k.rest b + b + 6
  | .claimed k => k.rest b + b + 5
  | .inFlight k => k.rest b + b + 4
  | .granted k _ => k.rest b + b + 3
  | .written k => k.rest b + b + 2
  | .failing _ => b + 2
  | .refreshed k _ => k.rest b + 10
  | .ready n => (⟨.unset, n⟩ : Call).rest b + 9
  | .sent n _ => (⟨.unset, n⟩ : Call).rest b + 8
  | .answered | .raised _ => 0

theorem Pc.work_notify_le (b : Nat) (p : Pc) : p.notify.work b ≤ p.work b + 1 := by
  cases p with
  | waiting k => exact Nat.le_refl _
  | _ => exact Nat.le_succ _

variable [Fintype W] {b : Nat}

/-- A bound on the steps the session can still take, for `b` large enough. -/
def State.work (b : Nat) (s : State W) : Nat := ∑ w, (s.pc w).work b

theorem work_lt_of_update {q : Pc} (hs : s'.pc = update s.pc w p) (hpc : s.pc w = q)
    (hlt : p.work b < q.work b) : s'.work b < s.work b := by
  refine Finset.sum_lt_sum (fun v _ => ?_) ⟨w, Finset.mem_univ w, ?_⟩
  · by_cases hv : v = w
    · rw [hs, hv, update_self, hpc]
      exact Nat.le_of_lt hlt
    · rw [hs, update_of_ne hv]
  · rw [hs, update_self, hpc]
    exact hlt

/-- The others may be woken, one unit of work each. -/
theorem work_lt_of_release {q : Pc} (hpc : s.pc w = q)
    (hlt : p.work b + Fintype.card W < q.work b) : (s.release w p).work b < s.work b := by
  have hle : ∑ v, (((s.release w p).pc v).work b + if v = w then Fintype.card W + 1 else 0) ≤
      ∑ v, ((s.pc v).work b + 1) := by
    refine Finset.sum_le_sum fun v _ => ?_
    by_cases hv : v = w
    · rw [if_pos hv, hv, release_pc_self, hpc]
      omega
    · rw [if_neg hv, release_pc_of_ne hv]
      exact Pc.work_notify_le _ _
  rw [Finset.sum_add_distrib, Finset.sum_add_distrib, Finset.sum_ite_eq' Finset.univ w,
    if_pos (Finset.mem_univ w), ← Finset.card_eq_sum_ones, Finset.card_univ] at hle
  simp only [State.work]
  omega

theorem step_work {a : Act W} (hb : Fintype.card W + 8 < b)
    (hs : step hasToken s a = some s') : s'.work b < s.work b := by
  cases a with
  | release w =>
    simp only [step] at hs
    split at hs <;> cases hs
    all_goals
      rename_i hpc
      refine work_lt_of_release hpc ?_
      simp only [Pc.work]
      omega
  | _ =>
    simp only [step] at hs
    split at hs <;> cases hs
    all_goals
      rename_i hpc
      repeat' split
      all_goals
        refine work_lt_of_update rfl hpc ?_
        simp only [Pc.work, Call.rest, Nat.succ_mul]
        omega

omit [Fintype W] in
theorem waiting_or_done (hstuck : ∀ a, step hasToken s a = none) (w : W) :
    (∃ k, s.pc w = .waiting k) ∨ s.pc w = .answered ∨ ∃ e, s.pc w = .raised e := by
  cases hpc : s.pc w with
  | waiting k => exact Or.inl ⟨k, rfl⟩
  | answered => exact Or.inr (Or.inl rfl)
  | raised e => exact Or.inr (Or.inr ⟨e, rfl⟩)
  | start n => simpa [step, hpc] using hstuck (.check w)
  | enter k => simpa [step, hpc] using hstuck (.enter w)
  | notified k => simpa [step, hpc] using hstuck (.wake w)
  | claimed k => simpa [step, hpc] using hstuck (.post w)
  | inFlight k => simpa [step, hpc] using hstuck (.postAnswer w (.ok ""))
  | granted k token => simpa [step, hpc] using hstuck (.setHeader w)
  | written k => simpa [step, hpc] using hstuck (.release w)
  | failing e => simpa [step, hpc] using hstuck (.release w)
  | ready n => simpa [step, hpc] using hstuck (.send w)
  | sent n auth => simpa [step, hpc] using hstuck (.answer w false)
  | refreshed k seen =>
    have h := hstuck (.resume w)
    obtain ⟨cause, n⟩ := k
    cases cause with
    | unset => simp [step, hpc] at h
    | forbidden auth => cases n <;> simp [step, hpc] at h

/-- **Every request ends**: a session of finitely many workers takes a bounded number of steps,
under every interleaving, and when no step is left every worker has its answer or an exception.
-/
theorem every_request_ends {s₀ : State W} {as : List (Act W)} (hinit : Fresh s₀)
    (hrun : runFrom (step hasToken) s₀ as = some s) :
    as.length ≤ s₀.work (Fintype.card W + 9) ∧
      ((∀ a, step hasToken s a = none) → ∀ w, s.pc w = .answered ∨ ∃ e, s.pc w = .raised e) := by
  have hle := runFrom_measure (fun _ _ _ hs => step_work (Nat.lt_succ_self _) hs) as hrun
  refine ⟨Nat.le_of_add_right_le hle, fun hstuck w => ?_⟩
  obtain ⟨o, h⟩ : ∃ o, Inv as s o :=
    runFrom_history (P := fun _ _ => True) (I := fun as s => ∃ o, Inv as s o)
      (fun _ _ _ _ h _ hs => h.elim fun _ h => h.step hs) as ⟨none, .init hinit⟩
      (runMeets_of_forall (fun _ _ => trivial) _ _) hrun
  refine (waiting_or_done hstuck w).resolve_left fun ⟨k, hk⟩ => ?_
  -- somebody has claimed, and it is neither asleep nor done
  obtain ⟨v, rfl⟩ := isSome_iff_exists.mp (h.flag ▸ h.waits w k hk)
  have hv := (h.claimed v).mpr rfl
  rcases waiting_or_done hstuck v with ⟨k', hp⟩ | hp | ⟨e, hp⟩
  all_goals
    rw [hp] at hv
    cases hv

end Progress

def sharedRefresh : List (Act Bool) :=
  [.check true, .check false, .enter true, .enter false, .post true, .postAnswer true (.ok "t"),
    .setHeader true, .release true, .wake false, .resume true, .resume false]

theorem refresh_coordinated_shared : ∃ s, runFrom (step false) (created 3) sharedRefresh = some s ∧
    Coordinated sharedRefresh s ∧ s.pc true = .ready 3 ∧ s.pc false = .ready 3 := by
  have hrun : ∃ s, runFrom (step false) (created 3) sharedRefresh = some s ∧
      s.pc true = .ready 3 ∧ s.pc false = .ready 3 := ⟨_, rfl, rfl, rfl⟩
  obtain ⟨s, hs, hpcs⟩ := hrun
  exact ⟨s, hs, refresh_coordinated (fresh_created 3) hs, hpcs⟩

theorem every_request_ends_shared : ∃ (as : List (Act Bool)) (s : State Bool),
    runFrom (step false) (created 3) as = some s ∧ as.length ≤ 192 ∧
      ∀ w, s.pc w = .answered ∨ ∃ e, s.pc w = .raised e := by
  have hrun : ∃ as s, runFrom (step false) (created 3 : State Bool) as = some s ∧
      ∀ a, step false s a = none := by
    refine ⟨sharedRefresh ++ [.send true, .send false, .answer true false, .answer false false],
      _, rfl, ?_⟩
    rintro (w | w | w | w | ⟨w, r⟩ | w | w | w | w | ⟨w, forbidden⟩) <;> cases w <;> rfl
  obtain ⟨as, s, hs, hstuck⟩ := hrun
  obtain ⟨hle, hdone⟩ := every_request_ends (fresh_created 3) hs
  exact ⟨as, s, hs, hle, hdone hstuck⟩

end VastCsi.Vms.TokenRefresh
