import Mathlib.Data.List.Sort
import VastCsi.Lib.Proc

/-!
# The replication objects of csi-addons

The controllers keep one `VolumeReplication` or `VolumeGroupReplication` per StorageClass: they
drive its `spec.replicationState`, and csi-addons reports into its `status.state`. A call to the
API server or to a VAST cluster goes through `api`: it answers, fails, or takes effect with its
answer lost. The rest of a controller's state is the parameter `ρ` of `World`.
-/

namespace VastCsi.Ext.CsiAddons

open Lib Function

inductive ReplicationState where
  | primary | secondary | resync
  deriving DecidableEq, Repr

/-- `status.state`, unset until csi-addons reports one. -/
inductive ObservedState where
  | unset | primary | secondary | unknown
  deriving DecidableEq, Repr

structure Replication where
  spec : ReplicationState
  status : ObservedState
  deriving DecidableEq, Repr

def isConfirmedPrimary (r : Replication) : Bool := r.spec == .primary && r.status == .primary

structure ReplicationTarget where
  source : String
  destination : String
  peerName : String
  deriving DecidableEq, Repr

/-- `AllStorageClasses`: the classes of the topology, each once, sorted. -/
def allStorageClasses (topology : List ReplicationTarget) : List String :=
  (topology.flatMap fun t => [t.source, t.destination]).dedup.insertionSort (· ≤ ·)

def allStorageClassesPrimaryFirst (primary : String) (topology : List ReplicationTarget) :
    List String :=
  (allStorageClasses topology).insertionSort fun a b => a = primary ∨ (b ≠ primary ∧ a ≤ b)

def hasUnresolvedPeers (topology : List ReplicationTarget) : Bool := topology.any (·.peerName == "")

/-- `vrNameForSC`, `vgrNameForSC`: dots become dashes. -/
def nameForSC (owner scName : String) : String :=
  owner ++ "-" ++ String.ofList (scName.toList.map fun c => if c = '.' then '-' else c)

def isSource (role : String) : Bool := String.ofList (role.toList.map Char.toLower) == "source"

abbrev Objects := String → Option Replication

def confirmedIn (o : Objects) (owner scName : String) : Bool :=
  (o (nameForSC owner scName)).any isConfirmedPrimary

def setSpec (o : Objects) (name : String) (state : ReplicationState) : Objects :=
  update o name ((o name).map fun r => { r with spec := state })

inductive Cause where
  | notFound | unreachable | invalid | retryable | panicked | other
  deriving DecidableEq, Repr

/-- An error with what `errors.As` finds in it. -/
structure KErr where
  causes : List Cause
  text : String
  deriving DecidableEq, Repr

/-- `fmt.Errorf("…: %w", err)`. -/
def KErr.wrap (context : String) (e : KErr) : KErr := { e with text := context ++ ": " ++ e.text }

def KErr.isNetworkError (e : KErr) : Bool := e.causes.contains .unreachable

def KErr.isValidationError (e : KErr) : Bool := e.causes.contains .invalid

def KErr.isPermanentError (e : KErr) : Bool := !e.isNetworkError && !e.causes.contains .retryable

/-- `DeferredError.Error`. -/
def deferredText : List KErr → String
  | [e] => e.text
  | es => toString es.length ++ " errors occurred:" ++
      String.join (es.map fun e => "\n  - " ++ e.text)

/-- `DeferredError.Err`. -/
def deferredErr : List KErr → Option KErr
  | [] => none
  | es => some { causes := es.flatMap (·.causes), text := deferredText es }

/-- What can go wrong with a call whatever the state is. -/
inductive Fault where
  | unreachable | refused | notReady
  deriving DecidableEq, Repr

def Fault.err : Fault → KErr
  | .unreachable => ⟨[.unreachable], "connection refused"⟩
  | .refused => ⟨[.other], "the server rejected the request"⟩
  | .notReady => ⟨[.retryable], "not ready yet"⟩

/-! ## Calls over any state

For a procedure whose calls have each an outcome of their own. -/

section AnyState

variable {σ α : Type}

def call (fate : Fate Fault) (x : EStateM KErr σ α) : EStateM KErr σ α := remote Fault.err x fate

/-- `fmt.Errorf("...: %w", err)`: the error keeps its causes. -/
def withContext (context : String) (x : EStateM KErr σ α) : EStateM KErr σ α :=
  tryCatch x fun e => throw (e.wrap context)

def raiseDeferred (es : List KErr) : EStateM KErr σ Unit :=
  match deferredErr es with
  | none => pure ()
  | some e => throw e

variable {I K : σ → Prop} {Q : α → σ → Prop} {x : EStateM KErr σ α}

theorem meets_withContext {context : String} (hx : Meets I x Q (fun _ => K)) :
    Meets I (withContext context x) Q (fun _ => K) :=
  .tryCatch hx fun _ => .err

theorem meets_raiseDeferred {es : List KErr} :
    Meets I (raiseDeferred es) (fun _ w => I w ∧ es = []) (fun _ => I) := by
  unfold raiseDeferred
  cases es with
  | nil => exact .pure fun _ hw => ⟨hw, rfl⟩
  | cons e es => exact .err

theorem keeps_raiseDeferred {es : List KErr} : Keeps I (raiseDeferred es) :=
  meets_raiseDeferred.post (fun _ _ hw => hw.1)

/-- A call meets what its effect meets, when a fault is acceptable wherever the effect can stop. -/
theorem meets_call {fate : Fate Fault} (hI : ∀ c, I c → K c) (hQ : ∀ a c, Q a c → K c)
    (h : Meets I x Q (fun _ => K)) : Meets I (call fate x) Q (fun _ => K) :=
  Meets.remote (E := fun _ => K) (fun _ => hI) (fun _ => hQ) (fun _ _ _ hk => hk) h fate

/-- A call keeps what its effect keeps. -/
theorem keeps_call {fate : Fate Fault} (h : Keeps I x) : Keeps I (call fate x) :=
  meets_call (fun _ hc => hc) (fun _ _ hc => hc) h

theorem meets_lookup {fate : Fate Fault} {f : σ → α} :
    Meets I (call fate fun c => .ok (f c) c) (fun a c => I c ∧ a = f c) (fun _ => I) :=
  meets_call (fun _ hc => hc) (fun _ _ hc => hc.1) fun _ hc => ⟨hc, rfl⟩

end AnyState

/-- The objects, the calls made so far, and what else the controller keeps. -/
structure World (ρ : Type) where
  objs : Objects
  own : ρ
  calls : Nat := 0

abbrev Proc (ρ : Type) := EStateM KErr (World ρ)

/-- The fate of the `n`-th call. -/
abbrev Fates := Nat → Fate Fault

def steady : Fates := fun _ => .answered

section Calls

variable {ρ α : Type}

def World.tick (w : World ρ) : World ρ := { w with calls := w.calls + 1 }

def api (fates : Fates) (x : Proc ρ α) : Proc ρ α :=
  fun w => remote Fault.err x (fates w.calls) w.tick

def callOut (fates : Fates) (context : String) : Proc ρ Unit :=
  withContext context (api fates (pure ()))

def getObject (fates : Fates) (name : String) : Proc ρ (Option Replication) :=
  api fates fun w => .ok (w.objs name) w

/-- `client.Create`; whether it was there before. -/
def createObject (fates : Fates) (name : String) (r : Replication) : Proc ρ Bool :=
  api fates fun w =>
    match w.objs name with
    | some _ => .ok false w
    | none => .ok true { w with objs := update w.objs name (some r) }

/-- `EnsureVolumeReplication`, `EnsureVolumeGroupReplication`: whether the
object was created. -/
def ensureObject (fates : Fates) (name : String) (r : Replication) : Proc ρ Bool := do
  match ← getObject fates name with
  | some _ => pure false
  | none => createObject fates name r

def notFound (name : String) : KErr := ⟨[.notFound], s!"{name} not found"⟩

def patchSpec (fates : Fates) (name : String) (state : ReplicationState) : Proc ρ Unit :=
  api fates fun w => .ok () { w with objs := setSpec w.objs name state }

/-- `PatchVolumeReplicationState`, `PatchVolumeGroupReplicationState`. -/
def patchState (fates : Fates) (name : String) (state : ReplicationState) : Proc ρ Unit := do
  match ← getObject fates name with
  | none => throw (notFound name)
  | some fresh => if fresh.spec == state then pure () else patchSpec fates name state

/-- `ensureReplicationState`; `leave` says which objects a controller does not
touch. -/
def ensureState (leave : Replication → Bool) (fates : Fates) (name : String)
    (desired : ReplicationState) : Proc ρ Unit := do
  match ← withContext s!"failed to get {name}" (getObject fates name) with
  | none => throw ((notFound name).wrap s!"failed to get {name}")
  | some existing =>
    if existing.spec == desired || leave existing then pure ()
    else
      withContext s!"failed to patch replicationState on {name}" (patchState fates name desired)

/-- The first half of the split-brain pass: the classes whose object is
confirmed primary. A missing object is skipped. -/
def confirmedClasses (fates : Fates) (owner : String) : List String → Proc ρ (List String)
  | [] => pure []
  | scName :: scs => do
    let r ← withContext s!"failed to get the object of SC {scName}"
      (getObject fates (nameForSC owner scName))
    let rest ← confirmedClasses fates owner scs
    pure (if r.any isConfirmedPrimary then scName :: rest else rest)

end Calls

section Rules

variable {ρ α : Type} {fates : Fates} {I K : World ρ → Prop} {Q : α → World ρ → Prop}
  {name : String}

/-- An assertion that does not look at the number of calls. -/
def TickFree (I : World ρ → Prop) : Prop := ∀ w, I w → I w.tick

variable {x : Proc ρ α} {n : Nat} {context owner : String} {own : ρ} {leave : Replication → Bool}
  {desired : ReplicationState}

/-- A remote call meets what its effect meets, when a fault is acceptable wherever the effect can
stop. -/
theorem meets_api (ht : TickFree I) (hI : ∀ w, I w → K w) (hQ : ∀ a w, Q a w → K w)
    (hx : Meets I x Q (fun _ => K)) :
    Meets I (api fates x) Q (fun _ => K) :=
  fun w hw => Meets.remote (fun _ => hI) (fun _ => hQ) (fun _ _ _ h => h) hx
    (fates w.calls) w.tick (ht w hw)

/-- A remote call keeps what its effect keeps. -/
theorem keeps_api (ht : TickFree I) (hx : Keeps I x) : Keeps I (api fates x) :=
  meets_api ht (fun _ h => h) (fun _ _ h => h) hx

/-- With every call answered a remote call is its effect. -/
theorem meets_api_steady {E : KErr → World ρ → Prop} (ht : TickFree I) (hx : Meets I x Q E) :
    Meets I (api steady x) Q E :=
  fun w hw => hx w.tick (ht w hw)

/-- With the calls from some number on answered, a call after it is its effect. -/
theorem meets_api_answered {E : KErr → World ρ → Prop} (hall : ∀ k ≥ n, fates k = .answered)
    (hn : ∀ w, I w → n ≤ w.calls) (ht : TickFree I) (hx : Meets I x Q E) :
    Meets I (api fates x) Q E := by
  intro w hw
  rw [api, hall w.calls (hn w hw)]
  exact hx w.tick (ht w hw)

theorem keeps_callOut (ht : TickFree I) : Keeps I (callOut fates context) :=
  meets_withContext (keeps_api ht (keeps_pure _))

def At (own : ρ) (n : Nat) (w : World ρ) : Prop := w.own = own ∧ w.calls = n

/-- A call of known number. -/
theorem meets_api_at (hanswered : fates n = .answered → Meets (At own (n + 1)) x Q (fun _ => K))
    (hfailed : ∀ f, fates n = .failed f → ∀ w, At own (n + 1) w → K w)
    (hlost : ∀ f, fates n = .lost f → Meets (At own (n + 1)) x (fun _ => K) (fun _ => K)) :
    Meets (At own n) (api fates x) Q (fun _ => K) := by
  rintro w ⟨rfl, rfl⟩
  have hat : At w.own (w.calls + 1) w.tick := ⟨rfl, rfl⟩
  rw [api]
  cases hfate : fates w.calls with
  | answered => exact hanswered hfate w.tick hat
  | failed f => exact hfailed f hfate w.tick hat
  | lost f => exact (hlost f hfate).endState hat

/-- A call of known number that only reads. -/
theorem meets_read_at {f : ρ → α} (hK : ∀ w, w.own = own → K w) :
    Meets (At own n) (api fates fun w => .ok (f w.own) w)
      (fun a w => a = f own ∧ At own (n + 1) w ∧ fates n = .answered) (fun _ => K) :=
  meets_api_at (fun ha _ hw => ⟨by rw [hw.1], hw, ha⟩) (fun _ _ w hw => hK w hw.1)
    fun _ _ w hw => hK w hw.1

theorem meets_callOut_at (hK : ∀ w, w.own = own → K w) : Meets (At own n) (callOut fates context)
      (fun _ w => At own (n + 1) w ∧ fates n = .answered) (fun _ => K) :=
  meets_withContext (meets_api_at (fun ha => .pure fun _ hw => ⟨hw, ha⟩)
    (fun _ _ w hw => hK w hw.1) fun _ _ => .pure fun w hw => hK w hw.1)

theorem meets_getObject (ht : TickFree I) :
    Meets I (getObject fates name) (fun r w => I w ∧ r = w.objs name) (fun _ => I) :=
  meets_api ht (fun _ hw => hw) (fun _ _ hw => hw.1) fun _ hw => ⟨hw, rfl⟩

theorem keeps_getObject (ht : TickFree I) : Keeps I (getObject fates name) :=
  (meets_getObject ht).post (fun _ _ hw => hw.1)

/-- An object is there afterwards: it was before, or it is created. -/
theorem meets_ensureObject {r : Replication} {L : Bool → World ρ → Prop} (ht : TickFree I)
    (hthere : ∀ w r', I w → w.objs name = some r' → L false w)
    (hnew : ∀ w, I w → w.objs name = none → L true { w with objs := update w.objs name (some r) }) :
    Meets I (ensureObject fates name r) L (fun _ w => I w ∨ ∃ b, L b w) := by
  refine .bind ((meets_getObject ht).raise fun _ _ hw => .inl hw) fun found => ?_
  cases found with
  | some r' => exact .pure fun w hw => hthere w r' hw.1 hw.2.symm
  | none =>
    refine (meets_api ht (fun _ hw => .inl hw) (fun b _ hw => .inr ⟨b, hw⟩) ?_).pre
      (fun _ hw => hw.1)
    intro w hw
    dsimp only
    cases ho : w.objs name with
    | some r' => exact hthere w r' hw ho
    | none => exact hnew w hw ho

/-- The confirmed classes are those of the state, which is only read. -/
theorem meets_confirmedClasses {o : Objects} (ht : TickFree I) (ho : ∀ w, I w → w.objs = o) :
    ∀ {scs : List String}, Meets I (confirmedClasses fates owner scs)
      (fun cs w => I w ∧ cs = scs.filter (confirmedIn o owner)) (fun _ => I)
  | [] => .pure fun _ hw => ⟨hw, rfl⟩
  | scName :: scs => by
    refine .bind (meets_withContext (meets_getObject ht)) fun r => ?_
    refine .assuming (p := r = o (nameForSC owner scName))
      (fun w hw => by rw [hw.2, ho w hw.1]) fun hr => ?_
    subst hr
    refine .bind ((meets_confirmedClasses ht ho).preLeft) fun rest => ?_
    refine .pure fun w hw => ⟨hw.1, ?_⟩
    rw [List.filter_cons, hw.2]
    rfl

theorem keeps_confirmedClasses (ht : TickFree I) :
    ∀ {scs : List String}, Keeps I (confirmedClasses fates owner scs)
  | [] => keeps_pure _
  | _ :: _ =>
    .bind (meets_withContext (keeps_getObject ht)) fun _ =>
      .bind (keeps_confirmedClasses ht) fun _ => keeps_pure _

theorem confirmedClasses_steady :
    ∀ {scs : List String}, Finishes (fun _ : World ρ => True) (confirmedClasses steady owner scs)
      (fun _ _ => True)
  | [] => .pure fun _ _ => trivial
  | _ :: _ =>
    .bind (meets_withContext (meets_api_steady (fun _ _ => trivial) fun _ _ => trivial))
      fun _ => .bind confirmedClasses_steady fun _ => .pure fun _ _ => trivial

/-- The patch of the desired state, from an object whose state is another. -/
theorem meets_patchState {state : ReplicationState} (ht : TickFree I)
    (hsame : ∀ w r, I w → w.objs name = some r → r.spec = state → K w)
    (hset : ∀ w r, I w → w.objs name = some r → r.spec ≠ state →
      K { w with objs := setSpec w.objs name state }) :
    Meets I (patchState fates name state) (fun _ => K) (fun _ w => I w ∨ K w) := by
  refine .bind ((meets_getObject ht).raise fun _ _ hw => .inl hw) fun fresh => ?_
  cases fresh with
  | none => exact .throw fun _ hw => .inl hw.1
  | some r =>
    dsimp only
    split
    next hs => exact .pure fun w hw => hsame w r hw.1 hw.2.symm (beq_iff_eq.mp hs)
    next hs =>
      rw [beq_iff_eq] at hs
      have ht' : TickFree fun w : World ρ => I w ∧ some r = w.objs name :=
        fun w hw => ⟨ht w hw.1, hw.2⟩
      exact meets_api ht' (fun _ hw => .inl hw.1) (fun _ _ hw => .inr hw)
        fun w hw => hset w r hw.1 hw.2.symm hs

/-- `ensureState` ends with the desired state or with an object that is left
alone. It fails before the patch, or with its answer lost. -/
theorem meets_ensureState (ht : TickFree I)
    (hdone : ∀ w r, I w → w.objs name = some r → r.spec = desired ∨ leave r = true → K w)
    (hset : ∀ w r, I w → w.objs name = some r → leave r = false →
      K { w with objs := setSpec w.objs name desired }) :
    Meets I (ensureState leave fates name desired) (fun _ => K) (fun _ w => I w ∨ K w) := by
  refine .bind (meets_withContext ((meets_getObject ht).raise fun _ _ hw => .inl hw)) fun r => ?_
  cases r with
  | none => exact .throw fun _ hw => .inl hw.1
  | some r =>
    dsimp only
    split
    next hkeep =>
      rw [Bool.or_eq_true, beq_iff_eq] at hkeep
      exact .pure fun w hw => hdone w r hw.1 hw.2.symm hkeep
    next hchange =>
      rw [Bool.or_eq_true, beq_iff_eq, not_or, Bool.not_eq_true] at hchange
      have ht' : TickFree fun w : World ρ => I w ∧ some r = w.objs name :=
        fun w hw => ⟨ht w hw.1, hw.2⟩
      have hpatch : Meets (fun w : World ρ => I w ∧ some r = w.objs name)
          (patchState fates name desired) (fun _ => K) (fun _ w => I w ∨ K w) := by
        refine (meets_patchState ht' ?_ ?_).raise (fun _ _ hw => hw.imp_left And.left)
        · exact fun w r' hw hr' hs => hdone w r' hw.1 hr' (.inl hs)
        · intro w r' hw hr' _
          -- nobody else writes between the two reads
          have hrr : r = r' := by
            rw [hr', Option.some.injEq] at hw
            exact hw.2
          exact hset w r' hw.1 hr' (hrr ▸ hchange.2)
      exact meets_withContext hpatch

/-- `ensureState` keeps what its one patch keeps. -/
theorem keeps_ensureState (ht : TickFree I)
    (hset : ∀ w r, I w → w.objs name = some r → leave r = false →
      I { w with objs := setSpec w.objs name desired }) :
    Keeps I (ensureState leave fates name desired) :=
  (meets_ensureState ht (fun _ _ hw _ _ => hw) hset).raise (fun _ _ hw => hw.elim id id)

theorem keeps_ensureObject {r : Replication} (ht : TickFree I)
    (hnew : ∀ w, I w → w.objs name = none → I { w with objs := update w.objs name (some r) }) :
    Keeps I (ensureObject fates name r) :=
  (meets_ensureObject ht (fun _ _ hw _ => hw) hnew).raise (fun _ _ hw => hw.elim id fun ⟨_, h⟩ => h)

/-- With every call answered `ensureState` of an object that is there does not fail. -/
theorem ensureState_steady :
    Finishes (fun w : World ρ => (w.objs name).isSome = true)
      (ensureState leave steady name desired) (fun _ _ => True) := by
  have hget : Finishes (fun w : World ρ => (w.objs name).isSome = true) (getObject steady name)
      (fun r w => r.isSome = true ∧ (w.objs name).isSome = true) :=
    meets_api_steady (fun _ hw => hw) fun _ hw => ⟨hw, hw⟩
  refine .bind (meets_withContext hget) fun r => ?_
  cases r with
  | none => exact .throw fun _ hw => absurd hw.1 (by decide)
  | some r =>
    dsimp only
    split
    next => exact .pure fun _ _ => trivial
    next =>
      refine meets_withContext (.bind (hget.pre fun _ hw => hw.2) fun fresh => ?_)
      cases fresh with
      | none => exact .throw fun _ hw => absurd hw.1 (by decide)
      | some fresh =>
        dsimp only
        split
        next => exact .pure fun _ _ => trivial
        next => exact meets_api_steady (fun _ hw => hw) fun _ _ => trivial

end Rules

end VastCsi.Ext.CsiAddons
