import VastCsi.Lib.Proc
import VastCsi.Vms.State

/-!
# Calls to a VMS session

A handler is a procedure over `World`: the cluster, the locks of the process, and a ghost record
of what was deleted and in which state. Every remote call goes through `request`, which looks up
its fate: the call answers, fails without effect, or takes effect and its answer is lost. What the
server says *about its objects* comes from the state. Commands on the controller's own host
(`hostCommand`) fail in their own ways.
-/

namespace VastCsi.Vms

open Lib

inductive Code where
  | aborted | notFound | alreadyExists | invalidArgument | failedPrecondition
  deriving DecidableEq, Repr

inductive Err where
  | abort (code : Code) (message : String)
  /-- `exceptions.ApiError`: HTTP 400 and 503. -/
  | apiError (status : Nat) (text : String)
  /-- `requests` `HTTPError`: the other HTTP errors. -/
  | httpError (status : Nat) (text : String)
  | connectionError
  | operationNotSupported (op : String)
  /-- `CannotUseTrashAPI`, a subclass of `OperationNotSupported`. -/
  | cannotUseTrashAPI (reason : String)
  | noRecordsFound (k : Kind)
  /-- `one` found several entries. -/
  | tooMany (k : Kind)
  | assertion (message : String)
  | fileNotFound
  | osError (text : String)
  | mountFailed
  | processError
  | exception (message : String)
  deriving DecidableEq, Repr

def Err.isAbort : Err → Bool
  | .abort _ _ => true
  | _ => false

def Err.notSupported : Err → Bool
  | .operationNotSupported _ => true
  | .cannotUseTrashAPI _ => true
  | _ => false

def Err.isOSError : Err → Bool
  | .osError _ => true
  | _ => false

/-- What can go wrong with a remote call whatever the state is. -/
inductive Fault where
  /-- HTTP 400 "Volume is mapped to hosts". -/
  | mapped
  /-- HTTP 409 with "not empty". -/
  | notEmpty
  | badRequest
  | unavailable
  | serverError
  | connection
  deriving DecidableEq, Repr

/-- How a fault is raised by `RESTSession.request`. -/
def Fault.err : Fault → Err
  | .mapped => .apiError 400 "Volume is mapped to hosts"
  | .notEmpty => .httpError 409 "not empty"
  | .badRequest => .apiError 400 ""
  | .unavailable => .apiError 503 ""
  | .serverError => .httpError 500 ""
  | .connection => .connectionError

/-- A fault is never taken for a missing entry, an unsupported call or a
local error. -/
theorem Fault.err_plain (f : Fault) : f.err.notSupported = false ∧ f.err.isOSError = false ∧
      ∀ text, f.err ≠ .httpError 404 text := by
  cases f <;> exact ⟨rfl, rfl, fun _ h => by cases h⟩

/-- What can go wrong with a command on the controller's host. -/
inductive HostFault where
  | mountFailed | processError | fileNotFound | dirNotEmpty | ioError
  deriving DecidableEq, Repr

def HostFault.err : HostFault → Err
  | .mountFailed => .mountFailed
  | .processError => .processError
  | .fileNotFound => .fileNotFound
  | .dirNotEmpty => .osError "Directory not empty"
  | .ioError => .osError "Input/output error"

/-- What the outside decides: the fate of the `n`-th remote call and of the
`n`-th host command, what a stopped stream turns into (`none` when the
cluster collects it), and the timer that keeps the driver off the trash API
after a refusal. -/
structure Env where
  fate : Nat → Fate Fault
  host : Nat → Fate HostFault
  afterStop : Nat → Option StreamState
  /-- `CONF.avoid_trash_api.expired` when it is read. -/
  trashTimerExpired : Bool
  /-- Whether a stream that is waited for from the `n`-th call on completes
  before the timeout. -/
  streamCompletes : Nat → Bool := fun _ => true

/-- Nothing goes wrong; a stopped stream is collected. -/
def Env.steady : Env where
  fate := fun _ => .answered
  host := fun _ => .answered
  afterStop := fun _ => none
  trashTimerExpired := true

structure Deletion where
  kind : Kind
  id : Nat
  before : Cluster

structure World where
  vms : Cluster
  /-- Remote calls and host commands made so far. -/
  calls : Nat := 0
  /-- The keys of `resource_locked` in use, with the holder's message. -/
  locks : List (String × String) := []
  mounted : Bool := false
  /-- Ghost: rows deleted so far, the last one first. -/
  deleted : List Deletion := []

abbrev Call := EStateM Err World

def World.tick (w : World) : World := { w with calls := w.calls + 1 }

def request {α : Type} (env : Env) (x : Call α) : Call α :=
  fun w => remote Fault.err x (env.fate w.calls) w.tick

def hostCommand {α : Type} (env : Env) (x : Call α) : Call α :=
  fun w => remote HostFault.err x (env.host w.calls) w.tick

def modifyVms (f : Cluster → Cluster) : Call Unit := fun w => .ok () { w with vms := f w.vms }

def readVms {α : Type} (f : Cluster → α) : Call α := fun w => .ok (f w.vms) w

section Rules

variable {α : Type} {env : Env} {J : Cluster → Prop}

/-- What holds of the cluster, as an assertion about the world. -/
def onVms (J : Cluster → Prop) (w : World) : Prop := J w.vms

abbrev VmsMeets (J : Cluster → Prop) (x : Call α) (Q : α → Cluster → Prop)
    (I : Cluster → Prop) : Prop :=
  Meets (onVms J) x (fun a => onVms (Q a)) fun _ => onVms I

/-- The exceptional exit of a procedure that only talks to the cluster: `J`
still holds, and the error is not a local one. -/
def raised (J : Cluster → Prop) (e : Err) (w : World) : Prop := J w.vms ∧ e.isOSError = false

variable {x : Call α} {Q : α → World → Prop}

/-- A remote call meets what its effect meets, when a fault is an
acceptable exit wherever the effect can stop. -/
theorem meets_request_of {E : Err → World → Prop} (hP : ∀ (f : Fault) w, onVms J w → E f.err w)
    (hQ : ∀ (f : Fault) a w, Q a w → E f.err w) (hE : ∀ (f : Fault) e w, E e w → E f.err w)
    (hx : Meets (onVms J) x Q E) : Meets (onVms J) (request env x) Q E :=
  fun w hw => Meets.remote hP hQ hE hx (env.fate w.calls) w.tick hw

/-- A remote call keeps what its effect keeps. -/
theorem meets_request (hQ : ∀ a w, Q a w → onVms J w) (hx : Meets (onVms J) x Q (raised J)) :
    Meets (onVms J) (request env x) Q (raised J) :=
  meets_request_of (fun f _ h => ⟨h, f.err_plain.2.1⟩)
    (fun f a w h => ⟨hQ a w h, f.err_plain.2.1⟩) (fun f _ _ h => ⟨h.1, f.err_plain.2.1⟩) hx

/-- A remote call under an assertion about the whole world, which must not
look at the number of calls. -/
theorem meets_request_world {P I : World → Prop} (htick : ∀ w, P w → P w.tick) (hP : ∀ w, P w → I w)
    (hQ : ∀ a w, Q a w → I w) (hx : Meets P x Q (fun _ => I)) :
    Meets P (request env x) Q (fun _ => I) :=
  fun w hw => Meets.remote (fun _ => hP) (fun _ => hQ) (fun _ _ _ h => h) hx
    (env.fate w.calls) w.tick (htick w hw)

/-- A host command keeps what its effect keeps. -/
theorem meets_hostCommand (hQ : ∀ a w, Q a w → onVms J w)
    (hx : Meets (onVms J) x Q (fun _ => onVms J)) :
    Meets (onVms J) (hostCommand env x) Q (fun _ => onVms J) :=
  fun w hw => Meets.remote (E := fun _ => onVms J) (fun _ _ h => h) (fun _ => hQ)
    (fun _ _ _ h => h) hx (env.host w.calls) w.tick hw

end Rules

end VastCsi.Vms
