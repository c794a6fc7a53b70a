import VastCsi.Vms.Session

/-!
# The mounts of a target path

What is mounted at a path is a stack: a tmpfs that holds the metadata file, and the volume over
it. An unmount pops one entry, and a file is looked up in the topmost one. A block device at
`<target>/device` lives in the topmost tmpfs and keeps it busy.

Everything a node handler does outside its process is a `Command`, and each command has a fate: it
answers, it fails without effect, or it takes effect and fails. A fault is a failure, a timeout or
the death of the process, which no `except` clause sees.
-/

namespace VastCsi.Csi.Node

open Lib

/-- `.vast-csi-meta` as `_store_meta_file` writes it. -/
structure Meta where
  volumeId : String
  isEphemeral : Bool := false
  hasMtls : Bool := false
  bucketName : Option String := none
  deriving DecidableEq, Repr

/-- The metadata file of a tmpfs; it is `torn` between `open` and the end of
`json.dump`. -/
inductive MetaFile where
  | absent
  | torn
  | whole (m : Meta)
  deriving DecidableEq, Repr

inductive Layer where
  | tmpfs (file : MetaFile)
  | volume (source : String) (readonly : Bool)
  deriving DecidableEq, Repr

def Layer.isTmpfs : Layer → Bool
  | .tmpfs _ => true
  | .volume _ _ => false

structure Target where
  dir : Bool := false
  layers : List Layer := []
  /-- A device is bound at `<target>/device`. -/
  device : Bool := false
  deriving DecidableEq, Repr

/-- What the handlers of a node work on, over the state `β` of the backend. -/
structure State (β : Type) where
  target : String → Target
  keyring : List String
  backend : β

structure World (β : Type) extends State β where
  calls : Nat := 0

def emptyNode : World Unit := { target := fun _ => {}, keyring := [], backend := () }

def World.tick {β : Type} (w : World β) : World β := { w with calls := w.calls + 1 }

def World.setTarget {β : Type} (w : World β) (t : String) (target : Target) : World β :=
  { w with target := fun u => if u = t then target else w.target u }

inductive Command where
  | prepare | isDir | getMount | mkdir | mountTmpfs | openMeta | writeMeta | chmodMeta
  | searchKey | addKey | setPerm | unlinkKey | mountVolume | deleteMeta
  | pathExists | umount | metaExists | readMeta | openMetaSession | removeMeta | umountTmpfs
  | rmdir | umountDevice | luksClose | removeDevice | removePath
  deriving DecidableEq, Repr

inductive Fault where
  | failed
  | timedOut
  | crash
  deriving DecidableEq, Repr

inductive Code where
  | alreadyExists | failedPrecondition | unknown
  deriving DecidableEq, Repr

inductive Err where
  | crash
  | abort (code : Code) (message : String)
  | umountTimedOut
  | mountFailed
  | processError
  | osError (text : String)
  | timeoutError
  | jsonDecodeError
  | runtimeError
  | exception (message : String)
  /-- Raised by the controller that deletes an ephemeral volume. -/
  | backend (cause : Vms.Err)
  deriving DecidableEq, Repr

def Fault.err (c : Command) : Fault → Err
  | .crash => .crash
  | .timedOut =>
    match c with
    | .umount | .umountTmpfs | .umountDevice => .umountTimedOut
    | .mountTmpfs | .mountVolume => .mountFailed
    | _ => .timeoutError
  | .failed =>
    match c with
    | .umount | .umountTmpfs | .umountDevice => .processError
    | .mountTmpfs | .mountVolume => .mountFailed
    | .addKey | .setPerm => .runtimeError
    | _ => .osError ""

/-- What the outside decides: the fate of a command that is the `n`-th one run. -/
structure Env where
  fate : Command → Nat → Fate Fault

def Env.steady : Env := ⟨fun _ _ => .answered⟩

def Env.Answers (env : Env) (c : Command) : Prop := ∀ n, env.fate c n = .answered

/-- The command fails only when the process dies. -/
def Env.OnlyDies (env : Env) (c : Command) : Prop :=
  ∀ n f, env.fate c n = .failed f ∨ env.fate c n = .lost f → f = .crash

/-- A failure of the command means that it had no effect. -/
def Env.NotLost (env : Env) (c : Command) : Prop := ∀ n f, env.fate c n ≠ .lost f

abbrev Call (β : Type) := EStateM Err (World β)

section

variable {α β : Type} (env : Env)

def command (c : Command) (x : Call β α) : Call β α :=
  fun w => remote (Fault.err c) x (env.fate c w.calls) w.tick

/-- `except Exception`: the death of the process is not caught. -/
def catching (x : Call β α) (h : Err → Call β α) : Call β α :=
  tryCatch x fun
    | .crash => throw .crash
    | e => h e

def onTarget (t : String) (f : Target → Except Err (α × Target)) : Call β α := fun w =>
  match f (w.target t) with
  | .ok (a, target) => .ok a (w.setTarget t target)
  | .error e => .error e w

def readTarget (t : String) (f : Target → α) : Call β α := fun w => .ok (f (w.target t)) w

def changeTarget (t : String) (f : Target → Target) : Call β Unit :=
  fun w => .ok () (w.setTarget t (f (w.target t)))

/-- `os.path.isdir` and `os.path.exists` answer "no" when they cannot look. A timeout is raised.
-/
def probe (c : Command) (x : Call β Bool) : Call β Bool :=
  tryCatch (command env c x) fun
    | .osError _ => pure false
    | e => throw e

end

namespace Target

def volumeMount (target : Target) : Option (String × Bool) :=
  target.layers.findSome? fun
    | .volume source readonly => some (source, readonly)
    | .tmpfs _ => none

def push (layer : Layer) (target : Target) : Target :=
  { target with layers := layer :: target.layers }

/-- `umount` and `umount -l`; whether something was unmounted. A bound device
keeps its tmpfs busy, and goes with it when the unmount is lazy. -/
def umount (isLazy : Bool) (target : Target) : Except Err (Bool × Target) :=
  match target.layers with
  | [] => .ok (false, target)
  | .volume _ _ :: rest => .ok (true, { target with layers := rest })
  | .tmpfs _ :: rest =>
    if target.device && !isLazy then .error .processError
    else .ok (true, { target with layers := rest, device := false })

/-- `umount -t tmpfs`: only when the topmost mount is one. -/
def umountTmpfs (target : Target) : Except Err (Bool × Target) :=
  match target.layers with
  | .tmpfs _ :: _ => target.umount false
  | _ => .ok (false, target)

/-- The metadata file that the path shows; a volume has none of its own. -/
def metaFile (target : Target) : MetaFile :=
  match target.layers with
  | .tmpfs file :: _ => file
  | _ => .absent

def setMeta (file : MetaFile) (target : Target) : Target :=
  match target.layers with
  | .tmpfs _ :: rest => { target with layers := .tmpfs file :: rest }
  | _ => target

def rmdir (target : Target) : Except Err (Unit × Target) :=
  if !target.dir then .error (.osError "No such file or directory")
  else if !target.layers.isEmpty then .error (.osError "Device or resource busy")
  else .ok ((), { target with dir := false })

end Target

theorem mem_of_metaFile {target : Target} {m : Meta} (h : target.metaFile = .whole m) :
    .tmpfs (.whole m) ∈ target.layers := by
  obtain ⟨dir, layers, device⟩ := target
  match layers with
  | [] => cases h
  | .volume _ _ :: _ => cases h
  | .tmpfs file :: ls =>
    have hfile : file = .whole m := h
    exact hfile ▸ List.mem_cons_self

theorem volumeMount_eq_none_iff {target : Target} :
    target.volumeMount = none ↔ target.layers.all Layer.isTmpfs = true := by
  unfold Target.volumeMount
  rw [List.findSome?_eq_none_iff, List.all_eq_true]
  constructor
  · intro h l hl
    have := h l hl
    cases l with
    | tmpfs file => rfl
    | volume source readonly => cases this
  · intro h l hl
    have := h l hl
    cases l with
    | tmpfs file => rfl
    | volume source readonly => cases this

section

variable {β : Type} (env : Env) (t : String)

def getVolumeMount : Call β (Option (String × Bool)) :=
  command env .getMount (readTarget t Target.volumeMount)

def umount (isLazy : Bool) : Call β Bool := command env .umount (onTarget t (·.umount isLazy))

def umountTmpfs : Call β Bool := command env .umountTmpfs (onTarget t Target.umountTmpfs)

structure Conf where
  unmountAttempts : Nat := 10
  mountUmountTimeout : Nat := 90
  forceLazyUmountOnTimeout : Bool := false

/-- Unmount something; a timeout is answered with a lazy unmount when the
configuration says so. -/
def orForce (conf : Conf) (path : String) (unmount : Bool → Call β Bool) : Call β Unit :=
  tryCatch (do let _ ← unmount false) fun
    | .umountTimedOut =>
      if conf.forceLazyUmountOnTimeout then do let _ ← unmount true
      else throw (.abort .unknown
        s!"umount timed out after {conf.mountUmountTimeout}s for path: {path}")
    | e => throw e

def umountOrForce (conf : Conf) : Call β Unit := orForce conf t (umount env t)

end

section

variable {β : Type} (env : Env)

def certKeyName (volumeId : String) : String := "vast-client-cert-" ++ volumeId

def privkeyKeyName (volumeId : String) : String := "vast-client-privkey-" ++ volumeId

/-- `search_in_keyring`; a failed search has found nothing. -/
def searchInKeyring (name : String) : Call β Bool :=
  probe env .searchKey fun w => .ok (w.keyring.contains name) w

def loadPemToKeyring (name : String) : Call β Unit := do
  if ← searchInKeyring env name then pure ()
  else
    command env .addKey (modify fun w =>
      { w with keyring := if w.keyring.contains name then w.keyring else name :: w.keyring })
    command env .setPerm (pure ())

/-- `delete_from_keyring`; a failed `keyctl unlink` is ignored. -/
def deleteFromKeyring (name : String) : Call β Unit := do
  if ← searchInKeyring env name then
    tryCatch (command env .unlinkKey (modify fun w =>
        { w with keyring := w.keyring.filter (· != name) }))
      fun
        | .osError _ => pure ()
        | e => throw e

def loadMtlsCredentials (volumeId : String) : Call β Unit := do
  loadPemToKeyring env (certKeyName volumeId)
  loadPemToKeyring env (privkeyKeyName volumeId)

def deleteMtlsCredentials (volumeId : String) : Call β Unit := do
  deleteFromKeyring env (certKeyName volumeId)
  deleteFromKeyring env (privkeyKeyName volumeId)

end

section Rules

variable {α β : Type} {env : Env}

def holds (J : State β → Prop) (w : World β) : Prop := J w.toState

abbrev NodeMeets (J : State β → Prop) (x : Call β α) (Q : α → State β → Prop)
    (I : State β → Prop) : Prop :=
  Meets (holds J) x (fun a => holds (Q a)) fun _ => holds I

def State.setTarget (s : State β) (t : String) (target : Target) : State β :=
  { s with target := fun u => if u = t then target else s.target u }

theorem State.setTarget_same (s : State β) (t : String) (target : Target) :
    (s.setTarget t target).target t = target := by
  simp [State.setTarget]

variable {t : String} {c : Command} {x : Call β α} {J : State β → Prop} {Q : α → World β → Prop}
  {E : Err → World β → Prop}

theorem State.setTarget_other (s : State β) {u : String} (h : u ≠ t) (target : Target) :
    (s.setTarget t target).target u = s.target u := by
  simp [State.setTarget, h]

/-- A command does what its effect does, or its fault is raised where the
effect did not start or where it ended. -/
theorem meets_command (hfailed : ∀ f n, env.fate c n = .failed f → ∀ w, holds J w → E (f.err c) w)
    (hlost : ∀ f n, env.fate c n = .lost f →
      (∀ a w, Q a w → E (f.err c) w) ∧ ∀ e w, E e w → E (f.err c) w) (hx : Meets (holds J) x Q E) :
    Meets (holds J) (command env c x) Q E := by
  intro w hw
  unfold command
  cases hfate : env.fate c w.calls with
  | answered => exact hx w.tick hw
  | failed f => exact hfailed f w.calls hfate w.tick hw
  | lost f =>
    have h := (hx.weaken (fun _ hs => hs) (hlost f w.calls hfate).1
      (hlost f w.calls hfate).2).endState (I := E (f.err c)) (s := w.tick) hw
    exact h

/-- A command whose effect keeps an assertion, whatever its fate. -/
theorem keeps_command (hx : Keeps (holds J) x) : Keeps (holds J) (command env c x) :=
  meets_command (fun _ _ _ _ hw => hw) (fun _ _ _ => ⟨fun _ _ hw => hw, fun _ _ hw => hw⟩) hx

/-- A command that answers does what its effect does. -/
theorem meets_command_answered (hanswered : ∀ n, env.fate c n = .answered)
    (hx : Meets (holds J) x Q E) :
    Meets (holds J) (command env c x) Q E := by
  refine meets_command (fun f n h => ?_) (fun f n h => ?_) hx
  · rw [hanswered n] at h; cases h
  · rw [hanswered n] at h; cases h

theorem meets_catching {P : World β → Prop} {h : Err → Call β α} {F : Err → World β → Prop}
    (hx : Meets P x Q F) (hcrash : ∀ w, F .crash w → E .crash w)
    (hh : ∀ e, e ≠ .crash → Meets (F e) (h e) Q E) : Meets P (catching x h) Q E := by
  refine .tryCatch hx fun e => ?_
  cases e with
  | crash => exact .throw hcrash
  | _ => exact hh _ (by simp)

theorem meets_readTarget {f : Target → α} :
    Meets (holds J) (readTarget t f) (fun a w => holds J w ∧ a = f (w.target t)) E :=
  fun _ hw => ⟨hw, rfl⟩

theorem keeps_readTarget {f : Target → α} : Keeps (holds J) (readTarget t f) := fun _ hw => hw

/-- A change of one target path. -/
theorem meets_changeTarget {K : State β → Prop} {f : Target → Target}
    (h : ∀ s, J s → K (s.setTarget t (f (s.target t)))) :
    Meets (holds J) (changeTarget t f) (fun _ => holds K) E :=
  fun w hw => h w.toState hw

theorem meets_onTarget {K : α → State β → Prop} {f : Target → Except Err (α × Target)}
    (hok : ∀ s a target, J s → f (s.target t) = .ok (a, target) → K a (s.setTarget t target))
    (herr : ∀ w e, holds J w → f (w.target t) = .error e → E e w) :
    Meets (holds J) (onTarget t f) (fun a => holds (K a)) E := by
  intro w hw
  unfold onTarget
  cases hf : f (w.target t) with
  | ok r => exact hok w.toState r.1 r.2 hw hf
  | error e => exact herr w e hw hf

/-- A question keeps what looking keeps. -/
theorem keeps_probe {x : Call β Bool} (hx : Keeps (holds J) x) :
    Keeps (holds J) (probe env c x) := by
  refine .tryCatch (F := fun _ => holds J) (keeps_command hx) fun e => ?_
  split
  next => exact .ret
  next => exact .err

/-- A command that only reads answers truthfully or not at all. -/
theorem meets_read (f : Target → α) : Meets (holds J) (command env c (readTarget t f))
      (fun a w => holds J w ∧ a = f (w.target t)) (fun _ => holds J) :=
  meets_command (fun _ _ _ _ hw => hw) (fun _ _ _ => ⟨fun _ _ hw => hw.1, fun _ _ hw => hw⟩)
    meets_readTarget

def Env.Honest (env : Env) (c : Command) : Prop :=
  ∀ n, env.fate c n ≠ .failed .failed ∧ env.fate c n ≠ .lost .failed

theorem meets_probe_honest (hc : ∀ f : Fault, f ≠ .failed → ∀ text, f.err c ≠ .osError text)
    (henv : env.Honest c) (f : Target → Bool) :
    Meets (holds J) (probe env c (readTarget t f))
      (fun a w => holds J w ∧ a = f (w.target t)) (fun _ => holds J) := by
  refine .tryCatch (F := fun e w => holds J w ∧ ∀ text, e ≠ .osError text) ?_ fun e => ?_
  · refine meets_command (fun φ n h w hw => ⟨hw, hc φ ?_⟩)
      (fun φ n h => ⟨fun a w hw => ⟨hw.1, hc φ ?_⟩, fun e w hw => ⟨hw.1, hc φ ?_⟩⟩)
      meets_readTarget
    · rintro rfl; exact (henv n).1 h
    · rintro rfl; exact (henv n).2 h
    · rintro rfl; exact (henv n).2 h
  · split
    next text => exact fun w hw => absurd rfl (hw.2 text)
    next => exact .throw fun _ hw => hw.1

section Keyring

variable {J : State β → Prop} (hJ : ∀ s keyring, J s → J { s with keyring := keyring })
include hJ

/-- What does not depend on the keyring is kept by what works on it. -/
theorem keeps_deleteFromKeyring (name : String) : Keeps (holds J) (deleteFromKeyring env name) := by
  refine .bind (Q := fun _ => holds J) (keeps_probe fun _ hw => hw) fun found => ?_
  cases found with
  | false => exact .ret
  | true =>
    refine .tryCatch (F := fun _ => holds J)
      (keeps_command fun w hw => hJ w.toState _ hw) fun e => ?_
    split
    next => exact .ret
    next => exact .err

theorem keeps_deleteMtlsCredentials (volumeId : String) :
    Keeps (holds J) (deleteMtlsCredentials env volumeId) :=
  .bind (keeps_deleteFromKeyring hJ _) fun _ => keeps_deleteFromKeyring hJ _

end Keyring

end Rules

end VastCsi.Csi.Node
