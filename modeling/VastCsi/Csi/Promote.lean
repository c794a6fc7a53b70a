import VastCsi.Vms.Session

/-!
# `PromoteVolume` of the replication controllers

A promotion looks the protected path up, waits until it is ready, and then commands a failover, a
forced failover or nothing, after the role of the path. Roles and states evolve meanwhile
(`Env.path`: what the `n`-th request sees), and the role that decides is the one of the lookup,
from *before* the wait.

The second half of a call is a function of the role that was found (`afterWait_did`): nothing for
a transitional one, a failover for a `DESTINATION`, a forced one for a `STANDALONE` when the action
is ungraceful, and for a `SOURCE` success, after the path is enabled. What was done fits the role
after the wait exactly when the wait has left what it was done for (`held_iff`).
-/

namespace VastCsi.Csi.Promote

open Lib EStateM
open VastCsi.Vms (Err Fault)

inductive Role where
  | source | destination | standalone | invalid | na
  | becomingSource | becomingStandalone | becomingDestination
  | gracefullyBecomingDestination | gracefullyBecomingSource
  | becomingSourceAskForSource | becomingSourceAttachingMembers
  | becomingSourceFailingOverStandbyPeers | becomingSourceGracefullyFailingOver
  | unknown
  deriving DecidableEq, Repr

namespace Role

def members : List Role :=
  [source, destination, standalone, invalid, na, becomingSource, becomingStandalone,
    becomingDestination, gracefullyBecomingDestination, gracefullyBecomingSource,
    becomingSourceAskForSource, becomingSourceAttachingMembers,
    becomingSourceFailingOverStandbyPeers, becomingSourceGracefullyFailingOver, unknown]

def name : Role → String
  | source => "SOURCE"
  | destination => "DESTINATION"
  | standalone => "STANDALONE"
  | invalid => "INVALID"
  | na => "NA"
  | becomingSource => "BECOMING_SOURCE"
  | becomingStandalone => "BECOMING_STANDALONE"
  | becomingDestination => "BECOMING_DESTINATION"
  | gracefullyBecomingDestination => "GRACEFULLY_BECOMING_DESTINATION"
  | gracefullyBecomingSource => "GRACEFULLY_BECOMING_SOURCE"
  | becomingSourceAskForSource => "BECOMING_SOURCE_ASK_FOR_SOURCE"
  | becomingSourceAttachingMembers => "BECOMING_SOURCE_ATTACHING_MEMBERS"
  | becomingSourceFailingOverStandbyPeers => "BECOMING_SOURCE_FAILING_OVER_STANDBY_PEERS"
  | becomingSourceGracefullyFailingOver => "BECOMING_SOURCE_GRACEFULLY_FAILING_OVER"
  | unknown => "UNKNOWN"

def value : Role → String
  | na => "N/A"
  | r => r.name

/-- `str.upper` of a character, as far as it gives letters of ASCII. -/
def upperChar (c : Char) : List Char :=
  if c = '\u0131' then ['I']
  else if c = '\u017f' then ['S']
  else if c = '\u00df' then ['S', 'S']
  else if c = '\ufb05' ∨ c = '\ufb06' then ['S', 'T']
  else [c.toUpper]

def upper (s : String) : String := String.ofList (s.toList.flatMap upperChar)

def underscored (s : String) : String :=
  String.ofList (s.toList.map fun c => if c = ' ' then '_' else c)

/-- `from_string`: the member of that *name*, and `UNKNOWN` for anything else. -/
def fromString (value : String) : Role :=
  if value = "" then unknown
  else if upper value = "N/A" then na
  else (members.find? (·.name == underscored (upper value))).getD unknown

def isTransitional (r : Role) : Bool := Text.contains r.value "BECOMING"

end Role

inductive Action where
  | ungraceful | graceful
  deriving DecidableEq, Repr

/-- The fields of a protected path that a promotion reads; absent texts are empty. -/
structure Ppath where
  id : Nat
  role : String
  state : String
  protectedPathState : String
  failureReason : String
  enabled : Bool
  deriving DecidableEq, Repr

inductive Command where
  | failover (graceful : Bool)
  | forceFailover
  | setEnabled (enabled : Bool)
  deriving DecidableEq, Repr

structure Env where
  /-- The path as the `n`-th request sees it, `none` while there is none of the name. -/
  path : Nat → Option Ppath
  fate : Nat → Fate Fault
  /-- The polls after the first one until the lookup, or the wait for the state, gives up. -/
  lookups : Nat
  polls : Nat
  /-- The failover type that the operator reports for the StorageClass. -/
  failoverType : Except Err (Option String)
  /-- The message of the operation that has the lock of the source, if there is one. -/
  locked : Option String
  str : Err → String

structure PromoteReq where
  session : String
  identifier : Except Err String
  ppathName : Option String
  storageClass : Option String

structure World where
  calls : Nat
  log : List Command
  deriving DecidableEq, Repr

abbrev Call (α : Type) := EStateM Err World α

def readPath (env : Env) : Call (Option Ppath) := fun w =>
  remote Fault.err (pure (env.path w.calls)) (env.fate w.calls) { w with calls := w.calls + 1 }

def send (env : Env) (c : Command) : Call Unit := fun w =>
  remote Fault.err (pure ()) (env.fate w.calls) { calls := w.calls + 1, log := w.log ++ [c] }

def toAbort {α : Type} (env : Env) (x : Call α) : Call α :=
  tryCatch x fun e =>
    match e with
    | .abort c m => throw (.abort c m)
    | e => throw (.abort .aborted (env.str e))

def orThrow {α : Type} : Except Err α → Call α
  | .ok a => pure a
  | .error e => throw e

def waitPresent (env : Env) : Nat → Call Ppath
  | 0 => do
    match ← readPath env with
    | some p => pure p
    | none => throw (.exception "Waiting for protectedpath failed")
  | n + 1 => do
    match ← readPath env with
    | some p => pure p
    | none => waitPresent env n

def lower (s : String) : String := String.ofList (s.toList.map Char.toLower)

def readyStates : List String := ["active", "partially active"]

def failedStates : List String := ["delete_pending", "error", "failed", "suspended"]

def runningStates : List String :=
  ["n/a", "initializing", "initial scan", "syncing", "joining", "initial sync",
    "partially active", "replication ready", "waiting for a standby stream",
    "waiting for a remote peer setup", "waiting for sync point to member"]

def validateActivePpathStatus (name : String) (p : Ppath) : Except Err Unit :=
  let state := lower p.protectedPathState
  if readyStates.contains state then .ok ()
  else
    let reason := p.failureReason
    let suffix := if reason = "" then "" else s!" ({reason})"
    .error (.abort .aborted s!"Protected path '{name}' is not in a ready state: {state}{suffix}")

/-- `is_resource_in_target_state` for the keys `state` and `protected_path_state`: the first
one that is there counts. -/
def inTargetState (p : Ppath) : Except Err Bool :=
  let state := lower (if p.state = "" then p.protectedPathState else p.state)
  let id := p.id
  if state = "active" then .ok true
  else if failedStates.contains state then
    .error (.exception s!"protectedpaths {id} failed with state: {state}")
  else if runningStates.contains state then .ok false
  else .error (.exception s!"Unknown protectedpaths state: {state}")

def waitActive (env : Env) : Nat → Call Unit
  | 0 => do
    match ← readPath env with
    | none => throw (.httpError 404 "")
    | some p =>
      if ← orThrow (inTargetState p) then pure ()
      else throw (.exception "did not reach state 'active'")
  | n + 1 => do
    match ← readPath env with
    | none => throw (.httpError 404 "")
    | some p => if ← orThrow (inTargetState p) then pure () else waitActive env n

def waitForPpathActive (env : Env) (name : String) (p : Ppath) : Call Unit :=
  match validateActivePpathStatus name p with
  | .ok () => pure ()
  | .error _ => waitActive env env.polls

def getPpathName (req : PromoteReq) : Except Err String :=
  match req.ppathName with
  | none | some "" => .error (.abort .invalidArgument
      "Missing required VolumeReplicationClass parameter 'vastdata.com/ppath-name'")
  | some name => .ok name

/-- `_get_failover_type`: ungraceful, unless the operator says otherwise. -/
def getFailoverType (env : Env) (req : PromoteReq) : Except Err Action :=
  match req.storageClass with
  | none | some "" => .ok .ungraceful
  | some _ =>
    match env.failoverType with
    | .error e => .error e
    | .ok none | .ok (some "") => .ok .ungraceful
    | .ok (some "ungraceful") => .ok .ungraceful
    | .ok (some "graceful") => .ok .graceful
    | .ok (some raw) => .error (.exception s!"'{raw}' is not a valid ReplicationAction")

/-- `resource_locked` with `abort_on_error`. -/
def lockSource (env : Env) : Except Err Unit :=
  match env.locked with
  | none => .ok ()
  | some message => .error (.abort .aborted message)

/-- The first half of `PromoteVolume`: the action, and the path as the lookup has found it,
once the path is ready. -/
def awaitPath (env : Env) (req : PromoteReq) : Call (Action × String × Ppath) := do
  let _ ← orThrow req.identifier
  let name ← orThrow (getPpathName req)
  orThrow (lockSource env)
  let action ← orThrow (getFailoverType env req)
  let p ← waitPresent env env.lookups
  waitForPpathActive env name p
  pure (action, name, p)

def failover (env : Env) (action : Action) (role : Role) : Call Unit :=
  if role = .destination then toAbort env (send env (.failover (action = .graceful))) else pure ()

def forceFailover (env : Env) (action : Action) (role : Role) : Call Unit :=
  if action = .ungraceful ∧ role = .standalone then
    toAbort env (do send env .forceFailover; discard (readPath env))
  else pure ()

def ensureSetEnabled (env : Env) (p : Ppath) (enabled : Bool) : Call Unit :=
  if p.enabled = enabled then pure () else send env (.setEnabled enabled)

/-- The second half: the commands for the role of the path that was found. -/
def afterWait (env : Env) (req : PromoteReq) (action : Action) (name : String) (p : Ppath) :
    Call Unit := do
  let session := req.session
  let role := Role.fromString p.role
  let shown := role.value
  if role.isTransitional then
    throw (.abort .aborted (s!"{session} - protected path '{name}' failover transition is still "
      ++ s!"in progress. Current role: '{shown}'. Waiting..."))
  else
    failover env action role
    forceFailover env action role
    if role = .source then ensureSetEnabled env p true
    else
      throw (.abort .aborted (s!"{session} - protected path '{name}' is not yet completed "
        ++ s!"failover transition. Current role: '{shown}'  Expected: 'SOURCE'"))

def promoteVolume (env : Env) (req : PromoteReq) : Call Unit := do
  let (action, name, p) ← awaitPath env req
  afterWait env req action name p

/-- What a promotion may do about a role: the commands it sends and whether it succeeds. -/
structure Follows (action : Action) (role : Role) (succeeded : Bool) (log : List Command) :
    Prop where
  failover : ∀ graceful, .failover graceful ∈ log → role = .destination
  forceFailover : .forceFailover ∈ log → role = .standalone ∧ action = .ungraceful
  transitional : role.isTransitional = true → log = []
  success : succeeded = true → role = .source

/-- Nothing is sent, and the call fails. -/
theorem Follows.idle (action : Action) (role : Role) : Follows action role false [] :=
  ⟨nofun, nofun, fun _ => rfl, nofun⟩

def commandsFor (action : Action) (role : Role) : List Command :=
  if role = .destination then [.failover (action = .graceful)]
  else if action = .ungraceful ∧ role = .standalone then [.forceFailover]
  else []

def answered : Fate Fault → Bool
  | .answered => true
  | _ => false

/-- What a call does for the role that was found: whether it succeeds, and the commands. The path
was enabled, or the `n`-th request is the one that enables it. -/
def did (env : Env) (action : Action) (found : Role) (enabled : Bool) (n : Nat) :
    Bool × List Command :=
  if found.isTransitional then (false, [])
  else if found = .source then
    if enabled then (true, []) else (answered (env.fate n), [.setEnabled true])
  else (false, commandsFor action found)

/-- What the wait has to leave of the role that was found, with regard to what is done for it. A
`SOURCE` that could not be enabled is no success, and only a command to it. -/
structure RoleHeld (action : Action) (found : Role) (enabling : Bool) (after : Role) : Prop where
  destination : found = .destination → after = .destination
  standalone : found = .standalone → action = .ungraceful → after = .standalone
  source : found = .source → enabling = true → after = .source
  enabling : found = .source → enabling = false → after.isTransitional = false

section Held

variable {env : Env} {action : Action} {after : Role} {n : Nat}

theorem follows_failover_iff {graceful : Bool} :
    Follows action after false [.failover graceful] ↔ after = .destination := by
  constructor
  · intro h
    exact h.failover graceful (List.mem_singleton_self _)
  · rintro rfl
    exact ⟨fun _ _ => rfl, by simp, nofun, nofun⟩

theorem follows_forceFailover_iff :
    Follows .ungraceful after false [.forceFailover] ↔ after = .standalone := by
  constructor
  · intro h
    exact (h.forceFailover (List.mem_singleton_self _)).1
  · rintro rfl
    exact ⟨by simp, fun _ => ⟨rfl, rfl⟩, by decide, nofun⟩

theorem follows_success_iff : Follows action after true [] ↔ after = .source := by
  constructor
  · intro h
    exact h.success rfl
  · rintro rfl
    exact ⟨nofun, nofun, fun _ => rfl, fun _ => rfl⟩

theorem follows_setEnabled_iff {succeeded : Bool} :
    Follows action after succeeded [.setEnabled true] ↔
      (succeeded = true → after = .source) ∧
        (succeeded = false → after.isTransitional = false) := by
  constructor
  · intro h
    refine ⟨h.success, fun _ => Bool.eq_false_iff.mpr fun ht => ?_⟩
    cases h.transitional ht
  · rintro ⟨hsuccess, hfailed⟩
    refine ⟨by simp, by simp, fun ht => ?_, hsuccess⟩
    cases succeeded with
    | true =>
      rw [hsuccess rfl] at ht
      cases ht
    | false =>
      rw [hfailed rfl] at ht
      cases ht

/-- What was done fits a role exactly when that role is what it was done for. -/
theorem held_iff (found : Role) (enabled : Bool) :
    Follows action after (did env action found enabled n).1 (did env action found enabled n).2 ↔
      RoleHeld action found (enabled || answered (env.fate n)) after := by
  by_cases hd : found = .destination
  · subst hd
    refine follows_failover_iff.trans ⟨fun h => ?_, fun h => h.destination rfl⟩
    exact ⟨fun _ => h, nofun, nofun, nofun⟩
  by_cases hs : found = .source
  · subst hs
    cases enabled with
    | true =>
      refine follows_success_iff.trans ⟨fun h => ?_, fun h => h.source rfl rfl⟩
      exact ⟨nofun, nofun, fun _ _ => h, nofun⟩
    | false =>
      refine follows_setEnabled_iff.trans ⟨fun h => ?_, fun h => ⟨h.source rfl, h.enabling rfl⟩⟩
      exact ⟨nofun, nofun, fun _ => h.1, fun _ => h.2⟩
  by_cases hforce : action = .ungraceful ∧ found = .standalone
  · obtain ⟨rfl, rfl⟩ := hforce
    refine follows_forceFailover_iff.trans ⟨fun h => ?_, fun h => h.standalone rfl rfl⟩
    exact ⟨nofun, fun _ _ => h, nofun, nofun⟩
  · -- nothing is done about the other roles
    have hidle : did env action found enabled n = (false, []) := by
      unfold did commandsFor
      rw [if_neg hs, if_neg hd, if_neg hforce, ite_self]
    rw [hidle]
    refine ⟨fun _ => ?_, fun _ => .idle action after⟩
    exact ⟨fun h => absurd h hd, fun h ha => absurd ⟨ha, h⟩ hforce, fun h => absurd h hs,
      fun h => absurd h hs⟩

end Held

def Sent (log : List Command) (w : World) : Prop := w.log = log

section

variable {env : Env} {req : PromoteReq} {action : Action} {name : String} {p : Ppath}
  {role : Role} {log : List Command}

theorem meets_send (c : Command) :
    Meets (Sent []) (send env c) (fun _ => Sent [c]) (fun _ => Sent [c]) := by
  intro w hw
  refine Meets.remote (P := Sent [c]) (Q := fun _ => Sent [c]) (E := fun _ => Sent [c])
    (fun _ _ h => h) (fun _ _ _ h => h) (fun _ _ _ h => h)
    .ret (env.fate w.calls) { calls := w.calls + 1, log := w.log ++ [c] } ?_
  change w.log ++ [c] = [c]
  rw [show w.log = [] from hw, List.nil_append]

theorem keeps_readPath : Keeps (Sent log) (readPath env) := by
  intro w hw
  exact Meets.remote (P := Sent log) (Q := fun _ => Sent log) (E := fun _ => Sent log)
    (fun _ _ h => h) (fun _ _ _ h => h) (fun _ _ _ h => h)
    .ret (env.fate w.calls) { w with calls := w.calls + 1 } hw

theorem meets_toAbort {α : Type} {x : Call α} {P I : World → Prop} {Q : α → World → Prop}
    (h : Meets P x Q (fun _ => I)) : Meets P (toAbort env x) Q (fun _ => I) := by
  refine .tryCatch h fun e => ?_
  split
  · exact .err
  · exact .err

/-- The two failovers exclude each other. -/
theorem meets_failovers :
    Meets (Sent []) (do failover env action role; forceFailover env action role)
      (fun _ => Sent (commandsFor action role)) (fun _ => Sent (commandsFor action role)) := by
  unfold failover forceFailover commandsFor
  by_cases hd : role = .destination
  · have hs : ¬ (action = .ungraceful ∧ role = .standalone) := by rw [hd]; simp
    rw [if_pos hd, if_pos hd, if_neg hs]
    exact .bind (meets_toAbort (meets_send _)) fun _ => keeps_pure ()
  · rw [if_neg hd, if_neg hd]
    refine .bind (Q := fun _ => Sent []) .ret fun _ => ?_
    by_cases hs : action = .ungraceful ∧ role = .standalone
    · rw [if_pos hs, if_pos hs]
      refine meets_toAbort (.bind (meets_send _) fun _ => ?_)
      exact .bind keeps_readPath fun _ => keeps_pure _
    · rw [if_neg hs, if_neg hs]
      exact keeps_pure ()

theorem afterWait_commands (ht : (Role.fromString p.role).isTransitional = false)
    (hs : Role.fromString p.role ≠ .source) :
    Meets (Sent []) (afterWait env req action name p) (fun _ _ => False)
      (fun _ => Sent (commandsFor action (Role.fromString p.role))) := by
  unfold afterWait
  dsimp only
  rw [if_neg (by rw [ht]; decide), ← bind_assoc, if_neg hs]
  exact .bind meets_failovers fun _ => .err

theorem afterWait_source (hs : Role.fromString p.role = .source) :
    afterWait env req action name p = ensureSetEnabled env p true := by
  unfold afterWait failover forceFailover
  dsimp only
  rw [hs, if_neg (by decide), if_neg (by decide), if_neg (fun h => nomatch h.2), if_pos rfl]
  rfl

/-- The second half of a call, from the role that was found. -/
theorem afterWait_did {w : World} (hw : Sent [] w) :
    (isOk (afterWait env req action name p w), (endState (afterWait env req action name p w)).log) =
      did env action (Role.fromString p.role) p.enabled w.calls := by
  obtain ⟨n, log⟩ := w
  obtain rfl : log = [] := hw
  unfold did
  cases ht : (Role.fromString p.role).isTransitional with
  | true =>
    unfold afterWait
    dsimp only
    rw [if_pos ht, if_pos rfl]
    rfl
  | false =>
    rw [if_neg (by decide)]
    by_cases hs : Role.fromString p.role = .source
    · rw [if_pos hs, afterWait_source hs, ensureSetEnabled]
      cases p.enabled with
      | true => rfl
      | false =>
        rw [if_neg (by decide), if_neg (by decide)]
        show (isOk (send env _ ⟨n, []⟩), _) = _
        unfold send
        cases env.fate n <;> rfl
    · rw [if_neg hs]
      have hstart : Sent [] ⟨n, []⟩ := rfl
      cases hrun : afterWait env req action name p ⟨n, []⟩ with
      | ok a t => exact ((afterWait_commands ht hs).ok hstart hrun).elim
      | error e t => exact congrArg (Prod.mk false) ((afterWait_commands ht hs).error hstart hrun)

/-- The last request has seen the path as `p`, and no command has been sent. -/
def Seen (env : Env) (p : Ppath) (w : World) : Prop := env.path (w.calls - 1) = some p ∧ Sent [] w

theorem meets_readPath : Meets (Sent []) (readPath env)
    (fun r w => (∀ p, r = some p → Seen env p w) ∧ Sent [] w) (fun _ => Sent []) := by
  intro w hw
  refine Meets.remote (P := fun w' => w'.calls = w.calls + 1 ∧ Sent [] w')
    (Q := fun r w => (∀ p, r = some p → Seen env p w) ∧ Sent [] w) (E := fun _ => Sent [])
    (fun _ _ h => h.2) (fun _ _ _ h => h.2) (fun _ _ _ h => h) (.pure fun w' h => ?_)
    (env.fate w.calls) { w with calls := w.calls + 1 } ⟨rfl, hw⟩
  refine ⟨fun p hp => ⟨?_, h.2⟩, h.2⟩
  rw [h.1, Nat.add_sub_cancel, hp]

theorem meets_orThrow {α : Type} {P : World → Prop} (r : Except Err α) :
    Meets P (orThrow r) (fun a w => r = .ok a ∧ P w) (fun _ => P) := by
  cases r with
  | ok a => exact .pure fun _ h => ⟨rfl, h⟩
  | error e => exact .err

theorem meets_waitPresent :
    ∀ n, Meets (Sent []) (waitPresent env n) (fun p => Seen env p) (fun _ => Sent [])
  | 0 => by
    refine .bind meets_readPath fun r => ?_
    cases r with
    | some p => exact .pure fun _ h => h.1 p rfl
    | none => exact .throw fun _ h => h.2
  | n + 1 => by
    refine .bind meets_readPath fun r => ?_
    cases r with
    | some p => exact .pure fun _ h => h.1 p rfl
    | none => exact (meets_waitPresent n).pre (fun _ h => h.2)

/-- One look at the path; `x` is what follows if it is not ready. -/
theorem meets_unlessReady {x : Call Unit}
    (hx : Meets (Sent []) x (fun _ w => ∃ p, Seen env p w) (fun _ => Sent [])) (p : Ppath) :
    Meets (Seen env p) (do if ← orThrow (inTargetState p) then pure () else x)
      (fun _ w => ∃ p, Seen env p w) (fun _ => Sent []) := by
  refine .bind (Q := fun _ => Seen env p) ((meets_orThrow _).weaken
    (fun _ h => h) (fun _ _ h => h.2) fun _ _ h => h.2) fun b => ?_
  cases b with
  | true => exact .pure fun _ h => ⟨p, h⟩
  | false => exact hx.pre (fun _ h => h.2)

theorem meets_waitActive :
    ∀ n, Meets (Sent []) (waitActive env n) (fun _ w => ∃ p, Seen env p w) (fun _ => Sent [])
  | 0 => by
    refine .bind meets_readPath fun r => ?_
    cases r with
    | none => exact .throw fun _ h => h.2
    | some p => exact (meets_unlessReady .err p).pre (fun _ h => h.1 p rfl)
  | n + 1 => by
    refine .bind meets_readPath fun r => ?_
    cases r with
    | none => exact .throw fun _ h => h.2
    | some p => exact (meets_unlessReady (meets_waitActive n) p).pre (fun _ h => h.1 p rfl)

theorem meets_waitForPpathActive : Meets (Seen env p) (waitForPpathActive env name p)
    (fun _ w => ∃ q, Seen env q w) (fun _ => Sent []) := by
  unfold waitForPpathActive
  split
  · exact .pure fun _ h => ⟨p, h⟩
  · exact (meets_waitActive _).pre (fun _ h => h.2)

/-- The first half ends with the path being seen, and with no command sent. -/
theorem meets_awaitPath : Meets (Sent []) (awaitPath env req)
    (fun r w => getFailoverType env req = .ok r.1 ∧ ∃ q, Seen env q w) (fun _ => Sent []) := by
  refine .bind (meets_orThrow _) fun _ => .bind (Q := fun _ => Sent [])
    ((meets_orThrow _).weaken (fun _ h => h.2) (fun _ _ h => h.2) fun _ _ h => h) fun name =>
    .bind (Q := fun _ => Sent []) ((meets_orThrow _).post fun _ _ h => h.2) fun _ =>
    .bind (meets_orThrow _) fun action => ?_
  refine .assuming (p := getFailoverType env req = .ok action) (fun _ h => h.1) fun haction => ?_
  refine .bind (Q := fun p => Seen env p) ((meets_waitPresent _).pre fun _ h => h.2) fun p => ?_
  exact .bind meets_waitForPpathActive fun _ => .pure fun _ h => ⟨haction, h⟩

end

/-- The role by which a call decides: that of its lookup. -/
def roleFound (env : Env) (req : PromoteReq) (n : Nat) : Option Role :=
  match awaitPath env req ⟨n, []⟩ with
  | .ok (_, _, p) _ => some (Role.fromString p.role)
  | .error _ _ => none

/-- The role of the path after the wait: as the last request of the wait has seen it. -/
def roleAfterWait (env : Env) (req : PromoteReq) (n : Nat) : Option Role :=
  match awaitPath env req ⟨n, []⟩ with
  | .ok _ w => (env.path (w.calls - 1)).map fun p => Role.fromString p.role
  | .error _ _ => none

/-- A call that starts with the `n`-th request sends the commands, and has the success, that
the role after its wait allows. -/
def Safe (env : Env) (req : PromoteReq) (n : Nat) : Prop :=
  match roleAfterWait env req n with
  | none => isOk (promoteVolume env req ⟨n, []⟩) = false ∧
      (endState (promoteVolume env req ⟨n, []⟩)).log = []
  | some role => ∀ action, getFailoverType env req = .ok action →
      Follows action role (isOk (promoteVolume env req ⟨n, []⟩))
        (endState (promoteVolume env req ⟨n, []⟩)).log

theorem promoteVolume_of_ok {env : Env} {req : PromoteReq} {action : Action} {name : String}
    {p : Ppath} {w t : World} (h : awaitPath env req w = .ok (action, name, p) t) :
    promoteVolume env req w = afterWait env req action name p t := by
  show EStateM.bind _ _ w = _
  rw [EStateM.bind, h]

theorem promoteVolume_of_error {env : Env} {req : PromoteReq} {e : Err} {w t : World}
    (h : awaitPath env req w = .error e t) : promoteVolume env req w = .error e t := by
  show EStateM.bind _ _ w = _
  rw [EStateM.bind, h]

/-- Whether a `SOURCE` that was found is enabled by the call, or was. -/
def enabling (env : Env) (req : PromoteReq) (n : Nat) : Bool :=
  match awaitPath env req ⟨n, []⟩ with
  | .ok (_, _, p) w => p.enabled || answered (env.fate w.calls)
  | .error _ _ => false

/-- **The commands of a promotion** fit the role after its wait exactly when the wait has left what
they were sent for, for every evolution of the path and every outcome of the requests. -/
theorem promote_follows_iff (env : Env) (req : PromoteReq) (n : Nat) : Safe env req n ↔
    ∀ found after action, roleFound env req n = some found → roleAfterWait env req n = some after →
      getFailoverType env req = .ok action →
        RoleHeld action found (enabling env req n) after := by
  have hawait : Meets (Sent []) (awaitPath env req) (fun r w =>
    getFailoverType env req = .ok r.1 ∧ ∃ q, Seen env q w) (fun _ => Sent []) := meets_awaitPath
  have hstart : Sent [] ⟨n, []⟩ := rfl
  unfold Safe
  cases hrun : awaitPath env req ⟨n, []⟩ with
  | error e w =>
    -- the call ends with the wait
    have hnone : roleFound env req n = none := by rw [roleFound, hrun]
    rw [roleAfterWait, hrun, promoteVolume_of_error hrun, hnone]
    exact ⟨fun _ _ _ _ h => (nomatch h), fun _ => ⟨rfl, hawait.error hstart hrun⟩⟩
  | ok r w =>
    obtain ⟨action, name, p⟩ := r
    obtain ⟨haction, q, hq, hsent⟩ := hawait.ok hstart hrun
    have hafter : roleAfterWait env req n = some (Role.fromString q.role) := by
      rw [roleAfterWait, hrun]
      dsimp only
      rw [hq]
      rfl
    have hfound : roleFound env req n = some (Role.fromString p.role) := by rw [roleFound, hrun]
    have henabling : enabling env req n = (p.enabled || answered (env.fate w.calls)) := by
      rw [enabling, hrun]
    have hheld : Follows action (Role.fromString q.role)
        (isOk (afterWait env req action name p w))
        (endState (afterWait env req action name p w)).log ↔
          RoleHeld action (Role.fromString p.role) (p.enabled || answered (env.fate w.calls))
            (Role.fromString q.role) := by
      rw [← held_iff, ← afterWait_did hsent]
    rw [hafter, hfound, henabling, promoteVolume_of_ok hrun]
    constructor
    · rintro h _ _ action' ⟨⟩ ⟨⟩ haction'
      obtain rfl := Except.ok.inj (haction.symm.trans haction')
      exact hheld.mp (h action haction)
    · intro h action' haction'
      obtain rfl := Except.ok.inj (haction.symm.trans haction')
      exact hheld.mpr (h _ _ action rfl rfl haction)

def steady (path : Nat → Option Ppath) : Env where
  path := path
  fate := fun _ => .answered
  lookups := 2
  polls := 2
  failoverType := .ok none
  locked := none
  str := fun _ => ""

def promoteRequest : PromoteReq := ⟨"VmsSession[vms]", .ok "vol", some "ppath", none⟩

/-- The path is a `DESTINATION` that is not ready when it is looked up, and an active
`SOURCE` from the next request on. -/
def promotedMeanwhile (n : Nat) : Option Ppath :=
  if n = 0 then some ⟨7, "DESTINATION", "", "Initializing", "", true⟩
  else some ⟨7, "SOURCE", "", "Active", "", true⟩

/-- A failover is commanded to a path that is the `SOURCE` after the wait. -/
theorem failover_of_source :
    roleAfterWait (steady promotedMeanwhile) promoteRequest 0 = some .source ∧
    (endState (promoteVolume (steady promotedMeanwhile) promoteRequest ⟨0, []⟩)).log =
      [.failover false] ∧
    ¬ Safe (steady promotedMeanwhile) promoteRequest 0 := by
  have hrole : roleAfterWait (steady promotedMeanwhile) promoteRequest 0 = some .source := by decide
  have hlog : (endState (promoteVolume (steady promotedMeanwhile) promoteRequest ⟨0, []⟩)).log =
      [.failover false] := by decide
  refine ⟨hrole, hlog, fun hsafe => ?_⟩
  rw [Safe, hrole] at hsafe
  have hfollows := hsafe .ungraceful rfl
  rw [hlog] at hfollows
  cases hfollows.failover false (List.mem_singleton_self _)

end VastCsi.Csi.Promote
