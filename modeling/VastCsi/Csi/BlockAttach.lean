import VastCsi.Lib.Trace
import VastCsi.Csi.DeleteVolume

/-!
# Attaching block volumes: `ControllerPublishVolume` and its inverse

A Publish finds or creates the block host of its node and maps the volume to it; an Unpublish
removes the mapping and, with `block_hosts_auto_prune`, deletes the host when nothing is mapped to
it. With auto-prune on, a lock on node and tenant is held by a Publish from before the host lookup
to its exit, and by an Unpublish around the prune; it is not waited for.

`step` is the system: any number of parties, each running one call, one atomic step per call to
the VMS. `taken` is a ghost: for a Publish that has confirmed its mapping, the id with which an
Unpublish was called that removed the pair since then.
-/

namespace VastCsi.Csi

open Lib Vms Function

structure AttachConf where
  autoPrune : Bool
  blockHostsPrefix : String
  blockNqnPrefix : String
  useLocalIpForMount : String
  /-- `views.get_subsystem` by name and tenant: the tenant id of the view.
  Views do not change here. -/
  getSubsystem : String → String → Except Err String
  getVip : String → Except Err String

/-- The fields of `volume_context` the Publish reads. -/
structure VolumeContext where
  volumeId : Nat
  tenantName : String
  subsystem : String
  subsystemNqn : String
  nguid : String
  vipPoolName : Option String
  vipPoolFqdn : Option String
  fqdnPrefix : Option String
  deriving DecidableEq, Repr

/-- A Publish, past the validation of its capabilities and with the context
of a static volume filled in. -/
structure PublishReq where
  nodeId : String
  volumeId : String
  multiMode : Bool
  ctx : VolumeContext
  deriving DecidableEq, Repr

structure UnpublishReq where
  nodeId : String
  volumeId : String
  deriving DecidableEq, Repr

inductive PublishPc where
  | lock
  | findHost
  | getSubsystem
  | createHost
  | refindHost (refused : Err)
  | listMappings (host : Host)
  | map (host : Host)
  | discover (host : Host)
  | returned (host : Host) (discoveryServer : String)
  | raised (err : Err)
  deriving DecidableEq, Repr

inductive UnpublishPc where
  | findVolume
  | findMapping (volume : Volume)
  | unmap (volume : Volume) (mapping : Mapping)
  | lock (volume : Volume)
  | findHost (volume : Volume)
  | deleteHost (volume : Volume) (host : Host)
  | returned
  | raised (err : Err)
  deriving DecidableEq, Repr

inductive AttachPc where
  | idle
  | publish (req : PublishReq) (pc : PublishPc)
  | unpublish (req : UnpublishReq) (pc : UnpublishPc)
  deriving DecidableEq, Repr

/-- The cluster, the lock table with each holder's message, and the parties. -/
structure AttachState (P : Type) where
  vms : Cluster
  locks : String → Option (P × String)
  pc : P → AttachPc
  taken : P → Nat → Nat → Option String

/-- A call comes in, a party takes its next step with the fate of its remote call and the id of a
row it may create, or a finished call releases its locks. -/
inductive AttachAct (P : Type) where
  | publish (p : P) (req : PublishReq)
  | unpublish (p : P) (req : UnpublishReq)
  | step (p : P) (fate : Fate Fault) (newId : Nat)
  | exit (p : P)

def lockKey (nodeId tenantName : String) : String := nodeId ++ ":" ++ tenantName

def publishLockMessage (req : PublishReq) : String :=
  s!"Node {req.nodeId} (tenant: {req.ctx.tenantName}) is currently locked" ++
    s!" by volume {req.volumeId} — concurrent ControllerPublishVolume in progress"

def defaultLockMessage (key : String) : String := s!"Resource {key} is currently locked"

def AttachConf.hostName (conf : AttachConf) (nodeId : String) : String :=
  conf.blockHostsPrefix ++ nodeId

/-- `VastResource.one` on the rows a list call answered with. -/
def oneOf (k : Kind) : List (Row k) → Except Err (Option (Row k))
  | [] => .ok none
  | [r] => .ok (some r)
  | _ => .error (.tooMany k)

def hostsNamed (v : Cluster) (name tenantName : String) : List Host :=
  (v.table .host).select fun h => h.name == name && h.tenantName == tenantName

def mappingsOf (v : Cluster) (volumeId : Nat) : List Mapping :=
  (v.table .mapping).select fun m => m.volumeId == volumeId

def mappingsTo (v : Cluster) (hostId : Nat) : List Mapping :=
  (v.table .mapping).select fun m => m.hostId == hostId

def mappingsOn (v : Cluster) (volumeId : Nat) (hostName : String) : List Mapping :=
  (v.table .mapping).select fun m =>
    m.volumeId == volumeId &&
      (v.table .host).rows.any fun h => h.id == m.hostId && h.name == hostName

def dropPair (v : Cluster) (volumeId hostId : Nat) : Cluster :=
  v.dropRows .mapping fun m => m.volumeId == volumeId && m.hostId == hostId

/-- `m.block_host.get("name", m.block_host["id"])` of the stale mappings,
as a Python list is printed. -/
def staleNames (v : Cluster) (stale : List Mapping) : String :=
  let name (m : Mapping) : String :=
    match v.find .host m.hostId with
    | some h => s!"'{h.name}'"
    | none => toString m.hostId
  "[" ++ ", ".intercalate (stale.map name) ++ "]"

def mappedElsewhere (v : Cluster) (volumeId hostId : Nat) (stale : List Mapping) : Err :=
  .exception (s!"Volume {volumeId} is already mapped to {staleNames v stale} — " ++
    s!"unexpected for single-node access mode (expected host {hostId} only)")

/-- The decision of `ensure_map` and `ensure_map_exclusive` on the mappings
they read: is the volume to be mapped? -/
def needsMap (v : Cluster) (req : PublishReq) (host : Host) : Except Err Bool :=
  if req.multiMode then
    match oneOf .mapping ((mappingsOf v req.ctx.volumeId).filter (·.hostId == host.id)) with
    | .error e => .error e
    | .ok found => .ok found.isNone
  else
    let existing := mappingsOf v req.ctx.volumeId
    let stale := existing.filter (·.hostId != host.id)
    if !stale.isEmpty then .error (mappedElsewhere v req.ctx.volumeId host.id stale)
    else .ok (!existing.any (·.hostId == host.id))

/-- The discovery server: the pool's FQDN, one of its addresses, or the
configured local address. -/
def discoveryServer (conf : AttachConf) (ctx : VolumeContext) : Except Err String :=
  match ctx.vipPoolFqdn, ctx.vipPoolName with
  | some fqdn, _ =>
    match ctx.fqdnPrefix with
    | some label => .ok s!"{label}.{fqdn}"
    | none => .ok fqdn
  | none, some pool => conf.getVip pool
  | none, none =>
    if conf.useLocalIpForMount == "" then .error (.assertion "discovery_server=''")
    else .ok conf.useLocalIpForMount

def pruning : AttachConf where
  autoPrune := true
  blockHostsPrefix := "csi-"
  blockNqnPrefix := "nqn.csi:"
  useLocalIpForMount := "10.0.0.1"
  getSubsystem := fun _ _ => .ok "1"
  getVip := fun _ => .error (.noRecordsFound .pool)

section System

variable {P : Type} [DecidableEq P]

def AttachState.goto (s : AttachState P) (p : P) (pc : AttachPc) : AttachState P :=
  { s with pc := update s.pc p pc }

def AttachState.lockOr (s : AttachState P) (p : P) (key message : String) (locked : AttachPc)
    (aborted : Err → AttachPc) : AttachState P :=
  match s.locks key with
  | some (_, holder) => s.goto p (aborted (.abort .aborted holder))
  | none => { s with locks := update s.locks key (some (p, message)) }.goto p locked

def AttachState.read (s : AttachState P) (p : P) (fate : Fate Fault) (raised : Err → AttachPc)
    (next : AttachPc) : AttachState P :=
  match fate with
  | .answered => s.goto p next
  | .failed f => s.goto p (raised f.err)
  | .lost f => s.goto p (raised f.err)

/-- A write: the fault before it, or the new state with the fault after it
or with what comes next. -/
def AttachState.write (s s' : AttachState P) (p : P) (fate : Fate Fault)
    (raised : Err → AttachPc) (next : AttachPc) : AttachState P :=
  match fate with
  | .answered => s'.goto p next
  | .failed f => s.goto p (raised f.err)
  | .lost f => s'.goto p (raised f.err)

def AttachState.confirm (s : AttachState P) (p : P) : AttachState P :=
  { s with taken := update s.taken p fun _ _ => none }

def AttachState.unmapped (s : AttachState P) (volumeId hostId : Nat) (id : String) :
    AttachState P :=
  { s with
    vms := dropPair s.vms volumeId hostId
    taken := fun q v h => if v = volumeId ∧ h = hostId then some id else s.taken q v h }

def afterFind (found : Except Err (Option Host)) (missing : PublishPc) : PublishPc :=
  match found with
  | .error e => .raised e
  | .ok none => missing
  | .ok (some host) => .listMappings host

def publishStep (conf : AttachConf) (s : AttachState P) (p : P) (req : PublishReq)
    (fate : Fate Fault) (newId : Nat) : PublishPc → Option (AttachState P)
  | .lock =>
    some (s.lockOr p (lockKey req.nodeId req.ctx.tenantName) (publishLockMessage req)
      (.publish req .findHost) fun e => .publish req (.raised e))
  | .findHost =>
    if s.vms.swVersion.lt ⟨5, 3, 0⟩ then
      some (s.goto p (.publish req (.raised (.operationNotSupported "ensure"))))
    else
      some (s.read p fate (fun e => .publish req (.raised e)) (.publish req (afterFind
          (oneOf .host (hostsNamed s.vms (conf.hostName req.nodeId) req.ctx.tenantName))
          .getSubsystem)))
  | .getSubsystem =>
    match conf.getSubsystem req.ctx.subsystem req.ctx.tenantName with
    | .error e => some (s.goto p (.publish req (.raised e)))
    | .ok _ => some (s.read p fate (fun e => .publish req (.raised e)) (.publish req .createHost))
  | .createHost =>
    if (hostsNamed s.vms (conf.hostName req.nodeId) req.ctx.tenantName).isEmpty then
      -- the subsystem was looked up in the tenant, so the host is in it too
      let host : Host :=
        { id := newId, name := conf.hostName req.nodeId, tenantName := req.ctx.tenantName
          nqn := conf.blockNqnPrefix ++ req.ctx.tenantName ++ ":" ++ conf.hostName req.nodeId }
      if (s.vms.table .host).hasKey newId then none
      else
        some (s.write { s with vms := s.vms.insert .host host } p fate
          (fun e => .publish req (.raised e)) (.publish req (.listMappings host)))
    else
      some (s.read p fate (fun e => .publish req (.raised e)) (.publish req
        (.refindHost (.apiError 400 "unique_block_host_name_per_tenant"))))
  | .refindHost refused =>
    some (s.read p fate (fun e => .publish req (.raised e)) (.publish req (afterFind
        (oneOf .host (hostsNamed s.vms (conf.hostName req.nodeId) req.ctx.tenantName))
        (.raised refused))))
  | .listMappings host =>
    match needsMap s.vms req host with
    | .error e =>
      some (s.read p fate (fun e => .publish req (.raised e)) (.publish req (.raised e)))
    | .ok true =>
      some (s.read p fate (fun e => .publish req (.raised e)) (.publish req (.map host)))
    | .ok false =>
      some ((s.confirm p).read p fate (fun e => .publish req (.raised e))
        (.publish req (.discover host)))
  | .map host =>
    let row : Mapping := { id := newId, volumeId := req.ctx.volumeId, hostId := host.id }
    if (s.vms.table .mapping).hasKey newId then none
    else
      some (s.write { s.confirm p with vms := s.vms.insert .mapping row } p fate
        (fun e => .publish req (.raised e)) (.publish req (.discover host)))
  | .discover host =>
    match discoveryServer conf req.ctx with
    | .error e => some (s.goto p (.publish req (.raised e)))
    | .ok server =>
      -- only the address of a pool is asked for
      some (s.read p (if req.ctx.vipPoolFqdn.isNone && req.ctx.vipPoolName.isSome then fate
        else .answered) (fun e => .publish req (.raised e)) (.publish req (.returned host server)))
  | .returned _ _ => none
  | .raised _ => none

/-- What an Unpublish does with the host it found: prune an empty host of
the driver. -/
def afterFindPrune (conf : AttachConf) (v : Cluster) (volume : Volume)
    (found : Except Err (Option Host)) : UnpublishPc :=
  match found with
  | .error e => .raised e
  | .ok none => .returned
  | .ok (some host) =>
    if (mappingsTo v host.id).isEmpty && Text.startsWith host.nqn conf.blockNqnPrefix then
      .deleteHost volume host
    else .returned

def afterUnmap (conf : AttachConf) (volume : Volume) : UnpublishPc :=
  if conf.autoPrune then .lock volume else .returned

/-- The volume lookup of an Unpublish: by the end of the name. -/
def foundVolume (v : Cluster) (req : UnpublishReq) : Except Err (Option Volume) :=
  oneOf .volume ((v.table .volume).select
    fun r => Text.endsWith r.name (normalizeVolumeId req.volumeId))

def unpublishStep (conf : AttachConf) (s : AttachState P) (p : P) (req : UnpublishReq)
    (fate : Fate Fault) : UnpublishPc → Option (AttachState P)
  | .findVolume =>
    some (s.read p fate (fun e => .unpublish req (.raised e)) (.unpublish req
        (match foundVolume s.vms req with
        | .error e => .raised e
        | .ok none => .returned
        | .ok (some volume) => .findMapping volume)))
  | .findMapping volume =>
    some (s.read p fate (fun e => .unpublish req (.raised e)) (.unpublish req
        (match oneOf .mapping (mappingsOn s.vms volume.id (conf.hostName req.nodeId)) with
        | .error e => .raised e
        | .ok none => afterUnmap conf volume
        | .ok (some mapping) => .unmap volume mapping)))
  | .unmap volume mapping =>
    some (s.write (s.unmapped mapping.volumeId mapping.hostId (normalizeVolumeId req.volumeId)) p
      fate (fun e => .unpublish req (.raised e)) (.unpublish req (afterUnmap conf volume)))
  | .lock volume =>
    some (s.lockOr p (lockKey req.nodeId volume.tenantName)
      (defaultLockMessage (lockKey req.nodeId volume.tenantName))
      (.unpublish req (.findHost volume)) fun e => .unpublish req (.raised e))
  | .findHost volume =>
    some (s.read p fate (fun e => .unpublish req (.raised e))
      (.unpublish req (afterFindPrune conf s.vms volume
        (oneOf .host (hostsNamed s.vms (conf.hostName req.nodeId) volume.tenantName)))))
  | .deleteHost _ host =>
    some (s.write { s with vms := s.vms.erase .host host.id } p fate
      (fun e => .unpublish req (.raised e)) (.unpublish req .returned))
  | .returned => none
  | .raised _ => none

def AttachPc.finished : AttachPc → Bool
  | .publish _ (.returned _ _) => true
  | .publish _ (.raised _) => true
  | .unpublish _ .returned => true
  | .unpublish _ (.raised _) => true
  | _ => false

def attachStep (conf : AttachConf) (s : AttachState P) : AttachAct P → Option (AttachState P)
  | .publish p req =>
    match s.pc p with
    | .idle => some (s.goto p (.publish req (if conf.autoPrune then .lock else .findHost)))
    | _ => none
  | .unpublish p req =>
    match s.pc p with
    | .idle => some (s.goto p (.unpublish req .findVolume))
    | _ => none
  | .step p fate newId =>
    match s.pc p with
    | .idle => none
    | .publish req pc => publishStep conf s p req fate newId pc
    | .unpublish req pc => unpublishStep conf s p req fate pc
  | .exit p =>
    if (s.pc p).finished then
      some { s with
        locks := fun key =>
          match s.locks key with
          | some (q, message) => if q = p then none else some (q, message)
          | none => none }
    else none

def attachInit (v : Cluster) : AttachState P where
  vms := v
  locks := fun _ => none
  pc := fun _ => .idle
  taken := fun _ _ _ => none

end System

end VastCsi.Csi
