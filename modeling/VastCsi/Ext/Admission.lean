import VastCsi.Ext.SpecValidation
import VastCsi.Lib.Table
import VastCsi.Lib.Trace

/-!
# The admission webhook

One handler for each kind of replication object. Both check an update against the old topology and
validate the spec; on a create they look at the StorageClasses and the clusters behind them, find
out the peers that the entries leave open, and check the subsystems. A
`VastStorageClassReplication` must have its StorageClasses to itself, which is looked up again on
every update; a `VastVolumeReplication` may use those of others. The state counts the calls made,
each of which may fail.
-/

namespace VastCsi.Ext.Admission

open Lib Lib.Text CsiAddons Specs List Table

/-! ## Objects and responses -/

structure Vscr where
  namespaceName : String
  name : String
  spec : VastStorageClassReplicationSpec
  deriving DecidableEq

structure Vvr where
  namespaceName : String
  name : String
  spec : VastVolumeReplicationSpec
  deriving DecidableEq

def Vscr.key (v : Vscr) : String × String := (v.namespaceName, v.name)

def Vvr.key (v : Vvr) : String × String := (v.namespaceName, v.name)

def Vvr.pvcNamespace (v : Vvr) : String :=
  if trim v.spec.volumeNamespace ≠ "" then trim v.spec.volumeNamespace else v.namespaceName

structure StorageClass where
  provisioner : String
  parameters : List (String × String)
  deriving DecidableEq

def StorageClass.param (sc : StorageClass) (k : String) : String := (sc.parameters.lookup k).getD ""

def StorageClass.isBlock (sc : StorageClass) : Bool :=
  if (sc.parameters.lookup "subsystem").isSome && (sc.parameters.lookup "root_export").isSome then
    startsWith sc.provisioner "block"
  else (sc.parameters.lookup "subsystem").isSome

/-- `IsSubsystemLevel`: `volume_group` is empty but for a slash in front. -/
def StorageClass.isSubsystemLevel (sc : StorageClass) : Bool :=
  sc.isBlock && (sc.param "volume_group" == "" || sc.param "volume_group" == "/")

/-- The change of one `peerName`: what a response patches. -/
structure Patch where
  entry : Nat
  peerName : String
  deriving DecidableEq

def applyPatches (patches : List Patch) (topology : List TopologyEntry) : List TopologyEntry :=
  patches.foldl (fun ts p => ts.modify p.entry fun t => { t with peerName := p.peerName }) topology

def Vscr.patched (patches : List Patch) (v : Vscr) : Vscr :=
  { v with spec.protectionTopology := applyPatches patches v.spec.protectionTopology }

def Vvr.patched (patches : List Patch) (v : Vvr) : Vvr :=
  { v with spec.protectionTopology := applyPatches patches v.spec.protectionTopology }

inductive Refusal where
  | denied (text : String)
  | errored (text : String)
  deriving DecidableEq

inductive Response where
  | allowed (patches : List Patch)
  | refused (r : Refusal)
  deriving DecidableEq

structure Stored where
  vscrs : Table Vscr Vscr.key
  vvrs : Table Vvr Vvr.key

/-- What else a request finds, and which of its calls fail. -/
structure Env where
  /-- The `storageClassName` of a PVC, by namespace and name. -/
  pvcs : String → String → Option (Option String)
  /-- The ReplicationPeers of the cluster behind a StorageClass. -/
  peers : String → List String
  /-- The cluster behind the StorageClass has the subsystem. -/
  hasSubsystem : String → Bool
  vms : String → String
  failures : Nat → Option String

abbrev Check := EStateM Refusal Nat

def call (env : Env) (refusal : String → Refusal) : Check PUnit := fun n =>
  match env.failures n with
  | some e => .error (refusal e) (n + 1)
  | none => .ok ⟨⟩ (n + 1)

def orRefuse {α : Type} (refusal : String → Refusal) : Except String α → Check α
  | .ok a => pure a
  | .error e => throw (refusal e)

def respond (x : Check (List Patch)) : Response :=
  match x 0 with
  | .ok ps _ => .allowed ps
  | .error r _ => .refused r

section Peers

variable (env : Env) (topology : List TopologyEntry)

def storageClassNeedsPeerDiscovery (scName : String) : Bool :=
  topology.any fun t => t.peerName == "" && (t.source == scName || t.destination == scName)

def explicitPeerNamesForSC (scName : String) : List String :=
  ((topology.filter fun t =>
    t.peerName != "" && (t.source == scName || t.destination == scName)).map
      (·.peerName)).dedup.insertionSort (· ≤ ·)

/-- What `BuildPeerNamesBySC` lists for a StorageClass: all its peers, or those that
are named in the topology. -/
def peerNames (scName : String) : List String :=
  if storageClassNeedsPeerDiscovery topology scName then env.peers scName
  else if explicitPeerNamesForSC topology scName ≠ [] then
    (env.peers scName).filter (explicitPeerNamesForSC topology scName).contains
  else env.peers scName

def sharedPeers (t : TopologyEntry) : List String :=
  ((peerNames env topology t.source).dedup.filter
    (peerNames env topology t.destination).contains).insertionSort (· ≤ ·)

def resolvePeerName (t : TopologyEntry) : Except String TopologyEntry :=
  if t.peerName ≠ "" then
    if t.peerName ∈ sharedPeers env topology t then .ok t
    else .error ("peerName " ++ quoted t.peerName ++ " does not exist on both " ++
      quoted t.source ++ " and " ++ quoted t.destination ++ " (shared peers: [" ++
      ", ".intercalate (sharedPeers env topology t) ++ "])")
  else
    match sharedPeers env topology t with
    | [] => .error ("no shared ReplicationPeer between " ++ quoted t.source ++ " and " ++
        quoted t.destination)
    | [p] => .ok { t with peerName := p }
    | ps => .error ("multiple shared ReplicationPeers between " ++ quoted t.source ++ " and " ++
        quoted t.destination ++ " (" ++ ", ".intercalate ps ++
        "); set peerName explicitly to disambiguate")

def resolvePeerNames : Nat → List TopologyEntry → Except String (List TopologyEntry)
  | _, [] => .ok []
  | i, t :: ts =>
    match resolvePeerName env topology t with
    | .error e => .error (s!"protectionTopology[{i}]: " ++ e)
    | .ok t' => (resolvePeerNames (i + 1) ts).map (t' :: ·)

def topologyClasses : List String :=
  allStorageClasses ((topology.filter (·.peerName != "")).map TopologyEntry.toReplicationTarget)

end Peers

/-- `applyTopologyDefaults`, from the entry of the given number on. -/
def topologyDefaults : Nat → List TopologyEntry → List TopologyEntry → List Patch
  | i, o :: os, t :: ts =>
    (if o.peerName = "" ∧ t.peerName ≠ "" then [⟨i, t.peerName⟩] else []) ++
      topologyDefaults (i + 1) os ts
  | _, _, _ => []

section Checks

variable (classes : String → Option StorageClass) (env : Env)

def getStorageClass (scName : String) (refusal : String → Refusal) : Check StorageClass := do
  call env refusal
  orRefuse refusal ((classes scName).elim
    (.error ("storageclasses.storage.k8s.io " ++ quoted scName ++ " not found")) .ok)

def getListedClass (scName : String) : Check StorageClass :=
  getStorageClass classes env scName fun e =>
    .denied ("StorageClass " ++ quoted scName ++ " not found: " ++ e)

def clientFor (i : Nat) (known : List String) (scName : String) : Check (List String) :=
  if scName ∈ known then pure known
  else do
    let _ ← getStorageClass classes env scName fun e =>
      .denied (s!"protectionTopology[{i}]: StorageClass " ++ quoted scName ++ " not found: " ++ e)
    call env fun e =>
      .errored (s!"protectionTopology[{i}]: REST client for " ++ quoted scName ++ ": " ++ e)
    pure (known ++ [scName])

def buildClients : Nat → List String → List TopologyEntry → Check (List String)
  | _, known, [] => pure known
  | i, known, t :: ts => do
    let known ← clientFor classes env i known t.source
    let known ← clientFor classes env i known t.destination
    buildClients (i + 1) known ts

/-- `validateAndDefaultTopology`: the patches of its response. -/
def validateAndDefaultTopology (topology : List TopologyEntry) : Check (List Patch) := do
  let known ← buildClients classes env 0 [] topology
  forEach (fun scName => call env fun e =>
    .errored ("failed to resolve replication peers: list ReplicationPeers on " ++
      quoted scName ++ ": " ++ e)) known
  let resolved ← orRefuse .denied (resolvePeerNames env topology 0 topology)
  forEach (fun scName => call env fun e =>
    .errored ("failed to resolve replication peers: fetch topology ReplicationPeers on " ++
      quoted scName ++ ": " ++ e)) (topologyClasses resolved)
  pure (topologyDefaults 0 topology resolved)

def validateSubsystemLevelTenantName (primarySCName : String) (allSCNames : List String) :
    Check PUnit :=
  forEach (fun scName => do
    if scName = primarySCName then pure ⟨⟩
    else
      let sc ← getListedClass classes env scName
      if sc.param "tenant_name" = "" then
        throw (.denied ("StorageClass " ++ quoted scName ++
          " is missing required parameter \"tenant_name\": subsystem-level block " ++
          "replication cannot resolve the tenant on secondary clusters before the subsystem " ++
          "exists — set \"tenant_name\" to the target tenant's name"))
      else pure ⟨⟩) allSCNames

def validateSubsystemPresence (scNames : List String) (mustExist : Bool) : Check PUnit :=
  forEach (fun scName => do
    let sc ← getListedClass classes env scName
    if sc.isBlock = false then pure ⟨⟩
    else if sc.param "subsystem" = "" then
      throw (.denied ("StorageClass " ++ quoted scName ++ " is missing required parameter " ++
        quoted "subsystem"))
    else
      call env fun e => .errored ("StorageClass " ++ quoted scName ++
        ": failed to build REST client: " ++ e)
      call env fun e => .errored ("StorageClass " ++ quoted scName ++
        ": failed to check subsystem " ++ quoted (sc.param "subsystem") ++ " on VMS " ++
        env.vms scName ++ ": " ++ e)
      if mustExist ∧ env.hasSubsystem scName = false then
        throw (.denied ("StorageClass " ++ quoted scName ++ ": subsystem " ++
          quoted (sc.param "subsystem") ++ " does not exist on VMS " ++ env.vms scName ++
          "; for block replication the subsystem must be pre-created on all clusters"))
      else if mustExist = false ∧ env.hasSubsystem scName then
        throw (.denied ("subsystem-level block replication requires that subsystem " ++
          quoted (sc.param "subsystem") ++ " does not pre-exist on VMS " ++ env.vms scName ++
          " (StorageClass " ++ quoted scName ++ "): VAST creates it via replication; " ++
          "delete the subsystem from that cluster and retry"))
      else pure ⟨⟩) scNames

def driverType (isBlock : Bool) : String := if isBlock then "block" else "file"

/-- One turn of the loop of `validateStorageClassConsistency`. -/
def checkDriver (first : String) (firstIsBlock : Bool) (scName : String) : Check PUnit := do
  let sc ← getListedClass classes env scName
  if sc.isBlock ≠ firstIsBlock then
    throw (.denied ("StorageClass " ++ quoted scName ++ " is a " ++ driverType sc.isBlock ++
      " driver but " ++ quoted first ++ " is a " ++ driverType firstIsBlock ++
      " driver; all StorageClasses must use the same driver type"))
  else pure ⟨⟩

def validateStorageClassConsistency : List String → Check PUnit
  | first :: second :: rest => do
    let firstSC ← getListedClass classes env first
    forEach (checkDriver classes env first firstSC.isBlock) (second :: rest)
  | _ => pure ⟨⟩

def validateVVRPVCStorageClass (obj : Vvr) : Check PUnit := do
  let pvc := obj.pvcNamespace ++ "/" ++ obj.spec.volumeName
  let notFound := fun e => Refusal.denied ("spec.volumeName: PVC " ++ pvc ++ " not found: " ++ e)
  call env notFound
  match env.pvcs obj.pvcNamespace obj.spec.volumeName with
  | none =>
    throw (notFound ("persistentvolumeclaims " ++ quoted obj.spec.volumeName ++ " not found"))
  | some sc =>
    if sc.getD "" = "" then
      throw (.denied ("spec.volumeName: PVC " ++ pvc ++ " has no StorageClass set"))
    else if sc.getD "" ≠ obj.spec.primaryStorageClass then
      throw (.denied ("spec.primaryStorageClass " ++ quoted obj.spec.primaryStorageClass ++
        " does not match the StorageClass of PVC " ++ pvc ++ " (" ++ quoted (sc.getD "") ++
        "); the PVC must be provisioned by the primary StorageClass"))
    else pure ⟨⟩

variable (stored : Stored)

/-- `used`: the StorageClasses of the other objects with their owners, those entered
last in front. -/
def used (self : String × String) : List (String × String) :=
  let ofVscrs := (stored.vscrs.rows.filter (·.key != self)).flatMap fun v =>
    v.spec.storageClasses.map
      (·, "VastStorageClassReplication " ++ v.namespaceName ++ "/" ++ v.name)
  let ofVvrs := stored.vvrs.rows.flatMap fun w =>
    w.spec.storageClasses.map (·, "VastVolumeReplication " ++ w.namespaceName ++ "/" ++ w.name)
  (ofVscrs ++ ofVvrs).reverse

def taken (self : String × String) (storageClasses : List String) : Option (String × String) :=
  storageClasses.findSome? fun sc => ((used stored self).lookup sc).map (sc, ·)

/-- `validate`: the StorageClasses of a `VastStorageClassReplication` are nobody
else's. -/
def validate (self : String × String) (storageClasses : List String) : Check PUnit := do
  call env .errored
  call env .errored
  match taken stored self storageClasses with
  | some (sc, owner) =>
    throw (.denied ("StorageClass " ++ quoted sc ++ " is already used by " ++ owner ++
      "; each StorageClass may appear in at most one VastStorageClassReplication or " ++
      "VastVolumeReplication"))
  | none => pure ⟨⟩

/-! ## The handlers -/

/-- What a `VastStorageClassReplication` is checked for on a create. The patches are
not used. -/
def checkNewVscr (obj : Vscr) : Check PUnit := do
  let _patches ← validateAndDefaultTopology classes env obj.spec.protectionTopology
  let primarySC ← getStorageClass classes env obj.spec.primaryStorageClass fun e =>
    .denied ("primaryStorageClass " ++ quoted obj.spec.primaryStorageClass ++ " not found: " ++ e)
  if primarySC.isBlock then
    if primarySC.isSubsystemLevel then
      validateSubsystemLevelTenantName classes env obj.spec.primaryStorageClass
        obj.spec.storageClasses
    else validateSubsystemPresence classes env obj.spec.storageClasses true
  else pure ⟨⟩

/-- What a `VastVolumeReplication` is checked for on a create. The patches are not
used. -/
def checkNewVvr (obj : Vvr) : Check PUnit := do
  let _patches ← validateAndDefaultTopology classes env obj.spec.protectionTopology
  validateVVRPVCStorageClass env obj
  validateSubsystemPresence classes env obj.spec.storageClasses true

def onCreate {α : Type} (old : Option α) (x : Check PUnit) : Check PUnit :=
  if old.isNone then x else pure ⟨⟩

variable (clock : Clock)

def handleVscr (old : Option Vscr) (obj : Vscr) : Check (List Patch) := do
  orRefuse .denied (old.elim (.ok ()) fun o =>
    validateTopologyImmutable o.spec.protectionTopology obj.spec.protectionTopology)
  orRefuse .denied (obj.spec.validate clock)
  onCreate old (checkNewVscr classes env obj)
  validateStorageClassConsistency classes env obj.spec.storageClasses
  validate env stored obj.key obj.spec.storageClasses
  pure []

def handleVvr (old : Option Vvr) (obj : Vvr) : Check (List Patch) := do
  orRefuse .denied (old.elim (.ok ()) fun o =>
    validateTopologyImmutable o.spec.protectionTopology obj.spec.protectionTopology)
  orRefuse .denied (obj.spec.validate clock)
  onCreate old (checkNewVvr classes env obj)
  validateStorageClassConsistency classes env obj.spec.storageClasses
  pure []

end Checks

section Passed

variable {classes : String → Option StorageClass} {env : Env} {stored : Stored} {clock : Clock}
  {n m : Nat} {ps : List Patch}

theorem orRefuse_ok_iff {α : Type} {refusal : String → Refusal} {x : Except String α} {a : α} :
    orRefuse refusal x n = .ok a m ↔ x = .ok a ∧ n = m := by
  cases x with
  | ok b => exact pure_ok_iff.trans (by rw [Except.ok.injEq])
  | error e =>
    constructor
    · exact fun h => nomatch h
    · exact fun h => nomatch h.1

theorem getStorageClass_ok {scName : String} {refusal : String → Refusal} {sc : StorageClass}
    (h : getStorageClass classes env scName refusal n = .ok sc m) : classes scName = some sc := by
  obtain ⟨_, k, -, h⟩ := bind_ok_iff.mp h
  obtain ⟨h, -⟩ := orRefuse_ok_iff.mp h
  cases hsc : classes scName with
  | none => rw [hsc] at h; cases h
  | some sc' => rw [hsc] at h; cases h; rfl

/-- A loop passes when it passes at every element. -/
theorem forEach_ok {β : Type} {f : β → Check PUnit} :
    ∀ {bs : List β} {n m : Nat} {a : PUnit}, forEach f bs n = .ok a m →
      ∀ b ∈ bs, ∃ k l, f b k = .ok ⟨⟩ l
  | [], _, _, _, _ => nofun
  | b :: bs, n, m, a, h => by
    obtain ⟨_, k, hb, hbs⟩ := bind_ok_iff.mp h
    exact forall_mem_cons.mpr ⟨⟨n, k, hb⟩, forEach_ok hbs⟩

/-- The StorageClasses exist and are all of block or all of file drivers; a single one
is not looked at. -/
def Consistent (classes : String → Option StorageClass) (scs : List String) : Prop :=
  scs.length < 2 ∨ ∃ isBlock, ∀ scName ∈ scs, ∃ sc, classes scName = some sc ∧ sc.isBlock = isBlock

/-- No other object has one of the StorageClasses. -/
structure Alone (stored : Stored) (key : String × String) (scs : List String) : Prop where
  vscrs : ∀ v ∈ stored.vscrs, v.key ≠ key → scs.Disjoint v.spec.storageClasses
  vvrs : ∀ w ∈ stored.vvrs, scs.Disjoint w.spec.storageClasses

variable {scs : List String} {self : String × String}

theorem consistent_of_ok {a : PUnit}
    (h : validateStorageClassConsistency classes env scs n = .ok a m) : Consistent classes scs := by
  match scs, h with
  | [], _ => exact .inl Nat.zero_lt_two
  | [_], _ => exact .inl Nat.one_lt_two
  | first :: second :: rest, h =>
    obtain ⟨firstSC, k, hfirst, hrest⟩ := bind_ok_iff.mp h
    refine .inr ⟨firstSC.isBlock, forall_mem_cons.mpr ?_⟩
    refine ⟨⟨firstSC, getStorageClass_ok hfirst, rfl⟩, fun scName hmem => ?_⟩
    obtain ⟨i, j, hsc⟩ := forEach_ok hrest scName hmem
    obtain ⟨sc, l, hget, hsame⟩ := bind_ok_iff.mp hsc
    refine ⟨sc, getStorageClass_ok hget, ?_⟩
    split_ifs at hsame with hne
    · exact nomatch hsame
    · exact not_not.mp hne

theorem mem_used {sc : String} : (∃ owner, (sc, owner) ∈ used stored self) ↔
      (∃ v ∈ stored.vscrs, v.key ≠ self ∧ sc ∈ v.spec.storageClasses) ∨
        ∃ w ∈ stored.vvrs, sc ∈ w.spec.storageClasses := by
  simp only [used, mem_reverse, mem_append, mem_flatMap, mem_filter,
    mem_map, Prod.mk.injEq, bne_iff_ne, mem_def]
  constructor
  · rintro ⟨owner, ⟨v, ⟨hv, hne⟩, sc', hsc, rfl, -⟩ | ⟨w, hw, sc', hsc, rfl, -⟩⟩
    · exact .inl ⟨v, hv, hne, hsc⟩
    · exact .inr ⟨w, hw, hsc⟩
  · rintro (⟨v, hv, hne, hsc⟩ | ⟨w, hw, hsc⟩)
    · exact ⟨_, .inl ⟨v, ⟨hv, hne⟩, sc, hsc, rfl, rfl⟩⟩
    · exact ⟨_, .inr ⟨w, hw, sc, hsc, rfl, rfl⟩⟩

/-- The check for other owners finds one unless there is none. -/
theorem taken_eq_none_iff : taken stored self scs = none ↔ Alone stored self scs := by
  have hlookup : ∀ sc, ((used stored self).lookup sc).map (sc, ·) = none ↔
      ¬∃ owner, (sc, owner) ∈ used stored self := by
    intro sc
    rw [Option.map_eq_none_iff, lookup_eq_none_iff]
    constructor
    · rintro h ⟨owner, hmem⟩
      exact bne_iff_ne.mp (h _ hmem) rfl
    · rintro h ⟨sc', owner⟩ hmem
      refine bne_iff_ne.mpr fun heq => h ⟨owner, ?_⟩
      rw [heq]
      exact hmem
  simp only [taken, findSome?_eq_none_iff, hlookup, mem_used, not_or]
  constructor
  · intro h
    constructor
    · intro v hv hne sc hsc hmem
      exact (h sc hsc).1 ⟨v, hv, hne, hmem⟩
    · intro w hw sc hsc hmem
      exact (h sc hsc).2 ⟨w, hw, hmem⟩
  · intro h sc hsc
    refine ⟨?_, ?_⟩
    · rintro ⟨v, hv, hne, hmem⟩
      exact h.vscrs v hv hne hsc hmem
    · rintro ⟨w, hw, hmem⟩
      exact h.vvrs w hw hsc hmem

theorem alone_of_ok {a : PUnit} (h : validate env stored self scs n = .ok a m) :
    Alone stored self scs := by
  obtain ⟨_, _, -, h⟩ := bind_ok_iff.mp h
  obtain ⟨_, _, -, h⟩ := bind_ok_iff.mp h
  cases htaken : taken stored self scs with
  | none => exact taken_eq_none_iff.mp htaken
  | some owned => rw [htaken] at h; exact nomatch h

/-- The check of an update, where there is an old object. -/
theorem immutable_of_ok {α : Type} {old : Option α} {f : α → Except String Unit} {a : Unit}
    (h : orRefuse .denied (old.elim (.ok ()) f) n = .ok a m) : ∀ o ∈ old, f o = .ok () := by
  intro o ho
  rw [Option.mem_def.mp ho] at h
  exact (orRefuse_ok_iff.mp h).1

/-- What an admitted `VastStorageClassReplication` is known to satisfy. -/
theorem handleVscr_ok {old : Option Vscr} {obj : Vscr}
    (h : handleVscr classes env stored clock old obj n = .ok ps m) :
    ps = [] ∧ obj.spec.validate clock = .ok () ∧
      (∀ o ∈ old, validateTopologyImmutable o.spec.protectionTopology
        obj.spec.protectionTopology = .ok ()) ∧
      Consistent classes obj.spec.storageClasses ∧
        Alone stored obj.key obj.spec.storageClasses := by
  obtain ⟨_, _, hold, h⟩ := bind_ok_iff.mp h
  obtain ⟨_, _, hvalid, h⟩ := bind_ok_iff.mp h
  obtain ⟨_, _, -, h⟩ := bind_ok_iff.mp h
  obtain ⟨_, _, hconsistent, h⟩ := bind_ok_iff.mp h
  obtain ⟨_, _, halone, h⟩ := bind_ok_iff.mp h
  obtain ⟨rfl, -⟩ := pure_ok_iff.mp h
  exact ⟨rfl, (orRefuse_ok_iff.mp hvalid).1, immutable_of_ok hold, consistent_of_ok hconsistent,
    alone_of_ok halone⟩

/-- What an admitted `VastVolumeReplication` is known to satisfy. -/
theorem handleVvr_ok {old : Option Vvr} {obj : Vvr}
    (h : handleVvr classes env clock old obj n = .ok ps m) :
    ps = [] ∧ obj.spec.validate clock = .ok () ∧
      ∀ o ∈ old, validateTopologyImmutable o.spec.protectionTopology
        obj.spec.protectionTopology = .ok () := by
  obtain ⟨_, _, hold, h⟩ := bind_ok_iff.mp h
  obtain ⟨_, _, hvalid, h⟩ := bind_ok_iff.mp h
  obtain ⟨_, _, -, h⟩ := bind_ok_iff.mp h
  obtain ⟨_, _, -, h⟩ := bind_ok_iff.mp h
  obtain ⟨rfl, -⟩ := pure_ok_iff.mp h
  exact ⟨rfl, (orRefuse_ok_iff.mp hvalid).1, immutable_of_ok hold⟩

/-- An admitted request has passed the checks. -/
theorem respond_allowed {x : Check (List Patch)} (h : respond x = .allowed ps) :
    ∃ m, x 0 = .ok ps m := by
  rw [respond] at h
  split at h
  next ps' m hx =>
    cases h
    exact ⟨m, hx⟩
  next => cases h

end Passed

/-! ## The peers of an admitted object -/

/-- The entries have their peers: the explicit ones, and where there was none the only
one that both clusters have. -/
def Defaulted (env : Env) (submitted result : List TopologyEntry) : Prop :=
  List.Forall₂ (fun o r => r = { o with peerName := r.peerName } ∧ r.peerName ≠ "" ∧
    if o.peerName ≠ "" then r.peerName = o.peerName
    else ∀ p, p ∈ env.peers o.source ∧ p ∈ env.peers o.destination ↔ p = r.peerName)
    submitted result

theorem defaulted_self_iff (env : Env) {topology : List TopologyEntry} :
    Defaulted env topology topology ↔ ∀ t ∈ topology, t.peerName ≠ "" := by
  rw [Defaulted, forall₂_same]
  refine forall₂_congr fun t _ => ?_
  constructor
  · exact fun h => h.2.1
  · intro h
    exact ⟨rfl, h, by rw [if_pos h]⟩

/-- **Which admitted objects have their peers**: what is stored after a create is what was
submitted, so exactly those that were submitted with them. -/
theorem defaulted_iff (classes : String → Option StorageClass) (env : Env) (stored : Stored)
    (clock : Clock) :
    (∀ (obj : Vscr) (ps : List Patch),
      respond (handleVscr classes env stored clock none obj) = .allowed ps →
      ((∃ topology, obj.patched ps = { obj with spec.protectionTopology := topology } ∧
        Defaulted env obj.spec.protectionTopology topology) ↔
          ∀ t ∈ obj.spec.protectionTopology, t.peerName ≠ "")) ∧
    ∀ (obj : Vvr) (ps : List Patch), respond (handleVvr classes env clock none obj) = .allowed ps →
      ((∃ topology, obj.patched ps = { obj with spec.protectionTopology := topology } ∧
        Defaulted env obj.spec.protectionTopology topology) ↔
          ∀ t ∈ obj.spec.protectionTopology, t.peerName ≠ "") := by
  constructor
  · intro obj ps h
    obtain ⟨_, hok⟩ := respond_allowed h
    obtain ⟨rfl, -⟩ := handleVscr_ok hok
    rw [← defaulted_self_iff env]
    constructor
    · rintro ⟨topology, heq, hdefaulted⟩
      cases congrArg (·.spec.protectionTopology) heq
      exact hdefaulted
    · exact fun hdefaulted => ⟨_, rfl, hdefaulted⟩
  · intro obj ps h
    obtain ⟨_, hok⟩ := respond_allowed h
    obtain ⟨rfl, -⟩ := handleVvr_ok hok
    rw [← defaulted_self_iff env]
    constructor
    · rintro ⟨topology, heq, hdefaulted⟩
      cases congrArg (·.spec.protectionTopology) heq
      exact hdefaulted
    · exact fun hdefaulted => ⟨_, rfl, hdefaulted⟩

def fileClasses (scName : String) : Option StorageClass :=
  if scName ∈ ["east", "west", "north", "south"] then
    some ⟨"csi.vastdata.com", [("root_export", "/k8s")]⟩
  else none

def answered : Env where
  pvcs _ name :=
    if name = "data" then some (some "east")
    else if name = "logs" then some (some "north")
    else none
  peers _ := ["link"]
  hasSubsystem _ := false
  vms scName := scName
  failures _ := none

def nothing : Stored := ⟨Table.empty, Table.empty⟩

def linked (peerName : String) : ReplicationSpec :=
  { specOf "east" [] with
    protectionTopology := [{ source := "east", destination := "west", peerName }] }

def sampleVscr (peerName : String) : Vscr := ⟨"default", "group", { linked peerName with }⟩

def sampleVvr (peerName : String) : Vvr :=
  ⟨"default", "volume", { linked peerName with volumeName := "data" }⟩

theorem defaulted_iff_explicit : (∃ topology, (sampleVscr "link").patched [] =
        { sampleVscr "link" with spec.protectionTopology := topology } ∧
      Defaulted answered (sampleVscr "link").spec.protectionTopology topology) ∧
    ∃ topology, (sampleVvr "link").patched [] =
        { sampleVvr "link" with spec.protectionTopology := topology } ∧
      Defaulted answered (sampleVvr "link").spec.protectionTopology topology := by
  obtain ⟨hvscr, hvvr⟩ := defaulted_iff fileClasses answered nothing noStart
  exact ⟨(hvscr (sampleVscr "link") [] (by decide +kernel)).mpr (by decide),
    (hvvr (sampleVvr "link") [] (by decide +kernel)).mpr (by decide)⟩

/-- The only shared peer is found and its patch made, yet the response has none, and the object is
stored without it. -/
theorem discovered_peer_lost :
    respond (validateAndDefaultTopology fileClasses answered (linked "").protectionTopology) =
      .allowed [⟨0, "link"⟩] ∧
    (respond (handleVscr fileClasses answered nothing noStart none (sampleVscr "")) = .allowed [] ∧
      ¬Defaulted answered (sampleVscr "").spec.protectionTopology
        ((sampleVscr "").patched []).spec.protectionTopology) ∧
    respond (handleVvr fileClasses answered noStart none (sampleVvr "")) = .allowed [] ∧
      ¬Defaulted answered (sampleVvr "").spec.protectionTopology
        ((sampleVvr "").patched []).spec.protectionTopology := by
  have hopen : ¬Defaulted answered (linked "").protectionTopology (linked "").protectionTopology :=
    fun h => absurd ((defaulted_self_iff _).mp h) (by decide)
  exact ⟨by decide +kernel, ⟨by decide +kernel, hopen⟩, by decide +kernel, hopen⟩

/-! ## Failovers -/

inductive Act where
  | createVscr (env : Env) (obj : Vscr)
  | updateVscr (env : Env) (obj : Vscr)
  | createVvr (env : Env) (obj : Vvr)
  | updateVvr (env : Env) (obj : Vvr)

def Response.store {σ : Type} (r : Response) (f : List Patch → σ) : Option σ :=
  match r with
  | .allowed ps => some (f ps)
  | .refused _ => none

section Runs

variable (classes : String → Option StorageClass) (clock : Clock)

def step (s : Stored) : Act → Option Stored
  | .createVscr env obj =>
    if s.vscrs.hasKey obj.key then none
    else (respond (handleVscr classes env s clock none obj)).store fun ps =>
      { s with vscrs := s.vscrs.insert (obj.patched ps) }
  | .updateVscr env obj =>
    (s.vscrs.find? obj.key).bind fun old =>
      (respond (handleVscr classes env s clock (some old) obj)).store fun ps =>
        { s with vscrs := (s.vscrs.erase obj.key).insert (obj.patched ps) }
  | .createVvr env obj =>
    if s.vvrs.hasKey obj.key then none
    else (respond (handleVvr classes env clock none obj)).store fun ps =>
      { s with vvrs := s.vvrs.insert (obj.patched ps) }
  | .updateVvr env obj =>
    (s.vvrs.find? obj.key).bind fun old =>
      (respond (handleVvr classes env clock (some old) obj)).store fun ps =>
        { s with vvrs := (s.vvrs.erase obj.key).insert (obj.patched ps) }

/-- The proviso: a new `VastVolumeReplication` shares no StorageClass with a
`VastStorageClassReplication`. -/
def Apart (s : Stored) : Act → Prop
  | .createVvr _ obj => ∀ v ∈ s.vscrs, v.spec.storageClasses.Disjoint obj.spec.storageClasses
  | _ => True

structure Sound (s : Stored) : Prop where
  valid : ∀ v ∈ s.vscrs, v.spec.validate clock = .ok ()
  consistent : ∀ v ∈ s.vscrs, Consistent classes v.spec.storageClasses
  alone : ∀ v ∈ s.vscrs, Alone s v.key v.spec.storageClasses

end Runs

section Failover

variable {classes : String → Option StorageClass} {clock : Clock} {env : Env} {s s' : Stored}

theorem store_eq_some {σ : Type} {r : Response} {f : List Patch → σ} {t : σ}
    (h : r.store f = some t) : ∃ ps, r = .allowed ps ∧ f ps = t := by
  cases r with
  | allowed ps => exact ⟨ps, rfl, Option.some.inj h⟩
  | refused _ => cases h

/-- A `VastStorageClassReplication` that was admitted is stored. -/
theorem Sound.storeVscr {obj : Vscr} {t : Table Vscr Vscr.key} (hs : Sound classes clock s)
    (hvalid : obj.spec.validate clock = .ok ()) (hcons : Consistent classes obj.spec.storageClasses)
    (halone : Alone s obj.key obj.spec.storageClasses)
    (ht : ∀ v ∈ t, v = obj ∨ v ∈ s.vscrs ∧ v.key ≠ obj.key) :
    Sound classes clock { s with vscrs := t } := by
  constructor
  · intro v hv
    rcases ht v hv with rfl | ⟨hold, -⟩
    · exact hvalid
    · exact hs.valid v hold
  · intro v hv
    rcases ht v hv with rfl | ⟨hold, -⟩
    · exact hcons
    · exact hs.consistent v hold
  · intro v hv
    rcases ht v hv with rfl | ⟨hold, hne⟩
    · refine ⟨fun w hw hkey => ?_, halone.vvrs⟩
      rcases ht w hw with rfl | ⟨hw, -⟩
      · exact absurd rfl hkey
      · exact halone.vscrs w hw hkey
    · refine ⟨fun w hw hkey => ?_, (hs.alone v hold).vvrs⟩
      rcases ht w hw with rfl | ⟨hw, -⟩
      · exact (halone.vscrs v hold hne).symm
      · exact (hs.alone v hold).vscrs w hw hkey

/-- A `VastVolumeReplication` with StorageClasses of its own is stored. -/
theorem Sound.storeVvr {obj : Vvr} {t : Table Vvr Vvr.key} (hs : Sound classes clock s)
    (hapart : ∀ v ∈ s.vscrs, v.spec.storageClasses.Disjoint obj.spec.storageClasses)
    (ht : ∀ w ∈ t, w = obj ∨ w ∈ s.vvrs) : Sound classes clock { s with vvrs := t } := by
  refine ⟨hs.valid, hs.consistent, fun v hv => ⟨(hs.alone v hv).vscrs, fun w hw => ?_⟩⟩
  rcases ht w hw with rfl | hw
  · exact hapart v hv
  · exact (hs.alone v hv).vvrs w hw

/-- What is admitted keeps the stored objects sound. -/
theorem Sound.step {a : Act} (hs : Sound classes clock s) (hapart : Apart s a)
    (h : step classes clock s a = some s') : Sound classes clock s' := by
  cases a with
  | createVscr env obj =>
    rw [Admission.step] at h
    split_ifs at h with hkey
    obtain ⟨ps, hresp, rfl⟩ := store_eq_some h
    obtain ⟨_, hok⟩ := respond_allowed hresp
    obtain ⟨rfl, hvalid, -, hcons, halone⟩ := handleVscr_ok hok
    refine hs.storeVscr hvalid hcons halone fun v hv => ?_
    rcases mem_insert_cases hv with hv | rfl
    · exact .inr ⟨hv, fun hk => hkey (hasKey_iff.mpr ⟨v, hv, hk⟩)⟩
    · exact .inl rfl
  | updateVscr env obj =>
    obtain ⟨old, -, h⟩ := Option.bind_eq_some_iff.mp h
    obtain ⟨ps, hresp, rfl⟩ := store_eq_some h
    obtain ⟨_, hok⟩ := respond_allowed hresp
    obtain ⟨rfl, hvalid, -, hcons, halone⟩ := handleVscr_ok hok
    refine hs.storeVscr hvalid hcons halone fun v hv => ?_
    rcases mem_insert_cases hv with hv | rfl
    · exact .inr (mem_erase.mp hv)
    · exact .inl rfl
  | createVvr env obj =>
    rw [Admission.step] at h
    split_ifs at h
    obtain ⟨ps, hresp, rfl⟩ := store_eq_some h
    obtain ⟨_, hok⟩ := respond_allowed hresp
    obtain ⟨rfl, -⟩ := handleVvr_ok hok
    exact hs.storeVvr hapart fun w hw => (mem_insert_cases hw).symm
  | updateVvr env obj =>
    obtain ⟨old, hold, h⟩ := Option.bind_eq_some_iff.mp h
    obtain ⟨ps, hresp, rfl⟩ := store_eq_some h
    obtain ⟨_, hok⟩ := respond_allowed hresp
    obtain ⟨rfl, -, himm⟩ := handleVvr_ok hok
    have hsame : old.spec.storageClasses = obj.spec.storageClasses :=
      allStorageClasses_congr (edges_of_immutable (himm old rfl))
    have hapart : ∀ v ∈ s.vscrs, v.spec.storageClasses.Disjoint obj.spec.storageClasses := by
      intro v hv
      rw [← hsame]
      exact (hs.alone v hv).vvrs old (find?_eq_some_iff.mp hold).1
    refine hs.storeVvr hapart fun w hw => ?_
    rcases mem_insert_cases hw with hw | rfl
    · exact .inr (mem_erase.mp hw).1
    · exact .inl rfl

/-! With all calls answered, what is known to hold is found to hold. -/

theorem call_answered {refusal : String → Refusal} (hans : ∀ n, env.failures n = none) (n : Nat) :
    call env refusal n = .ok ⟨⟩ (n + 1) := by
  rw [call, hans n]

theorem getListedClass_answered {scName : String} {sc : StorageClass}
    (hans : ∀ n, env.failures n = none) (hsc : classes scName = some sc) (n : Nat) :
    getListedClass classes env scName n = .ok sc (n + 1) := by
  refine bind_ok_iff.mpr ⟨⟨⟩, n + 1, call_answered hans n, ?_⟩
  rw [hsc]
  rfl

theorem forEach_passes {β : Type} {f : β → Check PUnit} :
    ∀ {bs : List β}, (∀ b ∈ bs, ∀ n, ∃ m, f b n = .ok ⟨⟩ m) → ∀ n, ∃ m, forEach f bs n = .ok ⟨⟩ m
  | [], _, n => ⟨n, rfl⟩
  | b :: bs, h, n => by
    obtain ⟨k, hb⟩ := h b mem_cons_self n
    obtain ⟨m, hbs⟩ := forEach_passes (fun c hc => h c (mem_cons_of_mem b hc)) k
    exact ⟨m, bind_ok_iff.mpr ⟨⟨⟩, k, hb, hbs⟩⟩

theorem Consistent.passes {scs : List String} (h : Consistent classes scs)
    (hans : ∀ n, env.failures n = none) (n : Nat) :
    ∃ m, validateStorageClassConsistency classes env scs n = .ok ⟨⟩ m := by
  match scs, h with
  | [], _ => exact ⟨n, rfl⟩
  | [_], _ => exact ⟨n, rfl⟩
  | first :: second :: rest, h =>
    obtain ⟨isBlock, hall⟩ := h.resolve_left (by simp)
    obtain ⟨⟨firstSC, hfirst, hblock⟩, hrest⟩ := forall_mem_cons.mp hall
    have hloop : ∀ scName ∈ second :: rest, ∀ k, ∃ m,
        checkDriver classes env first firstSC.isBlock scName k = .ok ⟨⟩ m := by
      intro scName hmem k
      obtain ⟨sc, hsc, hsame⟩ := hrest scName hmem
      refine ⟨k + 1, bind_ok_iff.mpr ⟨sc, k + 1, getListedClass_answered hans hsc k, ?_⟩⟩
      rw [if_neg (not_not.mpr (hsame.trans hblock.symm))]
      rfl
    obtain ⟨m, hm⟩ := forEach_passes hloop (n + 1)
    exact ⟨m, bind_ok_iff.mpr ⟨firstSC, n + 1, getListedClass_answered hans hfirst n, hm⟩⟩

theorem Alone.passes {key : String × String} {scs : List String} (h : Alone s key scs)
    (hans : ∀ n, env.failures n = none) (n : Nat) : ∃ m, validate env s key scs n = .ok ⟨⟩ m := by
  refine ⟨n + 1 + 1, bind_ok_iff.mpr ⟨⟨⟩, n + 1, call_answered hans n, ?_⟩⟩
  refine bind_ok_iff.mpr ⟨⟨⟩, n + 1 + 1, call_answered hans (n + 1), ?_⟩
  rw [taken_eq_none_iff.mpr h]
  rfl

/-- The entries of an object do not differ from themselves. -/
theorem validateEntriesImmutable_self :
    ∀ (i : Nat) (ts : List TopologyEntry), validateEntriesImmutable i ts ts = .ok ()
  | _, [] => rfl
  | i, t :: ts => by
    simp only [validateEntriesImmutable, check_ok_iff, refuseIf_ok_iff, ne_eq, not_true_eq_false,
      or_self, not_false_eq_true, true_and]
    exact validateEntriesImmutable_self (i + 1) ts

theorem validateTopologyImmutable_self (ts : List TopologyEntry) :
    validateTopologyImmutable ts ts = .ok () :=
  check_ok_iff.mpr ⟨refuseIf_ok_iff.mpr (not_not.mpr rfl), validateEntriesImmutable_self 0 ts⟩

def Vscr.switched (v : Vscr) (scName : String) : Vscr :=
  { v with spec.primaryStorageClass := scName }

/-- **A failover is admitted.** After any admitted requests, none of which created a
`VastVolumeReplication` on StorageClasses of a stored `VastStorageClassReplication`,
an update that switches one of the latter to another of its StorageClasses is
allowed. -/
theorem failover_admitted (classes : String → Option StorageClass) (clock : Clock)
    (acts : List Act) (s : Stored) (hrun : runFrom (step classes clock) nothing acts = some s)
    (hapart : RunMeets (step classes clock) Apart nothing acts) (v : Vscr) (hv : v ∈ s.vscrs)
    (scName : String) (hsc : scName ∈ v.spec.storageClasses) (env : Env)
    (hans : ∀ n, env.failures n = none) :
    respond (handleVscr classes env s clock (some v) (v.switched scName)) = .allowed [] := by
  have hempty : Sound classes clock nothing := ⟨nofun, nofun, nofun⟩
  have hs : Sound classes clock s :=
    runFrom_invariant (fun _ _ _ hs ha h => hs.step ha h) acts hempty hapart hrun
  obtain ⟨k, hcons⟩ := (hs.consistent v hv).passes hans 0
  obtain ⟨m, halone⟩ := (hs.alone v hv).passes hans k
  have hok : handleVscr classes env s clock (some v) (v.switched scName) 0 = .ok [] m := by
    refine bind_ok_iff.mpr ⟨(), 0, orRefuse_ok_iff.mpr ⟨?_, rfl⟩, ?_⟩
    · exact validateTopologyImmutable_self _
    refine bind_ok_iff.mpr ⟨(), 0, orRefuse_ok_iff.mpr ⟨?_, rfl⟩, ?_⟩
    · exact v.spec.validate_switch (hs.valid v hv) hsc
    refine bind_ok_iff.mpr ⟨⟨⟩, 0, rfl, ?_⟩
    refine bind_ok_iff.mpr ⟨⟨⟩, k, hcons, ?_⟩
    exact bind_ok_iff.mpr ⟨⟨⟩, m, halone, rfl⟩
  rw [respond, hok]

end Failover

def grouped : Stored := { nothing with vscrs := nothing.vscrs.insert (sampleVscr "link") }

def reused : Stored := { grouped with vvrs := grouped.vvrs.insert (sampleVvr "link") }

theorem step_grouped : step fileClasses noStart nothing (.createVscr answered (sampleVscr "link")) =
      some grouped := by
  have hresp : respond (handleVscr fileClasses answered nothing noStart none
      (sampleVscr "link")) = .allowed [] := by decide +kernel
  rw [step, hresp]
  rfl

theorem step_reused : step fileClasses noStart grouped (.createVvr answered (sampleVvr "link")) =
      some reused := by
  have hresp : respond (handleVvr fileClasses answered noStart none (sampleVvr "link")) =
      .allowed [] := by decide +kernel
  rw [step, hresp]
  rfl

def northVvr : Vvr where
  namespaceName := "default"
  name := "logs"
  spec :=
    { specOf "north" [] with
      protectionTopology := [{ source := "north", destination := "south", peerName := "link" }]
      volumeName := "logs" }

def mixed : Stored := { grouped with vvrs := grouped.vvrs.insert northVvr }

theorem step_mixed : step fileClasses noStart grouped (.createVvr answered northVvr) =
      some mixed := by
  have hresp : respond (handleVvr fileClasses answered noStart none northVvr) = .allowed [] := by
    decide +kernel
  rw [step, hresp]
  rfl

/-- Beside a `VastVolumeReplication` on other StorageClasses. -/
theorem failover_admitted_mixed :
    respond (handleVscr fileClasses answered mixed noStart (some (sampleVscr "link"))
      ((sampleVscr "link").switched "west")) = .allowed [] := by
  have hrun := runFrom_cons_iff.mpr ⟨grouped, step_grouped,
    runFrom_cons_iff.mpr ⟨mixed, step_mixed, runFrom_nil _ _⟩⟩
  have hclasses : ∀ sc ∈ (sampleVscr "link").spec.storageClasses,
      sc ∉ northVvr.spec.storageClasses := by decide +kernel
  refine failover_admitted fileClasses noStart _ mixed hrun ⟨trivial, fun s hs => ⟨?_, ?_⟩⟩
    (sampleVscr "link") (by decide +kernel) "west" (by decide +kernel) answered fun _ => rfl
  · rw [step_grouped] at hs
    cases hs
    intro v hv sc hsc
    rw [show v = sampleVscr "link" from List.mem_singleton.mp hv] at hsc
    exact hclasses sc hsc
  · exact fun _ _ => trivial

/-- A `VastVolumeReplication` is admitted on the StorageClasses of a
`VastStorageClassReplication`, and the switch of the latter is denied from then on. -/
theorem failover_blocked :
    runFrom (step fileClasses noStart) nothing [.createVscr answered (sampleVscr "link"),
      .createVvr answered (sampleVvr "link")] = some reused ∧
    respond (handleVscr fileClasses answered reused noStart (some (sampleVscr "link"))
      ((sampleVscr "link").switched "west")) =
        .refused (.denied ("StorageClass \"east\" is already used by VastVolumeReplication " ++
          "default/volume; each StorageClass may appear in at most one " ++
          "VastStorageClassReplication or VastVolumeReplication")) := by
  refine ⟨?_, by decide +kernel⟩
  exact runFrom_cons_iff.mpr ⟨grouped, step_grouped,
    runFrom_cons_iff.mpr ⟨reused, step_reused, runFrom_nil _ _⟩⟩

end VastCsi.Ext.Admission
