import VastCsi.Ext.Policies

/-!
# The protected path of a constellation

`EnsureConstellationPpath` makes the protected path on the primary cluster, with the stream to the
first target embedded, and then goes through the other targets: it adds the primary's stream to
the target, and the standby streams of the other clusters to it. Streams are told apart by name,
and one that is shown in the record of its cluster is not added again.

VMS is a parameter: the name of the embedded stream, and the names it shows besides those of the
streams added. A wait is one call, which fails when the time is over.

Names are compared as Go compares them, byte by byte, and VMS is taken to keep the bytes of a name:
the cut to `vastNameMaxLen` can fall inside a character. The two writes of the procedure are
parameters (`ensureWith`), so that an attempt which makes neither can be told from one that does;
`ensureConstellationPpath` is the instance with the calls of the source.
-/

namespace VastCsi.Ext.Constellation

open Lib CsiAddons Policies

structure ReplicationLink where
  policyName : String
  localPeerName : String
  remotePeerName : String
  edge : ReplicationEdge
  deriving DecidableEq

structure Setting where
  topology : List ReplicationTarget
  primarySC : String
  ownerName : String
  /-- The `PeerName` field of a replication peer, by StorageClass and name. -/
  peerNameOf : String → String → String
  tenantGuid : String → String

/-- `DiscoverLinkPolicies`: one link for each directed edge, in their order. -/
def Setting.links (cfg : Setting) : List ReplicationLink :=
  (newReplicationEdgesList cfg.topology cfg.primarySC).map fun e =>
    { policyName := policyName cfg.ownerName e.peerName
      localPeerName := cfg.peerNameOf e.sideA e.peerName
      remotePeerName := cfg.peerNameOf e.sideB e.peerName
      edge := e }

def Setting.pairs (cfg : Setting) (sc : String) : List ReplicationLink :=
  cfg.links.filter (·.edge.sideA = sc)

def Setting.keys (cfg : Setting) : List String := (cfg.links.map (·.edge.sideA)).dedup

def vastNameMaxLen : Nat := 64

/-- A string of Go: its bytes in UTF-8. -/
def goString (s : String) : List UInt8 := s.toUTF8.data.toList

theorem goString_append (s t : String) : goString (s ++ t) = goString s ++ goString t := by
  simp [goString]

/-- `s[:vastNameMaxLen]` is a slice of the bytes. -/
def truncateName (s : String) : List UInt8 := (goString s).take vastNameMaxLen

/-- A name as an error text shows it. -/
def nameText (name : List UInt8) : String := (String.fromUTF8? ⟨name.toArray⟩).getD ""

/-- The owner and the two peers, which is what a stream is known by on its cluster. -/
def Setting.streamName (cfg : Setting) (l : ReplicationLink) : List UInt8 :=
  truncateName (cfg.ownerName ++ "-" ++ l.localPeerName ++ "-" ++ l.remotePeerName)

structure Stream where
  /-- The StorageClass of the cluster it was added on, and the one it goes to. -/
  cluster : String
  remote : String
  name : List UInt8
  policyName : String
  standby : Bool
  deriving DecidableEq

structure Ppath where
  present : Bool := false
  streams : List Stream := []
  deriving DecidableEq

structure Vms where
  embeddedName : List UInt8
  shown : String → List (List UInt8) := fun _ => []

/-- The names in the record of a cluster, `ppathStreamNameSet`. -/
def recordNames (vms : Vms) (p : Ppath) (sc : String) : List (List UInt8) :=
  vms.shown sc ++ (p.streams.filter (·.cluster = sc)).map (·.name)

def embedded (vms : Vms) (l : ReplicationLink) : Stream where
  cluster := l.edge.sideA
  remote := l.edge.sideB
  name := vms.embeddedName
  policyName := l.policyName
  standby := false

def Setting.streamOf (cfg : Setting) (l : ReplicationLink) (standby : Bool) : Stream where
  cluster := l.edge.sideA
  remote := l.edge.sideB
  name := cfg.streamName l
  policyName := l.policyName
  standby := standby

def Ppath.add (p : Ppath) (st : Stream) : Ppath := { p with streams := st :: p.streams }

abbrev Rec := Proc Ppath

/-- The fates of an attempt's calls, and the orders in which the map of the links is gone through,
each time for one target. -/
structure Attempt (cfg : Setting) where
  fates : Fates := steady
  order : String → List String := fun _ => cfg.keys
  perm : ∀ target, (order target).Perm cfg.keys := by exact fun _ => List.Perm.refl _

section Calls

variable (vms : Vms) (fates : Fates)

/-- `getPpathRecord` on a cluster, `waitForPpath`: the names of the streams. -/
def getPpathRecord (sc context : String) : Rec (List (List UInt8)) :=
  withContext context (api fates fun w =>
    if w.own.present then .ok (recordNames vms w.own sc) w else .error (notFound sc) w)

/-- `waitForStreamState`: it needs the stream to be shown. -/
def waitForStreamState (sc : String) (name : List UInt8) (context : String) : Rec Unit :=
  withContext context (api fates fun w =>
    if w.own.present && (recordNames vms w.own sc).contains name then .ok () w
    else .error ⟨[.other], s!"timed out waiting for stream {nameText name}"⟩ w)

def createPpath (first : ReplicationLink) : Rec Unit :=
  withContext "failed to create protected path" (api fates fun w =>
    if w.own.present then .error ⟨[.other], "already exists"⟩ w
    else .ok () { w with own := { present := true, streams := [embedded vms first] } })

def addReplicationStream (st : Stream) : Rec Unit :=
  withContext s!"failed to add replication stream {nameText st.name}" (api fates fun w =>
    .ok () { w with own := w.own.add st })

end Calls

section Ensure

variable (cfg : Setting) (vms : Vms) (a : Attempt cfg) (create : ReplicationLink → Rec Unit)
  (add : Stream → Rec Unit)

/-- The path is made if it is not there; its ends must be on different clusters. -/
def createIfMissing (first : ReplicationLink) (found : Bool) : Rec Unit :=
  if found then pure ()
  else do
    assertThat (cfg.tenantGuid first.edge.sideA != cfg.tenantGuid first.edge.sideB)
      ⟨[.other], s!"StorageClass {first.edge.sideA} and {first.edge.sideB} resolve to the same "
        ++ "VAST cluster"⟩
    create first

def ensurePpath (first : ReplicationLink) : Rec Unit := do
  let found ← withContext "failed to check if protected path exists"
    (api a.fates fun w => .ok w.own.present w)
  createIfMissing cfg create first found
  let streams ← getPpathRecord vms a.fates first.edge.sideA s!"ppath {cfg.ownerName}"
  assertThat (!streams.isEmpty)
    ⟨[.other], s!"ppath {cfg.ownerName} has no embedded streams after creation"⟩
  callOut a.fates s!"ppath {cfg.ownerName} first stream did not become active"

/-- A stream is added unless its name is in the record. -/
def addIfMissing (st : Stream) (names : List (List UInt8)) : Rec Unit :=
  if names.contains st.name then pure () else add st

def addStandby (target : String) (crossPair : ReplicationLink) : Rec Unit :=
  if crossPair.edge.sideB ≠ target then pure ()
  else do
    let names ← getPpathRecord vms a.fates crossPair.edge.sideA
      s!"SC {crossPair.edge.sideA}: ppath mirror"
    addIfMissing add (cfg.streamOf crossPair true) names

def addStandbys (target sc : String) : Rec Unit :=
  if sc = cfg.primarySC then pure ()
  else forEach (addStandby cfg vms a add target) (cfg.pairs sc)

/-- An additional target: the primary's stream to it, and the standby streams. -/
def addTarget (primaryPair : ReplicationLink) : Rec Unit := do
  let names ← getPpathRecord vms a.fates primaryPair.edge.sideA "primary ppath"
  addIfMissing add (cfg.streamOf primaryPair false) names
  waitForStreamState vms a.fates primaryPair.edge.sideA (cfg.streamName primaryPair)
    s!"primary stream {nameText (cfg.streamName primaryPair)}"
  forEach (addStandbys cfg vms a add primaryPair.edge.sideB) (a.order primaryPair.edge.sideB)
  waitForStreamState vms a.fates primaryPair.edge.sideA (cfg.streamName primaryPair)
    s!"primary stream {nameText (cfg.streamName primaryPair)}: wait for active"

def waitForMirror (sc : String) : Rec Unit :=
  if sc = cfg.primarySC then pure ()
  else do
    let _names ← getPpathRecord vms a.fates sc s!"SC {sc}: ppath mirror"
    pure ()

/-- `EnsureConstellationPpath` with its two writes as parameters. -/
def ensureWith : Rec String :=
  match cfg.pairs cfg.primarySC with
  | [] => throw ⟨[.other], s!"no primary replication links for StorageClass {cfg.primarySC}"⟩
  | first :: rest => do
    withContext "primary ppath" (ensurePpath cfg vms a create first)
    forEach (addTarget cfg vms a add) rest
    forEach (waitForMirror cfg vms a) (allStorageClasses cfg.topology)
    pure cfg.ownerName

end Ensure

def ensureConstellationPpath (cfg : Setting) (vms : Vms) (a : Attempt cfg) : Rec String :=
  ensureWith cfg vms a (createPpath vms a.fates) (addReplicationStream a.fates)

end VastCsi.Ext.Constellation
