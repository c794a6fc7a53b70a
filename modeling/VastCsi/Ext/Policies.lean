import VastCsi.Ext.Owners
import VastCsi.Lib.Runs

/-!
# Protection policies by name

A link is replicated under a protection policy, which is made on one side and which VAST mirrors
to the other. Its name is the owner's and the peer's, joined by a dash, and is computed again
whenever it is needed: `ensurePolicy` goes through the directed edges, deletion and the cleanup of
snapshots through the names by StorageClass.
-/

namespace VastCsi.Ext.Policies

open Lib.Text CsiAddons List

structure ReplicationEdge where
  sideA : String
  sideB : String
  peerName : String
  deriving DecidableEq, Repr

/-- One entry, directed so that the primary is on side A. -/
def directed (primarySC : String) (t : ReplicationTarget) : ReplicationEdge :=
  if t.destination = primarySC then ⟨t.destination, t.source, t.peerName⟩
  else ⟨t.source, t.destination, t.peerName⟩

def newReplicationEdgesList (topology : List ReplicationTarget) (primarySC : String) :
    List ReplicationEdge :=
  topology.map (directed primarySC)

def policyName (ownerName peerName : String) : String := ownerName ++ "-" ++ peerName

def protectionPolicyNamesByStorageClass (ownerName primarySC : String)
    (topology : List ReplicationTarget) : List (String × String) :=
  (topology.filter (·.peerName ≠ "")).flatMap fun t =>
    [((directed primarySC t).sideA, policyName ownerName t.peerName),
      ((directed primarySC t).sideB, policyName ownerName t.peerName)]

def namesOf (ownerName primarySC : String) (topology : List ReplicationTarget)
    (scName : String) : List String :=
  ((protectionPolicyNamesByStorageClass ownerName primarySC topology).filter (·.1 = scName)).map
    Prod.snd

def protectionPolicyNamesForVRC (ownerName primarySC : String)
    (topology : List ReplicationTarget) (scName : String) : Except String (List String) :=
  match namesOf ownerName primarySC topology scName with
  | [] => .error (s!"no protection policies for StorageClass \"{scName}\" in topology of " ++
      s!"\"{ownerName}\" (primary \"{primarySC}\")")
  | names => .ok names

def ReplicationEdge.Joins (e : ReplicationEdge) (scName : String) : Prop :=
  scName = e.sideA ∨ scName = e.sideB

instance (e : ReplicationEdge) (scName : String) : Decidable (e.Joins scName) :=
  inferInstanceAs (Decidable (_ ∨ _))

variable {ownerName primarySC scName name : String} {topology : List ReplicationTarget}

@[simp]
theorem directed_peerName (t : ReplicationTarget) :
    (directed primarySC t).peerName = t.peerName := by
  rw [directed]
  split <;> rfl

/-- Directing an entry changes which side is which, not what they are. -/
theorem directed_joins {t : ReplicationTarget} :
    (directed primarySC t).Joins scName ↔ scName = t.source ∨ scName = t.destination := by
  rw [directed]
  split
  next => exact Or.comm
  next => exact Iff.rfl

theorem mem_newReplicationEdgesList {e : ReplicationEdge} :
    e ∈ newReplicationEdgesList topology primarySC ↔
      ∃ t ∈ topology, directed primarySC t = e := mem_map

/-- A name is listed for a StorageClass if an entry with a peer joins that and has that name. -/
theorem mem_protectionPolicyNames :
    (scName, name) ∈ protectionPolicyNamesByStorageClass ownerName primarySC topology ↔
      ∃ t ∈ topology, t.peerName ≠ "" ∧ (scName = t.source ∨ scName = t.destination) ∧
        name = policyName ownerName t.peerName := by
  simp only [protectionPolicyNamesByStorageClass, mem_flatMap, mem_filter,
    mem_cons, Prod.mk.injEq, not_mem_nil, or_false, decide_eq_true_eq]
  constructor
  · rintro ⟨t, ⟨ht, hpeer⟩, h⟩
    refine ⟨t, ht, hpeer, directed_joins.mp (h.imp And.left And.left), ?_⟩
    rcases h with ⟨-, h⟩ | ⟨-, h⟩ <;> exact h
  · rintro ⟨t, ht, hpeer, hsc, hname⟩
    exact ⟨t, ⟨ht, hpeer⟩, (directed_joins.mpr hsc).imp (⟨·, hname⟩) (⟨·, hname⟩)⟩

theorem mem_namesOf : name ∈ namesOf ownerName primarySC topology scName ↔
      (scName, name) ∈ protectionPolicyNamesByStorageClass ownerName primarySC topology := by
  simp only [namesOf, mem_map, mem_filter, decide_eq_true_eq]
  constructor
  · rintro ⟨⟨sc, n⟩, ⟨h, rfl⟩, rfl⟩
    exact h
  · exact fun h => ⟨(scName, name), ⟨h, rfl⟩, rfl⟩

theorem protectionPolicyNamesForVRC_eq_ok {names : List String}
    (h : protectionPolicyNamesForVRC ownerName primarySC topology scName = .ok names) :
    names = namesOf ownerName primarySC topology scName := by
  rw [protectionPolicyNamesForVRC] at h
  split at h
  next => cases h
  next => exact (Except.ok.inj h).symm

/-- A policy name keeps the pieces of the two names, not where the first ends. -/
theorem policyName_eq_iff {owner owner' peer peer' : String} :
    policyName owner peer = policyName owner' peer' ↔
      owner.toList.splitOn '-' ++ peer.toList.splitOn '-' =
        owner'.toList.splitOn '-' ++ peer'.toList.splitOn '-' := by
  rw [← join_eq_iff_pieces, ← String.toList_inj]
  simp [policyName]

end VastCsi.Ext.Policies
