import VastCsi.Ext.Owners
import VastCsi.Lib.Checks
import VastCsi.Lib.Mesh

/-!
# What the specs are checked for

The topology of a `VastStorageClassReplication` or a `VastVolumeReplication` has to
be a complete mesh: one entry for every two StorageClasses. The two `Validate`
functions check the entries alike, one after the other, against loops and repeated
pairs, and that the primary is one of the StorageClasses. Only that of a
`VastVolumeReplication` then looks for pairs that are missing.
-/

namespace VastCsi.Ext.Specs

open Lib CsiAddons List

/-- `%q`, for text without special characters. -/
def quoted (s : String) : String := "\"" ++ s ++ "\""

/-- What the check of a schedule uses of the package `time`. -/
structure Clock where
  parses : String → String → Bool
  now : String

structure ProtectionPolicyFrame where
  every : String
  keepLocal : String := ""
  keepRemote : String := ""
  startAt : String := ""
  deriving DecidableEq

structure ProtectionPolicyTemplate where
  params : List ProtectionPolicyFrame
  deriving DecidableEq

def isVastDuration (s : String) : Bool :=
  match s.toList.reverse with
  | [] => false
  | unit :: digits =>
    "sSmMhHdDwWyY".toList.contains unit && (!digits.isEmpty && digits.all Char.isDigit)

section Schedules

variable (clock : Clock)

def validateStartAt (s : String) : Except String Unit :=
  if clock.parses "2006-01-02 15:04:05" s then .ok ()
  else if clock.parses "15:04" s then .ok ()
  else if clock.parses "2006-01-02T15:04:05Z07:00" s then .ok ()
  else .error ("startAt " ++ quoted s ++ " must be \"YYYY-MM-DD HH:MM:SS\", \"HH:MM\", or " ++
    "RFC-3339 (e.g. " ++ quoted "2025-01-01 02:00:00" ++ ", " ++ quoted "02:00" ++ ", or " ++
    quoted clock.now ++ ")")

def ProtectionPolicyFrame.validate (f : ProtectionPolicyFrame) : Except String Unit :=
  if f.every = "" then .error "every must not be empty"
  else if !isVastDuration f.every then
    .error ("every " ++ quoted f.every ++ " is not a valid VAST duration (expected " ++
      "<number><unit>, e.g. \"15m\", \"1h\", \"2d\", \"1w\", \"1M\", \"1y\")")
  else if f.keepLocal ≠ "" ∧ !isVastDuration f.keepLocal then
    .error ("keepLocal " ++ quoted f.keepLocal ++ " is not a valid VAST duration (expected " ++
      "<number><unit>, e.g. \"2d\", \"1w\")")
  else if f.keepRemote ≠ "" ∧ !isVastDuration f.keepRemote then
    .error ("keepRemote " ++ quoted f.keepRemote ++ " is not a valid VAST duration (expected " ++
      "<number><unit>, e.g. \"7d\", \"4w\")")
  else if f.startAt ≠ "" then validateStartAt clock f.startAt
  else .ok ()

def validateParams : Nat → List ProtectionPolicyFrame → Except String Unit
  | _, [] => .ok ()
  | i, f :: fs =>
    match f.validate clock with
    | .error e => .error (s!"protectionPolicyTemplate.params[{i}]: " ++ e)
    | .ok () => validateParams (i + 1) fs

def ProtectionPolicyTemplate.validate (t : ProtectionPolicyTemplate) : Except String Unit :=
  if t.params = [] then .error "protectionPolicyTemplate.params must contain at least one entry"
  else validateParams clock 0 t.params

end Schedules

/-- `ReplicationTarget`, with the directory that only a subsystem-level
`VastStorageClassReplication` uses. -/
structure TopologyEntry extends ReplicationTarget where
  targetExportedDir : String := ""
  deriving DecidableEq

structure ReplicationSpec where
  primaryStorageClass : String
  protectionTopology : List TopologyEntry
  protectionPolicyTemplate : ProtectionPolicyTemplate
  deriving DecidableEq

def ReplicationSpec.targets (s : ReplicationSpec) : List ReplicationTarget :=
  s.protectionTopology.map TopologyEntry.toReplicationTarget

def ReplicationSpec.storageClasses (s : ReplicationSpec) : List String :=
  allStorageClasses s.targets

structure VastStorageClassReplicationSpec extends ReplicationSpec where
  pvcRemap : Bool := false
  syncPVCPV : Bool := true
  deriving DecidableEq

structure VastVolumeReplicationSpec extends ReplicationSpec where
  volumeName : String
  volumeNamespace : String := ""
  deriving DecidableEq

/-- The two entries join the same StorageClasses. -/
def samePair (t u : ReplicationTarget) : Bool :=
  (t.source == u.source && t.destination == u.destination) ||
    (t.source == u.destination && t.destination == u.source)

/-- One turn of the loop of `Validate`, after the entries before it. -/
def validateEntry (i : Nat) (seen : List ReplicationTarget) (t : ReplicationTarget) :
    Except String Unit :=
  if t.source = "" then .error s!"protectionTopology[{i}].source must not be empty"
  else if t.destination = "" then .error s!"protectionTopology[{i}].destination must not be empty"
  else if t.source = t.destination then
    .error (s!"protectionTopology[{i}]: source and destination must be different (" ++
      quoted t.source ++ ")")
  else if seen.any (samePair t) then
    .error (s!"protectionTopology[{i}]: duplicate entry between " ++ quoted t.source ++ " and " ++
      quoted t.destination)
  else .ok ()

def validateEntries : Nat → List ReplicationTarget → List ReplicationTarget → Except String Unit
  | _, _, [] => .ok ()
  | i, seen, t :: ts => do
    validateEntry i seen t
    validateEntries (i + 1) (t :: seen) ts

/-- The entries, one after the other, and the primary: what both kinds check last. -/
def validateTopology (primarySC : String) (topology : List ReplicationTarget) :
    Except String Unit := do
  validateEntries 0 [] topology
  refuseIf (primarySC ∉ allStorageClasses topology)
    ("primaryStorageClass " ++ quoted primarySC ++ " must appear in protectionTopology")

/-- The pairs of the first list that have no entry, in the order of the two nested
loops. -/
def missingFrom (topology : List ReplicationTarget) : List String → List (String × String)
  | [] => []
  | a :: rest =>
    (rest.filter fun b => !topology.any (samePair ⟨a, b, ""⟩)).map (a, ·) ++
      missingFrom topology rest

def missingPairs (topology : List ReplicationTarget) : List (String × String) :=
  missingFrom topology (allStorageClasses topology)

/-- What `VastVolumeReplicationSpec.Validate` says of missing pairs. -/
def missingText (missing : List (String × String)) : String :=
  s!"protectionTopology must form a complete mesh: missing {missing.length} pair(s): " ++
    ", ".intercalate (missing.map fun p => p.1 ++ " ↔ " ++ p.2)

def VastStorageClassReplicationSpec.validate (clock : Clock)
    (s : VastStorageClassReplicationSpec) : Except String Unit := do
  refuseIf (s.primaryStorageClass = "") "primaryStorageClass must not be empty"
  refuseIf (s.protectionTopology = []) "protectionTopology must contain at least one entry"
  s.protectionPolicyTemplate.validate clock
  refuseIf (s.pvcRemap = true ∧ s.syncPVCPV = false)
    ("pvcRemap cannot be true when syncPVCPV is false: PVC remap needs mirror PVC/PV " ++
      "pairs on secondaries; set syncPVCPV to true or disable pvcRemap")
  validateTopology s.primaryStorageClass s.targets

def VastVolumeReplicationSpec.validate (clock : Clock) (s : VastVolumeReplicationSpec) :
    Except String Unit := do
  refuseIf (s.volumeName = "") "volumeName must not be empty"
  refuseIf (s.primaryStorageClass = "") "primaryStorageClass must not be empty"
  refuseIf (s.protectionTopology = []) "protectionTopology must contain at least one entry"
  s.protectionPolicyTemplate.validate clock
  validateTopology s.primaryStorageClass s.targets
  refuseIf (missingPairs s.targets ≠ []) (missingText (missingPairs s.targets))

def validateEntriesImmutable : Nat → List TopologyEntry → List TopologyEntry → Except String Unit
  | i, o :: os, n :: ns => do
    refuseIf (o.source ≠ n.source ∨ o.destination ≠ n.destination)
      (s!"protectionTopology[{i}] is immutable: source/destination cannot change " ++
        "after creation (was " ++ quoted o.source ++ "→" ++ quoted o.destination ++ ", got " ++
        quoted n.source ++ "→" ++ quoted n.destination ++ ")")
    refuseIf (o.targetExportedDir ≠ n.targetExportedDir)
      (s!"protectionTopology[{i}] is immutable: targetExportedDir cannot change after " ++
        "creation (was " ++ quoted o.targetExportedDir ++ ", got " ++
        quoted n.targetExportedDir ++ ")")
    validateEntriesImmutable (i + 1) os ns
  | _, _, _ => .ok ()

def validateTopologyImmutable (oldTopology newTopology : List TopologyEntry) :
    Except String Unit := do
  refuseIf (oldTopology.length ≠ newTopology.length)
    "protectionTopology is immutable: the number of entries cannot change after creation"
  validateEntriesImmutable 0 oldTopology newTopology

def joins (a b : String) (t : ReplicationTarget) : Bool := samePair ⟨a, b, ""⟩ t

structure CompleteMesh (s : ReplicationSpec) : Prop where
  /-- With `n` StorageClasses there are `n(n-1)/2` entries, -/
  count : s.protectionTopology.length = s.storageClasses.length * (s.storageClasses.length - 1) / 2
  /-- one for each two of them. -/
  pairs : ∀ a ∈ s.storageClasses, ∀ b ∈ s.storageClasses, a ≠ b → s.targets.countP (joins a b) = 1
  primary : s.primaryStorageClass ∈ s.storageClasses

def edgesOf (topology : List ReplicationTarget) : List (String × String) :=
  topology.map fun t => (t.source, t.destination)

variable {topology : List ReplicationTarget} {a b primarySC : String}

theorem mem_allStorageClasses :
    a ∈ allStorageClasses topology ↔ a ∈ Mesh.vertices (edgesOf topology) := by
  simp only [allStorageClasses, mem_insertionSort, mem_dedup, mem_flatMap,
    Mesh.mem_vertices, edgesOf, mem_map, mem_cons, not_mem_nil, or_false]
  constructor
  · rintro ⟨t, ht, hends⟩
    exact ⟨_, ⟨t, ht, rfl⟩, hends⟩
  · rintro ⟨_, ⟨t, ht, rfl⟩, hends⟩
    exact ⟨t, ht, hends⟩

/-- The StorageClasses depend on the ends of the entries only. -/
theorem allStorageClasses_congr {ts us : List ReplicationTarget} (h : edgesOf ts = edgesOf us) :
    allStorageClasses ts = allStorageClasses us := by
  have hflat : ∀ ts : List ReplicationTarget, (ts.flatMap fun t => [t.source, t.destination]) =
      (edgesOf ts).flatMap fun e => [e.1, e.2] := by
    intro ts
    rw [edgesOf, flatMap_map]
  rw [allStorageClasses, allStorageClasses, hflat, hflat, h]

theorem edges_of_entriesImmutable :
    ∀ {i : Nat} {os ns : List TopologyEntry}, os.length = ns.length →
      validateEntriesImmutable i os ns = .ok () →
        edgesOf (os.map TopologyEntry.toReplicationTarget) =
          edgesOf (ns.map TopologyEntry.toReplicationTarget)
  | _, [], [], _, _ => rfl
  | i, o :: os, n :: ns, hlen, h => by
    simp only [validateEntriesImmutable, check_ok_iff, refuseIf_ok_iff, not_or, not_not] at h
    obtain ⟨⟨hsource, hdestination⟩, -, hrest⟩ := h
    have htail := edges_of_entriesImmutable (Nat.succ.inj hlen) hrest
    simp only [edgesOf, map_cons] at htail ⊢
    rw [hsource, hdestination, htail]

theorem edges_of_immutable {old new : ReplicationSpec}
    (h : validateTopologyImmutable old.protectionTopology new.protectionTopology = .ok ()) :
    edgesOf old.targets = edgesOf new.targets := by
  obtain ⟨hlen, hentries⟩ := check_ok_iff.mp h
  exact edges_of_entriesImmutable (not_not.mp (refuseIf_ok_iff.mp hlen)) hentries

theorem nodup_allStorageClasses : (allStorageClasses topology).Nodup :=
  (perm_insertionSort _ _).nodup_iff.mpr (nodup_dedup _)

theorem length_allStorageClasses :
    (allStorageClasses topology).length = (Mesh.vertices (edgesOf topology)).card := by
  rw [← toFinset_card_of_nodup nodup_allStorageClasses]
  congr 1
  ext a
  rw [mem_toFinset, mem_allStorageClasses]

variable {t : ReplicationTarget} {clock : Clock}

theorem samePair_iff {u : ReplicationTarget} :
    samePair t u = true ↔ s(t.source, t.destination) = s(u.source, u.destination) := by
  simp only [samePair, Bool.or_eq_true, Bool.and_eq_true, beq_iff_eq, Sym2.eq_iff]

/-- Some entry joins the two. -/
theorem any_samePair_iff : topology.any (samePair t) = true ↔
      s(t.source, t.destination) ∈ (edgesOf topology).map Mesh.ends := by
  simp only [any_eq_true, samePair_iff, edgesOf, map_map, mem_map, Function.comp_apply, Mesh.ends]
  exact exists_congr fun u => and_congr_right fun _ => eq_comm

theorem validateEntry_ok {i : Nat} {seen : List ReplicationTarget}
    (h : validateEntry i seen t = .ok ()) :
    (t.source ≠ "" ∧ t.destination ≠ "") ∧ t.source ≠ t.destination ∧
      seen.any (samePair t) = false := by
  rw [validateEntry] at h
  split_ifs at h with h₁ h₂ h₃ h₄
  exact ⟨⟨h₁, h₂⟩, h₃, Bool.eq_false_iff.mpr h₄⟩

/-- What the loop passes has no loops, and no pair twice or seen before. -/
theorem simple_of_validateEntries :
    ∀ {i : Nat} {seen ts : List ReplicationTarget}, validateEntries i seen ts = .ok () →
      Mesh.Simple (edgesOf seen) → Mesh.Simple (edgesOf (ts.reverse ++ seen))
  | _, _, [], _, hseen => hseen
  | i, seen, t :: ts, h, hseen => by
    rw [validateEntries] at h
    obtain ⟨ht, hts⟩ := check_ok_iff.mp h
    obtain ⟨-, hloop, hnew⟩ := validateEntry_ok ht
    rw [reverse_cons, append_assoc]
    refine simple_of_validateEntries hts (Mesh.simple_cons_iff.mpr ⟨hloop, ?_, hseen⟩)
    intro hmem
    exact Bool.false_ne_true (hnew.symm.trans (any_samePair_iff.mpr hmem))

/-- What the loop passes names its StorageClasses. -/
theorem ends_ne_of_validateEntries :
    ∀ {i : Nat} {seen ts : List ReplicationTarget}, validateEntries i seen ts = .ok () →
      ∀ t ∈ ts, t.source ≠ "" ∧ t.destination ≠ ""
  | _, _, [], _ => nofun
  | i, seen, t :: ts, h => by
    rw [validateEntries] at h
    obtain ⟨ht, hts⟩ := check_ok_iff.mp h
    exact forall_mem_cons.mpr ⟨(validateEntry_ok ht).1, ends_ne_of_validateEntries hts⟩

theorem ne_empty_of_validateEntries {i : Nat} {seen : List ReplicationTarget}
    (h : validateEntries i seen topology = .ok ()) (ha : a ∈ allStorageClasses topology) :
    a ≠ "" := by
  simp only [allStorageClasses, mem_insertionSort, mem_dedup, mem_flatMap,
    mem_cons, not_mem_nil, or_false] at ha
  obtain ⟨t, ht, rfl | rfl⟩ := ha
  · exact (ends_ne_of_validateEntries h t ht).1
  · exact (ends_ne_of_validateEntries h t ht).2

/-- What both kinds of specs are accepted with. -/
theorem validateTopology_ok (h : validateTopology primarySC topology = .ok ()) :
    Mesh.Simple (edgesOf topology) ∧ primarySC ∈ allStorageClasses topology := by
  obtain ⟨hentries, hprimary⟩ := check_ok_iff.mp h
  refine ⟨?_, not_not.mp (refuseIf_ok_iff.mp hprimary)⟩
  have hempty : Mesh.Simple (edgesOf []) := ⟨nofun, nodup_nil⟩
  refine (simple_of_validateEntries hentries hempty).perm ?_
  rw [append_nil]
  exact (reverse_perm topology).map _

theorem missingFrom_nil_iff : ∀ {scs : List String}, missingFrom topology scs = [] ↔
      scs.Pairwise fun a b => s(a, b) ∈ (edgesOf topology).map Mesh.ends
  | [] => by simp only [missingFrom, List.Pairwise.nil]
  | a :: rest => by
    rw [missingFrom, append_eq_nil_iff, map_eq_nil_iff, filter_eq_nil_iff,
      pairwise_cons, missingFrom_nil_iff]
    refine and_congr_left fun _ => forall_congr' fun b => imp_congr_right fun _ => ?_
    rw [Bool.not_eq_true, Bool.not_eq_false', any_samePair_iff]

/-- The nested loops find a pair unless every two StorageClasses are joined. -/
theorem missingPairs_nil_iff : missingPairs topology = [] ↔ Mesh.Joined (edgesOf topology) := by
  rw [missingPairs, missingFrom_nil_iff]
  constructor
  · intro h a ha b hb hne
    have : Std.Symm fun a b => s(a, b) ∈ (edgesOf topology).map Mesh.ends :=
      ⟨fun a b hab => Sym2.eq_swap ▸ hab⟩
    exact h.forall (mem_allStorageClasses.mpr ha) (mem_allStorageClasses.mpr hb) hne
  · intro h
    refine nodup_allStorageClasses.pairwise_of_forall_ne fun a ha b hb hne => ?_
    exact h a (mem_allStorageClasses.mp ha) b (mem_allStorageClasses.mp hb) hne

/-- Without repeated pairs the entries that join two StorageClasses are one or none. -/
theorem countP_joins (hs : Mesh.Simple (edgesOf topology))
    (h : s(a, b) ∈ (edgesOf topology).map Mesh.ends) : topology.countP (joins a b) = 1 := by
  have hcount : topology.countP (joins a b) = ((edgesOf topology).map Mesh.ends).count s(a, b) := by
    rw [List.count, edgesOf, map_map, countP_map]
    refine countP_congr fun t _ => ?_
    simp only [joins, samePair_iff, Function.comp_apply, Mesh.ends, beq_iff_eq]
    exact eq_comm
  rw [hcount, count_eq_one_of_mem hs.nodup h]

theorem completeMesh_iff {s : ReplicationSpec} (hs : Mesh.Simple (edgesOf s.targets))
    (hprimary : s.primaryStorageClass ∈ s.storageClasses) :
    CompleteMesh s ↔ Mesh.Joined (edgesOf s.targets) := by
  have hlen : s.protectionTopology.length = (edgesOf s.targets).length := by
    rw [edgesOf, ReplicationSpec.targets, length_map, length_map]
  have hcount : s.protectionTopology.length =
      s.storageClasses.length * (s.storageClasses.length - 1) / 2 ↔
        Mesh.Joined (edgesOf s.targets) := by
    rw [Mesh.joined_iff_length hs, ← length_allStorageClasses, Nat.choose_two_right, hlen]
    rfl
  constructor
  · exact fun h => hcount.mp h.count
  · intro h
    refine ⟨hcount.mpr h, fun a ha b hb hne => countP_joins hs ?_, hprimary⟩
    exact h a (mem_allStorageClasses.mp ha) b (mem_allStorageClasses.mp hb) hne

theorem VastStorageClassReplicationSpec.validate_ok {s : VastStorageClassReplicationSpec}
    (h : s.validate clock = .ok ()) :
    validateTopology s.primaryStorageClass s.targets = .ok () := by
  simp only [VastStorageClassReplicationSpec.validate, check_ok_iff] at h
  exact h.2.2.2.2

/-- Any of the StorageClasses may be the primary. -/
theorem VastStorageClassReplicationSpec.validate_switch {s : VastStorageClassReplicationSpec}
    (h : s.validate clock = .ok ()) (ha : a ∈ s.storageClasses) :
    { s with primaryStorageClass := a }.validate clock = .ok () := by
  simp only [VastStorageClassReplicationSpec.validate, validateTopology, check_ok_iff,
    refuseIf_ok_iff] at h ⊢
  obtain ⟨-, htopology, htemplate, hremap, hentries, -⟩ := h
  exact ⟨ne_empty_of_validateEntries hentries ha, htopology, htemplate, hremap, hentries,
    not_not.mpr ha⟩

theorem VastVolumeReplicationSpec.validate_ok {s : VastVolumeReplicationSpec}
    (h : s.validate clock = .ok ()) :
    validateTopology s.primaryStorageClass s.targets = .ok () ∧ missingPairs s.targets = [] := by
  simp only [VastVolumeReplicationSpec.validate, check_ok_iff, refuseIf_ok_iff, not_not] at h
  exact h.2.2.2.2

/-- **Which accepted topologies are complete**: that of a `VastVolumeReplication`, and that of a
`VastStorageClassReplication` exactly when no pair is missing, which is not checked. -/
theorem mesh_complete_iff (clock : Clock) :
    (∀ s : VastVolumeReplicationSpec, s.validate clock = .ok () →
      CompleteMesh s.toReplicationSpec) ∧
    ∀ s : VastStorageClassReplicationSpec, s.validate clock = .ok () →
      (CompleteMesh s.toReplicationSpec ↔ missingPairs s.targets = []) := by
  constructor
  · intro s h
    obtain ⟨htop, hmissing⟩ := s.validate_ok h
    obtain ⟨hs, hprimary⟩ := validateTopology_ok htop
    exact (completeMesh_iff hs hprimary).mpr (missingPairs_nil_iff.mp hmissing)
  · intro s h
    obtain ⟨hs, hprimary⟩ := validateTopology_ok (s.validate_ok h)
    rw [completeMesh_iff hs hprimary, missingPairs_nil_iff]

def noStart : Clock := ⟨fun _ _ => false, "2026-01-01T00:00:00Z"⟩

def specOf (primarySC : String) (pairs : List (String × String)) : ReplicationSpec where
  primaryStorageClass := primarySC
  protectionTopology := pairs.map fun p => { source := p.1, destination := p.2, peerName := "" }
  protectionPolicyTemplate := ⟨[{ every := "15m" }]⟩

def triangle : ReplicationSpec :=
  specOf "east" [("east", "west"), ("north", "east"), ("west", "north")]

theorem mesh_complete_iff_triangle :
    CompleteMesh triangle ∧ missingPairs triangle.targets = [] := by
  have hvvr := (mesh_complete_iff noStart).1
    { triangle with volumeName := "data" } (by decide +kernel)
  exact ⟨hvvr, ((mesh_complete_iff noStart).2 { triangle with } (by decide +kernel)).mp hvvr⟩

def row : VastStorageClassReplicationSpec :=
  { specOf "east" [("east", "west"), ("west", "north")] with }

/-- **A pair may be missing.** Three clusters in a row pass, and the outer two have no
entry. -/
theorem row_is_accepted :
    row.validate noStart = .ok () ∧ row.targets.countP (joins "east" "north") = 0 ∧
      ¬CompleteMesh row.toReplicationSpec := by
  have hnone : row.targets.countP (joins "east" "north") = 0 := by decide +kernel
  refine ⟨by decide +kernel, hnone, fun h => ?_⟩
  have hone := h.pairs "east" (by decide +kernel) "north" (by decide +kernel) (by decide)
  rw [hnone] at hone
  cases hone

end VastCsi.Ext.Specs
