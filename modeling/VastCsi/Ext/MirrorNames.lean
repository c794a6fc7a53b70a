import VastCsi.Ext.Mirrors
import VastCsi.Ext.ObjectNames

/-!
# What is found under the name of a mirror

A mirror is named after its source and the endpoint of its StorageClass, sanitized and cut to 253
characters, and whatever is there under the two names is taken for it: the mirror of another
StorageClass of the same cluster, somebody's claim, or the source itself.

So a call that returns leaves the cluster with the two objects inserted where their names are free
(`meets_ensureMirrorPVCPV`), and the source has a mirror afterwards exactly when it had one, or the
name was free and the PV under the PV's name is that of the mirror (`mirrored_withMirror_iff`).
-/

namespace VastCsi.Ext.Contents

open Lib CsiAddons Table

/-- The default formats, `{pvc_name}-repl-{endpoint}` and `{pv_name}-repl-{endpoint}`; `host` is
the endpoint without scheme and port. -/
def replName (name host : String) : String :=
  String.ofList (Names.sanitizeK8sName
    (name.toList ++ "-repl-".toList ++ Names.slugify host.toList))

/-- `FormatPVCName` and `FormatPVName` with the default formats. -/
def Outcomes.withNames (out : Outcomes) (source : VolumePair) (host : String) : Outcomes :=
  { out with
    destPVCName := fun _ => .ok (replName source.pvc.name host)
    destPVName := fun _ => .ok (replName source.pv.name host) }

/-- A claim of the StorageClass that is labelled with the source. -/
structure IsMirror (r : Content) (source : VolumePair) (q : Pvc) : Prop where
  label : q.mirror.isSome = true ∧ q.sourcePVC = source.pvc.name
  storageClass : q.storageClass = r.storageClass

structure IsMirrorPv (r : Content) (handle : String) (x : Pv) : Prop where
  handle : x.volumeHandle = handle
  storageClass : x.storageClass = r.storageClass

/-- There is a mirror of the source. -/
def Mirrored (r : Content) (source : VolumePair) (handle : String) (c : Cluster) : Prop :=
  ∃ q ∈ c.pvcs, q.key ≠ source.pvc.key ∧ q.namespaceName = source.pvc.namespaceName ∧
    IsMirror r source q ∧ ∃ x ∈ c.pvs, x.name = q.volumeName ∧ IsMirrorPv r handle x

/-- What a volume name stands for once the mirror's PV is ensured: a PV that is there is taken as
it is, and only under the mirror's own name is one made. -/
def PvFits (r : Content) (pvName handle : String) (c : Cluster) (name : String) : Prop :=
  match c.pvs.find? name with
  | some x => IsMirrorPv r handle x
  | none => name = pvName

/-- The source has a mirror already, under whatever name, whose volume is there or will be. -/
def MirrorThere (r : Content) (source : VolumePair) (pvName handle : String) (c : Cluster) : Prop :=
  ∃ q ∈ c.pvcs, q.key ≠ source.pvc.key ∧ q.namespaceName = source.pvc.namespaceName ∧
    IsMirror r source q ∧ PvFits r pvName handle c q.volumeName

/-- The name of the mirror is free and not the source's, and so is that of its PV, or it is the
name of a PV of the mirror. -/
structure MirrorNew (r : Content) (source : VolumePair) (pvcName pvName handle : String)
    (c : Cluster) : Prop where
  other : pvcName ≠ source.pvc.name
  free : c.pvcs.find? (source.pvc.namespaceName, pvcName) = none
  pv : PvFits r pvName handle c pvName

/-- The cluster with these two objects, each unless there is one of its name. -/
def Cluster.withMirror (c : Cluster) (pvc : Pvc) (pv : Pv) : Cluster :=
  { c with pvs := c.pvs.insert pv, pvcs := c.pvcs.insert pvc }

section Rules

variable {r : Content} {source : VolumePair} {c : Cluster} {P : Cluster → Prop}
  {E : KErr → Cluster → Prop} {pvcName pvName handle : String}

theorem meets_value {β : Type} {context : String} {e : Except KErr String} {a : String}
    {f : String → Rec β} {Q : β → Cluster → Prop} (h : e = .ok a) (hf : Meets P (f a) Q E) :
    Meets P (withContext context (returned e) >>= f) Q E := by
  subst h
  exact hf

theorem meets_ensurePV (out : Outcomes) (pv : Pv) : Yields (· = c) (ensurePV out pv)
      (fun _ c' => c' = { c with pvs := c.pvs.insert pv }) := by
  refine .bind meets_lookup.okOnly fun found => ?_
  cases found with
  | some x =>
    refine .pure ?_
    rintro _ ⟨rfl, hfound⟩
    rw [insert_of_find? hfound.symm]
  | none =>
    refine meets_call (fun _ _ => trivial) (fun _ _ _ => trivial) ?_
    rintro _ ⟨rfl, -⟩
    rfl

theorem meets_ensurePVC (out : Outcomes) (pvc : Pvc) : Yields (· = c) (ensurePVC out pvc)
      (fun _ c' => c' = { c with pvcs := c.pvcs.insert pvc }) := by
  refine .bind meets_lookup.okOnly fun found => ?_
  cases found with
  | some x =>
    refine .pure ?_
    rintro _ ⟨rfl, hfound⟩
    rw [insert_of_find? hfound.symm]
  | none =>
    refine meets_call (fun _ _ => trivial) (fun _ _ _ => trivial) ?_
    rintro _ ⟨rfl, -⟩
    rfl

theorem meets_ensureMirrorPVCPV (out : Outcomes)
    (hpvcName : out.destPVCName source.pvc.name = .ok pvcName)
    (hpvName : out.destPVName source.pvc.name = .ok pvName)
    (hhandle : out.mirrorHandle source.pv.volumeHandle = .ok handle) :
    Yields (· = c) (ensureMirrorPVCPV out r source) (fun _ c' =>
      c' = c.withMirror (mirrorPvc r source pvcName pvName) (mirrorPv r source pvName handle)) := by
  have hrequire : ∀ {b : Bool} {text : String},
      Yields (· = c) (require b text) (fun _ c' => c' = c) :=
    .assertThat (fun _ _ hc => hc) fun _ _ _ => trivial
  refine .bind hrequire fun _ => meets_value hpvcName (meets_value hpvName ?_)
  refine .bind hrequire fun _ => .bind hrequire fun _ => .bind hrequire fun _ => ?_
  refine meets_value hhandle (.bind (meets_withContext (meets_ensurePV out _)) fun _ => ?_)
  exact .bind (meets_withContext (meets_ensurePVC out _)) fun _ => .pure fun _ hc => hc

/-- The PVs of the mirror under a name, after the mirror's own PV is ensured. -/
theorem pvFits_iff {name : String} :
    (∃ x ∈ c.pvs.insert (mirrorPv r source pvName handle), x.name = name ∧ IsMirrorPv r handle x) ↔
      PvFits r pvName handle c name := by
  unfold PvFits
  cases hfind : c.pvs.find? name with
  | some x₀ =>
    obtain ⟨hx₀, hname₀⟩ := find?_eq_some_iff.mp hfind
    refine ⟨?_, fun h => ⟨x₀, mem_insert_of_mem hx₀, hname₀, h⟩⟩
    rintro ⟨x, hx, hname, hfits⟩
    rcases mem_insert.mp hx with hx | ⟨rfl, hfree⟩
    · exact eq_of_key hx hx₀ (hname.trans hname₀.symm) ▸ hfits
    · have hnone := hasKey_eq_false_iff.mp hfree
      rw [hname, hfind] at hnone
      cases hnone
  | none =>
    constructor
    · rintro ⟨x, hx, hname, -⟩
      rcases mem_insert.mp hx with hx | ⟨rfl, -⟩
      · rw [find?_eq_some_iff.mpr ⟨hx, hname⟩] at hfind
        cases hfind
      · exact hname.symm
    · rintro rfl
      exact ⟨_, mem_insert.mpr (.inr ⟨rfl, hasKey_eq_false_iff.mpr hfind⟩), rfl, rfl, rfl⟩

theorem mirrored_withMirror_iff :
    Mirrored r source handle
        (c.withMirror (mirrorPvc r source pvcName pvName) (mirrorPv r source pvName handle)) ↔
      MirrorThere r source pvName handle c ∨ MirrorNew r source pvcName pvName handle c := by
  constructor
  · rintro ⟨q, hq, hkey, hns, hmirror, hpv⟩
    rcases mem_insert.mp hq with hq | ⟨rfl, hfree⟩
    · exact .inl ⟨q, hq, hkey, hns, hmirror, pvFits_iff.mp hpv⟩
    · refine .inr ⟨fun heq => hkey ?_, hasKey_eq_false_iff.mp hfree, pvFits_iff.mp hpv⟩
      rw [heq]
      rfl
  · rintro (⟨q, hq, hkey, hns, hmirror, hpv⟩ | hnew)
    · exact ⟨q, mem_insert_of_mem hq, hkey, hns, hmirror, pvFits_iff.mpr hpv⟩
    · refine ⟨_, mem_insert.mpr (.inr ⟨rfl, hasKey_eq_false_iff.mpr hnew.free⟩), fun heq => ?_, rfl,
        ⟨⟨rfl, rfl⟩, rfl⟩, pvFits_iff.mpr hnew.pv⟩
      exact hnew.other (congrArg Prod.snd heq)

end Rules

/-- **A mirror is there**: when `ensureMirrorPVCPV` returns without error, with the default names,
the source has its mirror exactly when it had one already, under any name, or the names of the
mirror are free for it. -/
theorem mirrored_iff (out : Outcomes) (r : Content) (source : VolumePair) (host : String)
    {handle : String} {created : Bool} {c c' : Cluster}
    (hhandle : out.mirrorHandle source.pv.volumeHandle = .ok handle)
    (hrun : ensureMirrorPVCPV (out.withNames source host) r source c = .ok created c') :
    Mirrored r source handle c' ↔ MirrorThere r source (replName source.pv.name host) handle c ∨
      MirrorNew r source (replName source.pvc.name host) (replName source.pv.name host) handle
        c := by
  rw [(meets_ensureMirrorPVCPV (out.withNames source host) rfl rfl hhandle).ok rfl hrun]
  exact mirrored_withMirror_iff

def claimOfEast : VolumePair where
  pvc := { namespaceName := "data", name := "db", storageClass := "east", volumeName := "pv" }
  pv := { name := "pv", volumeHandle := "h", csiDriver := "d", capacity := 1 }

def onlyClaim : Cluster where
  contents := Table.empty
  pvcs := ⟨[claimOfEast.pvc], by decide⟩
  pvs := ⟨[claimOfEast.pv], by decide⟩
  vast := fun _ => { snapshots := Table.empty, ppaths := Table.empty }

def contentOf (scName : String) : Content where
  namespaceName := "data"
  name := scName
  storageClass := scName
  owner := { kind := .vscr, namespaceName := "data", name := "v" }

/-- The claim gets its mirror in a StorageClass, at an endpoint that they all share. -/
def mirrorTo (scName : String) : Rec Bool :=
  ensureMirrorPVCPV (Outcomes.withNames {} claimOfEast "10.0.0.1") (contentOf scName) claimOfEast

/-- The claim has a mirror of west under the name, bound to a PV of another name. -/
def boundElsewhere : Cluster where
  contents := Table.empty
  pvcs := ⟨[claimOfEast.pvc, mirrorPvc (contentOf "west") claimOfEast "db-repl-10-0-0-1" "pv-old"],
    by decide⟩
  pvs := ⟨[claimOfEast.pv, mirrorPv (contentOf "west") claimOfEast "pv-old" "h"], by decide⟩
  vast := fun _ => { snapshots := Table.empty, ppaths := Table.empty }

theorem mirrored_iff_west :
    (∃ c, mirrorTo "west" onlyClaim = .ok true c ∧ Mirrored (contentOf "west") claimOfEast "h" c) ∧
      ∃ c, mirrorTo "west" boundElsewhere = .ok true c ∧
        Mirrored (contentOf "west") claimOfEast "h" c := by
  refine ⟨⟨_, rfl, ?_⟩, ⟨_, rfl, ?_⟩⟩
  · refine (mirrored_iff {} (contentOf "west") claimOfEast "10.0.0.1" (c := onlyClaim) rfl rfl).mpr
      (.inr ?_)
    have hfree : onlyClaim.pvs.find? (replName claimOfEast.pv.name "10.0.0.1") = none := by
      decide +kernel
    exact ⟨by decide +kernel, by decide +kernel, by rw [PvFits, hfree]⟩
  · refine (mirrored_iff {} (contentOf "west") claimOfEast "10.0.0.1" (c := boundElsewhere)
      rfl rfl).mpr (.inl ?_)
    exact ⟨_, .tail _ (.head _), by decide, rfl, ⟨⟨rfl, rfl⟩, rfl⟩, rfl, rfl⟩

/-- The endpoint is the same: the second StorageClass gets no mirror, without an error. -/
theorem second_class_unmirrored :
    (match forEach (fun scName => do let _ ← mirrorTo scName) ["west", "south"] onlyClaim with
      | .ok _ c => c.pvcs.rows.map fun q => (q.name, q.storageClass)
      | .error _ _ => []) = [("db", "east"), ("db-repl-10-0-0-1", "west")] := by
  decide +kernel

end VastCsi.Ext.Contents
