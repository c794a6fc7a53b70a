import Mathlib.Data.List.Dedup
import VastCsi.Lib.Components

/-!
# The members of a volume group

A volume group is what lies under the `source_dir` of a protected path. VMS is asked for the views
whose path starts with `source_dir`, and for the volumes of the subsystem above it whose name
contains the rest of `source_dir`. Neither is containment of directories. Texts are their
characters here.

A listing is exact iff no object meets one of the two conditions only (`filter_eq_filter_iff`), and
such an object is a sibling whose text continues that of `source_dir`.
-/

namespace VastCsi.Csi.GroupMembers

open Lib.Components List
open VastCsi.Lib.Text (words unwords occurs occurs_iff lstrip words_append)

structure View where
  name : List Char
  path : List Char
  deriving DecidableEq, Repr

structure Volume where
  name : List Char
  subsystem : View
  deriving DecidableEq, Repr

def Volume.path (v : Volume) : List Char := v.subsystem.path ++ '/' :: v.name

structure Ppath where
  name : List Char
  sourceDir : List Char
  deriving DecidableEq, Repr

structure Vms where
  views : List View
  volumes : List Volume
  ppaths : List Ppath

inductive Err where
  | noRecordsFound
  | tooMany
  | notFound (message : String)
  | endless
  deriving DecidableEq, Repr

def one {α : Type} (rows : List α) : Except Err (Option α) :=
  match rows with
  | [] => .ok none
  | [row] => .ok (some row)
  | _ => .error .tooMany

def oneOrFail {α : Type} (rows : List α) : Except Err α :=
  match one rows with
  | .ok (some row) => .ok row
  | .ok none => .error .noRecordsFound
  | .error e => .error e

def Vms.viewsStartingWith (c : Vms) (dir : List Char) : List View :=
  c.views.filter fun v => dir.isPrefixOf v.path

/-- `volumes.list(subsystem_name=…)`, with `name__contains=…` unless the text is empty. -/
def Vms.volumesContaining (c : Vms) (subsystem text : List Char) : List Volume :=
  c.volumes.filter fun v => v.subsystem.name == subsystem && (text.isEmpty || occurs text v.name)

/-- `text.split(c, 1)`, when `c` is in the text. -/
def splitAtFirst (c : Char) (text : List Char) : Option (List Char × List Char) :=
  match text.dropWhile (· != c) with
  | [] => none
  | _ :: rest => some (text.takeWhile (· != c), rest)

def parseVolumeGroupId (encodedId : List Char) : List Char × List Char :=
  match splitAtFirst '@' encodedId with
  | none => (encodedId, [])
  | some (suffix, params) =>
    let pairs := (params.splitOn ':').filterMap (splitAtFirst '=')
    -- a later value of a key replaces an earlier one
    (suffix, (pairs.reverse.lookup ['n']).getD [])

def Vms.groupPpath (c : Vms) (volumeGroupId : List Char) : Except Err Ppath :=
  oneOrFail (c.ppaths.filter fun p => p.name == (parseVolumeGroupId volumeGroupId).2)

structure VolumeGroup where
  volumeGroupId : List Char
  type : String
  volumes : List (List Char)
  deriving DecidableEq, Repr

/-- `NFSVolumeGroupController._get_volume_group_impl`. -/
def nfsGetVolumeGroup (c : Vms) (volumeGroupId : List Char) : Except Err VolumeGroup := do
  let ppath ← c.groupPpath volumeGroupId
  let views := c.viewsStartingWith ppath.sourceDir
  .ok ⟨volumeGroupId, "NFS", views.map fun v => basename v.path⟩

/-- `NFSReplicationController._list_volumes_in_group`. -/
def nfsListVolumesInGroup (c : Vms) (volumeGroupId : List Char) : Except Err (List View) := do
  let ppath ← c.groupPpath volumeGroupId
  .ok (c.viewsStartingWith ppath.sourceDir)

def commaSorted (texts : List (List Char)) : String :=
  ", ".intercalate ((texts.map String.ofList).mergeSort fun a b => decide (a ≤ b))

def validateVolumeGroupMembership (c : Vms) (volumeIds : List (List Char)) (baseDir : List Char) :
    Except Err Unit :=
  let idsByBaseDir := (c.viewsStartingWith baseDir).map fun v => basename v.path
  let missing := ((volumeIds.map basename).filter fun i => !idsByBaseDir.contains i).dedup
  if missing = [] then .ok ()
  else
    let count := missing.length
    let dir := String.ofList baseDir
    let names := commaSorted missing
    .error (.notFound s!"{count} volume(s) not found in {dir}: {names}")

/-- `_find_subsystem_for_source_dir`, from a directory up; only a text that is its own `dirname`
keeps it going for ever. -/
def findSubsystem (c : Vms) (sourceDir : List Char) : Nat → List Char → Except Err View
  | 0, _ => .error .endless
  | n + 1, path =>
    if path = [] ∨ path = ['/'] then
      let dir := String.ofList sourceDir
      .error (.notFound s!"No NVMe subsystem found covering source_dir '{dir}'")
    else
      match one (c.views.filter fun v => v.path == path) with
      | .error e => .error e
      | .ok (some sub) => .ok sub
      | .ok none => findSubsystem c sourceDir n (dirname path)

def findSubsystemForSourceDir (c : Vms) (sourceDir : List Char) : Except Err View :=
  findSubsystem c sourceDir (sourceDir.length + 1) (dirname sourceDir)

/-- What `source_dir` adds to the path of the subsystem. -/
def relativeTo (subsystem : View) (sourceDir : List Char) : List Char :=
  lstrip '/' (sourceDir.drop subsystem.path.length)

/-- `BlockReplicationController._list_volumes_in_group`. -/
def blockListVolumesInGroup (c : Vms) (volumeGroupId : List Char) : Except Err (List Volume) := do
  let ppath ← c.groupPpath volumeGroupId
  let subsystem ← findSubsystemForSourceDir c ppath.sourceDir
  .ok (c.volumesContaining subsystem.name (relativeTo subsystem ppath.sourceDir))

/-- `BlockVolumeGroupController._get_volume_group_impl`. -/
def blockGetVolumeGroup (c : Vms) (volumeGroupId : List Char) : Except Err VolumeGroup := do
  let ppath ← c.groupPpath volumeGroupId
  let subsystem ← findSubsystemForSourceDir c ppath.sourceDir
  let volumes := c.volumesContaining subsystem.name (relativeTo subsystem ppath.sourceDir)
  .ok ⟨volumeGroupId, "BLOCK", volumes.map fun v => basename v.name⟩

/-- The NFS controllers have exactly the views under `source_dir`. -/
structure NfsExact (c : Vms) (volumeGroupId sourceDir : List Char) : Prop where
  get : nfsGetVolumeGroup c volumeGroupId = .ok ⟨volumeGroupId, "NFS",
    (c.views.filter fun v => isUnder sourceDir v.path).map fun v => basename v.path⟩
  list : nfsListVolumesInGroup c volumeGroupId =
    .ok (c.views.filter fun v => isUnder sourceDir v.path)
  validate : ∀ volumeIds, validateVolumeGroupMembership c volumeIds sourceDir = .ok () ↔
    ∀ i ∈ volumeIds, ∃ v ∈ c.views, isUnder sourceDir v.path = true ∧ basename v.path = basename i

/-- The block controllers have exactly the volumes under `source_dir`. -/
structure BlockExact (c : Vms) (volumeGroupId sourceDir : List Char) : Prop where
  get : blockGetVolumeGroup c volumeGroupId = .ok ⟨volumeGroupId, "BLOCK",
    (c.volumes.filter fun v => isUnder sourceDir v.path).map fun v => basename v.name⟩
  list : blockListVolumesInGroup c volumeGroupId =
    .ok (c.volumes.filter fun v => isUnder sourceDir v.path)

section

variable {c : Vms} {volumeGroupId : List Char} {ppath : Ppath} {sub : View}

theorem filter_eq_filter_iff {α : Type} {p q : α → Bool} {l : List α} :
    l.filter p = l.filter q ↔ ∀ x ∈ l, p x = q x := by
  constructor
  · intro h x hx
    rw [Bool.eq_iff_iff]
    have hmem : x ∈ l.filter p ↔ x ∈ l.filter q := by rw [h]
    simpa only [mem_filter, hx, true_and] using hmem
  · exact filter_congr

variable {dir : List Char}

theorem validate_iff {volumeIds : List (List Char)} :
    validateVolumeGroupMembership c volumeIds dir = .ok () ↔
      ∀ i ∈ volumeIds, ∃ v ∈ c.viewsStartingWith dir, basename v.path = basename i := by
  unfold validateVolumeGroupMembership
  dsimp only
  have hmissing : ((volumeIds.map basename).filter fun i =>
      !((c.viewsStartingWith dir).map fun v => basename v.path).contains i).dedup = [] ↔
      ∀ i ∈ volumeIds, ∃ v ∈ c.viewsStartingWith dir, basename v.path = basename i := by
    rw [dedup_eq_nil, filter_eq_nil_iff]
    simp
  split
  · next h => exact iff_of_true rfl (hmissing.mp h)
  · next h => exact iff_of_false nofun fun hall => h (hmissing.mpr hall)

/-- The views that start with `source_dir` are those under it, unless there is a sibling. -/
theorem viewsStartingWith_iff (hdir : IsRooted dir) (hviews : ∀ v ∈ c.views, IsRooted v.path) :
    c.viewsStartingWith dir = (c.views.filter fun v => isUnder dir v.path) ↔
      ∀ v ∈ c.views, ¬ Sibling dir v.path := by
  rw [Vms.viewsStartingWith, filter_eq_filter_iff]
  refine forall₂_congr fun v hv => ?_
  by_cases hp : dir <+: v.path
  · rw [← isUnder_iff_of_starts hdir (hviews v hv) hp, isPrefixOf_iff_prefix.mpr hp, eq_comm]
  · have hnot : isUnder dir v.path = false := by
      rw [Bool.eq_false_iff]
      exact fun h => hp (prefix_of_isUnder hdir (hviews v hv) h)
    have hpre : dir.isPrefixOf v.path = false := by
      rw [Bool.eq_false_iff]
      exact fun h => hp (List.isPrefixOf_iff_prefix.mp h)
    rw [hnot, hpre]
    exact iff_of_true rfl fun h => hp h.isPrefix

theorem nfsExact_iff (hpp : c.groupPpath volumeGroupId = .ok ppath)
    (hdir : IsRooted ppath.sourceDir) (hviews : ∀ v ∈ c.views, IsRooted v.path) :
    NfsExact c volumeGroupId ppath.sourceDir ↔ ∀ v ∈ c.views, ¬ Sibling ppath.sourceDir v.path := by
  have hlist : nfsListVolumesInGroup c volumeGroupId =
      .ok (c.viewsStartingWith ppath.sourceDir) := by
    rw [nfsListVolumesInGroup, hpp]
    rfl
  rw [← viewsStartingWith_iff hdir hviews]
  constructor
  · intro h
    exact Except.ok.inj (hlist.symm.trans h.list)
  · intro h
    refine ⟨?_, by rw [hlist, h], fun volumeIds => ?_⟩
    · rw [nfsGetVolumeGroup, hpp, ← h]
      rfl
    · rw [validate_iff, h]
      simp only [mem_filter, and_assoc]

theorem mem_of_one {α : Type} {rows : List α} {row : α} (h : one rows = .ok (some row)) :
    row ∈ rows := by
  unfold one at h
  split at h
  · cases h
  · cases h
    exact mem_singleton_self _
  · cases h

/-- The walk up the directories finds a view strictly above `source_dir`. -/
theorem findSubsystem_spec {ws : List (List Char)} (hws : ∀ w ∈ ws, Component w) :
    ∀ (n : Nat) {vs t : List (List Char)}, ws = vs ++ t → t ≠ [] →
      findSubsystem c dir n (rooted vs) = .ok sub →
        ∃ a b, ws = a ++ b ∧ a ≠ [] ∧ b ≠ [] ∧ sub ∈ c.views ∧ sub.path = rooted a
  | 0, _, _, _, _, h => nomatch h
  | n + 1, vs, t, heq, ht, h => by
    rw [findSubsystem] at h
    split at h
    · cases h
    next hpath =>
      have hvs : vs ≠ [] := by
        rintro rfl
        exact hpath (Or.inr rfl)
      split at h
      · cases h
      · next found hone =>
        cases h
        obtain ⟨hmem, hpath⟩ := mem_filter.mp (mem_of_one hone)
        exact ⟨vs, t, heq, hvs, ht, hmem, eq_of_beq hpath⟩
      · next hone =>
        -- nothing here: one directory up
        rcases eq_nil_or_concat vs with rfl | ⟨us, u, rfl⟩
        · exact absurd rfl hvs
        · rw [concat_eq_append] at heq h
          have hcomp : ∀ w ∈ us ++ [u], Component w := fun w hw =>
            hws w (heq ▸ mem_append_left t hw)
          rw [dirname_rooted (fun w hw => hcomp w (mem_append_left _ hw))
            (hcomp u (mem_append_right _ (mem_singleton_self u)))] at h
          rw [append_assoc] at heq
          exact findSubsystem_spec hws n heq (by simp) h

/-- `source_dir` is the path of the subsystem that is found, and the rest. -/
theorem relativeTo_spec (hdir : IsRooted dir) (h : findSubsystemForSourceDir c dir = .ok sub) :
    sub ∈ c.views ∧ ∃ b, (∀ w ∈ b, Component w) ∧ b ≠ [] ∧ relativeTo sub dir = unwords '/' b ∧
        words '/' dir = words '/' sub.path ++ b := by
  obtain ⟨ws, hws, rfl⟩ := hdir
  rcases eq_nil_or_concat ws with rfl | ⟨vs, w, rfl⟩
  · -- the root has no parent
    cases h
  rw [concat_eq_append] at hws h ⊢
  have hvs : ∀ v ∈ vs, Component v := fun v hv => hws v (mem_append_left _ hv)
  rw [findSubsystemForSourceDir, dirname_rooted hvs
    (hws w (mem_append_right _ (mem_singleton_self w)))] at h
  obtain ⟨a, b, heq, ha, hb, hmem, hpath⟩ := findSubsystem_spec hws _ rfl (cons_ne_nil w []) h
  have hac : ∀ v ∈ a, Component v := fun v hv => hws v (heq ▸ mem_append_left b hv)
  have hbc : ∀ v ∈ b, Component v := fun v hv => hws v (heq ▸ mem_append_right a hv)
  refine ⟨hmem, b, hbc, hb, ?_, ?_⟩
  · rw [relativeTo, hpath, heq, rooted_append ha hb, drop_left]
    exact lstrip_cons_of_head (head?_unwords hbc)
  · rw [words_rooted hws, hpath, words_rooted hac, heq]

/-- The volumes that the block controllers ask for, when there is a subsystem. -/
theorem volumesContaining_iff (hdir : IsRooted dir) (hnames : ∀ v ∈ c.volumes, IsRelative v.name)
    (hunique : ∀ v ∈ c.volumes, ∀ w ∈ c.views, v.subsystem.name = w.name → v.subsystem = w)
    (h : findSubsystemForSourceDir c dir = .ok sub) :
    c.volumesContaining sub.name (relativeTo sub dir) =
        (c.volumes.filter fun v => isUnder dir v.path) ↔
      (∀ v ∈ c.volumes, v.subsystem.name = sub.name → occurs (relativeTo sub dir) v.name = true →
        isUnder dir v.path = true) ∧
      ∀ v ∈ c.volumes, isUnder dir v.path = true → v.subsystem.name = sub.name := by
  obtain ⟨hmem, b, hbc, hb, hrel, hwords⟩ := relativeTo_spec hdir h
  -- a volume of the subsystem under `dir` has the rest in its name
  have hunder : ∀ v ∈ c.volumes, v.subsystem.name = sub.name → isUnder dir v.path = true →
      occurs (relativeTo sub dir) v.name = true := by
    intro v hv hname hu
    obtain ⟨ns, hns, hn⟩ := hnames v hv
    rw [isUnder_iff, Volume.path, hunique v hv sub hmem hname, words_append, hwords, hn,
      words_unwords hns, prefix_append_right_inj] at hu
    rw [hrel, hn, occurs_iff]
    exact (unwords_starts hu).isInfix
  have hrest : (relativeTo sub dir).isEmpty = false := by
    rw [hrel, isEmpty_eq_false_iff]
    exact unwords_ne_nil hbc hb
  rw [Vms.volumesContaining, filter_eq_filter_iff]
  refine (forall₂_congr fun v _ => Bool.eq_iff_iff).trans ?_
  simp only [hrest, Bool.false_or, Bool.and_eq_true, beq_iff_eq]
  constructor
  · intro hall
    exact ⟨fun v hv hname hocc => (hall v hv).mp ⟨hname, hocc⟩,
      fun v hv hu => ((hall v hv).mpr hu).1⟩
  · rintro ⟨hstray, helse⟩ v hv
    exact ⟨fun hp => hstray v hv hp.1 hp.2,
      fun hu => ⟨helse v hv hu, hunder v hv (helse v hv hu) hu⟩⟩

theorem blockExact_iff (hpp : c.groupPpath volumeGroupId = .ok ppath)
    (hdir : IsRooted ppath.sourceDir) (hnames : ∀ v ∈ c.volumes, IsRelative v.name)
    (hunique : ∀ v ∈ c.volumes, ∀ w ∈ c.views, v.subsystem.name = w.name → v.subsystem = w) :
    BlockExact c volumeGroupId ppath.sourceDir ↔
      ∃ sub, findSubsystemForSourceDir c ppath.sourceDir = .ok sub ∧
        (∀ v ∈ c.volumes, v.subsystem.name = sub.name →
          occurs (relativeTo sub ppath.sourceDir) v.name = true →
            isUnder ppath.sourceDir v.path = true) ∧
        ∀ v ∈ c.volumes, isUnder ppath.sourceDir v.path = true → v.subsystem.name = sub.name := by
  cases hsub : findSubsystemForSourceDir c ppath.sourceDir with
  | error e =>
    refine iff_of_false (fun h => ?_) fun ⟨_, h, _⟩ => nomatch h
    have hlist := h.list
    rw [blockListVolumesInGroup, hpp] at hlist
    change (findSubsystemForSourceDir c ppath.sourceDir >>= _) = _ at hlist
    rw [hsub] at hlist
    cases hlist
  | ok sub =>
    have hlist : blockListVolumesInGroup c volumeGroupId =
        .ok (c.volumesContaining sub.name (relativeTo sub ppath.sourceDir)) := by
      rw [blockListVolumesInGroup, hpp]
      change (findSubsystemForSourceDir c ppath.sourceDir >>= _) = _
      rw [hsub]
      rfl
    have hiff := volumesContaining_iff hdir hnames hunique hsub
    constructor
    · intro h
      exact ⟨sub, rfl, hiff.mp (Except.ok.inj (hlist.symm.trans h.list))⟩
    · rintro ⟨_, ⟨rfl⟩, hcond⟩
      have heq := hiff.mpr hcond
      refine ⟨?_, by rw [hlist, heq]⟩
      rw [blockGetVolumeGroup, hpp]
      change (findSubsystemForSourceDir c ppath.sourceDir >>= _) = _
      rw [hsub, ← heq]
      rfl

end

def oneGroup : Vms where
  views := [⟨"k8s".toList, "/k8s".toList⟩, ⟨[], "/k8s/g1/pvc-1".toList⟩]
  volumes := [⟨"g1/vol-1".toList, ⟨"k8s".toList, "/k8s".toList⟩⟩]
  ppaths := [⟨"pp".toList, "/k8s/g1".toList⟩]

def twoGroups : Vms where
  views := oneGroup.views ++ [⟨[], "/k8s/g10/pvc-2".toList⟩]
  volumes := oneGroup.volumes ++ [⟨"g10/vol-2".toList, ⟨"k8s".toList, "/k8s".toList⟩⟩]
  ppaths := oneGroup.ppaths

def groupId : List Char := "9dc74656c@n=pp".toList

end VastCsi.Csi.GroupMembers
