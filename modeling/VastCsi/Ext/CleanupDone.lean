import VastCsi.Ext.CleanVolumes

/-!
# What the cleanup-done annotation says

A content gets the annotation when its `CleanVolumes` has returned without error: the protected
path is absent then, and the replication snapshots of the listing are gone if each of them had a
delete that took effect.

The loops are followed delete by delete: `meets_deleteSnapshots` leaves what `Remaining` says,
`meets_dropPpath` no protected path, and the annotation is only written behind both
(`meets_cleanup`).
-/

namespace VastCsi.Ext.Contents

open Lib CsiAddons List Cluster Table

section Promise

variable (out : CleanupOutcomes) (r : Content)

/-- A replication snapshot of the content: under its path, of one of its
policies. -/
def Replicated (x : Snapshot) : Prop :=
  x.path = snapshotPath r ∧ x.protectionPolicyName ∈ r.protectionPolicyNames

/-- No replication snapshot that was there at the listing remains, and the
protected path is absent. -/
structure Settled (before after : Cluster) : Prop where
  snapshots : ∀ x ∈ afterWait out r (before.snapshots r.storageClass), Replicated r x →
    ∀ y ∈ after.snapshots r.storageClass, y.id ≠ x.id
  ppath : ∀ q ∈ after.ppaths r.storageClass, q.name ≠ r.protectedPathName

def takesEffect : Fate Fault → Bool
  | .failed _ => false
  | _ => true

/-- The snapshot is deleted in one of the listings it is in, the first of which
is the `i`-th. -/
def DeletedFrom (i : Nat) (policyNames : List String) (x : Snapshot) : Prop :=
  ∃ j, policyNames[j]? = some x.protectionPolicyName ∧
    takesEffect (out.deleteSnapshot (i + j) x.id) = true

/-- What is left of the snapshots `t`: those that are not searched for, and those
whose deletes have all failed. -/
def Remaining (t : Table Snapshot (·.id)) (y : Snapshot) : Prop :=
  y ∈ afterWait out r t ∧ ¬ (y.path = snapshotPath r ∧ DeletedFrom out 0 r.protectionPolicyNames y)

/-- The content has the annotation. -/
def Annotated (k : Key) (c : Cluster) : Prop := ∃ x ∈ c.contents, x.key = k ∧ x.cleanupDone = true

end Promise

section Rules

variable {out : CleanupOutcomes} {r : Content} {J K : Cluster → Prop} {S S' : Snapshot → Prop}

def Rows (r : Content) (S : Snapshot → Prop) (c : Cluster) : Prop :=
  ∀ y, y ∈ c.snapshots r.storageClass ↔ S y

theorem Rows.congr {c : Cluster} (h : Rows r S c) (hS : ∀ y, S y ↔ S' y) : Rows r S' c :=
  fun y => (h y).trans (hS y)

/-- An assertion that does not look at the snapshots. -/
def SnapshotFree (r : Content) (J : Cluster → Prop) : Prop :=
  ∀ c t, J c → J (c.setSnapshots r.storageClass t)

variable {i : Nat} {found : Option Ppath} {t : Table Snapshot (·.id)}

/-- One delete takes the snapshot, unless it fails. -/
theorem meets_deleteSnapshot (hJ : SnapshotFree r J) {x : Snapshot} {E : KErr → Cluster → Prop} :
    Meets (fun c => Rows r S c ∧ J c) (deleteSnapshot out r i x) (fun _ c => Rows r (fun y => S y ∧
        (takesEffect (out.deleteSnapshot i x.id) = true → y.id ≠ x.id)) c ∧ J c) E := by
  intro c hc
  have herase : Rows r (fun y => S y ∧ y.id ≠ x.id)
      (c.setSnapshots r.storageClass ((c.snapshots r.storageClass).erase x.id)) := by
    intro y
    rw [snapshots_setSnapshots, mem_erase, hc.1 y]
  cases hf : out.deleteSnapshot i x.id with
  | answered =>
    simp only [deleteSnapshot, hf]
    exact ⟨herase.congr fun y => and_congr_right fun _ => ⟨fun h _ => h, fun h => h rfl⟩,
      hJ c _ hc.2⟩
  | failed f =>
    simp only [deleteSnapshot, hf]
    exact ⟨hc.1.congr fun y => ⟨fun h => ⟨h, fun he => absurd he Bool.false_ne_true⟩, And.left⟩,
      hc.2⟩
  | lost f =>
    simp only [deleteSnapshot, hf]
    exact ⟨herase.congr fun y => and_congr_right fun _ => ⟨fun h _ => h, fun h => h rfl⟩,
      hJ c _ hc.2⟩

theorem meets_deleteListed (hJ : SnapshotFree r J) {E : KErr → Cluster → Prop} :
    ∀ {xs : List Snapshot} {S : Snapshot → Prop},
      Meets (fun c => Rows r S c ∧ J c) (forEach (deleteSnapshot out r i) xs)
        (fun _ c => Rows r (fun y => S y ∧ ∀ x ∈ xs,
          takesEffect (out.deleteSnapshot i x.id) = true → y.id ≠ x.id) c ∧ J c) E
  | [], S => .pure fun c hc =>
      ⟨hc.1.congr fun y => ⟨fun h => ⟨h, fun _ hx => absurd hx not_mem_nil⟩, And.left⟩, hc.2⟩
  | x :: xs, S => by
    refine .bind (meets_deleteSnapshot hJ) fun _ => ?_
    refine (meets_deleteListed hJ).post (fun _ c hc => ?_)
    refine ⟨hc.1.congr fun y => ?_, hc.2⟩
    rw [forall_mem_cons, and_assoc]

/-- The snapshots of one policy: those whose delete has its effect are gone. -/
theorem meets_deletePolicySnapshots (hJ : SnapshotFree r J) (hK : ∀ c, J c → K c)
    {policyName : String} :
    Meets (fun c => Rows r S c ∧ J c) (deletePolicySnapshots out r i policyName)
      (fun _ c => Rows r (fun y => S y ∧ ¬ (isReplicationSnapshot r policyName y = true ∧
        takesEffect (out.deleteSnapshot i y.id) = true)) c ∧ J c) (fun _ => K) := by
  have hlist : Meets (fun c => Rows r S c ∧ J c) (call (out.listSnapshots i) fun c =>
        .ok ((c.snapshots r.storageClass).select (isReplicationSnapshot r policyName)) c)
      (fun xs c => (Rows r S c ∧ J c) ∧ (∀ x, x ∈ xs ↔
        S x ∧ isReplicationSnapshot r policyName x = true) ∧
        ∀ x y, S x → S y → y.id = x.id → y = x) (fun _ => K) := by
    refine meets_call (fun c hc => hK c hc.2) (fun _ c hc => hK c hc.1.2) fun c hc => ⟨hc, ?_, ?_⟩
    · intro x
      rw [mem_select, hc.1 x]
    · exact fun x y hx hy hid => eq_of_key ((hc.1 y).mpr hy) ((hc.1 x).mpr hx) hid
  refine .bind (meets_withContext hlist) fun xs => ?_
  refine .assuming (fun _ hc => hc.2) fun hxs => ?_
  refine (meets_deleteListed hJ).weaken (fun _ hc => hc.1) (fun _ c hc => ?_) (fun _ _ hc => hc)
  refine ⟨hc.1.congr fun y => and_congr_right fun hy => ?_, hc.2⟩
  constructor
  · exact fun h hdel => h y ((hxs.1 y).mpr ⟨hy, hdel.1⟩) hdel.2 rfl
  · intro h x hx heff hid
    obtain ⟨hSx, hsel⟩ := (hxs.1 x).mp hx
    obtain rfl := hxs.2 x y hSx hy hid
    exact h ⟨hsel, heff⟩

/-- The first listing a snapshot is in, or a later one. -/
theorem deletedFrom_cons {policyName : String} {rest : List String} {x : Snapshot} :
    DeletedFrom out i (policyName :: rest) x ↔ (policyName = x.protectionPolicyName ∧
        takesEffect (out.deleteSnapshot i x.id) = true) ∨
        DeletedFrom out (i + 1) rest x := by
  constructor
  · rintro ⟨j, hj, heff⟩
    cases j with
    | zero =>
      rw [getElem?_cons_zero, Option.some.injEq] at hj
      exact .inl ⟨hj, heff⟩
    | succ j =>
      rw [getElem?_cons_succ] at hj
      exact .inr ⟨j, hj, by rw [Nat.add_assoc, Nat.add_comm 1]; exact heff⟩
  · rintro (⟨hj, heff⟩ | ⟨j, hj, heff⟩)
    · exact ⟨0, by rw [hj]; rfl, heff⟩
    · exact ⟨j + 1, hj, by rw [Nat.add_comm j, ← Nat.add_assoc]; exact heff⟩

/-- The loop over the policies. -/
theorem meets_deleteSnapshots (hJ : SnapshotFree r J) (hK : ∀ c, J c → K c) :
    ∀ {policyNames : List String} {i : Nat} {S : Snapshot → Prop},
      Meets (fun c => Rows r S c ∧ J c) (deleteSnapshots out r i policyNames)
        (fun _ c => Rows r (fun y => S y ∧ ¬ (y.path = snapshotPath r ∧
          DeletedFrom out i policyNames y)) c ∧ J c) (fun _ => K)
  | [], i, S => by
    refine .pure fun c hc => ⟨hc.1.congr fun y => ⟨fun h => ⟨h, ?_⟩, And.left⟩, hc.2⟩
    rintro ⟨_, j, hj, _⟩
    cases hj
  | policyName :: rest, i, S => by
    refine .bind (meets_deletePolicySnapshots hJ hK) fun _ => ?_
    refine (meets_deleteSnapshots hJ hK).post (fun _ c hc => ?_)
    refine ⟨hc.1.congr fun y => ?_, hc.2⟩
    rw [deletedFrom_cons, and_assoc, ← not_or, isReplicationSnapshot, Bool.and_eq_true,
      beq_iff_eq, beq_iff_eq, and_assoc, ← and_or_left, eq_comm (a := policyName)]

/-- An assertion that does not look at the protected paths. -/
def PpathFree (r : Content) (J : Cluster → Prop) : Prop :=
  ∀ c t, J c → J (c.setPpaths r.storageClass t)

theorem ppathFree_rows : PpathFree r (Rows r S) := by
  intro c t hc y
  rw [snapshots_setPpaths]
  exact hc y

/-- What the reconcile knows of the protected paths from having looked: there is
none of the name, or the only one is `found`. -/
def PpathIs (r : Content) (found : Option Ppath) (c : Cluster) : Prop :=
  ∀ q ∈ c.ppaths r.storageClass, q.name = r.protectedPathName → ∃ q₀, found = some q₀ ∧ q.id = q₀.id

def Undone (r : Content) (c : Cluster) : Prop :=
  ∀ x ∈ c.contents, x.key = r.key → x.cleanupDone = false

theorem snapshotFree_known : SnapshotFree r (fun c => PpathIs r found c ∧ Undone r c) := by
  refine fun c t hc => ⟨?_, hc.2⟩
  unfold PpathIs
  rw [ppaths_setSnapshots]
  exact hc.1

theorem meets_getPPathForSource : Meets (fun c => J c ∧ Undone r c) (getPPathForSource out r)
      (fun found c => (J c ∧ PpathIs r found c ∧ Undone r c) ∧
        ∀ q, found = some q → q.name = r.protectedPathName) (fun _ => Undone r) := by
  refine meets_call (fun _ hc => hc.2) (fun _ _ hc => hc.1.2.2) fun c hc => ?_
  have hsel : ∀ q, q ∈ (c.ppaths r.storageClass).select (·.name == r.protectedPathName) ↔
      q ∈ c.ppaths r.storageClass ∧ q.name = r.protectedPathName := by
    intro q
    rw [mem_select, beq_iff_eq]
  generalize (c.ppaths r.storageClass).select (·.name == r.protectedPathName) = l at hsel
  rcases l with _ | ⟨q₀, _ | ⟨q₁, l⟩⟩
  · exact ⟨⟨hc.1, fun q hq hn => absurd ((hsel q).mpr ⟨hq, hn⟩) not_mem_nil, hc.2⟩, nofun⟩
  · refine ⟨⟨hc.1, fun q hq hn => ⟨q₀, rfl, ?_⟩, hc.2⟩, fun q hq => ?_⟩
    · rw [mem_singleton.mp ((hsel q).mpr ⟨hq, hn⟩)]
    · cases hq
      exact ((hsel q₀).mp (mem_singleton_self _)).2
  · exact hc.2

theorem keeps_disablePpath (hJ : PpathFree r J) {q : Option Ppath} :
    Keeps (fun c => J c ∧ PpathIs r found c ∧ Undone r c) (disablePpath out r q) := by
  unfold disablePpath
  split
  next => exact keeps_pure _
  next =>
    split
    swap
    · exact keeps_pure _
    refine meets_withContext (keeps_call fun c hc => ⟨hJ c _ hc.1, fun p hp hn => ?_, hc.2.2⟩)
    -- names and ids stay
    rw [ppaths_setPpaths] at hp
    obtain ⟨p', hp', rfl⟩ := mem_modify.mp hp
    split at hn
    next hid =>
      rw [if_pos hid]
      exact hc.2.1 p' hp' hn
    next hid =>
      rw [if_neg hid]
      exact hc.2.1 p' hp' hn

theorem undone_onContent {c : Cluster} {k : Key} {f : Content → Content}
    {hf : ∀ x, (f x).key = x.key} (hd : ∀ x, (f x).cleanupDone = x.cleanupDone)
    (h : Undone r c) : Undone r (c.onContent k f hf) := by
  intro x hx hk
  obtain ⟨x', hx', rfl⟩ := mem_onContent.mp hx
  split at hk
  next hkey =>
    rw [if_pos hkey, hd]
    exact h x' hx' ((hf x').symm.trans hk)
  next hkey =>
    rw [if_neg hkey]
    exact h x' hx' hk

theorem meets_waitAfterPpathDisable :
    Meets (fun c => c.snapshots r.storageClass = t ∧ PpathIs r found c ∧ Undone r c)
      (waitAfterPpathDisable out r)
      (fun _ c => Rows r (· ∈ afterWait out r t) c ∧ PpathIs r found c ∧ Undone r c)
      (fun _ => Undone r) := by
  unfold waitAfterPpathDisable afterWait
  split
  next => exact .pure fun c hc => ⟨fun y => by rw [hc.1], hc.2⟩
  next =>
    refine .bind (Q := fun _ c => Rows r (· ∈ out.landed.foldl Table.insert t) c ∧
      PpathIs r found c ∧ Undone r c) (fun c hc => ⟨fun y => ?_, ?_⟩) fun _ => ?_
    · rw [snapshots_setSnapshots, hc.1]
    · exact snapshotFree_known c _ hc.2
    · refine meets_withContext (meets_call (fun _ hc => hc.2.2) (fun _ _ hc => hc.2.2) ?_)
      exact fun c hc => ⟨hc.1, hc.2.1, undone_onContent (fun _ => rfl) hc.2.2⟩

/-- The only protected path of the name is deleted, or the pass fails. -/
theorem meets_dropPpath (hname : ∀ q, found = some q → q.name = r.protectedPathName) :
    Meets (fun c => Rows r S c ∧ PpathIs r found c ∧ Undone r c) (dropPpath out r found)
      (fun _ c => Rows r S c ∧ PpathIs r none c ∧ Undone r c) (fun _ => Undone r) := by
  cases found with
  | none => exact .ret
  | some q =>
    -- after the delete there is none of the name, unless it was there and lingers
    have hdel : Meets (fun c => Rows r S c ∧ PpathIs r (some q) c ∧ Undone r c)
        (deletePpathById out r q)
        (fun there c => Rows r S c ∧ (there = false → PpathIs r none c) ∧ Undone r c)
        (fun _ => Undone r) := by
      refine meets_call (fun _ hc => hc.2.2) (fun _ _ hc => hc.2.2) fun c hc => ?_
      by_cases hkey : (c.ppaths r.storageClass).hasKey q.id = true
      · rw [if_pos hkey]
        by_cases hl : out.lingers = true
        · rw [if_pos hl]
          exact ⟨hc.1, nofun, hc.2.2⟩
        · rw [if_neg hl]
          exact ⟨ppathFree_rows c _ hc.1, nofun, hc.2.2⟩
      · rw [if_neg hkey]
        refine ⟨hc.1, fun _ p hp hn => ?_, hc.2.2⟩
        obtain ⟨q₀, hq₀, hid⟩ := hc.2.1 p hp hn
        cases hq₀
        exact absurd (hasKey_iff.mpr ⟨p, hp, hid⟩) hkey
    refine .bind (meets_withContext hdel) fun there => ?_
    cases there with
    | false => exact .pure fun _ hc => ⟨hc.1, hc.2.1 rfl, hc.2.2⟩
    | true =>
      refine meets_withContext (.bind (Q := fun there c => Rows r S c ∧ Undone r c ∧
        (there = false → PpathIs r none c)) ?_ fun there => ?_)
      · refine meets_withContext (meets_call (fun _ hc => hc.2.2) (fun _ _ hc => hc.2.1) ?_)
        refine fun c hc => ⟨hc.1, hc.2.2, fun habs p hp hn => ?_⟩
        rw [any_eq_false] at habs
        exact absurd (beq_iff_eq.mpr (hn.trans (hname q rfl).symm)) (habs p hp)
      · exact .assertThat (fun hb _ hc => ⟨hc.1, hc.2.2 (Bool.not_eq_true' there |>.mp hb), hc.2.1⟩)
          (fun _ _ hc => hc.2.1)

theorem tolerates_clusterOnly :
    Tolerates (fun _ => True) (fun c => Rows r S c ∧ PpathIs r none c ∧ Undone r c) :=
  ⟨fun _ _ _ _ _ _ hc => hc, fun _ _ _ _ hc => hc⟩

/-- `CleanVolumes` leaves the snapshots whose deletes have all failed, and no protected path. -/
theorem meets_cleanVolumes :
    Meets (fun c => c.snapshots r.storageClass = t ∧ Undone r c) (cleanVolumes out r)
      (fun _ c => Rows r (Remaining out r t) c ∧ PpathIs r none c ∧ Undone r c)
      (fun _ => Undone r) := by
  have hfree : PpathFree r (fun c => c.snapshots r.storageClass = t) := by
    intro c _ hc
    rw [snapshots_setPpaths]
    exact hc
  refine Meets.bind meets_getPPathForSource fun found => ?_
  refine .assuming (fun _ hc => hc.2) fun hname => ?_
  refine .bind ((keeps_disablePpath hfree).weaken (fun _ hc => hc.1) (fun _ _ hc => hc)
    (fun _ _ hc => hc.2.2)) fun _ => ?_
  refine .bind meets_waitAfterPpathDisable fun _ => ?_
  refine .bind (meets_deleteSnapshots snapshotFree_known fun _ hc => hc.2) fun _ => ?_
  refine .bind (meets_dropPpath hname) fun _ => ?_
  -- the rest is about other objects
  have hcall : ∀ fate, Keeps (fun c => Rows r (Remaining out r t) c ∧ PpathIs r none c ∧ Undone r c)
      (call fate (pure ())) := fun _ => keeps_call (keeps_pure _)
  have horphans : Keeps (fun c => Rows r (Remaining out r t) c ∧ PpathIs r none c ∧ Undone r c)
      (cleanReplicaMirrorOrphans out.toOutcomes r []) :=
    keeps_cleanReplicaMirrorOrphans tolerates_clusterOnly fun _ _ _ _ _ => trivial
  have hrest := Meets.bind (hcall out.cleanVolumeCb) fun _ =>
    .bind horphans fun _ => hcall out.cleanKubernetesResources
  exact hrest.raise (fun _ _ hc => hc.2.2)

/-- A cleanup has not annotated the content, or `CleanVolumes` has gone through. -/
theorem meets_cleanup (hnew : r.cleanupDone = false) :
    Meets (fun c => c.snapshots r.storageClass = t ∧ Undone r c) (cleanup out r)
      (fun _ c => Undone r c ∨ Rows r (Remaining out r t) c ∧ PpathIs r none c)
      (fun _ c => Undone r c ∨ Rows r (Remaining out r t) c ∧ PpathIs r none c) := by
  unfold cleanup
  rw [if_neg (by rw [hnew]; exact Bool.false_ne_true)]
  have hclean : Meets (fun c => c.snapshots r.storageClass = t ∧ Undone r c) (cleanResources out r)
      (fun _ c => Rows r (Remaining out r t) c ∧ PpathIs r none c ∧ Undone r c)
      (fun _ => Undone r) :=
    .bind (Meets.weaken (keeps_call (keeps_pure _)) (fun _ hc => hc) (fun _ _ hc => hc)
      (fun _ _ hc => hc.2)) fun _ => meets_cleanVolumes
  refine .bind ((meets_withContext hclean).raise fun _ _ hc => .inl hc) fun _ => ?_
  exact (keeps_call (I := fun c => Rows r (Remaining out r t) c ∧ PpathIs r none c)
    fun _ hc => hc).weaken (fun _ hc => ⟨hc.1, hc.2.1⟩) (fun _ _ hc => .inr hc)
    (fun _ _ hc => .inr hc)

end Rules

/-- **What the annotation says**: the protected path is absent, and no replication snapshot that
was there at the listing remains exactly if each had a delete with an effect. -/
theorem settled_iff {out : CleanupOutcomes} {r : Content} {c : Cluster}
    (hr : r ∈ c.contents) (hnew : r.cleanupDone = false)
    (hdone : Annotated r.key (endState (cleanup out r c))) :
    Settled out r c (endState (cleanup out r c)) ↔
      ∀ x ∈ afterWait out r (c.snapshots r.storageClass), Replicated r x →
        DeletedFrom out 0 r.protectionPolicyNames x := by
  have hundone : Undone r c := by
    intro x hx hk
    rw [eq_of_key hx hr hk]
    exact hnew
  have hend : Undone r (endState (cleanup out r c)) ∨
      Rows r (Remaining out r (c.snapshots r.storageClass)) (endState (cleanup out r c)) ∧
        PpathIs r none (endState (cleanup out r c)) :=
    (meets_cleanup hnew).endState ⟨rfl, hundone⟩
  generalize endState (cleanup out r c) = c' at hdone hend
  -- without `CleanVolumes` there would be no annotation
  obtain ⟨hrows, hppath⟩ := hend.resolve_left fun h => by
    obtain ⟨x, hx, hk, hd⟩ := hdone
    rw [h x hx hk] at hd
    exact absurd hd Bool.false_ne_true
  constructor
  · intro hset x hx hrep
    by_contra hnot
    have hstays := (hrows x).mpr ⟨hx, fun hdel => hnot hdel.2⟩
    exact hset.snapshots x hx hrep x hstays rfl
  · intro hall
    refine ⟨fun x hx hrep y hy hid => ?_, fun q hq hn => ?_⟩
    · obtain ⟨hy', hnot⟩ := (hrows y).mp hy
      obtain rfl := eq_of_key hy' hx hid
      exact hnot ⟨hrep.1, hall y hx hrep⟩
    · obtain ⟨q₀, hq₀, _⟩ := hppath q hq hn
      cases hq₀

def leavingContent : Content where
  namespaceName := "data"
  name := "v-fast"
  owner := { kind := .vscr, namespaceName := "ops", name := "v" }
  storageClass := "fast"
  replicationPath := "/k8s"
  protectedPathName := "v"
  protectionPolicyNames := ["v-peer"]

def oldSnapshot : Snapshot := { id := 7, path := "/k8s/", protectionPolicyName := "v-peer" }

def leavingCluster : Cluster where
  contents := ⟨[leavingContent], by decide⟩
  pvcs := Table.empty
  pvs := Table.empty
  vast := fun _ =>
    { snapshots := ⟨[oldSnapshot], by decide⟩, ppaths := ⟨[{ id := 3, name := "v" }], by decide⟩ }

theorem annotated_of_any {k : Key} {c : Cluster}
    (h : (c.contents.rows.any fun x => x.key == k && x.cleanupDone) = true) : Annotated k c := by
  obtain ⟨x, hx, hb⟩ := any_eq_true.mp h
  rw [Bool.and_eq_true, beq_iff_eq] at hb
  exact ⟨x, hx, hb⟩

/-- With every call answered nothing is left. -/
theorem settled_iff_answered : Settled {} leavingContent leavingCluster
      (endState (cleanup {} leavingContent leavingCluster)) := by
  refine (settled_iff (by decide) rfl (annotated_of_any (by decide +kernel))).mpr ?_
  intro x hx _
  obtain rfl := mem_singleton.mp hx
  exact ⟨0, rfl, rfl⟩

def refusing : CleanupOutcomes where
  deleteSnapshot := fun _ _ => .failed .refused

/-- **A snapshot is left behind**: its delete is refused, and the content is
annotated all the same. -/
theorem failed_delete_leaves_snapshot :
    Annotated leavingContent.key (endState (cleanup refusing leavingContent leavingCluster)) ∧
      ¬ Settled refusing leavingContent leavingCluster
        (endState (cleanup refusing leavingContent leavingCluster)) := by
  refine ⟨annotated_of_any (by decide +kernel), fun hset => ?_⟩
  have hstays : oldSnapshot ∈
      (endState (cleanup refusing leavingContent leavingCluster)).snapshots "fast" := by
    decide +kernel
  exact hset.snapshots oldSnapshot (by decide) ⟨by decide, by decide⟩ oldSnapshot hstays rfl

end VastCsi.Ext.Contents
