import VastCsi.Ext.Mirrors

/-!
# Mirrors that are retained

Under Retain an orphaned mirror is released: its finalizer goes, then the replication labels of the
claim, then those of its volume. The next attempt finds its mirrors by the labels of the claims, so
once these are gone it does not come back to the volume.

`Tracked` follows one claim through the attempts: it has its labels yet, or is released with its
volume. Between the two patches it is neither (`HalfReleased`), so the second must not fail, nor the
answer to the first be lost (`Outcomes.Follows`).
-/

namespace VastCsi.Ext.Contents

open Lib CsiAddons List Table Bool Option

/-- Neither the claim nor its volume belongs to a replication. -/
structure Released (pvs : Table Pv Pv.name) (q : Pvc) : Prop where
  labels : q.mirror = none
  finalizer : q.finalizer = false
  volume : q.volumeName ≠ "" → ∀ pv ∈ pvs, pv.name = q.volumeName → pv.managed = false

/-- What follows on the removal of a claim's labels takes place. -/
structure Outcomes.Follows (out : Outcomes) : Prop where
  pvc : ∀ name f, out.patchPvc name ≠ .lost f
  pv : ∀ name f, out.patchPv name ≠ .failed f

section Rules

variable {out : Outcomes} {r : Content} {keep : List String} {k k' : Key} {v : String}
  {m : Option MirrorLabels} {u : Prop} {b : Bool} {c : Cluster} {p : Pvc}

/-- The claim under the key is released, or, if `u`, it has its labels yet. `b` bounds its
finalizer. -/
def Tracked (k : Key) (v : String) (m : Option MirrorLabels) (u : Prop) (b : Bool) (c : Cluster) :
    Prop :=
  ∃ q, c.pvcs.find? k = some q ∧ q.volumeName = v ∧ (q.finalizer = true → b = true) ∧
    (u ∧ q.mirror = m ∨ Released c.pvs q)

theorem Tracked.mono {u' : Prop} {b' : Bool} (h : Tracked k v m u b c) (hu : u → u')
    (hb : b = true → b' = true) : Tracked k v m u' b' c := by
  obtain ⟨q, hq, hv, hfin, hstate⟩ := h
  exact ⟨q, hq, hv, fun hf => hb (hfin hf), hstate.imp_left (.imp_left hu)⟩

theorem find?_onPvc {f : Pvc → Pvc} {hf : ∀ q, (f q).key = q.key} {q : Pvc}
    (hq : c.pvcs.find? k = some q) :
    (c.onPvc k' f hf).pvcs.find? k = some (if k = k' then f q else q) := by
  have hkey : q.key = k := (find?_eq_some_iff.mp hq).2
  show (c.pvcs.modify k' f hf).find? k = _
  rw [find?_modify, hq, map_some, hkey]

theorem Tracked.unfinal (h : Tracked k v m u b c) : Tracked k v m u (b && k != k')
      (c.onPvc k' (fun q => { q with finalizer := false }) fun _ => rfl) := by
  obtain ⟨q, hq, hv, hfin, hstate⟩ := h
  refine ⟨_, find?_onPvc hq, ?_⟩
  split
  next =>
    exact ⟨hv, fun h => absurd h false_ne_true, hstate.imp_right fun h => ⟨h.labels, rfl, h.volume⟩⟩
  next hne => exact ⟨hv, fun hf => by rw [hfin hf]; simpa using hne, hstate⟩

theorem Tracked.strip (h : Tracked k v m u b c) (hne : k ≠ k') :
    Tracked k v m u b (c.onPvc k' (fun q => { q with mirror := none }) fun _ => rfl) := by
  obtain ⟨q, hq, hrest⟩ := h
  exact ⟨q, (find?_onPvc hq).trans (by rw [if_neg hne]), hrest⟩

theorem mem_onPv {name : String} {f : Pv → Pv} {hf : ∀ x, (f x).name = x.name} {pv : Pv} :
    pv ∈ (c.onPv name f hf).pvs ↔ ∃ x ∈ c.pvs, pv = if x.name = name then f x else x := by
  show pv ∈ c.pvs.modify name f hf ↔ _
  exact mem_modify

theorem Tracked.unmanage (h : Tracked k v m u b c) (name : String) :
    Tracked k v m u b (c.onPv name (fun x => { x with managed := false }) fun _ => rfl) := by
  obtain ⟨q, hq, hv, hfin, hstate⟩ := h
  refine ⟨q, hq, hv, hfin, hstate.imp_right fun h => ⟨h.labels, h.finalizer, ?_⟩⟩
  intro hne pv hpv hname
  obtain ⟨x, hx, rfl⟩ := mem_onPv.mp hpv
  by_cases heq : x.name = name
  · rw [if_pos heq]
  · rw [if_neg heq] at hname ⊢
    exact h.volume hne x hx hname

/-- The volume that the attempt has found, or that there is none to release. -/
def Bound (v : String) (pv : Option Pv) (pvs : Table Pv Pv.name) : Prop :=
  match pv with
  | none => v ≠ "" → ∀ x ∈ pvs, x.name = v → x.managed = false
  | some pv => pv.name = v

theorem meets_managedPVForPVC {I : Cluster → Prop} :
    Meets I (managedPVForPVC out p) (fun pv c => I c ∧ Bound p.volumeName pv c.pvs)
      (fun _ => I) := by
  unfold managedPVForPVC
  split
  next hnone => exact .pure fun c hc => ⟨hc, fun hne => absurd (beq_iff_eq.mp hnone) hne⟩
  next =>
    refine .bind (meets_withContext meets_lookup) fun pv => .pure fun c hc => ⟨hc.1, ?_⟩
    cases hpv : pv.filter (·.managed) with
    | some x =>
      have hx := (filter_eq_some_iff.mp hpv).1
      rw [hc.2] at hx
      exact (find?_eq_some_iff.mp hx).2
    | none =>
      intro _ x hx hname
      rw [hc.2, find?_eq_some_iff.mpr ⟨hx, hname⟩] at hpv
      simpa using hpv

/-- The labels of the claim have gone, and the volume is known. -/
def HalfReleased (k : Key) (v : String) (pv : Option Pv) (c : Cluster) : Prop :=
  Bound v pv c.pvs ∧ ∃ q, c.pvcs.find? k = some q ∧ q.volumeName = v ∧ q.mirror = none ∧
    q.finalizer = false

theorem meets_stripPv (hout : out.Follows) {pv : Option Pv} :
    Meets (HalfReleased k v pv) (match pv with
      | none => pure ()
      | some pv => stripPv out pv) (fun _ => Tracked k v m False b)
      (fun _ => Tracked k v m False b) := by
  cases pv with
  | none =>
    refine .pure fun c hc => ?_
    obtain ⟨hnone, q, hq, rfl, hm, hf⟩ := hc
    exact ⟨q, hq, rfl, fun h => absurd (hf.symm.trans h) false_ne_true, .inr ⟨hm, hf, hnone⟩⟩
  | some pv =>
    have heffect : ∀ c, HalfReleased k v (some pv) c → Tracked k v m False b
        (c.onPv pv.name (fun x => { x with managed := false }) fun _ => rfl) := by
      rintro c ⟨rfl, q, hq, hv, hm, hf⟩
      refine ⟨q, hq, hv, fun h => absurd (hf.symm.trans h) false_ne_true, .inr ⟨hm, hf, ?_⟩⟩
      intro _ x hx hname
      obtain ⟨y, -, rfl⟩ := mem_onPv.mp hx
      by_cases heq : y.name = pv.name
      · rw [if_pos heq]
      · rw [if_neg heq] at hname
        exact absurd (hname.trans hv) heq
    refine meets_withContext fun c hc => ?_
    unfold call
    cases hfate : out.patchPv pv.name with
    | answered => exact heffect c hc
    | failed f => exact absurd hfate (hout.pv _ f)
    | lost f => exact heffect c hc

/-- The claim under the key is released, or the attempt fails and it has its labels yet. -/
theorem meets_detach_key (hout : out.Follows) (hkey : p.key = k) (hv : p.volumeName = v)
    (hb : p.finalizer = b) :
    Meets (Tracked k v m u b) (detachMirrorFromReplication out p)
      (fun _ => Tracked k v m False b) (fun _ => Tracked k v m u b) := by
  subst hkey hv hb
  refine .bind meets_managedPVForPVC fun pv => ?_
  have hfinal : Meets (fun c => Tracked p.key p.volumeName m u p.finalizer c ∧
      Bound p.volumeName pv c.pvs) (removePvcFinalizer out p)
      (fun _ c => Tracked p.key p.volumeName m u false c ∧ Bound p.volumeName pv c.pvs)
      (fun _ => Tracked p.key p.volumeName m u p.finalizer) := by
    unfold removePvcFinalizer
    split
    next =>
      refine meets_call (fun _ hc => hc.1) (fun _ _ hc => hc.1.mono id ?_) fun c hc => ⟨?_, hc.2⟩
      · exact fun h => absurd h false_ne_true
      · exact hc.1.unfinal.mono id (by simp)
    next hf => exact .pure fun c hc => ⟨hc.1.mono id fun h => absurd h hf, hc.2⟩
  refine .bind (meets_withContext hfinal) fun _ => ?_
  have hpatch : Meets
      (fun c => Tracked p.key p.volumeName m u false c ∧ Bound p.volumeName pv c.pvs)
      (call (out.patchPvc p.name) fun c =>
        .ok () (c.onPvc p.key (fun q => { q with mirror := none }) fun _ => rfl))
      (fun _ => HalfReleased p.key p.volumeName pv)
      (fun _ => Tracked p.key p.volumeName m u p.finalizer) := by
    intro c hc
    unfold call
    cases hfate : out.patchPvc p.name with
    | answered =>
      obtain ⟨⟨q, hq, hv, hfin, -⟩, hbound⟩ := hc
      refine ⟨hbound, _, find?_onPvc hq, ?_⟩
      rw [if_pos rfl]
      exact ⟨hv, rfl, eq_false_iff.mpr fun h => false_ne_true (hfin h)⟩
    | failed f => exact hc.1.mono id fun h => absurd h false_ne_true
    | lost f => exact absurd hfate (hout.pvc _ f)
  refine .bind (meets_withContext hpatch) fun _ => ?_
  exact (meets_stripPv hout).raise fun _ _ hc => hc.mono False.elim id

/-- The other claims are not touched. -/
theorem keeps_detach_other (hne : k ≠ p.key) :
    Keeps (Tracked k v m u b) (detachMirrorFromReplication out p) := by
  refine .bind (keeps_managedPVForPVC p) fun pv => ?_
  have hfinal : Keeps (Tracked k v m u b) (removePvcFinalizer out p) := by
    unfold removePvcFinalizer
    split
    next => exact keeps_call fun c hc => hc.unfinal.mono id fun h => (and_eq_true_iff.mp h).1
    next => exact keeps_pure _
  refine .bind (meets_withContext hfinal) fun _ => ?_
  refine .bind (meets_withContext (keeps_call (I := Tracked k v m u b) fun c hc => hc.strip hne))
    fun _ => ?_
  cases pv with
  | none => exact keeps_pure _
  | some pv => exact meets_withContext (keeps_call fun c hc => hc.unmanage pv.name)

/-- The loop, on claims as they were listed: if it returns, the claim under the key is released
when it was an orphan among them. -/
theorem meets_orphanLoop (hout : out.Follows) : ∀ {pvcs : List Pvc} (errs : List KErr) (u : Prop),
      (∀ p ∈ pvcs, p.key = k → p.volumeName = v ∧ p.finalizer = b) →
      Meets (Tracked k v m u b) (orphanLoop out true keep pvcs errs) (fun _ c => errs = [] ∧
          Tracked k v m (u ∧ ∀ p ∈ pvcs, p.sourcePVC ∉ keep → p.key ≠ k) b c)
        (fun _ => Tracked k v m u b)
  | [], errs, u, _ => by
    unfold orphanLoop raiseDeferred
    cases errs with
    | nil =>
      refine .pure fun c hc => ⟨rfl, hc.mono (fun hu => ⟨hu, ?_⟩) id⟩
      exact fun _ hp => absurd hp not_mem_nil
    | cons e errs => exact .throw fun c hc => hc
  | p :: pvcs, errs, u, hcopy => by
    have hrest := fun errs u => meets_orphanLoop hout errs u
      fun q hq => hcopy q (mem_cons_of_mem p hq)
    unfold orphanLoop
    split
    next hkeep =>
      refine (hrest errs u).post fun _ c hc => ⟨hc.1, hc.2.mono (fun hu => ⟨hu.1, ?_⟩) id⟩
      refine forall_mem_cons.mpr ⟨fun hnot => ?_, hu.2⟩
      exact absurd (contains_iff_mem.mp hkeep) hnot
    next =>
      rw [if_pos rfl]
      have hdetach : Meets (Tracked k v m u b) (detachMirrorFromReplication out p)
          (fun _ => Tracked k v m (u ∧ p.key ≠ k) b) (fun _ => Tracked k v m u b) := by
        by_cases hkey : p.key = k
        · obtain ⟨hv, hb⟩ := hcopy p mem_cons_self hkey
          exact (meets_detach_key hout hkey hv hb).post fun _ _ hc => hc.mono False.elim id
        · refine (keeps_detach_other (Ne.symm hkey)).post fun _ _ hc => ?_
          exact hc.mono (fun hu => ⟨hu, hkey⟩) id
      refine .bind (meets_withContext hdetach).attempt_cases fun failed => ?_
      cases failed with
      | none =>
        refine (hrest _ _).weaken (fun c hc => (hc.resolve_right fun h => false_ne_true h.1).2) ?_
          fun _ _ hc => hc.mono And.left id
        rintro _ c ⟨herrs, hc⟩
        refine ⟨(append_nil errs).symm.trans herrs, hc.mono (fun hu => ⟨hu.1.1, ?_⟩) id⟩
        exact forall_mem_cons.mpr ⟨fun _ => hu.1.2, hu.2⟩
      | some e =>
        refine (hrest _ _).weaken
          (fun c hc => (hc.resolve_left fun h => some_ne_none e h.1).2) ?_ fun _ _ hc => hc
        rintro _ c ⟨herrs, -⟩
        exact absurd herrs (append_ne_nil_of_right_ne_nil errs (cons_ne_nil e []))

/-- An attempt that succeeds releases the claim under the key, if it has the labels of an orphan. -/
theorem meets_cleanReplicaMirrorOrphans (hout : out.Follows) (hretain : out.retains = true)
    (horphan : ∀ q : Pvc, q.key = k → q.mirror = m → isMirrorOf r q = true ∧ q.sourcePVC ∉ keep) :
    Meets (Tracked k v m u b) (cleanReplicaMirrorOrphans out r keep)
      (fun _ => Tracked k v m False b) (fun _ => Tracked k v m u b) := by
  refine .bind meets_shouldRetainDestVolumes fun retain => ?_
  refine .assuming (fun _ hc => hc.2.trans hretain) fun h => ?_
  subst h
  refine .bind ((meets_withContext meets_lookup).preLeft) fun pvcs => ?_
  rintro c ⟨⟨q, hq, hv, hfin, hstate⟩, rfl⟩
  have hmem := find?_eq_some_iff.mp hq
  have hcopy : ∀ p ∈ c.pvcs.select (isMirrorOf r), p.key = k →
      p.volumeName = v ∧ p.finalizer = q.finalizer := by
    intro p hp hkey
    rw [eq_of_key (mem_select.mp hp).1 hmem.1 (hkey.trans hmem.2.symm)]
    exact ⟨hv, rfl⟩
  -- released already, or among the claims that are listed
  have hloop : ∀ {w : Prop}, (w → u) → (w ∧ q.mirror = m ∨ Released c.pvs q) →
      (w → q.mirror = m) → Meets (· = c) (orphanLoop out true keep
        (c.pvcs.select (isMirrorOf r)) []) (fun _ => Tracked k v m False b)
        (fun _ => Tracked k v m u b) := by
    intro w hwu hstate hlisted
    refine (meets_orphanLoop hout [] w hcopy).weaken ?_ ?_ fun _ _ hc => hc.mono hwu hfin
    · rintro _ rfl
      exact ⟨q, hq, hv, id, hstate⟩
    · refine fun _ _ hc => hc.2.mono (fun hw => ?_) hfin
      obtain ⟨hsel, hkeep⟩ := horphan q hmem.2 (hlisted hw.1)
      exact hw.2 q (mem_select.mpr ⟨hmem.1, hsel⟩) hkeep hmem.2
  rcases hstate with ⟨hu, hm⟩ | hreleased
  · exact hloop id (.inl ⟨hu, hm⟩) (fun _ => hm) c rfl
  · exact hloop False.elim (.inr hreleased) False.elim c rfl

end Rules

/-- **Retained mirrors are released**: once an attempt succeeds, every orphan has lost its
finalizer and its labels, and its volume its own, if no label patch of a claim lost its answer and
none of a volume failed. -/
theorem released_of_attempts {r : Content} {keep : List String} {attempts : List Outcomes}
    {last : Outcomes} {c₀ c : Cluster}
    (hretain : ∀ out ∈ last :: attempts, out.retains = true)
    (hfollows : ∀ out ∈ last :: attempts, out.Follows)
    (hrun : cleanReplicaMirrorOrphans last r keep
      (afterAttempts id (fun out => cleanReplicaMirrorOrphans out r keep) c₀ attempts) = .ok () c) :
    ∀ p ∈ c₀.pvcs, isMirrorOf r p = true → p.sourcePVC ∉ keep →
      ∃ q ∈ c.pvcs, q.key = p.key ∧ q.volumeName = p.volumeName ∧ Released c.pvs q := by
  intro p hp hsel hkeep
  have hstep : ∀ out ∈ last :: attempts,
      Meets (Tracked p.key p.volumeName p.mirror True p.finalizer)
        (cleanReplicaMirrorOrphans out r keep)
        (fun _ => Tracked p.key p.volumeName p.mirror False p.finalizer)
        (fun _ => Tracked p.key p.volumeName p.mirror True p.finalizer) := by
    refine fun out hout => meets_cleanReplicaMirrorOrphans (hfollows out hout) (hretain out hout) ?_
    intro q hkey hm
    have hns : q.namespaceName = p.namespaceName := congrArg Prod.fst hkey
    unfold isMirrorOf Pvc.sourcePVC at *
    rw [hns, hm]
    exact ⟨hsel, hkeep⟩
  have hstart : Tracked p.key p.volumeName p.mirror True p.finalizer c₀ :=
    ⟨p, find?_eq_some_iff.mpr ⟨hp, rfl⟩, rfl, id, .inl ⟨trivial, rfl⟩⟩
  have hbefore := afterAttempts_invariant id _ (fun _ h => h)
    (fun out hout => (hstep out (mem_cons_of_mem last hout)).post
      fun _ _ hc => hc.mono False.elim id) hstart
  obtain ⟨q, hq, hv, -, hstate⟩ := (hstep last mem_cons_self).ok hbefore hrun
  obtain ⟨hmem, hkey⟩ := find?_eq_some_iff.mp hq
  exact ⟨q, hmem, hkey, hv, hstate.resolve_left fun h => h.1⟩

def vault : Content where
  namespaceName := "data"
  name := "v-west"
  owner := { kind := .vscr, namespaceName := "data", name := "v" }
  storageClass := "west"

/-- A mirror whose source is gone. -/
def orphanClaim : Pvc where
  namespaceName := "data"
  name := "db-repl"
  storageClass := "west"
  volumeName := "pv-repl"
  mirror := some { owner := vault.owner, storageClass := "west", sourcePVC := "db" }
  finalizer := true

def orphaned : Cluster where
  contents := Table.empty
  pvcs := ⟨[orphanClaim], by decide⟩
  pvs := ⟨[{ name := "pv-repl", volumeHandle := "h", managed := true }], by decide⟩
  vast := fun _ => { snapshots := Table.empty, ppaths := Table.empty }

def labelsAfter (attempts : List Outcomes) : Option (List (Option MirrorLabels) × List Bool) :=
  match cleanReplicaMirrorOrphans {} vault [] (afterAttempts id
    (fun out => cleanReplicaMirrorOrphans out vault []) orphaned attempts) with
  | .ok _ c => some (c.pvcs.rows.map (·.mirror), c.pvs.rows.map (·.managed))
  | .error _ _ => none

theorem released_of_attempts_refused : ∃ c, cleanReplicaMirrorOrphans {} vault [] (afterAttempts id
      (fun out => cleanReplicaMirrorOrphans out vault []) orphaned
        [{ patchPvc := fun _ => .failed .refused }]) = .ok () c ∧
      ∃ q ∈ c.pvcs, q.key = orphanClaim.key ∧ q.volumeName = "pv-repl" ∧ Released c.pvs q := by
  have hok : labelsAfter [{ patchPvc := fun _ => .failed .refused }] ≠ none := by decide +kernel
  unfold labelsAfter at hok
  cases hrun : cleanReplicaMirrorOrphans {} vault [] (afterAttempts id
      (fun out => cleanReplicaMirrorOrphans out vault []) orphaned
        [{ patchPvc := fun _ => .failed .refused }]) with
  | error e c => exact absurd (by rw [hrun]) hok
  | ok _ c =>
    refine ⟨c, rfl, released_of_attempts (by decide) ?_ hrun orphanClaim ?_ ?_ ?_⟩
    · intro out hout
      rcases mem_pair.mp hout with rfl | rfl <;>
        exact ⟨fun _ _ h => (by cases h), fun _ _ h => (by cases h)⟩
    all_goals decide +kernel

/-- The patch of the volume fails, and the next attempt, with every call answered, does not come
back to it. -/
theorem volume_left_labelled :
    labelsAfter [{ patchPv := fun _ => .failed .refused }] = some ([none], [true]) ∧
      labelsAfter [] = some ([none], [false]) := by
  decide +kernel

end VastCsi.Ext.Contents
