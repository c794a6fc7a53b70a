import VastCsi.Cosi.CloneSteps
import VastCsi.Csi.NfsCreate

/-!
# `CreateVolume` of an NFS volume, retried until it succeeds

An attempt may stop at any request. Between attempts the intermediate snapshot expires, the stream
makes progress, other objects come and go (`Meanwhile`). `Converging` is what every attempt keeps:
of the volume's view, quota and stream there is at most one, the one the request asks for. It
rests on the quota being found again, and the lookup drops trailing slashes where the creation
keeps them.
-/

namespace VastCsi.Csi.NfsCreate

open Lib Vms List Cluster Table Bool

/-! ## At most one row -/

/-- At most one row of the kind is in the query, and it is as expected. -/
def Sole (k : Kind) (p : Query k) (Good : Row k → Prop) (c : Cluster) : Prop :=
  (c.table k).select p = [] ∨ ∃ r, (c.table k).select p = [r] ∧ Good r

section Sole

variable {k : Kind} {p q : Query k} {Good : Row k → Prop} {c : Cluster}

theorem Sole.congr {c' : Cluster} (h : Sole k p Good c)
    (htable : (c'.table k).select p = (c.table k).select p) : Sole k p Good c' := by
  unfold Sole
  rw [htable]
  exact h

/-- A lookup that sees every good row and finds nothing. -/
theorem Sole.none (h : Sole k p Good c) (hq : ∀ r, p r = true → Good r → q r = true)
    (hf : Found k q c none) : (c.table k).select p = [] := by
  rcases h with hnil | ⟨r, hr, hgood⟩
  · exact hnil
  · have hmem : r ∈ (c.table k).select p := hr ▸ mem_singleton_self r
    obtain ⟨hrow, hp⟩ := mem_select.mp hmem
    exact absurd hrow (hf.not_mem (hq r hp hgood))

variable {r : Row k}

/-- A lookup that finds something finds the row. -/
theorem Sole.some (h : Sole k p Good c) (hq : q r = true → p r = true) (hf : Found k q c (some r)) :
    (c.table k).select p = [r] ∧ Good r := by
  obtain ⟨hrow, hmatch⟩ := hf.mem
  have hmem : r ∈ (c.table k).select p := mem_select.mpr ⟨hrow, hq hmatch⟩
  rcases h with hnil | ⟨r', hr', hgood⟩
  · rw [hnil] at hmem
    cases hmem
  · rw [hr'] at hmem
    cases mem_singleton.mp hmem
    exact ⟨hr', hgood⟩

theorem Sole.good (h : Sole k p Good c) (hr : (c.table k).select p = [r]) : Good r := by
  rcases h with hnil | ⟨r', hr', hgood⟩
  · rw [hnil] at hr
    cases hr
  · rw [hr'] at hr
    cases hr
    exact hgood

/-- The row is created where there was none. -/
theorem select_insert_new (hnone : (c.table k).select p = [])
    (hfresh : rowId k r = (c.table k).fresh) (hp : p r = true) :
    ((c.insert k r).table k).select p = [r] := by
  rw [Cluster.insert, set_table_self, select_insert (by rw [hfresh]; exact hasKey_fresh), hnone]
  simp [hp]

/-- A row outside the query. -/
theorem select_insert_other (hfresh : rowId k r = (c.table k).fresh) (hp : p r = false) :
    ((c.insert k r).table k).select p = (c.table k).select p := by
  rw [Cluster.insert, set_table_self, select_insert (by rw [hfresh]; exact hasKey_fresh)]
  simp [hp]

end Sole

/-- A creation, with what it leaves when its answer is lost. -/
theorem meets_create {env : Env} {k : Kind} {row : Nat → Row k} {cascade : Cluster → Cluster}
    {J I : Cluster → Prop} {Q : Row k → Cluster → Prop} (hJ : ∀ c, J c → I c)
    (hQ : ∀ r c, Q r c → I c)
    (hnew : ∀ c, J c → Q (row (c.table k).fresh) (cascade (c.insert k (row (c.table k).fresh)))) :
    Meets (onVms J) (request env (createRow k row cascade)) (fun r w => Q r w.vms) (raised I) :=
  meets_request_of (fun f w hw => ⟨hJ w.vms hw, f.err_plain.2.1⟩)
    (fun f r w hw => ⟨hQ r w.vms hw, f.err_plain.2.1⟩)
    (fun f _ _ hw => ⟨hw.1, f.err_plain.2.1⟩) fun w hw => hnew w.vms hw

section Request

variable (req : NfsCreateReq)

def ownView : Query .view := fun r => r.path == req.viewPath
def ownQuota : Query .quota := fun r => r.path == req.viewPath
def ownStream : Query .stream :=
  fun r => r.name == req.streamName || r.loaneeRootPath == req.viewPath

def IsPolicy (c₀ : Cluster) (pol : Policy) : Prop :=
  Found .policy (·.name == req.viewPolicy) c₀ (some pol)

def GoodView (c₀ : Cluster) (r : View) : Prop :=
  r.policy = req.viewPolicy ∧ ∃ pol, IsPolicy req c₀ pol ∧ r.tenantId = pol.tenantId

def GoodQuota (c₀ : Cluster) (r : Quota) : Prop :=
  r.hardLimit = req.hardLimit ∧ ∃ pol, IsPolicy req c₀ pol ∧ r.tenantId = pol.tenantId

def sourceQuota (volumeId : String) : Query .quota :=
  fun r => quotaByName (withoutCluster volumeId) r && !ownQuota req r

/-- The tenants of the source: of the quotas the lookup finds, or of the snapshot. -/
def sourceTenants (c : Cluster) : List String :=
  match req.source with
  | .empty => []
  | .volume volumeId => ((c.table .quota).select (sourceQuota req volumeId)).map Quota.tenantId
  | .snapshot snapshotId =>
    (((snapshotNumber snapshotId).bind fun id => c.find .snapshot id).map Snapshot.tenantId).toList

structure Converging (c₀ c : Cluster) : Prop where
  policy : (c.table .policy).select (·.name == req.viewPolicy) =
    (c₀.table .policy).select (·.name == req.viewPolicy)
  source : sourceTenants req c = sourceTenants req c₀
  view : Sole .view (ownView req) (GoodView req c₀) c
  quota : Sole .quota (ownQuota req) (GoodQuota req c₀) c
  stream : Sole .stream (ownStream req) (·.name = req.streamName) c

/-- Policy, source, and the objects of the volume stay as they are, apart from the progress of the
stream. -/
structure Meanwhile (c c' : Cluster) : Prop where
  policy : (c'.table .policy).select (·.name == req.viewPolicy) =
    (c.table .policy).select (·.name == req.viewPolicy)
  source : sourceTenants req c' = sourceTenants req c
  view : (c'.table .view).select (ownView req) = (c.table .view).select (ownView req)
  quota : (c'.table .quota).select (ownQuota req) = (c.table .quota).select (ownQuota req)
  stream : ∃ progress : Stream → StreamState, (c'.table .stream).select (ownStream req) =
    ((c.table .stream).select (ownStream req)).map fun r => { r with state := progress r }

theorem Meanwhile.refl (c : Cluster) : Meanwhile req c c :=
  ⟨rfl, rfl, rfl, rfl, Vms.Stream.state, (map_id _).symm⟩

def tenantOf (c₀ : Cluster) : Option String :=
  match req.source with
  | .empty => ((c₀.table .policy).select (·.name == req.viewPolicy)).head?.map Policy.tenantId
  | _ => (sourceTenants req c₀).head?

def streamOf : Option String :=
  match req.source with
  | .empty => none
  | _ => some req.streamName

/-- The answer to a clone. -/
theorem answer_clone {req : NfsCreateReq} (c₀ : Cluster) (h : req.source ≠ .empty) :
    tenantOf req c₀ = (sourceTenants req c₀).head? ∧ streamOf req = some req.streamName := by
  unfold tenantOf streamOf
  cases hs : req.source with
  | empty => exact absurd hs h
  | volume _ => exact ⟨rfl, rfl⟩
  | snapshot _ => exact ⟨rfl, rfl⟩

structure Provisioned (c₀ : Cluster) (answer : CreatedVolume) (c : Cluster) : Prop where
  kept : Converging req c₀ c
  stream : req.source ≠ .empty → ∃ s, (c.table .stream).select (ownStream req) = [s]
  objects : ∃ v q tenantId, (c.table .view).select (ownView req) = [v] ∧
    (c.table .quota).select (ownQuota req) = [q] ∧ tenantOf req c₀ = some tenantId ∧
    answer = req.response v q tenantId (streamOf req)

end Request

section Changes

variable {req : NfsCreateReq} {c₀ c c' : Cluster}

theorem sourceTenants_congr
    (hquota : ∀ volumeId, (c'.table .quota).select (sourceQuota req volumeId) =
      (c.table .quota).select (sourceQuota req volumeId))
    (hsnapshot : ∀ snapshotId, req.source = .snapshot snapshotId →
      c'.table .snapshot = c.table .snapshot) : sourceTenants req c' = sourceTenants req c := by
  unfold sourceTenants
  cases hsource : req.source with
  | empty => rfl
  | volume volumeId =>
    dsimp only
    rw [hquota volumeId]
  | snapshot snapshotId => simp only [Cluster.find, hsnapshot snapshotId hsource]

/-- What happens between attempts keeps the invariant. -/
theorem Converging.meanwhile (h : Converging req c₀ c) (hm : Meanwhile req c c') :
    Converging req c₀ c' where
  policy := hm.policy.trans h.policy
  source := hm.source.trans h.source
  view := h.view.congr hm.view
  quota := h.quota.congr hm.quota
  stream := by
    obtain ⟨progress, hprogress⟩ := hm.stream
    rcases h.stream with hnil | ⟨s, hs, hname⟩
    · exact .inl (by rw [hprogress, hnil]; rfl)
    · exact .inr ⟨{ s with state := progress s }, by rw [hprogress, hs]; rfl, hname⟩

/-- A view that the policy of the request asks for. -/
theorem Converging.insertView (h : Converging req c₀ c)
    (hnone : (c.table .view).select (ownView req) = []) {r : View}
    (hid : r.id = (c.table .view).fresh) (hpath : r.path = req.viewPath)
    (hgood : GoodView req c₀ r) (t p : String) :
    Converging req c₀ ((c.insert .view r).addDir t p) ∧
      (((c.insert .view r).addDir t p).table .view).select (ownView req) = [r] := by
  have hview : ((c.insert .view r).table .view).select (ownView req) = [r] :=
    select_insert_new hnone hid (beq_iff_eq.mpr hpath)
  refine ⟨⟨?_, (sourceTenants_congr (fun _ => ?_) fun _ _ => ?_).trans h.source,
    .inr ⟨r, hview, hgood⟩, h.quota.congr ?_, h.stream.congr ?_⟩, hview⟩ <;>
    rw [addDir_table, insert_table_ne (by decide)]
  exact h.policy

/-- A quota of the request's capacity. -/
theorem Converging.insertQuota (h : Converging req c₀ c)
    (hnone : (c.table .quota).select (ownQuota req) = []) {r : Quota}
    (hid : r.id = (c.table .quota).fresh) (hpath : r.path = req.viewPath)
    (hgood : GoodQuota req c₀ r) :
    Converging req c₀ (c.insert .quota r) ∧
      ((c.insert .quota r).table .quota).select (ownQuota req) = [r] := by
  have hown : ownQuota req r = true := beq_iff_eq.mpr hpath
  have hquota : ((c.insert .quota r).table .quota).select (ownQuota req) = [r] :=
    select_insert_new hnone hid hown
  refine ⟨⟨?_, (sourceTenants_congr (fun volumeId => ?_) fun _ _ => ?_).trans h.source,
    h.view.congr ?_, .inr ⟨r, hquota, hgood⟩, h.stream.congr ?_⟩, hquota⟩
  · rw [insert_table_ne (by decide)]
    exact h.policy
  · exact select_insert_other hid (by simp [sourceQuota, hown])
  all_goals rw [insert_table_ne (by decide)]

/-- A stream of the request's name. -/
theorem Converging.insertStream (h : Converging req c₀ c)
    (hnone : (c.table .stream).select (ownStream req) = []) {r : Stream}
    (hid : r.id = (c.table .stream).fresh) (hname : r.name = req.streamName) (t p : String) :
    Converging req c₀ ((c.insert .stream r).addDir t p) ∧
      (((c.insert .stream r).addDir t p).table .stream).select (ownStream req) = [r] := by
  have hstream : ((c.insert .stream r).table .stream).select (ownStream req) = [r] :=
    select_insert_new hnone hid (by simp [ownStream, hname])
  refine ⟨⟨?_, (sourceTenants_congr (fun _ => ?_) fun _ _ => ?_).trans h.source,
    h.view.congr ?_, h.quota.congr ?_, .inr ⟨r, hstream, hname⟩⟩, hstream⟩ <;>
    rw [addDir_table, insert_table_ne (by decide)]
  exact h.policy

theorem select_setStreamState (id : Nat) (state : StreamState) :
    ((c.setStreamState id state).table .stream).select (ownStream req) =
      ((c.table .stream).select (ownStream req)).map
        fun s => if s.id = id then { s with state } else s := by
  rw [Cluster.setStreamState, set_table_self]
  exact select_modify fun _ => rfl

/-- The stream makes progress. -/
theorem Converging.setStreamState (h : Converging req c₀ c) (id : Nat) (state : StreamState) :
    Converging req c₀ (c.setStreamState id state) := by
  refine ⟨?_, (sourceTenants_congr (fun _ => ?_) fun _ _ => ?_).trans h.source,
    h.view.congr ?_, h.quota.congr ?_, ?_⟩
  rotate_right
  · unfold Sole
    rw [select_setStreamState]
    rcases h.stream with hnil | ⟨s, hs, hname⟩
    · exact .inl (by rw [hnil]; rfl)
    · refine .inr ⟨if s.id = id then { s with state } else s, by rw [hs]; rfl, ?_⟩
      split
      next => exact hname
      next => exact hname
  all_goals rw [Cluster.setStreamState, set_table_ne _ _ (by decide)]
  exact h.policy

/-- An intermediate snapshot, which is not a source. -/
theorem Converging.insertSnapshot (h : Converging req c₀ c) {volumeId : String}
    (hsource : req.source = .volume volumeId) (r : Snapshot) :
    Converging req c₀ (c.insert .snapshot r) := by
  refine ⟨?_, (sourceTenants_congr (fun _ => ?_) fun _ hs => ?_).trans h.source,
    h.view.congr ?_, h.quota.congr ?_, h.stream.congr ?_⟩
  rotate_right 4
  · rw [hsource] at hs
    cases hs
  all_goals rw [insert_table_ne (by decide)]
  exact h.policy

end Changes

section Steps

variable {env : Env} {req : NfsCreateReq} {c₀ : Cluster} {J : Cluster → Prop}

def Findable (req : NfsCreateReq) : Prop :=
  ∀ r : Quota, quotaByPath req.viewPath r = true ↔ r.path = req.viewPath

def Streamed (req : NfsCreateReq) (needed : Prop) (c : Cluster) : Prop :=
  needed → ∃ s, (c.table .stream).select (ownStream req) = [s]

/-- Before the view, with it, and with the quota as well. -/
def Underway (req : NfsCreateReq) (c₀ : Cluster) (needed : Prop) (c : Cluster) : Prop :=
  Converging req c₀ c ∧ Streamed req needed c

def Viewed (req : NfsCreateReq) (c₀ : Cluster) (needed : Prop) (v : View) (c : Cluster) : Prop :=
  Underway req c₀ needed c ∧ (c.table .view).select (ownView req) = [v]

def Limited (req : NfsCreateReq) (c₀ : Cluster) (needed : Prop) (v : View) (q : Quota)
    (c : Cluster) : Prop :=
  Viewed req c₀ needed v c ∧ (c.table .quota).select (ownQuota req) = [q]

theorem keeps_orRaise (answer : Except Err Unit) : Keeps (onVms J) (orRaise answer) := by
  cases answer with
  | ok _ => exact .ret
  | error e => exact .err

/-- A lookup that has to find something. -/
theorem keeps_oneOrFail {k : Kind} {q : Query k} : Keeps (onVms J) (oneOrFail env k q) :=
  meets_oneOrFail.weaken (fun _ hw => hw) (fun _ _ hw => hw.1) (fun _ _ hw => hw.1)

theorem keeps_validateXprtsec : Keeps (onVms J) (validateXprtsec env req) := by
  unfold validateXprtsec
  split
  next => exact .ret
  next => exact .bind keeps_oneOrFail fun _ => keeps_orRaise _

theorem keeps_findQosPolicy : Keeps (onVms J) (findQosPolicy env req) := by
  unfold findQosPolicy
  split
  next => exact .ret
  next =>
    exact meets_request_world (P := onVms J) (I := onVms J) (Q := fun _ => onVms J)
      (fun _ hw => hw) (fun _ hw => hw) (fun _ _ hw => hw) (keeps_orRaise _)

variable {needed : Prop} {c : Cluster} {tenantId : String}

/-- The view is found again, or created once. -/
theorem meets_ensureView : VmsMeets (Underway req c₀ needed) (ensureView env req)
      (fun v => Viewed req c₀ needed v) (Converging req c₀) := by
  refine .bind ((meets_one (J := Underway req c₀ needed)).raise fun _ _ hw => hw.1.1)
    fun found => ?_
  cases found with
  | some v =>
    refine .pure fun w hw => ⟨hw.1, (hw.1.1.view.some (fun h => ?_) hw.2).1⟩
    exact (and_eq_true_iff.mp h).1
  | none =>
    -- a good view would have been found
    have hnone : ∀ w : World, onVms (Underway req c₀ needed) w ∧
        Found .view (fun r => r.path == req.viewPath && r.policy == req.viewPolicy) w.vms none →
        onVms (fun c => Underway req c₀ needed c ∧ (c.table .view).select (ownView req) = []) w :=
      fun w hw =>
        ⟨hw.1, hw.1.1.view.none (fun r hp hgood => by simp [hgood.1, beq_iff_eq.mp hp]) hw.2⟩
    refine .bind (meets_oneOrFail.weaken hnone (fun _ _ hw => hw) (fun _ _ hw => hw.1.1.1))
      fun pol => ?_
    refine .bind (keeps_findQosPolicy.weaken
      (fun w hw => show onVms (fun c => (Underway req c₀ needed c ∧
        (c.table .view).select (ownView req) = []) ∧ Found .policy _ c (some pol)) w from hw)
      (fun _ _ hw => hw) (fun _ _ hw => hw.1.1.1)) fun _ => ?_
    refine (meets_create (k := .view) (I := Converging req c₀) (Q := Viewed req c₀ needed)
      (fun c hc => hc.1.1.1) (fun _ _ hc => hc.1.1) fun c hc => ?_).raiseLeft
    obtain ⟨⟨⟨hconv, hstreamed⟩, hview⟩, hpol⟩ := hc
    have hgood : GoodView req c₀ ⟨(c.table .view).fresh, req.viewPath, pol.tenantId,
        req.viewPolicy, [req.protocol], none, none⟩ :=
      ⟨rfl, pol, (hconv.policy.symm.trans hpol : _), rfl⟩
    obtain ⟨hafter, hsole⟩ := hconv.insertView hview rfl rfl hgood pol.tenantId req.viewPath
    refine ⟨⟨hafter, fun hneeded => ?_⟩, hsole⟩
    obtain ⟨s, hs⟩ := hstreamed hneeded
    exact ⟨s, by rw [addDir_table, insert_table_ne (by decide)]; exact hs⟩

theorem keeps_checkCapacity {quota : Quota} : Keeps (onVms J) (checkCapacity req quota) := by
  unfold checkCapacity
  split
  next => exact .ret
  next =>
    unfold Cosi.checkLimit
    split
    next => exact keeps_assertThat _ _
    next => exact .ret

/-- The quota is found again, or created once. -/
theorem meets_ensureQuota (hfindable : Findable req) {v : View} :
    VmsMeets (Viewed req c₀ needed v) (ensureQuota env req v.tenantId)
      (fun q => Limited req c₀ needed v q) (Converging req c₀) := by
  refine .bind ((meets_one (J := Viewed req c₀ needed v)).raise fun _ _ hw => hw.1.1.1)
    fun found => ?_
  cases found with
  | some q =>
    have hfound : ∀ w : World, onVms (Viewed req c₀ needed v) w ∧ Found .quota (fun r =>
          quotaByPath req.viewPath r && r.tenantId == v.tenantId) w.vms (some q) →
        onVms (Limited req c₀ needed v q) w := fun w hw =>
      ⟨hw.1, (hw.1.1.1.quota.some (fun h => beq_iff_eq.mpr
        ((hfindable q).mp (and_eq_true_iff.mp h).1)) hw.2).1⟩
    exact .bind (keeps_checkCapacity.weaken hfound (fun _ _ hw => hw)
      (fun _ _ hw => hw.1.1.1)) fun _ => .pure fun _ hw => hw
  | none =>
    refine (meets_create (J := fun c => Viewed req c₀ needed v c ∧ Found .quota (fun r =>
        quotaByPath req.viewPath r && r.tenantId == v.tenantId) c none)
      (k := .quota) (I := Converging req c₀) (Q := Limited req c₀ needed v)
      (fun c hc => hc.1.1.1) (fun _ _ hc => hc.1.1.1) fun c hc => ?_).raiseLeft
    obtain ⟨⟨⟨hconv, hstreamed⟩, hview⟩, hnot⟩ := hc
    obtain ⟨-, pol, hpol, htenant⟩ := hconv.view.good hview
    -- a good quota is in the tenant of the view, so it would have been found
    have hnone : (c.table .quota).select (ownQuota req) = [] := by
      refine hconv.quota.none (fun r hp hgood => ?_) hnot
      obtain ⟨-, pol', hpol', htenant'⟩ := hgood
      have hsame : pol' = pol := hpol.eq hpol'.mem.1 hpol'.mem.2
      rw [and_eq_true, beq_iff_eq]
      exact ⟨(hfindable r).mpr (beq_iff_eq.mp hp), by rw [htenant', hsame, htenant]⟩
    obtain ⟨hafter, hsole⟩ := hconv.insertQuota hnone (r := ⟨(c.table .quota).fresh,
      req.viewPath, v.tenantId, req.hardLimit⟩) rfl rfl ⟨rfl, pol, hpol, htenant⟩
    refine ⟨⟨⟨hafter, fun hneeded => ?_⟩, ?_⟩, hsole⟩
    · obtain ⟨s, hs⟩ := hstreamed hneeded
      exact ⟨s, by rw [insert_table_ne (by decide)]; exact hs⟩
    · rw [insert_table_ne (by decide)]
      exact hview

/-- Waiting keeps what the progress of a stream keeps. -/
theorem keeps_awaitClone (hprogress : ∀ c id state, J c → J (c.setStreamState id state))
    {stream : Stream} : Keeps (onVms J) (awaitClone env req stream) := by
  unfold awaitClone
  split
  next =>
    refine meets_request_world (P := onVms J) (I := onVms J) (Q := fun _ => onVms J)
      (fun _ hw => hw) (fun _ hw => hw) (fun _ _ hw => hw) (keeps_of_endState fun w hw => ?_)
    rcases Cosi.settleStream_state req.timeout stream.id w with h | ⟨state, h⟩
    · rw [h]
      exact hw
    · rw [h]
      exact hprogress _ _ _ hw
  next => exact .pure fun _ hw => hw

theorem Streamed.setStreamState (h : Streamed req needed c) (id : Nat) (state : StreamState) :
    Streamed req needed (c.setStreamState id state) := by
  intro hneeded
  obtain ⟨s, hs⟩ := h hneeded
  exact ⟨_, by rw [select_setStreamState, hs]; rfl⟩

/-- The stream is found again, or created once. -/
theorem meets_ensureStream : Meets (onVms (Converging req c₀)) (ensureStream env req tenantId)
      (fun s w => Underway req c₀ True w.vms ∧ s.name = req.streamName)
      (fun _ => onVms (Converging req c₀)) := by
  refine meets_requisite_of (fun _ _ hw => hw) ?_
  have hfind : VmsMeets (Converging req c₀)
      (Cosi.findOrClone env req.streamName tenantId req.viewPath)
      (fun s c => Underway req c₀ True c ∧ s.name = req.streamName)
      (Converging req c₀) := by
    refine .bind ((meets_one (J := Converging req c₀)).raiseLeft) fun found => ?_
    cases found with
    | some s =>
      refine .pure fun w hw => ?_
      obtain ⟨hsole, hname⟩ := hw.1.stream.some (fun h => by simp [ownStream, h]) hw.2
      exact ⟨⟨hw.1, fun _ => ⟨s, hsole⟩⟩, hname⟩
    | none =>
      refine (meets_create (J := fun c => Converging req c₀ c ∧
        Found .stream (fun r => r.name == req.streamName) c none) (I := Converging req c₀)
        (Q := fun (s : Stream) c => Underway req c₀ True c ∧ s.name = req.streamName)
        (fun c hc => hc.1) (fun _ _ hc => hc.1.1) fun c hc => ?_).weaken (fun _ hw => hw)
        (fun _ _ hw => hw) (fun _ _ hw => hw.1)
      have hnone := hc.1.stream.none (fun r _ hgood => beq_iff_eq.mpr hgood) hc.2
      obtain ⟨hafter, hsole⟩ := hc.1.insertStream hnone (r := ⟨(c.table .stream).fresh,
        req.streamName, .initializing, req.viewPath, tenantId⟩) rfl rfl tenantId req.viewPath
      exact ⟨⟨hafter, fun _ => ⟨_, hsole⟩⟩, rfl⟩
  refine .bind hfind fun s => ?_
  refine .bind ((keeps_awaitClone fun c id state hc =>
    ⟨⟨hc.1.1.setStreamState id state, hc.1.2.setStreamState id state⟩, hc.2⟩).raise
      (fun _ _ hw => hw.1.1)) fun _ => ?_
  exact .pure fun _ hw => hw

/-- The intermediate snapshot. -/
theorem keeps_ensureSnapshot {name path : String}
    (hinsert : ∀ c r, J c → J (c.insert .snapshot r)) :
    Keeps (onVms J) (Cosi.ensureSnapshot env name path tenantId) := by
  refine .bind (meets_one.weaken (fun _ hw => hw) (fun _ _ hw => hw.1)
    (fun _ _ hw => hw.1)) fun found => ?_
  cases found with
  | some s =>
    dsimp only
    split
    next => exact .ret
    next => exact .err
  | none =>
    exact (meets_create (I := J) (Q := fun _ => J) (fun _ hc => hc) (fun _ _ hc => hc)
      fun c hc => hinsert c _ hc).raiseLeft

/-! ## A whole attempt -/

/-- View and quota, one of each. -/
theorem meets_ensureViewAndQuota (needed : Prop) (hfindable : Findable req) :
    VmsMeets (Underway req c₀ needed) (ensureViewAndQuota env req)
      (fun r => Limited req c₀ needed r.1 r.2) (Converging req c₀) :=
  .bind meets_ensureView fun _ => .bind (meets_ensureQuota hfindable) fun _ => .pure fun _ hw => hw

theorem meets_buildEmpty (hfindable : Findable req) (hsource : req.source = .empty) :
    VmsMeets (Converging req c₀) (buildEmpty env req)
      (fun a => Provisioned req c₀ a) (Converging req c₀) := by
  refine .bind ((meets_ensureViewAndQuota False hfindable).pre (fun _ hw => ⟨hw, False.elim⟩))
    fun ⟨v, q⟩ => ?_
  refine .pure fun w hw => ?_
  obtain ⟨⟨⟨hconv, -⟩, hview⟩, hquota⟩ := hw
  obtain ⟨-, pol, hpol, htenant⟩ := hconv.view.good hview
  refine ⟨hconv, fun h => absurd hsource h, v, q, v.tenantId, hview, hquota, ?_, ?_⟩
  · simp only [tenantOf, hsource]
    rw [show (c₀.table .policy).select (·.name == req.viewPolicy) = [pol] from hpol, htenant]
    rfl
  · simp only [streamOf, hsource]

theorem meets_buildClone (hfindable : Findable req) (hsource : req.source ≠ .empty)
    (htenant : sourceTenants req c₀ = [tenantId]) :
    VmsMeets (Converging req c₀) (buildClone env req tenantId)
      (fun a => Provisioned req c₀ a) (Converging req c₀) := by
  refine .bind meets_ensureStream fun s => ?_
  refine .assuming (p := s.name = req.streamName) (fun _ hw => hw.2) fun hname => ?_
  refine .bind ((meets_ensureViewAndQuota True hfindable).preLeft) fun ⟨v, q⟩ => ?_
  refine .pure fun w hw => ?_
  obtain ⟨⟨⟨hconv, hstream⟩, hview⟩, hquota⟩ := hw
  refine ⟨hconv, fun _ => hstream trivial, v, q, tenantId, hview, hquota, ?_, ?_⟩
  · rw [(answer_clone c₀ hsource).1, htenant]
    rfl
  · rw [hname, (answer_clone c₀ hsource).2]

/-- The volume's own quota may be in the query as well, but then it is not the only one. -/
theorem Converging.sourceTenant (h : Converging req c₀ c) {volumeId : String}
    (hsource : req.source = .volume volumeId) (hexists : sourceTenants req c₀ ≠ []) {q : Quota}
    (hq : Found .quota (quotaByName (withoutCluster volumeId)) c (some q)) :
    sourceTenants req c₀ = [q.tenantId] := by
  rw [← h.source] at hexists ⊢
  have hselect : (c.table .quota).select (sourceQuota req volumeId) =
      [q].filter fun r => !ownQuota req r := by
    rw [← show (c.table .quota).select (quotaByName (withoutCluster volumeId)) = [q] from hq]
    exact select_and ..
  simp only [sourceTenants, hsource] at hexists ⊢
  rw [hselect] at hexists ⊢
  cases hown : ownQuota req q with
  | true => simp [hown] at hexists
  | false => simp [hown]

theorem Converging.snapshotTenant (h : Converging req c₀ c) {snapshotId : String}
    (hsource : req.source = .snapshot snapshotId) {r : Snapshot}
    (hr : some r = (snapshotNumber snapshotId).bind fun id => c.find .snapshot id) :
    sourceTenants req c₀ = [r.tenantId] := by
  rw [← h.source]
  simp only [sourceTenants, hsource]
  rw [← hr]
  rfl

/-- Whichever builder runs. -/
theorem meets_nfsCreateVolume (hfindable : Findable req)
    (hexists : req.source ≠ .empty → sourceTenants req c₀ ≠ []) :
    VmsMeets (Converging req c₀) (nfsCreateVolume env req)
      (fun a => Provisioned req c₀ a) (Converging req c₀) := by
  refine .bind keeps_validateXprtsec fun _ => ?_
  cases hsource : req.source with
  | empty => exact meets_buildEmpty hfindable hsource
  | volume volumeId =>
    have hclone : req.source ≠ .empty := by rw [hsource]; exact nofun
    refine .bind ((meets_one (J := Converging req c₀)).raiseLeft) fun found => ?_
    cases found with
    | none => exact .throw fun _ hw => hw.1
    | some q =>
      refine .assuming (p := sourceTenants req c₀ = [q.tenantId])
        (fun _ hw => hw.1.sourceTenant hsource (hexists hclone) hw.2) fun htenant => ?_
      exact .bind ((keeps_ensureSnapshot fun _ r hc => hc.insertSnapshot hsource r).pre
        (fun _ hw => hw.1))
        fun _ => meets_buildClone hfindable hclone htenant
  | snapshot snapshotId =>
    have hclone : req.source ≠ .empty := by rw [hsource]; exact nofun
    refine .bind ((meets_read (J := Converging req c₀) _).raiseLeft) fun found => ?_
    cases found with
    | none => exact .throw fun _ hw => hw.1
    | some r =>
      refine .assuming (p := sourceTenants req c₀ = [r.tenantId])
        (fun _ hw => hw.1.snapshotTenant hsource hw.2) fun htenant => ?_
      exact (meets_buildClone hfindable hclone htenant).preLeft

end Steps

/-! ## A request of another capacity -/

/-- Views and quotas are what they were, and so is the stream but for its state. -/
structure Unchanged (req : NfsCreateReq) (c₁ c : Cluster) : Prop where
  view : c.table .view = c₁.table .view
  quota : c.table .quota = c₁.table .quota
  stream : ((c.table .stream).select (ownStream req)).map ({ · with state := .initializing }) =
    ((c₁.table .stream).select (ownStream req)).map ({ · with state := .initializing })

section Unchanged

variable {env : Env} {req : NfsCreateReq} {c₁ : Cluster}

variable {c : Cluster}

/-- The capacity does not matter here. -/
theorem unchanged_capacity (capacity : Nat) :
    Unchanged { req with capacity } c₁ c ↔ Unchanged req c₁ c :=
  ⟨fun h => ⟨h.view, h.quota, h.stream⟩, fun h => ⟨h.view, h.quota, h.stream⟩⟩

theorem Unchanged.setStreamState (h : Unchanged req c₁ c) (id : Nat) (state : StreamState) :
    Unchanged req c₁ (c.setStreamState id state) := by
  refine ⟨?_, ?_, ?_⟩
  · rw [Cluster.setStreamState, set_table_ne _ _ (by decide)]
    exact h.view
  · rw [Cluster.setStreamState, set_table_ne _ _ (by decide)]
    exact h.quota
  · rw [select_setStreamState, map_map, ← h.stream]
    refine map_congr_left fun s _ => ?_
    dsimp only [Function.comp]
    split
    next => rfl
    next => rfl

theorem Unchanged.insertSnapshot (h : Unchanged req c₁ c) (r : Snapshot) :
    Unchanged req c₁ (c.insert .snapshot r) := by
  refine ⟨?_, ?_, ?_⟩ <;> rw [insert_table_ne (by decide)]
  exacts [h.view, h.quota, h.stream]

/-- The view is there already. -/
theorem meets_ensureView_found {v : View} (hv : (c₁.table .view).select (ownView req) = [v])
    (hpolicy : v.policy = req.viewPolicy) :
    Meets (onVms (Unchanged req c₁)) (ensureView env req)
      (fun r w => Unchanged req c₁ w.vms ∧ r = v) (fun _ => onVms (Unchanged req c₁)) := by
  have hfind : (c₁.table .view).select
      (fun r => r.path == req.viewPath && r.policy == req.viewPolicy) = [v] := by
    rw [select_and]
    refine (congrArg (List.filter _) hv).trans ?_
    simp [hpolicy]
  refine .bind ((meets_one_known fun c (hc : Unchanged req c₁ c) =>
    hc.view ▸ hfind).raiseLeft)
    fun found => ?_
  refine .assuming (p := found = some v) (fun _ hw => hw.2) ?_
  rintro rfl
  exact .pure fun _ hw => ⟨hw.1, rfl⟩

/-- The quota is there already, with another limit. -/
theorem meets_ensureQuota_refused (hfindable : Findable req) {q : Quota} {limit : Nat}
    (hq : (c₁.table .quota).select (ownQuota req) = [q]) (hlimit : q.hardLimit = some limit)
    (hpositive : req.capacity ≠ 0) (hother : limit ≠ req.capacity) :
    Meets (onVms (Unchanged req c₁)) (ensureQuota env req q.tenantId)
      (fun _ _ => False) (fun _ => onVms (Unchanged req c₁)) := by
  have hown : quotaByPath req.viewPath = ownQuota req := by
    funext r
    rw [Bool.eq_iff_iff, hfindable r, ownQuota, beq_iff_eq]
  have hfind : (c₁.table .quota).select
      (fun r => quotaByPath req.viewPath r && r.tenantId == q.tenantId) = [q] := by
    rw [select_and, hown, hq]
    simp
  refine .bind ((meets_one_known fun c (hc : Unchanged req c₁ c) =>
    hc.quota ▸ hfind).raiseLeft)
    fun found => ?_
  refine .assuming (p := found = some q) (fun _ hw => hw.2) ?_
  rintro rfl
  refine .bind (Q := fun _ _ => False) ?_ fun _ => fun _ hw => hw.elim
  unfold checkCapacity Cosi.checkLimit
  rw [if_neg hpositive, hlimit]
  exact .assertThat (fun h => absurd (beq_iff_eq.mp h) hother) fun _ _ hw => hw.1

/-- The stream is there already. -/
theorem keeps_ensureStream_found {tenantId : String}
    (hs : ∃ s, (c₁.table .stream).select (ownStream req) = [s] ∧ s.name = req.streamName) :
    Keeps (onVms (Unchanged req c₁)) (ensureStream env req tenantId) := by
  obtain ⟨s₁, hs₁, hname⟩ := hs
  refine meets_requisite_of (fun _ _ hw => hw) ?_
  refine .bind (Q := fun _ => onVms (Unchanged req c₁)) ?_ fun s =>
    .bind (keeps_awaitClone fun _ id state hc => hc.setStreamState id state) fun _ => .ret
  refine .bind ((meets_one (J := Unchanged req c₁)).raiseLeft) fun found => ?_
  cases found with
  | some s => exact .pure fun _ hw => hw.1
  | none =>
    -- one stream of the name is there, whatever its state
    refine .assuming (p := False) (fun w hw => ?_) False.elim
    have hstream := hw.1.stream
    rw [hs₁] at hstream
    obtain ⟨s, hs, heq⟩ := map_eq_singleton_iff.mp hstream
    have hmem : s ∈ (w.vms.table .stream).select (ownStream req) := hs ▸ mem_singleton_self s
    have hsame : s.name = s₁.name := (Vms.Stream.mk.inj heq).2.1
    exact hw.2.not_mem (beq_iff_eq.mpr (hsame.trans hname)) (mem_select.mp hmem).1

/-- What a success leaves refuses another capacity. -/
theorem meets_nfsCreateVolume_refused (hfindable : Findable req) {v : View} {q : Quota}
    {limit : Nat} (hv : (c₁.table .view).select (ownView req) = [v])
    (hpolicy : v.policy = req.viewPolicy)
    (hq : (c₁.table .quota).select (ownQuota req) = [q]) (htenant : v.tenantId = q.tenantId)
    (hs : req.source ≠ .empty →
      ∃ s, (c₁.table .stream).select (ownStream req) = [s] ∧ s.name = req.streamName)
    (hlimit : q.hardLimit = some limit) (hpositive : req.capacity ≠ 0)
    (hother : limit ≠ req.capacity) :
    Meets (onVms (Unchanged req c₁)) (nfsCreateVolume env req)
      (fun _ _ => False) (fun _ => onVms (Unchanged req c₁)) := by
  have hobjects : Meets (onVms (Unchanged req c₁)) (ensureViewAndQuota env req)
      (fun _ _ => False) (fun _ => onVms (Unchanged req c₁)) := by
    refine .bind (meets_ensureView_found hv hpolicy) fun r => ?_
    refine .assuming (p := r = v) (fun _ hw => hw.2) ?_
    rintro rfl
    rw [htenant]
    exact .bind ((meets_ensureQuota_refused hfindable hq hlimit hpositive hother).pre
      (fun _ hw => hw.1)) fun _ => fun _ hw => hw.elim
  have hclone (tenantId : String) (hsource : req.source ≠ .empty) :
      Meets (onVms (Unchanged req c₁)) (buildClone env req tenantId)
        (fun _ _ => False) (fun _ => onVms (Unchanged req c₁)) :=
    .bind (keeps_ensureStream_found (hs hsource)) fun _ =>
      .bind hobjects fun _ => fun _ hw => hw.elim
  refine .bind keeps_validateXprtsec fun _ => ?_
  cases hsource : req.source with
  | empty => exact .bind hobjects fun _ => fun _ hw => hw.elim
  | volume volumeId =>
    refine .bind ((meets_one (J := Unchanged req c₁)).weaken (fun _ hw => hw)
      (fun _ _ hw => hw.1) (fun _ _ hw => hw.1)) fun found => ?_
    cases found with
    | none => exact .err
    | some source =>
      exact .bind (keeps_ensureSnapshot fun _ r hc => hc.insertSnapshot r)
        fun _ => hclone _ (by rw [hsource]; exact nofun)
  | snapshot snapshotId =>
    refine .bind ((meets_read (J := Unchanged req c₁) _).weaken (fun _ hw => hw)
      (fun _ _ hw => hw.1) (fun _ _ hw => hw.1)) fun found => ?_
    cases found with
    | none => exact .err
    | some r => exact hclone _ (by rw [hsource]; exact nofun)

end Unchanged

/-! ## Attempts -/

structure CreateAttempt where
  env : Env
  before : Cluster → Cluster

def CreateAttempt.run (req : NfsCreateReq) (a : CreateAttempt) : Call CreatedVolume :=
  fun w => nfsCreateVolume a.env req { w with vms := a.before w.vms }

/-- The path of a view is not empty. -/
theorem viewPath_ne_nil (rootExport name : List Char) : viewPath rootExport name ≠ [] := by
  have hjoin (a b : List Char) (ha : a ≠ []) : Paths.join a b ≠ [] := by
    unfold Paths.join Paths.withSlash
    split
    next h =>
      rintro rfl
      cases h
    next =>
      split
      next => exact append_ne_nil_of_left_ne_nil ha b
      next => exact append_ne_nil_of_left_ne_nil (by simp) b
  exact hjoin _ _ (hjoin _ _ (by simp))

variable {req : NfsCreateReq}

/-- A path without a slash at its end is found again. -/
theorem findable_of_no_slash (h : req.viewPath = "/" ∨ req.viewPath.toList.getLast? ≠ some '/') :
    Findable req := by
  have hne : req.viewPath ≠ "" := fun he =>
    viewPath_ne_nil _ _ (by rw [← String.toList_ofList (l := viewPath _ _)]; exact congrArg _ he)
  intro r
  unfold quotaByPath
  rcases h with hroot | hlast
  · rw [hroot]
    simp [Text.rstrip, Text.lstrip]
  · rw [Text.rstrip_eq_self hlast, String.ofList_toList]
    simp [hne]

/-- The answers to successful attempts differ in ids at most. -/
theorem Provisioned.withoutIds_eq {c₀ c c' : Cluster} {answer answer' : CreatedVolume}
    (h : Provisioned req c₀ answer c) (h' : Provisioned req c₀ answer' c') :
    answer.withoutIds = answer'.withoutIds := by
  obtain ⟨v, q, tenantId, -, -, htenant, rfl⟩ := h.objects
  obtain ⟨v', q', tenantId', -, -, htenant', rfl⟩ := h'.objects
  cases htenant.symm.trans htenant'
  rfl

theorem Provisioned.ownStream {c₀ c : Cluster} {answer : CreatedVolume}
    (h : Provisioned req c₀ answer c) (hsource : req.source ≠ .empty) :
    ∃ s, (c.table .stream).select (NfsCreate.ownStream req) = [s] ∧ s.name = req.streamName := by
  obtain ⟨s, hs⟩ := h.stream hsource
  exact ⟨s, hs, h.kept.stream.good hs⟩

/-- **Creating a volume, retried until it succeeds**: there is one view, one quota and at most one
stream, the answer is that of a single successful run but for ids, and a request of another
capacity is refused and changes none of them. -/
theorem create_retries (req : NfsCreateReq) (w₀ : World)
    (hview : ∀ r ∈ w₀.vms.table .view, r.path ≠ req.viewPath)
    (hquota : ∀ r ∈ w₀.vms.table .quota, r.path ≠ req.viewPath)
    (hstream : ∀ r ∈ w₀.vms.table .stream,
      r.name ≠ req.streamName ∧ r.loaneeRootPath ≠ req.viewPath)
    (hsource : req.source ≠ .empty → sourceTenants req w₀.vms ≠ [])
    (hslash : req.viewPath = "/" ∨ req.viewPath.toList.getLast? ≠ some '/')
    (attempts : List CreateAttempt) (last : CreateAttempt)
    (hmeanwhile : ∀ a ∈ last :: attempts, ∀ c, Meanwhile req c (a.before c))
    (answer : CreatedVolume) (w : World)
    (hrun : last.run req (afterAttempts id (CreateAttempt.run req) w₀ attempts) = .ok answer w) :
    (∃ v, (w.vms.table .view).select (ownView req) = [v]) ∧
    (∃ q, (w.vms.table .quota).select (ownQuota req) = [q]) ∧
    ((w.vms.table .stream).select (ownStream req)).length ≤ 1 ∧
    (∀ env answer₁ w₁, nfsCreateVolume env req w₀ = .ok answer₁ w₁ →
      answer.withoutIds = answer₁.withoutIds) ∧
    (req.capacity ≠ 0 → ∀ env capacity, capacity ≠ 0 → capacity ≠ req.capacity →
      isOk (nfsCreateVolume env { req with capacity } w) = false ∧
      Unchanged req w.vms (endState (nfsCreateVolume env { req with capacity } w)).vms) := by
  have hfindable := findable_of_no_slash hslash
  have hstart : Converging req w₀.vms w₀.vms := by
    refine ⟨rfl, rfl, .inl ?_, .inl ?_, .inl ?_⟩
    · exact filter_eq_nil_iff.mpr fun r hr => by simpa [ownView] using hview r hr
    · exact filter_eq_nil_iff.mpr fun r hr => by simpa [ownQuota] using hquota r hr
    · exact filter_eq_nil_iff.mpr fun r hr => by simpa [ownStream] using hstream r hr
  have hattempt (env : Env) : Meets (onVms (Converging req w₀.vms)) (nfsCreateVolume env req)
      (fun answer => onVms (Provisioned req w₀.vms answer))
      (fun _ => onVms (Converging req w₀.vms)) := meets_nfsCreateVolume hfindable hsource
  have hrunKeeps (a : CreateAttempt) (ha : a ∈ last :: attempts) :
      Meets (onVms (Converging req w₀.vms)) (a.run req)
        (fun answer => onVms (Provisioned req w₀.vms answer))
        (fun _ => onVms (Converging req w₀.vms)) := fun w hw =>
    hattempt a.env { w with vms := a.before w.vms } (hw.meanwhile (hmeanwhile a ha w.vms))
  have hbefore : onVms (Converging req w₀.vms)
      (afterAttempts id (CreateAttempt.run req) w₀ attempts) :=
    afterAttempts_invariant id _ (fun _ hw => hw) (fun a ha =>
      (hrunKeeps a (mem_cons_of_mem _ ha)).post fun _ _ hw => hw.kept) hstart
  have hdone : Provisioned req w₀.vms answer w.vms := (hrunKeeps last mem_cons_self).ok hbefore hrun
  obtain ⟨v, q, -, hv, hq, -⟩ := hdone.objects
  refine ⟨⟨v, hv⟩, ⟨q, hq⟩, ?_, fun env answer₁ w₁ hrun₁ => ?_, fun hcapacity env capacity hne
    hother => ?_⟩
  · rcases hdone.kept.stream with hnil | ⟨s, hs, -⟩
    · simp [hnil]
    · simp [hs]
  · exact hdone.withoutIds_eq ((hattempt env).ok hstart hrun₁)
  · obtain ⟨hpolicy, pol, hpol, htenant⟩ := hdone.kept.view.good hv
    obtain ⟨hlimit, pol', hpol', htenant'⟩ := hdone.kept.quota.good hq
    have hsame : pol' = pol := hpol.eq hpol'.mem.1 hpol'.mem.2
    rw [NfsCreateReq.hardLimit, if_neg hcapacity] at hlimit
    have hrefused : Meets (onVms (Unchanged { req with capacity } w.vms))
        (nfsCreateVolume env { req with capacity }) (fun _ _ => False)
        (fun _ => onVms (Unchanged { req with capacity } w.vms)) :=
      meets_nfsCreateVolume_refused hfindable hv hpolicy hq (by rw [htenant, htenant', hsame])
        hdone.ownStream hlimit hne (Ne.symm hother)
    have hafter := hrefused w ⟨rfl, rfl, rfl⟩
    cases hx : nfsCreateVolume env { req with capacity } w with
    | ok a w' =>
      rw [hx] at hafter
      exact hafter.elim
    | error e w' =>
      rw [hx] at hafter
      exact ⟨rfl, (unchanged_capacity capacity).mp hafter⟩

/-! ## A name that ends in a slash -/

def plainRequest (name : String) : NfsCreateReq where
  name := name
  rootExport := "/k8s"
  viewPolicy := "default"
  capacity := 1024
  volumeName := name

def defaultCluster : Cluster :=
  (Cluster.fresh ⟨5, 0, 0⟩).insert .policy { id := 1, name := "default", tenantId := "1" }

def lostQuota : CreateAttempt :=
  ⟨{ Env.steady with fate := fun n => if n = 5 then .lost .connection else .answered }, id⟩

/-- The quota was created, but its lookup misses it: the retry succeeds with a second one. -/
theorem create_retry_second_quota :
    let req := plainRequest "pvc-1/"
    let run := nfsCreateVolume .steady req
      (afterAttempts id (CreateAttempt.run req) { vms := defaultCluster } [lostQuota])
    isOk run = true ∧ ((endState run).vms.table .quota).rows.map Quota.path =
      [req.viewPath, req.viewPath] ∧
    let again := nfsCreateVolume .steady { req with capacity := 2048 } (endState run)
    isOk again = true ∧ ((endState again).vms.table .quota).rows.length = 3 := by
  decide +kernel

/-- The same for the name `pvc-1`, whose path ends in no slash. -/
theorem create_retries_lost_answer :
    ∃ answer w, CreateAttempt.run (plainRequest "pvc-1") ⟨.steady, id⟩
        (afterAttempts id (CreateAttempt.run (plainRequest "pvc-1")) { vms := defaultCluster }
          [lostQuota]) = .ok answer w ∧
      (∃ q, (w.vms.table .quota).select (ownQuota (plainRequest "pvc-1")) = [q]) ∧
      isOk (nfsCreateVolume .steady { plainRequest "pvc-1" with capacity := 2048 } w) = false := by
  have hok : isOk (CreateAttempt.run (plainRequest "pvc-1") ⟨.steady, id⟩
      (afterAttempts id (CreateAttempt.run (plainRequest "pvc-1")) { vms := defaultCluster }
        [lostQuota])) = true := by decide +kernel
  obtain ⟨answer, w, hw⟩ := exists_ok_of_isOk hok
  have hresult := create_retries (plainRequest "pvc-1") { vms := defaultCluster }
    (fun r hr => absurd hr not_mem_nil) (fun r hr => absurd hr not_mem_nil)
    (fun r hr => absurd hr not_mem_nil) (fun h => absurd rfl h) (.inr (by decide +kernel))
    [lostQuota] ⟨.steady, id⟩ (by simp [lostQuota, Meanwhile.refl]) answer w hw
  exact ⟨answer, w, hw, hresult.2.1,
    (hresult.2.2.2.2 (by decide) .steady 2048 (by decide) (by decide)).1⟩

end VastCsi.Csi.NfsCreate
