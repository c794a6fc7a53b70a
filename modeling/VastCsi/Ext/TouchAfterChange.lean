import VastCsi.Ext.TouchedContents
import VastCsi.Lib.Trace

/-!
# Secondary contents after a change of the primary's list

`upToDate` says of a content that it has been touched, or made, since the primary's list was last
written. `reconcileVGR` writes the list and touches afterwards, for a difference that the next run
does not see any more: a reconcile that writes the list has to get through with its touches
(`Completes`).
-/

namespace VastCsi.Ext.TouchAfterChange

open Lib CsiAddons Groups Policies List Function Bool Nat Option

variable {vscr : Vscr} {env : Env} {name : String} {s t : Store} {g : Vgr} {c : Vrc} {n : Nat}

/-- The content was made or touched after the last write of the primary's list; the last
write is in front. -/
def upToDate (primary name : String) : List Write → Bool
  | [] => true
  | .created m :: ws => m == name || upToDate primary name ws
  | .touched m :: ws => m == name || upToDate primary name ws
  | .listed sc :: ws => sc != primary && upToDate primary name ws

theorem upToDate_touched {primary : String} {rest : List Write} :
    ∀ {ws : List Write}, (∀ x ∈ ws, ∃ m, x = .touched m) → .touched name ∈ ws →
      upToDate primary name (ws ++ rest) = true
  | [], _, hmem => absurd hmem not_mem_nil
  | x :: ws, hall, hmem => by
    obtain ⟨m, rfl⟩ := hall x mem_cons_self
    rw [cons_append, upToDate, or_eq_true, beq_iff_eq]
    rcases mem_cons.mp hmem with heq | htail
    · exact .inl (Write.touched.inj heq).symm
    · exact .inr (upToDate_touched (fun y hy => hall y (mem_cons_of_mem _ hy)) htail)

/-- The objects of a group have the names that the controllers give them. -/
structure Named (vscr : Vscr) (s : Store) : Prop where
  owner : s.vscrs vscr.name = some vscr
  groups : ∀ n g, s.vgrs n = some g →
    g.sourceVSCR = vscr.name ∧ n = nameForSC vscr.name g.storageClass
  contents : ∀ n c, s.vrcs n = some c → CreatedFor vscr n c

def Fresh (vscr : Vscr) (s : Store) : Prop :=
  ∀ n c, s.vrcs n = some c → c.storageClass ∈ vscr.secondaries →
    upToDate vscr.primaryStorageClass n s.writes = true

structure Sound (vscr : Vscr) (s : Store) : Prop where
  named : Named vscr s
  fresh : Fresh vscr s

variable {c' : Vrc} {ts : String} {fates : Fates}

theorem update_some_cases {f : String → Option Vrc} {m : String}
    (h : update f name (some c) m = some c') :
    (m = name ∧ c' = c) ∨ (m ≠ name ∧ f m = some c') := by
  by_cases hm : m = name
  · subst hm
    rw [update_self, some.injEq] at h
    exact .inl ⟨rfl, h.symm⟩
  · rw [update_of_ne hm] at h
    exact .inr ⟨hm, h⟩

/-- A content is written under the name of its StorageClass. -/
theorem Named.put (h : Named vscr s) (hc : CreatedFor vscr name c) (es : List UpdateEvent)
    (ws : List Write) :
    Named vscr { s with vrcs := update s.vrcs name (some c), events := es, writes := ws }
    where
  owner := h.owner
  groups := h.groups
  contents m c' hm := by
    rcases update_some_cases hm with ⟨rfl, rfl⟩ | ⟨-, hold⟩
    · exact hc
    · exact h.contents m c' hold

@[simp] theorem withSpec_class (c : Vrc) (pvcs : List String) (state : ReplicationState) :
    (c.withSpec pvcs state).storageClass = c.storageClass := by
  rw [Vrc.withSpec]
  split <;> rfl

@[simp] theorem withSpec_source (c : Vrc) (pvcs : List String) (state : ReplicationState) :
    (c.withSpec pvcs state).sourceVSCR = c.sourceVSCR := by
  rw [Vrc.withSpec]
  split <;> rfl

/-- The same owner and StorageClass stand for the same name. -/
theorem createdFor_congr (h : CreatedFor vscr name c) (hsource : c'.sourceVSCR = c.sourceVSCR)
    (hclass : c'.storageClass = c.storageClass) :
    CreatedFor vscr name c' :=
  ⟨hsource.trans h.1, hclass ▸ h.2⟩

/-- A content changes in what is not looked at, and no list of the primary is written. -/
theorem Sound.replace (h : Sound vscr s) (hc : s.vrcs name = some c)
    (hsource : c'.sourceVSCR = c.sourceVSCR) (hclass : c'.storageClass = c.storageClass)
    (es : List UpdateEvent) {ws : List Write}
    (hws : ∀ m, upToDate vscr.primaryStorageClass m s.writes = true →
      upToDate vscr.primaryStorageClass m ws = true) :
    Sound vscr { s with
      vrcs := update s.vrcs name (some c'), events := es, writes := ws } where
  named := h.named.put (createdFor_congr (h.named.contents name c hc) hsource hclass) es ws
  fresh m d hm hsec := by
    rcases update_some_cases hm with ⟨rfl, rfl⟩ | ⟨-, hold⟩
    · exact hws m (h.fresh m c hc (hclass ▸ hsec))
    · exact hws m (h.fresh m d hold hsec)

/-- A content is made. If it is the primary's and has PVCs, no secondary content waits
for them. -/
theorem Sound.create (h : Sound vscr s) (hc : CreatedFor vscr name c)
    (hlist : c.storageClass = vscr.primaryStorageClass → c.pvcs = [] ∨
      ∀ sc ∈ vscr.secondaries, s.vrcs (nameForSC vscr.name sc) = none) :
    Sound vscr { s with
      vrcs := update s.vrcs name (some c)
      writes := .created name ::
        (if c.pvcs = [] then [] else [.listed c.storageClass]) ++ s.writes } where
  named := h.named.put hc s.events _
  fresh m d hm hsec := by
    show (name == m || _) = true
    rw [or_eq_true]
    rcases update_some_cases hm with ⟨rfl, -⟩ | ⟨-, hold⟩
    · exact .inl (beq_self_eq_true m)
    · right
      have hfresh := h.fresh m d hold hsec
      split
      · exact hfresh
      next hne =>
        show (c.storageClass != vscr.primaryStorageClass && _) = true
        rw [and_eq_true, bne_iff_ne]
        refine ⟨fun hprim => ?_, hfresh⟩
        have hnone := (hlist hprim).resolve_left hne d.storageClass hsec
        rw [← (h.named.contents m d hold).2, hold] at hnone
        cases hnone

/-- The touches make up for whatever was written before them. -/
theorem fresh_of_touchedAll (hdots : ∀ sc ∈ vscr.secondaries, undotted sc = sc) (h : Named vscr s)
    (ht : TouchedAll .mirrorSync ts (vscr.secondaries.map (touchedName vscr)) s t) :
    Sound vscr t := by
  -- A touched content is one that was there, with the same owner and StorageClass.
  have hold : ∀ m d, t.vrcs m = some d → ∃ c, s.vrcs m = some c ∧
      d.sourceVSCR = c.sourceVSCR ∧ d.storageClass = c.storageClass := by
    intro m d hd
    rw [ht.contents m] at hd
    split at hd
    · obtain ⟨c, hc, rfl⟩ := map_eq_some_iff.mp hd
      exact ⟨c, hc, c.setAnnotation_source, c.setAnnotation_class⟩
    · exact ⟨d, hd, rfl, rfl⟩
  refine ⟨⟨ht.groups.1 ▸ h.owner, ht.groups.2 ▸ h.groups, fun m d hd => ?_⟩, fun m d hd hsec => ?_⟩
  · obtain ⟨c, hc, hsource, hclass⟩ := hold m d hd
    exact createdFor_congr (h.contents m c hc) hsource hclass
  · obtain ⟨c, hc, -, hclass⟩ := hold m d hd
    rw [hclass] at hsec
    have hmem := ((h.contents m c hc).mem_touched vscr.secondaries).mpr (by rwa [hdots _ hsec])
    obtain ⟨ws, hws, hiff⟩ := ht.writes
    rw [hws]
    refine upToDate_touched (fun x hx => ?_) ((hiff _).mpr ⟨m, hmem, by rw [hc]; rfl, rfl⟩)
    obtain ⟨k, -, -, rfl⟩ := (hiff x).mp hx
    exact ⟨k, rfl⟩

theorem meets_getVRC_answered (hall : ∀ k ≥ n, fates k = .answered) :
    Finishes (fun w => n ≤ w.calls) (getVRC fates name)
      (fun r w => n ≤ w.calls ∧ w.own.vrcs name = r) :=
  meets_api_answered hall (fun _ hw => hw) (fun _ hw => le_succ_of_le hw) fun _ hw => ⟨hw, rfl⟩

theorem meets_setAnnotation_answered {key : Trigger} (hall : ∀ k ≥ n, fates k = .answered) :
    Finishes (fun w => n ≤ w.calls ∧ w.own.vrcs name = some c)
      (setAnnotationAndUpdate fates name key ts) (fun _ w => n ≤ w.calls) := by
  refine meets_api_answered hall (fun _ hw => hw.1) (fun _ hw => ⟨le_succ_of_le hw.1, hw.2⟩) ?_
  intro w hw
  dsimp only
  rw [hw.2]
  exact hw.1

/-- They return. -/
theorem meets_touch_answered {key : Trigger} (hall : ∀ k ≥ n, fates k = .answered) :
    ∀ {scs : List String},
    Finishes (fun w => n ≤ w.calls) (touchVRCsForStorageClasses fates vscr key ts scs)
      (fun _ _ => True)
  | [] => .pure fun _ _ => trivial
  | sc :: scs => by
    refine .bind (meets_withContext (meets_getVRC_answered hall)) fun found => ?_
    cases found with
    | none => exact (meets_touch_answered hall).preLeft
    | some c =>
      refine .bind (meets_withContext (meets_setAnnotation_answered hall)) fun _ => ?_
      exact .bind (meets_touch_answered hall) fun _ => .pure fun _ _ => trivial

/-- Where a reconcile makes the primary's content, that has no PVCs or there is no secondary
content yet; where it writes the primary's list, the write has failed or every call from there on
is answered. -/
structure Completes (vscr : Vscr) (env : Env) (name : String) (w : World Store) : Prop where
  create : ∀ g, w.own.vgrs name = some g → g.storageClass = vscr.primaryStorageClass →
    w.own.vrcs name = none →
    g.pvcs = [] ∨ ∀ sc ∈ vscr.secondaries, w.own.vrcs (nameForSC vscr.name sc) = none
  change : ∀ g c, w.own.vgrs name = some g → g.storageClass = vscr.primaryStorageClass →
    w.own.vrcs name = some c → pvcChanged g c = true →
    (∃ f, env.fates (w.calls + 4) = .failed f) ∨ ∀ k ≥ w.calls + 4, env.fates k = .answered

def Ends (vscr : Vscr) (w : World Store) : Prop := Sound vscr w.own

section Reconcile

variable (hs : Sound vscr s)

include hs

theorem ends_of_own {w : World Store} (hw : w.own = s) : Ends vscr w := by
  rw [Ends, hw]
  exact hs

theorem meets_createVRC (hc : CreatedFor vscr name c)
    (hlist : c.storageClass = vscr.primaryStorageClass → c.pvcs = [] ∨
      ∀ sc ∈ vscr.secondaries, s.vrcs (nameForSC vscr.name sc) = none) :
    Meets (fun w => w.own = s) (createVRC env.fates name c)
      (fun _ => Ends vscr) (fun _ => Ends vscr) := by
  refine meets_api (fun _ hw => hw) (fun w hw => ends_of_own hs hw) (fun _ _ hw => hw) ?_
  intro w hw
  subst hw
  dsimp only
  cases w.own.vrcs name with
  | some _ => exact hs
  | none => exact hs.create hc hlist

theorem meets_createContent
    (hg : g.sourceVSCR = vscr.name ∧ name = nameForSC vscr.name g.storageClass)
    (hlist : g.storageClass = vscr.primaryStorageClass → g.pvcs = [] ∨
      ∀ sc ∈ vscr.secondaries, s.vrcs (nameForSC vscr.name sc) = none) :
    Meets (fun w => w.own = s) (createContent env name g vscr)
      (fun _ => Ends vscr) (fun _ => Ends vscr) := by
  refine .bind ((keeps_callOut fun _ hw => hw).raise fun _ _ hw => ends_of_own hs hw) fun _ => ?_
  cases protectionPolicyNamesForVRC vscr.name vscr.primaryStorageClass vscr.protectionTopology
      g.storageClass with
  | error e => exact .throw fun _ hw => ends_of_own hs hw
  | ok policies =>
    refine meets_withContext (meets_createVRC hs ⟨rfl, hg.2⟩ fun hprim => ?_)
    refine (hlist hprim).imp_left fun hnil => ?_
    show g.pvcs.insertionSort (· ≤ ·) = []
    rw [hnil]
    rfl

/-- The patch of a content whose list stays or is not the primary's. -/
theorem meets_patchVRC {sc : String} {pvcs : List String} {state : ReplicationState}
    (hc : s.vrcs name = some c) (hlist : c.pvcs ≠ pvcs → sc ≠ vscr.primaryStorageClass) :
    Meets (fun w => w.own = s) (patchVRC env.fates name sc pvcs state)
      (fun _ => Ends vscr) (fun _ => Ends vscr) := by
  refine meets_api (fun _ hw => hw) (fun w hw => ends_of_own hs hw) (fun _ _ hw => hw) ?_
  intro w hw
  subst hw
  dsimp only
  rw [hc]
  refine hs.replace hc (withSpec_source c pvcs state) (withSpec_class c pvcs state) _ fun m hm => ?_
  split
  · exact hm
  next hne =>
    show (sc != vscr.primaryStorageClass && _) = true
    rw [and_eq_true, bne_iff_ne]
    exact ⟨hlist hne, hm⟩

omit hs in
/-- The patch of the primary's list, answered: the names are as before. -/
theorem meets_patchVRC_answered {sc : String} {pvcs : List String} {state : ReplicationState}
    (hs : Named vscr s) (hc : s.vrcs name = some c) (hall : ∀ k ≥ n, env.fates k = .answered) :
    Finishes (fun w => w.own = s ∧ n ≤ w.calls) (patchVRC env.fates name sc pvcs state)
      (fun _ w => Named vscr w.own ∧ n ≤ w.calls) := by
  refine meets_api_answered hall (fun _ hw => hw.2) (fun _ hw => ⟨hw.1, le_succ_of_le hw.2⟩) ?_
  rintro w ⟨rfl, hcalls⟩
  dsimp only
  rw [hc]
  have hnew := createdFor_congr (hs.contents name c hc) (withSpec_source c pvcs state)
    (withSpec_class c pvcs state)
  exact ⟨hs.put hnew _ _, hcalls⟩

omit hs in
/-- The touches, answered. -/
theorem meets_touchSecondaries_answered {ts : String}
    (hdots : ∀ sc ∈ vscr.secondaries, undotted sc = sc)
    (hall : ∀ k ≥ n, env.fates k = .answered) :
    Finishes (fun w => Named vscr w.own ∧ n ≤ w.calls) (touchSecondaryVRCs env.fates vscr ts)
      (fun _ => Ends vscr) := by
  intro w hw
  have hboth : Meets (fun w' => w'.own = w.own ∧ n ≤ w'.calls)
      (touchSecondaryVRCs env.fates vscr ts)
      (fun _ w' => TouchedAll .mirrorSync ts (vscr.secondaries.map (touchedName vscr)) w.own
        w'.own ∧ True) (fun _ _ => True ∧ False) :=
    meets_touch.and (meets_touch_answered hall)
  exact (hboth.weaken (fun _ h => h) (fun _ _ h => fresh_of_touchedAll hdots hw.1 h.1)
    (fun _ _ h => h.2)) w ⟨rfl, hw.2⟩

/-- Nothing is touched for a list that stays or is not the primary's. -/
theorem meets_syncContent_quiet (hc : s.vrcs name = some c)
    (hquiet : pvcChanged g c = true → g.storageClass ≠ vscr.primaryStorageClass) :
    Meets (fun w => w.own = s) (syncContent env name g vscr c)
      (fun _ => Ends vscr) (fun _ => Ends vscr) := by
  have hlist : c.pvcs ≠ g.pvcList → g.storageClass ≠ vscr.primaryStorageClass :=
    fun hne => hquiet (bne_iff_ne.mpr hne.symm)
  have hpatch : Meets (fun w => w.own = s) (patchContent env name g c)
      (fun _ => Ends vscr) (fun _ => Ends vscr) := by
    unfold patchContent
    split
    · exact meets_withContext (meets_patchVRC hs hc hlist)
    · exact .pure fun _ hw => ends_of_own hs hw
  refine .bind hpatch fun _ => ?_
  rw [touchMirrors, if_neg fun h => hquiet h.1 h.2]
  exact keeps_pure _

/-- The primary's list has changed: the write fails, or the touches follow it. -/
theorem meets_syncContent_change (hdots : ∀ sc ∈ vscr.secondaries, undotted sc = sc)
    (hc : s.vrcs name = some c) (hchanged : pvcChanged g c = true)
    (hprim : g.storageClass = vscr.primaryStorageClass)
    (hfates : (∃ f, env.fates n = .failed f) ∨ ∀ k ≥ n, env.fates k = .answered) :
    Meets (At s n) (syncContent env name g vscr c) (fun _ => Ends vscr) (fun _ => Ends vscr) := by
  rw [syncContent, patchContent, if_pos (.inr hchanged), touchMirrors, if_pos ⟨hchanged, hprim⟩]
  rcases hfates with ⟨f, hf⟩ | hall
  · refine .bind (Q := fun _ _ => False) (meets_withContext ?_) fun _ _ h => h.elim
    exact meets_api_at (fun ha => absurd (hf.symm.trans ha) nofun)
      (fun _ _ w hw => ends_of_own hs hw.1) fun _ hl => absurd (hf.symm.trans hl) nofun
  · refine .bind (meets_withContext ((meets_patchVRC_answered hs.named hc hall).weaken
      (fun _ hw => ⟨hw.1, hw.2.ge⟩) (fun _ _ hw => hw) (fun _ _ h => h.elim))) fun _ => ?_
    refine .bind (meets_withContext ((meets_touchSecondaries_answered hdots hall).raise
      (fun _ _ h => h.elim))) fun _ => ?_
    exact keeps_pure _

theorem meets_deleteContent : Meets (fun w => w.own = s) (deleteContent env name)
      (fun _ => Ends vscr) (fun _ => Ends vscr) := by
  refine .bind (meets_withContext (meets_getVRC.raise fun _ _ hw => ends_of_own hs hw))
    fun found => ?_
  cases found with
  | none => exact .pure fun _ hw => ends_of_own hs hw.1
  | some c =>
    dsimp only
    split
    · exact .pure fun _ hw => ends_of_own hs hw.1
    · refine meets_withContext (meets_api (fun _ hw => hw) (fun w hw => ends_of_own hs hw.1)
        (fun _ _ hw => hw) ?_)
      rintro w ⟨rfl, hc⟩
      dsimp only
      rw [← hc]
      have hvrc : w.own.vrcs name = some c := hc.symm
      have hdeleting : ({ c with deleting := true } : Vrc).sourceVSCR = c.sourceVSCR := rfl
      exact hs.replace hvrc hdeleting rfl
        (w.own.update name c { c with deleting := true }).events fun _ hm => hm

/-- A reconcile that completes keeps the secondary contents up to date. -/
theorem ends_reconcileVGR (hdots : ∀ sc ∈ vscr.secondaries, undotted sc = sc)
    {w : World Store} (hw : w.own = s) (h : Completes vscr env name w) :
    Ends vscr (endState (reconcileVGR env name w)) := by
  subst hw
  have hown : ∀ w', w'.own = w.own → Ends vscr w' := fun _ hw => ends_of_own hs hw
  have howner : ∀ {g v}, w.own.vgrs name = some g → w.own.vscrs g.sourceVSCR = some v →
      v = vscr := by
    intro g v hg hv
    rw [(hs.named.groups name g hg).1, hs.named.owner, some.injEq] at hv
    exact hv.symm
  refine Meets.endState (meets_reconcileVGR_at hown (fun _ => hown)
    (fun _ _ _ => meets_deleteContent hs) ?_ ?_) ⟨rfl, rfl⟩
  · intro g v hg _ hv hnone
    rw [howner hg hv]
    exact meets_createContent hs (hs.named.groups name g hg) fun hp => h.create g hg hp hnone
  · intro g v c hg _ hv hc
    rw [howner hg hv]
    by_cases hp : pvcChanged g c = true ∧ g.storageClass = vscr.primaryStorageClass
    · exact meets_syncContent_change hs hdots hc hp.1 hp.2 (h.change g c hg hp.2 hc hp.1)
    · exact (meets_syncContent_quiet hs hc fun h hprim => hp ⟨h, hprim⟩).preLeft

end Reconcile

inductive Act where
  | group (storageClass : String)
  /-- csi-addons reports into the status of a group. -/
  | report (name volumeReplicationName : String) (pvcs : List String) (state : ObservedState)
  | reconcile (env : Env) (name : String)
  | delete (name : String)
  | dropGroup (name : String)
  | dropContent (name : String)

def setGroup (s : Store) (name : String) (g : Option Vgr) : Store :=
  { s with vgrs := update s.vgrs name g }

def outside (vscr : Vscr) (s : Store) : Act → Store
  | .group sc =>
    match s.vgrs (nameForSC vscr.name sc) with
    | some _ => s
    | none => setGroup s (nameForSC vscr.name sc) (some ⟨vscr.name, sc, false, "", [], .unset⟩)
  | .report name vr pvcs state => setGroup s name ((s.vgrs name).map fun g =>
      { g with volumeReplicationName := vr, pvcs := pvcs, state := state })
  | .delete name => setGroup s name ((s.vgrs name).map fun g => { g with deleting := true })
  | .dropGroup name => setGroup s name none
  | .dropContent name => { s with vrcs := update s.vrcs name none }
  | .reconcile _ _ => s

def step (vscr : Vscr) (w : World Store) : Act → Option (World Store)
  | .reconcile env name => some (endState (reconcileVGR env name w))
  | a => some { w with own := outside vscr w.own a }

def start (vscr : Vscr) : World Store where
  objs := fun _ => none
  own := { vscrs := fun n => if n = vscr.name then some vscr else none }

/-- A reconcile that writes the list gets through with its touches. -/
def CompletesAct (vscr : Vscr) (w : World Store) : Act → Prop
  | .reconcile env name => Completes vscr env name w
  | _ => True

theorem sound_setGroup {o : Option Vgr} (h : Sound vscr s)
    (ho : ∀ g, o = some g → g.sourceVSCR = vscr.name ∧ name = nameForSC vscr.name g.storageClass) :
    Sound vscr (setGroup s name o) where
  named :=
    { owner := h.named.owner
      groups := fun m g hm => by
        rw [setGroup] at hm
        by_cases hmn : m = name
        · subst hmn
          exact ho g ((update_self m o s.vgrs).symm.trans hm)
        · exact h.named.groups m g ((update_of_ne hmn o s.vgrs).symm.trans hm)
      contents := h.named.contents }
  fresh := h.fresh

/-- A change of a group's status keeps its name. -/
theorem sound_mapGroup {f : Vgr → Vgr} (h : Sound vscr s)
    (hf : ∀ g, (f g).sourceVSCR = g.sourceVSCR ∧ (f g).storageClass = g.storageClass) :
    Sound vscr (setGroup s name ((s.vgrs name).map f)) := by
  refine sound_setGroup h fun g hg => ?_
  obtain ⟨g', hg', rfl⟩ := map_eq_some_iff.mp hg
  rw [(hf g').1, (hf g').2]
  exact h.named.groups name g' hg'

theorem sound_outside (h : Sound vscr s) (a : Act) : Sound vscr (outside vscr s a) := by
  cases a with
  | group sc =>
    rw [outside]
    split
    · exact h
    · refine sound_setGroup h fun g hg => ?_
      cases hg
      exact ⟨rfl, rfl⟩
  | report m vr pvcs state => exact sound_mapGroup h fun _ => ⟨rfl, rfl⟩
  | reconcile env m => exact h
  | delete m => exact sound_mapGroup h fun _ => ⟨rfl, rfl⟩
  | dropGroup m => exact sound_setGroup h nofun
  | dropContent m =>
    have hold : ∀ k c, update s.vrcs m none k = some c → s.vrcs k = some c := by
      intro k c hk
      by_cases hkm : k = m
      · subst hkm
        rw [update_self] at hk
        cases hk
      · rwa [update_of_ne hkm] at hk
    exact ⟨⟨h.named.owner, h.named.groups, fun k c hk => h.named.contents k c (hold k c hk)⟩,
      fun k c hk => h.fresh k c (hold k c hk)⟩

/-- Every step that completes keeps what the touches owe. -/
theorem sound_step (hdots : ∀ sc ∈ vscr.secondaries, undotted sc = sc) (w : World Store) (a : Act)
    (w' : World Store) (h : Ends vscr w) (ha : CompletesAct vscr w a)
    (hstep : step vscr w a = some w') : Ends vscr w' := by
  cases a with
  | reconcile env m =>
    cases hstep
    exact ends_reconcileVGR h hdots rfl ha
  | group sc => obtain rfl := some.inj hstep; exact sound_outside h (.group sc)
  | report m vr pvcs state =>
    cases hstep
    exact sound_outside h (.report m vr pvcs state)
  | delete m => obtain rfl := some.inj hstep; exact sound_outside h (.delete m)
  | dropGroup m => obtain rfl := some.inj hstep; exact sound_outside h (.dropGroup m)
  | dropContent m => obtain rfl := some.inj hstep; exact sound_outside h (.dropContent m)

/-- **Touched after every change**: where no secondary StorageClass has a dot and every reconcile
that writes the primary's list gets through with its touches, each secondary content has been
touched or made since. -/
theorem secondaries_touched (vscr : Vscr) (hdots : ∀ sc ∈ vscr.secondaries, undotted sc = sc)
    (acts : List Act) (w : World Store)
    (hmeets : RunMeets (step vscr) (CompletesAct vscr) (start vscr) acts)
    (hrun : runFrom (step vscr) (start vscr) acts = some w) (n : String) (c : Vrc)
    (hc : w.own.vrcs n = some c) (hsec : c.storageClass ∈ vscr.secondaries) :
    upToDate vscr.primaryStorageClass n w.own.writes = true := by
  have hstart : Ends vscr (start vscr) :=
    ⟨⟨if_pos rfl, nofun, nofun⟩, fun _ _ hnone => nomatch hnone⟩
  exact (runFrom_invariant (sound_step hdots) acts hstart hmeets hrun).fresh n c hc hsec

def listChange : List Act :=
  [.group "west", .reconcile {} "group-west", .group "east", .reconcile {} "group-east",
    .report "group-east" "" ["pvc-1"] .primary]

/-- With every call answered, a group without PVCs or with a content is reconciled. -/
theorem completes_steady {w : World Store} (h : ((w.own.vrcs name).isSome ||
    (w.own.vgrs name).all fun g => g.pvcs.isEmpty) = true) : Completes vscr {} name w where
  create g hg _ hnone := by
    rw [hnone, hg, Option.isSome_none, Bool.false_or, Option.all_some, List.isEmpty_iff] at h
    exact .inl h
  change _ _ _ _ _ _ := .inr fun _ _ => rfl

/-- The touches follow the list. -/
theorem secondaries_touched_pair :
    ∃ w, runFrom (step (pairOf "east" "west")) (start (pairOf "east" "west"))
        (listChange ++ [.reconcile {} "group-east"]) = some w ∧
      (w.own.vrcs "group-west").isSome = true ∧
      upToDate "east" "group-west" w.own.writes = true := by
  have hrun : (runFrom (step (pairOf "east" "west")) (start (pairOf "east" "west"))
      (listChange ++ [.reconcile {} "group-east"])).map
        (fun w => (w.own.vrcs "group-west").map (·.storageClass)) = some (some "west") := by
    decide +kernel
  obtain ⟨w, hw, hclass⟩ := map_eq_some_iff.mp hrun
  obtain ⟨c, hc, hwest⟩ := map_eq_some_iff.mp hclass
  refine ⟨w, hw, by rw [hc]; rfl, ?_⟩
  refine secondaries_touched (pairOf "east" "west") (by decide +kernel) _ w ?_ hw "group-west" c hc
    (by rw [hwest]; decide +kernel)
  exact .cons trivial rfl <| .cons (completes_steady (by decide +kernel)) rfl <|
    .cons trivial rfl <| .cons (completes_steady (by decide +kernel)) rfl <|
    .cons trivial rfl <| .cons (completes_steady (by decide +kernel)) rfl trivial

def failingTouch : Fates := fun k => if k < 17 then .answered else .failed .refused

/-- A run that fails at its first touch has written the list. The next one finds nothing to do. -/
theorem touch_not_made_up : (runFrom (step (pairOf "east" "west")) (start (pairOf "east" "west"))
      (listChange ++ [.reconcile { fates := failingTouch } "group-east"])).map (fun w =>
      (isOk (reconcileVGR {} "group-east" w), (w.own.vrcs "group-west").isSome,
        upToDate "east" "group-west" (endState (reconcileVGR {} "group-east" w)).own.writes)) =
    some (true, true, false) := by
  decide +kernel

end VastCsi.Ext.TouchAfterChange
