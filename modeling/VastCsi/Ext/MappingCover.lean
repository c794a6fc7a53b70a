import VastCsi.Ext.Admission
import VastCsi.Ext.OwnObject
import VastCsi.Ext.Policies

/-!
# What the mappings of the status cover

The directories and the tenants of the StorageClasses are found out once and kept in the status;
the webhook admits changes of the primary and of the peers after that. The controller may be at
work on a copy that has been overtaken by edits (`read` and `resume` are separate, and `replay`
sends the rest of the copy's spec), and all its calls may fail or lose their answer.
-/

namespace VastCsi.Ext.MappingCover

open Lib CsiAddons Specs List Option
open VastCsi.Ext.Vvr (VastVolumeReplication Own Controller Kept FinalizerFree MemStep StoreStep
  StatusStep fetch vvrController vscrController)
open VastCsi.Ext.Policies (newReplicationEdgesList mem_newReplicationEdgesList directed_joins)

/-- A kind of replication object: its controller, its specs, and the webhook. -/
structure Kind (ε ρ : Type) where
  controller : Controller ε
  spec : ρ → ReplicationSpec
  /-- What is stored for an admitted create or update. -/
  admission : Admission.Env → Admission.Stored → Option ρ → ρ → Option ρ
  primary_mem : ∀ {env stored old new r}, admission env stored old new = some r →
    (spec r).primaryStorageClass ∈ (spec r).storageClasses
  edges_eq : ∀ {env stored old new r}, admission env stored (some old) new = some r →
    edgesOf (spec r).targets = edgesOf (spec old).targets

section Kinds

variable (classes : String → Option Admission.StorageClass) (clock : Clock)

def vscrKind : Kind Vscr.Env Admission.Vscr where
  controller := vscrController
  spec v := v.spec.toReplicationSpec
  admission env stored old new :=
    (Admission.respond (Admission.handleVscr classes env stored clock old new)).store
      fun ps => new.patched ps
  primary_mem h := by
    obtain ⟨ps, hresp, rfl⟩ := Admission.store_eq_some h
    obtain ⟨_, hok⟩ := Admission.respond_allowed hresp
    obtain ⟨rfl, hvalid, -⟩ := Admission.handleVscr_ok hok
    exact (validateTopology_ok (VastStorageClassReplicationSpec.validate_ok hvalid)).2
  edges_eq h := by
    obtain ⟨ps, hresp, rfl⟩ := Admission.store_eq_some h
    obtain ⟨_, hok⟩ := Admission.respond_allowed hresp
    obtain ⟨rfl, -, himm, -⟩ := Admission.handleVscr_ok hok
    exact (Specs.edges_of_immutable (himm _ rfl)).symm

def vvrKind : Kind Vvr.Env Admission.Vvr where
  controller := vvrController
  spec v := v.spec.toReplicationSpec
  admission env _ old new :=
    (Admission.respond (Admission.handleVvr classes env clock old new)).store
      fun ps => new.patched ps
  primary_mem h := by
    obtain ⟨ps, hresp, rfl⟩ := Admission.store_eq_some h
    obtain ⟨_, hok⟩ := Admission.respond_allowed hresp
    obtain ⟨rfl, hvalid, -⟩ := Admission.handleVvr_ok hok
    exact (validateTopology_ok (VastVolumeReplicationSpec.validate_ok hvalid).1).2
  edges_eq h := by
    obtain ⟨ps, hresp, rfl⟩ := Admission.store_eq_some h
    obtain ⟨_, hok⟩ := Admission.respond_allowed hresp
    obtain ⟨rfl, -, himm⟩ := Admission.handleVvr_ok hok
    exact (Specs.edges_of_immutable (himm _ rfl)).symm

end Kinds

inductive Act (ε ρ : Type) where
  | read (env : ε)
  | resume (env : ε)
  /-- A retried write sends the rest of the copy's spec. -/
  | replay
  | update (env : Admission.Env) (others : Admission.Stored) (old new : ρ)
    (failoverType : String) (resync : Bool)
  | delete

def created (name : String) (s : ReplicationSpec) : VastVolumeReplication where
  name := name
  finalizer := false
  primaryStorageClass := s.primaryStorageClass
  protectionTopology := s.targets

def resent (m v : VastVolumeReplication) : VastVolumeReplication :=
  { v with
    primaryStorageClass := m.primaryStorageClass
    protectionTopology := m.protectionTopology
    failoverType := m.failoverType
    resync := m.resync }

def edited (v : VastVolumeReplication) (s : ReplicationSpec) (failoverType : String)
    (resync : Bool) : VastVolumeReplication :=
  { v with
    primaryStorageClass := s.primaryStorageClass
    protectionTopology := s.targets
    failoverType
    resync }

def changed (w : World Own) (f : VastVolumeReplication → Option VastVolumeReplication) :
    World Own :=
  { w with own := { w.own with stored := w.own.stored.bind f } }

def step {ε ρ : Type} (k : Kind ε ρ) (w : World Own) : Act ε ρ → Option (World Own)
  | .read env => some (endState (fetch (k.controller.toEnv env) w))
  | .resume env => some (endState (k.controller.resume env w))
  | .replay => some (changed w fun v => some (resent w.own.mem v))
  | .update env others old new failoverType resync =>
    if w.own.stored.any fun v => v.protectionTopology == (k.spec old).targets then
      (k.admission env others (some old) new).map fun r =>
        changed w fun v => some (edited v (k.spec r) failoverType resync)
    else none
  | .delete => some (changed w Vvr.deleted)

variable {ε ρ : Type} {k : Kind ε ρ} {w : World Own} {v : VastVolumeReplication}

/-- A reconcile that finds the object is a read and the work on what was read. -/
theorem reconcile_eq_acts {env : ε} {t : World Own}
    (h : fetch (k.controller.toEnv env) w = .ok true t) :
    runFrom (step k) w [.read env, .resume env] =
      some (endState (k.controller.reconcile env w)) := by
  have hrun : k.controller.reconcile env w = k.controller.resume env t := by
    show EStateM.bind _ _ w = _
    rw [EStateM.bind, h]
    rfl
  simp only [runFrom, step, h, endState, bind_some, hrun]

/-- Each mapping is empty or has the classes of the spec, which has its primary. -/
structure Keyed (v : VastVolumeReplication) : Prop where
  dirs : v.status.ppathDirMapping = [] ∨ v.status.ppathDirMapping.map Prod.fst = v.storageClasses
  tenants : v.status.tenantMapping = [] ∨ v.status.tenantMapping.map Prod.fst = v.storageClasses
  primary : v.primaryStorageClass ∈ v.storageClasses

/-- The copy and the stored object are keyed, by the same classes. -/
structure Fits (w : World Own) : Prop where
  mem : Keyed w.own.mem
  stored : ∀ v, w.own.stored = some v →
    Keyed v ∧ edgesOf v.protectionTopology = edgesOf w.own.mem.protectionTopology

theorem storageClasses_congr {u : VastVolumeReplication}
    (h : edgesOf u.protectionTopology = edgesOf v.protectionTopology) :
    u.storageClasses = v.storageClasses :=
  allStorageClasses_congr h

/-- Another topology with the same ends, and a primary among them. -/
theorem Keyed.respec {u : VastVolumeReplication} (h : Keyed v)
    (hedges : edgesOf u.protectionTopology = edgesOf v.protectionTopology)
    (hstatus : u.status = v.status) (hprimary : u.primaryStorageClass ∈ u.storageClasses) :
    Keyed u := by
  refine ⟨?_, ?_, hprimary⟩
  · rw [hstatus, storageClasses_congr hedges]
    exact h.dirs
  · rw [hstatus, storageClasses_congr hedges]
    exact h.tenants

theorem Keyed.memStep {m m' : VastVolumeReplication} (h : Keyed m) (hstep : MemStep m m') :
    Keyed m' ∧ edgesOf m'.protectionTopology = edgesOf m.protectionTopology := by
  cases hstep with
  | status hs =>
    refine ⟨⟨?_, ?_, h.primary⟩, rfl⟩
    · rcases hs.dirs with heq | hkeys
      · exact heq ▸ h.dirs
      · exact .inr hkeys
    · rcases hs.tenants with heq | hkeys
      · exact heq ▸ h.tenants
      · exact .inr hkeys
  | @peers ts hedges =>
    have hclasses : allStorageClasses ts = m.storageClasses := allStorageClasses_congr hedges
    refine ⟨h.respec hedges rfl ?_, hedges⟩
    show m.primaryStorageClass ∈ allStorageClasses ts
    rw [hclasses]
    exact h.primary
  | resync => exact ⟨⟨h.dirs, h.tenants, h.primary⟩, rfl⟩
  | finalizer => exact ⟨⟨h.dirs, h.tenants, h.primary⟩, rfl⟩

theorem Keyed.storeStep {m v' : VastVolumeReplication} (hm : Keyed m) (hv : Keyed v)
    (hedges : edgesOf v.protectionTopology = edgesOf m.protectionTopology)
    (hstep : StoreStep m v v') :
    Keyed v' ∧ edgesOf v'.protectionTopology = edgesOf m.protectionTopology := by
  cases hstep with
  | status =>
    refine ⟨⟨?_, ?_, hv.primary⟩, hedges⟩
    · exact (storageClasses_congr hedges ▸ hm.dirs :)
    · exact (storageClasses_congr hedges ▸ hm.tenants :)
  | peers =>
    refine ⟨hv.respec hedges.symm rfl ?_, rfl⟩
    exact (storageClasses_congr hedges ▸ hv.primary :)
  | resync => exact ⟨⟨hv.dirs, hv.tenants, hv.primary⟩, hedges⟩

/-- Only the finalizer of the stored object is another one, or it is gone. -/
theorem Fits.finalizer {b : Bool} (h : Fits w) (hs : w.own.stored = some v) :
    Fits { w with own := { w.own with stored := some { v with finalizer := b } } } := by
  obtain ⟨hkeyed, hedges⟩ := h.stored v hs
  refine ⟨h.mem, fun u hu => ?_⟩
  cases hu
  exact ⟨⟨hkeyed.dirs, hkeyed.tenants, hkeyed.primary⟩, hedges⟩

theorem Fits.remove (h : Fits w) (hs : w.own.stored = some v) : Fits { w with own := { w.own with
      stored := if v.deleting then none else some { v with finalizer := false } } } := by
  split
  next => exact ⟨h.mem, nofun⟩
  next => exact h.finalizer hs

theorem kept_fits : Kept Fits where
  blind := fun _ _ _ h => ⟨h.mem, h.stored⟩
  mem := by
    intro w m hstep h
    obtain ⟨hkeyed, hedges⟩ := h.mem.memStep hstep
    refine ⟨hkeyed, fun v hv => ?_⟩
    obtain ⟨hkeyed', hedges'⟩ := h.stored v hv
    exact ⟨hkeyed', hedges'.trans hedges.symm⟩
  store := by
    intro w v v' hs hstep h
    obtain ⟨hkeyed, hedges⟩ := h.stored v hs
    refine ⟨h.mem, fun u hu => ?_⟩
    cases hu
    exact h.mem.storeStep hkeyed hedges hstep
  remove := fun _ _ hs h => h.remove hs

theorem finalizerFree_fits : FinalizerFree Fits where
  tick := kept_fits.tick
  mem := fun _ _ h => ⟨⟨h.mem.dirs, h.mem.tenants, h.mem.primary⟩, h.stored⟩
  add := fun _ _ hs h => h.finalizer hs
  remove := fun _ _ hs h => h.remove hs

theorem keeps_fetch {env : Vvr.Env} : Keeps Fits (fetch env) := by
  refine keeps_api kept_fits.tick fun w h => ?_
  dsimp only
  cases hs : w.own.stored with
  | none => exact h
  | some v => exact ⟨(h.stored v hs).1, fun u hu => by cases hu; exact ⟨(h.stored v hs).1, rfl⟩⟩

/-- Somebody else changes the stored object into one that fits. -/
theorem Fits.change {f : VastVolumeReplication → Option VastVolumeReplication} (h : Fits w)
    (hf : ∀ v v', w.own.stored = some v → f v = some v' →
      Keyed v' ∧ edgesOf v'.protectionTopology = edgesOf v.protectionTopology) :
    Fits (changed w f) := by
  refine ⟨h.mem, fun v' hv' => ?_⟩
  obtain ⟨v, hv, hfv⟩ := bind_eq_some_iff.mp hv'
  obtain ⟨hkeyed, hedges⟩ := hf v v' hv hfv
  exact ⟨hkeyed, hedges.trans (h.stored v hv).2⟩

/-- One event keeps copy and stored object in step. -/
theorem Fits.step {w' : World Own} {a : Act ε ρ} (h : Fits w) (hstep : step k w a = some w') :
    Fits w' := by
  cases a with
  | read env =>
    cases hstep
    exact keeps_fetch.endState h
  | resume env =>
    cases hstep
    exact (k.controller.keeps_resume env kept_fits finalizerFree_fits).endState h
  | replay =>
    cases hstep
    refine h.change fun v v' hv heq => ?_
    cases heq
    obtain ⟨hkeyed, hedges⟩ := h.stored v hv
    exact ⟨hkeyed.respec hedges.symm rfl h.mem.primary, hedges.symm⟩
  | update env others old new failoverType resync =>
    rw [MappingCover.step] at hstep
    split_ifs at hstep with hold
    obtain ⟨r, hr, rfl⟩ := map_eq_some_iff.mp hstep
    refine h.change fun v v' hv heq => ?_
    cases heq
    rw [hv, any_some, beq_iff_eq] at hold
    have hedges : edgesOf (k.spec r).targets = edgesOf v.protectionTopology := by
      rw [hold]
      exact k.edges_eq hr
    exact ⟨(h.stored v hv).1.respec hedges rfl (k.primary_mem hr), hedges⟩
  | delete =>
    cases hstep
    refine h.change fun v v' hv heq => ?_
    rw [Vvr.deleted] at heq
    split at heq
    next =>
      cases heq
      obtain ⟨hkeyed, -⟩ := h.stored v hv
      exact ⟨⟨hkeyed.dirs, hkeyed.tenants, hkeyed.primary⟩, rfl⟩
    next => cases heq

/-- A mapping has exactly the classes of the spec, with the primary, and every lookup that is made
in it finds its class. -/
structure Covers (v : VastVolumeReplication) (mapping : List (String × String)) : Prop where
  keys : mapping.map Prod.fst = v.storageClasses
  primary : v.primaryStorageClass ∈ mapping.map Prod.fst
  classes : ∀ scName ∈ v.storageClasses, (mapping.lookup scName).isSome = true
  links : ∀ e ∈ newReplicationEdgesList v.protectionTopology v.primaryStorageClass,
    (mapping.lookup e.sideA).isSome = true ∧ (mapping.lookup e.sideB).isSome = true

theorem lookup_isSome {mapping : List (String × String)} {scName : String}
    (h : scName ∈ mapping.map Prod.fst) : (mapping.lookup scName).isSome = true := by
  obtain ⟨e, he, rfl⟩ := mem_map.mp h
  rw [isSome_iff_ne_none, Ne, lookup_eq_none_iff]
  exact fun hnone => bne_iff_ne.mp (hnone e he) rfl

theorem covers_of_keys {mapping : List (String × String)}
    (hkeys : mapping.map Prod.fst = v.storageClasses)
    (hprimary : v.primaryStorageClass ∈ v.storageClasses) : Covers v mapping := by
  have hclasses : ∀ scName ∈ v.storageClasses, (mapping.lookup scName).isSome = true :=
    fun scName hsc => lookup_isSome (hkeys ▸ hsc)
  refine ⟨hkeys, hkeys ▸ hprimary, hclasses, fun e he => ?_⟩
  obtain ⟨t, ht, rfl⟩ := mem_newReplicationEdgesList.mp he
  have hside : ∀ scName, (Policies.directed v.primaryStorageClass t).Joins scName →
      scName ∈ v.storageClasses := by
    intro scName hjoins
    simp only [VastVolumeReplication.storageClasses, allStorageClasses, mem_insertionSort,
      mem_dedup, mem_flatMap, mem_cons, not_mem_nil, or_false]
    exact ⟨t, ht, directed_joins.mp hjoins⟩
  exact ⟨hclasses _ (hside _ (.inl rfl)), hclasses _ (hside _ (.inr rfl))⟩

/-- Each mapping that has been made covers the topology. -/
structure Covered (v : VastVolumeReplication) : Prop where
  dirs : v.status.ppathDirMapping ≠ [] → Covers v v.status.ppathDirMapping
  tenants : v.status.tenantMapping ≠ [] → Covers v v.status.tenantMapping

theorem Keyed.covered (h : Keyed v) : Covered v :=
  ⟨fun hne => covers_of_keys (h.dirs.resolve_left hne) h.primary,
    fun hne => covers_of_keys (h.tenants.resolve_left hne) h.primary⟩

def afterCreate (objs : Objects) (name : String) (s : ReplicationSpec) : World Own :=
  { objs, own := ⟨some (created name s), created name s⟩ }

/-- And so does a run. -/
theorem fits_run {env : Admission.Env} {others : Admission.Stored} {obj r : ρ} {objs : Objects}
    {name : String} (hcreate : k.admission env others none obj = some r)
    (hreach : Reachable (step k) (afterCreate objs name (k.spec r)) w) : Fits w := by
  refine reachable_invariant (fun _ _ _ h hstep => h.step hstep) ?_ hreach
  have hkeyed : Keyed (created name (k.spec r)) := ⟨.inl rfl, .inl rfl, k.primary_mem hcreate⟩
  refine ⟨hkeyed, fun v hv => ?_⟩
  cases hv
  exact ⟨hkeyed, rfl⟩

/-- **The mappings cover the current spec.** After an admitted create and any admitted updates,
reads, work on copies that may be old, failures and crashes, every mapping that is there has the
StorageClasses of the spec and its primary. -/
theorem mappings_cover (classes : String → Option Admission.StorageClass) (clock : Clock)
    (env : Admission.Env) (others : Admission.Stored) (objs : Objects) (name : String)
    (w : World Own) :
    (∀ obj r, (vscrKind classes clock).admission env others none obj = some r →
      Reachable (step (vscrKind classes clock))
        (afterCreate objs name ((vscrKind classes clock).spec r)) w →
      Covered w.own.mem ∧ ∀ v, w.own.stored = some v → Covered v) ∧
    ∀ obj r, (vvrKind classes clock).admission env others none obj = some r →
      Reachable (step (vvrKind classes clock))
        (afterCreate objs name ((vvrKind classes clock).spec r)) w →
      Covered w.own.mem ∧ ∀ v, w.own.stored = some v → Covered v := by
  constructor
  · intro obj r hcreate hreach
    have h := fits_run hcreate hreach
    exact ⟨h.mem.covered, fun v hv => (h.stored v hv).1.covered⟩
  · intro obj r hcreate hreach
    have h := fits_run hcreate hreach
    exact ⟨h.mem.covered, fun v hv => (h.stored v hv).1.covered⟩

def storedDirs (w : World Own) : Option (List (String × String)) :=
  w.own.stored.map fun v => v.status.ppathDirMapping

def reconcileAndSwitch {ε ρ : Type} (env : ε) (old new : ρ) : List (Act ε ρ) :=
  [.read env, .resume env, .update Admission.answered Admission.nothing old new "" false]

theorem covered_of_dirs {start : World Own} {acts : List (Act ε ρ)} {dirs : List (String × String)}
    (hrun : (runFrom (step k) start acts).bind storedDirs = some dirs)
    (hcover : ∀ w, Reachable (step k) start w →
      Covered w.own.mem ∧ ∀ v, w.own.stored = some v → Covered v) (hne : dirs ≠ []) :
    ∃ w v, runFrom (step k) start acts = some w ∧ w.own.stored = some v ∧
      v.status.ppathDirMapping = dirs ∧ Covers v dirs := by
  obtain ⟨w, hw, hdirs⟩ := bind_eq_some_iff.mp hrun
  obtain ⟨v, hv, rfl⟩ := map_eq_some_iff.mp hdirs
  exact ⟨w, v, hw, hv, rfl, ((hcover w ⟨acts, hw⟩).2 v hv).dirs hne⟩

theorem mappings_cover_switch : (∃ w v, runFrom (step (vscrKind Admission.fileClasses noStart))
        (afterCreate (fun _ => none) "group" (Admission.linked "link"))
        (reconcileAndSwitch {} (Admission.sampleVscr "link")
          ((Admission.sampleVscr "link").switched "west")) = some w ∧
      w.own.stored = some v ∧
      v.status.ppathDirMapping = [("east", "/east"), ("west", "/west")] ∧
      Covers v [("east", "/east"), ("west", "/west")]) ∧
    ∃ w v, runFrom (step (vvrKind Admission.fileClasses noStart))
        (afterCreate (fun _ => none) "volume" (Admission.linked "link"))
        (reconcileAndSwitch {} (Admission.sampleVvr "link") (Admission.sampleVvr "link")) = some w ∧
      w.own.stored = some v ∧
      v.status.ppathDirMapping = [("east", "/east"), ("west", "/west")] ∧
      Covers v [("east", "/east"), ("west", "/west")] := by
  have hcover := mappings_cover Admission.fileClasses noStart Admission.answered
    Admission.nothing (fun _ => none)
  constructor
  · exact covered_of_dirs (by decide +kernel) (fun w hreach =>
      (hcover "group" w).1 (Admission.sampleVscr "link") (Admission.sampleVscr "link")
        (by decide +kernel) hreach) (by decide)
  · exact covered_of_dirs (by decide +kernel) (fun w hreach =>
      (hcover "volume" w).2 (Admission.sampleVvr "link") (Admission.sampleVvr "link")
        (by decide +kernel) hreach) (by decide)

end VastCsi.Ext.MappingCover
