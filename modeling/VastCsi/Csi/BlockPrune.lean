import VastCsi.Csi.BlockRely

/-!
# Pruning never takes a host from under a Publish

Every step of a party keeps `AttachInv`: the party gets to know what its new
place asks for, and the others may rely on what they knew. So everybody is
`Good` in every reachable state.

`publishStep_inv` and `unpublishStep_inv` go through the places of a call, with one lemma for each
shape of step (a read, a write, a lock); `run_attachInv` is the run.
-/

namespace VastCsi.Csi

open Lib Vms Function Cluster List

variable {P : Type} {conf : AttachConf} {Same : String → Volume → Prop}
  {s s' : AttachState P} {p q : P}

section Steps

variable [DecidableEq P]

/-- The party that moves knows what its new place asks for, the others rely. -/
theorem inv_change {pc : AttachPc} (hi : AttachInv conf Same s) (hpc : s'.pc = s.pc)
    (hrely : ∀ q, q ≠ p → Rely conf Same s s' q) (hgood : Good conf Same s' p pc) :
    AttachInv conf Same (s'.goto p pc) := by
  intro q
  by_cases hq : q = p
  · subst hq
    show Good conf Same s' q (update s'.pc q pc q)
    rw [update_self]
    exact hgood
  · show Good conf Same s' q (update s'.pc p pc q)
    rw [update_of_ne hq, hpc]
    exact (hi q).rely (hrely q hq)

theorem inv_goto {pc : AttachPc} (hi : AttachInv conf Same s) (hgood : Good conf Same s p pc) :
    AttachInv conf Same (s.goto p pc) :=
  inv_change hi rfl (fun _ _ => rely_refl s _) hgood

variable {fate : Fate Fault} {req : UnpublishReq}

theorem inv_read {raised : Err → AttachPc} {next : AttachPc} (hi : AttachInv conf Same s)
    (hraised : ∀ e, Good conf Same s p (raised e)) (hnext : Good conf Same s p next) :
    AttachInv conf Same (s.read p fate raised next) := by
  cases fate with
  | answered => exact inv_goto hi hnext
  | failed f => exact inv_goto hi (hraised f.err)
  | lost f => exact inv_goto hi (hraised f.err)

theorem inv_write {raised : Err → AttachPc} {next : AttachPc} (hi : AttachInv conf Same s)
    (hpc : s'.pc = s.pc) (hrely : ∀ q, q ≠ p → Rely conf Same s s' q)
    (hraised : ∀ (t : AttachState P) e, Good conf Same t p (raised e))
    (hnext : Good conf Same s' p next) :
    AttachInv conf Same (s.write s' p fate raised next) := by
  cases fate with
  | answered => exact inv_change hi hpc hrely hnext
  | failed f => exact inv_goto hi (hraised s f.err)
  | lost f => exact inv_change hi hpc hrely (hraised s' f.err)

theorem inv_lockOr {key message : String} {locked : AttachPc} {aborted : Err → AttachPc}
    (hi : AttachInv conf Same s) (haborted : ∀ e, Good conf Same s p (aborted e))
    (hlocked : ∀ t : AttachState P, t.locks key = some (p, message) → Good conf Same t p locked) :
    AttachInv conf Same (s.lockOr p key message locked aborted) := by
  unfold AttachState.lockOr
  split
  next => exact inv_goto hi (haborted _)
  next hfree => exact inv_change hi rfl (fun _ _ => rely_lock hfree) (hlocked _ (update_self ..))

/-- The one answer is among the rows. -/
theorem oneOf_mem {k : Kind} {rows : List (Row k)} {r : Row k}
    (h : oneOf k rows = .ok (some r)) : r ∈ rows := by
  unfold oneOf at h
  split at h
  next => cases h
  next => cases h; exact mem_singleton_self _
  next => cases h

omit [DecidableEq P] in
/-- A host that was found by name and tenant. -/
theorem isHostOf_found {v : Cluster} {n t : String} {h : Host}
    (hf : oneOf .host (hostsNamed v (conf.hostName n) t) = .ok (some h)) :
    IsHostOf conf v n t h := by
  have hmem := Table.mem_select.mp (oneOf_mem hf)
  simp only [Bool.and_eq_true, beq_iff_eq] at hmem
  exact ⟨hmem.1, hmem.2.1, hmem.2.2⟩

omit [DecidableEq P] in
/-- The host lookup of a Publish, under its lock. -/
theorem good_afterFind {req : PublishReq} {missing : PublishPc}
    (hh : Holds s p req.nodeId req.ctx.tenantName)
    (hmissing : Good conf Same s p (.publish req missing)) :
    Good conf Same s p (.publish req (afterFind
      (oneOf .host (hostsNamed s.vms (conf.hostName req.nodeId) req.ctx.tenantName)) missing)) := by
  unfold afterFind
  split
  next => trivial
  next => exact hmissing
  next host hf => exact ⟨hh, isHostOf_found hf⟩

/-- When nothing is to be mapped, the mapping is there. -/
theorem mapped_of_needsMap {v : Cluster} {req : PublishReq} {host : Host}
    (h : needsMap v req host = .ok false) : Mapped v req.ctx.volumeId host.id := by
  unfold needsMap at h
  split at h
  next =>
    split at h
    next => cases h
    next found hf =>
      cases found with
      | none => cases h
      | some m =>
        obtain ⟨hm, hhost⟩ := mem_filter.mp (oneOf_mem hf)
        obtain ⟨hmem, hvol⟩ := Table.mem_select.mp hm
        exact ⟨m, hmem, beq_iff_eq.mp hvol, beq_iff_eq.mp hhost⟩
  next =>
    dsimp only at h
    split at h
    next => cases h
    next =>
      have hany : (mappingsOf v req.ctx.volumeId).any (·.hostId == host.id) = true := by
        simpa using Except.ok.inj h
      obtain ⟨m, hm, hhost⟩ := any_eq_true.mp hany
      obtain ⟨hmem, hvol⟩ := Table.mem_select.mp hm
      exact ⟨m, hmem, beq_iff_eq.mp hvol, beq_iff_eq.mp hhost⟩

/-- The steps of a Publish. -/
theorem publishStep_inv {req : PublishReq} {pc : PublishPc} {newId : Nat}
    (hi : AttachInv conf Same s) (hpc : s.pc p = .publish req pc)
    (hs : publishStep conf s p req fate newId pc = some s') : AttachInv conf Same s' := by
  have hgood := hi p
  rw [hpc] at hgood
  cases pc with
  | lock =>
    cases hs
    exact inv_lockOr hi (fun _ => trivial) fun _ ht => ⟨_, ht⟩
  | findHost =>
    simp only [publishStep] at hs
    split at hs
    next => cases hs; exact inv_goto hi trivial
    next => cases hs; exact inv_read hi (fun _ => trivial) (good_afterFind hgood hgood)
  | getSubsystem =>
    simp only [publishStep] at hs
    split at hs
    next => cases hs; exact inv_goto hi trivial
    next => cases hs; exact inv_read hi (fun _ => trivial) hgood
  | createHost =>
    simp only [publishStep] at hs
    split at hs
    next =>
      split at hs
      next => cases hs
      next hfree =>
        cases hs
        refine inv_write hi rfl (fun _ _ => rely_insertHost) (fun _ _ => trivial)
          ⟨hgood, ?_, rfl, rfl⟩
        exact mem_insert_self (Bool.eq_false_iff.mpr hfree)
    next => cases hs; exact inv_read hi (fun _ => trivial) hgood
  | refindHost refused =>
    cases hs
    exact inv_read hi (fun _ => trivial) (good_afterFind hgood trivial)
  | listMappings host =>
    simp only [publishStep] at hs
    split at hs
    next => cases hs; exact inv_read hi (fun _ => trivial) trivial
    next => cases hs; exact inv_read hi (fun _ => trivial) hgood
    next hmap =>
      cases hs
      have hconfirm : AttachInv conf Same (s.confirm p) := by
        intro q
        by_cases hq : q = p
        · subst hq
          show Good conf Same (s.confirm q) q (s.pc q)
          rw [hpc]
          exact hgood
        · exact (hi q).rely (rely_confirm hq)
      exact inv_read hconfirm (fun _ => trivial) (.inl ⟨hgood.2.mem, mapped_of_needsMap hmap⟩)
  | map host =>
    simp only [publishStep] at hs
    split at hs
    next => cases hs
    next hfree =>
      cases hs
      obtain ⟨hh, hhost⟩ := hgood
      refine inv_write hi rfl (fun q hq => rely_trans (rely_confirm hq)
        (rely_insertMapping hq hh hhost rfl)) (fun _ _ => trivial) (.inl ⟨?_, ?_⟩)
      · show host ∈ (s.vms.insert .mapping _).table .host
        rw [insert_table_ne (by decide)]
        exact hhost.mem
      · exact ⟨_, mem_insert_self (Bool.eq_false_iff.mpr hfree), rfl, rfl⟩
  | discover host =>
    simp only [publishStep] at hs
    split at hs
    next => cases hs; exact inv_goto hi trivial
    next => cases hs; exact inv_read hi (fun _ => trivial) hgood
  | returned host server => cases hs
  | raised e => cases hs

omit [DecidableEq P] in
theorem good_afterUnmap {v : Volume} : Good conf Same s p (.unpublish req (afterUnmap conf v)) := by
  unfold afterUnmap
  split
  next => trivial
  next => trivial

omit [DecidableEq P] in
/-- The host lookup of a prune, under its lock. -/
theorem good_afterFindPrune {v : Volume} (hh : Holds s p req.nodeId v.tenantName) :
    Good conf Same s p (.unpublish req (afterFindPrune conf s.vms v
      (oneOf .host (hostsNamed s.vms (conf.hostName req.nodeId) v.tenantName)))) := by
  unfold afterFindPrune
  split
  next => trivial
  next => trivial
  next host hf =>
    split
    next hempty =>
      refine ⟨hh, isHostOf_found hf, ?_⟩
      intro m hm he
      have hnone : mappingsTo s.vms host.id = [] :=
        isEmpty_iff.mp (Bool.and_eq_true_iff.mp hempty).1
      have hsel : m ∈ mappingsTo s.vms host.id := Table.mem_select.mpr ⟨hm, by simpa using he⟩
      rw [hnone] at hsel
      cases hsel
    next => trivial

/-- The steps of an Unpublish; its volume lookup must find what `Same` asks. -/
theorem unpublishStep_inv {pc : UnpublishPc} (hi : AttachInv conf Same s)
    (hpc : s.pc p = .unpublish req pc)
    (hlook : fate = .answered → pc = .findVolume → ∀ v, foundVolume s.vms req = .ok (some v) →
      Same (normalizeVolumeId req.volumeId) v) (hs : unpublishStep conf s p req fate pc = some s') :
    AttachInv conf Same s' := by
  have hgood := hi p
  rw [hpc] at hgood
  cases pc with
  | findVolume =>
    cases hs
    cases fate with
    | failed f => exact inv_goto hi trivial
    | lost f => exact inv_goto hi trivial
    | answered =>
      refine inv_goto hi ?_
      split
      next => trivial
      next => trivial
      next v hf => exact ⟨(Table.mem_select.mp (oneOf_mem hf)).1, hlook rfl rfl v hf⟩
  | findMapping v =>
    cases hs
    refine inv_read hi (fun _ => trivial) ?_
    split
    next => trivial
    next => exact good_afterUnmap
    next m hf =>
      have hmem := (Table.mem_select.mp (oneOf_mem hf)).2
      exact ⟨hgood, beq_iff_eq.mp (Bool.and_eq_true_iff.mp hmem).1⟩
  | unmap v m =>
    cases hs
    obtain ⟨⟨hv, hsame⟩, hvol⟩ := hgood
    rw [hvol]
    exact inv_write hi rfl (fun _ _ => rely_unmapped hv hsame) (fun _ _ => trivial) good_afterUnmap
  | lock v =>
    cases hs
    exact inv_lockOr hi (fun _ => trivial) fun _ ht => ⟨_, ht⟩
  | findHost v =>
    cases hs
    exact inv_read hi (fun _ => trivial) (good_afterFindPrune hgood)
  | deleteHost v host =>
    cases hs
    obtain ⟨hh, hhost, hu⟩ := hgood
    exact inv_write hi rfl (fun q hq => rely_eraseHost hq hh hhost hu) (fun _ _ => trivial) trivial
  | returned => cases hs
  | raised e => cases hs

end Steps

/-- The id an Unpublish was called with is the volume's own name. -/
def SameName (id : String) (v : Volume) : Prop := normalizeVolumeId v.name = id

instance (id : String) (v : Volume) : Decidable (SameName id v) :=
  inferInstanceAs (Decidable (normalizeVolumeId v.name = id))

/-- Volume lookups find what `Same` asks for. -/
def Looks (Same : String → Volume → Prop) (s : AttachState P) : AttachAct P → Prop
  | .step p .answered _ =>
    ∀ req, s.pc p = .unpublish req .findVolume → ∀ v, foundVolume s.vms req = .ok (some v) →
      Same (normalizeVolumeId req.volumeId) v
  | _ => True

/-- The volume that an Unpublish finds by the end of its name has the requested id for its own
last path component. -/
def OwnLookup (s : AttachState P) (a : AttachAct P) : Prop := Looks SameName s a

/-- Whoever is at the deletion of a host has an unmapped host before it. -/
def PruneSafe (s : AttachState P) : Prop :=
  ∀ p req v host, s.pc p = .unpublish req (.deleteHost v host) → Unmapped s.vms host.id

/-- Whoever has returned from a Publish has its host with the mapping,
unless an Unpublish of the volume removed it. -/
def PublishHolds (s : AttachState P) : Prop :=
  ∀ p req host server, s.pc p = .publish req (.returned host server) →
    Attached SameName s p req.ctx.volumeId host

theorem init_attachInv (v : Cluster) : AttachInv conf Same (attachInit v : AttachState P) :=
  fun _ => trivial

section Runs

variable [DecidableEq P]

/-- Every step keeps the invariant. -/
theorem attachStep_inv {a : AttachAct P} (hauto : conf.autoPrune = true)
    (hi : AttachInv conf Same s) (hlook : Looks Same s a) (hs : attachStep conf s a = some s') :
    AttachInv conf Same s' := by
  cases a with
  | publish p req =>
    simp only [attachStep, hauto] at hs
    split at hs
    next => cases hs; exact inv_goto hi trivial
    next => cases hs
  | unpublish p req =>
    simp only [attachStep] at hs
    split at hs
    next => cases hs; exact inv_goto hi trivial
    next => cases hs
  | step p fate newId =>
    simp only [attachStep] at hs
    split at hs
    next => cases hs
    next req pc hpc => exact publishStep_inv hi hpc hs
    next req pc hpc =>
      refine unpublishStep_inv hi hpc ?_ hs
      intro hfate hfind v hv
      subst hfate hfind
      exact hlook req hpc v hv
  | exit p =>
    simp only [attachStep] at hs
    split at hs
    next hfin =>
      cases hs
      intro q
      by_cases hq : q = p
      · subst hq
        -- a finished call knows nothing of its locks
        have hgood := hi q
        show Good conf Same _ q (s.pc q)
        unfold AttachPc.finished at hfin
        split at hfin
        next hpc => rw [hpc] at hgood ⊢; exact hgood
        next hpc => rw [hpc]; trivial
        next hpc => rw [hpc]; trivial
        next hpc => rw [hpc]; trivial
        next => cases hfin
      · exact (hi q).rely (rely_exit hq)
    next => cases hs

/-- What a run keeps. -/
theorem run_attachInv {v : Cluster} {acts : List (AttachAct P)} (hauto : conf.autoPrune = true)
    (hlook : RunMeets (attachStep conf) (Looks Same) (attachInit v) acts)
    (hrun : runFrom (attachStep conf) (attachInit v) acts = some s) : AttachInv conf Same s :=
  runFrom_invariant (fun _ _ _ hi hl hs => attachStep_inv hauto hi hl hs) acts
    (init_attachInv v) hlook hrun

/-- **Prune and Publish**: with auto-prune on, in every interleaving, a prune deletes no host with
a mapping; and when every Unpublish finds its own volume, whoever returned from a Publish has its
mapping unless an Unpublish of that volume removed it. -/
theorem attach_safe {v : Cluster} {acts : List (AttachAct P)} (hauto : conf.autoPrune = true)
    (hrun : runFrom (attachStep conf) (attachInit v) acts = some s) :
    PruneSafe s ∧ (RunMeets (attachStep conf) OwnLookup (attachInit v) acts → PublishHolds s) := by
  constructor
  · have hall : ∀ (t : AttachState P) a, Looks (fun _ _ => True) t a := by
      intro t a
      unfold Looks
      split
      next => intros; trivial
      next => trivial
    have hinv := run_attachInv hauto (runMeets_of_forall hall acts _) hrun
    intro p req w host hpc
    have hgood := hinv p
    rw [hpc] at hgood
    exact hgood.2.2
  · intro hown p req host server hpc
    have hgood := run_attachInv hauto hown hrun p
    rw [hpc] at hgood
    exact hgood

/-- The host a call has found and is about to map to or to delete. -/
def AttachPc.host : AttachPc → Option Host
  | .publish _ (.listMappings host) => some host
  | .publish _ (.map host) => some host
  | .unpublish _ (.deleteHost _ host) => some host
  | _ => none

omit [DecidableEq P] in
theorem Good.locked {pc : AttachPc} {h : Host} (hgood : Good conf Same s p pc)
    (hpc : pc.host = some h) : ∃ n t, Holds s p n t ∧ IsHostOf conf s.vms n t h := by
  unfold AttachPc.host at hpc
  split at hpc <;> cases hpc
  · exact ⟨_, _, hgood⟩
  · exact ⟨_, _, hgood⟩
  · exact ⟨_, _, hgood.1, hgood.2.1⟩

/-- **One call per host**: with auto-prune on, in every interleaving, the host a call is about to
map to or to delete is there, and no other call is about to do either. -/
theorem one_call_per_host {v : Cluster} {acts : List (AttachAct P)} {h : Host}
    (hauto : conf.autoPrune = true)
    (hrun : runFrom (attachStep conf) (attachInit v) acts = some s)
    (hp : (s.pc p).host = some h) :
    h ∈ s.vms.table .host ∧ ∀ q h', (s.pc q).host = some h' → h'.id = h.id → q = p := by
  have hinv : AttachInv conf (fun _ _ => True) s := by
    refine run_attachInv hauto (runMeets_of_forall (fun t a => ?_) acts _) hrun
    unfold Looks
    split <;> intros <;> trivial
  obtain ⟨n, t, hl, hi⟩ := (hinv p).locked hp
  refine ⟨hi.mem, fun q h' hq hid => ?_⟩
  obtain ⟨n', t', hl', hi'⟩ := (hinv q).locked hq
  by_contra hne
  exact host_ne_of_holders hne hl hi hl' hi' hid

end Runs

def oneBlockVolume : Cluster :=
  (Cluster.fresh ⟨5, 3, 0⟩).insert .volume ⟨7, "/sub/old-pvc-1", "default"⟩

def publishOld : PublishReq where
  nodeId := "n1"
  volumeId := "old-pvc-1"
  multiMode := false
  ctx := ⟨7, "default", "sub", "nqn.sub", "nguid", none, none, none⟩

def publishUpToMap : List (AttachAct Bool) :=
  [.publish false publishOld, .step false .answered 0, .step false .answered 0,
    .step false .answered 0, .step false .answered 1, .step false .answered 0,
    .step false .answered 1]

theorem one_call_per_host_mapping : ∃ s h, runFrom (attachStep pruning)
    (attachInit oneBlockVolume) (publishUpToMap.take 6) = some s ∧
      (s.pc false).host = some h ∧ h ∈ s.vms.table .host := by
  have hrun : ∃ s h, runFrom (attachStep pruning) (attachInit oneBlockVolume)
      (publishUpToMap.take 6) = some s ∧ (s.pc false).host = some h := ⟨_, _, rfl, rfl⟩
  obtain ⟨s, h, hs, hp⟩ := hrun
  exact ⟨s, h, hs, hp, (one_call_per_host rfl hs hp).1⟩

def unpublishMeanwhile (id : String) : List (AttachAct Bool) :=
  publishUpToMap ++ [.unpublish true ⟨"n1", id⟩, .step true .answered 0,
    .step true .answered 0, .step true .answered 0, .step false .answered 0]

/-- An Unpublish of the volume itself in the same place: nobody's lookup goes astray, and the
Publish knows who took its mapping. -/
theorem attach_safe_unpublished : ∃ s, runFrom (attachStep pruning) (attachInit oneBlockVolume)
        (unpublishMeanwhile "old-pvc-1") = some s ∧ PruneSafe s ∧ PublishHolds s := by
  have hrun : ∃ s, runFrom (attachStep pruning) (attachInit oneBlockVolume)
      (unpublishMeanwhile "old-pvc-1") = some s := ⟨_, rfl⟩
  obtain ⟨s, hrun⟩ := hrun
  obtain ⟨hprune, hpublish⟩ := attach_safe rfl hrun
  refine ⟨s, hrun, hprune, hpublish ?_⟩
  have hskip : ∀ {t : AttachState Bool} {req pc fate n}, t.pc false = .publish req pc →
      OwnLookup t (.step false fate n) := by
    intro t req pc fate n hpc
    unfold OwnLookup Looks
    split
    next heq =>
      cases heq
      intro req' hreq
      rw [hpc] at hreq
      cases hreq
    next => trivial
  refine .cons trivial rfl <| .cons (hskip rfl) rfl <| .cons (hskip rfl) rfl <|
    .cons (hskip rfl) rfl <| .cons (hskip rfl) rfl <| .cons (hskip rfl) rfl <|
    .cons (hskip rfl) rfl <| .cons trivial rfl <| .cons ?_ rfl <|
    .cons (by intro req h; cases h) rfl <| .cons (by intro req h; cases h) rfl <|
    .cons (hskip rfl) rfl trivial
  intro req hreq v hv
  cases hreq
  cases hv
  decide

/-- An Unpublish of `pvc-1`, which is not there, finds `old-pvc-1` by the end of its name: the
Publish of the latter returns without its mapping. -/
theorem unpublish_takes_other_mapping :
    ∃ s, runFrom (attachStep pruning) (attachInit oneBlockVolume)
        (unpublishMeanwhile "pvc-1") = some s ∧ ¬ PublishHolds s := by
  refine ⟨_, rfl, ?_⟩
  intro hholds
  rcases hholds false publishOld ⟨1, "csi-n1", "default", "nqn.csi:default:csi-n1"⟩ "10.0.0.1" rfl
    with ⟨-, m, hm, -⟩ | ⟨v, hv, -, id, hid, hsame⟩
  · cases hm
  · rcases mem_singleton.mp hv with rfl
    have hpvc : id = "pvc-1" := (Option.some.inj hid).symm
    rw [hpvc] at hsame
    exact absurd hsame (by decide)

end VastCsi.Csi
