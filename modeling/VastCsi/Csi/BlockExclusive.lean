import VastCsi.Csi.BlockAttach

/-!
# One host per single-node volume

`ensure_map_exclusive` lists the mappings of the volume, raises when another host has one, and
maps otherwise. The list and the map are two calls, and the only lock around them is on the
*node*. Between its check and its map a Publish is *pending*; the invariant is that whatever is
mapped or pending for the volume agrees on the host.
-/

namespace VastCsi.Csi

open Lib Vms Function Cluster

variable {P : Type} {conf : AttachConf} {v : Nat} {s s' t : AttachState P} {p q : P}

def OneHost (v : Nat) (c : Cluster) : Prop :=
  ∀ m ∈ c.table .mapping, ∀ m' ∈ c.table .mapping,
    m.volumeId = v → m'.volumeId = v → m.hostId = m'.hostId

/-- The party has checked the volume for the host and not mapped it yet. -/
def Pending (v : Nat) (pc : AttachPc) (host : Host) : Prop :=
  ∃ req, pc = .publish req (.map host) ∧ req.ctx.volumeId = v

/-- A Publish of the volume is for single-node access. -/
def Single (v : Nat) (pc : AttachPc) : Prop :=
  ∀ req place, pc = .publish req place → req.ctx.volumeId = v → req.multiMode = false

/-- The volume is published for single-node access only. -/
def SingleNode (v : Nat) : AttachAct P → Prop
  | .publish _ req => req.ctx.volumeId = v → req.multiMode = false
  | _ => True

/-- A Publish of the volume finds that it has to map it only while no other one is pending for a
different host. -/
def SoloCheck (v : Nat) (s : AttachState P) : AttachAct P → Prop
  | .step p .answered _ =>
    ∀ req host, s.pc p = .publish req (.listMappings host) → req.ctx.volumeId = v →
      needsMap s.vms req host = .ok true →
      ∀ q host', Pending v (s.pc q) host' → host'.id = host.id
  | _ => True

/-- What is mapped or pending for the volume agrees on the host. -/
structure SoleInv (v : Nat) (s : AttachState P) : Prop where
  sole : OneHost v s.vms
  single : ∀ p, Single v (s.pc p)
  checked : ∀ p host, Pending v (s.pc p) host →
    ∀ m ∈ s.vms.table .mapping, m.volumeId = v → m.hostId = host.id
  agree : ∀ p q host host', Pending v (s.pc p) host → Pending v (s.pc q) host' → host.id = host'.id

theorem init_soleInv {c : Cluster} (h : OneHost v c) :
    SoleInv v (attachInit c : AttachState P) where
  sole := h
  single := by intro p req a hpc; cases hpc
  checked := by
    intro p host hp
    obtain ⟨req, hpc, -⟩ := hp
    cases hpc
  agree := by
    intro p q host host' hp
    obtain ⟨req, hpc, -⟩ := hp
    cases hpc

/-- A place that is not pending, of a call that is for single-node access if
it is for the volume. -/
structure Quiet (v : Nat) (pc : AttachPc) : Prop where
  single : Single v pc
  settled : ∀ host, ¬ Pending v pc host

theorem quiet_unpublish (req : UnpublishReq) (pc : UnpublishPc) : Quiet v (.unpublish req pc) where
  single := by intro req' a h; cases h
  settled := by
    intro host hp
    obtain ⟨req', h, -⟩ := hp
    cases h

/-- The next place of a Publish, when it is not the map call. -/
theorem quiet_publish {req : PublishReq} {a b : PublishPc} (hs : Single v (.publish req a))
    (hb : ∀ host, b ≠ .map host) : Quiet v (.publish req b) where
  single := by
    intro req' b' h
    cases h
    exact hs req a rfl
  settled := by
    intro host hp
    obtain ⟨req', h, -⟩ := hp
    cases h
    exact hb host rfl

theorem afterFind_ne_map {found : Except Err (Option Host)} {missing : PublishPc}
    (hm : ∀ host, missing ≠ .map host) (host : Host) : afterFind found missing ≠ .map host := by
  unfold afterFind
  split
  next => intro h; cases h
  next => exact hm host
  next => intro h; cases h

section Steps

variable [DecidableEq P]

variable {pc : AttachPc} {host : Host} {fate : Fate Fault} {req : PublishReq}

/-- Who is pending after a move to a quiet place was pending before. -/
theorem pending_goto (hq : Quiet v pc) (h : Pending v ((t.goto p pc).pc q) host) :
    Pending v (t.pc q) host := by
  by_cases hqp : q = p
  · subst hqp
    have hself : (t.goto q pc).pc q = pc := update_self ..
    rw [hself] at h
    exact absurd h (hq.settled host)
  · have hother : (t.goto p pc).pc q = t.pc q := update_of_ne hqp ..
    rw [hother] at h
    exact h

theorem single_goto (hi : ∀ q, Single v (t.pc q)) (hpc : Single v pc) (q : P) :
    Single v ((t.goto p pc).pc q) := by
  by_cases hqp : q = p
  · subst hqp
    have hself : (t.goto q pc).pc q = pc := update_self ..
    rw [hself]
    exact hpc
  · have hother : (t.goto p pc).pc q = t.pc q := update_of_ne hqp ..
    rw [hother]
    exact hi q

/-- A change that adds no mapping of the volume, and a move to a quiet place. -/
theorem sole_change (hi : SoleInv v s) (hpc : t.pc = s.pc)
    (hmaps : ∀ m ∈ t.vms.table .mapping, m.volumeId = v → m ∈ s.vms.table .mapping)
    (hq : Quiet v pc) : SoleInv v (t.goto p pc) where
  sole := by
    intro m hm m' hm' hv hv'
    exact hi.sole m (hmaps m hm hv) m' (hmaps m' hm' hv') hv hv'
  single := by
    refine single_goto ?_ hq.single
    rw [hpc]
    exact hi.single
  checked := by
    intro q host hp m hm hv
    have hold := pending_goto hq hp
    rw [hpc] at hold
    exact hi.checked q host hold m (hmaps m hm hv) hv
  agree := by
    intro q r host host' hp hp'
    have hold := pending_goto hq hp
    have hold' := pending_goto hq hp'
    rw [hpc] at hold hold'
    exact hi.agree q r host host' hold hold'

theorem sole_goto (hi : SoleInv v s) (hq : Quiet v pc) : SoleInv v (s.goto p pc) :=
  sole_change hi rfl (fun _ hm _ => hm) hq

theorem sole_read {raised : Err → AttachPc} {next : AttachPc} (hi : SoleInv v s)
    (hraised : ∀ e, Quiet v (raised e)) (hnext : Quiet v next) :
    SoleInv v (s.read p fate raised next) := by
  cases fate with
  | answered => exact sole_goto hi hnext
  | failed f => exact sole_goto hi (hraised f.err)
  | lost f => exact sole_goto hi (hraised f.err)

theorem sole_write {raised : Err → AttachPc} {next : AttachPc} (hi : SoleInv v s)
    (hpc : t.pc = s.pc)
    (hmaps : ∀ m ∈ t.vms.table .mapping, m.volumeId = v → m ∈ s.vms.table .mapping)
    (hraised : ∀ e, Quiet v (raised e)) (hnext : Quiet v next) :
    SoleInv v (s.write t p fate raised next) := by
  cases fate with
  | answered => exact sole_change hi hpc hmaps hnext
  | failed f => exact sole_goto hi (hraised f.err)
  | lost f => exact sole_change hi hpc hmaps (hraised f.err)

theorem sole_lockOr {key message : String} {locked : AttachPc} {aborted : Err → AttachPc}
    (hi : SoleInv v s) (haborted : ∀ e, Quiet v (aborted e)) (hlocked : Quiet v locked) :
    SoleInv v (s.lockOr p key message locked aborted) := by
  unfold AttachState.lockOr
  split
  next => exact sole_goto hi (haborted _)
  next => exact sole_change hi rfl (fun _ hm _ => hm) hlocked

/-- The exclusive check passed: every mapping of the volume is to the host. -/
theorem hostId_of_needsMap {c : Cluster} {m : Mapping} (hmode : req.multiMode = false)
    (h : needsMap c req host = .ok true) (hm : m ∈ c.table .mapping)
    (hv : m.volumeId = req.ctx.volumeId) : m.hostId = host.id := by
  have hmem : m ∈ mappingsOf c req.ctx.volumeId := Table.mem_select.mpr ⟨hm, by simpa using hv⟩
  simp only [needsMap, hmode] at h
  by_contra hne
  have hstale : m ∈ (mappingsOf c req.ctx.volumeId).filter (·.hostId != host.id) :=
    List.mem_filter.mpr ⟨hmem, by simpa using hne⟩
  cases hl : (mappingsOf c req.ctx.volumeId).filter (·.hostId != host.id) with
  | nil =>
    rw [hl] at hstale
    cases hstale
  | cons a l =>
    rw [hl] at h
    simp at h

/-- The move to the map call, after a check that nobody else is in. -/
theorem sole_checked (hi : SoleInv v s) (hpc : s.pc p = .publish req (.listMappings host))
    (hneeds : needsMap s.vms req host = .ok true)
    (hsolo : req.ctx.volumeId = v → ∀ q host', Pending v (s.pc q) host' → host'.id = host.id) :
    SoleInv v (s.goto p (.publish req (.map host))) := by
  have hsingle := hi.single p req _ hpc
  have hcases : ∀ q host', Pending v ((s.goto p (.publish req (.map host))).pc q) host' →
      (host' = host ∧ req.ctx.volumeId = v) ∨ Pending v (s.pc q) host' := by
    intro q host' hp
    by_cases hqp : q = p
    · subst hqp
      have hself : (s.goto q (.publish req (.map host))).pc q = .publish req (.map host) :=
        update_self ..
      rw [hself] at hp
      obtain ⟨req', h, hv⟩ := hp
      cases h
      exact .inl ⟨rfl, hv⟩
    · have hother : (s.goto p (.publish req (.map host))).pc q = s.pc q := update_of_ne hqp ..
      rw [hother] at hp
      exact .inr hp
  refine ⟨hi.sole, ?_, ?_, ?_⟩
  · refine single_goto hi.single ?_
    intro req' a h
    cases h
    exact hsingle
  · intro q host' hp m hm hv
    rcases hcases q host' hp with ⟨rfl, hreq⟩ | hold
    · exact hostId_of_needsMap (hsingle hreq) hneeds hm (hv.trans hreq.symm)
    · exact hi.checked q host' hold m hm hv
  · intro q r host₁ host₂ hp hp'
    rcases hcases q host₁ hp with ⟨rfl, hreq⟩ | hold
    · rcases hcases r host₂ hp' with ⟨rfl, -⟩ | hold'
      · rfl
      · exact (hsolo hreq r host₂ hold').symm
    · rcases hcases r host₂ hp' with ⟨rfl, hreq⟩ | hold'
      · exact hsolo hreq q host₁ hold
      · exact hi.agree q r host₁ host₂ hold hold'

/-- The map call: the new mapping is where everything else is. -/
theorem sole_mapped {row : Mapping} (hi : SoleInv v s) (hpc : s.pc p = .publish req (.map host))
    (hvol : row.volumeId = req.ctx.volumeId) (hhost : row.hostId = host.id)
    (ht : t.vms = s.vms.insert .mapping row) (htpc : t.pc = s.pc) (hq : Quiet v pc) :
    SoleInv v (t.goto p pc) := by
  by_cases hv : req.ctx.volumeId = v
  · have hp : Pending v (s.pc p) host := ⟨req, hpc, hv⟩
    have hall : ∀ m ∈ t.vms.table .mapping, m.volumeId = v → m.hostId = host.id := by
      intro m hm hmv
      rw [ht] at hm
      rcases mem_insert_cases hm with hm | hm
      · exact hi.checked p host hp m hm hmv
      · rw [hm]
        exact hhost
    refine ⟨?_, ?_, ?_, ?_⟩
    · intro m hm m' hm' hmv hmv'
      exact (hall m hm hmv).trans (hall m' hm' hmv').symm
    · refine single_goto ?_ hq.single
      rw [htpc]
      exact hi.single
    · intro q host' hq' m hm hmv
      have hold := pending_goto hq hq'
      rw [htpc] at hold
      exact (hall m hm hmv).trans (hi.agree p q host host' hp hold)
    · intro q r host₁ host₂ h₁ h₂
      have hold₁ := pending_goto hq h₁
      have hold₂ := pending_goto hq h₂
      rw [htpc] at hold₁ hold₂
      exact hi.agree q r host₁ host₂ hold₁ hold₂
  · refine sole_change hi htpc ?_ hq
    intro m hm hmv
    rw [ht] at hm
    rcases mem_insert_cases hm with hm | hm
    · exact hm
    · rw [hm, hvol] at hmv
      exact absurd hmv hv

/-- The steps of a Publish. -/
theorem publishStep_sole {pc : PublishPc} {newId : Nat} (hi : SoleInv v s)
    (hpc : s.pc p = .publish req pc) (hsolo : SoloCheck v s (.step p fate newId))
    (hs : publishStep conf s p req fate newId pc = some s') : SoleInv v s' := by
  have hsingle : Single v (.publish req pc) := hpc ▸ hi.single p
  have hraised : ∀ e, Quiet v (.publish req (.raised e)) :=
    fun e => quiet_publish hsingle (by intro host h; cases h)
  cases pc with
  | lock =>
    cases hs
    exact sole_lockOr hi hraised (quiet_publish hsingle (by intro host h; cases h))
  | findHost =>
    simp only [publishStep] at hs
    split at hs
    next => cases hs; exact sole_goto hi (hraised _)
    next =>
      cases hs
      exact sole_read hi hraised
        (quiet_publish hsingle (afterFind_ne_map (by intro host h; cases h)))
  | getSubsystem =>
    simp only [publishStep] at hs
    split at hs
    next => cases hs; exact sole_goto hi (hraised _)
    next => cases hs; exact sole_read hi hraised (quiet_publish hsingle (by intro host h; cases h))
  | createHost =>
    simp only [publishStep] at hs
    split at hs
    next =>
      split at hs
      next => cases hs
      next =>
        cases hs
        refine sole_write hi rfl ?_ hraised (quiet_publish hsingle (by intro host h; cases h))
        intro m hm _
        rw [insert_table_ne (by decide)] at hm
        exact hm
    next => cases hs; exact sole_read hi hraised (quiet_publish hsingle (by intro host h; cases h))
  | refindHost refused =>
    cases hs
    exact sole_read hi hraised (quiet_publish hsingle (afterFind_ne_map (by intro host h; cases h)))
  | listMappings host =>
    simp only [publishStep] at hs
    split at hs
    next => cases hs; exact sole_read hi hraised (hraised _)
    next hneeds =>
      cases hs
      cases fate with
      | failed f => exact sole_goto hi (hraised _)
      | lost f => exact sole_goto hi (hraised _)
      | answered => exact sole_checked hi hpc hneeds fun hv => hsolo req host hpc hv hneeds
    next =>
      cases hs
      have hconfirm : SoleInv v (s.confirm p) := ⟨hi.sole, hi.single, hi.checked, hi.agree⟩
      exact sole_read hconfirm hraised (quiet_publish hsingle (by intro host h; cases h))
  | map host =>
    simp only [publishStep] at hs
    split at hs
    next => cases hs
    next =>
      cases hs
      cases fate with
      | failed f => exact sole_goto hi (hraised _)
      | lost f => exact sole_mapped hi hpc rfl rfl rfl rfl (hraised _)
      | answered =>
        exact sole_mapped hi hpc rfl rfl rfl rfl (quiet_publish hsingle (by intro host h; cases h))
  | discover host =>
    simp only [publishStep] at hs
    split at hs
    next => cases hs; exact sole_goto hi (hraised _)
    next => cases hs; exact sole_read hi hraised (quiet_publish hsingle (by intro host h; cases h))
  | returned host server => cases hs
  | raised e => cases hs

/-- The steps of an Unpublish add no mapping. -/
theorem unpublishStep_sole {req : UnpublishReq} {pc : UnpublishPc} (hi : SoleInv v s)
    (hs : unpublishStep conf s p req fate pc = some s') : SoleInv v s' := by
  have hquiet : ∀ pc, Quiet v (.unpublish req pc) := quiet_unpublish req
  cases pc with
  | findVolume => cases hs; exact sole_read hi (fun _ => hquiet _) (hquiet _)
  | findMapping vol => cases hs; exact sole_read hi (fun _ => hquiet _) (hquiet _)
  | unmap vol m =>
    cases hs
    refine sole_write hi rfl ?_ (fun _ => hquiet _) (hquiet _)
    intro m' hm' _
    exact (mem_dropRows.mp hm').1
  | lock vol => cases hs; exact sole_lockOr hi (fun _ => hquiet _) (hquiet _)
  | findHost vol => cases hs; exact sole_read hi (fun _ => hquiet _) (hquiet _)
  | deleteHost vol host =>
    cases hs
    refine sole_write hi rfl ?_ (fun _ => hquiet _) (hquiet _)
    intro m hm _
    rw [erase_table_ne (by decide)] at hm
    exact hm
  | returned => cases hs
  | raised e => cases hs

theorem attachStep_sole {a : AttachAct P} (hi : SoleInv v s) (hnode : SingleNode v a)
    (hsolo : SoloCheck v s a) (hs : attachStep conf s a = some s') : SoleInv v s' := by
  cases a with
  | publish p req =>
    simp only [attachStep] at hs
    split at hs
    next =>
      cases hs
      refine sole_goto hi ⟨?_, ?_⟩
      · intro req' place h
        cases h
        exact hnode
      · intro host hp
        obtain ⟨req', h, -⟩ := hp
        cases hconf : conf.autoPrune <;> rw [hconf] at h <;> cases h
    next => cases hs
  | unpublish p req =>
    simp only [attachStep] at hs
    split at hs
    next => cases hs; exact sole_goto hi (quiet_unpublish req _)
    next => cases hs
  | step p fate newId =>
    simp only [attachStep] at hs
    split at hs
    next => cases hs
    next req pc hpc => exact publishStep_sole hi hpc hsolo hs
    next req pc hpc => exact unpublishStep_sole hi hs
  | exit p =>
    simp only [attachStep] at hs
    split at hs
    next => cases hs; exact ⟨hi.sole, hi.single, hi.checked, hi.agree⟩
    next => cases hs

/-- **At most one host**: a single-node volume that starts with at most one host has at most one
in every run in which no Publish passes its check while another is pending for a different host.
-/
theorem one_host_of_solo_checks {c : Cluster} {acts : List (AttachAct P)} (hc : OneHost v c)
    (hmeets : RunMeets (attachStep conf) (fun s a => SingleNode v a ∧ SoloCheck v s a)
      (attachInit c) acts)
    (hrun : runFrom (attachStep conf) (attachInit c) acts = some s) : OneHost v s.vms :=
  (runFrom_invariant (fun _ _ _ hi hp hs => attachStep_sole hi hp.1 hp.2 hs) acts
    (init_soleInv hc) hmeets hrun).sole

end Steps

def twoHosts : Cluster :=
  (((Cluster.fresh ⟨5, 3, 0⟩).insert .volume ⟨7, "/sub/pvc-1", "default"⟩).insert .host
    ⟨1, "csi-n1", "default", "nqn.csi:default:csi-n1"⟩).insert .host
    ⟨2, "csi-n2", "default", "nqn.csi:default:csi-n2"⟩

def publishOn (nodeId : String) : PublishReq where
  nodeId := nodeId
  volumeId := "pvc-1"
  multiMode := false
  ctx := ⟨7, "default", "sub", "nqn.sub", "nguid", none, none, none⟩

def upToCheck (p : Bool) (nodeId : String) : List (AttachAct Bool) :=
  [.publish p (publishOn nodeId), .step p .answered 0, .step p .answered 0, .step p .answered 0]

/-- One after the other: the second Publish finds the volume on `n1` and raises. -/
theorem one_host_of_solo_checks_in_turn : ∃ s, runFrom (attachStep pruning) (attachInit twoHosts)
        (upToCheck false "n1" ++ .step false .answered 1 :: upToCheck true "n2") = some s ∧
      OneHost 7 s.vms := by
  have hrun : ∃ s, runFrom (attachStep pruning) (attachInit twoHosts)
      (upToCheck false "n1" ++ .step false .answered 1 :: upToCheck true "n2") = some s :=
    ⟨_, rfl⟩
  have hstart : OneHost 7 twoHosts := by
    intro m hm
    cases hm
  obtain ⟨s, hrun⟩ := hrun
  refine ⟨s, hrun, one_host_of_solo_checks hstart ?_ hrun⟩
  have hother : ∀ {t : AttachState Bool} {p fate n}, (∀ req host,
      t.pc p ≠ .publish req (.listMappings host)) →
      SingleNode 7 (.step p fate n) ∧ SoloCheck 7 t (.step p fate n) := by
    intro t p fate n hpc
    refine ⟨trivial, ?_⟩
    unfold SoloCheck
    split
    next heq =>
      cases heq
      intro req host h
      exact absurd h (hpc req host)
    next => trivial
  have hnone : ∀ {pc : AttachPc}, (∀ req host, pc ≠ .publish req (.map host)) →
      ∀ host, ¬ Pending 7 pc host := by
    intro pc hpc host hp
    obtain ⟨req, h, -⟩ := hp
    exact hpc req host h
  refine .cons ⟨fun _ => rfl, trivial⟩ rfl <| .cons (hother (by intro _ _ h; cases h)) rfl <|
    .cons (hother (by intro _ _ h; cases h)) rfl <| .cons ⟨trivial, ?_⟩ rfl <|
    .cons (hother (by intro _ _ h; cases h)) rfl <| .cons ⟨fun _ => rfl, trivial⟩ rfl <|
    .cons (hother (by intro _ _ h; cases h)) rfl <|
    .cons (hother (by intro _ _ h; cases h)) rfl <| .cons ⟨trivial, ?_⟩ rfl trivial
  · intro req host _ _ _ q host' hp
    cases q with
    | false => exact absurd hp (hnone (by intro _ _ h; cases h) host')
    | true => exact absurd hp (hnone (by intro _ _ h; cases h) host')
  · intro req host hpc _ hneeds
    cases hpc
    cases hneeds

/-- Two Publishes for different nodes, each holding its own lock, both check before either maps.
-/
theorem two_nodes_mapped : OneHost 7 twoHosts ∧
      ∃ s, runFrom (attachStep pruning) (attachInit twoHosts)
        (upToCheck false "n1" ++ upToCheck true "n2" ++
          [.step false .answered 1, .step true .answered 2]) = some s ∧ ¬ OneHost 7 s.vms := by
  refine ⟨?_, _, rfl, ?_⟩
  · intro m hm
    cases hm
  · intro hone
    have hhosts : (1 : Nat) = 2 := hone ⟨1, 7, 1⟩ (by decide) ⟨2, 7, 2⟩ (by decide) rfl rfl
    exact absurd hhosts (by decide)

end VastCsi.Csi
