import VastCsi.Csi.BlockAttach

/-!
# What the parties of the attach protocol rely on

`Rely` is what a party may rely on while others move: its locks stay, the host of a lock it holds
stays and gets no mapping from others, a mapping it confirmed stays or was removed by an Unpublish
of the volume. `Good` is what a party knows where it is, and it is stable under `Rely`. A Publish
maps only to a host it holds the lock of, and a prune deletes only a host it holds the lock of and
found empty.
-/

namespace VastCsi.Csi

open Lib Vms Function Cluster String

section Knowledge

variable {P : Type}

/-- The party holds the lock of the node and tenant. -/
def Holds (s : AttachState P) (p : P) (nodeId tenantName : String) : Prop :=
  ∃ message, s.locks (lockKey nodeId tenantName) = some (p, message)

/-- The host is the one of the node in the tenant. -/
structure IsHostOf (conf : AttachConf) (v : Cluster) (nodeId tenantName : String)
    (host : Host) : Prop where
  mem : host ∈ v.table .host
  name : host.name = conf.hostName nodeId
  tenant : host.tenantName = tenantName

def Mapped (v : Cluster) (volumeId hostId : Nat) : Prop :=
  ∃ m ∈ v.table .mapping, m.volumeId = volumeId ∧ m.hostId = hostId

def Unmapped (v : Cluster) (hostId : Nat) : Prop := ∀ m ∈ v.table .mapping, m.hostId ≠ hostId

/-- The host is there with the mapping, or an Unpublish removed the pair since the party confirmed
it. -/
def Attached (Same : String → Volume → Prop) (s : AttachState P) (p : P) (volumeId : Nat)
    (host : Host) : Prop :=
  (host ∈ s.vms.table .host ∧ Mapped s.vms volumeId host.id) ∨
    ∃ v ∈ s.vms.table .volume, v.id = volumeId ∧
      ∃ id, s.taken p volumeId host.id = some id ∧ Same id v

def Good (conf : AttachConf) (Same : String → Volume → Prop) (s : AttachState P) (p : P) :
    AttachPc → Prop
  | .idle => True
  | .publish req pc =>
    match pc with
    | .lock => True
    | .findHost => Holds s p req.nodeId req.ctx.tenantName
    | .getSubsystem => Holds s p req.nodeId req.ctx.tenantName
    | .createHost => Holds s p req.nodeId req.ctx.tenantName
    | .refindHost _ => Holds s p req.nodeId req.ctx.tenantName
    | .listMappings host =>
      Holds s p req.nodeId req.ctx.tenantName ∧
        IsHostOf conf s.vms req.nodeId req.ctx.tenantName host
    | .map host =>
      Holds s p req.nodeId req.ctx.tenantName ∧
        IsHostOf conf s.vms req.nodeId req.ctx.tenantName host
    | .discover host => Attached Same s p req.ctx.volumeId host
    | .returned host _ => Attached Same s p req.ctx.volumeId host
    | .raised _ => True
  | .unpublish req pc =>
    match pc with
    | .findVolume => True
    | .findMapping v => v ∈ s.vms.table .volume ∧ Same (normalizeVolumeId req.volumeId) v
    | .unmap v m =>
      (v ∈ s.vms.table .volume ∧ Same (normalizeVolumeId req.volumeId) v) ∧ m.volumeId = v.id
    | .lock _ => True
    | .findHost v => Holds s p req.nodeId v.tenantName
    | .deleteHost v host =>
      Holds s p req.nodeId v.tenantName ∧ IsHostOf conf s.vms req.nodeId v.tenantName host ∧
        Unmapped s.vms host.id
    | .returned => True
    | .raised _ => True

/-- The invariant: everybody's knowledge is right. -/
def AttachInv (conf : AttachConf) (Same : String → Volume → Prop) (s : AttachState P) : Prop :=
  ∀ p, Good conf Same s p (s.pc p)

/-- What a party may rely on while another one moves. -/
structure Rely (conf : AttachConf) (Same : String → Volume → Prop) (s s' : AttachState P)
    (q : P) : Prop where
  holds : ∀ {n t}, Holds s q n t → Holds s' q n t
  host : ∀ {n t h}, Holds s q n t → IsHostOf conf s.vms n t h → h ∈ s'.vms.table .host
  unmapped : ∀ {n t h}, Holds s q n t → IsHostOf conf s.vms n t h →
    Unmapped s.vms h.id → Unmapped s'.vms h.id
  attached : ∀ {v h}, Attached Same s q v h → Attached Same s' q v h
  volumes : s'.vms.table .volume = s.vms.table .volume

end Knowledge

variable {P : Type} {conf : AttachConf} {Same : String → Volume → Prop}
  {s s' : AttachState P} {p q : P}

variable {n t : String} {h host : Host}

/-- The host of a lock that is held stays the host. -/
theorem Rely.isHostOf (hr : Rely conf Same s s' q) (hh : Holds s q n t)
    (hi : IsHostOf conf s.vms n t h) : IsHostOf conf s'.vms n t h :=
  ⟨hr.host hh hi, hi.name, hi.tenant⟩

/-- Knowledge is stable. -/
theorem Good.rely (hr : Rely conf Same s s' q) {pc : AttachPc} (h : Good conf Same s q pc) :
    Good conf Same s' q pc := by
  cases pc with
  | idle => trivial
  | publish req pc =>
    cases pc with
    | lock => trivial
    | findHost => exact hr.holds h
    | getSubsystem => exact hr.holds h
    | createHost => exact hr.holds h
    | refindHost e => exact hr.holds h
    | listMappings host => exact ⟨hr.holds h.1, hr.isHostOf h.1 h.2⟩
    | map host => exact ⟨hr.holds h.1, hr.isHostOf h.1 h.2⟩
    | discover host => exact hr.attached h
    | returned host server => exact hr.attached h
    | raised e => trivial
  | unpublish req pc =>
    cases pc with
    | findVolume => trivial
    | findMapping v => exact ⟨hr.volumes ▸ h.1, h.2⟩
    | unmap v m => exact ⟨⟨hr.volumes ▸ h.1.1, h.1.2⟩, h.2⟩
    | lock v => trivial
    | findHost v => exact hr.holds h
    | deleteHost v host =>
      obtain ⟨hh, hi, hu⟩ := h
      exact ⟨hr.holds hh, hr.isHostOf hh hi, hr.unmapped hh hi hu⟩
    | returned => trivial
    | raised e => trivial

/-- Nothing changed. -/
theorem rely_refl (s : AttachState P) (q : P) : Rely conf Same s s q where
  holds h := h
  host _ hi := hi.mem
  unmapped _ _ hu := hu
  attached h := h
  volumes := rfl

/-- Two holders of one lock are the same party. -/
theorem holder_unique (h : Holds s p n t) (h' : Holds s q n t) : p = q := by
  obtain ⟨m, hm⟩ := h
  obtain ⟨m', hm'⟩ := h'
  rw [hm] at hm'
  cases hm'
  rfl

/-- A host belongs to one node and tenant. -/
theorem isHostOf_unique {v : Cluster} {n' t' : String} (hi : IsHostOf conf v n t h)
    (hi' : IsHostOf conf v n' t' h) : n = n' ∧ t = t' := by
  have hname : conf.blockHostsPrefix ++ n = conf.blockHostsPrefix ++ n' :=
    hi.name.symm.trans hi'.name
  refine ⟨?_, hi.tenant.symm.trans hi'.tenant⟩
  have hlist := congrArg String.toList hname
  rw [toList_append, toList_append] at hlist
  exact toList_injective (List.append_cancel_left hlist)

/-- Different parties hold the locks of different hosts. -/
theorem host_ne_of_holders {n' t' : String} {h' : Host} (hpq : q ≠ p) (hp : Holds s p n t)
    (hi : IsHostOf conf s.vms n t h) (hq : Holds s q n' t') (hi' : IsHostOf conf s.vms n' t' h') :
    h'.id ≠ h.id := by
  intro he
  have hsame : h' = h := Table.eq_of_key hi'.mem hi.mem he
  subst hsame
  obtain ⟨rfl, rfl⟩ := isHostOf_unique hi hi'
  exact hpq (holder_unique hq hp)

/-- What one may rely on through two changes. -/
theorem rely_trans {s₁ s₂ s₃ : AttachState P} (h : Rely conf Same s₁ s₂ q)
    (h' : Rely conf Same s₂ s₃ q) : Rely conf Same s₁ s₃ q where
  holds hh := h'.holds (h.holds hh)
  host hh hi := h'.host (h.holds hh) (h.isHostOf hh hi)
  unmapped hh hi hu := h'.unmapped (h.holds hh) (h.isHostOf hh hi) (h.unmapped hh hi hu)
  attached ha := h'.attached (h.attached ha)
  volumes := h'.volumes.trans h.volumes

/-- A change of the cluster that keeps hosts with their mappings. -/
theorem rely_vms {v' : Cluster}
    (hhost : ∀ {n t h}, Holds s q n t → IsHostOf conf s.vms n t h → h ∈ v'.table .host)
    (hbare : ∀ {n t h}, Holds s q n t → IsHostOf conf s.vms n t h →
      Unmapped s.vms h.id → Unmapped v' h.id)
    (hkeep : ∀ h ∈ s.vms.table .host, ∀ m ∈ s.vms.table .mapping, m.hostId = h.id →
      h ∈ v'.table .host ∧ m ∈ v'.table .mapping)
    (hvol : v'.table .volume = s.vms.table .volume) :
    Rely conf Same s { s with vms := v' } q where
  holds h := h
  host := hhost
  unmapped := hbare
  attached := by
    intro v h ha
    rcases ha with ⟨hmem, m, hm, hpair⟩ | ⟨vol, hv, hrest⟩
    · obtain ⟨hmem', hm'⟩ := hkeep h hmem m hm hpair.2
      exact .inl ⟨hmem', m, hm', hpair⟩
    · exact .inr ⟨vol, hvol ▸ hv, hrest⟩
  volumes := hvol

/-- A new host. -/
theorem rely_insertHost : Rely conf Same s { s with vms := s.vms.insert .host host } q := by
  have hmaps : (s.vms.insert .host host).table .mapping = s.vms.table .mapping :=
    insert_table_ne (by decide)
  refine rely_vms ?_ ?_ ?_ (insert_table_ne (by decide))
  · intro n t h _ hi
    exact mem_insert_of_mem hi.mem
  · intro n t h _ _ hu m hm
    exact hu m (hmaps ▸ hm)
  · intro h hh m hm _
    exact ⟨mem_insert_of_mem hh, hmaps ▸ hm⟩

/-- A new mapping to a host under the mapper's lock. -/
theorem rely_insertMapping {row : Mapping} (hq : q ≠ p) (hh : Holds s p n t)
    (hi : IsHostOf conf s.vms n t host) (hrow : row.hostId = host.id) :
    Rely conf Same s { s with vms := s.vms.insert .mapping row } q := by
  have hhosts : (s.vms.insert .mapping row).table .host = s.vms.table .host :=
    insert_table_ne (by decide)
  refine rely_vms ?_ ?_ ?_ (insert_table_ne (by decide))
  · intro n' t' h' _ hi'
    exact hhosts ▸ hi'.mem
  · intro n' t' h' hh' hi' hu m hm
    have hne := host_ne_of_holders hq hh hi hh' hi'
    rcases mem_insert_cases hm with hm | hm
    · exact hu m hm
    · rw [hm, hrow]
      exact hne.symm
  · intro h hmem m hm _
    exact ⟨hhosts ▸ hmem, mem_insert_of_mem hm⟩

/-- A prune: the host is under the pruner's lock and has no mapping. -/
theorem rely_eraseHost (hq : q ≠ p) (hh : Holds s p n t) (hi : IsHostOf conf s.vms n t host)
    (hu : Unmapped s.vms host.id) :
    Rely conf Same s { s with vms := s.vms.erase .host host.id } q := by
  have hmaps : (s.vms.erase .host host.id).table .mapping = s.vms.table .mapping :=
    erase_table_ne (by decide)
  refine rely_vms ?_ ?_ ?_ (erase_table_ne (by decide))
  · intro n' t' h' hh' hi'
    exact mem_erase_table.mpr ⟨hi'.mem, host_ne_of_holders hq hh hi hh' hi'⟩
  · intro n' t' h' _ _ hu' m hm
    exact hu' m (hmaps ▸ hm)
  · intro h hmem m hm hhost
    have hne : h.id ≠ host.id := hhost ▸ hu m hm
    exact ⟨mem_erase_table.mpr ⟨hmem, hne⟩, hmaps ▸ hm⟩

/-- An unmap: a mapping is there, or this Unpublish took it. -/
theorem rely_unmapped {v : Volume} {hostId : Nat} {id : String}
    (hv : v ∈ s.vms.table .volume) (hsame : Same id v) :
    Rely conf Same s (s.unmapped v.id hostId id) q := by
  have hother : ∀ k, k ≠ .mapping → (dropPair s.vms v.id hostId).table k = s.vms.table k :=
    fun k hk => dropRows_table_ne hk
  have hhosts := hother .host (by decide)
  have hvols := hother .volume (by decide)
  refine ⟨fun h => h, fun _ hi => hhosts ▸ hi.mem, ?_, ?_, hvols⟩
  · intro n t h _ _ hu m hm
    exact hu m (mem_dropRows.mp hm).1
  · intro vol h ha
    by_cases hpair : vol = v.id ∧ h.id = hostId
    · obtain ⟨rfl, rfl⟩ := hpair
      exact .inr ⟨v, hvols ▸ hv, rfl, id, if_pos ⟨rfl, rfl⟩, hsame⟩
    · rcases ha with ⟨hmem, m, hm, hvol, hhost⟩ | ⟨w, hw, hid, id', htaken, hsame'⟩
      · refine .inl ⟨hhosts ▸ hmem, m, mem_dropRows.mpr ⟨hm, ?_⟩, hvol, hhost⟩
        rw [hvol, hhost]
        simpa using hpair
      · exact .inr ⟨w, hvols ▸ hw, hid, id', (if_neg hpair).trans htaken, hsame'⟩

/-- Taking a free lock. -/
theorem rely_lock {key message : String} (hfree : s.locks key = none) :
    Rely conf Same s { s with locks := update s.locks key (some (p, message)) } q where
  holds := by
    rintro n t ⟨m, hm⟩
    have hne : lockKey n t ≠ key := by
      intro he
      rw [he, hfree] at hm
      cases hm
    exact ⟨m, (update_of_ne hne ..).trans hm⟩
  host _ hi := hi.mem
  unmapped _ _ hu := hu
  attached h := h
  volumes := rfl

section Locks

variable [DecidableEq P]

/-- Releasing one's locks. -/
theorem rely_exit (hq : q ≠ p) : Rely conf Same s { s with
        locks := fun key =>
          match s.locks key with
          | some (r, message) => if r = p then none else some (r, message)
          | none => none } q where
  holds := by
    rintro n t ⟨m, hm⟩
    refine ⟨m, ?_⟩
    dsimp only
    rw [hm]
    exact if_neg hq
  host _ hi := hi.mem
  unmapped _ _ hu := hu
  attached h := h
  volumes := rfl

/-- Another party confirms its mapping. -/
theorem rely_confirm (hq : q ≠ p) : Rely conf Same s (s.confirm p) q where
  holds h := h
  host _ hi := hi.mem
  unmapped _ _ hu := hu
  attached := by
    intro v h ha
    unfold Attached AttachState.confirm
    dsimp only
    rw [update_of_ne hq]
    exact ha
  volumes := rfl

end Locks

end VastCsi.Csi
