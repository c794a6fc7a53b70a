import VastCsi.Ext.Admission

/-!
# What is asked for to find the peers

`BuildPeerNamesBySC` asks a cluster for the peers that the topology names, and for all of them
where an entry leaves its peer open. An entry compares the answers of two clusters, each of which
was asked for the sake of all entries at it.

The narrowed answer is the full one where a peer is open (`peerNames_of_open`), and has an explicit
peer exactly if the full one has (`mem_peerNames_iff`). So every entry resolves alike
(`resolvePeerName_iff`), and the list by induction.
-/

namespace VastCsi.Ext.Admission

open Specs List Bool

section Peers

variable (env : Env)

/-- The names that `ResolvePeerName` is to find from the full lists. -/
def resolveFull (topology : List TopologyEntry) : Except String (List TopologyEntry) :=
  -- a topology without entries narrows nothing
  resolvePeerNames env [] 0 topology

variable {env} {topology : List TopologyEntry} {t t' : TopologyEntry} {scName p : String}

theorem mem_explicitPeerNames (ht : t ∈ topology) (hne : t.peerName ≠ "")
    (hend : t.source = scName ∨ t.destination = scName) :
    t.peerName ∈ explicitPeerNamesForSC topology scName := by
  rw [explicitPeerNamesForSC, mem_insertionSort, mem_dedup, mem_map]
  refine ⟨t, mem_filter.mpr ⟨ht, ?_⟩, rfl⟩
  simp only [and_eq_true, bne_iff_ne, or_eq_true, beq_iff_eq]
  exact ⟨hne, hend⟩

/-- A cluster at an entry without a peer is asked for all its peers. -/
theorem peerNames_of_open (ht : t ∈ topology) (hopen : t.peerName = "")
    (hend : t.source = scName ∨ t.destination = scName) :
    peerNames env topology scName = env.peers scName := by
  have hneeds : storageClassNeedsPeerDiscovery topology scName = true := by
    refine any_eq_true.mpr ⟨t, ht, ?_⟩
    simp only [and_eq_true, or_eq_true, beq_iff_eq]
    exact ⟨hopen, hend⟩
  rw [peerNames, if_pos hneeds]

/-- The peer of an entry is in the answers of its clusters if it exists there. -/
theorem mem_peerNames_iff (ht : t ∈ topology) (hne : t.peerName ≠ "")
    (hend : t.source = scName ∨ t.destination = scName) :
    t.peerName ∈ peerNames env topology scName ↔ t.peerName ∈ env.peers scName := by
  unfold peerNames
  split
  next => rfl
  split
  next => rw [mem_filter, contains_iff_mem, and_iff_left (mem_explicitPeerNames ht hne hend)]
  next => rfl

theorem mem_sharedPeers : p ∈ sharedPeers env topology t ↔
      p ∈ peerNames env topology t.source ∧ p ∈ peerNames env topology t.destination := by
  rw [sharedPeers, mem_insertionSort, mem_filter, mem_dedup, contains_iff_mem]

/-- `ResolvePeerName` of an entry, from either lists. -/
theorem resolvePeerName_iff (ht : t ∈ topology) :
    resolvePeerName env topology t = .ok t' ↔ resolvePeerName env [] t = .ok t' := by
  by_cases hopen : t.peerName = ""
  · have hshared : sharedPeers env topology t = sharedPeers env [] t := by
      rw [sharedPeers, peerNames_of_open ht hopen (.inl rfl), peerNames_of_open ht hopen (.inr rfl)]
      rfl
    rw [resolvePeerName, resolvePeerName, hshared]
  · have hshared : t.peerName ∈ sharedPeers env topology t ↔ t.peerName ∈ sharedPeers env [] t := by
      rw [mem_sharedPeers, mem_sharedPeers, mem_peerNames_iff ht hopen (.inl rfl),
        mem_peerNames_iff ht hopen (.inr rfl)]
      rfl
    rw [resolvePeerName, resolvePeerName, if_pos hopen, if_pos hopen]
    by_cases hmem : t.peerName ∈ sharedPeers env [] t
    · rw [if_pos hmem, if_pos (hshared.mpr hmem)]
    · rw [if_neg hmem, if_neg fun h => hmem (hshared.mp h)]
      simp only [reduceCtorEq]

/-- The entry with a peer filled in; one that names its peer stays as it is. -/
def Filled (t t' : TopologyEntry) : Prop :=
  t' = { t with peerName := t'.peerName } ∧ (t.peerName ≠ "" → t' = t)

theorem filled_of_resolved (h : resolvePeerName env [] t = .ok t') :
    Filled t t' ∧ t'.peerName ∈ env.peers t'.source ∧ t'.peerName ∈ env.peers t'.destination := by
  have hboth : ∀ {p}, p ∈ sharedPeers env [] t → p ∈ env.peers t.source ∧
      p ∈ env.peers t.destination := fun hp => mem_sharedPeers.mp hp
  unfold resolvePeerName at h
  split at h
  next =>
    split at h
    next hmem =>
      cases h
      exact ⟨⟨rfl, fun _ => rfl⟩, hboth hmem⟩
    next => cases h
  next hopen =>
    split at h
    next => cases h
    next p hp =>
      cases h
      exact ⟨⟨rfl, fun hne => absurd hne hopen⟩, hboth (hp ▸ mem_singleton_self p)⟩
    next => cases h

theorem resolvePeerNames_cons {peers : List TopologyEntry} {i : Nat} {ts rs : List TopologyEntry} :
    resolvePeerNames env peers i (t :: ts) = .ok rs ↔
      ∃ t' ts', resolvePeerName env peers t = .ok t' ∧
        resolvePeerNames env peers (i + 1) ts = .ok ts' ∧ rs = t' :: ts' := by
  rw [resolvePeerNames]
  cases resolvePeerName env peers t with
  | error e => simp
  | ok t' =>
    cases resolvePeerNames env peers (i + 1) ts with
    | error e => simp [Except.map]
    | ok ts' => simp [Except.map, eq_comm]

theorem resolvePeerNames_iff : ∀ {ts rs : List TopologyEntry} {i : Nat}, (∀ t ∈ ts, t ∈ topology) →
      (resolvePeerNames env topology i ts = .ok rs ↔ resolvePeerNames env [] i ts = .ok rs)
  | [], _, _, _ => Iff.rfl
  | t :: ts, rs, i, hts => by
    have hrest : ∀ ts', resolvePeerNames env topology (i + 1) ts = .ok ts' ↔
        resolvePeerNames env [] (i + 1) ts = .ok ts' :=
      fun ts' => resolvePeerNames_iff fun t ht => hts t (mem_cons_of_mem _ ht)
    simp only [resolvePeerNames_cons, resolvePeerName_iff (hts t mem_cons_self), hrest]

theorem filled_of_full :
    ∀ {ts rs : List TopologyEntry} {i : Nat}, resolvePeerNames env [] i ts = .ok rs →
      Forall₂ Filled ts rs ∧
        ∀ t ∈ rs, t.peerName ∈ env.peers t.source ∧ t.peerName ∈ env.peers t.destination
  | [], _, _, h => by
    cases h
    exact ⟨.nil, nofun⟩
  | t :: ts, rs, i, h => by
    obtain ⟨t', ts', hfirst, hrest, rfl⟩ := resolvePeerNames_cons.mp h
    obtain ⟨hfilled, hshared⟩ := filled_of_resolved hfirst
    obtain ⟨hfilled', hshared'⟩ := filled_of_full hrest
    exact ⟨.cons hfilled hfilled', forall_mem_cons.mpr ⟨hshared, hshared'⟩⟩

end Peers

/-- **Peers from narrowed answers**: they are found exactly when they are from all the peers, and
the same; the entries are those of the topology with the peers they leave open filled in, and each
peer exists on both clusters of its entry. -/
theorem narrowed_iff_full (env : Env) (topology : List TopologyEntry) :
    (∀ resolved, resolvePeerNames env topology 0 topology = .ok resolved ↔
      resolveFull env topology = .ok resolved) ∧
    ∀ resolved, resolvePeerNames env topology 0 topology = .ok resolved →
      Forall₂ Filled topology resolved ∧
        ∀ t ∈ resolved, t.peerName ∈ env.peers t.source ∧ t.peerName ∈ env.peers t.destination := by
  have hsame : ∀ resolved, resolvePeerNames env topology 0 topology = .ok resolved ↔
      resolveFull env topology = .ok resolved :=
    fun resolved => resolvePeerNames_iff fun t ht => ht
  exact ⟨hsame, fun resolved h => filled_of_full ((hsame resolved).mp h)⟩

end VastCsi.Ext.Admission
