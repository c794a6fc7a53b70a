import VastCsi.Ext.Constellation
import VastCsi.Ext.SpecValidation
import VastCsi.Lib.Trace

/-!
# The streams of a complete topology

`Addable` are the links that `EnsureConstellationPpath` adds a stream for: those to a target of
the primary other than the first one. `Made` is what holds of the path after any number of
attempts: the streams are the embedded one and those of addable links, no two of a cluster with
one name. An attempt that returns has seen the name of every link it looks after in the record of
its cluster (`Shown`).
-/

namespace VastCsi.Ext.StreamMesh

open Lib CsiAddons Policies Constellation List Option
open Specs

variable {cfg : Setting} {vms : Vms} {a : Attempt cfg} {p : Ppath} {l : ReplicationLink}

/-! ## Links of a topology -/

def linkEnds (l : ReplicationLink) : Sym2 String := s(l.edge.sideA, l.edge.sideB)

theorem map_linkEnds : cfg.links.map linkEnds = (edgesOf cfg.topology).map Mesh.ends := by
  rw [Setting.links, newReplicationEdgesList, edgesOf, List.map_map, List.map_map, List.map_map]
  refine List.map_congr_left fun t _ => ?_
  show s((directed cfg.primarySC t).sideA, (directed cfg.primarySC t).sideB) =
    s(t.source, t.destination)
  rw [directed]
  split
  · exact Sym2.eq_swap
  · rfl

/-- An entry that does not end at the primary keeps its direction. -/
theorem link_of_entry {t : ReplicationTarget} (ht : t ∈ cfg.topology)
    (hdest : t.destination ≠ cfg.primarySC) :
    ∃ l ∈ cfg.links, l.edge.sideA = t.source ∧ l.edge.sideB = t.destination := by
  refine ⟨_, mem_map_of_mem (mem_map_of_mem ht), ?_⟩
  show (directed cfg.primarySC t).sideA = _ ∧ (directed cfg.primarySC t).sideB = _
  rw [directed, if_neg hdest]
  exact ⟨rfl, rfl⟩

theorem entry_of_link (hl : l ∈ cfg.links) (hside : l.edge.sideA ≠ cfg.primarySC) :
    ∃ t ∈ cfg.topology, t.source = l.edge.sideA ∧ t.destination = l.edge.sideB := by
  obtain ⟨e, he, rfl⟩ := List.mem_map.mp hl
  obtain ⟨t, ht, rfl⟩ := List.mem_map.mp he
  refine ⟨t, ht, ?_⟩
  simp only [directed] at hside ⊢
  split at hside
  next hdest => exact absurd hdest hside
  next hdest =>
    rw [if_neg hdest]
    exact ⟨rfl, rfl⟩

section Topology

variable (hs : Mesh.Simple (edgesOf cfg.topology))

include hs

theorem nodup_linkEnds : (cfg.links.map linkEnds).Nodup := map_linkEnds ▸ hs.nodup

/-- The ends tell the links apart. -/
theorem eq_of_linkEnds {l l' : ReplicationLink} (hl : l ∈ cfg.links) (hl' : l' ∈ cfg.links)
    (h : linkEnds l = linkEnds l') : l = l' :=
  inj_on_of_nodup_map (nodup_linkEnds hs) hl hl' h

theorem sides_ne (hl : l ∈ cfg.links) : l.edge.sideA ≠ l.edge.sideB := by
  have hends : linkEnds l ∈ (edgesOf cfg.topology).map Mesh.ends := map_linkEnds ▸ mem_map_of_mem hl
  obtain ⟨e, he, heq⟩ := List.mem_map.mp hends
  intro hsame
  have hdiag : (Mesh.ends e).IsDiag := by
    rw [heq]
    exact hsame
  exact hs.loopless e he hdiag

/-- The primary is on side A of its links. -/
theorem sideB_ne_primary (hl : l ∈ cfg.links) : l.edge.sideB ≠ cfg.primarySC := by
  have hne := sides_ne hs hl
  obtain ⟨e, he, rfl⟩ := List.mem_map.mp hl
  obtain ⟨t, -, rfl⟩ := List.mem_map.mp he
  intro hprim
  simp only [directed] at hne hprim
  split at hprim
  next hd =>
    rw [if_pos hd, hd] at hne
    exact hne hprim.symm
  next hd => exact hd hprim

end Topology

theorem mem_pairs {sc : String} : l ∈ cfg.pairs sc ↔ l ∈ cfg.links ∧ l.edge.sideA = sc := by
  rw [Setting.pairs, List.mem_filter, decide_eq_true_iff]

theorem mem_keys (hl : l ∈ cfg.links) : l.edge.sideA ∈ cfg.keys := mem_dedup.mpr (mem_map_of_mem hl)

/-! ## What the streams are -/

def Addable (cfg : Setting) (l : ReplicationLink) : Prop :=
  l ∈ cfg.links ∧ ∃ k ∈ (cfg.pairs cfg.primarySC).tail, k.edge.sideB = l.edge.sideB

/-- The stream of a link: standby unless it is the primary's. -/
def linkStream (cfg : Setting) (l : ReplicationLink) : Stream :=
  cfg.streamOf l (decide (l.edge.sideA ≠ cfg.primarySC))

structure Made (cfg : Setting) (vms : Vms) (p : Ppath) : Prop where
  first : p.present = true → ∀ l ∈ (cfg.pairs cfg.primarySC).head?, embedded vms l ∈ p.streams
  streams : ∀ st ∈ p.streams, (∃ l ∈ (cfg.pairs cfg.primarySC).head?, st = embedded vms l) ∨
      ∃ l, Addable cfg l ∧ st = linkStream cfg l ∧ st.name ∉ vms.shown st.cluster
  apart : (p.streams.map fun st => (st.cluster, st.name)).Nodup

theorem made_empty : Made cfg vms {} where
  first h := by cases h
  streams _ h := absurd h not_mem_nil
  apart := nodup_nil

theorem made_created {first : ReplicationLink} (h : (cfg.pairs cfg.primarySC).head? = some first) :
    Made cfg vms ⟨true, [embedded vms first]⟩ where
  first _ l hl := by
    rw [h, mem_some_iff] at hl
    rw [hl]
    exact mem_cons_self
  streams st hst := by
    rw [mem_singleton] at hst
    exact .inl ⟨first, h, hst⟩
  apart := nodup_singleton _

theorem mem_recordNames {sc : String} {name : List UInt8} : name ∈ recordNames vms p sc ↔
      name ∈ vms.shown sc ∨ ∃ st ∈ p.streams, st.cluster = sc ∧ st.name = name := by
  simp only [recordNames, List.mem_append, List.mem_map, List.mem_filter, decide_eq_true_eq,
    and_assoc]

/-- An assertion that survives a new stream of an addable link. -/
def Grows (cfg : Setting) (vms : Vms) (I : Ppath → Prop) : Prop :=
  ∀ p l, p.present = true → Addable cfg l →
    cfg.streamName l ∉ recordNames vms p l.edge.sideA → I p → I (p.add (linkStream cfg l))

/-- The same for one link. -/
def GrowsAt (cfg : Setting) (vms : Vms) (I : Ppath → Prop) (l : ReplicationLink) : Prop :=
  ∀ p, p.present = true → cfg.streamName l ∉ recordNames vms p l.edge.sideA → I p →
    I (p.add (linkStream cfg l))

theorem made_grows : Grows cfg vms (Made cfg vms) := by
  intro p l hp hl hnew h
  rw [mem_recordNames, not_or] at hnew
  refine ⟨fun _ k hk => ?_, ?_, ?_⟩
  · exact mem_cons_of_mem _ (h.first hp k hk)
  · refine forall_mem_cons.mpr ⟨.inr ⟨l, hl, rfl, hnew.1⟩, h.streams⟩
  · show (((linkStream cfg l).cluster, (linkStream cfg l).name) :: _).Nodup
    refine nodup_cons.mpr ⟨fun hmem => ?_, h.apart⟩
    obtain ⟨st, hst, heq⟩ := List.mem_map.mp hmem
    obtain ⟨hcluster, hname⟩ := Prod.mk.injEq .. ▸ heq
    exact hnew.2 ⟨st, hst, hcluster, hname⟩

/-- The names of these links are in the records of their clusters. -/
def Shown (cfg : Setting) (vms : Vms) (S : ReplicationLink → Prop) (p : Ppath) : Prop :=
  ∀ l, S l → cfg.streamName l ∈ recordNames vms p l.edge.sideA

theorem recordNames_add {st : Stream} {sc : String} {name : List UInt8}
    (h : name ∈ recordNames vms p sc) :
    name ∈ recordNames vms (p.add st) sc := by
  rw [mem_recordNames] at h ⊢
  exact h.imp_right fun ⟨st', hst', h'⟩ => ⟨st', mem_cons_of_mem _ hst', h'⟩

theorem GrowsAt.shown {I : Ppath → Prop} (h : GrowsAt cfg vms I l) (S : ReplicationLink → Prop) :
    GrowsAt cfg vms (fun p => I p ∧ Shown cfg vms S p) l :=
  fun p hp hnew hI => ⟨h p hp hnew hI.1, fun k hk => recordNames_add (hI.2 k hk)⟩

/-- What has been shown stays. -/
theorem Grows.shown {I : Ppath → Prop} (h : Grows cfg vms I) (S : ReplicationLink → Prop) :
    Grows cfg vms fun p => I p ∧ Shown cfg vms S p :=
  fun p l hp hl => GrowsAt.shown (fun p hp hnew => h p l hp hl hnew) S p hp

section Attempts

variable {I : Ppath → Prop} {fates : Fates} {sc context target : String}

theorem meets_getPpathRecord : Meets (fun w => I w.own) (getPpathRecord vms fates sc context)
      (fun names w => I w.own ∧ w.own.present = true ∧ names = recordNames vms w.own sc)
      (fun _ w => I w.own) := by
  refine meets_withContext (meets_api (fun _ hw => hw) (fun _ hw => hw) (fun _ _ hw => hw.1) ?_)
  intro w hw
  dsimp only
  cases hp : w.own.present with
  | true => exact ⟨hw, hp, rfl⟩
  | false => exact hw

theorem keeps_getPpathRecord : Keeps (fun w => I w.own) (getPpathRecord vms fates sc context) :=
  meets_getPpathRecord.post (fun _ _ hw => hw.1)

theorem keeps_waitForStreamState {name : List UInt8} :
    Keeps (fun w => I w.own) (waitForStreamState vms fates sc name context) := by
  refine meets_withContext (keeps_api (fun _ hw => hw) ?_)
  intro w hw
  dsimp only
  by_cases hshown : (w.own.present && (recordNames vms w.own sc).contains name) = true
  · rw [if_pos hshown]
    exact hw
  · rw [if_neg hshown]
    exact hw

/-- After it the name is shown, whether the stream had to be added or not. -/
theorem meets_addIfMissing (hI : GrowsAt cfg vms I l) {names : List (List UInt8)} :
    Meets (fun w => I w.own ∧ w.own.present = true ∧ names = recordNames vms w.own l.edge.sideA)
      (addIfMissing (addReplicationStream a.fates) (linkStream cfg l) names)
      (fun _ w => I w.own ∧ Shown cfg vms (· = l) w.own) (fun _ w => I w.own) := by
  unfold addIfMissing
  split
  next hin =>
    refine .pure fun w hw => ⟨hw.1, ?_⟩
    rintro _ rfl
    rw [← hw.2.2]
    exact contains_iff_mem.mp hin
  next hout =>
    refine meets_withContext (meets_api (fun _ hw => hw) (fun _ hw => hw.1) (fun _ _ hw => hw.1) ?_)
    intro w hw
    have hnew : cfg.streamName l ∉ recordNames vms w.own l.edge.sideA := by
      rw [← hw.2.2]
      exact fun hmem => hout (contains_iff_mem.mpr hmem)
    refine ⟨hI w.own hw.2.1 hnew hw.1, ?_⟩
    rintro _ rfl
    exact mem_recordNames.mpr (.inr ⟨_, mem_cons_self, rfl, rfl⟩)

/-- The record is read and the stream of a link is added. -/
theorem meets_ensureStream (hI : GrowsAt cfg vms I l) : Meets (fun w => I w.own) (do
        let names ← getPpathRecord vms a.fates l.edge.sideA context
        addIfMissing (addReplicationStream a.fates) (linkStream cfg l) names)
      (fun _ w => I w.own ∧ Shown cfg vms (· = l) w.own) (fun _ w => I w.own) :=
  .bind meets_getPpathRecord fun _ => meets_addIfMissing hI

theorem linkStream_standby (hl : l ∈ cfg.pairs sc) (hsc : sc ≠ cfg.primarySC) :
    cfg.streamOf l true = linkStream cfg l := by
  rw [linkStream, decide_eq_true ((mem_pairs.mp hl).2 ▸ hsc)]

/-- The links a target is given standby streams for on a cluster. -/
def Standby (cfg : Setting) (target sc : String) (l : ReplicationLink) : Prop :=
  l ∈ cfg.pairs sc ∧ sc ≠ cfg.primarySC ∧ l.edge.sideB = target

/-- An assertion that survives the new standby streams to a target. -/
def GrowsTo (cfg : Setting) (vms : Vms) (target : String) (I : Ppath → Prop) : Prop :=
  ∀ sc l, Standby cfg target sc l → GrowsAt cfg vms I l

theorem Grows.to (hI : Grows cfg vms I)
    (ht : ∃ k ∈ (cfg.pairs cfg.primarySC).tail, k.edge.sideB = target) :
    GrowsTo cfg vms target I :=
  fun _ l hl p hp => hI p l hp ⟨(mem_pairs.mp hl.1).1, hl.2.2 ▸ ht⟩

theorem meets_addStandby (hI : GrowsTo cfg vms target I) (hl : l ∈ cfg.pairs sc)
    (hsc : sc ≠ cfg.primarySC) :
    Meets (fun w => I w.own) (addStandby cfg vms a (addReplicationStream a.fates) target l)
      (fun _ w => I w.own ∧ Shown cfg vms (fun k => k = l ∧ l.edge.sideB = target) w.own)
      (fun _ w => I w.own) := by
  unfold addStandby
  split
  next hne => exact .pure fun _ hw => ⟨hw, fun k hk => absurd hk.2 hne⟩
  next heq =>
    rw [not_not] at heq
    rw [linkStream_standby hl hsc]
    exact (meets_ensureStream (hI sc l ⟨hl, hsc, heq⟩)).post
      (fun _ _ hw => ⟨hw.1, fun k hk => hw.2 k hk.1⟩)

theorem keeps_addStandbys (hI : GrowsTo cfg vms target I) :
    Keeps (fun w => I w.own) (addStandbys cfg vms a (addReplicationStream a.fates) target sc) := by
  unfold addStandbys
  split
  next => exact keeps_pure _
  next hsc => exact .forEach fun l hl => (meets_addStandby hI hl hsc).post (fun _ _ hw => hw.1)

theorem GrowsTo.shown (hI : GrowsTo cfg vms target I) (S : ReplicationLink → Prop) :
    GrowsTo cfg vms target fun p => I p ∧ Shown cfg vms S p :=
  fun sc l hl => (hI sc l hl).shown S

/-- All standby streams of a cluster to the target are shown. -/
theorem meets_addStandbys (hI : GrowsTo cfg vms target I) :
    Yields (fun w => I w.own) (addStandbys cfg vms a (addReplicationStream a.fates) target sc)
      (fun _ w => I w.own ∧ Shown cfg vms (Standby cfg target sc) w.own) := by
  unfold addStandbys
  split
  next hsc => exact .pure fun _ hw => ⟨hw, fun k hk => absurd hsc hk.2.1⟩
  next hsc =>
    have hown : ∀ l ∈ cfg.pairs sc, Yields (fun w => I w.own)
        (addStandby cfg vms a (addReplicationStream a.fates) target l)
        (fun _ w => I w.own ∧ Shown cfg vms (fun k => k = l ∧ l.edge.sideB = target) w.own) :=
      fun l hl => (meets_addStandby hI hl hsc).okOnly
    have hkeep : ∀ b, ∀ l ∈ cfg.pairs sc,
        Yields (fun w => I w.own ∧ Shown cfg vms (fun k => k = b ∧ b.edge.sideB = target) w.own)
        (addStandby cfg vms a (addReplicationStream a.fates) target l)
        (fun _ w => I w.own ∧ Shown cfg vms (fun k => k = b ∧ b.edge.sideB = target) w.own) :=
      fun b l hl => (meets_addStandby (hI.shown _) hl hsc).okOnly.post (fun _ _ hw => hw.1)
    exact (meets_forEach_all hown hkeep).okOnly.post
      (fun _ w hw => ⟨hw.1, fun k hk => hw.2 k hk.1 k ⟨rfl, hk.2.2⟩⟩)

/-- All of them, on all clusters. -/
theorem meets_standbyLoop (hI : GrowsTo cfg vms target I) {order : List String} :
    Yields (fun w => I w.own)
      (forEach (addStandbys cfg vms a (addReplicationStream a.fates) target) order)
      (fun _ w => I w.own ∧ ∀ sc ∈ order, Shown cfg vms (Standby cfg target sc) w.own) :=
  meets_forEach_all (B := fun sc (w : World Ppath) => Shown cfg vms (Standby cfg target sc) w.own)
    (fun _ _ => meets_addStandbys hI)
    fun _ _ _ => (keeps_addStandbys (hI.shown _)).okOnly

/-- A target of the primary other than the first. -/
theorem linkStream_primary (h : l ∈ cfg.pairs cfg.primarySC) :
    cfg.streamOf l false = linkStream cfg l := by
  rw [linkStream, decide_eq_false (not_not.mpr (mem_pairs.mp h).2)]

theorem addable_primary (h : l ∈ (cfg.pairs cfg.primarySC).tail) : Addable cfg l :=
  ⟨(mem_pairs.mp (mem_of_mem_tail h)).1, l, h, rfl⟩

/-- The standby streams are added when the primary's stream is there. -/
theorem keeps_addTarget_of (hprimary : GrowsAt cfg vms I l)
    (hstandby : GrowsTo cfg vms l.edge.sideB fun p => I p ∧ Shown cfg vms (· = l) p)
    (h : l ∈ (cfg.pairs cfg.primarySC).tail) :
    Keeps (fun w => I w.own) (addTarget cfg vms a (addReplicationStream a.fates) l) := by
  unfold addTarget
  rw [linkStream_primary (mem_of_mem_tail h)]
  refine .bind meets_getPpathRecord fun _ => .bind (meets_addIfMissing hprimary) fun _ => ?_
  have hwait : ∀ context, Meets (fun w => I w.own ∧ Shown cfg vms (· = l) w.own)
      (waitForStreamState vms a.fates l.edge.sideA (cfg.streamName l) context)
      (fun _ w => I w.own ∧ Shown cfg vms (· = l) w.own) (fun _ w => I w.own) :=
    fun _ => (keeps_waitForStreamState (I := fun p => I p ∧ Shown cfg vms (· = l) p)).raise
      fun _ _ hw => hw.1
  refine .bind (hwait _) fun _ => ?_
  refine .bind (.forEach fun _ _ => (keeps_addStandbys hstandby).raiseLeft)
    fun _ => ?_
  exact (hwait _).post fun _ _ hw => hw.1

theorem keeps_addTarget (hI : Grows cfg vms I) (h : l ∈ (cfg.pairs cfg.primarySC).tail) :
    Keeps (fun w => I w.own) (addTarget cfg vms a (addReplicationStream a.fates) l) :=
  keeps_addTarget_of (fun p hp => hI p l hp (addable_primary h)) ((hI.shown _).to ⟨l, h, rfl⟩) h

/-- The links that are looked after for an additional target of the primary. -/
def TargetLinks (cfg : Setting) (l k : ReplicationLink) : Prop :=
  k = l ∨ Standby cfg l.edge.sideB k.edge.sideA k

/-- After it every link to the target is shown: the primary's and the standby ones. -/
theorem meets_addTarget (hI : Grows cfg vms I) (h : l ∈ (cfg.pairs cfg.primarySC).tail) :
    Yields (fun w => I w.own) (addTarget cfg vms a (addReplicationStream a.fates) l)
      (fun _ w => I w.own ∧ Shown cfg vms (TargetLinks cfg l) w.own) := by
  have hprimary : Grows cfg vms fun p => I p ∧ Shown cfg vms (· = l) p := hI.shown _
  unfold addTarget
  rw [linkStream_primary (mem_of_mem_tail h)]
  refine .bind meets_getPpathRecord.okOnly fun _ => ?_
  refine .bind (meets_addIfMissing fun p hp => hI p l hp (addable_primary h)).okOnly fun _ => ?_
  refine .bind (keeps_waitForStreamState
    (I := fun p => I p ∧ Shown cfg vms (· = l) p)).okOnly fun _ => ?_
  refine .bind (meets_standbyLoop (hprimary.to ⟨l, h, rfl⟩)) fun _ => ?_
  refine (keeps_waitForStreamState (I := fun p => (I p ∧ Shown cfg vms (· = l) p) ∧
    ∀ sc ∈ a.order l.edge.sideB, Shown cfg vms (Standby cfg l.edge.sideB sc) p)).okOnly.post
      (fun _ w hw => ⟨hw.1.1, ?_⟩)
  rintro k (hk | hk)
  · exact hw.1.2 k hk
  · have hvisit := ((a.perm l.edge.sideB).mem_iff).mpr (mem_keys (mem_pairs.mp hk.1).1)
    exact hw.2 _ hvisit k hk

/-- After the loop over the targets every addable link is shown. -/
theorem meets_targetLoop (hI : Grows cfg vms I) :
    Yields (fun w => I w.own)
      (forEach (addTarget cfg vms a (addReplicationStream a.fates)) (cfg.pairs cfg.primarySC).tail)
      (fun _ w => I w.own ∧ ∀ l ∈ (cfg.pairs cfg.primarySC).tail,
        Shown cfg vms (TargetLinks cfg l) w.own) :=
  (meets_forEach_all (B := fun l (w : World Ppath) => Shown cfg vms (TargetLinks cfg l) w.own)
    (fun _ hl => meets_addTarget (a := a) hI hl)
    fun _ _ hl => (keeps_addTarget (a := a) (hI.shown _) hl).okOnly).okOnly

/-- Every link to a target is among these, when the primary has one link to it. -/
theorem shown_addable (hs : Mesh.Simple (edgesOf cfg.topology))
    (h : ∀ l ∈ (cfg.pairs cfg.primarySC).tail, Shown cfg vms (TargetLinks cfg l) p) :
    Shown cfg vms (Addable cfg) p := by
  rintro k ⟨hk, l, hl, hside⟩
  refine h l hl k ?_
  by_cases hkp : k.edge.sideA = cfg.primarySC
  · obtain ⟨hlink, hprimary⟩ := mem_pairs.mp (mem_of_mem_tail hl)
    refine .inl (eq_of_linkEnds hs hk hlink ?_)
    rw [linkEnds, linkEnds, hkp, hside, hprimary]
  · exact .inr ⟨mem_pairs.mpr ⟨hk, rfl⟩, hkp, hside.symm⟩

theorem keeps_waitForMirror : Keeps (fun w => I w.own) (waitForMirror cfg vms a sc) := by
  unfold waitForMirror
  split
  · exact keeps_pure _
  · exact .bind keeps_getPpathRecord fun _ => keeps_pure _

/-- `EnsurePpath` returns with the path there. -/
theorem meets_ensurePpath {first : ReplicationLink}
    (hcreate : ∀ p, p.present = false → I p → I ⟨true, [embedded vms first]⟩) :
    Meets (fun w => I w.own) (ensurePpath cfg vms a (createPpath vms a.fates) first)
      (fun _ w => I w.own ∧ w.own.present = true) (fun _ w => I w.own) := by
  have hcheck : Keeps (fun w : World Ppath => I w.own)
      (withContext "failed to check if protected path exists"
        (api a.fates fun w => .ok w.own.present w)) :=
    meets_withContext (keeps_api (fun _ hw => hw) fun _ hw => hw)
  have hmissing : ∀ found, Keeps (fun w => I w.own) 
      (createIfMissing cfg (createPpath vms a.fates) first found) := by
    intro found
    unfold createIfMissing
    split
    · exact keeps_pure _
    · refine .bind (keeps_assertThat _ _) fun _ => ?_
      refine meets_withContext (keeps_api (fun _ hw => hw) ?_)
      intro w hw
      dsimp only
      cases hp : w.own.present with
      | true => exact hw
      | false => exact hcreate w.own hp hw
  have hpresent : TickFree fun w : World Ppath => I w.own ∧ w.own.present = true := fun _ hw => hw
  refine .bind hcheck fun found => .bind (hmissing found) fun _ => ?_
  refine .bind (Q := fun _ w => I w.own ∧ w.own.present = true)
    (meets_getPpathRecord.post (fun _ _ hw => ⟨hw.1, hw.2.1⟩)) fun _ => ?_
  refine .bind (.assertThat (Q := fun _ w => I w.own ∧ w.own.present = true)
    (fun _ _ hw => hw) fun _ _ hw => hw.1) fun _ => ?_
  exact (keeps_callOut hpresent).raiseLeft

end Attempts

theorem keeps_ensure_of {I : Ppath → Prop}
    (hcreate : ∀ first ∈ (cfg.pairs cfg.primarySC).head?, ∀ p, p.present = false → I p →
      I ⟨true, [embedded vms first]⟩)
    (htarget : ∀ l ∈ (cfg.pairs cfg.primarySC).tail,
      Keeps (fun w => I w.own) (addTarget cfg vms a (addReplicationStream a.fates) l)) :
    Keeps (fun w => I w.own) (ensureConstellationPpath cfg vms a) := by
  unfold ensureConstellationPpath ensureWith
  cases hpairs : cfg.pairs cfg.primarySC with
  | nil => exact keeps_throw _
  | cons first rest =>
    rw [hpairs] at hcreate htarget
    refine .bind (meets_withContext ((meets_ensurePpath (hcreate first rfl)).post
      (fun _ _ hw => hw.1))) fun _ => ?_
    refine .bind (.forEach htarget) fun _ => ?_
    exact .bind (.forEach fun _ _ => keeps_waitForMirror) fun _ => keeps_pure _

/-- An attempt leaves the path as attempts make it. -/
theorem keeps_ensureConstellationPpath :
    Keeps (fun w => Made cfg vms w.own) (ensureConstellationPpath cfg vms a) :=
  keeps_ensure_of (fun _ hfirst _ _ _ => made_created hfirst)
    fun _ hl => keeps_addTarget made_grows hl

/-- One that returns leaves it with the names of the links shown that it looks after. -/
theorem meets_ensureConstellationPpath :
    Yields (fun w => Made cfg vms w.own) (ensureConstellationPpath cfg vms a)
      (fun _ w => (Made cfg vms w.own ∧ w.own.present = true) ∧
        (∀ l ∈ (cfg.pairs cfg.primarySC).tail, Shown cfg vms (TargetLinks cfg l) w.own) ∧
        cfg.pairs cfg.primarySC ≠ []) := by
  unfold ensureConstellationPpath ensureWith
  cases hpairs : cfg.pairs cfg.primarySC with
  | nil => exact .throw fun _ _ => trivial
  | cons first rest =>
    have hfirst : (cfg.pairs cfg.primarySC).head? = some first := by rw [hpairs]; rfl
    have hrest : rest = (cfg.pairs cfg.primarySC).tail := by rw [hpairs]; rfl
    have hgrows : Grows cfg vms fun p => Made cfg vms p ∧ p.present = true :=
      fun p l hp hl hnew h => ⟨made_grows p l hp hl hnew h.1, h.2⟩
    refine .bind (meets_withContext (meets_ensurePpath fun _ _ _ =>
      made_created hfirst)).okOnly fun _ => ?_
    rw [hrest]
    refine .bind (meets_targetLoop hgrows) fun _ => ?_
    refine .bind (.forEach fun _ _ => (keeps_waitForMirror (I := fun p =>
      (Made cfg vms p ∧ p.present = true) ∧ ∀ l ∈ (cfg.pairs cfg.primarySC).tail,
        Shown cfg vms (TargetLinks cfg l) p)).okOnly) fun _ => ?_
    exact .pure fun _ hw => ⟨hw.1, hw.2, cons_ne_nil _ _⟩

/-! ## All pairs -/

/-- Every two clusters have a stream: a primary one on the primary's cluster if that is one of
them, and a standby one otherwise. -/
def Meshed (cfg : Setting) (p : Ppath) : Prop :=
  ∀ x ∈ Mesh.vertices (edgesOf cfg.topology), ∀ y ∈ Mesh.vertices (edgesOf cfg.topology), x ≠ y →
    ∃ st ∈ p.streams, s(st.cluster, st.remote) = s(x, y) ∧
      if x = cfg.primarySC ∨ y = cfg.primarySC then st.standby = false ∧ st.cluster = cfg.primarySC
      else st.standby = true

def HasStream (p : Ppath) (l : ReplicationLink) : Prop :=
  ∃ st ∈ p.streams, st.cluster = l.edge.sideA ∧ st.remote = l.edge.sideB

def firstTarget (cfg : Setting) : Option String :=
  (cfg.pairs cfg.primarySC).head?.map (·.edge.sideB)

/-- No entry between two other clusters is declared with the first target as its
destination. -/
def FirstTargetFree (cfg : Setting) : Prop :=
  ∀ t ∈ cfg.topology, t.source ≠ cfg.primarySC → some t.destination ≠ firstTarget cfg

/-- The links of a StorageClass that are not embedded. -/
def added (cfg : Setting) (sc : String) : List ReplicationLink :=
  if sc = cfg.primarySC then (cfg.pairs cfg.primarySC).tail else cfg.pairs sc

/-- On no cluster does the name of a link stand for another stream. -/
structure NamesApart (cfg : Setting) (vms : Vms) : Prop where
  distinct : ∀ sc ∈ cfg.keys, ((added cfg sc).map cfg.streamName).Nodup
  unshown : ∀ sc ∈ cfg.keys, ∀ l ∈ added cfg sc, cfg.streamName l ∉ vms.shown sc
  unembedded : ∀ l ∈ added cfg cfg.primarySC, cfg.streamName l ≠ vms.embeddedName

theorem mem_of_mem_head {l : ReplicationLink} (h : l ∈ (cfg.pairs cfg.primarySC).head?) :
    l ∈ cfg.links ∧ l.edge.sideA = cfg.primarySC :=
  mem_pairs.mp (mem_of_mem_head? h)

theorem vertices_of_link (hl : l ∈ cfg.links) :
    l.edge.sideA ∈ Mesh.vertices (edgesOf cfg.topology) ∧
      l.edge.sideB ∈ Mesh.vertices (edgesOf cfg.topology) := by
  have hends : linkEnds l ∈ (edgesOf cfg.topology).map Mesh.ends := map_linkEnds ▸ mem_map_of_mem hl
  obtain ⟨e, he, heq⟩ := List.mem_map.mp hends
  rw [Mesh.mem_vertices, Mesh.mem_vertices]
  rcases Sym2.eq_iff.mp heq with ⟨h₁, h₂⟩ | ⟨h₁, h₂⟩
  · exact ⟨⟨e, he, .inl h₁.symm⟩, e, he, .inr h₂.symm⟩
  · exact ⟨⟨e, he, .inr h₂.symm⟩, e, he, .inl h₁.symm⟩

/-- Every stream is one of a link. -/
theorem stream_link (hm : Made cfg vms p) {st : Stream} (hst : st ∈ p.streams) :
    ∃ l ∈ cfg.links, st.cluster = l.edge.sideA ∧ st.remote = l.edge.sideB ∧
      st.standby = decide (l.edge.sideA ≠ cfg.primarySC) := by
  rcases hm.streams st hst with ⟨l, hl, rfl⟩ | ⟨l, hl, rfl, -⟩
  · obtain ⟨hlink, hprim⟩ := mem_of_mem_head hl
    exact ⟨l, hlink, rfl, rfl, (decide_eq_false (not_not.mpr hprim)).symm⟩
  · exact ⟨l, hl.1, rfl, rfl, rfl⟩

/-- Being meshed is a matter of the links. -/
theorem meshed_iff (hs : Mesh.Simple (edgesOf cfg.topology))
    (hj : Mesh.Joined (edgesOf cfg.topology)) (hm : Made cfg vms p) :
    Meshed cfg p ↔ ∀ l ∈ cfg.links, HasStream p l := by
  constructor
  · intro h l hl
    obtain ⟨hA, hB⟩ := vertices_of_link hl
    obtain ⟨st, hst, hends, -⟩ := h _ hA _ hB (sides_ne hs hl)
    obtain ⟨k, hk, hcluster, hremote, -⟩ := stream_link hm hst
    have hkl : k = l :=
      eq_of_linkEnds hs hk hl (by rw [linkEnds, ← hcluster, ← hremote, hends]; rfl)
    exact ⟨st, hst, hkl ▸ hcluster, hkl ▸ hremote⟩
  · intro h x hx y hy hne
    have hends := hj x hx y hy hne
    rw [← map_linkEnds] at hends
    obtain ⟨l, hl, hxy⟩ := List.mem_map.mp hends
    obtain ⟨st, hst, hcluster, hremote⟩ := h l hl
    obtain ⟨k, hk, hcluster', hremote', hstandby⟩ := stream_link hm hst
    refine ⟨st, hst, by rw [hcluster, hremote]; exact hxy, ?_⟩
    rw [hstandby, ← hcluster', hcluster]
    split
    next hprim =>
      -- The primary is an end of the link, and never on side B.
      have hmem : cfg.primarySC ∈ linkEnds l := by
        rw [hxy, Sym2.mem_iff]
        exact hprim.imp Eq.symm Eq.symm
      have hside : l.edge.sideA = cfg.primarySC :=
        ((Sym2.mem_iff.mp hmem).resolve_right (sideB_ne_primary hs hl).symm).symm
      exact ⟨decide_eq_false (not_not.mpr hside), hside⟩
    next hprim =>
      refine decide_eq_true fun hside => hprim ?_
      have hmem : cfg.primarySC ∈ s(x, y) := by
        rw [← hxy, linkEnds, hside]
        exact Sym2.mem_mk_left _ _
      exact (Sym2.mem_iff.mp hmem).imp Eq.symm Eq.symm

/-- Two streams of a cluster with one name are the same. -/
theorem eq_of_name (hm : Made cfg vms p) {st st' : Stream} (hst : st ∈ p.streams)
    (hst' : st' ∈ p.streams) (hcluster : st.cluster = st'.cluster) (hname : st.name = st'.name) :
    st = st' :=
  inj_on_of_nodup_map hm.apart hst hst' (by rw [hcluster, hname])

section First

variable {first : ReplicationLink} {rest : List ReplicationLink}
  (hs : Mesh.Simple (edgesOf cfg.topology)) (hpairs : cfg.pairs cfg.primarySC = first :: rest)

include hs hpairs

theorem nodup_pairs : (first :: rest).Nodup := by
  rw [← hpairs]
  exact (List.Nodup.of_map _ (nodup_linkEnds hs)).filter _

/-- A link of the primary to the first target is the first link. -/
theorem eq_first {k : ReplicationLink} (hk : k ∈ cfg.pairs cfg.primarySC)
    (hside : k.edge.sideB = first.edge.sideB) : k = first := by
  have hfirst : first ∈ cfg.pairs cfg.primarySC := hpairs ▸ mem_cons_self
  obtain ⟨hkl, hkp⟩ := mem_pairs.mp hk
  obtain ⟨hfl, hfp⟩ := mem_pairs.mp hfirst
  refine eq_of_linkEnds hs hkl hfl ?_
  rw [linkEnds, linkEnds, hkp, hfp, hside]

/-- No link to the first target is addable. -/
theorem not_addable (hside : l.edge.sideB = first.edge.sideB) : ¬ Addable cfg l := by
  rintro ⟨-, k, hk, hkside⟩
  have hkfirst := eq_first hs hpairs (mem_of_mem_tail hk) (hkside.trans hside)
  rw [hpairs, tail_cons] at hk
  exact (nodup_cons.mp (nodup_pairs hs hpairs)).1 (hkfirst ▸ hk)

theorem mem_added {sc : String} :
    l ∈ added cfg sc ↔ l ∈ cfg.links ∧ l.edge.sideA = sc ∧ l ≠ first := by
  unfold added
  split
  next hsc =>
    rw [hpairs, tail_cons, hsc, ← and_assoc, ← mem_pairs, hpairs, mem_cons]
    constructor
    · intro hl
      exact ⟨.inr hl, fun heq => (nodup_cons.mp (nodup_pairs hs hpairs)).1 (heq ▸ hl)⟩
    · rintro ⟨hl, hne⟩
      exact hl.resolve_left hne
  next hsc =>
    rw [mem_pairs, ← and_assoc]
    refine ⟨fun hl => ⟨hl, fun heq => ?_⟩, fun hl => hl.1⟩
    have hfirst := mem_pairs.mp (hpairs ▸ mem_cons_self : first ∈ cfg.pairs cfg.primarySC)
    exact hsc (hl.2.symm.trans (heq ▸ hfirst.2))

/-- A link that has its stream is the first one, with the embedded stream, or addable, with the
stream added for it. -/
theorem stream_cases (hm : Made cfg vms p) (hl : l ∈ cfg.links) (h : HasStream p l)
    (hne : l ≠ first) :
    Addable cfg l ∧ linkStream cfg l ∈ p.streams ∧ cfg.streamName l ∉ vms.shown l.edge.sideA := by
  obtain ⟨st, hst, hcluster, hremote⟩ := h
  have hsame : ∀ {k}, k ∈ cfg.links → st.cluster = k.edge.sideA → st.remote = k.edge.sideB →
      k = l := by
    intro k hk hkc hkr
    refine eq_of_linkEnds hs hk hl ?_
    rw [linkEnds, linkEnds, ← hkc, ← hkr, hcluster, hremote]
  rcases hm.streams st hst with ⟨k, hk, rfl⟩ | ⟨k, hk, rfl, hnew⟩
  · rw [hpairs, head?_cons, mem_some_iff] at hk
    subst hk
    have hfirst := mem_pairs.mp (hpairs ▸ mem_cons_self : first ∈ cfg.pairs cfg.primarySC)
    exact absurd (hsame hfirst.1 rfl rfl).symm hne
  · obtain rfl := hsame hk.1 rfl rfl
    exact ⟨hk, hst, hnew⟩

/-- What it takes that every link has its stream. -/
theorem conditions_of_streams (hm : Made cfg vms p) (hp : p.present = true)
    (h : ∀ l ∈ cfg.links, HasStream p l) : FirstTargetFree cfg ∧ NamesApart cfg vms := by
  have hfirst := mem_pairs.mp (hpairs ▸ mem_cons_self : first ∈ cfg.pairs cfg.primarySC)
  have hembedded : embedded vms first ∈ p.streams := hm.first hp first (by rw [hpairs]; rfl)
  have hcase : ∀ {sc l}, l ∈ added cfg sc → linkStream cfg l ∈ p.streams ∧
      cfg.streamName l ∉ vms.shown l.edge.sideA := by
    intro sc l hl
    obtain ⟨hlink, -, hne⟩ := (mem_added hs hpairs).mp hl
    exact (stream_cases hs hpairs hm hlink (h l hlink) hne).2
  refine ⟨?_, ?_, ?_, ?_⟩
  · -- A link to the first target that is not the primary's would have no stream.
    intro t ht hsource hdest
    rw [firstTarget, hpairs, head?_cons, map_some, some.injEq] at hdest
    have hprim : t.destination ≠ cfg.primarySC := hdest ▸ sideB_ne_primary hs hfirst.1
    obtain ⟨l, hl, hA, hB⟩ := link_of_entry ht hprim
    have hne : l ≠ first := fun heq => hsource (hA.symm.trans (heq ▸ hfirst.2))
    exact not_addable hs hpairs (hB.trans hdest) (stream_cases hs hpairs hm hl (h l hl) hne).1
  · intro sc _
    refine List.Nodup.map_on ?_ ?_
    · intro l hl k hk hname
      obtain ⟨hlink, hside, -⟩ := (mem_added hs hpairs).mp hl
      obtain ⟨hlink', hside', -⟩ := (mem_added hs hpairs).mp hk
      have heq := eq_of_name hm (hcase hl).1 (hcase hk).1 (hside.trans hside'.symm) hname
      have hremote : l.edge.sideB = k.edge.sideB := congrArg Stream.remote heq
      refine eq_of_linkEnds hs hlink hlink' ?_
      rw [linkEnds, linkEnds, hside, hside', hremote]
    · unfold added
      have hnodup : cfg.links.Nodup := List.Nodup.of_map _ (nodup_linkEnds hs)
      split
      · exact (hnodup.filter _).tail
      · exact hnodup.filter _
  · intro sc _ l hl
    obtain ⟨-, hside, -⟩ := (mem_added hs hpairs).mp hl
    exact hside ▸ (hcase hl).2
  · intro l hl hname
    obtain ⟨hlink, hside, hne⟩ := (mem_added hs hpairs).mp hl
    have heq := eq_of_name hm (hcase hl).1 hembedded (hside.trans hfirst.2.symm) hname
    have hremote : l.edge.sideB = first.edge.sideB := congrArg Stream.remote heq
    exact hne (eq_first hs hpairs (mem_pairs.mpr ⟨hlink, hside⟩) hremote)

/-- A link other than the first is addable, if no other cluster has a link to the first target. -/
theorem addable_of_ne (hj : Mesh.Joined (edgesOf cfg.topology)) (hfree : FirstTargetFree cfg)
    (hl : l ∈ cfg.links) (hne : l ≠ first) : Addable cfg l := by
  have hfirst := mem_pairs.mp (hpairs ▸ mem_cons_self : first ∈ cfg.pairs cfg.primarySC)
  by_cases hside : l.edge.sideA = cfg.primarySC
  · have hmem : l ∈ first :: rest := hpairs ▸ mem_pairs.mpr ⟨hl, hside⟩
    refine addable_primary ?_
    rw [hpairs]
    exact (mem_cons.mp hmem).resolve_left hne
  · -- The primary has a link to the same target, because the topology is complete.
    have hends := hj cfg.primarySC (hfirst.2 ▸ (vertices_of_link hfirst.1).1) l.edge.sideB
      (vertices_of_link hl).2 (sideB_ne_primary hs hl).symm
    rw [← map_linkEnds] at hends
    obtain ⟨k, hk, hkends⟩ := List.mem_map.mp hends
    have hkside : k.edge.sideA = cfg.primarySC ∧ k.edge.sideB = l.edge.sideB := by
      rcases Sym2.eq_iff.mp hkends with h | h
      · exact h
      · exact absurd h.2 (sideB_ne_primary hs hk)
    have hkne : k ≠ first := by
      rintro rfl
      obtain ⟨t, ht, hsource, hdest⟩ := entry_of_link hl hside
      refine hfree t ht (hsource ▸ hside) ?_
      rw [firstTarget, hpairs, head?_cons, map_some, hdest, hkside.2]
    have hmem : k ∈ first :: rest := hpairs ▸ mem_pairs.mpr ⟨hk, hkside.1⟩
    refine ⟨hl, k, ?_, hkside.2⟩
    rw [hpairs]
    exact (mem_cons.mp hmem).resolve_left hkne

/-- And it is enough, once all names are shown. -/
theorem streams_of_conditions (hj : Mesh.Joined (edgesOf cfg.topology)) (hm : Made cfg vms p)
    (hp : p.present = true) (hshown : Shown cfg vms (Addable cfg) p)
    (hfree : FirstTargetFree cfg) (hnames : NamesApart cfg vms) :
    ∀ l ∈ cfg.links, HasStream p l := by
  intro l hl
  by_cases hne : l = first
  · exact ⟨embedded vms first, hm.first hp first (by rw [hpairs]; rfl), hne ▸ rfl, hne ▸ rfl⟩
  · have hadd := addable_of_ne hs hpairs hj hfree hl hne
    have hadded : l ∈ added cfg l.edge.sideA := (mem_added hs hpairs).mpr ⟨hl, rfl, hne⟩
    have hkey := mem_keys hl
    obtain ⟨st, hst, hcluster, hname⟩ := (mem_recordNames.mp (hshown l hadd)).resolve_left
      (hnames.unshown _ hkey l hadded)
    refine ⟨st, hst, hcluster, ?_⟩
    rcases hm.streams st hst with ⟨k, hk, rfl⟩ | ⟨k, hk, rfl, -⟩
    · -- The name is not that of the embedded stream.
      have hprim : l.edge.sideA = cfg.primarySC := hcluster.symm.trans (mem_of_mem_head hk).2
      exact absurd hname.symm (hnames.unembedded l (hprim ▸ hadded))
    · have hkne : k ≠ first := fun heq => not_addable hs hpairs (heq ▸ rfl) hk
      have hkadded : k ∈ added cfg l.edge.sideA := (mem_added hs hpairs).mpr ⟨hk.1, hcluster, hkne⟩
      have hkl : k = l := inj_on_of_nodup_map (hnames.distinct _ hkey) hkadded hadded hname
      rw [← hkl]
      rfl

end First

/-! ## Attempts -/

def step (cfg : Setting) (vms : Vms) (w : World Ppath) (a : Attempt cfg) : Option (World Ppath) :=
  some (endState (ensureConstellationPpath cfg vms a w))

def start : World Ppath := ⟨fun _ => none, {}, 0⟩

/-- What every attempt keeps holds after any attempts. -/
theorem runFrom_keeps {I : Ppath → Prop} (hstart : I {})
    (hkeeps : ∀ a, Keeps (fun w => I w.own) (ensureConstellationPpath cfg vms a))
    {attempts : List (Attempt cfg)} {w : World Ppath}
    (hrun : runFrom (step cfg vms) start attempts = some w) : I w.own := by
  refine runFrom_invariant (P := fun _ _ => True) (I := fun w => I w.own) ?_ attempts
    hstart (runMeets_of_forall (fun _ _ => trivial) _ _) hrun
  rintro w a w' hw - hstep
  cases hstep
  exact (hkeeps a).endState hw

/-- **The streams of a complete topology**: an attempt that returns leaves every pair of clusters
with its stream exactly when no entry between two other clusters is declared towards the first
target of the primary, and the names of the streams are apart on every cluster. -/
theorem constellation_meshed_iff (cfg : Setting) (vms : Vms)
    (hs : Mesh.Simple (edgesOf cfg.topology)) (hj : Mesh.Joined (edgesOf cfg.topology))
    (attempts : List (Attempt cfg)) (w t : World Ppath)
    (hbefore : runFrom (step cfg vms) start attempts = some w) (a : Attempt cfg) (name : String)
    (hrun : ensureConstellationPpath cfg vms a w = .ok name t) :
    Meshed cfg t.own ↔ FirstTargetFree cfg ∧ NamesApart cfg vms := by
  have hmade : Made cfg vms w.own :=
    runFrom_keeps made_empty (fun _ => keeps_ensureConstellationPpath) hbefore
  obtain ⟨⟨hm, hp⟩, hlooked, hne⟩ := meets_ensureConstellationPpath.ok hmade hrun
  have hshown := shown_addable hs hlooked
  rw [meshed_iff hs hj hm]
  cases hpairs : cfg.pairs cfg.primarySC with
  | nil => exact absurd hpairs hne
  | cons first rest =>
    constructor
    · exact conditions_of_streams hs hpairs hm hp
    · rintro ⟨hfree, hnames⟩
      exact streams_of_conditions hs hpairs hj hm hp hshown hfree hnames

/-! ### Three clusters -/

def triangle (third : ReplicationTarget) : Setting where
  topology := [⟨"a", "b", "ab"⟩, ⟨"a", "c", "ac"⟩, third]
  primarySC := "a"
  ownerName := "group"
  peerNameOf := fun sc peer => sc ++ "." ++ peer
  tenantGuid := id

/-- The streams after an attempt that returns, with where they go and what they are. -/
def streamsAfter (cfg : Setting) : Option (List (String × String × Bool)) :=
  match ensureConstellationPpath cfg ⟨goString "embedded", fun _ => []⟩ {} start with
  | .ok _ t => some (t.own.streams.map fun st => (st.cluster, st.remote, st.standby))
  | .error _ _ => none

theorem simple_triangle (third : ReplicationTarget)
    (h : third = ⟨"b", "c", "bc"⟩ ∨ third = ⟨"c", "b", "bc"⟩) :
    Mesh.Simple (edgesOf (triangle third).topology) ∧
      Mesh.Joined (edgesOf (triangle third).topology) := by
  rcases h with rfl | rfl
  · exact ⟨⟨by decide +kernel, by decide +kernel⟩, by unfold Mesh.Joined; decide +kernel⟩
  · exact ⟨⟨by decide +kernel, by decide +kernel⟩, by unfold Mesh.Joined; decide +kernel⟩

/-- Declared from the first target to the second, it gets its standby stream. -/
theorem constellation_meshed_iff_triangle :
    ∃ t, ensureConstellationPpath (triangle ⟨"b", "c", "bc"⟩) ⟨goString "embedded", fun _ => []⟩ {}
        start = .ok "group" t ∧ Meshed (triangle ⟨"b", "c", "bc"⟩) t.own := by
  obtain ⟨hs, hj⟩ := simple_triangle ⟨"b", "c", "bc"⟩ (.inl rfl)
  refine ⟨_, rfl, (constellation_meshed_iff (triangle ⟨"b", "c", "bc"⟩)
    ⟨goString "embedded", fun _ => []⟩ hs hj [] start _ rfl {} "group" rfl).mpr ⟨?_, ?_, ?_, ?_⟩⟩
  · unfold FirstTargetFree
    decide +kernel
  · decide +kernel
  · decide +kernel
  · decide +kernel

/-- Declared the other way round, it gets none, and the attempt returns. -/
theorem standby_stream_missing : Mesh.Simple (edgesOf (triangle ⟨"c", "b", "bc"⟩).topology) ∧
      Mesh.Joined (edgesOf (triangle ⟨"c", "b", "bc"⟩).topology) ∧
      streamsAfter (triangle ⟨"c", "b", "bc"⟩) = some [("a", "c", false), ("a", "b", false)] := by
  obtain ⟨hs, hj⟩ := simple_triangle ⟨"c", "b", "bc"⟩ (.inr rfl)
  exact ⟨hs, hj, by decide +kernel⟩

end VastCsi.Ext.StreamMesh
