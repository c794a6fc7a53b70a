import VastCsi.Ext.ContentLife
import Mathlib.Data.List.Nodup

/-!
# What the cleanup barrier rests on

The contents of a constellation clean up independently, and none may drop its finalizer before all
have cleaned up: a content writes an annotation when its own `CleanVolumes` is through, and polls
those of the others. A reconcile decides on a copy that it read some calls before, which is good
enough because the annotation is only written by the content's own reconcile (`Copy`) and never
taken back (`Evolves`).
-/

namespace VastCsi.Ext.ContentLife

open Lib List Function Bool

/-- No content joins a constellation that is being deleted, and no group comes
back for a content under deletion. -/
def Orderly (L : Layout) (s : State) : Act → Prop
  | .ro k _ =>
    match s.ro k with
    | .absent o => ContentMeta.constellation ⟨k.1, k.2, o, false, false⟩ ∉ s.started
    | _ => True
  | .makeGroup o scName _ => ∀ x ∈ s.contents, x.key = L.key o scName → x.deleting = false
  | _ => True

instance (L : Layout) (s : State) (a : Act) : Decidable (Orderly L s a) := by
  unfold Orderly
  split
  next => split <;> infer_instance
  next => infer_instance
  next => infer_instance

/-- Every content of a constellation has its annotation. -/
def AllDone (s : State) (C : Constellation) : Prop :=
  ∀ z ∈ s.contents, z.constellation = C → z.cleanupDone = true

/-- No content of a constellation goes before all have been cleaned up. -/
structure Barrier (s : State) : Prop where
  gone : ∀ k, s.vrc k = .cleaning → s.groups k = none
  /-- A finalizer about to be removed: its own annotation and those of all its
  peers are set. -/
  allDone : ∀ k, s.vrc k = .allDone →
    ∃ x, s.content k = some x ∧ x.cleanupDone = true ∧ AllDone s x.constellation
  /-- `CleanVolumes` runs for a content that is there, and no finalizer has been
  removed in its constellation. -/
  closed : ∀ k, s.vrc k = .cleaning → ∃ x, s.content k = some x ∧ x.constellation ∉ s.released

/-- What a copy of a content still says about the content. -/
structure Copy (x y : ContentMeta) : Prop where
  key : y.key = x.key
  owner : y.owner = x.owner
  done : y.cleanupDone = x.cleanupDone
  deleting : x.deleting = true → y.deleting = true

theorem Copy.refl (x : ContentMeta) : Copy x x := ⟨rfl, rfl, rfl, id⟩

theorem Copy.trans {x y z : ContentMeta} (h₁ : Copy x y) (h₂ : Copy y z) : Copy x z :=
  ⟨h₂.key.trans h₁.key, h₂.owner.trans h₁.owner, h₂.done.trans h₁.done,
    fun h => h₂.deleting (h₁.deleting h)⟩

theorem Copy.constellation {x y : ContentMeta} (h : Copy x y) :
    y.constellation = x.constellation := by
  unfold ContentMeta.constellation
  rw [h.key, h.owner]

/-- What the reconcile of the content `k` can rely on, by where it is. -/
def VrcAt (s : State) (k : Key) : Vrc → Prop
  | .read x => x.key = k ∧ ∃ y ∈ s.contents, Copy x y
  | .resolved x => x.key = k ∧ ∃ y ∈ s.contents, Copy x y
  | .cleaning =>
    s.groups k = none ∧ ∃ y ∈ s.contents, y.key = k ∧ y.deleting = true ∧ y.cleanupDone = false
  | .cleaned => ∃ y ∈ s.contents, y.key = k ∧ y.deleting = true
  | .peers => ∃ y ∈ s.contents, y.key = k ∧ y.deleting = true ∧ y.cleanupDone = true
  | .allDone => ∃ y ∈ s.contents, y.key = k ∧ y.deleting = true ∧ AllDone s y.constellation
  | _ => True

structure BarrierInv (s : State) : Prop where
  nodup : (s.contents.map (·.key)).Nodup
  started : ∀ x ∈ s.contents, x.deleting = true → x.constellation ∈ s.started
  vrc : ∀ k, VrcAt s k (s.vrc k)
  released : ∀ C ∈ s.released, C ∈ s.started ∧ AllDone s C

section Steps

variable {L : Layout} {s s' : State}

theorem barrierInv_init (parents : Owner → Option Bool) : BarrierInv (init parents) where
  nodup := nodup_nil
  started := fun _ h => absurd h not_mem_nil
  vrc := fun _ => trivial
  released := fun _ h => absurd h not_mem_nil

variable {x : ContentMeta} {k : Key}

/-- A key has one content. -/
theorem BarrierInv.unique (h : BarrierInv s) {y : ContentMeta} (hx : x ∈ s.contents)
    (hy : y ∈ s.contents) (hk : x.key = y.key) : x = y :=
  inj_on_of_nodup_map h.nodup hx hy hk

theorem mem_of_content (h : s.content k = some x) : x ∈ s.contents ∧ x.key = k := by
  have hk := find?_some (p := fun y : ContentMeta => y.key == k) h
  exact ⟨mem_of_find?_eq_some h, beq_iff_eq.mp hk⟩

theorem key_ne_of_content (h : s.content k = none) : ∀ x ∈ s.contents, x.key ≠ k :=
  fun x hx hk => find?_eq_none.mp h x hx (beq_iff_eq.mpr hk)

theorem BarrierInv.content_eq (h : BarrierInv s) (hx : x ∈ s.contents) (hk : x.key = k) :
    s.content k = some x := by
  cases hc : s.content k with
  | none => exact absurd hk (key_ne_of_content hc x hx)
  | some y =>
    obtain ⟨hy, hyk⟩ := mem_of_content hc
    rw [h.unique hy hx (hyk.trans hk.symm)]

/-- With the own annotation set, `allVCRsDeleted` is about all of them. -/
theorem BarrierInv.allDone (h : BarrierInv s) (hx : x ∈ s.contents) (hd : x.cleanupDone = true)
    (hp : s.peersDone x = true) : AllDone s x.constellation := by
  intro z hz hC
  have hz' := List.all_eq_true.mp hp z hz
  rw [hC, bne_self_eq_false, Bool.false_or, Bool.or_eq_true, beq_iff_eq] at hz'
  rcases hz' with hk | hdone
  · rw [h.unique hz hx hk]
    exact hd
  · exact hdone

/-- Constellations stay started, and an undone content of one that has started
was there undone. -/
structure Evolves (s s' : State) : Prop where
  started : ∀ C ∈ s.started, C ∈ s'.started
  undone : ∀ z ∈ s'.contents, z.constellation ∈ s.started → z.cleanupDone = false →
    ∃ z₀ ∈ s.contents, z₀.constellation = z.constellation ∧ z₀.cleanupDone = false

theorem AllDone.evolve (he : Evolves s s') {C : Constellation} (hC : C ∈ s.started)
    (h : AllDone s C) : AllDone s' C := by
  intro z hz hzC
  cases hd : z.cleanupDone with
  | true => rfl
  | false =>
    obtain ⟨z₀, hz₀, hC₀, hd₀⟩ := he.undone z hz (hzC ▸ hC) hd
    exact absurd (h z₀ hz₀ (hC₀.trans hzC)) (by rw [hd₀]; exact false_ne_true)

/-- The content of `k` is still there, as far as its reconcile relies on it, and
its group is no more there than before. -/
structure Follows (s s' : State) (k : Key) : Prop where
  content : ∀ y ∈ s.contents, y.key = k → ∃ y' ∈ s'.contents, Copy y y'
  group : ∀ y ∈ s.contents, y.key = k → y.deleting = true → s.groups k = none → s'.groups k = none

/-- What a reconcile relies on survives the steps of the others. -/
theorem VrcAt.evolve (h : BarrierInv s) (he : Evolves s s') (hf : Follows s s' k) {v : Vrc}
    (hv : VrcAt s k v) : VrcAt s' k v := by
  cases v with
  | idle => trivial
  | selfDestruct => trivial
  | read x =>
    obtain ⟨hk, y, hy, hc⟩ := hv
    obtain ⟨y', hy', hc'⟩ := hf.content y hy (hc.key.trans hk)
    exact ⟨hk, y', hy', hc.trans hc'⟩
  | resolved x =>
    obtain ⟨hk, y, hy, hc⟩ := hv
    obtain ⟨y', hy', hc'⟩ := hf.content y hy (hc.key.trans hk)
    exact ⟨hk, y', hy', hc.trans hc'⟩
  | cleaning =>
    obtain ⟨hg, y, hy, hk, hdel, hd⟩ := hv
    obtain ⟨y', hy', hc⟩ := hf.content y hy hk
    exact ⟨hf.group y hy hk hdel hg, y', hy', hc.key.trans hk, hc.deleting hdel, hc.done.trans hd⟩
  | cleaned =>
    obtain ⟨y, hy, hk, hdel⟩ := hv
    obtain ⟨y', hy', hc⟩ := hf.content y hy hk
    exact ⟨y', hy', hc.key.trans hk, hc.deleting hdel⟩
  | peers =>
    obtain ⟨y, hy, hk, hdel, hd⟩ := hv
    obtain ⟨y', hy', hc⟩ := hf.content y hy hk
    exact ⟨y', hy', hc.key.trans hk, hc.deleting hdel, hc.done.trans hd⟩
  | allDone =>
    obtain ⟨y, hy, hk, hdel, hall⟩ := hv
    obtain ⟨y', hy', hc⟩ := hf.content y hy hk
    refine ⟨y', hy', hc.key.trans hk, hc.deleting hdel, ?_⟩
    rw [hc.constellation]
    exact hall.evolve he (h.started y hy hdel)

/-- A step that leaves where the reconciles are alone. -/
theorem BarrierInv.evolve (h : BarrierInv s) (he : Evolves s s') (hv : s'.vrc = s.vrc)
    (hf : ∀ k, s.vrc k ≠ .idle → Follows s s' k)
    (hn : (s'.contents.map (·.key)).Nodup)
    (hst : ∀ x ∈ s'.contents, x.deleting = true → x.constellation ∈ s'.started)
    (hr : ∀ C ∈ s'.released, C ∈ s.started ∧ AllDone s C) : BarrierInv s' where
  nodup := hn
  started := hst
  vrc := by
    intro k
    rw [hv]
    by_cases hk : s.vrc k = .idle
    · rw [hk]
      trivial
    · exact (h.vrc k).evolve h he (hf k hk)
  released := by
    intro C hC
    obtain ⟨hs, hall⟩ := hr C hC
    exact ⟨he.started C hs, hall.evolve he hs⟩

/-- Nothing but parents, phases, groups, and the ReplicationObject reconciler. -/
theorem BarrierInv.congr (h : BarrierInv s) (hc : s'.contents = s.contents)
    (hv : s'.vrc = s.vrc) (hs : s'.started = s.started) (hr : s'.released = s.released)
    (hg : ∀ k, ∀ y ∈ s.contents, y.key = k → y.deleting = true → s.groups k = none →
      s'.groups k = none) : BarrierInv s' := by
  refine h.evolve ⟨fun C hC => hs ▸ hC, fun z hz _ hd => ⟨z, hc ▸ hz, rfl, hd⟩⟩ hv
    (fun k _ => ⟨fun y hy _ => ⟨y, hc ▸ hy, Copy.refl y⟩, hg k⟩) (hc ▸ h.nodup)
    (fun x hx hd => ?_) fun C hC => h.released C (hr ▸ hC)
  rw [hs]
  exact h.started x (hc ▸ hx) hd

theorem barrierInv_setRo (h : BarrierInv s) (k : Key) (r : Ro) : BarrierInv (s.setRo k r) :=
  h.congr rfl rfl rfl rfl fun _ _ _ _ _ hg => hg

theorem barrierInv_setPhase (h : BarrierInv s) (o : Owner) (p : Phase) :
    BarrierInv (s.setPhase o p) :=
  h.congr rfl rfl rfl rfl fun _ _ _ _ _ hg => hg

theorem barrierInv_setParent (h : BarrierInv s) (o : Owner) (d : Option Bool) :
    BarrierInv (s.setParent o d) :=
  h.congr rfl rfl rfl rfl fun _ _ _ _ _ hg => hg

theorem barrierInv_setGroup (h : BarrierInv s) {g : Option Group}
    (hg : ∀ y ∈ s.contents, y.key = k → y.deleting = true → s.groups k = none → g = none) :
    BarrierInv (s.setGroup k g) := by
  refine h.congr rfl rfl rfl rfl fun k' y hy hk hdel hnone => ?_
  by_cases hkk : k' = k
  · subst hkk
    rw [State.setGroup_self]
    exact hg y hy hk hdel hnone
  · rw [State.setGroup_of_ne _ hkk]
    exact hnone

theorem barrierInv_markGroup (h : BarrierInv s) (k : Key) : BarrierInv (s.markGroup k) := by
  refine barrierInv_setGroup h fun _ _ _ _ hnone => ?_
  rw [hnone]
  rfl

/-- A reconcile moves on. -/
theorem barrierInv_setVrc (h : BarrierInv s) {v : Vrc} (hv : VrcAt s k v) :
    BarrierInv (s.setVrc k v) where
  nodup := h.nodup
  started := h.started
  vrc := by
    intro k'
    have hsame : Evolves s (s.setVrc k v) := ⟨fun _ hC => hC, fun z hz _ hd => ⟨z, hz, rfl, hd⟩⟩
    have hf : Follows s (s.setVrc k v) k' :=
      ⟨fun y hy _ => ⟨y, hy, Copy.refl y⟩, fun _ _ _ _ hg => hg⟩
    show VrcAt _ k' (update s.vrc k v k')
    by_cases hk : k' = k
    · subst hk
      rw [update_self]
      exact hv.evolve h hsame hf
    · rw [update_of_ne hk]
      exact (h.vrc k').evolve h hsame hf
  released := h.released

theorem barrierInv_setVrc_idle (h : BarrierInv s) (k : Key) : BarrierInv (s.setVrc k .idle) :=
  barrierInv_setVrc h trivial

/-- `DeletionTimestamp` on a content: no annotation changes. -/
theorem barrierInv_markContent (h : BarrierInv s) (k : Key) : BarrierInv (s.markContent k) := by
  have hcopy : ∀ x : ContentMeta,
      Copy x (if x.key = k then { x with deleting := true } else x) := by
    intro x
    split
    next => exact ⟨rfl, rfl, rfl, fun _ => rfl⟩
    next => exact Copy.refl x
  refine h.evolve ⟨fun C hC => mem_append_right _ hC, fun z hz _ hd => ?_⟩ rfl
    (fun k' _ => ⟨fun y hy _ => ⟨_, mem_map_of_mem hy, hcopy y⟩, fun _ _ _ _ hg => hg⟩)
    ?_ (fun x hx hd => ?_) h.released
  · obtain ⟨z₀, hz₀, rfl⟩ := mem_map.mp hz
    exact ⟨z₀, hz₀, (hcopy z₀).constellation.symm, (hcopy z₀).done.symm.trans hd⟩
  · have hkeys : (s.markContent k).contents.map (·.key) = s.contents.map (·.key) := by
      show (s.contents.map _).map _ = _
      rw [map_map]
      exact map_congr_left fun x _ => (hcopy x).key
    rw [hkeys]
    exact h.nodup
  · obtain ⟨x₀, hx₀, rfl⟩ := mem_map.mp hx
    rw [(hcopy x₀).constellation]
    by_cases hk : x₀.key = k
    · exact mem_append_left _ (mem_map_of_mem (mem_filter.mpr ⟨hx₀, decide_eq_true hk⟩))
    · rw [if_neg hk] at hd
      exact mem_append_right _ (h.started x₀ hx₀ hd)

/-- The annotation, written by the content's own reconcile. -/
theorem barrierInv_annotate (h : BarrierInv s) (hk : s.vrc k = .idle) :
    BarrierInv (s.annotate k) := by
  have hkey : ∀ x : ContentMeta,
      (if x.key = k then { x with cleanupDone := true } else x).key = x.key := by
    intro x
    split
    next => rfl
    next => rfl
  refine h.evolve ⟨fun C hC => hC, fun z hz _ hd => ?_⟩ rfl
    (fun k' hk' => ⟨fun y hy hyk => ⟨y, ?_, Copy.refl y⟩, fun _ _ _ _ hg => hg⟩)
    ?_ (fun x hx hd => ?_) h.released
  · obtain ⟨z₀, hz₀, rfl⟩ := mem_map.mp hz
    by_cases hzk : z₀.key = k
    · rw [if_pos hzk] at hd
      exact absurd hd.symm false_ne_true
    · rw [if_neg hzk] at hd ⊢
      exact ⟨z₀, hz₀, rfl, hd⟩
  · have hne : y.key ≠ k := by
      rintro rfl
      exact hk' (hyk ▸ hk)
    exact mem_map.mpr ⟨y, hy, if_neg hne⟩
  · have hkeys : (s.annotate k).contents.map (·.key) = s.contents.map (·.key) := by
      show (s.contents.map _).map _ = _
      rw [map_map]
      exact map_congr_left fun x _ => hkey x
    rw [hkeys]
    exact h.nodup
  · obtain ⟨x₀, hx₀, rfl⟩ := mem_map.mp hx
    by_cases hxk : x₀.key = k
    · rw [if_pos hxk] at hd ⊢
      exact h.started x₀ hx₀ hd
    · rw [if_neg hxk] at hd ⊢
      exact h.started x₀ hx₀ hd

/-- The finalizer goes, once the constellation is done. -/
theorem barrierInv_release (h : BarrierInv s) (hk : s.vrc k = .idle)
    (hall : ∀ x ∈ s.contents, x.key = k → x.constellation ∈ s.started ∧ AllDone s x.constellation) :
    BarrierInv (s.release k) := by
  refine h.evolve ⟨fun C hC => hC, fun z hz _ hd => ⟨z, (mem_filter.mp hz).1, rfl, hd⟩⟩ rfl
    (fun k' hk' => ⟨fun y hy hyk => ⟨y, mem_filter.mpr ⟨hy, decide_eq_true ?_⟩, Copy.refl y⟩,
      fun _ _ _ _ hg => hg⟩)
    (h.nodup.sublist (List.Sublist.map _ filter_sublist))
    (fun x hx hd => h.started x (mem_filter.mp hx).1 hd) fun C hC => ?_
  · rintro rfl
    exact hk' (hyk ▸ hk)
  · rcases mem_append.mp hC with hC | hC
    · obtain ⟨x, hx, rfl⟩ := mem_map.mp hC
      obtain ⟨hx, hxk⟩ := mem_filter.mp hx
      exact hall x hx (of_decide_eq_true hxk)
    · exact h.released C hC

/-- A content joins a constellation that has not started. -/
theorem barrierInv_addContent (h : BarrierInv s) (hfree : ∀ y ∈ s.contents, y.key ≠ x.key)
    (hdel : x.deleting = false) (hjoin : x.constellation ∉ s.started) :
    BarrierInv (s.addContent x) := by
  refine h.evolve ⟨fun C hC => hC, fun z hz hC hd => ?_⟩ rfl
    (fun k _ => ⟨fun y hy _ => ⟨y, mem_cons_of_mem _ hy, Copy.refl y⟩,
      fun _ _ _ _ hg => hg⟩) ?_ (fun y hy hd => ?_) h.released
  · rcases mem_cons.mp hz with rfl | hz
    · exact absurd hC hjoin
    · exact ⟨z, hz, rfl, hd⟩
  · refine nodup_cons.mpr ⟨fun hmem => ?_, h.nodup⟩
    obtain ⟨y, hy, hk⟩ := mem_map.mp hmem
    exact hfree y hy hk
  · rcases mem_cons.mp hy with rfl | hy
    · rw [hdel] at hd
      exact absurd hd false_ne_true
    · exact h.started y hy hd

end Steps

end VastCsi.Ext.ContentLife
