import VastCsi.Lib.Trace
import VastCsi.Ext.RetryingWrites

/-!
# What a retried write does to other clients' fields

Every write of a call, whichever attempt it is, replays the caller's copy (`reachable_replays`).
So a field that the caller did not name can be written back to what the caller had read.

The invariant of a call is that no attempt changes what will be sent (`Inv`, kept by `step_inv`).
For one leaf `write_keeps_leaf_iff` compares what is sent with what the server has; the result is
this for every leaf that the caller did not name.
-/

namespace VastCsi.Ext.RetryingWrites

open Lib

variable {l : Leaf} {st st' : State}

/-- Another leaf than the finalizer that is added. -/
theorem leaf_addFinalizer {name : String} {c : Content} (hl : l ≠ .finalizer name) :
    (c.addFinalizer name).leaf l = c.leaf l := by
  cases l with
  | field f => rfl
  | finalizer g =>
    have hne : g ≠ name := fun he => hl (he ▸ rfl)
    simp [Content.addFinalizer, Content.leaf, hne]

/-- A leaf the caller did not name is sent as the caller read it. -/
theorem desired_leaf {h : Helper} {c : Content} (hl : ¬ h.Named l) :
    (h.desired c).leaf l = c.leaf l := by
  cases h with
  | addFinalizer name => exact leaf_addFinalizer hl
  | ensureFinalizer name => exact leaf_addFinalizer hl
  | removeFinalizer name =>
    cases l with
    | field f => rfl
    | finalizer g =>
      have hne : g ≠ name := fun he => hl (he ▸ rfl)
      simp [Helper.desired, Content.removeFinalizer, Content.leaf, hne]
  | clearFinalizers =>
    cases l with
    | field f => rfl
    | finalizer g => exact absurd ⟨g, rfl⟩ hl
  | updateStatusWithRetry ch =>
    cases l with
    | finalizer g => rfl
    | field f =>
      cases f with
      | status p =>
        cases hc : ch p with
        | none => simp [Helper.desired, Content.setStatus, Content.leaf, hc]
        | some v => exact absurd ⟨p, v, rfl, hc⟩ hl
      | _ => rfl
  | updateVastStorageClassReplication ch =>
    cases l with
    | finalizer g => rfl
    | field f =>
      cases f with
      | spec p =>
        cases hc : ch p with
        | none => simp [Helper.desired, Content.setSpec, Content.leaf, hc]
        | some v => exact absurd ⟨p, v, rfl, hc⟩ hl
      | _ => rfl
  | patchPVCLabels ch =>
    cases l with
    | finalizer g => rfl
    | field f =>
      cases f with
      | label k =>
        cases hc : ch k with
        | none => simp [Helper.desired, Content.setLabels, Content.labels, Content.leaf, hc]
        | some v => exact absurd ⟨k, v, rfl, hc⟩ hl
      | _ => rfl

/-- An update replaces the leaves the call sends. -/
theorem put_leaf {h : Helper} (hh : h.patches = false) (mine server : Content) :
    (h.put mine server).leaf = overlay h.sends mine.leaf server.leaf := by
  funext l
  cases h with
  | patchPVCLabels ch => cases hh
  | _ =>
    cases l with
    | finalizer g => rfl
    | field f => cases f <;> rfl

/-- The label patch keeps every leaf that is not a label. -/
theorem applyPatch_setLabels_finalizer {base server : Content}
    {labels : String → Option String} {g : String} :
    (applyPatch base (base.setLabels labels) server).leaf (.finalizer g) =
      server.leaf (.finalizer g) := by
  have hfin : (applyPatch base (base.setLabels labels) server).finalizers =
      server.finalizers := if_pos rfl
  simp only [Content.leaf, hfin]

/-- What the label patch keeps, field by field. -/
theorem applyPatch_setLabels_field_iff {base server : Content}
    {labels : String → Option String} {f : Field} :
    (applyPatch base (base.setLabels labels) server).leaf (.field f) = server.leaf (.field f) ↔
      ∀ k, f = .label k → labels k = base.field f ∨ labels k = server.field f := by
  have hkeeps : (applyPatch base (base.setLabels labels) server).leaf (.field f) =
      server.leaf (.field f) ↔ (base.setLabels labels).field f = base.field f ∨
        (base.setLabels labels).field f = server.field f := mergePatch_keeps_iff
  cases f with
  | label k =>
    rw [hkeeps]
    constructor
    · intro h k' hk
      cases hk
      exact h
    · intro h
      exact h k rfl
  | metadata p => exact iff_of_true (hkeeps.mpr (.inl rfl)) (by intro k hk; cases hk)
  | spec p => exact iff_of_true (hkeeps.mpr (.inl rfl)) (by intro k hk; cases hk)
  | status p => exact iff_of_true (hkeeps.mpr (.inl rfl)) (by intro k hk; cases hk)

/-- The write is made of the caller's copy and the server's content. -/
def Replays (h : Helper) (copy : Content) (w : Write) : Prop :=
  match w.fetched with
  | none => h.patches = false ∧ w.after = h.put (h.desired copy) w.before
  | some base =>
    h.patches = true ∧ w.after = applyPatch base (base.setLabels (h.desired copy).labels) w.before

/-- What the caller's object holds where the call is. -/
def Held (h : Helper) (copy : Content) (st : State) : Prop :=
  match st.pc with
  | .write _ => h.patches = false ∧ st.obj.content = h.desired copy
  | .refresh _ => h.patches = false ∧ st.obj.content = h.desired copy
  | .get _ => h.patches = true ∧ st.obj.content.labels = (h.desired copy).labels
  | .patch base _ => h.patches = true ∧ st.obj.content = base.setLabels (h.desired copy).labels
  | .returned _ => True

/-- The invariant of a call: no attempt changes what will be sent. -/
structure Inv (h : Helper) (copy : Content) (st : State) : Prop where
  held : Held h copy st
  replays : ∀ w, st.written = some w → Replays h copy w

variable {h : Helper} {copy : Content}

theorem start_inv (h : Helper) (copy : Obj) (server : Option Obj) (revision : Nat) :
    Inv h copy.content (start h copy server revision) := by
  refine ⟨?_, fun w hw => by cases hw⟩
  unfold start Held
  cases hskip : h.skips copy.content with
  | true => exact trivial
  | false =>
    cases hp : h.patches with
    | true => exact ⟨rfl, rfl⟩
    | false => exact ⟨rfl, rfl⟩

/-- Moving on without a write keeps the invariant when the object fits the new place. -/
theorem Inv.move (hi : Inv h copy st) (hw : st'.written = st.written) (hheld : Held h copy st') :
    Inv h copy st' := by
  refine ⟨hheld, fun w hw' => hi.replays w ?_⟩
  rw [← hw]
  exact hw'

/-- A write keeps the invariant: it is over then. -/
theorem Inv.commit {s : Obj} {fetched : Option Content} {content : Content} {err : Option Reason}
    (hr : Replays h copy ⟨fetched, s.content, content⟩) :
    Inv h copy (st.commit fetched s content err) := by
  refine ⟨trivial, ?_⟩
  intro w hw
  cases hw
  exact hr

/-- After a failed attempt the call starts over with the same object. -/
theorem held_retry (st : State) {again : Nat → Pc} {left : Nat} {e : Reason}
    (hagain : ∀ k, Held h copy { st with pc := again k }) :
    Held h copy { st with pc := retry again left e } := by
  unfold retry
  split
  next k => exact hagain k
  next => exact trivial

/-- The helper's own steps keep the invariant. -/
theorem requestStep_inv {fate : Fate Reason} (hi : Inv h copy st)
    (hs : requestStep h st fate = some st') : Inv h copy st' := by
  have hheld := hi.held
  unfold requestStep at hs
  unfold Held at hheld
  cases hpc : st.pc with
  | returned err =>
    rw [hpc] at hs
    cases hs
  | write left =>
    rw [hpc] at hs hheld
    obtain ⟨hp, hobj⟩ := hheld
    have hcommit : ∀ s : Obj, Replays h copy ⟨none, s.content, h.put st.obj.content s.content⟩ := by
      intro s
      exact ⟨hp, by rw [hobj]⟩
    cases fate with
    | failed e =>
      cases hs
      by_cases he : e = .conflict
      · subst he
        exact hi.move rfl ⟨hp, hobj⟩
      · rw [if_neg he]
        exact hi.move rfl trivial
    | answered =>
      dsimp only at hs
      split at hs
      next => cases hs; exact hi.move rfl trivial
      next s _ =>
        split at hs
        next => cases hs; exact Inv.commit (hcommit s)
        next => cases hs; exact hi.move rfl ⟨hp, hobj⟩
    | lost e =>
      dsimp only at hs
      split at hs
      next => cases hs; exact hi.move rfl trivial
      next s _ =>
        split at hs
        next => cases hs; exact Inv.commit (hcommit s)
        next => cases hs; exact hi.move rfl ⟨hp, hobj⟩
  | refresh left =>
    rw [hpc] at hs hheld
    cases fate with
    | answered =>
      dsimp only at hs
      split at hs
      next => cases hs; exact hi.move rfl trivial
      next s _ =>
        cases hs
        exact hi.move rfl (held_retry { st with
          obj := { st.obj with resourceVersion := s.resourceVersion } } fun _ => hheld)
    | failed e => cases hs; exact hi.move rfl (held_retry st fun _ => hheld)
    | lost e => cases hs; exact hi.move rfl (held_retry st fun _ => hheld)
  | get left =>
    rw [hpc] at hs hheld
    cases fate with
    | answered =>
      dsimp only at hs
      split at hs
      next => cases hs; exact hi.move rfl trivial
      next s _ =>
        cases hs
        refine hi.move rfl ⟨hheld.1, ?_⟩
        show s.content.setLabels st.obj.content.labels = _
        rw [hheld.2]
    | failed e => cases hs; exact hi.move rfl (held_retry st fun _ => hheld)
    | lost e => cases hs; exact hi.move rfl (held_retry st fun _ => hheld)
  | patch base left =>
    rw [hpc] at hs hheld
    obtain ⟨hp, hobj⟩ := hheld
    have hcommit : ∀ s : Obj, Replays h copy
        ⟨some base, s.content, applyPatch base st.obj.content s.content⟩ := by
      intro s
      exact ⟨hp, by rw [hobj]⟩
    cases fate with
    | failed e =>
      cases hs
      refine hi.move rfl (held_retry st fun _ => ⟨hp, ?_⟩)
      show st.obj.content.labels = _
      rw [hobj]
      rfl
    | answered =>
      dsimp only at hs
      split at hs
      next => cases hs; exact hi.move rfl trivial
      next s _ => cases hs; exact Inv.commit (hcommit s)
    | lost e =>
      dsimp only at hs
      split at hs
      next => cases hs; exact hi.move rfl trivial
      next s _ => cases hs; exact Inv.commit (hcommit s)

/-- Every step keeps the invariant, also those of other clients. -/
theorem step_inv {a : Act} (hi : Inv h copy st) (hs : step h st a = some st') : Inv h copy st' := by
  cases a with
  | otherWrite content => cases hs; exact hi.move rfl hi.held
  | otherDelete => cases hs; exact hi.move rfl hi.held
  | request fate => exact requestStep_inv hi hs

/-- In every interleaving, every write of the helper replays the copy. -/
theorem reachable_replays {copy : Obj} {server : Option Obj} {revision : Nat} {w : Write}
    (hr : Reachable (step h) (start h copy server revision) st) (hw : st.written = some w) :
    Replays h copy.content w :=
  (reachable_invariant (fun _ _ _ hi hs => step_inv hi hs)
    (start_inv h copy server revision) hr).replays w hw

def Succeeded (h : Helper) (object : String) (st : State) : Prop :=
  ∃ err, st.pc = .returned err ∧ h.outcome object err = none

/-- The helper's write left every leaf the caller did not name as the server
had it. -/
def KeepsOthers (h : Helper) (st : State) : Prop :=
  ∀ w, st.written = some w → ∀ l, ¬ h.Named l → w.after.leaf l = w.before.leaf l

/-- In every leaf that the helper sends and the caller did not name, the copy agrees with the
server just before the write, or with the object fetched for the patch. -/
def CopyCurrent (h : Helper) (copy : Content) (st : State) : Prop :=
  ∀ w, st.written = some w → ∀ l, ¬ h.Named l → h.sends l = true →
    copy.leaf l = w.before.leaf l ∨ ∃ base, w.fetched = some base ∧ copy.leaf l = base.leaf l

/-- One leaf that the caller did not name, through one write. -/
theorem write_keeps_leaf_iff {w : Write} (hw : Replays h copy w) (hl : ¬ h.Named l) :
    w.after.leaf l = w.before.leaf l ↔ (h.sends l = true → copy.leaf l = w.before.leaf l ∨
      ∃ base, w.fetched = some base ∧ copy.leaf l = base.leaf l) := by
  obtain ⟨fetched, before, after⟩ := w
  cases fetched with
  | none =>
    obtain ⟨hp, hafter⟩ := hw
    dsimp only at hafter ⊢
    rw [hafter, put_leaf hp, overlay_keeps_iff, desired_leaf hl]
    simp
  | some base =>
    obtain ⟨hp, hafter⟩ := hw
    dsimp only at hafter ⊢
    rw [hafter]
    cases h with
    | patchPVCLabels ch =>
      cases l with
      | finalizer g => exact iff_of_true applyPatch_setLabels_finalizer (by intro hs; cases hs)
      | field f =>
        rw [applyPatch_setLabels_field_iff]
        cases f with
        | label k =>
          have hlabel : ((Helper.patchPVCLabels ch).desired copy).labels k =
              copy.leaf (.field (.label k)) := desired_leaf hl
          constructor
          · intro hk _
            rcases hk k rfl with hb | hb
            · exact .inr ⟨base, rfl, hlabel ▸ hb⟩
            · exact .inl (hlabel ▸ hb)
          · intro hk k' hkk
            cases hkk
            rw [hlabel]
            rcases hk rfl with hb | ⟨b, hfb, hb⟩
            · exact .inr hb
            · cases hfb
              exact .inl hb
        | _ => exact iff_of_true (by intro k hk; cases hk) (by intro hs; cases hs)
    | _ => cases hp

/-- **When the other fields survive**: in every interleaving, the write of a call leaves every
leaf that the caller did not name alone, exactly when the caller's copy is current in what the
call sends. -/
theorem call_keeps_others_iff {h : Helper} {copy : Obj} {server : Option Obj}
    {revision : Nat} {st : State}
    (hr : Reachable (step h) (start h copy server revision) st) :
    KeepsOthers h st ↔ CopyCurrent h copy.content st := by
  constructor
  · intro hkeeps w hw l hl
    exact (write_keeps_leaf_iff (reachable_replays hr hw) hl).mp (hkeeps w hw l hl)
  · intro hcur w hw l hl
    exact (write_keeps_leaf_iff (reachable_replays hr hw) hl).mpr (hcur w hw l hl)

def withPrimary (sc : String) : Content where
  finalizers := []
  field := fun f => if f = .spec "primaryStorageClass" then some sc else none

def resolvePeer : Helper :=
  .updateVastStorageClassReplication fun p =>
    if p = "protectionTopology[0].peerName" then some (some "peer-1") else none

theorem primary_not_named : ¬ resolvePeer.Named (.field (.spec "primaryStorageClass")) := by
  rintro ⟨p, v, hp, hv⟩
  cases hp
  simp at hv

/-- The object once another client has recorded its status. -/
def synced : Content :=
  (withPrimary "sc-a").setStatus fun p => if p = "syncStatus" then some (some "Completed") else none

/-- The status of another client is written between the read and the update, which is sent again
without it and leaves it. -/
theorem call_keeps_others_iff_status : ∃ st, runFrom (step resolvePeer)
        (start resolvePeer ⟨5, withPrimary "sc-a"⟩ (some ⟨5, withPrimary "sc-a"⟩) 5)
        [.otherWrite synced, .request .answered, .request .answered, .request .answered] =
          some st ∧ KeepsOthers resolvePeer st ∧
      (st.server.bind fun o => o.content.field (.status "syncStatus")) = some "Completed" := by
  refine ⟨_, rfl, ?_, by decide⟩
  have hreach : Reachable (step resolvePeer)
      (start resolvePeer ⟨5, withPrimary "sc-a"⟩ (some ⟨5, withPrimary "sc-a"⟩) 5) _ :=
    ⟨[.otherWrite synced, .request .answered, .request .answered, .request .answered], rfl⟩
  refine (call_keeps_others_iff hreach).mpr ?_
  intro w hw l _ hsent
  cases hw
  cases l with
  | finalizer name => exact .inl rfl
  | field f =>
    cases f with
    | status p => cases hsent
    | _ => exact .inl rfl

/-- Another client switches the primary StorageClass after the caller's read: the update
conflicts, takes over the new version, and is sent again with the old primary. -/
theorem stale_update_reverts_primary : ∃ st, runFrom (step resolvePeer)
        (start resolvePeer ⟨5, withPrimary "sc-a"⟩ (some ⟨5, withPrimary "sc-a"⟩) 5)
        [.otherWrite (withPrimary "sc-b"), .request .answered, .request .answered,
          .request .answered] = some st ∧
      Succeeded resolvePeer "ns/vscr" st ∧ ¬ KeepsOthers resolvePeer st := by
  refine ⟨_, rfl, ⟨none, rfl, rfl⟩, ?_⟩
  intro hkeeps
  have hprimary := hkeeps _ rfl (.field (.spec "primaryStorageClass")) primary_not_named
  exact absurd hprimary (by decide)

end VastCsi.Ext.RetryingWrites
