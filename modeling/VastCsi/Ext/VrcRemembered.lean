import VastCsi.Ext.VrcProvision
import VastCsi.Lib.Trace

/-!
# What a content still has to delete

A name that has left `spec.pvcs` is owed until a `ProvisionVolumes` that returns without error has
had it in its `toDelete` list, and `status.pvcs` is where the next reconcile finds it. When
`ProvisionVolumes` fails, the status has been written already.

The invariant is that what is owed is in the status and not in the spec (`Inv`). An edit keeps it
(`inv_editSpec`), and so does a reconcile that finds nothing owed; one that does must go through,
and then nothing is owed any more (`meets_reconcile`).
-/

namespace VastCsi.Ext.Vrc

open Lib CsiAddons List Option

inductive Act where
  | edit (new : List String)
  | claim (pvcName : String) (pvc : Option Pvc)
  | reconcile (env : Env)

/-- A reconcile takes effect whatever it returns. -/
def step (w : World Own) : Act → Option (World Own)
  | .edit new => some { w with own := editSpec new w.own }
  | .claim pvcName pvc =>
    some { w with own := { w.own with claims := Function.update w.own.claims pvcName pvc } }
  | .reconcile env => some (endState (reconcile env w))

/-- Whatever is owed is in the recorded list. -/
def Remembered (o : Own) : Prop :=
  ∀ v, o.stored = some v → ∀ pvcName ∈ o.owed, pvcName ∈ v.status.pvcs

structure Goes (env : Env) (o : Own) : Prop where
  answered : env.fates = steady
  bound : ∀ v, o.stored = some v → ∀ pvcName ∈ env.siblings ++ v.pvcs, ∀ pvc,
    o.claims pvcName = some pvc → pvc.bound = true
  source : ∀ pvcName ∈ o.owed, ∀ pvc, o.claims pvcName = some pvc → pvc.managed = false

/-- A reconcile that does not see the spec change under it, and that goes
through if anything is owed. -/
def Smooth (w : World Own) : Act → Prop
  | .reconcile env => env.edit = none ∧ (w.own.owed = [] ∨ Goes env w.own)
  | _ => True

/-- The invariant: what is owed is in the status and not in the spec. -/
def Inv (o : Own) : Prop :=
  ∀ v, o.stored = some v → ∀ pvcName ∈ o.owed, pvcName ∈ v.status.pvcs ∧ pvcName ∉ v.pvcs

theorem inv_of_owed_nil {o : Own} (h : o.owed = []) : Inv o := by
  intro v _ pvcName hmem
  rw [h] at hmem
  exact absurd hmem not_mem_nil

/-- An update of the spec owes only recorded names that are not in it. -/
theorem inv_editSpec {o : Own} (h : Inv o) (new : List String) : Inv (editSpec new o) := by
  intro v' hv' pvcName hmem
  unfold editSpec at hv' hmem
  cases hs : o.stored with
  | none =>
    rw [hs] at hv' hmem
    exact h v' hv' pvcName hmem
  | some v =>
    rw [hs] at hv' hmem
    rw [some.injEq] at hv'
    subst hv'
    simp only [owedAfter, mem_filter, mem_append, decide_eq_true_eq] at hmem
    refine ⟨?_, hmem.2⟩
    rcases hmem.1 with howed | ⟨_, hrec⟩
    · exact (h v hs pvcName howed).1
    · exact hrec

section Passes

variable {env : Env} {o : Own} {I : World Own → Prop}

/-- An assertion that does not look at the number of calls or at the stored object. -/
structure Aside (I : World Own → Prop) : Prop where
  tick : TickFree I
  stored : ∀ w v, I w → I { w with own := { w.own with stored := v } }

theorem keeps_getContent (ht : TickFree I) : Keeps I (getContent env) := keeps_api ht fun _ hw => hw

theorem keeps_writeContent {f : VastReplicationContent → VastReplicationContent} (hI : Aside I) :
    Keeps I (writeContent env f) :=
  keeps_api hI.tick fun w hw => hI.stored w _ hw

theorem keeps_getPVC {pvcName : String} (ht : TickFree I) : Keeps I (getPVC env pvcName) :=
  keeps_api ht fun _ hw => hw

theorem keeps_syncProvisionMeta {name : String} {E : KErr → World Own → Prop} (hI : Aside I) :
    Meets I (syncProvisionMeta env name) (fun _ => I) E := by
  refine .bind (.attempt ?_) fun _ => .ret
  refine .bind (keeps_getContent hI.tick) fun fresh => ?_
  cases fresh with
  | none => exact keeps_throw _
  | some fresh =>
    dsimp only
    split
    next => exact keeps_pure _
    next => exact keeps_writeContent hI

theorem keeps_markProvisioned {name : String} {E : KErr → World Own → Prop} (hI : Aside I) :
    Meets I (markProvisioned env name) (fun _ => I) E := by
  refine .bind (.attempt ?_) fun _ => .ret
  refine .bind (keeps_getContent hI.tick) fun fresh => ?_
  cases fresh with
  | none => exact keeps_throw _
  | some fresh =>
    dsimp only
    split
    next => exact keeps_pure _
    next => exact keeps_writeContent hI

def Clear (w : World Own) : Prop := w.own.owed = []

theorem aside_clear : Aside Clear := ⟨fun _ hw => hw, fun _ _ hw => hw⟩

theorem keeps_classifyPVCs (ht : TickFree I) :
    ∀ {names : List String}, Keeps I (classifyPVCs env names)
  | [] => keeps_pure _
  | _ :: _ => by
    refine .bind (meets_withContext (keeps_getPVC ht)) fun pvc => ?_
    cases pvc with
    | none => exact keeps_classifyPVCs ht
    | some pvc =>
      dsimp only
      split
      next => exact keeps_throw _
      next => exact .bind (keeps_classifyPVCs ht) fun _ => keeps_pure _

theorem keeps_computeSourceToDelete (ht : TickFree I) :
    ∀ {names : List String}, Keeps I (computeSourceToDelete env names)
  | [] => keeps_pure _
  | _ :: _ =>
    .bind (meets_withContext (keeps_getPVC ht)) fun _ =>
      .bind (keeps_computeSourceToDelete ht) fun _ => keeps_pure _

theorem keeps_syncMirrors {rp : VastReplicationContent} (ht : TickFree I) :
    Keeps I (syncMirrors env rp) := by
  unfold syncMirrors
  split
  next => exact .bind (.collectErrors fun _ _ => keeps_callOut ht) fun _ => keeps_raiseDeferred
  next => exact keeps_pure _

theorem keeps_provisionVolumes {rp : VastReplicationContent} (ht : TickFree I) :
    Keeps I (provisionVolumes env rp) := by
  refine .bind (meets_withContext (keeps_callOut ht)) fun _ => ?_
  refine .bind (keeps_classifyPVCs ht) fun _ => ?_
  refine .bind (keeps_computeSourceToDelete ht) fun _ => ?_
  refine .bind (keeps_callOut ht) fun _ => ?_
  exact .bind (keeps_syncMirrors ht) fun _ => keeps_pure _

/-- A reconcile never makes anything owed, unless the spec changes under it. -/
theorem keeps_clear_reconcile (hedit : env.edit = none) : Keeps Clear (reconcile env) := by
  have ht : TickFree Clear := aside_clear.tick
  refine .bind (keeps_getContent ht) fun vrc => ?_
  cases vrc with
  | none => exact keeps_pure _
  | some vrc =>
    refine .bind (meets_withContext (keeps_callOut ht)) fun _ => ?_
    split
    next => exact keeps_pure _
    refine .bind (keeps_callOut ht) fun _ => ?_
    split
    next => exact meets_withContext (keeps_writeContent aside_clear)
    refine .bind (keeps_callOut ht) fun _ => ?_
    refine .bind (Q := fun _ => Clear) (fun w hw => ?_) fun _ => ?_
    · show (env.edit.elim w.own fun new => editSpec new w.own).owed = []
      rw [hedit]
      exact hw
    refine .bind (keeps_syncProvisionMeta aside_clear) fun _ => ?_
    refine .bind (keeps_provisionVolumes ht) fun toDelete => ?_
    refine .bind (Q := fun _ => Clear) (fun w hw => ?_) fun _ => ?_
    · show w.own.owed.filter _ = []
      rw [show w.own.owed = [] from hw]
      rfl
    · exact keeps_markProvisioned aside_clear

/-- The claims and what is owed are as in `o`. -/
def Same (o : Own) (w : World Own) : Prop := w.own.owed = o.owed ∧ w.own.claims = o.claims

theorem aside_same : Aside (Same o) := ⟨fun _ hw => hw, fun _ _ hw => hw⟩

section Through

variable (ha : env.fates = steady)
include ha

theorem callOut_steady {context : String} (ht : TickFree I) :
    Finishes I (callOut env.fates context) (fun _ => I) := by
  rw [ha]
  exact meets_withContext (meets_api_steady ht .ret)

theorem getPVC_steady {pvcName : String} : Finishes (Same o) (getPVC env pvcName)
      (fun r w => Same o w ∧ r = o.claims pvcName) := by
  unfold getPVC
  rw [ha]
  exact meets_api_steady aside_same.tick fun w hw => ⟨hw, congrFun hw.2 pvcName⟩

/-- With every claim bound the classification goes through. -/
theorem classifyPVCs_steady : ∀ {names : List String},
    (∀ n ∈ names, ∀ pvc, o.claims n = some pvc → pvc.bound = true) →
      Finishes (Same o) (classifyPVCs env names) (fun _ => Same o)
  | [], _ => .ret
  | n :: names, hb => by
    have hrest := classifyPVCs_steady fun m hm => hb m (mem_cons_of_mem n hm)
    refine .bind (meets_withContext (getPVC_steady ha)) fun r => ?_
    refine .assuming (p := r = o.claims n) (fun _ hw => hw.2) fun hr => ?_
    cases r with
    | none => exact hrest.preLeft
    | some pvc =>
      have hbound := hb n mem_cons_self pvc hr.symm
      dsimp only
      rw [hbound]
      exact .bind (hrest.preLeft) fun _ => .ret

/-- Every name that is no controller mirror is in the list. -/
theorem computeSourceToDelete_steady : ∀ {names : List String},
    Finishes (Same o) (computeSourceToDelete env names) (fun toDelete w => Same o w ∧ ∀ n ∈ names,
        (∀ pvc, o.claims n = some pvc → pvc.managed = false) → n ∈ toDelete)
  | [] => .pure fun _ hw => ⟨hw, fun _ h => absurd h not_mem_nil⟩
  | n :: names => by
    refine .bind (meets_withContext (getPVC_steady ha)) fun r => ?_
    refine .assuming (p := r = o.claims n) (fun _ hw => hw.2) fun hr => ?_
    refine .bind (computeSourceToDelete_steady.preLeft) fun toDelete => ?_
    refine .pure fun w hw => ⟨hw.1, fun m hm hsource => ?_⟩
    rcases mem_cons.mp hm with rfl | hm
    · have hnot : r.any (·.managed) = false := by
        cases r with
        | none => rfl
        | some pvc => exact hsource pvc hr.symm
      rw [hnot]
      exact mem_cons_self
    · have hin := hw.2 m hm hsource
      split
      next => exact hin
      next => exact mem_cons_of_mem n hin

theorem syncMirrors_steady {rp : VastReplicationContent} :
    Finishes (Same o) (syncMirrors env rp) (fun _ => Same o) := by
  unfold syncMirrors
  split
  next =>
    refine .bind (meets_collectErrors_none fun _ _ => callOut_steady ha aside_same.tick)
      fun errs => ?_
    refine .assuming (p := errs = []) (fun _ hw => hw.1) fun he => ?_
    subst he
    exact .pure fun _ hw => hw.2
  next => exact .ret

theorem provisionVolumes_steady {rp : VastReplicationContent}
    (hb : ∀ n ∈ env.siblings ++ rp.pvcs, ∀ pvc, o.claims n = some pvc → pvc.bound = true) :
    Finishes (Same o) (provisionVolumes env rp) (fun toDelete w => Same o w ∧ ∀ n ∈ removed rp,
        (∀ pvc, o.claims n = some pvc → pvc.managed = false) → n ∈ toDelete) := by
  refine .bind (meets_withContext (callOut_steady ha aside_same.tick)) fun _ => ?_
  refine .bind (classifyPVCs_steady ha hb) fun _ => ?_
  refine .bind (computeSourceToDelete_steady ha) fun toDelete => ?_
  refine .assuming (fun _ hw => hw.2) fun hall => ?_
  refine .bind ((callOut_steady ha aside_same.tick).preLeft) fun _ => ?_
  exact .bind (syncMirrors_steady ha) fun _ => .pure fun _ hw => ⟨hw, hall⟩

end Through

/-- A reconcile that goes through leaves nothing owed, or has not come to the
pass. -/
theorem meets_reconcile (hedit : env.edit = none) (hgo : Goes env o) (hinv : Inv o) :
    Finishes (fun w => w.own = o) (reconcile env) (fun _ w => Inv w.own) := by
  have ha := hgo.answered
  have ht : TickFree fun w : World Own => w.own = o := fun _ hw => hw
  have hget : Finishes (fun w : World Own => w.own = o) (getContent env)
      (fun r w => w.own = o ∧ r = o.stored) := by
    unfold getContent
    rw [ha]
    exact meets_api_steady ht fun w hw => ⟨hw, congrArg Own.stored hw⟩
  refine .bind hget fun r => ?_
  refine .assuming (p := r = o.stored) (fun _ hw => hw.2) fun hr => ?_
  have hkept : ∀ w : World Own, w.own = o → Inv w.own := fun w hw => by rw [hw]; exact hinv
  cases r with
  | none => exact .pure fun w hw => hkept w hw.1
  | some vrc =>
    refine .bind ((meets_withContext (callOut_steady ha ht)).preLeft) fun _ => ?_
    split
    next => exact .pure hkept
    refine .bind (callOut_steady ha ht) fun _ => ?_
    split
    next =>
      unfold writeContent
      rw [ha]
      refine meets_withContext (meets_api_steady ht fun w hw v hv n hn => ?_)
      dsimp only at hv hn
      rw [hw, ← hr, map_some, some.injEq] at hv
      rw [hw] at hn
      subst hv
      exact hinv vrc hr.symm n hn
    refine .bind (callOut_steady ha ht) fun _ => ?_
    refine .bind (Q := fun _ => Same o) (fun w hw => ?_) fun _ => ?_
    · show Same o { w with own := env.edit.elim w.own fun new => editSpec new w.own }
      rw [hedit, ← hw]
      exact ⟨rfl, rfl⟩
    refine .bind (keeps_syncProvisionMeta aside_same) fun _ => ?_
    refine .bind (provisionVolumes_steady ha (hgo.bound vrc hr.symm)) fun toDelete => ?_
    -- what is owed is recorded, not in the spec and no mirror: the pass had it
    refine .bind (Q := fun _ => Same { o with owed := [] }) (fun w hw => ?_) fun _ => ?_
    · refine ⟨filter_eq_nil_iff.mpr fun n hn => ?_, hw.1.2⟩
      rw [hw.1.1] at hn
      obtain ⟨hstatus, hspec⟩ := hinv vrc hr.symm n hn
      have hremoved : n ∈ removed vrc := mem_filter.mpr ⟨hstatus, decide_eq_true hspec⟩
      have hin := hw.2 n hremoved (hgo.source n hn)
      rw [decide_eq_true_eq, not_not]
      exact hin
    · exact (keeps_markProvisioned aside_same).post (fun _ w hw => inv_of_owed_nil hw.1)

end Passes

/-- One event keeps the invariant. -/
theorem inv_step {w w' : World Own} {a : Act} (hinv : Inv w.own) (hs : Smooth w a)
    (hstep : step w a = some w') : Inv w'.own := by
  cases a with
  | edit new =>
    cases hstep
    exact inv_editSpec hinv new
  | claim pvcName pvc =>
    cases hstep
    exact hinv
  | reconcile env =>
    cases hstep
    obtain ⟨hedit, hclear | hgo⟩ := hs
    · exact inv_of_owed_nil ((keeps_clear_reconcile hedit).endState hclear)
    · have h : Meets (fun u : World Own => u.own = w.own) (reconcile env)
          (fun _ u => Inv u.own) (fun _ u => Inv u.own) :=
        (meets_reconcile hedit hgo hinv).raise (fun _ _ hu => hu.elim)
      exact h.endState rfl

def fresh : World Own where
  objs := fun _ => none
  own :=
    { stored := some { name := "v-a", storageClass := "a", pvcs := ["p", "q"] }
      claims := fun _ => some {} }

def dropped : List Act := [.reconcile {}, .edit ["p"]]

def downFrom (n : Nat) : Env where
  fates := fun k => if n ≤ k then .failed .unreachable else .answered

end VastCsi.Ext.Vrc
