import VastCsi.Ext.Flattener
import VastCsi.Lib.Trace

/-!
# Discarding credentials beside the flattener

When the bucket behind a `BucketAccess` was replaced, `PokeSidecarRegrant` deletes the flat
objects, then the credentials Secret, and clears the grant. A reconcile of the flattener that has
read the Secret before still writes the flat objects afterwards. Every call is one step of the
system, and all of them are answered. The proof is a rely-guarantee argument: a reconcile without
the Secret can only make objects disappear.
-/

namespace VastCsi.Ext.Flat

open Lib Prog Function Option Table Bool

/-! ## PokeSidecarRegrant -/

def secretProtectionFinalizer : String := "cosi.objectstorage.k8s.io/secret-protection"

def deleteCredentials : Option Obj → Api Unit
  | none => pure ()
  | some sec => do
    (ask (.removeFinalizer sec.key secretProtectionFinalizer) false).bind ignoreNotFound
    deleteIfFound .secret sec.key false

def clearGrant (ba : BucketAccess) : Api Unit :=
  if !ba.accessGranted && ba.accountID == "" then pure ()
  else (ask (.updateStatus ba.key false "") false).bind ignoreNotFound

def pokeSidecarRegrant (ba : BucketAccess) (sec : Option Obj) : Api Unit := do
  deleteOwnedFlatPair ba ""
  deleteCredentials sec
  clearGrant ba

/-! ## The system -/

structure Proc where
  prog : Api Outcome
  hasRead : Bool

structure System where
  cluster : Cluster
  poke : Api Unit
  begun : Bool
  procs : Nat → Proc

inductive Act where
  | poke
  | start (i : Nat)
  | reconcile (i : Nat)
  deriving DecidableEq, Repr

def credentialsKey (ba : BucketAccess) : Key := ⟨ba.key.namespace_, ba.credentialsSecretName⟩

def serve (op : Op) (c : Cluster) : op.Resp × Cluster := exec op.call c

def isRunning {α : Type} : Api α → Bool
  | .call .. => true
  | _ => false

def readsCredentials (ba : BucketAccess) (c : Cluster) : Api Outcome → Bool
  | .call op _ =>
    op.call == .get .secret (credentialsKey ba) && (c.objects .secret).hasKey (credentialsKey ba)
  | _ => false

/-- One call of `PokeSidecarRegrant` or of a reconcile, or the start of another reconcile. -/
def step (std : Decoders) (ba : BucketAccess) (s : System) : Act → Option System
  | .poke =>
    (s.poke.advance serve s.cluster).map fun r =>
      { s with poke := r.1, cluster := r.2, begun := true }
  | .start i =>
    if isRunning (s.procs i).prog then none
    else some { s with procs := update s.procs i ⟨reconcile std ba.key, false⟩ }
  | .reconcile i =>
    ((s.procs i).prog.advance serve s.cluster).map fun r =>
      { s with
        cluster := r.2
        procs := update s.procs i
          ⟨r.1, (s.procs i).hasRead || readsCredentials ba s.cluster (s.procs i).prog⟩ }

def start (ba : BucketAccess) (sec : Option Obj) (c : Cluster) : System where
  cluster := c
  poke := pokeSidecarRegrant ba sec
  begun := false
  procs _ := ⟨.ret .done, false⟩

/-- The reconcile has returned, or it does not have the credentials Secret in its hands. -/
def Proc.Clear (p : Proc) : Prop := isRunning p.prog = true → p.hasRead = false

/-- No reconcile has the Secret in its hands when `PokeSidecarRegrant` starts, and none reads it
afterwards. -/
def Undisturbed (ba : BucketAccess) (s : System) : Act → Prop
  | .poke => s.begun = false → ∀ i, (s.procs i).Clear
  | .start _ => True
  | .reconcile i => s.begun = true → readsCredentials ba s.cluster (s.procs i).prog = false

def dataOf (d : FlatData) : Kind → List (String × String)
  | .secret => secretData d
  | .configMap => configMapData d

/-- An owned flat object that was built from a BucketInfo. -/
def BuiltFrom (ba : BucketAccess) (d : FlatData) (kind : Kind) (o : Obj) : Prop :=
  isOwnedByBucketAccess o ba = true ∧ isFlatName o.key.name = true ∧ o.data = dataOf d kind

/-- Clean-up finds what was built from the BucketInfo. -/
def AllSelected (ba : BucketAccess) (d : FlatData) (c : Cluster) : Prop :=
  ∀ kind, ∀ o ∈ c.objects kind, BuiltFrom ba d kind o → isSelected ba o = true

def NoneBuilt (ba : BucketAccess) (d : FlatData) (kind : Kind) (c : Cluster) : Prop :=
  ∀ o ∈ c.objects kind, ¬BuiltFrom ba d kind o

variable {ba : BucketAccess} {c : Cluster}

theorem AllSelected.fewer {d : FlatData} {c' : Cluster} (h : AllSelected ba d c) (hf : Fewer c c') :
    AllSelected ba d c' :=
  fun kind o ho => h kind o (hf kind o ho)

theorem NoneBuilt.fewer {d : FlatData} {kind : Kind} {c' : Cluster} (h : NoneBuilt ba d kind c)
    (hf : Fewer c c') : NoneBuilt ba d kind c' :=
  fun o ho => h o (hf kind o ho)

/-! ## PokeSidecarRegrant among reconciles that only delete -/

/-- Every call is answered by the server; the others make objects disappear. -/
def amongDeletions : Rules Op Op.Resp Cluster where
  step op c r c' := r = (exec op.call c).1 ∧ c' = (exec op.call c).2
  rely := Fewer
  guar _ _ := True
  rely_refl _ _ _ h := h
  rely_trans h h' kind o ho := h kind o (h' kind o ho)

section Poke

variable {ba : BucketAccess} {d : FlatData} {c : Cluster}

/-- One half of clean-up; it does not fail. -/
theorem among_deleteOwnedFlat (kind : Kind) {J : Cluster → Prop}
    (hJ : ∀ c c', J c → Fewer c c' → J c') (hsel : ∀ c, J c → AllSelected ba d c) (hc : J c) :
    Ensures amongDeletions (fun _ c' => J c' ∧ NoneBuilt ba d kind c') (fun _ _ => False)
      (deleteOwnedFlat ba "" kind) c := by
  have hclean : Ensures amongDeletions (fun _ c' => J c' ∧
        ∀ o ∈ c'.objects kind, isSelected ba o = true → isDoomed ba "" o = false)
      (fun _ _ => False) (deleteOwnedFlat ba "" kind) c := by
    refine ensures_deleteOwnedFlat (fun _ _ _ _ h => .inl h) (fun _ _ h => h) hJ
      (fun _ => trivial) (fun c key h _ => ⟨trivial, hJ c _ h (fewer_delete c kind key)⟩) ?_ hc
    -- the server does not fail the calls of clean-up
    rintro call c₀ e c hcall ⟨herr, _⟩ hne _
    cases call with
    | list k ns uid => cases herr
    | delete k key =>
      have hanswer : (c₀.delete k key).1 = .error e := herr.symm
      rcases delete_answer c₀ k key with h | h
      · cases hanswer.symm.trans h
      · cases hanswer.symm.trans h
        exact hne rfl
    | getAccess | get | create | update | removeFinalizer | updateStatus => cases hcall
  refine hclean.mono (fun _ c' h => ⟨h.1, fun o ho hbuilt => ?_⟩) fun _ _ h => h
  have hnot := h.2 o ho (hsel c' h.1 kind o ho hbuilt)
  rw [isDoomed, hbuilt.1] at hnot
  cases hnot

/-- A call whose failure would be returned, and which does not fail. -/
theorem among_ignoreNotFound {call : ApiCall} {J : Cluster → Prop}
    (hJ : ∀ c c', J c → Fewer c c' → J c') (hc : J c) (hwritten : call.written = none)
    {f : Except ApiErr call.Payload → Api Unit} (hf : ∀ c, f (exec call c).1 = .ret ()) :
    Ensures amongDeletions (fun _ => J) (fun _ _ => False) ((ask call false).bind f) c := by
  refine ensures_perform_bind ?_
  rintro c' hc' r t ⟨rfl, rfl⟩
  refine ⟨trivial, ?_⟩
  have hJ' : J (exec call c').2 := hJ c' _ (hJ c c' hc hc') (fewer_exec call c' hwritten)
  show Ensures _ _ _ (f (exec call c').1) (exec call c').2
  rw [hf c']
  exact fun u hu => hJ _ u hJ' hu

theorem ignoreNotFound_delete (c : Cluster) (kind : Kind) (key : Key) :
    ignoreNotFound (c.delete kind key).1 = .ret () := by
  rcases delete_answer c kind key with h | h
  · rw [h]
    rfl
  · rw [h]
    rfl

theorem ignoreNotFound_updateStatus (c : Cluster) (key : Key) (granted : Bool) (account : String) :
    ignoreNotFound (c.updateStatus key granted account).1 = .ret () := by
  unfold Cluster.updateStatus
  split
  · rfl
  · rfl

theorem ensures_pokeSidecarRegrant (sec : Option Obj) (hc : AllSelected ba d c) :
    Ensures amongDeletions (fun _ c' => ∀ kind, NoneBuilt ba d kind c') (fun _ _ => False)
      (pokeSidecarRegrant ba sec) c := by
  have hnone : ∀ c c', (∀ kind, NoneBuilt ba d kind c) → Fewer c c' →
      ∀ kind, NoneBuilt ba d kind c' := fun c c' h hf kind => (h kind).fewer hf
  have hflats : Ensures amongDeletions (fun _ c' => ∀ kind, NoneBuilt ba d kind c')
      (fun _ _ => False) (deleteOwnedFlatPair ba "") c := by
    refine Ensures.bind (among_deleteOwnedFlat _ (J := AllSelected ba d)
      (fun _ _ h hf => h.fewer hf) (fun _ h => h) hc) fun _ c₁ h₁ => ?_
    have hmaps := among_deleteOwnedFlat .configMap (d := d)
      (J := fun c => AllSelected ba d c ∧ NoneBuilt ba d .secret c)
      (fun _ _ h hf => ⟨h.1.fewer hf, h.2.fewer hf⟩) (fun _ h => h.1) h₁
    refine hmaps.mono (fun _ c' h kind => ?_) fun _ _ h => h
    cases kind with
    | secret => exact h.1.2
    | configMap => exact h.2
  refine Ensures.bind hflats fun _ c₁ h₁ => Ensures.bind (Q := fun _ c' =>
    ∀ kind, NoneBuilt ba d kind c') ?_ fun _ c₂ h₂ => ?_
  · cases sec with
    | none => exact fun c' hf => hnone _ c' h₁ hf
    | some sec =>
      refine Ensures.bind (among_ignoreNotFound hnone h₁ rfl fun _ => rfl) fun _ c₂ h₂ => ?_
      exact among_ignoreNotFound hnone h₂ rfl fun c => ignoreNotFound_delete c .secret sec.key
  · unfold clearGrant
    split
    · exact fun c' hf => hnone _ c' h₂ hf
    · exact among_ignoreNotFound hnone h₂ rfl fun c => ignoreNotFound_updateStatus c ba.key false ""

end Poke

/-! ## The calls of a reconcile -/

structure SameAccess (ba ba' : BucketAccess) : Prop where
  key : ba'.key = ba.key
  uid : ba'.uid = ba.uid
  credentialsSecretName : ba'.credentialsSecretName = ba.credentialsSecretName

def Honest (ba : BucketAccess) : (op : Op) → op.Resp → Prop
  | ⟨.getAccess key, _⟩, r => key = ba.key → ∀ ba', r = .ok ba' → SameAccess ba ba'
  | ⟨.get _ key, _⟩, r => ∀ o : Obj, r = .ok o → o.key = key
  | _, _ => True

def Unread (ba : BucketAccess) (op : Op) (r : op.Resp) : Prop :=
  Honest ba op r ∧ (op.call = .get .secret (credentialsKey ba) → r.isOk = false)

def WritesSelected (ba : BucketAccess) (op : Op) : Prop :=
  ∀ kind obj, op.call.written = some (kind, obj) → isSelected ba obj = true

def WritesNothing (op : Op) : Prop := op.call.written = none

theorem WritesNothing.writesSelected (ba : BucketAccess) {op : Op} (h : WritesNothing op) :
    WritesSelected ba op := by
  intro kind obj hwritten
  rw [WritesNothing] at h
  rw [h] at hwritten
  cases hwritten

section Calls

variable {A : (op : Op) → op.Resp → Prop} {G : Op → Prop} {α : Type} {ba ba' : BucketAccess}

theorem within_ask {call : ApiCall} {rollback : Bool} {f : Except ApiErr call.Payload → Api α}
    (hcall : G ⟨call, rollback⟩) (hf : ∀ r, A ⟨call, rollback⟩ r → Within A G (f r)) :
    Within A G ((ask call rollback).bind f) :=
  ⟨hcall, hf⟩

theorem within_orThrow (r : Except ApiErr α) : Within A G (orThrow r) := by
  cases r with
  | ok a => trivial
  | error e => trivial

theorem within_ignoreNotFound (r : Except ApiErr Unit) : Within A G (ignoreNotFound r) := by
  cases r with
  | ok a => trivial
  | error e => cases e <;> trivial

theorem within_throwing {β : Type} {x : Except Err α} {f : α → Api β}
    (hf : ∀ a, x = .ok a → Within A G (f a)) : Within A G ((throwing x).bind f) := by
  cases x with
  | ok a => exact hf a rfl
  | error e => trivial

theorem within_deleteIfFound (hG : ∀ op, WritesNothing op → G op) (kind : Kind) (key : Key)
    (rollback : Bool) : Within A G (deleteIfFound kind key rollback) :=
  within_ask (hG _ rfl) fun r _ => within_ignoreNotFound r

theorem within_deleteOwnedFlatPair (hG : ∀ op, WritesNothing op → G op) (keepName : String) :
    Within A G (deleteOwnedFlatPair ba keepName) := by
  have hhalf : ∀ kind, Within A G (deleteOwnedFlat ba keepName kind) := by
    intro kind
    refine Within.bind (within_ask (hG _ rfl) fun r _ => within_orThrow r) fun items => ?_
    refine within_each fun o _ => ?_
    split
    · exact within_deleteIfFound hG kind o.key false
    · trivial
  exact Within.bind (hhalf .secret) fun _ => hhalf .configMap

/-- A reconcile that does not get the credentials Secret writes nothing. -/
theorem reconcile_unread (std : Decoders) :
    Within (Unread ba) WritesNothing (reconcile std ba.key) := by
  refine within_ask rfl fun r hr => ?_
  match r, hr with
  | .error .notFound, _ => trivial
  | .error .alreadyExists, _ | .error .conflict, _ | .error (.other _), _ => trivial
  | .ok ba', hr =>
    obtain ⟨hkey, huid, hname⟩ := hr.1 rfl ba' rfl
    show Within _ _ (reconcileAccess std ba')
    unfold reconcileAccess
    split
    · exact Within.bind (within_deleteOwnedFlatPair (fun _ h => h) _) fun _ => trivial
    · split
      · trivial
      · refine Within.bind (within_deleteOwnedFlatPair (fun _ h => h) _) fun _ => ?_
        refine within_ask rfl fun r hr => ?_
        have hsource : (⟨ba'.key.namespace_, ba'.credentialsSecretName⟩ : Key) =
            credentialsKey ba := by rw [hkey, hname, credentialsKey]
        match r, hr with
        | .error .notFound, _ => trivial
        | .error .alreadyExists, _ | .error .conflict, _ | .error (.other _), _ => trivial
        | .ok src, hr => cases hr.2 (by rw [hsource])

theorem SameAccess.isSelected_eq (h : SameAccess ba ba') (o : Obj) :
    isSelected ba' o = isSelected ba o := by
  rw [isSelected, isSelected, h.key, h.uid]

theorem isSelected_of_mutateFlat {data : List (String × String)} {existed : Bool}
    {obj obj' : Obj} (h : mutateFlat ba data existed obj = .ok obj')
    (hns : obj.key.namespace_ = ba.key.namespace_) : isSelected ba obj' = true := by
  obtain ⟨hkey, _, hflat, _⟩ := mutateFlat_ok h
  rw [isSelected, and_eq_true, hkey]
  exact ⟨beq_iff_eq.mpr hns, hflat.labelled⟩

theorem within_ensureFlat (h : SameAccess ba ba') (kind : Kind) (name : String)
    (data : List (String × String)) :
    Within (Honest ba) (WritesSelected ba) (ensureFlat kind ba' name data) := by
  have hwrites : ∀ call obj, call.written = some (kind, obj) → isSelected ba' obj = true →
      WritesSelected ba ⟨call, false⟩ := by
    intro call obj hcall hobj kind' obj' hcall'
    have heq := hcall.symm.trans hcall'
    cases heq
    rw [← h.isSelected_eq]
    exact hobj
  refine within_ask (WritesNothing.writesSelected ba rfl) fun r hr => ?_
  match r, hr with
  | .error .alreadyExists, _ | .error .conflict, _ | .error (.other _), _ => trivial
  | .error .notFound, _ =>
    refine within_throwing fun obj hobj => within_ask ?_ fun r _ => within_orThrow r
    exact hwrites _ obj rfl (isSelected_of_mutateFlat hobj rfl)
  | .ok existing, hr =>
    refine within_throwing fun obj hobj => ?_
    have hkey : existing.key = ⟨ba'.key.namespace_, name⟩ := hr existing rfl
    split
    · trivial
    · refine within_ask ?_ fun r _ => within_orThrow r
      exact hwrites _ obj rfl (isSelected_of_mutateFlat hobj (by rw [hkey]))

theorem within_flatten (h : SameAccess ba ba') (d : FlatData) :
    Within (Honest ba) (WritesSelected ba) (flatten ba' d) := by
  have hreads : ∀ op, WritesNothing op → WritesSelected ba op := fun _ hop => hop.writesSelected ba
  refine Within.catching (Within.bind (Within.bind (within_ensureFlat h _ _ _) fun _ =>
    Within.catching (within_ensureFlat h _ _ _) fun err => ?_) fun _ => trivial) fun err => ?_
  · refine Within.bind (Within.catching ?_ fun _ => trivial) fun _ => trivial
    refine within_ask (hreads _ rfl) fun r _ => ?_
    match r with
    | .error .notFound => trivial
    | .error .alreadyExists | .error .conflict | .error (.other _) => trivial
    | .ok sec =>
      show Within _ _ (if isOwnedByBucketAccess sec ba' then _ else .ret ())
      split
      · exact within_deleteIfFound hreads .secret _ true
      · trivial
  · split <;> trivial

/-- What a reconcile writes is found by clean-up. -/
theorem reconcile_selected (std : Decoders) :
    Within (Honest ba) (WritesSelected ba) (reconcile std ba.key) := by
  have hreads : ∀ op, WritesNothing op → WritesSelected ba op := fun _ hop => hop.writesSelected ba
  refine within_ask (hreads _ rfl) fun r hr => ?_
  match r, hr with
  | .error .notFound, _ => trivial
  | .error .alreadyExists, _ | .error .conflict, _ | .error (.other _), _ => trivial
  | .ok ba', hr =>
    have hsame := hr rfl ba' rfl
    show Within _ _ (reconcileAccess std ba')
    unfold reconcileAccess
    split
    · exact Within.bind (within_deleteOwnedFlatPair hreads _) fun _ => trivial
    · split
      · trivial
      · refine Within.bind (within_deleteOwnedFlatPair hreads _) fun _ => ?_
        refine within_ask (hreads _ rfl) fun r _ => ?_
        match r with
        | .error .notFound => trivial
        | .error .alreadyExists | .error .conflict | .error (.other _) => trivial
        | .ok src =>
          show Within _ _ (flattenData ba' (flatDataOf std src))
          cases flatDataOf std src with
          | none => trivial
          | some d => exact within_flatten hsame d

end Calls

/-! ## The invariant -/

/-- The `BucketAccess` is the one that is being discarded. -/
def OneAccess (ba : BucketAccess) (c : Cluster) : Prop :=
  ∀ ba' ∈ c.accesses, ba'.key = ba.key → SameAccess ba ba'

theorem OneAccess.exec (h : OneAccess ba c) (call : ApiCall) : OneAccess ba (exec call c).2 := by
  intro ba' hmem hkey
  obtain ⟨ba₀, hmem₀, granted, account, rfl⟩ := exec_access hmem
  obtain ⟨_, huid, hname⟩ := h ba₀ hmem₀ hkey
  exact ⟨hkey, huid, hname⟩

theorem honest_serve (h : OneAccess ba c) (op : Op) : Honest ba op (serve op c).1 := by
  obtain ⟨call, rollback⟩ := op
  cases call with
  | getAccess key =>
    rintro rfl ba' hba'
    obtain ⟨hmem, hkey⟩ := find?_eq_some_iff.mp (found_eq_ok_iff.mp hba')
    exact h ba' hmem hkey
  | get kind key =>
    intro o ho
    exact (find?_eq_some_iff.mp (found_eq_ok_iff.mp ho)).2
  | list | create | update | delete | removeFinalizer | updateStatus => trivial

/-- A reconcile that does not read the credentials Secret has not found it. -/
theorem unread_serve (h : OneAccess ba c) {op : Op} {k : op.Resp → Api Outcome}
    (hreads : readsCredentials ba c (.call op k) = false) :
    Unread ba op (serve op c).1 := by
  refine ⟨honest_serve h op, fun hcall => ?_⟩
  obtain ⟨call, rollback⟩ := op
  obtain rfl : call = .get .secret (credentialsKey ba) := hcall
  have hhas : (c.objects .secret).hasKey (credentialsKey ba) = false := by
    simpa [readsCredentials] using hreads
  have hnone : (c.objects .secret).find? (credentialsKey ba) = none := by
    rw [eq_none_iff_forall_ne_some]
    intro o ho
    obtain ⟨hmem, hkey⟩ := find?_eq_some_iff.mp ho
    rw [hasKey_iff.mpr ⟨o, hmem, hkey⟩] at hhas
    cases hhas
  show (found ((c.objects .secret).find? (credentialsKey ba))).isOk = false
  rw [hnone]
  rfl

/-- Clean-up finds what the reconcile has yet to write. -/
def Proc.Selected (ba : BucketAccess) (p : Proc) : Prop :=
  Within (Honest ba) (WritesSelected ba) p.prog

/-- Without the credentials Secret the reconcile writes nothing. -/
def Proc.Idle (ba : BucketAccess) (p : Proc) : Prop :=
  p.hasRead = false → Within (Unread ba) WritesNothing p.prog

structure Inv (ba : BucketAccess) (sec : Option Obj) (d : FlatData) (s : System) : Prop where
  access : OneAccess ba s.cluster
  selected : ∀ i, (s.procs i).Selected ba
  idle : ∀ i, (s.procs i).Idle ba
  before : s.begun = false → s.poke = pokeSidecarRegrant ba sec ∧ AllSelected ba d s.cluster
  after : s.begun = true → (∀ i, (s.procs i).Clear) ∧
    Ensures amongDeletions (fun _ c => ∀ kind, NoneBuilt ba d kind c) (fun _ _ => False)
      s.poke s.cluster

section Steps

variable {std : Decoders} {ba : BucketAccess} {sec : Option Obj} {d : FlatData} {s s' : System}

theorem AllSelected.exec {c : Cluster} {op : Op} (h : AllSelected ba d c)
    (hop : WritesSelected ba op) : AllSelected ba d (exec op.call c).2 := by
  intro kind o ho hbuilt
  rcases exec_new ho with hold | ⟨obj, v, hwritten, rfl⟩
  · exact h kind o hold hbuilt
  · exact hop kind obj hwritten

theorem among_serve (op : Op) (c : Cluster) :
    amongDeletions.step op c (serve op c).1 (serve op c).2 :=
  ⟨rfl, rfl⟩

theorem Inv.poke (h : Inv ba sec d s) (hok : Undisturbed ba s .poke)
    (hstep : step std ba s .poke = some s') : Inv ba sec d s' := by
  obtain ⟨⟨p, c⟩, hadv, rfl⟩ := map_eq_some_iff.mp hstep
  have haccess : OneAccess ba c := by
    cases hp : s.poke with
    | ret a => rw [hp] at hadv; cases hadv
    | fail e => rw [hp] at hadv; cases hadv
    | call op k =>
      rw [hp] at hadv
      cases hadv
      exact h.access.exec op.call
  have hensures : (∀ i, (s.procs i).Clear) ∧
      Ensures amongDeletions (fun _ c => ∀ kind, NoneBuilt ba d kind c) (fun _ _ => False)
        s.poke s.cluster := by
    cases hbegun : s.begun with
    | true => exact h.after hbegun
    | false =>
      obtain ⟨hpoke, hselected⟩ := h.before hbegun
      rw [hpoke]
      exact ⟨hok hbegun, ensures_pokeSidecarRegrant sec hselected⟩
  exact { access := haccess
          selected := h.selected
          idle := h.idle
          before := fun hb => nomatch hb
          after := fun _ => ⟨hensures.1,
            (hensures.2.advance among_serve hadv).2⟩ }

variable {i : Nat}

theorem forall_update {P : Proc → Prop} {procs : Nat → Proc} {p : Proc} (hold : ∀ j, P (procs j))
    (hnew : P p) : ∀ j, P (update procs i p j) :=
  (forall_update_iff procs fun _ q => P q).mpr ⟨hnew, fun j _ => hold j⟩

theorem Inv.start (h : Inv ba sec d s) (hstep : step std ba s (.start i) = some s') :
    Inv ba sec d s' := by
  have hstarted : (if isRunning (s.procs i).prog then none
    else some { s with procs := update s.procs i ⟨reconcile std ba.key, false⟩ }) = some s' := hstep
  split at hstarted
  · cases hstarted
  · cases hstarted
    exact { access := h.access
            selected := forall_update (P := Proc.Selected ba) h.selected (reconcile_selected std)
            idle := forall_update (P := Proc.Idle ba) h.idle fun _ => reconcile_unread std
            before := h.before
            after := fun hb =>
              ⟨forall_update (P := Proc.Clear) (h.after hb).1 fun _ => rfl, (h.after hb).2⟩ }

theorem Inv.reconcile (h : Inv ba sec d s) (hok : Undisturbed ba s (.reconcile i))
    (hstep : step std ba s (.reconcile i) = some s') : Inv ba sec d s' := by
  obtain ⟨⟨p, c⟩, hadv, rfl⟩ := map_eq_some_iff.mp hstep
  have hselected : Within (Honest ba) (WritesSelected ba) (s.procs i).prog := h.selected i
  have hunread : (s.procs i).hasRead = false → Within (Unread ba) WritesNothing (s.procs i).prog :=
    h.idle i
  have hundisturbed : s.begun = true → readsCredentials ba s.cluster (s.procs i).prog = false := hok
  cases hp : (s.procs i).prog with
  | ret a => rw [hp] at hadv; cases hadv
  | fail e => rw [hp] at hadv; cases hadv
  | call op k =>
    rw [hp] at hadv hselected hunread hundisturbed
    cases hadv
    have hnew : ((s.procs i).hasRead || readsCredentials ba s.cluster (.call op k)) = false →
        Within (Unread ba) WritesNothing (k (serve op s.cluster).1) := by
      intro hread
      obtain ⟨hnot, hreads⟩ := or_eq_false_iff.mp hread
      exact (hunread hnot).2 _ (unread_serve h.access hreads)
    exact
      { access := h.access.exec op.call
        selected := forall_update (P := Proc.Selected ba) h.selected
          (hselected.2 _ (honest_serve h.access op))
        idle := forall_update (P := Proc.Idle ba) h.idle hnew
        before := fun hb => ⟨(h.before hb).1, (h.before hb).2.exec hselected.1⟩
        after := fun hb => by
          obtain ⟨hrunning, hensures⟩ := h.after hb
          have hnot : (s.procs i).hasRead = false := hrunning i (by rw [hp]; rfl)
          refine ⟨forall_update (P := Proc.Clear) hrunning fun _ => ?_, ?_⟩
          · exact or_eq_false_iff.mpr ⟨hnot, hp ▸ hundisturbed hb⟩
          · -- the reconcile has not read the Secret, so its call writes nothing
            exact hensures.stable (fewer_exec _ s.cluster (hunread hnot).1) }

theorem inv_start {c : Cluster} (haccess : OneAccess ba c) (hselected : AllSelected ba d c) :
    Inv ba sec d (Flat.start ba sec c) where
  access := haccess
  selected _ := trivial
  idle _ _ := trivial
  before _ := ⟨rfl, hselected⟩
  after hb := nomatch hb

/-- A step of anybody keeps the invariant. -/
theorem Inv.step {a : Act} (h : Inv ba sec d s) (hok : Undisturbed ba s a)
    (hstep : Flat.step std ba s a = some s') : Inv ba sec d s' := by
  cases a with
  | poke => exact h.poke hok hstep
  | start i => exact h.start hstep
  | reconcile i => exact h.reconcile hok hstep

end Steps

/-- If no reconcile has the credentials Secret in its hands when `PokeSidecarRegrant` starts and
none reads it afterwards, then that does not fail, and leaves no owned flat object built from a
BucketInfo, if clean-up could find all of them at the start. -/
theorem regrant_discards (std : Decoders) {ba : BucketAccess} (sec : Option Obj) (d : FlatData)
    {c : Cluster} (hba : ba ∈ c.accesses) (hselected : AllSelected ba d c) {as : List Act}
    {t : System} (hok : RunMeets (step std ba) (Undisturbed ba) (start ba sec c) as)
    (hrun : runFrom (step std ba) (start ba sec c) as = some t)
    (hdone : isRunning t.poke = false) :
    t.poke = .ret () ∧ ∀ kind, ∀ o ∈ t.cluster.objects kind, ¬BuiltFrom ba d kind o := by
  have haccess : OneAccess ba c := by
    intro ba' hmem hkey
    rw [eq_of_key hmem hba hkey]
    exact ⟨rfl, rfl, rfl⟩
  have hinv : Inv ba sec d t :=
    runFrom_invariant (fun _ _ _ h hok hs => h.step hok hs) as (inv_start haccess hselected) hok
      hrun
  cases hbegun : t.begun with
  | false =>
    -- a program that was not started is running
    rw [(hinv.before hbegun).1] at hdone
    cases hdone
  | true =>
    have hensures := (hinv.after hbegun).2
    cases hp : t.poke with
    | ret a =>
      rw [hp] at hensures
      exact ⟨rfl, hensures t.cluster (amongDeletions.rely_refl _)⟩
    | fail e =>
      rw [hp] at hensures
      exact (hensures t.cluster (amongDeletions.rely_refl _)).elim
    | call op k =>
      rw [hp] at hdone
      cases hdone

/-! ## A reconcile that is late -/

def lateAccess : BucketAccess where
  key := ⟨"ns", "ba1"⟩
  uid := "u1"
  annotations := [("cosi.vastdata.com/flatten-credentials", "true")]
  credentialsSecretName := "creds"
  accessGranted := true
  accountID := "a1"

def lateSecret : Obj where
  key := ⟨"ns", "creds"⟩
  owners := []
  labels := []
  data := [("BucketInfo", "info")]
  resourceVersion := 1

def lateCluster : Cluster where
  accesses := Table.empty.insert lateAccess
  objects
    | .secret => Table.empty.insert lateSecret
    | .configMap => Table.empty
  revision := 1

def oneInfo : Decoders where
  unmarshal _ := .ok ⟨"b1", "ak", "sk", "http://h:80"⟩
  parseUrl _ := .ok ⟨"http", "h:80", "h", "80"⟩

def lateInfo : FlatData := ⟨"ak", "sk", "b1", "http://h:80", "h", "80"⟩

/-- One reconcile has made the pair; another starts after the first call of `PokeSidecarRegrant`
and comes to the Secret when it is deleted. -/
def promptActs : List Act :=
  .start 0 :: List.replicate 8 (.reconcile 0) ++
    [.poke, .start 1, .reconcile 1, .poke, .reconcile 1, .poke, .poke, .reconcile 1, .poke, .poke,
      .reconcile 1, .poke]

theorem regrant_discards_prompt :
    ∃ t, runFrom (step oneInfo lateAccess) (start lateAccess (some lateSecret) lateCluster)
        promptActs = some t ∧ (t.procs 1).hasRead = false ∧
      t.poke = .ret () ∧
      ∀ kind, ∀ o ∈ t.cluster.objects kind, ¬BuiltFrom lateAccess lateInfo kind o := by
  have hrun : ∃ t, runFrom (step oneInfo lateAccess)
      (start lateAccess (some lateSecret) lateCluster) promptActs = some t ∧
        (t.procs 1).hasRead = false ∧ isRunning t.poke = false := ⟨_, rfl, rfl, rfl⟩
  obtain ⟨t, hrun, hread, hdone⟩ := hrun
  refine ⟨t, hrun, hread, regrant_discards oneInfo (some lateSecret) lateInfo
    (List.mem_singleton_self _) ?_ ?_ hrun hdone⟩
  · intro kind o ho hbuilt
    cases kind with
    | secret =>
      rcases mem_insert_cases ho with hnone | rfl
      · cases hnone
      · cases hbuilt.1
    | configMap => cases ho
  · refine RunMeets.cons trivial rfl ?_
    iterate 8 refine RunMeets.cons (fun h => nomatch h) rfl ?_
    -- the reconcile has returned when the first call of `PokeSidecarRegrant` is made
    refine RunMeets.cons (fun _ i => ?_) rfl ?_
    · cases i with
      | zero => exact fun h => nomatch h
      | succ n => exact fun h => nomatch h
    refine RunMeets.cons trivial rfl ?_
    refine RunMeets.cons (fun _ => rfl) rfl ?_
    refine RunMeets.cons (fun h => nomatch h) rfl ?_
    refine RunMeets.cons (fun _ => rfl) rfl ?_
    iterate 2 refine RunMeets.cons (fun h => nomatch h) rfl ?_
    refine RunMeets.cons (fun _ => rfl) rfl ?_
    iterate 2 refine RunMeets.cons (fun h => nomatch h) rfl ?_
    refine RunMeets.cons (fun _ => rfl) rfl ?_
    exact RunMeets.cons (fun h => nomatch h) rfl trivial

def lateActs : List Act :=
  .start 0 :: List.replicate 4 (.reconcile 0) ++ List.replicate 5 .poke ++
    List.replicate 4 (.reconcile 0)

/-- Everything has returned, the credentials Secret is gone, and its keys are in a flat Secret. -/
theorem flattened_after_discard : flatDataOf oneInfo lateSecret = some lateInfo ∧
    ∃ t, runFrom (step oneInfo lateAccess) (start lateAccess (some lateSecret) lateCluster)
        lateActs = some t ∧
      isRunning t.poke = false ∧ (∀ i, isRunning (t.procs i).prog = false) ∧
      (t.cluster.objects .secret).hasKey lateSecret.key = false ∧
      ∃ o ∈ t.cluster.objects .secret, BuiltFrom lateAccess lateInfo .secret o := by
  refine ⟨rfl, _, rfl, rfl, fun i => ?_, rfl, ?_⟩
  · cases i with
    | zero => rfl
    | succ n => rfl
  · exact ⟨_, List.mem_singleton_self _, rfl, rfl, rfl⟩

end VastCsi.Ext.Flat
