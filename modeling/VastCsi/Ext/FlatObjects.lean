import Mathlib.Logic.Function.Basic
import VastCsi.Lib.Calls
import VastCsi.Lib.Table
import VastCsi.Lib.Text

/-!
# Flat credentials: the objects and the API

The COSI sidecar writes the credentials of a `BucketAccess` into a Secret, as one JSON text. The
extensions controller flattens it into a Secret and a ConfigMap, both called like the credentials
Secret with `-flat` appended, controlled by the `BucketAccess` and labelled with its UID. A
deletion removes the object: finalizers are not modelled.
-/

namespace VastCsi.Ext.Flat

open Lib Function Table

structure Key where
  namespace_ : String
  name : String
  deriving DecidableEq, Repr

structure OwnerRef where
  group : String
  kind : String
  name : String
  uid : String
  controller : Bool
  deriving DecidableEq, Repr

inductive Kind where
  | secret | configMap
  deriving DecidableEq, Repr

structure Obj where
  key : Key
  owners : List OwnerRef
  labels : List (String × String)
  data : List (String × String)
  resourceVersion : Nat
  deriving DecidableEq, Repr

structure BucketAccess where
  key : Key
  uid : String
  annotations : List (String × String)
  credentialsSecretName : String
  accessGranted : Bool
  accountID : String
  deriving DecidableEq, Repr

def BucketAccess.withStatus (granted : Bool) (account : String) (ba : BucketAccess) :
    BucketAccess :=
  { ba with accessGranted := granted, accountID := account }

def labelBucketAccessUID : String := "cosi.vastdata.com/bucketaccess-uid"

def isOwnedByBucketAccess (obj : Obj) (ba : BucketAccess) : Bool :=
  obj.owners.any fun ref => ref.uid == ba.uid && ref.controller

def isLabelled (obj : Obj) (uid : String) : Bool :=
  obj.labels.lookup labelBucketAccessUID == some uid

def flatName (credentialsSecretName : String) : String := credentialsSecretName ++ "-flat"

def isFlatName (name : String) : Bool := Text.endsWith name "-flat"

inductive ApiErr where
  | notFound
  | alreadyExists
  | conflict
  | other (text : String)
  deriving DecidableEq, Repr

/-- A call, as far as the controllers of this file make it. -/
inductive ApiCall where
  | getAccess (key : Key)
  | list (kind : Kind) (namespace_ uid : String)
  | get (kind : Kind) (key : Key)
  | create (kind : Kind) (obj : Obj)
  | update (kind : Kind) (obj : Obj)
  | delete (kind : Kind) (key : Key)
  | removeFinalizer (key : Key) (finalizer : String)
  | updateStatus (key : Key) (accessGranted : Bool) (accountID : String)
  deriving DecidableEq, Repr

def ApiCall.Payload : ApiCall → Type
  | .getAccess _ => BucketAccess
  | .list .. => List Obj
  | .get .. => Obj
  | _ => Unit

/-- A call together with a mark: is it made to undo an earlier one? -/
structure Op where
  call : ApiCall
  rollback : Bool
  deriving DecidableEq, Repr

abbrev Op.Resp (op : Op) : Type := Except ApiErr op.call.Payload

structure Cluster where
  accesses : Table BucketAccess BucketAccess.key
  objects : Kind → Table Obj Obj.key
  revision : Nat

namespace Cluster

def setObjects (c : Cluster) (kind : Kind) (t : Table Obj Obj.key) : Cluster :=
  { c with objects := update c.objects kind t }

def stamp (c : Cluster) (obj : Obj) : Obj := { obj with resourceVersion := c.revision + 1 }

def store (c : Cluster) (kind : Kind) (obj : Obj) : Cluster :=
  { c.setObjects kind (((c.objects kind).erase obj.key).insert (c.stamp obj)) with
    revision := c.revision + 1 }

def create (c : Cluster) (kind : Kind) (obj : Obj) : Except ApiErr Unit × Cluster :=
  if (c.objects kind).hasKey obj.key then (.error .alreadyExists, c)
  else (.ok (), c.store kind obj)

def update (c : Cluster) (kind : Kind) (obj : Obj) : Except ApiErr Unit × Cluster :=
  match (c.objects kind).find? obj.key with
  | none => (.error .notFound, c)
  | some cur =>
    if cur.resourceVersion = obj.resourceVersion then (.ok (), c.store kind obj)
    else (.error .conflict, c)

def delete (c : Cluster) (kind : Kind) (key : Key) : Except ApiErr Unit × Cluster :=
  if (c.objects kind).hasKey key then
    (.ok (), c.setObjects kind ((c.objects kind).erase key))
  else (.error .notFound, c)

/-- `Status().Update`: the rest of the `BucketAccess` is not written. -/
def updateStatus (c : Cluster) (key : Key) (granted : Bool) (account : String) :
    Except ApiErr Unit × Cluster :=
  if c.accesses.hasKey key then
    (.ok (), { c with
      accesses := c.accesses.modify key (BucketAccess.withStatus granted account) fun _ => rfl })
  else (.error .notFound, c)

end Cluster

def found {α : Type} : Option α → Except ApiErr α
  | some a => .ok a
  | none => .error .notFound

def exec : (call : ApiCall) → Cluster → Except ApiErr call.Payload × Cluster
  | .getAccess key, c => (found (c.accesses.find? key), c)
  | .list kind ns uid, c =>
    (.ok ((c.objects kind).select fun o => o.key.namespace_ == ns && isLabelled o uid), c)
  | .get kind key, c => (found ((c.objects kind).find? key), c)
  | .create kind obj, c => c.create kind obj
  | .update kind obj, c => c.update kind obj
  | .delete kind key, c => c.delete kind key
  | .removeFinalizer .., c => (.ok (), c)
  | .updateStatus key granted account, c => c.updateStatus key granted account

def ApiCall.written : ApiCall → Option (Kind × Obj)
  | .create kind obj => some (kind, obj)
  | .update kind obj => some (kind, obj)
  | _ => none

def ApiCall.leavesObjects : ApiCall → Bool
  | .create .. | .update .. | .delete .. => false
  | _ => true

@[simp] theorem setObjects_same (c : Cluster) (kind : Kind) (t : Table Obj Obj.key) :
    (c.setObjects kind t).objects kind = t :=
  update_self ..

variable {kind kind' : Kind} {call : ApiCall} {c : Cluster} {obj o : Obj}

theorem setObjects_of_ne (c : Cluster) (t : Table Obj Obj.key) (h : kind' ≠ kind) :
    (c.setObjects kind t).objects kind' = c.objects kind' :=
  update_of_ne h ..

theorem objects_of_leavesObjects (c : Cluster) (h : call.leavesObjects = true) :
    (exec call c).2.objects = c.objects := by
  cases call with
  | getAccess key => rfl
  | list kind ns uid => rfl
  | get kind key => rfl
  | create kind obj => cases h
  | update kind obj => cases h
  | delete kind key => cases h
  | removeFinalizer key finalizer => rfl
  | updateStatus key granted account =>
    show (c.updateStatus key granted account).2.objects = c.objects
    unfold Cluster.updateStatus
    split <;> rfl

theorem store_same (c : Cluster) (kind : Kind) (obj : Obj) :
    (c.store kind obj).objects kind = ((c.objects kind).erase obj.key).insert (c.stamp obj) :=
  setObjects_same ..

theorem store_of_ne (c : Cluster) (obj : Obj) (h : kind' ≠ kind) :
    (c.store kind obj).objects kind' = c.objects kind' :=
  setObjects_of_ne c _ h

theorem mem_store (h : o ∈ (c.store kind obj).objects kind') :
    o ∈ c.objects kind' ∨ kind' = kind ∧ ∃ v, o = { obj with resourceVersion := v } := by
  by_cases hk : kind' = kind
  · subst hk
    rw [store_same] at h
    rcases mem_insert_cases h with hold | hnew
    · exact .inl (mem_erase.mp hold).1
    · exact .inr ⟨rfl, _, hnew⟩
  · rw [store_of_ne c obj hk] at h
    exact .inl h

theorem mem_create (h : o ∈ (c.create kind obj).2.objects kind') :
    o ∈ c.objects kind' ∨ kind' = kind ∧ ∃ v, o = { obj with resourceVersion := v } := by
  unfold Cluster.create at h
  split at h
  · exact .inl h
  · exact mem_store h

theorem mem_update (h : o ∈ (c.update kind obj).2.objects kind') :
    o ∈ c.objects kind' ∨ kind' = kind ∧ ∃ v, o = { obj with resourceVersion := v } := by
  unfold Cluster.update at h
  split at h
  · exact .inl h
  · split at h
    · exact mem_store h
    · exact .inl h

/-- A deletion takes the object under the key and nothing else. -/
theorem mem_delete {key : Key} : o ∈ (c.delete kind key).2.objects kind' ↔
      o ∈ c.objects kind' ∧ (kind' = kind → o.key ≠ key) := by
  by_cases hk : kind' = kind
  · subst hk
    unfold Cluster.delete
    split
    · rw [setObjects_same, mem_erase]
      simp
    · rename_i hhas
      refine ⟨fun h => ⟨h, fun _ hkey => hhas (hasKey_iff.mpr ⟨o, h, hkey⟩)⟩, And.left⟩
  · have hobjects : (c.delete kind key).2.objects kind' = c.objects kind' := by
      unfold Cluster.delete
      split
      · exact setObjects_of_ne c _ hk
      · rfl
    rw [hobjects]
    exact ⟨fun h => ⟨h, fun he => absurd he hk⟩, And.left⟩

/-- The server does not fail a deletion. -/
theorem delete_answer (c : Cluster) (kind : Kind) (key : Key) :
    (c.delete kind key).1 = .ok () ∨ (c.delete kind key).1 = .error .notFound := by
  unfold Cluster.delete
  split
  · exact .inl rfl
  · exact .inr rfl

/-- An object after a call was there before it, or is the one the call has written. -/
theorem exec_new (h : o ∈ (exec call c).2.objects kind) :
    o ∈ c.objects kind ∨ ∃ obj v, call.written = some (kind, obj) ∧
      o = { obj with resourceVersion := v } := by
  by_cases hleaves : call.leavesObjects = true
  · rw [objects_of_leavesObjects c hleaves] at h
    exact .inl h
  · cases call with
    | create k obj =>
      rcases mem_create h with hold | ⟨rfl, v, hv⟩
      · exact .inl hold
      · exact .inr ⟨obj, v, rfl, hv⟩
    | update k obj =>
      rcases mem_update h with hold | ⟨rfl, v, hv⟩
      · exact .inl hold
      · exact .inr ⟨obj, v, rfl, hv⟩
    | delete k key => exact .inl (mem_delete.mp h).1
    | getAccess | list | get | removeFinalizer | updateStatus => exact absurd rfl hleaves

/-- A `BucketAccess` after a call is one from before it, with its status perhaps changed. -/
theorem exec_access {ba : BucketAccess} (h : ba ∈ (exec call c).2.accesses) :
    ∃ ba₀ ∈ c.accesses, ∃ granted account, ba = ba₀.withStatus granted account := by
  cases call with
  | getAccess | list | get | removeFinalizer => exact ⟨ba, h, _, _, rfl⟩
  | create kind obj =>
    have hsame : (c.create kind obj).2.accesses = c.accesses := by
      unfold Cluster.create
      split <;> rfl
    exact ⟨ba, hsame ▸ h, _, _, rfl⟩
  | update kind obj =>
    have hsame : (c.update kind obj).2.accesses = c.accesses := by
      unfold Cluster.update
      split
      · rfl
      · split <;> rfl
    exact ⟨ba, hsame ▸ h, _, _, rfl⟩
  | delete kind key =>
    have hsame : (c.delete kind key).2.accesses = c.accesses := by
      unfold Cluster.delete
      split <;> rfl
    exact ⟨ba, hsame ▸ h, _, _, rfl⟩
  | updateStatus key granted account =>
    have h' : ba ∈ (c.updateStatus key granted account).2.accesses := h
    unfold Cluster.updateStatus at h'
    split at h'
    · have hiff : ba ∈ c.accesses.modify key (BucketAccess.withStatus granted account)
          (fun _ => rfl) ↔ ∃ ba₀ ∈ c.accesses, ba = if ba₀.key = key then
            ba₀.withStatus granted account else ba₀ := mem_modify
      obtain ⟨ba₀, hmem, rfl⟩ := hiff.mp h'
      split
      · exact ⟨ba₀, hmem, granted, account, rfl⟩
      · exact ⟨ba₀, hmem, _, _, rfl⟩
    · exact ⟨ba, h', _, _, rfl⟩

theorem found_eq_ok_iff {α : Type} {x : Option α} {a : α} : found x = .ok a ↔ x = some a := by
  cases x with
  | none => simp [found]
  | some b => simp [found]

end VastCsi.Ext.Flat
