import VastCsi.Ext.FlatObjects

/-!
# The credentials flattener

`Reconcile` brings the flat Secret and the flat ConfigMap of a `BucketAccess` up to date with its
credentials Secret. Clean-up deletes Secrets before ConfigMaps, and a ConfigMap that cannot be
written takes the Secret written before it along. Clean-up is shared with the controller that
discards credentials, which runs beside the flattener (`ensures_deleteOwnedFlat`).
-/

namespace VastCsi.Ext.Flat

open Lib Prog List Table

structure FlatData where
  accessKeyID : String
  secretAccessKey : String
  bucketName : String
  endpoint : String
  host : String
  port : String
  deriving DecidableEq, Repr

structure BucketInfo where
  bucketName : String
  accessKeyID : String
  accessSecretKey : String
  endpoint : String
  deriving DecidableEq, Repr

/-- What `url.Parse` returns, as far as it is read. -/
structure Url where
  scheme : String
  host : String
  hostname : String
  port : String
  deriving DecidableEq, Repr

/-- The standard library: `json.Unmarshal` and `url.Parse`. -/
structure Decoders where
  unmarshal : String → Except String BucketInfo
  parseUrl : String → Except String Url

def normalizeEndpoint (endpoint : String) : String :=
  let endpoint := Text.trim endpoint
  if Text.startsWith endpoint "://" then "http" ++ endpoint
  else if !Text.contains endpoint "://" then "http://" ++ endpoint
  else endpoint

def defaultPort (scheme : String) : Except String String :=
  match scheme.toLower with
  | "https" => .ok "443"
  | "http" | "" => .ok "80"
  | _ => .error s!"endpoint missing port for scheme \"{scheme}\""

def splitEndpoint (std : Decoders) (endpoint : String) : Except String (String × String) :=
  match std.parseUrl (normalizeEndpoint endpoint) with
  | .error e => .error s!"parse endpoint: {e}"
  | .ok u =>
    if u.host = "" ∨ u.hostname = "" then .error s!"endpoint missing host: \"{endpoint}\""
    else if u.port = "" then (defaultPort u.scheme).map fun p => (u.hostname, p)
    else .ok (u.hostname, u.port)

def parseBucketInfo (std : Decoders) (raw : String) : Except String FlatData :=
  match std.unmarshal raw with
  | .error e => .error s!"parse BucketInfo: {e}"
  | .ok bi =>
    if bi.bucketName = "" ∨ bi.accessKeyID = "" ∨ bi.accessSecretKey = "" ∨ bi.endpoint = "" then
      .error ("BucketInfo incomplete: need spec.bucketName and " ++
        "spec.secretS3.\x7baccessKeyID,accessSecretKey,endpoint\x7d")
    else
      (splitEndpoint std (normalizeEndpoint bi.endpoint)).map fun hostPort =>
        { accessKeyID := bi.accessKeyID
          secretAccessKey := bi.accessSecretKey
          bucketName := bi.bucketName
          endpoint := normalizeEndpoint bi.endpoint
          host := hostPort.1
          port := hostPort.2 }

def wantFlatten (annotations : List (String × String)) : Bool :=
  annotations.lookup "cosi.vastdata.com/flatten-credentials" == some "true"

inductive Err where
  | api (e : ApiErr)
  | foreignFlat
  | alreadyOwned (owner : String)
  | rollbackFailed (err rollback : Err)
  deriving DecidableEq, Repr

/-- `errors.Is(err, errForeignFlat)`: the error of a failed rollback wraps the first one. -/
def Err.isForeignFlat : Err → Bool
  | .foreignFlat => true
  | .rollbackFailed err _ => err.isForeignFlat
  | _ => false

abbrev Api := Prog Op Op.Resp Err

def ask (call : ApiCall) (rollback : Bool) : Api (Except ApiErr call.Payload) :=
  perform (Op.mk call rollback)

def orThrow {α : Type} : Except ApiErr α → Api α
  | .ok a => .ret a
  | .error e => .fail (.api e)

def ignoreNotFound : Except ApiErr Unit → Api Unit
  | .ok _ => pure ()
  | .error .notFound => pure ()
  | .error e => throw (.api e)

def deleteIfFound (kind : Kind) (key : Key) (rollback : Bool) : Api Unit := do
  let r ← ask (.delete kind key) rollback
  ignoreNotFound r

def isDoomed (ba : BucketAccess) (keepName : String) (o : Obj) : Bool :=
  isOwnedByBucketAccess o ba && !(keepName != "" && o.key.name == keepName)

def deleteOwnedFlat (ba : BucketAccess) (keepName : String) (kind : Kind) : Api Unit := do
  let items ← (ask (.list kind ba.key.namespace_ ba.uid) false).bind orThrow
  each (fun o => if isDoomed ba keepName o then deleteIfFound kind o.key false else pure ()) items

def deleteOwnedFlatPair (ba : BucketAccess) (keepName : String) : Api Unit := do
  deleteOwnedFlat ba keepName .secret
  deleteOwnedFlat ba keepName .configMap

def BucketAccess.ownerRef (ba : BucketAccess) : OwnerRef where
  group := "objectstorage.k8s.io"
  kind := "BucketAccess"
  name := ba.key.name
  uid := ba.uid
  controller := true

def OwnerRef.refersTo (a b : OwnerRef) : Bool :=
  a.group == b.group && a.kind == b.kind && a.name == b.name

def upsertOwnerRef (ref : OwnerRef) : List OwnerRef → List OwnerRef
  | [] => [ref]
  | r :: rs => if r.refersTo ref then ref :: rs else r :: upsertOwnerRef ref rs

def setControllerReference (ba : BucketAccess) (owners : List OwnerRef) :
    Except Err (List OwnerRef) :=
  match owners.find? (·.controller) with
  | none => .ok (upsertOwnerRef ba.ownerRef owners)
  | some existing =>
    if existing.refersTo ba.ownerRef then .ok (upsertOwnerRef ba.ownerRef owners)
    else .error (.alreadyOwned existing.name)

def setLabel (key value : String) : List (String × String) → List (String × String)
  | [] => [(key, value)]
  | (k, v) :: rest => if k == key then (k, value) :: rest else (k, v) :: setLabel key value rest

/-- What `ensureFlatSecret` and `ensureFlatConfigMap` make of an object; `existed` tells that it
has a UID. -/
def mutateFlat (ba : BucketAccess) (data : List (String × String)) (existed : Bool) (obj : Obj) :
    Except Err Obj :=
  -- a foreign object of that name is neither adopted nor overwritten
  if existed && !isOwnedByBucketAccess obj ba then .error .foreignFlat
  else
    (setControllerReference ba obj.owners).map fun owners =>
      { obj with
        owners := owners
        labels := setLabel labelBucketAccessUID ba.uid obj.labels
        data := data }

def throwing {α : Type} : Except Err α → Api α
  | .ok a => .ret a
  | .error e => .fail e

def newObj (key : Key) : Obj := ⟨key, [], [], [], 0⟩

/-- `CreateOrUpdate`, after its `Get`. An object that the mutation does not change is not
written. -/
def writeFound (kind : Kind) (key : Key) (mutate : Bool → Obj → Except Err Obj) :
    Except ApiErr Obj → Api Unit
  | .error .notFound => do
    let obj ← throwing (mutate false (newObj key))
    (ask (.create kind obj) false).bind orThrow
  | .error e => throw (.api e)
  | .ok existing => do
    let obj ← throwing (mutate true existing)
    if obj = existing then pure () else (ask (.update kind obj) false).bind orThrow

def createOrUpdate (kind : Kind) (key : Key) (mutate : Bool → Obj → Except Err Obj) : Api Unit := do
  let r ← ask (.get kind key) false
  writeFound kind key mutate r

def secretData (data : FlatData) : List (String × String) :=
  [("AWS_ACCESS_KEY_ID", data.accessKeyID), ("AWS_SECRET_ACCESS_KEY", data.secretAccessKey)]

def configMapData (data : FlatData) : List (String × String) :=
  [("BUCKET_NAME", data.bucketName), ("BUCKET_HOST", data.host), ("BUCKET_PORT", data.port),
    ("BUCKET_ENDPOINT", data.endpoint)]

def ensureFlat (kind : Kind) (ba : BucketAccess) (name : String) (data : List (String × String)) :
    Api Unit :=
  createOrUpdate kind ⟨ba.key.namespace_, name⟩ (mutateFlat ba data)

def ensureFlatSecret (ba : BucketAccess) (name : String) (data : FlatData) : Api Unit :=
  ensureFlat .secret ba name (secretData data)

def ensureFlatConfigMap (ba : BucketAccess) (name : String) (data : FlatData) : Api Unit :=
  ensureFlat .configMap ba name (configMapData data)

/-- `rollbackFlatSecret`, after its `Get`. -/
def rollbackFound (ba : BucketAccess) : Except ApiErr Obj → Api Unit
  | .error .notFound => pure ()
  | .error e => throw (.api e)
  | .ok sec => if isOwnedByBucketAccess sec ba then deleteIfFound .secret sec.key true else pure ()

def rollbackFlatSecret (ba : BucketAccess) (name : String) : Api Unit := do
  let r ← ask (.get .secret ⟨ba.key.namespace_, name⟩) true
  rollbackFound ba r

/-- What `ensureFlatPair` does when the ConfigMap was not written. -/
def undoSecret (ba : BucketAccess) (name : String) (err : Err) : Api Unit := do
  (rollbackFlatSecret ba name).catching fun rbErr => .fail (.rollbackFailed err rbErr)
  throw err

def ensureFlatPair (ba : BucketAccess) (name : String) (data : FlatData) : Api Unit := do
  ensureFlatSecret ba name data
  (ensureFlatConfigMap ba name data).catching (undoSecret ba name)

inductive Outcome where
  | done | requeueAfter
  deriving DecidableEq, Repr

/-- The end of `Reconcile`: a foreign object is reported and tried again later. -/
def flatten (ba : BucketAccess) (data : FlatData) : Api Outcome :=
  ((ensureFlatPair ba (flatName ba.credentialsSecretName) data).bind fun _ => .ret .done).catching
    fun err => if err.isForeignFlat then .ret .requeueAfter else .fail err

def flatDataOf (std : Decoders) (src : Obj) : Option FlatData :=
  (src.data.lookup "BucketInfo").bind fun raw => (parseBucketInfo std raw).toOption

/-- Without a BucketInfo that parses, what is there is kept. -/
def flattenData (ba : BucketAccess) : Option FlatData → Api Outcome
  | none => pure .requeueAfter
  | some data => flatten ba data

def flattenFound (std : Decoders) (ba : BucketAccess) : Except ApiErr Obj → Api Outcome
  | .error .notFound => pure .requeueAfter
  | .error e => throw (.api e)
  | .ok src => flattenData ba (flatDataOf std src)

def flattenSource (std : Decoders) (ba : BucketAccess) : Api Outcome := do
  let r ← ask (.get .secret ⟨ba.key.namespace_, ba.credentialsSecretName⟩) false
  flattenFound std ba r

def reconcileAccess (std : Decoders) (ba : BucketAccess) : Api Outcome :=
  if !wantFlatten ba.annotations then do
    deleteOwnedFlatPair ba ""
    pure .done
  else if ba.credentialsSecretName = "" then pure .requeueAfter
  else do
    deleteOwnedFlatPair ba (flatName ba.credentialsSecretName)
    flattenSource std ba

def reconcileFound (std : Decoders) : Except ApiErr BucketAccess → Api Outcome
  | .error .notFound => pure .done
  | .error e => throw (.api e)
  | .ok ba => reconcileAccess std ba

def reconcile (std : Decoders) (req : Key) : Api Outcome := do
  let r ← ask (.getAccess req) false
  reconcileFound std r

structure IsFlat (ba : BucketAccess) (data : List (String × String)) (o : Obj) : Prop where
  owned : isOwnedByBucketAccess o ba = true
  labelled : isLabelled o ba.uid = true
  data : o.data = data

theorem ownerRef_mem_upsertOwnerRef (ref : OwnerRef) :
    ∀ owners : List OwnerRef, ref ∈ upsertOwnerRef ref owners
  | [] => mem_singleton_self ref
  | r :: rs => by
    rw [upsertOwnerRef]
    split
    · exact mem_cons_self
    · exact mem_cons_of_mem r (ownerRef_mem_upsertOwnerRef ref rs)

theorem lookup_setLabel (key value : String) :
    ∀ labels : List (String × String), (setLabel key value labels).lookup key = some value
  | [] => lookup_cons_self
  | (k, v) :: rest => by
    rw [setLabel]
    split
    next hk =>
      rw [beq_iff_eq] at hk
      subst hk
      exact lookup_cons_self
    next hk =>
      have hne : (key == k) = false := by
        rw [beq_eq_false_iff_ne]
        rintro rfl
        exact hk (beq_self_eq_true key)
      rw [lookup_cons, hne]
      exact lookup_setLabel key value rest

/-- The mutation makes a flat object, and takes no foreign one. -/
theorem mutateFlat_ok {ba : BucketAccess} {data : List (String × String)} {existed : Bool}
    {obj obj' : Obj} (h : mutateFlat ba data existed obj = .ok obj') :
    obj'.key = obj.key ∧ obj'.resourceVersion = obj.resourceVersion ∧ IsFlat ba data obj' ∧
      (existed = true → isOwnedByBucketAccess obj ba = true) := by
  unfold mutateFlat at h
  split at h
  · cases h
  · rename_i hforeign
    cases howners : setControllerReference ba obj.owners with
    | error e =>
      rw [howners] at h
      cases h
    | ok owners =>
      rw [howners] at h
      cases h
      have hmem : ba.ownerRef ∈ owners := by
        unfold setControllerReference at howners
        split at howners
        · cases howners
          exact ownerRef_mem_upsertOwnerRef _ _
        · split at howners
          · cases howners
            exact ownerRef_mem_upsertOwnerRef _ _
          · cases howners
      refine ⟨rfl, rfl, ⟨?_, ?_, rfl⟩, ?_⟩
      · refine any_eq_true.mpr ⟨ba.ownerRef, hmem, ?_⟩
        simp [BucketAccess.ownerRef]
      · simp [isLabelled, lookup_setLabel]
      · rintro rfl
        simpa using hforeign

/-- The answer of the server, or the error of a call that had no effect. Only the server answers
that an object is not found. -/
def Answered (op : Op) (c : Cluster) (r : op.Resp) (c' : Cluster) : Prop :=
  (r = (exec op.call c).1 ∧ c' = (exec op.call c).2) ∨ ∃ e, e ≠ .notFound ∧ r = .error e ∧ c' = c

def Fewer (c c' : Cluster) : Prop := ∀ kind o, o ∈ c'.objects kind → o ∈ c.objects kind

def isSelected (ba : BucketAccess) (o : Obj) : Bool :=
  o.key.namespace_ == ba.key.namespace_ && isLabelled o ba.uid

/-- A call that writes no object. -/
theorem fewer_exec (call : ApiCall) (c : Cluster) (h : call.written = none) :
    Fewer c (exec call c).2 := by
  intro kind o ho
  rcases exec_new ho with hold | ⟨obj, v, hwritten, _⟩
  · exact hold
  · rw [h] at hwritten
    cases hwritten

theorem fewer_delete (c : Cluster) (kind : Kind) (key : Key) : Fewer c (c.delete kind key).2 :=
  fewer_exec (.delete kind key) c rfl

section CleanUp

variable {R : Rules Op Op.Resp Cluster} {ba : BucketAccess} {keepName : String} {kind : Kind}
  {J : Cluster → Prop} {E : Err → Cluster → Prop}

def ApiCall.cleansUp (ba : BucketAccess) (kind : Kind) : ApiCall → Prop
  | .list kind' ns uid => kind' = kind ∧ ns = ba.key.namespace_ ∧ uid = ba.uid
  | .delete kind' _ => kind' = kind
  | _ => False

/-- What is known while clean-up deletes: `c₁` is the state that was listed. -/
structure Deleting (J : Cluster → Prop) (ba : BucketAccess) (keepName : String) (kind : Kind)
    (c₁ : Cluster) (left : List Obj) (c : Cluster) : Prop where
  kept : J c
  fewer : Fewer c₁ c
  listed : ∀ o ∈ left, o ∈ c₁.objects kind ∧ isSelected ba o = true
  rest : ∀ o ∈ c.objects kind, isSelected ba o = true → isDoomed ba keepName o = true → o ∈ left

variable (hstep : ∀ op c r c', R.step op c r c' → Answered op c r c')
  (hrely : ∀ c c', R.rely c c' → Fewer c c') (hstable : ∀ c c', J c → R.rely c c' → J c')
  (hsame : ∀ c, R.guar c c)
  (hdelete : ∀ c key, J c → (∀ o ∈ c.objects kind, o.key = key →
      isSelected ba o = true ∧ isDoomed ba keepName o = true) →
      R.guar c (c.delete kind key).2 ∧ J (c.delete kind key).2)
  (hfail : ∀ call c₀ e c, call.cleansUp ba kind → R.step ⟨call, false⟩ c₀ (.error e) c₀ →
    e ≠ .notFound → J c → E (.api e) c)

include hrely hstable in
theorem Deleting.stable {c₁ c c' : Cluster} {left : List Obj}
    (h : Deleting J ba keepName kind c₁ left c) (hc : R.rely c c') :
    Deleting J ba keepName kind c₁ left c' where
  kept := hstable c c' h.kept hc
  fewer k o ho := h.fewer k o (hrely c c' hc k o ho)
  listed := h.listed
  rest o ho := h.rest o (hrely c c' hc kind o ho)

variable {c₁ c : Cluster} {o : Obj} {left : List Obj}

/-- The listed object is the one under its key, for as long as there is one. -/
theorem Deleting.doomed (h : Deleting J ba keepName kind c₁ (o :: left) c)
    (ho : isDoomed ba keepName o = true) :
    ∀ o' ∈ c.objects kind, o'.key = o.key →
      isSelected ba o' = true ∧ isDoomed ba keepName o' = true := by
  intro o' ho' hkey
  obtain ⟨hmem, hsel⟩ := h.listed o mem_cons_self
  rw [eq_of_key (h.fewer kind o' ho') hmem hkey]
  exact ⟨hsel, ho⟩

theorem Deleting.skip (h : Deleting J ba keepName kind c₁ (o :: left) c)
    (ho : ∀ o' ∈ c.objects kind, isDoomed ba keepName o' = true → o'.key ≠ o.key) :
    Deleting J ba keepName kind c₁ left c where
  kept := h.kept
  fewer := h.fewer
  listed o' ho' := h.listed o' (mem_cons_of_mem o ho')
  rest o' ho' hsel hdoom := by
    rcases mem_cons.mp (h.rest o' ho' hsel hdoom) with rfl | hleft
    · exact absurd rfl (ho o' ho' hdoom)
    · exact hleft

theorem Deleting.delete (h : Deleting J ba keepName kind c₁ (o :: left) c)
    (hJ : J (c.delete kind o.key).2) :
    Deleting J ba keepName kind c₁ left (c.delete kind o.key).2 :=
  Deleting.skip (o := o)
    { kept := hJ
      fewer := fun k o' ho' => h.fewer k o' (fewer_delete c kind o.key k o' ho')
      listed := h.listed
      rest := fun o' ho' => h.rest o' (fewer_delete c kind o.key kind o' ho') }
    fun _ ho' _ => (mem_delete.mp ho').2 rfl

include hstep hsame in
theorem ensures_deleteIfFound {key : Key} {rollback : Bool} {Q : Unit → Cluster → Prop}
    (hdel : ∀ c', R.rely c c' → R.guar c' (c'.delete kind key).2 ∧
      ∀ t, R.rely (c'.delete kind key).2 t → Q () t)
    (herr : ∀ e c' t, R.rely c c' → R.step ⟨.delete kind key, rollback⟩ c' (.error e) c' →
      e ≠ .notFound → R.rely c' t → E (.api e) t) :
    Ensures R Q E (deleteIfFound kind key rollback) c := by
  refine ensures_perform_bind fun c' hc r t ht => ?_
  rcases hstep _ _ _ _ ht with ⟨rfl, rfl⟩ | ⟨e, hne, rfl, rfl⟩
  · obtain ⟨hguar, hq⟩ := hdel c' hc
    refine ⟨hguar, ?_⟩
    show Ensures R Q E (ignoreNotFound (c'.delete kind key).1) (c'.delete kind key).2
    rcases delete_answer c' kind key with h | h
    · rw [h]
      exact hq
    · rw [h]
      exact hq
  · refine ⟨hsame t, ?_⟩
    cases e with
    | notFound => exact absurd rfl hne
    | alreadyExists => exact fun u hu => herr _ t u hc ht hne hu
    | conflict => exact fun u hu => herr _ t u hc ht hne hu
    | other text => exact fun u hu => herr _ t u hc ht hne hu

include hstep hrely hstable hsame hdelete hfail in
/-- One round of clean-up. -/
theorem ensures_deleteOne {c₁ c : Cluster} {o : Obj} {left : List Obj}
    (h : Deleting J ba keepName kind c₁ (o :: left) c) :
    Ensures R (fun _ => Deleting J ba keepName kind c₁ left) E
      (if isDoomed ba keepName o then deleteIfFound kind o.key false else pure ()) c := by
  split
  next ho =>
    refine ensures_deleteIfFound hstep hsame (fun c' hc => ?_) fun e c' t hc hs hne ht => ?_
    · have h' := h.stable hrely hstable hc
      obtain ⟨hguar, hJ⟩ := hdelete c' o.key h'.kept (h'.doomed ho)
      exact ⟨hguar, fun t ht => (h'.delete hJ).stable hrely hstable ht⟩
    · exact hfail (.delete kind o.key) c' e t rfl hs hne (hstable c' t (hstable c c' h.kept hc) ht)
  next ho =>
    intro c' hc
    refine ((h.stable hrely hstable hc).skip fun o' ho' hdoom hkey => ho ?_)
    obtain ⟨hmem, _⟩ := h.listed o mem_cons_self
    rw [← eq_of_key (h.fewer kind o' (hrely c c' hc kind o' ho')) hmem hkey]
    exact hdoom

include hstep hrely hstable hsame hdelete hfail in
/-- Clean-up leaves none of the objects it is for, and keeps what survives each deletion. -/
theorem ensures_deleteOwnedFlat {c : Cluster} (hc : J c) : Ensures R (fun _ c' => J c' ∧
        ∀ o ∈ c'.objects kind, isSelected ba o = true → isDoomed ba keepName o = false)
      E (deleteOwnedFlat ba keepName kind) c := by
  refine Ensures.bind (Q := fun items c' =>
    ∃ c₁, Deleting J ba keepName kind c₁ items c') ?_ fun items c' h => ?_
  · refine ensures_perform_bind fun c' hcc r t ht => ?_
    have hJ := hstable c c' hc hcc
    rcases hstep _ _ _ _ ht with ⟨rfl, heq⟩ | ⟨e, hne, rfl, rfl⟩
    · obtain rfl : t = c' := heq
      refine ⟨hsame t, fun u hu => ⟨t, ?_⟩⟩
      refine Deleting.stable (R := R) hrely hstable ?_ hu
      exact { kept := hJ
              fewer := fun _ _ ho => ho
              listed := fun o ho => mem_select.mp ho
              rest := fun o ho hsel _ => mem_select.mpr ⟨ho, hsel⟩ }
    · refine ⟨hsame t, fun u hu => ?_⟩
      exact hfail (.list kind _ _) t e u ⟨rfl, rfl, rfl⟩ ht hne (hstable t u hJ hu)
  · obtain ⟨c₁, h⟩ := h
    refine Ensures.mono (ensures_each (I := Deleting J ba keepName kind c₁)
      (fun s t hs ht => hs.stable hrely hstable ht)
      (fun o left s hs => ensures_deleteOne hstep hrely hstable hsame hdelete hfail hs) h)
      (fun _ t ht => ⟨ht.kept, fun o ho hsel => ?_⟩) fun _ _ ht => ht
    rw [Bool.eq_false_iff]
    intro hdoom
    exact not_mem_nil (ht.rest o ho hsel hdoom)

end CleanUp

end VastCsi.Ext.Flat
