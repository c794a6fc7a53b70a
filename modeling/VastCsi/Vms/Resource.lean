import VastCsi.Vms.Session

/-!
# The resource classes of the session

`VastResource` and the subclasses whose methods the handlers call. A query is a predicate on rows:
the filter `x__endswith` is `Text.endsWith`, `x__contains` is `Text.contains`, a plain filter is
equality. A list call reads all pages at once.
-/

namespace VastCsi.Vms

open Lib

abbrev Query (k : Kind) := Row k → Bool

def list (env : Env) (k : Kind) (q : Query k) : Call (List (Row k)) :=
  request env (readVms fun v => (v.table k).select q)

/-- `VastResource.one`: at most one entry. -/
def one (env : Env) (k : Kind) (q : Query k) : Call (Option (Row k)) := do
  match ← list env k q with
  | [] => pure none
  | [r] => pure (some r)
  | _ => throw (.tooMany k)

/-- `VastResource.one` with `fail_if_missing`. -/
def oneOrFail (env : Env) (k : Kind) (q : Query k) : Call (Row k) := do
  match ← one env k q with
  | none => throw (.noRecordsFound k)
  | some r => pure r

/-- `VastResource.get`, with `fail_if_missing` off. -/
def getById (env : Env) (k : Kind) (id : Nat) : Call (Option (Row k)) :=
  request env (readVms (·.find k id))

/-- What `DELETE` of a row does on the server: 404 when it is not there,
else the row goes, with what goes along with it. -/
def dropRow (k : Kind) (id : Nat) (cascade : Row k → Cluster → Cluster) : Call Unit := fun w =>
  match w.vms.find k id with
  | none => .error (.httpError 404 "") w
  | some r =>
    .ok () { w with
        vms := cascade r (w.vms.erase k id)
        deleted := ⟨k, id, w.vms⟩ :: w.deleted }

/-- `VastResource.delete_by_id`: a missing entry is no error. -/
def deleteById (env : Env) (k : Kind) (id : Nat)
    (cascade : Row k → Cluster → Cluster := fun _ v => v) : Call Unit :=
  tryCatch (request env (dropRow k id cascade)) fun e =>
    match e with
    | .httpError 404 _ => pure ()
    | e => throw e

/-- `VastResource.delete`, with the `delete_by_id` of the class. -/
def deleteWith (env : Env) (k : Kind) (q : Query k) (del : Nat → Call Unit) : Call Unit := do
  match ← one env k q with
  | none => pure ()
  | some r => del (rowId k r)

def delete (env : Env) (k : Kind) (q : Query k) : Call Unit :=
  deleteWith env k q (deleteById env k ·)

def deleteMany (env : Env) (k : Kind) (q : Query k) : Call Unit := do
  forEach (fun r => deleteById env k (rowId k r)) (← list env k q)

/-- What `POST` of a row does on the server; the row gets a fresh id. -/
def createRow (k : Kind) (row : Nat → Row k) (cascade : Cluster → Cluster := fun v => v) :
    Call (Row k) := fun w =>
  let r := row (w.vms.table k).fresh
  .ok r { w with vms := cascade (w.vms.insert k r) }

def getSwVersion (env : Env) : Call SemVer := request env (readVms (·.swVersion))

/-- `requisite` with `ignore`: on an older cluster the method does nothing. -/
def requisiteIgnore (env : Env) (required : SemVer) (x : Call Unit) : Call Unit := do
  if (← getSwVersion env).lt required then pure () else x

/-- `requisite`: on an older cluster the method is refused. -/
def requisite {α : Type} (env : Env) (required : SemVer) (op : String) (x : Call α) : Call α := do
  if (← getSwVersion env).lt required then throw (.operationNotSupported op) else x

/-- A stream deleted with `remove_dir` takes its directory along. -/
def removeLoaneeDir (r : Stream) (v : Cluster) : Cluster :=
  v.removeTree r.loaneeTenantId r.loaneeRootPath

/-- `stop_snapshot_stream`: the stream goes to another state or is collected. -/
def stopSnapshotStream (env : Env) (id : Nat) : Call Unit :=
  request env fun w =>
    match w.vms.find .stream id with
    | none => .error (.httpError 404 "") w
    | some _ =>
      match env.afterStop w.calls with
      | none => .ok () { w with vms := w.vms.erase .stream id }
      | some state => .ok () { w with vms := w.vms.setStreamState id state }

/-- `session.wait_task`: a poll that changes nothing. -/
def waitTask (env : Env) : Call Unit := request env (pure ())

/-- `stop` and `wait_task` under their `except`: whether the stream is left
to be deleted; `false` when it is gone already. -/
def stopAndWait (env : Env) (q : Query .stream) (id : Nat) : Call Bool :=
  tryCatch (do
      stopSnapshotStream env id
      waitTask env
      pure true)
    fun _ => do
      match ← one env .stream q with
      | none => pure false
      | some _ =>
        throw (.abort .aborted s!"stop_gss failed for snapshot stream {id}; retry when gone")

def streamsSince : SemVer := ⟨4, 6, 0⟩

def ensureSnapshotStreamDeleted (env : Env) (q : Query .stream) : Call Unit :=
  requisiteIgnore env streamsSince do
    match ← one env .stream q with
    | none => pure ()
    | some stream =>
      match stream.state with
      | .deleting =>
        throw (.abort .aborted s!"Snapshot stream {stream.id} still deleting; retry when gone")
      | .finished => deleteById env .stream stream.id removeLoaneeDir
      | _ =>
        if ← stopAndWait env q stream.id then
          deleteById env .stream stream.id removeLoaneeDir
        else pure ()

/-- What `DELETE folders/delete_folder` does on the server. -/
def dropFolder (path tenantId : String) : Call Unit := fun w =>
  if w.vms.trashEnabled then
    if w.vms.dirs.any (fun d => d == ⟨tenantId, pathParts path⟩) then
      .ok () { w with vms := w.vms.removeTree tenantId path }
    else .error (.apiError 400 "no such directory") w
  else .error (.apiError 400 "trash folder disabled") w

def folderDelete (env : Env) (dontUseTrashApi : Bool) (path tenantId : String) : Call Unit :=
  requisite env ⟨4, 7, 0⟩ "delete_folder" do
    if dontUseTrashApi then
      throw (.cannotUseTrashAPI
        "Disabled by Vast CSI settings (see 'dontUseTrashApi' in your Helm chart)")
    else
      tryCatch (request env (dropFolder path tenantId)) fun e =>
        match e with
        | .apiError s text =>
          if Text.contains text "no such directory" then pure ()
          else if Text.contains text "trash folder disabled" then
            throw (.cannotUseTrashAPI
              "Trash Folder Access is disabled (see Settings/Cluster/Features in VMS)")
          else throw (.apiError s text)
        | e => throw e

/-- The trash API is there, not switched off, and enabled on the cluster. -/
def trashUsable (dontUseTrashApi : Bool) (v : Cluster) : Bool :=
  !v.swVersion.lt ⟨4, 7, 0⟩ && !dontUseTrashApi && v.trashEnabled

/-- A deleted volume is no longer mapped to hosts. -/
def unmapAll (r : Volume) (v : Cluster) : Cluster := v.dropRows .mapping (·.volumeId == r.id)

/-- `Volume.delete_by_id`: once more, with force, when it is mapped. -/
def volumeDeleteById (env : Env) (id : Nat) : Call Unit :=
  requisite env ⟨5, 3, 0⟩ "delete_by_id" <| tryCatch (deleteById env .volume id unmapAll) fun e =>
      match e with
      | .apiError 400 text =>
        if Text.contains text "Volume is mapped to hosts" then
          deleteById env .volume id unmapAll
        else throw (.apiError 400 text)
      | e => throw e

/-- `View.delete_by_id`: with `force_if_not_empty`, once more on a 409. -/
def viewDeleteById (env : Env) (forceIfNotEmpty : Bool) (id : Nat) : Call Unit :=
  tryCatch (deleteById env .view id) fun e =>
    match e with
    | .httpError 409 text =>
      if forceIfNotEmpty && Text.contains text "not empty" then deleteById env .view id
      else throw (.httpError 409 text)
    | e => throw e

/-- The filter of `Quota.one(name=…)`: a name becomes a path suffix, and an
empty name no filter at all. -/
def quotaByName (name : String) (r : Quota) : Bool :=
  if name == "" then true else Text.endsWith r.path name

/-- The filter of `Quota.one(path=…)`: without trailing slashes, and an empty
path no filter at all. -/
def quotaByPath (path : String) (r : Quota) : Bool :=
  let bare := String.ofList (Text.rstrip '/' path.toList)
  if path == "" then true else r.path == (if bare == "" then "/" else bare)

def hasSnapshots (env : Env) (path : String) : Call (List Snapshot) :=
  list env .snapshot fun s => Text.contains s.path (String.ofList (Text.rstrip '/' path.toList))

/-- `View.ensure`, without a QoS policy. -/
def viewEnsure (env : Env) (path : String) (protocols : List String) (policy : String) :
    Call View := do
  match ← one env .view (fun r => r.path == path && r.policy == policy) with
  | some view => pure view
  | none =>
    let viewPolicy ← oneOrFail env .policy (·.name == policy)
    request env <| createRow .view
        (fun id => { id, path, tenantId := viewPolicy.tenantId, policy, protocols })
        (·.addDir viewPolicy.tenantId path)

/-- `View.update` of the protocols. -/
def viewUpdateProtocols (env : Env) (id : Nat) (protocols : List String) : Call Unit :=
  request env fun w =>
    match w.vms.find .view id with
    | none => .error (.httpError 404 "") w
    | some _ => .ok () { w with vms := w.vms.setViewProtocols id protocols }

/-- `VipPool.get_vip`: some address of the pool, the first one here. -/
def getVip (env : Env) (name tenantId : String) : Call String := do
  let pool ← oneOrFail env .pool (·.name == name)
  match pool.tenantId with
  | some t =>
    if t != tenantId then
      throw (.exception
        s!"Pool {name} belongs to tenant with id {t} but tenant_id={tenantId} was requested")
  | none => pure ()
  match pool.vips with
  | [] => throw (.assertion s!"Pool {name} has no available vips")
  | vip :: _ => pure vip

end VastCsi.Vms
