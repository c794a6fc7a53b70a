import VastCsi.Lib.Proc
import VastCsi.Lib.Versioned

/-!
# The retrying write helpers of `k8s_client`

The caller hands over an object it read at some point and changed in memory;
`retry.RetryOnConflict` makes up to five attempts. The finalizer helpers,
`UpdateVastStorageClassReplication` and `UpdateStatusWithRetry` send the whole object (or status);
on a conflict `refreshObjectMetadata` copies the current resource version into it and *nothing
else*. `PatchPVCLabels` fetches the object, puts the caller's whole label map in and sends the
difference as a merge patch, which no version guards.
-/

namespace VastCsi.Ext.RetryingWrites

open Lib

inductive Field where
  | label (key : String)
  /-- Annotations, owner references and the other metadata. -/
  | metadata (path : String)
  /-- Everything outside metadata and status. -/
  | spec (path : String)
  | status (path : String)
  deriving DecidableEq, Repr

structure Content where
  finalizers : List String
  field : Field → Option String

/-- The smallest things a client can write by themselves. -/
inductive Leaf where
  | finalizer (name : String)
  | field (f : Field)
  deriving DecidableEq, Repr

def Content.leaf (c : Content) : Leaf → Option String
  | .finalizer name => if name ∈ c.finalizers then some name else none
  | .field f => c.field f

structure Obj where
  resourceVersion : Nat
  content : Content

/-- New values for some of the fields; `some none` removes the field. -/
abbrev Change := String → Option (Option String)

/-- `controllerutil.AddFinalizer` on an object without the finalizer. -/
def Content.addFinalizer (c : Content) (name : String) : Content :=
  { c with finalizers := c.finalizers ++ [name] }

def Content.removeFinalizer (c : Content) (name : String) : Content :=
  { c with finalizers := c.finalizers.filter (· != name) }

def Content.setStatus (c : Content) (ch : Change) : Content :=
  { c with
    field := fun
      | .status p => (ch p).getD (c.field (.status p))
      | f => c.field f }

def Content.setSpec (c : Content) (ch : Change) : Content :=
  { c with
    field := fun
      | .spec p => (ch p).getD (c.field (.spec p))
      | f => c.field f }

/-- `SetLabels`: the whole label map. -/
def Content.setLabels (c : Content) (labels : String → Option String) : Content :=
  { c with
    field := fun
      | .label k => labels k
      | f => c.field f }

def Content.labels (c : Content) (k : String) : Option String := c.field (.label k)

/-- The calls, each with what its caller set out to change. -/
inductive Helper where
  | addFinalizer (name : String)
  | ensureFinalizer (name : String)
  | removeFinalizer (name : String)
  | clearFinalizers
  | updateStatusWithRetry (ch : Change)
  | updateVastStorageClassReplication (ch : Change)
  | patchPVCLabels (ch : Change)

def Helper.Named : Helper → Leaf → Prop
  | .addFinalizer name, l => l = .finalizer name
  | .ensureFinalizer name, l => l = .finalizer name
  | .removeFinalizer name, l => l = .finalizer name
  | .clearFinalizers, l => ∃ name, l = .finalizer name
  | .updateStatusWithRetry ch, l => ∃ p v, l = .field (.status p) ∧ ch p = some v
  | .updateVastStorageClassReplication ch, l => ∃ p v, l = .field (.spec p) ∧ ch p = some v
  | .patchPVCLabels ch, l => ∃ k v, l = .field (.label k) ∧ ch k = some v

/-- `Status().Update` sends the status, `Update` everything but the status, the label patch the
labels. -/
def Helper.sends : Helper → Leaf → Bool
  | .updateStatusWithRetry _, .field (.status _) => true
  | .updateStatusWithRetry _, _ => false
  | .patchPVCLabels _, .field (.label _) => true
  | .patchPVCLabels _, _ => false
  | _, .field (.status _) => false
  | _, _ => true

/-- The caller's object as it is sent, from the copy the caller read. -/
def Helper.desired : Helper → Content → Content
  | .addFinalizer name, c => c.addFinalizer name
  | .ensureFinalizer name, c => c.addFinalizer name
  | .removeFinalizer name, c => c.removeFinalizer name
  | .clearFinalizers, c => { c with finalizers := [] }
  | .updateStatusWithRetry ch, c => c.setStatus ch
  | .updateVastStorageClassReplication ch, c => c.setSpec ch
  | .patchPVCLabels ch, c => c.setLabels fun k => (ch k).getD (c.labels k)

/-- The copy already has the finalizer, lacks the one to remove, or has none to clear. -/
def Helper.skips : Helper → Content → Bool
  | .addFinalizer name, c => c.finalizers.contains name
  | .ensureFinalizer name, c => c.finalizers.contains name
  | .removeFinalizer name, c => !c.finalizers.contains name
  | .clearFinalizers, c => c.finalizers.isEmpty
  | _, _ => false

/-- Whether the call is a loop of fetching and patching. -/
def Helper.patches : Helper → Bool
  | .patchPVCLabels _ => true
  | _ => false

inductive Reason where
  | conflict
  | notFound
  | other
  deriving DecidableEq, Repr

/-- `RemoveFinalizer` takes NotFound as success, two helpers put a text before the error. -/
def Helper.outcome (h : Helper) (object : String) : Option Reason → Option (String × Reason)
  | none => none
  | some e =>
    match h with
    | .removeFinalizer _ => if e = .notFound then none else some ("", e)
    | .updateVastStorageClassReplication _ =>
      some (s!"failed to update VastStorageClassReplication {object}: ", e)
    | .patchPVCLabels _ => some (s!"failed to patch labels on PVC {object}: ", e)
    | _ => some ("", e)

/-- Where the call is; `left` counts the attempts after this one. -/
inductive Pc where
  | write (left : Nat)
  /-- At the `Get` of `refreshObjectMetadata`. -/
  | refresh (left : Nat)
  | get (left : Nat)
  | patch (base : Content) (left : Nat)
  | returned (err : Option Reason)

/-- A write of the helper: the object it had fetched for a patch, and the
server's object just before and just after. -/
structure Write where
  fetched : Option Content
  before : Content
  after : Content

/-- The server's object, the latest version it gave out, the caller's
object, and a ghost record of the helper's last write. -/
structure State where
  server : Option Obj
  revision : Nat
  obj : Obj
  pc : Pc
  written : Option Write

/-- Another client writes or creates the object, another client (or the
server itself) removes it, or the helper's next request is made. -/
inductive Act where
  | otherWrite (content : Content)
  | otherDelete
  | request (fate : Fate Reason)

def defaultRetry : Nat := 4

def start (h : Helper) (copy : Obj) (server : Option Obj) (revision : Nat) : State where
  server := server
  revision := revision
  obj :=
    { copy with content := if h.skips copy.content then copy.content else h.desired copy.content }
  pc :=
    if h.skips copy.content then .returned none
    else if h.patches then .get defaultRetry else .write defaultRetry
  written := none

/-- The end of an attempt that failed: `RetryOnConflict` goes on only after
a conflict and while attempts are left. -/
def retry (again : Nat → Pc) (left : Nat) (e : Reason) : Pc :=
  match e, left with
  | .conflict, k + 1 => again k
  | _, _ => .returned (some e)

/-- `Update`: the server takes everything but the status. -/
def Content.putMain (mine server : Content) : Content where
  finalizers := mine.finalizers
  field := fun
    | .status p => server.field (.status p)
    | f => mine.field f

/-- `Status().Update`: the server takes the status only. -/
def Content.putStatus (mine server : Content) : Content :=
  { server with
    field := fun
      | .status p => mine.field (.status p)
      | f => server.field f }

def Helper.put : Helper → Content → Content → Content
  | .updateStatusWithRetry _ => Content.putStatus
  | _ => Content.putMain

/-- The merge patch between two contents; a list is patched as a whole. -/
def applyPatch (base mine server : Content) : Content where
  finalizers := if mine.finalizers = base.finalizers then server.finalizers else mine.finalizers
  field := mergePatch base.field mine.field server.field

def State.commit (st : State) (fetched : Option Content) (s : Obj) (content : Content)
    (err : Option Reason) : State :=
  { st with
    server := some { resourceVersion := st.revision + 1, content := content }
    revision := st.revision + 1
    pc := .returned err
    written := some { fetched := fetched, before := s.content, after := content } }

/-- A lost answer is an error that is returned after the request took effect. -/
def requestStep (h : Helper) (st : State) (fate : Fate Reason) : Option State :=
  match st.pc, fate with
  | .write left, .failed e =>
    some { st with pc := if e = .conflict then .refresh left else .returned (some e) }
  | .write left, fate =>
    match st.server with
    | none => some { st with pc := .returned (some .notFound) }
    | some s =>
      if s.resourceVersion = st.obj.resourceVersion then
        match fate with
        | .lost e => some (st.commit none s (h.put st.obj.content s.content) (some e))
        | _ => some (st.commit none s (h.put st.obj.content s.content) none)
      else some { st with pc := .refresh left }
  | .refresh left, .answered =>
    match st.server with
    | none => some { st with pc := .returned (some .notFound) }
    | some s =>
      -- only the version is taken over; the attempt ends with its conflict
      some { st with
        obj := { st.obj with resourceVersion := s.resourceVersion }
        pc := retry .write left .conflict }
  | .refresh left, .failed e => some { st with pc := retry .write left e }
  | .refresh left, .lost e => some { st with pc := retry .write left e }
  | .get left, .answered =>
    match st.server with
    | none => some { st with pc := .returned (some .notFound) }
    | some s =>
      some { st with
        obj := { s with content := s.content.setLabels st.obj.content.labels }
        pc := .patch s.content left }
  | .get left, .failed e => some { st with pc := retry .get left e }
  | .get left, .lost e => some { st with pc := retry .get left e }
  | .patch _ left, .failed e => some { st with pc := retry .get left e }
  | .patch base _, fate =>
    match st.server with
    | none => some { st with pc := .returned (some .notFound) }
    | some s =>
      match fate with
      | .lost e =>
        some (st.commit (some base) s (applyPatch base st.obj.content s.content) (some e))
      | _ => some (st.commit (some base) s (applyPatch base st.obj.content s.content) none)
  | .returned _, _ => none

def step (h : Helper) (st : State) : Act → Option State
  | .otherWrite content =>
    some { st with
      server := some { resourceVersion := st.revision + 1, content := content }
      revision := st.revision + 1 }
  | .otherDelete => some { st with server := none }
  | .request fate => requestStep h st fate

end VastCsi.Ext.RetryingWrites
