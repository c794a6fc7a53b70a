import VastCsi.Ext.Owners
import VastCsi.Lib.Trace

/-!
# The life of VastReplicationContents

Three controllers work on the same objects, each reading, deciding and writing in separate calls
and with no lock in common: that of an owner (a VSCR or VVR), which makes the groups and under
deletion removes them and waits; the ReplicationObject reconciler, which makes and deletes the
contents of groups; and the `VastReplicationContent` reconciler, which cleans up.

Here they are one transition system, with one action per call. A controller works on one key at a
time, so where it is in a reconcile is part of the state (`phase`, `ro`, `vrc`). A call answers,
fails, or takes effect with its answer lost; either fault ends the reconcile.
-/

namespace VastCsi.Ext.ContentLife

open Lib CsiAddons Function

/-- What the spec of an owner says about its groups; it does not change here. -/
structure Layout where
  pvcNamespace : Owner → String
  classes : Owner → List String

def Layout.key (L : Layout) (o : Owner) (scName : String) : Key :=
  (L.pvcNamespace o, nameForSC o.name scName)

structure Group where
  owner : Owner
  terminating : Bool := false
  deriving DecidableEq

/-- What `GetConstellationVRCs` selects by: the namespace of the content, and the name of its owner
under the key of the owner's kind. -/
abbrev Constellation := String × OwnerKind × String

inductive Phase where
  | idle
  /-- A reconcile that has read the owner as not under deletion. -/
  | live
  | deleting (todo : List String)
  | counting (todo : List String) (n : Nat)
  | listing
  | finishing
  deriving DecidableEq

/-- Where the ReplicationObject reconciler is with a group. -/
inductive Ro where
  | idle
  /-- The group is there; next is its owner. -/
  | live (o : Owner)
  /-- The owner is there too; next is the content. -/
  | owned (o : Owner)
  /-- There is no content; next is to create it. -/
  | absent (o : Owner)
  /-- The group is terminating; next is to delete the content. -/
  | terminating
  deriving DecidableEq

/-- Where the `VastReplicationContent` reconciler is with a content. -/
inductive Vrc where
  | idle
  | read (x : ContentMeta)
  | resolved (x : ContentMeta)
  | cleaning
  /-- `CleanVolumes` has returned without error; next is the annotation. -/
  | cleaned
  /-- Next are the other contents of the constellation. -/
  | peers
  /-- They are all done; next is the finalizer. -/
  | allDone
  /-- The group is gone or terminating; next is to delete the content. -/
  | selfDestruct
  deriving DecidableEq

structure State where
  /-- Whether an owner that is there is under deletion. -/
  parents : Owner → Option Bool
  groups : Key → Option Group
  contents : List ContentMeta
  phase : Owner → Phase := fun _ => .idle
  ro : Key → Ro := fun _ => .idle
  vrc : Key → Vrc := fun _ => .idle
  /-- Constellations with a content that has been under deletion. -/
  started : List Constellation := []
  /-- Constellations with a content whose finalizer has been removed. -/
  released : List Constellation := []

inductive Outcome where
  | ok | failed | lost
  deriving DecidableEq

inductive Act where
  | createParent (o : Owner)
  | deleteParent (o : Owner)
  | parent (o : Owner) (out : Outcome)
  | makeGroup (o : Owner) (scName : String) (out : Outcome)
  | deleteGroup (k : Key)
  /-- csi-addons lets go of a terminating group. -/
  | dropGroup (k : Key)
  /-- A user or the garbage collector deletes a content. -/
  | deleteContent (k : Key)
  | ro (k : Key) (out : Outcome)
  | vrc (k : Key) (out : Outcome)
  deriving DecidableEq

namespace State

variable (s : State)

def content (k : Key) : Option ContentMeta := s.contents.find? (·.key == k)

def setParent (o : Owner) (deleting : Option Bool) : State :=
  { s with parents := update s.parents o deleting }

def setGroup (k : Key) (g : Option Group) : State := { s with groups := update s.groups k g }

def addContent (x : ContentMeta) : State := { s with contents := x :: s.contents }

def markGroup (k : Key) : State :=
  s.setGroup k ((s.groups k).map fun g => { g with terminating := true })

def markContent (k : Key) : State :=
  { s with
    contents := s.contents.map fun x => if x.key = k then { x with deleting := true } else x
    started := (s.contents.filter (·.key = k)).map (·.constellation) ++ s.started }

def annotate (k : Key) : State :=
  { s with
    contents := s.contents.map fun x => if x.key = k then { x with cleanupDone := true } else x }

/-- The finalizer of a content is removed, and the content is gone. -/
def release (k : Key) : State :=
  { s with
    contents := s.contents.filter (·.key ≠ k)
    released := (s.contents.filter (·.key = k)).map (·.constellation) ++ s.released }

def setPhase (o : Owner) (p : Phase) : State := { s with phase := update s.phase o p }

def setRo (k : Key) (r : Ro) : State := { s with ro := update s.ro k r }

def setVrc (k : Key) (v : Vrc) : State := { s with vrc := update s.vrc k v }

theorem setParent_self {o : Owner} {d : Option Bool} : (s.setParent o d).parents o = d :=
  update_self ..

theorem setParent_of_ne {o o' : Owner} {d : Option Bool} (h : o' ≠ o) :
    (s.setParent o d).parents o' = s.parents o' :=
  update_of_ne h ..

theorem setGroup_self {k : Key} {g : Option Group} : (s.setGroup k g).groups k = g := update_self ..

theorem setGroup_of_ne {k k' : Key} {g : Option Group} (h : k' ≠ k) :
    (s.setGroup k g).groups k' = s.groups k' :=
  update_of_ne h ..

theorem setPhase_self {o : Owner} {p : Phase} : (s.setPhase o p).phase o = p := update_self ..

theorem setPhase_of_ne {o o' : Owner} {p : Phase} (h : o' ≠ o) :
    (s.setPhase o p).phase o' = s.phase o' :=
  update_of_ne h ..

def listed (L : Layout) (o : Owner) : Bool :=
  s.contents.any fun x => x.constellation == (L.pvcNamespace o, o.kind, o.name)

/-- `allVCRsDeleted`: every other content of the constellation is done. -/
def peersDone (x : ContentMeta) : Bool :=
  s.contents.all fun y => y.constellation != x.constellation || y.key == x.key || y.cleanupDone

end State

section Steps

variable (L : Layout) (s : State)

/-- The next call of an owner's controller. In the count a group that cannot be
read is gone. -/
def parentStep (o : Owner) (out : Outcome) : Option State :=
  match s.phase o with
  | .idle =>
    (s.parents o).map fun deleting =>
      s.setPhase o (if out ≠ .ok then .idle else if deleting then .deleting (L.classes o)
        else .live)
  | .live => some (s.setPhase o .idle)
  | .deleting [] => some (s.setPhase o (.counting (L.classes o) 0))
  | .deleting (scName :: todo) =>
    match out with
    | .ok => some ((s.markGroup (L.key o scName)).setPhase o (.deleting todo))
    | .failed => some (s.setPhase o .idle)
    | .lost => some ((s.markGroup (L.key o scName)).setPhase o .idle)
  | .counting [] n => some (s.setPhase o (if n = 0 then .listing else .idle))
  | .counting (scName :: todo) n =>
    let there := out = .ok ∧ (s.groups (L.key o scName)).isSome = true
    some (s.setPhase o (.counting todo (if there then n + 1 else n)))
  | .listing => some (s.setPhase o (if out ≠ .ok ∨ s.listed L o then .idle else .finishing))
  | .finishing =>
    match out with
    | .failed => some (s.setPhase o .idle)
    | _ => some ((s.setParent o none).setPhase o .idle)

/-- `EnsureVolumeGroupReplication`, in a reconcile of a live owner. -/
def makeGroupStep (o : Owner) (scName : String) (out : Outcome) : Option State :=
  if s.phase o = .live ∧ scName ∈ L.classes o then
    if s.groups (L.key o scName) = none ∧ out ≠ .failed then
      some (s.setGroup (L.key o scName) (some { owner := o }))
    else some s
  else none

def roStep (k : Key) (out : Outcome) : Option State :=
  match s.ro k with
  | .idle =>
    match s.groups k, out with
    | some g, .ok => some (s.setRo k (if g.terminating then .terminating else .live g.owner))
    | _, _ => some s
  | .live o =>
    some (s.setRo k (if out = .ok ∧ (s.parents o).isSome = true then .owned o else .idle))
  | .owned o => some (s.setRo k (if out = .ok ∧ s.content k = none then .absent o else .idle))
  | .absent o =>
    if out ≠ .failed ∧ s.content k = none then
      some ((s.addContent ⟨k.1, k.2, o, false, false⟩).setRo k .idle)
    else some (s.setRo k .idle)
  | .terminating =>
    if out ≠ .failed then some ((s.markContent k).setRo k .idle) else some (s.setRo k .idle)

/-- The next call once the owner of the content has been found. -/
def resolvedStep (k : Key) (x : ContentMeta) : Vrc :=
  if x.deleting then
    if x.cleanupDone then (if s.peersDone x then .allDone else .idle)
    else if s.groups k = none then .cleaning
    else .idle
  else if (s.groups k).all (·.terminating) then .selfDestruct
  else .idle

def vrcStep (k : Key) (out : Outcome) : Option State :=
  match s.vrc k with
  | .idle =>
    match s.content k, out with
    | some x, .ok => some (s.setVrc k (.read x))
    | _, _ => some s
  | .read x =>
    some (s.setVrc k (if out = .ok ∧ (s.parents x.owner).isSome = true then .resolved x else .idle))
  | .resolved x => some (s.setVrc k (if out = .ok then resolvedStep s k x else .idle))
  | .cleaning => some (s.setVrc k (if out = .ok then .cleaned else .idle))
  | .cleaned =>
    match out with
    | .ok => some ((s.annotate k).setVrc k .peers)
    | .failed => some (s.setVrc k .idle)
    | .lost => some ((s.annotate k).setVrc k .idle)
  | .peers =>
    match s.content k with
    | some x => some (s.setVrc k (if out = .ok ∧ s.peersDone x = true then .allDone else .idle))
    | none => some (s.setVrc k .idle)
  | .allDone =>
    if out ≠ .failed then some ((s.release k).setVrc k .idle) else some (s.setVrc k .idle)
  | .selfDestruct =>
    if out ≠ .failed then some ((s.markContent k).setVrc k .idle) else some (s.setVrc k .idle)

def step : Act → Option State
  | .createParent o => if s.parents o = none then some (s.setParent o (some false)) else none
  | .deleteParent o => (s.parents o).map fun _ => s.setParent o (some true)
  | .parent o out => parentStep L s o out
  | .makeGroup o scName out => makeGroupStep L s o scName out
  | .deleteGroup k => some (s.markGroup k)
  | .dropGroup k => if (s.groups k).any (·.terminating) then some (s.setGroup k none) else none
  | .deleteContent k => some (s.markContent k)
  | .ro k out => roStep s k out
  | .vrc k out => vrcStep s k out

end Steps

def init (parents : Owner → Option Bool) : State where
  parents := parents
  groups := fun _ => none
  contents := []

end VastCsi.Ext.ContentLife
