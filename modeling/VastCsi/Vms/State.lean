import Mathlib.Logic.Function.Basic
import VastCsi.Lib.Table
import VastCsi.Lib.Text

/-!
# What a VMS cluster holds

The objects the driver reads and writes through the VMS REST API, with the fields the modelled
handlers use, plus the directories of the exported file systems (per tenant), the software version
and whether the trash folder is enabled. Ids are the server's numbers; a tenant id appears as it
is printed.

`Frame own ownDir v v'`: rows and directories that are not the caller's own are in `v'` as they
were in `v`. New rows may appear.
-/

namespace VastCsi.Vms

open Lib List Function Table

structure Volume where
  id : Nat
  name : String
  tenantName : String
  deriving DecidableEq, Repr

/-- A view: an exported directory, possibly an S3 bucket. -/
structure View where
  id : Nat
  path : String
  tenantId : String
  policy : String
  protocols : List String
  bucket : Option String := none
  bucketOwner : Option String := none
  deriving DecidableEq, Repr

structure Quota where
  id : Nat
  path : String
  tenantId : String
  hardLimit : Option Nat := none
  deriving DecidableEq, Repr

/-- `status.state` of a global snapshot stream, lower-cased; `unset` when
the status has none. -/
inductive StreamState where
  | initializing | syncing | finalizing | active | completed | suspended
  | finished | deleting | unset
  deriving DecidableEq, Repr

/-- The state as the VMS writes it, in lower case. -/
def StreamState.text : StreamState → String
  | .initializing => "initializing"
  | .syncing => "syncing"
  | .finalizing => "finalizing"
  | .active => "active"
  | .completed => "completed"
  | .suspended => "suspended"
  | .finished => "finished"
  | .deleting => "deleting"
  | .unset => "None"

/-- A global snapshot stream: a clone being written to `loaneeRootPath`. -/
structure Stream where
  id : Nat
  name : String
  state : StreamState
  loaneeRootPath : String
  loaneeTenantId : String
  deriving DecidableEq, Repr

structure Snapshot where
  id : Nat
  name : String
  path : String
  tenantId : String
  deriving DecidableEq, Repr

structure User where
  id : Nat
  name : String
  tenantId : String
  deriving DecidableEq, Repr

structure Rule where
  id : Nat
  name : String
  viewId : Nat
  deriving DecidableEq, Repr

structure Policy where
  id : Nat
  name : String
  tenantId : String
  deriving DecidableEq, Repr

/-- A VIP pool with its expanded addresses; no tenant means all tenants. -/
structure Pool where
  id : Nat
  name : String
  tenantId : Option String
  vips : List String
  deriving DecidableEq, Repr

structure Host where
  id : Nat
  name : String
  tenantName : String
  nqn : String
  deriving DecidableEq, Repr

structure Mapping where
  id : Nat
  volumeId : Nat
  hostId : Nat
  deriving DecidableEq, Repr

/-- The kinds of objects, after the resource classes of the session. -/
inductive Kind where
  | volume | view | quota | stream | snapshot | user | rule | policy | pool | host | mapping
  deriving DecidableEq, Repr

@[reducible] def Row : Kind → Type
  | .volume => Volume
  | .view => View
  | .quota => Quota
  | .stream => Stream
  | .snapshot => Snapshot
  | .user => User
  | .rule => Rule
  | .policy => Policy
  | .pool => Pool
  | .host => Host
  | .mapping => Mapping

@[reducible] def rowId : (k : Kind) → Row k → Nat
  | .volume => Volume.id
  | .view => View.id
  | .quota => Quota.id
  | .stream => Stream.id
  | .snapshot => Snapshot.id
  | .user => User.id
  | .rule => Rule.id
  | .policy => Policy.id
  | .pool => Pool.id
  | .host => Host.id
  | .mapping => Mapping.id

/-- A directory: its tenant and the components of its path. -/
structure Dir where
  tenantId : String
  path : List String
  deriving DecidableEq, Repr

structure SemVer where
  major : Nat
  minor : Nat
  patch : Nat
  deriving DecidableEq, Repr

def SemVer.lt (a b : SemVer) : Bool :=
  a.major < b.major ||
    (a.major == b.major && (a.minor < b.minor || (a.minor == b.minor && a.patch < b.patch)))

def pathParts (path : String) : List String := Text.parts '/' path

structure Cluster where
  table : (k : Kind) → Table (Row k) (rowId k)
  dirs : List Dir
  swVersion : SemVer
  trashEnabled : Bool

namespace Cluster

def fresh (swVersion : SemVer) : Cluster where
  table := fun _ => Table.empty
  dirs := []
  swVersion := swVersion
  trashEnabled := true

def set (v : Cluster) (k : Kind) (t : Table (Row k) (rowId k)) : Cluster :=
  { v with table := update v.table k t }

@[simp] theorem set_table_self (v : Cluster) (k : Kind) (t : Table (Row k) (rowId k)) :
    (v.set k t).table k = t := update_self ..

variable {k k' : Kind} {v : Cluster} {id : Nat} {r : Row k}

theorem set_table_ne (v : Cluster) (t : Table (Row k) (rowId k)) (h : k' ≠ k) :
    (v.set k t).table k' = v.table k' := update_of_ne h ..

def erase (v : Cluster) (k : Kind) (id : Nat) : Cluster := v.set k ((v.table k).erase id)

def insert (v : Cluster) (k : Kind) (r : Row k) : Cluster := v.set k ((v.table k).insert r)

def setStreamState (v : Cluster) (id : Nat) (state : StreamState) : Cluster :=
  v.set .stream ((v.table .stream).modify id ({ · with state }) fun _ => rfl)

/-- A view exported under another list of protocols. -/
def setViewProtocols (v : Cluster) (id : Nat) (protocols : List String) : Cluster :=
  v.set .view ((v.table .view).modify id ({ · with protocols }) fun _ => rfl)

def dropRows (v : Cluster) (k : Kind) (p : Row k → Bool) : Cluster :=
  v.set k ((v.table k).keep fun r => !p r)

def find (v : Cluster) (k : Kind) (id : Nat) : Option (Row k) :=
  (v.table k).rows.find? (rowId k · == id)

/-- Is the directory at or below the path of the tenant? -/
def within (tenantId path : String) (d : Dir) : Bool :=
  d.tenantId == tenantId && (pathParts path).isPrefixOf d.path

def removeTree (v : Cluster) (tenantId path : String) : Cluster :=
  { v with dirs := v.dirs.filter fun d => !within tenantId path d }

def addDir (v : Cluster) (tenantId path : String) : Cluster :=
  { v with dirs := v.dirs ++ [⟨tenantId, pathParts path⟩] }

@[simp] theorem removeTree_table (v : Cluster) (t p : String) :
    (v.removeTree t p).table = v.table := rfl

@[simp] theorem addDir_table (v : Cluster) (t p : String) : (v.addDir t p).table = v.table := rfl

theorem mem_erase_table : r ∈ (v.erase k id).table k ↔ r ∈ v.table k ∧ rowId k r ≠ id := by
  rw [erase, set_table_self, mem_erase]

theorem erase_table_ne (h : k' ≠ k) : (v.erase k id).table k' = v.table k' := set_table_ne v _ h

theorem insert_table_ne (h : k' ≠ k) : (v.insert k r).table k' = v.table k' := set_table_ne v _ h

theorem mem_insert_of_mem {r' : Row k} (h : r' ∈ v.table k) : r' ∈ (v.insert k r).table k := by
  rw [insert, set_table_self]
  exact Table.mem_insert_of_mem h

theorem mem_insert_cases {r' : Row k} (h : r' ∈ (v.insert k r).table k) :
    r' ∈ v.table k ∨ r' = r := by
  rw [insert, set_table_self] at h
  exact Table.mem_insert_cases h

/-- A row under a free id is there after it was added. -/
theorem mem_insert_self (h : (v.table k).hasKey (rowId k r) = false) :
    r ∈ (v.insert k r).table k := by
  rw [insert, set_table_self]
  exact Table.mem_insert_self h

theorem find_some (h : v.find k id = some r) : r ∈ v.table k ∧ rowId k r = id := by
  refine ⟨mem_of_find?_eq_some h, ?_⟩
  have := find?_some h
  simpa using this

theorem find_none (h : v.find k id = none) (hr : r ∈ v.table k) : rowId k r ≠ id := by
  have := List.find?_eq_none.mp h r hr
  simpa using this

theorem mem_setStreamState {state : StreamState} {r : Stream} :
    r ∈ (v.setStreamState id state).table .stream ↔
      ∃ r' ∈ v.table .stream, r = if r'.id = id then { r' with state } else r' := by
  rw [setStreamState, set_table_self, mem_modify]

theorem mem_setViewProtocols {protocols : List String} {r : View} :
    r ∈ (v.setViewProtocols id protocols).table .view ↔
      ∃ r' ∈ v.table .view, r = if r'.id = id then { r' with protocols } else r' := by
  rw [setViewProtocols, set_table_self, mem_modify]

theorem mem_dropRows {p : Row k → Bool} :
    r ∈ (v.dropRows k p).table k ↔ r ∈ v.table k ∧ p r = false := by
  rw [dropRows, set_table_self, mem_keep]
  simp

theorem dropRows_table_ne {p : Row k → Bool} (h : k' ≠ k) :
    (v.dropRows k p).table k' = v.table k' := set_table_ne v _ h

theorem mem_removeTree_dirs {t p : String} {d : Dir} :
    d ∈ (v.removeTree t p).dirs ↔ d ∈ v.dirs ∧ within t p d = false := by
  simp [removeTree]

end Cluster

/-- Which rows of each kind are the caller's own. -/
def Owns := (k : Kind) → Row k → Prop

/-- Everything that is not the caller's own is as it was. -/
structure Frame (own : Owns) (ownDir : Dir → Prop) (v v' : Cluster) : Prop where
  rows : ∀ k (r : Row k), r ∈ v.table k → ¬ own k r → r ∈ v'.table k
  dirs : ∀ d ∈ v.dirs, ¬ ownDir d → d ∈ v'.dirs

section Frame

variable {own : Owns} {ownDir : Dir → Prop}

theorem frame_refl (v : Cluster) : Frame own ownDir v v := ⟨fun _ _ h _ => h, fun _ h _ => h⟩

theorem frame_trans {v₁ v₂ v₃ : Cluster} (h : Frame own ownDir v₁ v₂)
    (h' : Frame own ownDir v₂ v₃) : Frame own ownDir v₁ v₃ :=
  ⟨fun k r hr ho => h'.rows k r (h.rows k r hr ho) ho, fun d hd ho => h'.dirs d (h.dirs d hd ho) ho⟩

variable {v : Cluster}

/-- Replacing one table is framed when that table keeps the others' rows. -/
theorem frame_set {k : Kind} {t : Table (Row k) (rowId k)}
    (h : ∀ r ∈ v.table k, ¬ own k r → r ∈ t) : Frame own ownDir v (v.set k t) := by
  refine ⟨?_, fun _ hd _ => hd⟩
  intro k' r hr ho
  by_cases hk : k' = k
  · subst hk
    rw [Cluster.set_table_self]
    exact h r hr ho
  · rw [Cluster.set_table_ne v t hk]
    exact hr

/-- Removing a tree of own directories. -/
theorem frame_removeTree {t p : String} (h : ∀ d, Cluster.within t p d = true → ownDir d) :
    Frame own ownDir v (v.removeTree t p) := by
  refine ⟨fun _ _ hr _ => hr, fun d hd ho => Cluster.mem_removeTree_dirs.mpr ⟨hd, ?_⟩⟩
  cases hw : Cluster.within t p d with
  | false => rfl
  | true => exact absurd (h d hw) ho

/-- Creating a directory. -/
theorem frame_addDir {t p : String} : Frame own ownDir v (v.addDir t p) :=
  ⟨fun _ _ hr _ => hr, fun _ hd _ => mem_append_left _ hd⟩

end Frame

end VastCsi.Vms
