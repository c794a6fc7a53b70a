import VastCsi.Vms.Rules

/-!
# Handlers that aim at their own objects

`hit k r` says that row `r` of kind `k` is selected by a query of the handler; `own k r` that it
belongs to what the handler was asked to delete. `Scope own hit ownDir c₀ c`: nothing but own rows
and directories has changed since `c₀`, and whatever the queries can still select is own. Deleting
rows cannot break the second half.
-/

namespace VastCsi.Vms

open Lib Table Cluster

structure Scope (own hit : Owns) (ownDir : Dir → Prop) (c₀ c : Cluster) : Prop where
  frame : Frame own ownDir c₀ c
  ver : c.swVersion = c₀.swVersion
  trash : c.trashEnabled = c₀.trashEnabled
  aim : ∀ k (r : Row k), r ∈ c.table k → hit k r → own k r

section Scope

variable {own hit : Owns} {ownDir : Dir → Prop} {c₀ c : Cluster}

theorem scope_refl (h : ∀ k (r : Row k), r ∈ c₀.table k → hit k r → own k r) :
    Scope own hit ownDir c₀ c₀ :=
  ⟨frame_refl c₀, rfl, rfl, h⟩

variable {k : Kind} {r : Row k}

/-- Replacing one table keeps the scope when the others' rows stay and the new rows are aimed at
only if own. -/
theorem Scope.set {t : Table (Row k) (rowId k)} (h : Scope own hit ownDir c₀ c)
    (hkeep : ∀ r ∈ c.table k, ¬ own k r → r ∈ t) (haim : ∀ r ∈ t, hit k r → own k r) :
    Scope own hit ownDir c₀ (c.set k t) where
  frame := frame_trans h.frame (frame_set hkeep)
  ver := h.ver
  trash := h.trash
  aim := by
    intro k' r hr hh
    by_cases hk : k' = k
    · subst hk
      rw [set_table_self] at hr
      exact haim r hr hh
    · rw [set_table_ne c t hk] at hr
      exact h.aim k' r hr hh

/-- Deleting an own row. -/
theorem Scope.erase (h : Scope own hit ownDir c₀ c) (hr : r ∈ c.table k) (ho : own k r) :
    Scope own hit ownDir c₀ (c.erase k (rowId k r)) := by
  refine h.set (fun r' hr' ho' => ?_) fun r' hr' hh => ?_
  · rw [mem_erase_key hr]
    exact ⟨hr', fun he => ho' (he ▸ ho)⟩
  · exact h.aim k r' (mem_erase.mp hr').1 hh

/-- Dropping own rows. -/
theorem Scope.dropRows {p : Row k → Bool} (h : Scope own hit ownDir c₀ c)
    (ho : ∀ r ∈ c.table k, p r = true → own k r) :
    Scope own hit ownDir c₀ (c.dropRows k p) := by
  refine h.set (fun r hr hno => ?_) fun r hr hh => ?_
  · refine mem_keep.mpr ⟨hr, ?_⟩
    cases hp : p r with
    | false => rfl
    | true => exact absurd (ho r hr hp) hno
  · exact h.aim k r (mem_keep.mp hr).1 hh

/-- Removing a tree of own directories. -/
theorem Scope.removeTree {t p : String} (h : Scope own hit ownDir c₀ c)
    (ho : ∀ d, Cluster.within t p d = true → ownDir d) :
    Scope own hit ownDir c₀ (c.removeTree t p) :=
  ⟨frame_trans h.frame (frame_removeTree ho), h.ver, h.trash, h.aim⟩

/-- Creating a directory. -/
theorem Scope.addDir {t p : String} (h : Scope own hit ownDir c₀ c) :
    Scope own hit ownDir c₀ (c.addDir t p) :=
  ⟨frame_trans h.frame frame_addDir, h.ver, h.trash, h.aim⟩

/-- Neither the queries nor ownership look at the state of a stream, and the
directory of an own stream is own. -/
structure StreamBlind (own hit : Owns) (ownDir : Dir → Prop) : Prop where
  ownState : ∀ (r : Stream) s, own .stream r → own .stream { r with state := s }
  hitState : ∀ (r : Stream) s, hit .stream { r with state := s } → hit .stream r
  dir : ∀ r : Stream, own .stream r →
    ∀ d, Cluster.within r.loaneeTenantId r.loaneeRootPath d = true → ownDir d

/-- Moving an own stream to another state. -/
theorem Scope.setStreamState {r : Stream} {s : StreamState} (h : Scope own hit ownDir c₀ c)
    (hb : StreamBlind own hit ownDir) (hr : r ∈ c.table .stream) (ho : own .stream r) :
    Scope own hit ownDir c₀ (c.setStreamState r.id s) := by
  refine h.set (fun r' hr' ho' => ?_) fun r' hr' hh => ?_
  · refine mem_modify_of_ne hr' fun hid => ho' ?_
    rw [show r' = r from eq_of_key hr' hr hid]
    exact ho
  · obtain ⟨r₂, hr₂, rfl⟩ := mem_modify.mp hr'
    split at hh
    next hid => rw [if_pos hid]; exact hb.ownState r₂ s (h.aim .stream r₂ hr₂ (hb.hitState r₂ s hh))
    next hid => rw [if_neg hid]; exact h.aim .stream r₂ hr₂ hh

/-- Deleting the streams a query matches stays in scope when the query only matches what is aimed
at. -/
theorem streamSafe_scope {q : Query .stream}
    (hstate : ∀ (r : Stream) s, q { r with state := s } = q r)
    (hb : StreamBlind own hit ownDir)
    (hq : c₀.swVersion.lt streamsSince = false → ∀ r : Stream, q r = true → hit .stream r) :
    StreamSafe c₀.swVersion q (Scope own hit ownDir c₀) where
  ver := fun _ h => h.ver
  state := hstate
  stop := fun hV _ r _ h hr hqr => h.setStreamState hb hr (h.aim .stream r hr (hq hV r hqr))
  collect := fun hV _ r h hr hqr => h.erase hr (h.aim .stream r hr (hq hV r hqr))
  drop := fun hV _ r h hr hqr =>
    (h.erase hr (h.aim .stream r hr (hq hV r hqr))).removeTree
      (hb.dir r (h.aim .stream r hr (hq hV r hqr)))

/-- The row under the id, if there is one, is own. -/
def OwnId (own : Owns) (k : Kind) (id : Nat) (c : Cluster) : Prop :=
  ∀ r ∈ c.table k, rowId k r = id → own k r

theorem ownId_of_mem (hr : r ∈ c.table k) (ho : own k r) : OwnId own k (rowId k r) c := by
  intro r' hr' hid
  rw [eq_of_key hr' hr hid]
  exact ho

/-- What a query finds is own, when the query only matches what is aimed at. -/
theorem Scope.ownId {q : Query k} (h : Scope own hit ownDir c₀ c) (hq : ∀ r, q r = true → hit k r)
    (hf : Found k q c (some r)) :
    OwnId own k (rowId k r) c :=
  ownId_of_mem hf.mem.1 (h.aim k r hf.mem.1 (hq r hf.mem.2))

/-- Deleting under an own id, and what goes along with the row. -/
theorem Scope.erase_ownId {id : Nat} (h : Scope own hit ownDir c₀ c ∧ OwnId own k id c)
    (hr : r ∈ c.table k) (hid : rowId k r = id) :
    Scope own hit ownDir c₀ (c.erase k id) ∧ OwnId own k id (c.erase k id) := by
  subst hid
  refine ⟨h.1.erase hr (h.2 r hr rfl), fun r' hr' hid => ?_⟩
  exact absurd hid (mem_erase_table.mp hr').2

end Scope

end VastCsi.Vms
