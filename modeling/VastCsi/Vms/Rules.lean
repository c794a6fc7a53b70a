import VastCsi.Vms.Resource

/-!
# Rules for the resource methods

A method of `Vms/Resource.lean` keeps an assertion `J` about the cluster when the primitive
changes it can make keep `J`. The `…_gone` rules are about success: what a deletion was aimed at
is not there any more.
-/

namespace VastCsi.Vms

open Lib Cluster List Table

def Found (k : Kind) (q : Query k) (v : Cluster) : Option (Row k) → Prop
  | none => (v.table k).select q = []
  | some r => (v.table k).select q = [r]

variable {k : Kind} {q : Query k} {v : Cluster} {r : Row k}

theorem Found.mem (h : Found k q v (some r)) : r ∈ v.table k ∧ q r = true := by
  rw [← mem_select, show (v.table k).select q = [r] from h]
  exact mem_singleton_self r

theorem Found.eq {r' : Row k} (h : Found k q v (some r)) (hr : r' ∈ v.table k) (hq : q r' = true) :
    r' = r := by
  have := mem_select.mpr ⟨hr, hq⟩
  rw [show (v.table k).select q = [r] from h] at this
  exact mem_singleton.mp this

theorem Found.not_mem (h : Found k q v none) (hq : q r = true) : r ∉ v.table k := by
  intro hr
  have := mem_select.mpr ⟨hr, hq⟩
  rw [show (v.table k).select q = [] from h] at this
  cases this

section Rules

variable {env : Env} {J : Cluster → Prop} {k : Kind} {q : Query k}

variable {α : Type} {id : Nat} {V required : SemVer}

theorem meets_read (f : Cluster → α) :
    Meets (onVms J) (request env (readVms f)) (fun a w => J w.vms ∧ a = f w.vms) (raised J) :=
  meets_request (fun _ _ hw => hw.1) fun _ hw => ⟨hw, rfl⟩

theorem meets_list : Meets (onVms J) (list env k q)
      (fun rs w => J w.vms ∧ rs = (w.vms.table k).select q) (raised J) :=
  meets_read _

theorem meets_one :
    Meets (onVms J) (one env k q) (fun r w => J w.vms ∧ Found k q w.vms r) (raised J) := by
  refine .bind meets_list fun rs => ?_
  match rs with
  | [] => exact .pure fun w hw => ⟨hw.1, hw.2.symm⟩
  | [r] => exact .pure fun w hw => ⟨hw.1, hw.2.symm⟩
  | _ :: _ :: _ => exact .throw fun w hw => ⟨hw.1, rfl⟩

/-- A lookup whose answer is known. -/
theorem meets_one_known {r : Row k} (h : ∀ c, J c → (c.table k).select q = [r]) :
    Meets (onVms J) (one env k q) (fun a w => J w.vms ∧ a = some r) (raised J) := by
  refine meets_one.post (fun a w hw => ⟨hw.1, ?_⟩)
  have hselect := h w.vms hw.1
  cases a with
  | none => exact absurd (hselect.symm.trans hw.2) (cons_ne_nil r [])
  | some r' => rw [singleton_inj.mp (hselect.symm.trans hw.2)]

/-- `one` under an assertion about the whole world. -/
theorem meets_one_world {P : World → Prop} (htick : ∀ w, P w → P w.tick) :
    Meets P (one env k q) (fun r w => P w ∧ Found k q w.vms r) (fun _ => P) := by
  have hlist : Meets P (list env k q)
      (fun rs w => P w ∧ rs = (w.vms.table k).select q) (fun _ => P) :=
    meets_request_world htick (fun _ h => h) (fun _ _ h => h.1) fun _ hw => ⟨hw, rfl⟩
  refine .bind hlist fun rs => ?_
  match rs with
  | [] => exact .pure fun w hw => ⟨hw.1, hw.2.symm⟩
  | [r] => exact .pure fun w hw => ⟨hw.1, hw.2.symm⟩
  | _ :: _ :: _ => exact .throw fun w hw => hw.1

theorem meets_getById :
    Meets (onVms J) (getById env k id) (fun r w => J w.vms ∧ r = w.vms.find k id) (raised J) :=
  meets_read _

/-- A lookup keeps what reading keeps. -/
theorem keeps_one_of_reads {L : World → Prop}
    (hread : ∀ {α : Type} (f : Cluster → α), Keeps L (request env (readVms f))) :
    Keeps L (one env k q) := by
  refine .bind (Q := fun _ => L) (hread _) fun rs => ?_
  match rs with
  | [] => exact .ret
  | [_] => exact .ret
  | _ :: _ :: _ => exact .err

theorem meets_oneOrFail :
    Meets (onVms J) (oneOrFail env k q) (fun r w => J w.vms ∧ Found k q w.vms (some r))
      (raised J) := by
  refine .bind meets_one fun r => ?_
  cases r with
  | none => exact .throw fun w hw => ⟨hw.1, rfl⟩
  | some r => exact .pure fun w hw => hw

/-- Deleting by id keeps `J` when deleting a row under that id does. -/
theorem meets_deleteById {cascade : Row k → Cluster → Cluster}
    (h : ∀ v r, J v → r ∈ v.table k → rowId k r = id → J (cascade r (v.erase k id))) :
    Meets (onVms J) (deleteById env k id cascade) (fun _ => onVms J) (raised J) := by
  refine .tryCatch (meets_request (Q := fun _ => onVms J) (fun _ _ hw => hw) ?_) ?_
  · intro w hw
    unfold dropRow
    cases hf : w.vms.find k id with
    | none => exact ⟨hw, rfl⟩
    | some r =>
      obtain ⟨hr, hid⟩ := find_some hf
      exact h w.vms r hw hr hid
  · intro e
    split
    next => exact .pure fun _ hw => hw.1
    next => exact .throw fun _ hw => hw

/-- After a successful `delete_by_id` nothing has the id. -/
theorem meets_deleteById_gone {cascade : Row k → Cluster → Cluster}
    (hc : ∀ r v, (cascade r v).table k = v.table k) :
    Yields (fun _ => True) (deleteById env k id cascade)
      (fun _ w => ∀ r ∈ w.vms.table k, rowId k r ≠ id) := by
  -- a 404 can only come from the server's own look at the table
  refine .tryCatch
    (F := fun e w => ∀ text, e = .httpError 404 text → ∀ r ∈ w.vms.table k, rowId k r ≠ id)
    ?_ fun e => ?_
  · refine (meets_request_of (J := fun _ => True) (fun f _ _ _ he => absurd he (f.err_plain.2.2 _))
      (fun f _ _ _ _ he => absurd he (f.err_plain.2.2 _))
      (fun f _ _ _ _ he => absurd he (f.err_plain.2.2 _)) ?_)
    intro w _
    unfold dropRow
    cases hf : w.vms.find k id with
    | none => exact fun _ _ r hr => find_none hf hr
    | some r =>
      intro r₁ hr₁
      rw [hc] at hr₁
      exact (mem_erase_table.mp hr₁).2
  · split
    next text => exact .pure fun w hw => hw text rfl
    next => exact .throw fun _ _ => trivial

/-- `delete` keeps `J` when deleting a row the query matches does. -/
theorem meets_deleteWith {del : Nat → Call Unit}
    (h : ∀ r, Meets (onVms fun v => J v ∧ Found k q v (some r)) (del (rowId k r))
      (fun _ => onVms J) (raised J)) :
    Meets (onVms J) (deleteWith env k q del) (fun _ => onVms J) (raised J) := by
  refine .bind meets_one fun r => ?_
  cases r with
  | none => exact .pure fun w hw => hw.1
  | some r => exact h r

theorem meets_getSwVersion (hV : ∀ v, J v → v.swVersion = V) :
    Meets (onVms J) (getSwVersion env) (fun ver w => J w.vms ∧ ver = V) (raised J) :=
  meets_request (Q := fun ver w => J w.vms ∧ ver = V) (fun _ _ hw => hw.1) fun _ hw => ⟨hw, hV _ hw⟩

/-- A guarded method keeps `J` when it does on the versions it runs on. -/
theorem meets_requisite {op : String} {x : Call α} {Q : α → World → Prop}
    (hV : ∀ v, J v → v.swVersion = V) (h : V.lt required = false → Meets (onVms J) x Q (raised J)) :
    Meets (onVms J) (requisite env required op x) Q (raised J) := by
  refine .bind (meets_getSwVersion hV) fun ver => ?_
  refine .assuming (p := ver = V) (fun _ hw => hw.2) fun hver => ?_
  subst hver
  cases hlt : ver.lt required with
  | true => exact .throw fun w hw => ⟨hw.1, rfl⟩
  | false => exact (h hlt).preLeft

/-- A guarded method on a cluster of any version. -/
theorem meets_requisite_of {op : String} {x : Call α} {Q : α → World → Prop}
    {E : Err → World → Prop} (hE : ∀ e w, J w.vms → E e w) (h : Meets (onVms J) x Q E) :
    Meets (onVms J) (requisite env required op x) Q E := by
  refine .bind ((meets_read Cluster.swVersion).weaken (fun _ hw => hw)
    (fun _ _ hw => hw.1) (fun e w hw => hE e w hw.1)) fun ver => ?_
  split
  next => exact .throw fun w hw => hE _ w hw
  next => exact h

end Rules

/-- `J` survives what `ensureSnapshotStreamDeleted` can do to the streams the
query matches, on a cluster of version `V`. -/
structure StreamSafe (V : SemVer) (q : Query .stream) (J : Cluster → Prop) : Prop where
  ver : ∀ v, J v → v.swVersion = V
  state : ∀ (r : Stream) s, q { r with state := s } = q r
  stop : V.lt streamsSince = false → ∀ v (r : Stream) s, J v → r ∈ v.table .stream →
    q r = true → J (v.setStreamState r.id s)
  collect : V.lt streamsSince = false → ∀ v (r : Stream), J v → r ∈ v.table .stream →
    q r = true → J (v.erase .stream r.id)
  drop : V.lt streamsSince = false → ∀ v (r : Stream), J v → r ∈ v.table .stream →
    q r = true → J (removeLoaneeDir r (v.erase .stream r.id))

section Streams

variable {env : Env} {J : Cluster → Prop} {V : SemVer} {q : Query .stream}

/-- An assertion that does not look at streams or directories survives. -/
theorem streamSafe_of_blind (hver : ∀ v, J v → v.swVersion = V)
    (hstate : ∀ (r : Stream) s, q { r with state := s } = q r)
    (h : ∀ v t ds, J v → J { v.set .stream t with dirs := ds }) : StreamSafe V q J where
  ver := hver
  state := hstate
  stop := fun _ v _ _ hJ _ _ => h v _ v.dirs hJ
  collect := fun _ v _ hJ _ _ => h v _ v.dirs hJ
  drop := fun _ v _ hJ _ _ => h v _ _ hJ

/-- The stream under the id, if there is one, is matched by the query. -/
def Matched (q : Query .stream) (id : Nat) (v : Cluster) : Prop :=
  ∀ r ∈ v.table .stream, r.id = id → q r = true

variable {r : Stream} {id : Nat}

theorem matched_of_found {v : Cluster} (h : Found .stream q v (some r)) : Matched q r.id v := by
  intro r' hr' hid
  have hrr : r' = r := eq_of_key hr' h.mem.1 hid
  rw [hrr]
  exact h.mem.2

theorem meets_stopSnapshotStream (hs : StreamSafe V q J) (hV : V.lt streamsSince = false) :
    Meets (onVms fun v => J v ∧ Matched q id v) (stopSnapshotStream env id)
      (fun _ => onVms fun v => J v ∧ Matched q id v)
      (raised fun v => J v ∧ Matched q id v) := by
  refine meets_request (fun _ _ hw => hw) fun w hw => ?_
  obtain ⟨hJ, hm⟩ := hw
  cases hf : w.vms.find .stream id with
  | none => exact ⟨⟨hJ, hm⟩, rfl⟩
  | some r =>
    obtain ⟨hr, hid⟩ := find_some hf
    subst hid
    have hqr := hm r hr rfl
    cases ha : env.afterStop w.calls with
    | none =>
      refine ⟨hs.collect hV _ r hJ hr hqr, fun r₁ hr₁ hid => ?_⟩
      exact absurd hid (mem_erase_table.mp hr₁).2
    | some state =>
      refine ⟨hs.stop hV _ r state hJ hr hqr, fun r₁ hr₁ hid => ?_⟩
      obtain ⟨r₂, hr₂, rfl⟩ := mem_setStreamState.mp hr₁
      split
      next h => rw [hs.state]; exact hm r₂ hr₂ h
      next h => rw [if_neg h] at hid; exact absurd hid h

theorem meets_stopAndWait (hs : StreamSafe V q J) (hV : V.lt streamsSince = false) :
    Meets (onVms fun v => J v ∧ Matched q id v) (stopAndWait env q id)
      (fun left w => (J w.vms ∧ Matched q id w.vms) ∧ (left = false → Found .stream q w.vms none))
      (raised fun v => J v ∧ Matched q id v) := by
  refine .tryCatch (F := raised fun v => J v ∧ Matched q id v) ?_ fun _ => ?_
  · refine .bind (meets_stopSnapshotStream hs hV) fun _ => ?_
    refine .bind (Q := fun _ => onVms fun v => J v ∧ Matched q id v)
      (meets_request (fun _ _ hw => hw) .ret) fun _ => ?_
    exact .pure fun _ hw => ⟨hw, fun h => by cases h⟩
  · refine .bind ((meets_one (J := fun v => J v ∧ Matched q id v)).weaken
      (fun _ hw => hw.1) (fun _ _ hw => hw) (fun _ _ hw => hw)) fun r => ?_
    cases r with
    | none => exact .pure fun _ hw => ⟨hw.1, fun _ => hw.2⟩
    | some r => exact .throw fun _ hw => ⟨hw.1, rfl⟩

theorem meets_dropStream (hs : StreamSafe V q J) (hV : V.lt streamsSince = false) :
    Meets (onVms fun v => J v ∧ Matched q id v)
      (deleteById env .stream id removeLoaneeDir) (fun _ => onVms J) (raised J) := by
  refine (meets_deleteById (J := fun v => J v ∧ Matched q id v) ?_).weaken (fun _ hw => hw)
    (fun _ _ hw => hw.1) (fun _ _ hw => ⟨hw.1.1, hw.2⟩)
  rintro v r ⟨hJ, hm⟩ hr rfl
  refine ⟨hs.drop hV v r hJ hr (hm r hr rfl), fun r₁ hr₁ hid => ?_⟩
  exact absurd hid (mem_erase_table.mp hr₁).2

/-- The walk through `ensureSnapshotStreamDeleted`: with a stream in `R`, and in `Q` when there is
none or it is gone. -/
theorem meets_streamWalk {P Q : World → Prop} {R : Stream → World → Prop} {E : Err → World → Prop}
    (hver : Meets P (getSwVersion env) (fun ver w => if ver.lt streamsSince then Q w else P w) E)
    (hone : Meets P (one env .stream q) (fun r w => r.elim (Q w) (R · w)) E)
    (hbusy : ∀ r code text w, R r w → E (.abort code text) w)
    (hstop : ∀ r, Meets (R r) (stopAndWait env q r.id)
      (fun left w => if left then R r w else Q w) E)
    (hdrop : ∀ r, Meets (R r) (deleteById env .stream r.id removeLoaneeDir) (fun _ => Q) E) :
    Meets P (ensureSnapshotStreamDeleted env q) (fun _ => Q) E := by
  refine .bind hver fun ver => ?_
  cases ver.lt streamsSince with
  | true => exact .ret
  | false =>
    refine .bind hone fun r => ?_
    cases r with
    | none => exact .ret
    | some r =>
      have hrest : Meets (R r) (do
          if ← stopAndWait env q r.id then
            deleteById env .stream r.id removeLoaneeDir
          else pure ()) (fun _ => Q) E := by
        refine .bind (hstop r) fun left => ?_
        cases left with
        | true => exact hdrop r
        | false => exact .ret
      cases hst : r.state with
      | deleting => simp only [hst]; exact .throw fun w hw => hbusy r _ _ w hw
      | finished => simp only [hst]; exact hdrop r
      | _ => simp only [hst]; exact hrest

/-- `ensureSnapshotStreamDeleted` touches only the streams its query matches, with their
directories. -/
theorem meets_ensureSnapshotStreamDeleted (hs : StreamSafe V q J) :
    Meets (onVms J) (ensureSnapshotStreamDeleted env q) (fun _ => onVms J) (raised J) := by
  cases hV : V.lt streamsSince with
  | true =>
    refine .bind (meets_getSwVersion hs.ver) fun ver => ?_
    refine .assuming (p := ver = V) (fun _ hw => hw.2) fun hver => ?_
    rw [hver, hV]
    exact .pure fun _ hw => hw.1
  | false =>
    refine meets_streamWalk (R := fun r => onVms fun v => J v ∧ Matched q r.id v)
      ((meets_getSwVersion hs.ver).post fun ver w hw => ?_) (meets_one.post fun r w hw => ?_)
      (fun _ _ _ _ hw => ⟨hw.1, rfl⟩)
      (fun r => (meets_stopAndWait hs hV).weaken (fun _ hw => hw) (fun left w hw => ?_)
        fun _ _ hw => ⟨hw.1.1, hw.2⟩) fun r => meets_dropStream hs hV
    · rw [hw.2, hV]
      exact hw.1
    · cases r with
      | none => exact hw.1
      | some r => exact ⟨hw.1, matched_of_found hw.2⟩
    · cases left with
      | true => exact hw.1
      | false => exact hw.1.1

/-- A cluster whose matching streams all have the id `id`. -/
def OnlyId (V : SemVer) (q : Query .stream) (id : Nat) (v : Cluster) : Prop :=
  v.swVersion = V ∧ ∀ r ∈ v.table .stream, q r = true → r.id = id

theorem streamSafe_onlyId (hstate : ∀ (r : Stream) s, q { r with state := s } = q r) :
    StreamSafe V q (OnlyId V q id) where
  ver := fun _ h => h.1
  state := hstate
  stop := by
    rintro - v r s ⟨hver, honly⟩ hr hqr
    refine ⟨hver, fun r₁ hr₁ hq₁ => ?_⟩
    obtain ⟨r₂, hr₂, rfl⟩ := mem_setStreamState.mp hr₁
    split at hq₁
    next h => rw [if_pos h]; exact honly r₂ hr₂ (by rwa [hstate] at hq₁)
    next h => rw [if_neg h]; exact honly r₂ hr₂ hq₁
  collect := by
    rintro - v r ⟨hver, honly⟩ hr hqr
    exact ⟨hver, fun r₁ hr₁ hq₁ => honly r₁ (mem_erase_table.mp hr₁).1 hq₁⟩
  drop := by
    rintro - v r ⟨hver, honly⟩ hr hqr
    exact ⟨hver, fun r₁ hr₁ hq₁ => honly r₁ (mem_erase_table.mp hr₁).1 hq₁⟩

theorem onlyId_of_found {v : Cluster} (hver : v.swVersion = V) (h : Found .stream q v (some r)) :
    OnlyId V q r.id v :=
  ⟨hver, fun _ hr hq => by rw [h.eq hr hq]⟩

/-- **A stream the query matches is gone** when `ensureSnapshotStreamDeleted`
succeeds on a cluster that has streams. -/
theorem meets_ensureSnapshotStreamDeleted_gone
    (hstate : ∀ (r : Stream) s, q { r with state := s } = q r) (hV : V.lt streamsSince = false)
    (hqr : q r = true) :
    Yields (onVms (·.swVersion = V)) (ensureSnapshotStreamDeleted env q)
      (fun _ => onVms fun v => r ∉ v.table .stream) := by
  -- every match has the id of the stream that is found, and in the end nothing has it
  refine meets_streamWalk (R := fun s => onVms fun v => OnlyId V q s.id v ∧ Matched q s.id v)
    ((meets_getSwVersion fun _ h => h).okOnly.post fun ver w hw => ?_)
    (meets_one.okOnly.post fun s w hw => ?_) (fun _ _ _ _ _ => trivial)
    (fun s => (meets_stopAndWait (streamSafe_onlyId hstate) hV).okOnly.post fun left w hw => ?_)
    fun s => ((meets_dropStream (streamSafe_onlyId hstate) hV).and
      (meets_deleteById_gone fun _ _ => rfl)).okOnly.weaken (fun _ h => ⟨h, trivial⟩)
        (fun _ w hw hr => hw.2 r hr (hw.1.2 r hr hqr)) fun _ _ h => h
  · rw [hw.2, hV]
    exact hw.1
  · cases s with
    | none => exact hw.2.not_mem hqr
    | some s => exact ⟨onlyId_of_found hw.1 hw.2, matched_of_found hw.2⟩
  · cases left with
    | true => exact hw.1
    | false => exact (hw.2 rfl).not_mem hqr

end Streams

section Others

variable {env : Env} {J : Cluster → Prop}

/-- What the error text of a folder request says about the trash API. -/
structure TrashAnswer (U : Bool) (e : Err) : Prop where
  noDir : ∀ s text, e = .apiError s text → Text.contains text "no such directory" = true → U = true
  disabled : ∀ s text, e = .apiError s text →
    Text.contains text "trash folder disabled" = true → U = false
  plain : e.notSupported = false ∧ e.isOSError = false

theorem Fault.trashAnswer (f : Fault) (U : Bool) : TrashAnswer U f.err := by
  refine ⟨?_, ?_, f.err_plain.1, f.err_plain.2.1⟩
  · intro s text he hc
    cases f <;> cases he <;> exact absurd hc (by decide)
  · intro s text he hc
    cases f <;> cases he <;> exact absurd hc (by decide)

variable {path tenantId : String} {id : Nat}

theorem meets_dropFolder {U : Bool} (hU : ∀ v, J v → v.trashEnabled = U)
    (htree : ∀ v, J v → J (v.removeTree tenantId path)) :
    Meets (onVms J) (request env (dropFolder path tenantId)) (fun _ w => J w.vms ∧ U = true)
      (fun e w => J w.vms ∧ TrashAnswer U e) := by
  refine meets_request_of (fun f _ hw => ⟨hw, f.trashAnswer U⟩)
    (fun f _ _ hw => ⟨hw.1, f.trashAnswer U⟩) (fun f _ _ hw => ⟨hw.1, f.trashAnswer U⟩) ?_
  intro w hw
  have hUw : w.vms.trashEnabled = U := hU w.vms hw
  unfold dropFolder
  cases htr : w.vms.trashEnabled with
  | false =>
    refine ⟨hw, ?_, fun _ _ _ _ => by rw [← hUw, htr], rfl, rfl⟩
    intro s text he hc
    cases he
    exact absurd hc (by decide)
  | true =>
    cases w.vms.dirs.any fun d => d == ⟨tenantId, pathParts path⟩ with
    | true => exact ⟨htree _ hw, by rw [← hUw, htr]⟩
    | false =>
      refine ⟨hw, fun _ _ _ _ => by rw [← hUw, htr], ?_, rfl, rfl⟩
      intro s text he hc
      cases he
      exact absurd hc (by decide)

/-- The trash API is usable or not by the cluster's version and setting. -/
theorem trashUsable_eq {c c₀ : Cluster} {dont : Bool} (hv : c.swVersion = c₀.swVersion)
    (ht : c.trashEnabled = c₀.trashEnabled) : trashUsable dont c = trashUsable dont c₀ := by
  rw [trashUsable, hv, ht, trashUsable]

/-- `Folder.delete` removes the tree or raises; it is refused as not
supported exactly when the trash API is not usable. -/
theorem meets_folderDelete {dont U : Bool} (hU : ∀ v, J v → trashUsable dont v = U)
    (htree : ∀ v, J v → J (v.removeTree tenantId path)) :
    Meets (onVms J) (folderDelete env dont path tenantId) (fun _ w => J w.vms ∧ U = true)
      (fun e w => raised J e w ∧ (e.notSupported = true → U = false)) := by
  have hplain : ∀ (f : Fault) (w : World), J w.vms →
      raised J f.err w ∧ (f.err.notSupported = true → U = false) := by
    intro f w hw
    refine ⟨⟨hw, f.err_plain.2.1⟩, fun h => ?_⟩
    rw [f.err_plain.1] at h
    cases h
  have hver : Meets (onVms J) (getSwVersion env) (fun ver w => J w.vms ∧ ver = w.vms.swVersion)
      (fun e w => raised J e w ∧ (e.notSupported = true → U = false)) := by
    refine meets_request_of hplain (fun f _ w hw => hplain f w hw.1)
      (fun f _ w hw => hplain f w hw.1.1) ?_
    exact fun w hw => ⟨hw, rfl⟩
  refine .bind hver fun ver => ?_
  cases hlt : ver.lt ⟨4, 7, 0⟩ with
  | true =>
    refine .throw fun w hw => ⟨⟨hw.1, rfl⟩, fun _ => ?_⟩
    rw [← hU _ hw.1, trashUsable, ← hw.2, hlt]
    rfl
  | false =>
    cases hd : dont with
    | true =>
      refine .throw fun w hw => ⟨⟨hw.1, rfl⟩, fun _ => ?_⟩
      rw [← hU _ hw.1, trashUsable, hd]
      simp
    | false =>
      -- from here the answer is that of the cluster's trash folder
      have husable : ∀ v, J v ∧ ver = v.swVersion → v.trashEnabled = U := by
        rintro v ⟨hv, hver⟩
        rw [← hU v hv, trashUsable, ← hver, hlt, hd]
        simp
      have hdrop : Meets (fun w => J w.vms ∧ ver = w.vms.swVersion)
          (request env (dropFolder path tenantId)) (fun _ w => J w.vms ∧ U = true)
          (fun e w => J w.vms ∧ TrashAnswer U e) :=
        (meets_dropFolder (J := fun v => J v ∧ ver = v.swVersion) husable
          fun v hv => ⟨htree v hv.1, hv.2⟩).weaken (fun _ h => h)
          (fun _ _ h => ⟨h.1.1, h.2⟩) (fun _ _ h => ⟨h.1.1, h.2⟩)
      refine .tryCatch hdrop fun e => ?_
      cases e with
      | apiError s text =>
        dsimp only
        split
        next hc => exact .pure fun w hw => ⟨hw.1, hw.2.noDir s text rfl hc⟩
        next =>
          split
          next hc => exact .throw fun w hw => ⟨⟨hw.1, rfl⟩, fun _ => hw.2.disabled s text rfl hc⟩
          next => exact .throw fun w hw => ⟨⟨hw.1, rfl⟩, fun h => by cases h⟩
      | _ =>
        refine .throw fun w hw => ⟨⟨hw.1, hw.2.plain.2⟩, fun h => ?_⟩
        rw [hw.2.plain.1] at h
        cases h

/-- Deleting a volume, with the retry. -/
theorem meets_volumeDeleteById {V : SemVer} (hV : ∀ v, J v → v.swVersion = V)
    (h : ∀ v r, J v → r ∈ v.table .volume → r.id = id → J (unmapAll r (v.erase .volume id))) :
    Meets (onVms J) (volumeDeleteById env id) (fun _ => onVms J) (raised J) := by
  have hdel : Meets (onVms J) (deleteById env .volume id unmapAll) (fun _ => onVms J)
      (raised J) := meets_deleteById h
  refine meets_requisite hV fun _ => .tryCatch hdel fun e => ?_
  split
  next =>
    split
    next => exact hdel.preLeft
    next => exact .throw fun _ hw => hw
  next => exact .throw fun _ hw => hw

/-- After a successful deletion no volume has the id. -/
theorem meets_volumeDeleteById_gone : Yields (fun _ => True) (volumeDeleteById env id)
      (fun _ w => ∀ r ∈ w.vms.table .volume, r.id ≠ id) := by
  have hdel : Yields (fun _ => True) (deleteById env .volume id unmapAll)
      (fun _ w => ∀ r ∈ w.vms.table .volume, r.id ≠ id) :=
    meets_deleteById_gone fun _ _ => dropRows_table_ne (by decide)
  refine .bind (Q := fun _ _ => True) (.trivial _) fun ver => ?_
  split
  next => exact .throw fun _ _ => trivial
  next =>
    refine .tryCatch hdel fun e => ?_
    split
    next =>
      split
      next => exact hdel
      next => exact .throw fun _ _ => trivial
    next => exact .throw fun _ _ => trivial

/-- Deleting a view, with the forced retry. -/
theorem meets_viewDeleteById {force : Bool}
    (h : ∀ v r, J v → r ∈ v.table .view → r.id = id → J (v.erase .view id)) :
    Meets (onVms J) (viewDeleteById env force id) (fun _ => onVms J) (raised J) := by
  have hdel : Meets (onVms J) (deleteById env .view id) (fun _ => onVms J) (raised J) :=
    meets_deleteById h
  refine .tryCatch hdel fun e => ?_
  split
  next =>
    split
    next => exact hdel.preLeft
    next => exact .throw fun _ hw => hw
  next => exact .throw fun _ hw => hw

/-- After a successful deletion no view has the id. -/
theorem meets_viewDeleteById_gone {force : Bool} :
    Yields (fun _ => True) (viewDeleteById env force id)
      (fun _ w => ∀ r ∈ w.vms.table .view, r.id ≠ id) := by
  have hdel : Yields (fun _ => True) (deleteById env .view id)
      (fun _ w => ∀ r ∈ w.vms.table .view, r.id ≠ id) :=
    meets_deleteById_gone fun _ _ => rfl
  refine .tryCatch hdel fun e => ?_
  split
  next =>
    split
    next => exact hdel
    next => exact .throw fun _ _ => trivial
  next => exact .throw fun _ _ => trivial

/-- `View.ensure` returns the one view of that path and policy, or a new one
of the policy's tenant when there is none. -/
theorem meets_viewEnsure {K : Cluster → Prop} {policy : String} {protocols : List String}
    (hnew : ∀ v pol, J v → Found .view (fun r => r.path == path && r.policy == policy) v none →
      Found .policy (·.name == policy) v (some pol) →
      K ((v.insert .view ⟨(v.table .view).fresh, path, pol.tenantId, policy, protocols, none,
        none⟩).addDir pol.tenantId path)) :
    Meets (onVms J) (viewEnsure env path protocols policy) (fun r w =>
        (J w.vms ∧ Found .view (fun r => r.path == path && r.policy == policy) w.vms (some r)) ∨
        (K w.vms ∧ r.path = path ∧ r.protocols = protocols))
      (raised fun v => J v ∨ K v) := by
  refine .bind (meets_one.raise (fun _ _ h => ⟨.inl h.1, h.2⟩)) fun r => ?_
  cases r with
  | some r => exact .pure fun w hw => .inl hw
  | none =>
    refine .bind ((meets_oneOrFail
      (J := fun v => J v ∧ Found .view (fun r => r.path == path && r.policy == policy) v none)
      ).raise (fun _ _ h => ⟨.inl h.1.1, h.2⟩)) fun pol => ?_
    refine (meets_request_of
      (J := fun v => (J v ∧ Found .view (fun r => r.path == path && r.policy == policy) v none) ∧
        Found .policy (·.name == policy) v (some pol))
      (fun f _ hw => ⟨.inl hw.1.1, f.err_plain.2.1⟩)
      (Q := fun r w => K w.vms ∧ r.path = path ∧ r.protocols = protocols)
      (fun f _ _ hw => ⟨.inr hw.1, f.err_plain.2.1⟩)
      (fun f _ _ hw => ⟨hw.1, f.err_plain.2.1⟩) ?_).post (fun _ _ hw => .inr hw)
    exact fun w hw => ⟨hnew _ _ hw.1.1 hw.1.2 hw.2, rfl, rfl⟩

/-- `View.update`, from `J` to `K`. -/
theorem meets_viewUpdateProtocols {K : Cluster → Prop} {protocols : List String}
    (hJK : ∀ v, J v → K v) (h : ∀ v, J v → K (v.setViewProtocols id protocols)) :
    Meets (onVms J) (viewUpdateProtocols env id protocols) (fun _ => onVms K) (raised K) := by
  refine meets_request_of (fun f _ hw => ⟨hJK _ hw, f.err_plain.2.1⟩)
    (fun f _ _ hw => ⟨hw, f.err_plain.2.1⟩) (fun f _ _ hw => ⟨hw.1, f.err_plain.2.1⟩) ?_
  intro w hw
  dsimp only
  cases hf : w.vms.find .view id with
  | none => exact ⟨hJK _ hw, rfl⟩
  | some r => exact h _ hw

theorem meets_getVip {name : String} :
    Meets (onVms J) (getVip env name tenantId) (fun _ => onVms J) (raised J) := by
  refine .bind meets_oneOrFail fun pool => ?_
  cases pool.tenantId with
  | none =>
    cases pool.vips with
    | nil => exact .throw fun _ hw => ⟨hw.1, rfl⟩
    | cons vip _ => exact .pure fun _ hw => hw.1
  | some t =>
    dsimp only
    split
    next => exact .throw fun _ hw => ⟨hw.1, rfl⟩
    next =>
      cases pool.vips with
      | nil => exact .throw fun _ hw => ⟨hw.1, rfl⟩
      | cons vip _ => exact .pure fun _ hw => hw.1

end Others

end VastCsi.Vms
