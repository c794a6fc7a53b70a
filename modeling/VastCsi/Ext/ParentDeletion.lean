import VastCsi.Ext.Owners

/-!
# The deletion of a VSCR or VVR

`handleDeletion` deletes the groups, waits until none is left and no `VastReplicationContent`
either, makes sure that the protected path is gone, and removes the finalizer. A failure to list
the contents is returned; in the count of the groups any failure to get one counts as "gone", and
every failure on the way to the protected path is ignored.

`meets_handleDeletion` follows an attempt call by call, with the outcome of each: it says which
outcomes come to the removal of the finalizer (`Releases`), and what is left of the owner then
(`LeavesNothing`), as a condition on the objects and the outcomes.
-/

namespace VastCsi.Ext.ParentDeletion

open Lib CsiAddons

structure Group where
  namespaceName : String
  name : String
  owner : Owner
  /-- Whether a finalizer of csi-addons keeps it after it is deleted. -/
  held : Bool := false
  deriving DecidableEq

structure Ppath where
  name : String
  enabled : Bool := true
  /-- Whether it is still there when the call that deletes it returns. -/
  slow : Bool := false
  deriving DecidableEq

/-- The objects, the protected paths of the cluster behind each StorageClass,
and the stored parent. -/
structure Cluster where
  groups : List Group
  contents : List ContentMeta
  ppaths : String → List Ppath
  stored : Option Parent

def Cluster.onPpaths (c : Cluster) (scName : String) (f : List Ppath → List Ppath) : Cluster :=
  { c with ppaths := Function.update c.ppaths scName (f (c.ppaths scName)) }

theorem Cluster.onPpaths_self (c : Cluster) (scName : String) (f : List Ppath → List Ppath) :
    (c.onPpaths scName f).ppaths scName = f (c.ppaths scName) :=
  Function.update_self ..

abbrev Rec := EStateM KErr Cluster

/-- The outcome of each call: it answers, fails, or takes effect with its
answer lost. What is not there is not found, which is an answer. -/
structure Outcomes where
  delete : String → Fate Fault := fun _ => .answered
  get : String → Fate Fault := fun _ => .answered
  list : Fate Fault := .answered
  rest : Fate Fault := .answered
  getPpath : Fate Fault := .answered
  disable : Fate Fault := .answered
  deletePpath : Fate Fault := .answered
  deletePolicies : Fate Fault := .answered
  removeFinalizer : Fate Fault := .answered

section Calls

variable (out : Outcomes) (p : Parent)

def isGroupOf (scName : String) (g : Group) : Bool :=
  g.namespaceName == p.pvcNamespace && g.name == p.objectName scName

def afterDelete (scName : String) (gs : List Group) : List Group :=
  gs.filter fun g => !isGroupOf p scName g || g.held

def deleteGroup (scName : String) : Rec Unit :=
  withContext s!"failed to delete {p.kind.objectKind} {p.pvcNamespace}/{p.objectName scName}"
    (call (out.delete scName) fun c => .ok () { c with groups := afterDelete p scName c.groups })

def getGroup (scName : String) : Rec Bool :=
  call (out.get scName) fun c => .ok (c.groups.any (isGroupOf p scName)) c

/-- `countOwnedVGRs`, `countOwnedVRs`: a failure counts as gone. -/
def countOwned : List String → Rec Nat
  | [] => pure 0
  | scName :: scs => do
    let there ← tryCatch (getGroup out p scName) fun _ => pure false
    let rest ← countOwned scs
    pure (if there then rest + 1 else rest)

/-- The selector of the handler: the owner's name under the key of its kind, in
the namespace of the PVCs. -/
def isListed (c : ContentMeta) : Bool := c.constellation == (p.pvcNamespace, p.kind, p.name)

def listContents : Rec (List ContentMeta) :=
  call out.list fun c => .ok (c.contents.filter (isListed p)) c

/-- `ProtectedPaths.Get` by the name of the status; a failure is ignored. -/
def findPpath : Rec (Option Ppath) :=
  tryCatch (call out.getPpath fun c =>
    .ok ((c.ppaths p.primaryStorageClass).find? (·.name == p.ppathName)) c) fun _ => pure none

/-- `ProtectedPaths.Update` with `enabled` false, of one that is enabled; a
failure is ignored. -/
def disablePpath (ppath : Ppath) : Rec Unit :=
  if ppath.enabled then do
    let _ ← attempt (call out.disable fun c =>
      .ok () (c.onPpaths p.primaryStorageClass fun qs => qs.map fun q =>
        if q.name == p.ppathName then { q with enabled := false } else q))
    pure ()
  else pure ()

/-- `ProtectedPaths.DeleteById`; a failure is logged. -/
def deletePpath : Rec Unit := do
  let _ ← attempt (call out.deletePpath fun c =>
    .ok () (c.onPpaths p.primaryStorageClass fun qs => qs.filter fun q =>
      q.name != p.ppathName || q.slow))
  pure ()

def dropPpath : Rec Unit := do
  match ← findPpath out p with
  | none => pure ()
  | some ppath => do
    disablePpath out p ppath
    deletePpath out p

/-- "Make sure the protected path is gone": skipped when there is none in the
status or when no client for the cluster can be built. -/
def ensurePpathGone : Rec Unit := do
  if p.primaryStorageClass != "" && p.ppathName != "" then do
    match ← attempt (call out.rest (pure ())) with
    | some _ => pure ()
    | none => dropPpath out p
  else pure ()

/-- `DeleteProtectionPolicies`, best effort. -/
def dropPolicies : Rec Unit := do
  if p.primaryStorageClass != "" then do
    let _ ← attempt (call out.deletePolicies (pure ()))
    pure ()
  else pure ()

def removeFinalizer : Rec Unit :=
  call out.removeFinalizer fun c =>
    .ok () { c with stored := c.stored.map fun v => { v with finalizer := false } }

def handleDeletion : Rec Unit := do
  if p.finalizer then do
    forEach (deleteGroup out p) p.storageClasses
    if (← countOwned out p p.storageClasses) > 0 then pure ()
    else do
      let contents ← withContext "failed to list VastReplicationContents" (listContents out p)
      if contents.length > 0 then pure ()
      else do
        ensurePpathGone out p
        dropPolicies out p
        withContext "failed to remove finalizer" (removeFinalizer out)
  else pure ()

end Calls

/-- The protected path made for an owner: the one of its status, which is named
after the owner before it is recorded there. -/
def ownPpath (p : Parent) : String := if p.ppathName = "" then p.name else p.ppathName

structure Gone (p : Parent) (c : Cluster) : Prop where
  groups : ∀ g ∈ c.groups, g.owner ≠ p.toOwner
  contents : ∀ x ∈ c.contents, x.owner ≠ p.toOwner
  ppath : ∀ q ∈ c.ppaths p.primaryStorageClass, q.name ≠ ownPpath p

/-- The finalizer has not been removed, or nothing is left. -/
def FinalizerLast (p : Parent) (c : Cluster) : Prop :=
  p.finalizer = true → (∃ v, c.stored = some v ∧ v.finalizer = false) → Gone p c

/-! ## Which outcomes release the finalizer, and what they leave -/

section Outcome

variable (out : Outcomes) (p : Parent) (c : Cluster)

/-- The outcomes with which an attempt comes to the finalizer and removes it: every group could be
deleted, none that can be read is left, and no content is listed. -/
structure Releases : Prop where
  finalizer : p.finalizer = true
  deletes : ∀ scName ∈ p.storageClasses, out.delete scName = .answered
  counted : ∀ scName ∈ p.storageClasses, out.get scName = .answered →
    ∀ g ∈ c.groups, isGroupOf p scName g = true → g.held = false
  list : out.list = .answered
  unlisted : ∀ x ∈ c.contents, isListed p x = false
  removal : ∀ f, out.removeFinalizer ≠ .failed f

/-- The owner's protected path is not there, or is in the status, can be looked up and deleted, and
goes at once. -/
def PpathDropped : Prop :=
  ∀ q ∈ c.ppaths p.primaryStorageClass, q.name = ownPpath p →
    (p.primaryStorageClass ≠ "" ∧ p.ppathName ≠ "") ∧ out.rest = .answered ∧
      out.getPpath = .answered ∧ (∀ f, out.deletePpath ≠ .failed f) ∧ q.slow = false

/-- Nothing of the owner is left by an attempt that deletes its groups by name. -/
structure LeavesNothing : Prop where
  groups : ∀ g ∈ c.groups, g.owner = p.toOwner →
    g.held = false ∧ ∃ scName ∈ p.storageClasses, isGroupOf p scName g = true
  contents : ∀ x ∈ c.contents, x.owner ≠ p.toOwner
  ppath : PpathDropped out p c

end Outcome

section Rules

variable {out : Outcomes} {p : Parent} {I : Cluster → Prop} {c : Cluster}

/-- A call that only looks is answered with what is there, or is not answered. -/
theorem meets_look {α : Type} {fate : Fate Fault} {f : Cluster → α} :
    Meets I (call fate fun c => .ok (f c) c) (fun a c => I c ∧ fate = .answered ∧ a = f c)
      (fun _ c => I c ∧ fate ≠ .answered) := by
  intro c hc
  cases fate with
  | answered => exact ⟨hc, rfl, rfl⟩
  | failed f => exact ⟨hc, nofun⟩
  | lost f => exact ⟨hc, nofun⟩

/-- A call that writes takes effect unless it fails, whether or not it is answered. -/
theorem meets_write {fate : Fate Fault} {g : Cluster → Cluster} {K : Cluster → Prop}
    (hdone : (∀ f, fate ≠ .failed f) → ∀ c, I c → K (g c))
    (hfailed : ∀ f, fate = .failed f → ∀ c, I c → K c) :
    Meets I (call fate fun c => .ok () (g c)) (fun _ => K) (fun _ => K) := by
  intro c hc
  cases fate with
  | answered => exact hdone nofun c hc
  | failed f => exact hfailed f rfl c hc
  | lost f => exact hdone nofun c hc

/-- The groups that the deletions by name have left of those that were there; nothing else has
changed. -/
structure Deleted (p : Parent) (scs : List String) (c c' : Cluster) : Prop where
  stored : c'.stored = c.stored
  contents : c'.contents = c.contents
  ppaths : c'.ppaths = c.ppaths
  groups : ∀ g, g ∈ c'.groups ↔
    g ∈ c.groups ∧ ∀ scName ∈ scs, isGroupOf p scName g = true → g.held = true

theorem mem_afterDelete {scName : String} {gs : List Group} {g : Group} :
    g ∈ afterDelete p scName gs ↔ g ∈ gs ∧ (isGroupOf p scName g = true → g.held = true) := by
  unfold afterDelete
  rw [List.mem_filter, Bool.or_eq_true, Bool.not_eq_true', imp_iff_not_or, Bool.not_eq_true]

theorem meets_deleteGroup (scName : String) (c : Cluster) :
    Meets (· = c) (deleteGroup out p scName)
      (fun _ c' => c' = { c with groups := afterDelete p scName c.groups } ∧
        out.delete scName = .answered)
      (fun _ c' => c'.stored = c.stored ∧ out.delete scName ≠ .answered) := by
  refine meets_withContext ?_
  rintro _ rfl
  cases h : out.delete scName with
  | answered => exact ⟨rfl, rfl⟩
  | failed f => exact ⟨rfl, nofun⟩
  | lost f => exact ⟨rfl, nofun⟩

/-- The loop goes through exactly when every deletion is answered. -/
theorem meets_deleteGroups : ∀ (scs : List String) (c : Cluster),
    Meets (· = c) (forEach (deleteGroup out p) scs)
      (fun _ c' => Deleted p scs c c' ∧ ∀ scName ∈ scs, out.delete scName = .answered)
      (fun _ c' => c'.stored = c.stored ∧ ∃ scName ∈ scs, out.delete scName ≠ .answered)
  | [], c => by
    refine .pure ?_
    rintro _ rfl
    exact ⟨⟨rfl, rfl, rfl, by simp⟩, by simp⟩
  | scName :: scs, c => by
    refine .bind ((meets_deleteGroup scName c).raise fun _ _ hc =>
      ⟨hc.1, scName, List.mem_cons_self, hc.2⟩) fun _ => ?_
    refine .assuming (p := out.delete scName = .answered) (fun _ hc => hc.2) fun hdelete => ?_
    refine (meets_deleteGroups scs _).weaken (fun _ hc => hc.1) (fun _ c' hc => ?_)
      fun _ c' hc => ?_
    · obtain ⟨hdeleted, hrest⟩ := hc
      refine ⟨⟨hdeleted.stored, hdeleted.contents, hdeleted.ppaths, fun g => ?_⟩, ?_⟩
      · rw [hdeleted.groups, List.forall_mem_cons, ← and_assoc]
        exact and_congr_left fun _ => mem_afterDelete
      · exact List.forall_mem_cons.mpr ⟨hdelete, hrest⟩
    · obtain ⟨hstored, sc, hsc, hfail⟩ := hc
      exact ⟨hstored, sc, List.mem_cons_of_mem _ hsc, hfail⟩

/-- A group is counted when it is there and can be read. -/
theorem meets_countOwned : ∀ (scs : List String) (I : Cluster → Prop),
    Finishes I (countOwned out p scs) (fun n c => I c ∧ (n = 0 ↔ ∀ scName ∈ scs,
      out.get scName = .answered → c.groups.any (isGroupOf p scName) = false))
  | [], _ => .pure fun _ hc => ⟨hc, by simp⟩
  | scName :: scs, I => by
    have hget : Finishes I (tryCatch (getGroup out p scName) fun _ => pure false)
        (fun there c => I c ∧ (there = false ↔
          (out.get scName = .answered → c.groups.any (isGroupOf p scName) = false))) := by
      refine .tryCatch (meets_look.post fun there c hc => ⟨hc.1, ?_⟩) fun _ => .pure fun c hc => ?_
      · rw [hc.2.2, forall_prop_of_true hc.2.1]
      · exact ⟨hc.1, fun _ h => absurd h hc.2, fun _ => rfl⟩
    refine .bind hget fun there => .bind (meets_countOwned scs _) fun n => .pure ?_
    rintro c ⟨⟨hc, hthere⟩, hn⟩
    refine ⟨hc, ?_⟩
    rw [List.forall_mem_cons, ← hn, ← hthere]
    cases there <;> simp

/-- After the deletions, a group that is read is one that is held. -/
theorem counted_iff {c' : Cluster} (hdeleted : Deleted p p.storageClasses c c') :
    (∀ scName ∈ p.storageClasses, out.get scName = .answered →
        c'.groups.any (isGroupOf p scName) = false) ↔
      ∀ scName ∈ p.storageClasses, out.get scName = .answered →
        ∀ g ∈ c.groups, isGroupOf p scName g = true → g.held = false := by
  refine forall₂_congr fun scName hsc => imp_congr_right fun _ => ?_
  rw [List.any_eq_false]
  constructor
  · intro h g hg hkey
    by_contra hheld
    refine h g ((hdeleted.groups g).mpr ⟨hg, fun _ _ _ => ?_⟩) hkey
    exact Bool.not_eq_false _ ▸ hheld
  · intro h g hg hkey
    obtain ⟨hmem, hleft⟩ := (hdeleted.groups g).mp hg
    rw [h g hmem hkey] at hleft
    exact nomatch hleft scName hsc hkey

/-- Of the protected paths with the name of the status, whether they take their time to go. -/
def named (p : Parent) (c : Cluster) : List Bool :=
  ((c.ppaths p.primaryStorageClass).filter (·.name == p.ppathName)).map (·.slow)

theorem named_eq_nil_iff :
    named p c = [] ↔ ∀ q ∈ c.ppaths p.primaryStorageClass, q.name ≠ p.ppathName := by
  simp [named]

/-- What the groups, contents and parent are, for the procedures that do not touch them. -/
structure Same (c c' : Cluster) : Prop where
  groups : c'.groups = c.groups
  contents : c'.contents = c.contents
  stored : c'.stored = c.stored

theorem meets_disablePpath (bs : List Bool) (ppath : Ppath) :
    Finishes (fun c' => Same c c' ∧ named p c' = bs) (disablePpath out p ppath)
      (fun _ c' => Same c c' ∧ named p c' = bs) := by
  unfold disablePpath
  split
  · refine .bind (.attempt (keeps_call fun c' hc =>
      ⟨⟨hc.1.groups, hc.1.contents, hc.1.stored⟩, ?_⟩)) fun _ => .ret
    rw [← hc.2, named, Cluster.onPpaths_self, List.filter_map, List.map_map]
    have hname : ((fun q : Ppath => q.name == p.ppathName) ∘ fun q =>
        if q.name == p.ppathName then { q with enabled := false } else q) =
          fun q => q.name == p.ppathName := by
      funext q
      simp only [Function.comp]
      split <;> rfl
    rw [hname]
    refine List.map_congr_left fun q _ => ?_
    simp only [Function.comp]
    split <;> rfl
  · exact .ret

theorem named_delete (p : Parent) (c : Cluster) :
    named p (c.onPpaths p.primaryStorageClass fun qs => qs.filter fun q =>
      q.name != p.ppathName || q.slow) = (named p c).filter id := by
  rw [named, named, Cluster.onPpaths_self, List.filter_map, List.filter_filter, List.filter_filter]
  congr 1
  refine List.filter_congr fun q _ => ?_
  simp only [Function.comp, id, bne]
  cases q.name == p.ppathName <;> cases q.slow <;> rfl

theorem forall_mem_named {P : Bool → Prop} : (∀ b ∈ named p c, P b) ↔
    ∀ q ∈ c.ppaths p.primaryStorageClass, q.name = p.ppathName → P q.slow := by
  simp only [named, List.forall_mem_map, List.mem_filter, beq_iff_eq, and_imp]

/-- After the deletion none is left exactly when the call took effect and none was slow. -/
theorem meets_deletePpath (bs : List Bool) :
    Finishes (fun c' => Same c c' ∧ named p c' = bs) (deletePpath out p)
      (fun _ c' => Same c c' ∧
        (named p c' = [] ↔ ∀ b ∈ bs, (∀ f, out.deletePpath ≠ .failed f) ∧ b = false)) := by
  refine .bind (.attempt (meets_write ?_ ?_)) fun _ => .ret
  · rintro hdone c' ⟨hsame, rfl⟩
    refine ⟨⟨hsame.groups, hsame.contents, hsame.stored⟩, ?_⟩
    rw [named_delete, List.filter_eq_nil_iff]
    exact forall₂_congr fun b _ => by rw [and_iff_right hdone, id, Bool.not_eq_true]
  · rintro f hf c' ⟨hsame, rfl⟩
    refine ⟨hsame, fun hnil b hb => ?_,
      fun hall => List.eq_nil_iff_forall_not_mem.mpr fun b hb => ?_⟩
    · rw [hnil] at hb
      cases hb
    · exact (hall b hb).1 f hf

/-- What is found of the path of the status; a failed look finds nothing. -/
theorem meets_findPpath : Finishes (· = c) (findPpath out p) (fun found c' => c' = c ∧
    (out.getPpath = .answered ∧
        found = (c.ppaths p.primaryStorageClass).find? (·.name == p.ppathName) ∨
      out.getPpath ≠ .answered ∧ found = none)) := by
  refine .tryCatch (meets_look.post fun found c' hc => ?_) fun _ =>
    .pure fun _ hc => ⟨hc.1, .inr ⟨hc.2, rfl⟩⟩
  obtain ⟨rfl, hget, hfound⟩ := hc
  exact ⟨rfl, .inl ⟨hget, hfound⟩⟩

/-- The outcomes with which the path of the status goes: it is not there, or the calls work. -/
theorem meets_ensurePpathGone : Finishes (· = c) (ensurePpathGone out p) (fun _ c' => Same c c' ∧
    ((∀ q ∈ c'.ppaths p.primaryStorageClass, q.name ≠ ownPpath p) ↔ PpathDropped out p c)) := by
  -- without the deletion the path is gone exactly when it was not there
  have hskip : ¬ ((p.primaryStorageClass ≠ "" ∧ p.ppathName ≠ "") ∧ out.rest = .answered ∧
      out.getPpath = .answered) → Same c c ∧
        ((∀ q ∈ c.ppaths p.primaryStorageClass, q.name ≠ ownPpath p) ↔ PpathDropped out p c) := by
    refine fun hnot => ⟨⟨rfl, rfl, rfl⟩, fun h q hq hname => absurd hname (h q hq), ?_⟩
    exact fun h q hq hname => hnot ⟨(h q hq hname).1, (h q hq hname).2.1, (h q hq hname).2.2.1⟩
  unfold ensurePpathGone
  split
  next hguard =>
    have hnames : p.primaryStorageClass ≠ "" ∧ p.ppathName ≠ "" := by simpa using hguard
    have hown : ownPpath p = p.ppathName := if_neg hnames.2
    have hrest : Meets (· = c) (call out.rest (pure ())) (fun _ c' => c' = c ∧ out.rest = .answered)
        (fun _ c' => c' = c ∧ out.rest ≠ .answered) :=
      (meets_look (f := fun _ => ())).post fun _ _ hc => ⟨hc.1, hc.2.1⟩
    refine .bind (.attempt_cases hrest) fun failed => ?_
    cases failed with
    | some e =>
      refine .pure fun c' hc => ?_
      obtain ⟨-, hc, hno⟩ := hc.resolve_left fun h => nomatch h.1
      rw [hc]
      exact hskip fun h => hno h.2.1
    | none =>
      refine .assuming (p := out.rest = .answered)
        (fun c' hc => (hc.resolve_right fun h => nomatch h.1).2.2) fun hrest => ?_
      refine .bind (meets_findPpath.pre fun c' hc => (hc.resolve_right fun h => nomatch h.1).2.1)
        fun found => ?_
      cases found with
      | none =>
        refine .pure fun c' hc => ?_
        rw [hc.1]
        rcases hc.2 with ⟨-, hnone⟩ | ⟨hget, -⟩
        · have hnot : ∀ q ∈ c.ppaths p.primaryStorageClass, q.name ≠ ownPpath p := by
            intro q hq
            rw [hown]
            simpa using List.find?_eq_none.mp hnone.symm q hq
          exact ⟨⟨rfl, rfl, rfl⟩, fun _ q hq hname => absurd hname (hnot q hq), fun _ => hnot⟩
        · exact hskip fun h => hget h.2.2
      | some ppath =>
        refine .assuming (p := out.getPpath = .answered)
          (fun _ hc => (hc.2.resolve_right fun h => nomatch h.2).1) fun hget => ?_
        refine .bind ((meets_disablePpath (named p c) ppath).pre fun c' hc => ?_) fun _ =>
          (meets_deletePpath (named p c)).post fun _ c' hc => ⟨hc.1, ?_⟩
        · rw [hc.1]
          exact ⟨⟨rfl, rfl, rfl⟩, rfl⟩
        · rw [hown, ← named_eq_nil_iff, hc.2, forall_mem_named, PpathDropped, hown]
          simp only [hnames, hrest, hget, ne_eq, not_false_eq_true, true_and]
  next hguard =>
    refine .pure ?_
    rintro _ rfl
    exact hskip fun h => hguard (by simpa using h.1)

theorem meets_dropPolicies : Finishes I (dropPolicies out p) (fun _ => I) := by
  unfold dropPolicies
  split
  next => exact .bind (.attempt (keeps_call (keeps_pure _))) fun _ => .ret
  next => exact .ret

theorem gone_iff {c₁ c₂ : Cluster} (hdeleted : Deleted p p.storageClasses c c₁) (hsame : Same c₁ c₂)
    (hppath : (∀ q ∈ c₂.ppaths p.primaryStorageClass, q.name ≠ ownPpath p) ↔ PpathDropped out p c) :
    Gone p c₂ ↔ LeavesNothing out p c := by
  have hgroups : (∀ g ∈ c₂.groups, g.owner ≠ p.toOwner) ↔ ∀ g ∈ c.groups, g.owner = p.toOwner →
      g.held = false ∧ ∃ scName ∈ p.storageClasses, isGroupOf p scName g = true := by
    rw [hsame.groups]
    constructor
    · intro h g hg howner
      by_contra hnot
      refine h g ((hdeleted.groups g).mpr ⟨hg, fun scName hsc hkey => ?_⟩) howner
      by_contra hheld
      exact hnot ⟨Bool.not_eq_true _ ▸ hheld, scName, hsc, hkey⟩
    · intro h g hg howner
      obtain ⟨hmem, hleft⟩ := (hdeleted.groups g).mp hg
      obtain ⟨hheld, scName, hsc, hkey⟩ := h g hmem howner
      rw [hleft scName hsc hkey] at hheld
      cases hheld
  have hcontents : c₂.contents = c.contents := hsame.contents.trans hdeleted.contents
  constructor
  · intro h
    exact ⟨hgroups.mp h.groups, hcontents ▸ h.contents, hppath.mp h.ppath⟩
  · intro h
    exact ⟨hgroups.mpr h.groups, hcontents ▸ h.contents, hppath.mpr h.ppath⟩

/-- The end of an attempt: the finalizer is still there, with outcomes that do not release it, or
it is gone, and what is left of the owner is what these outcomes leave. -/
def Ends (out : Outcomes) (p : Parent) (c c' : Cluster) : Prop :=
  c'.stored = some p ∧ ¬ Releases out p c ∨
    Releases out p c ∧ (∃ v, c'.stored = some v ∧ v.finalizer = false) ∧
      (Gone p c' ↔ LeavesNothing out p c)

/-- Before the removal: all has gone right so far, and what is left is what will be left. -/
def Cleared (out : Outcomes) (p : Parent) (c c' : Cluster) : Prop :=
  c'.stored = some p ∧ (Gone p c' ↔ LeavesNothing out p c) ∧
    ((∀ f, out.removeFinalizer ≠ .failed f) → Releases out p c)

theorem meets_removeFinalizer :
    Meets (Cleared out p c) (removeFinalizer out) (fun _ => Ends out p c)
      (fun _ => Ends out p c) := by
  refine meets_write (fun hremoval c' hc => ?_) fun f h c' hc =>
    .inl ⟨hc.1, fun h' => h'.removal f h⟩
  obtain ⟨hstored, hgone, hreleases⟩ := hc
  refine .inr ⟨hreleases hremoval, ⟨{ p with finalizer := false }, by rw [hstored]; rfl, rfl⟩, ?_⟩
  rw [← hgone]
  exact ⟨fun h => ⟨h.groups, h.contents, h.ppath⟩, fun h => ⟨h.groups, h.contents, h.ppath⟩⟩

/-- **An attempt by its outcomes**: it keeps the finalizer, or removes it and leaves what they
leave. -/
theorem meets_handleDeletion (hstored : c.stored = some p) :
    Meets (· = c) (handleDeletion out p) (fun _ => Ends out p c) (fun _ => Ends out p c) := by
  unfold handleDeletion
  split
  next hf =>
    refine .bind ((meets_deleteGroups _ c).raise fun _ c' hc => ?_) fun _ => ?_
    · obtain ⟨hkeep, scName, hsc, hfail⟩ := hc
      exact .inl ⟨hkeep.trans hstored, fun h => hfail (h.deletes scName hsc)⟩
    refine .assuming (p := ∀ scName ∈ p.storageClasses, out.delete scName = .answered)
      (fun _ hc => hc.2) fun hdeletes => ?_
    refine .bind ((meets_countOwned _ _).raise fun _ _ h => h.elim) fun n => ?_
    split
    next hn =>
      refine .pure fun c' hc => .inl ⟨hc.1.1.stored.trans hstored, fun h => ?_⟩
      exact absurd (hc.2.mpr ((counted_iff hc.1.1).mpr h.counted)) (Nat.pos_iff_ne_zero.mp hn)
    next hn =>
      refine .bind (meets_withContext (K := Ends out p c) (meets_look.raise fun _ c' hc =>
        .inl ⟨hc.1.1.1.stored.trans hstored, fun h => hc.2 h.list⟩)) fun listed => ?_
      split
      next hlisted =>
        refine .pure fun c' hc => .inl ⟨hc.1.1.1.stored.trans hstored, fun h => ?_⟩
        obtain ⟨x, hx⟩ := List.exists_mem_of_length_pos hlisted
        rw [hc.2.2, List.mem_filter, hc.1.1.1.contents] at hx
        rw [h.unlisted x hx.1] at hx
        cases hx.2
      next hlisted =>
        refine .bind (Q := fun _ => Cleared out p c) (fun c₁ hc₁ => ?_) fun _ =>
          .bind (meets_dropPolicies.raise fun _ _ h => h.elim) fun _ =>
            meets_withContext meets_removeFinalizer
        obtain ⟨⟨⟨hdeleted, -⟩, hn'⟩, hlist, rfl⟩ := hc₁
        have hcounted := (counted_iff hdeleted).mp (hn'.mp (Nat.le_zero.mp (not_lt.mp hn)))
        refine (meets_ensurePpathGone.weaken (fun _ h => h) (fun _ c' hc => ?_)
          fun _ _ h => h.elim) c₁ rfl
        refine ⟨hc.1.stored.trans (hdeleted.stored.trans hstored), gone_iff hdeleted hc.1 ?_,
          fun hremoval => ⟨hf, hdeletes, hcounted, hlist, fun x hx => ?_, hremoval⟩⟩
        · rw [hc.2, PpathDropped, PpathDropped, hdeleted.ppaths]
        · rw [← Bool.not_eq_true]
          rw [← hdeleted.contents] at hx
          exact fun h => hlisted (List.length_pos_of_mem (List.mem_filter.mpr ⟨hx, h⟩))
  next hf =>
    refine .pure ?_
    rintro _ rfl
    exact .inl ⟨hstored, fun h => hf h.finalizer⟩

end Rules

/-- **When the finalizer goes last**: an attempt removes the finalizer only when no group, content
or protected path of the owner is left, exactly if its outcomes do not release the finalizer, or
leave nothing. -/
theorem finalizerLast_iff (out : Outcomes) (p : Parent) (c : Cluster)
    (hstored : c.stored = some p) :
    FinalizerLast p (endState (handleDeletion out p c)) ↔
      (Releases out p c → LeavesNothing out p c) := by
  rcases (meets_handleDeletion hstored).endState rfl with ⟨hkept, hnot⟩ | ⟨hreleases, hfree, hgone⟩
  · refine ⟨fun _ h => absurd h hnot, ?_⟩
    rintro - hf ⟨v, hv, hv'⟩
    rw [hkept, Option.some.injEq] at hv
    rw [← hv, hf] at hv'
    cases hv'
  · constructor
    · exact fun h _ => hgone.mp (h hreleases.finalizer hfree)
    · exact fun h _ _ => hgone.mpr (h hreleases)

def leaving (kind : OwnerKind) : Parent where
  kind := kind
  namespaceName := "ns"
  name := "v"
  primaryStorageClass := "a"
  protectionTopology := [⟨"a", "b", "peer"⟩]
  ppathName := "v"

def busy (kind : OwnerKind) : Cluster where
  groups :=
    [{ namespaceName := "ns", name := "v-a", owner := (leaving kind).toOwner, held := true }]
  contents := []
  ppaths := fun _ => [{ name := "v" }]
  stored := some (leaving kind)

/-- A group and a protected path of the owner, neither held nor slow, beside those of another
one. -/
def idle : Cluster where
  groups := [{ namespaceName := "ns", name := "v-a", owner := (leaving .vscr).toOwner },
    { namespaceName := "ns", name := "w-a", owner := ⟨.vscr, "ns", "w"⟩, held := true }]
  contents := [{ namespaceName := "ns", name := "w-b", owner := ⟨.vscr, "ns", "w"⟩ }]
  ppaths := fun _ => [{ name := "v" }, { name := "w" }]
  stored := some (leaving .vscr)

/-- The disabling of the path fails and the answer to its deletion is lost: the path goes, and so
does the finalizer. -/
def flaky : Outcomes where
  disable := .failed .unreachable
  deletePpath := .lost .unreachable

theorem finalizerLast_iff_idle : Releases flaky (leaving .vscr) idle ∧
    FinalizerLast (leaving .vscr) (endState (handleDeletion flaky (leaving .vscr) idle)) := by
  have hread : ∀ scName ∈ (leaving .vscr).storageClasses, ∀ g ∈ idle.groups,
      isGroupOf (leaving .vscr) scName g = true → g.held = false := by decide +kernel
  refine ⟨⟨rfl, fun _ _ => rfl, fun scName hsc _ => hread scName hsc, rfl, by decide +kernel,
    nofun⟩, ?_⟩
  refine (finalizerLast_iff flaky (leaving .vscr) idle rfl).mpr fun _ => ⟨?_, ?_, ?_⟩
  · decide +kernel
  · decide +kernel
  · intro q hq hname
    rcases List.mem_pair.mp hq with rfl | rfl
    · exact ⟨by decide, rfl, rfl, nofun, rfl⟩
    · exact absurd hname (by decide)

def blind : Outcomes where
  get := fun _ => .failed .unreachable
  rest := .failed .unreachable

def summary (c : Cluster) : Option Bool × List Owner :=
  (c.stored.map (·.finalizer), c.groups.map (·.owner))

/-- With the finalizer gone and a group left it has gone too early. -/
theorem not_finalizerLast {p : Parent} {c : Cluster} (hf : p.finalizer = true)
    (h : summary c = (some false, [p.toOwner])) : ¬ FinalizerLast p c := by
  intro hlast
  obtain ⟨hstored, hgroups⟩ := Prod.mk.inj h
  obtain ⟨v, hv, hv'⟩ := Option.map_eq_some_iff.mp hstored
  have hmem : p.toOwner ∈ c.groups.map (·.owner) := by
    rw [hgroups]
    exact List.mem_singleton_self _
  obtain ⟨g, hg, howner⟩ := List.mem_map.mp hmem
  exact (hlast hf ⟨v, hv, hv'⟩).groups g hg howner

/-- The groups cannot be read and the cluster cannot be reached: the finalizer is removed with a
group still there. -/
theorem unreachable_cluster_releases : ¬ FinalizerLast (leaving .vscr)
        (endState (handleDeletion blind (leaving .vscr) (busy .vscr))) ∧
      ¬ FinalizerLast (leaving .vvr) (endState (handleDeletion blind (leaving .vvr) (busy .vvr))) :=
  ⟨not_finalizerLast rfl (by decide +kernel), not_finalizerLast rfl (by decide +kernel)⟩

end VastCsi.Ext.ParentDeletion
