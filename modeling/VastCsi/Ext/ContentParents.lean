import VastCsi.Ext.ContentLife

/-!
# A content outlived by its owner

An owner removes its finalizer only after it has seen none of its groups and none of its contents.
But a content is made by a reconciler that has read the group and the owner some calls before. The
invariant ties the groups to the handler's count: groups are only made while no handler is at work
on their owner, and the handler lists the contents after the count.
-/

namespace VastCsi.Ext.ContentLife

open Lib CsiAddons Option

/-- Every content has its owner: `lookupVRCParent` finds it. -/
def Parented (s : State) : Prop := ∀ x ∈ s.contents, (s.parents x.owner).isSome = true

/-- The call of the action, if it makes one, is answered. -/
def Act.Answered : Act → Prop
  | .parent _ out => out = .ok
  | .makeGroup _ _ out => out = .ok
  | .ro _ out => out = .ok
  | .vrc _ out => out = .ok
  | _ => True

/-- A content is only created while the group it was read for is there. -/
def TimelyCreate (s : State) : Act → Prop
  | .ro k _ =>
    match s.ro k with
    | .absent o => (s.groups k).any (·.owner == o) = true
    | _ => True
  | _ => True

instance : ∀ a : Act, Decidable a.Answered
  | .parent _ out | .ro _ out | .vrc _ out | .makeGroup _ _ out =>
    inferInstanceAs (Decidable (out = .ok))
  | .createParent _ | .deleteParent _ | .deleteGroup _ | .dropGroup _ | .deleteContent _ =>
    isTrue trivial

instance (s : State) : ∀ a : Act, Decidable (TimelyCreate s a)
  | .ro k _ =>
    match h : s.ro k with
    | .absent o =>
      decidable_of_iff ((s.groups k).any (·.owner == o) = true) (by simp only [TimelyCreate, h])
    | .idle | .live _ | .owned _ | .terminating => isTrue (by simp only [TimelyCreate, h])
  | .parent _ _ | .makeGroup _ _ _ | .vrc _ _ | .createParent _ | .deleteParent _
  | .deleteGroup _ | .dropGroup _ | .deleteContent _ => isTrue trivial

theorem TimelyCreate.group {s : State} {k : Key} {o : Owner} {out : Outcome}
    (ht : TimelyCreate s (.ro k out)) (hr : s.ro k = .absent o) :
    ∃ g, s.groups k = some g ∧ g.owner = o := by
  simp only [TimelyCreate, hr, any_eq_true] at ht
  obtain ⟨g, hg, ho⟩ := ht
  exact ⟨g, hg, beq_iff_eq.mp ho⟩

/-- The deletion handler of the owner of the group `k` has not got past it. -/
def Unpassed (L : Layout) (k : Key) (o : Owner) : Phase → Prop
  | .counting todo n => 0 < n ∨ ∃ scName ∈ todo, k = L.key o scName
  | .listing => False
  | .finishing => False
  | _ => True

structure GroupInv (L : Layout) (s : State) (k : Key) (o : Owner) : Prop where
  key : ∃ scName ∈ L.classes o, k = L.key o scName
  parent : (s.parents o).isSome = true
  unpassed : Unpassed L k o (s.phase o)

structure ContentInv (L : Layout) (s : State) (k : Key) (o : Owner) : Prop where
  space : k.1 = L.pvcNamespace o
  parent : (s.parents o).isSome = true
  unfinished : s.phase o ≠ .finishing

structure Inv (L : Layout) (s : State) : Prop where
  group : ∀ k g, s.groups k = some g → GroupInv L s k g.owner
  content : ∀ x ∈ s.contents, ContentInv L s x.key x.owner
  working : ∀ o, s.phase o ≠ .idle → (s.parents o).isSome = true

section Steps

variable {L : Layout} {s s' : State}

theorem inv_init (parents : Owner → Option Bool) : Inv L (init parents) where
  group := fun _ _ h => nomatch h
  content := fun _ h => absurd h List.not_mem_nil
  working := fun _ h => absurd rfl h

/-- No owner is gone, no phase is new, no group is new, and no content is. -/
theorem Inv.mono (h : Inv L s)
    (hp : ∀ o, (s.parents o).isSome = true → (s'.parents o).isSome = true)
    (hph : s'.phase = s.phase)
    (hg : ∀ k g', s'.groups k = some g' → ∃ g, s.groups k = some g ∧ g.owner = g'.owner)
    (hc : ∀ x' ∈ s'.contents, ∃ x ∈ s.contents, x.key = x'.key ∧ x.owner = x'.owner) :
    Inv L s' where
  group := by
    intro k g' hg'
    obtain ⟨g, hgk, ho⟩ := hg k g' hg'
    have hinv := h.group k g hgk
    rw [ho] at hinv
    exact ⟨hinv.key, hp _ hinv.parent, hph ▸ hinv.unpassed⟩
  content := by
    intro x' hx'
    obtain ⟨x, hx, hk, ho⟩ := hc x' hx'
    have hinv := h.content x hx
    rw [hk, ho] at hinv
    exact ⟨hinv.space, hp _ hinv.parent, hph ▸ hinv.unfinished⟩
  working := fun o ho => hp o (h.working o (hph ▸ ho))

theorem same_contents (s : State) :
    ∀ x' ∈ s.contents, ∃ x ∈ s.contents, x.key = x'.key ∧ x.owner = x'.owner :=
  fun x hx => ⟨x, hx, rfl, rfl⟩

theorem same_groups (s : State) :
    ∀ k g', s.groups k = some g' → ∃ g, s.groups k = some g ∧ g.owner = g'.owner :=
  fun _ g hg => ⟨g, hg, rfl⟩

variable {k : Key} {o : Owner} {out : Outcome}

/-- The groups after one is marked, by key. -/
theorem markGroup_groups {k' : Key} {g' : Group} (h : (s.markGroup k).groups k' = some g') :
    ∃ g, s.groups k' = some g ∧ g.owner = g'.owner := by
  unfold State.markGroup at h
  by_cases hk : k' = k
  · subst hk
    rw [State.setGroup_self, map_eq_some_iff] at h
    obtain ⟨g, hg, rfl⟩ := h
    exact ⟨g, hg, rfl⟩
  · rw [State.setGroup_of_ne _ hk] at h
    exact ⟨g', h, rfl⟩

/-- The contents after one is changed, by key and owner. -/
theorem map_contents (k : Key) {f : ContentMeta → ContentMeta} (hk : ∀ x, (f x).key = x.key)
    (ho : ∀ x, (f x).owner = x.owner) :
    ∀ x' ∈ s.contents.map fun x => if x.key = k then f x else x,
      ∃ x ∈ s.contents, x.key = x'.key ∧ x.owner = x'.owner := by
  intro x' hx'
  obtain ⟨x, hx, rfl⟩ := List.mem_map.mp hx'
  refine ⟨x, hx, ?_⟩
  split
  next => exact ⟨(hk x).symm, (ho x).symm⟩
  next => exact ⟨rfl, rfl⟩

theorem inv_markContent (h : Inv L s) (k : Key) : Inv L (s.markContent k) :=
  h.mono (fun _ hp => hp) rfl (same_groups s) (map_contents k (fun _ => rfl) fun _ => rfl)

theorem inv_annotate (h : Inv L s) (k : Key) : Inv L (s.annotate k) :=
  h.mono (fun _ hp => hp) rfl (same_groups s) (map_contents k (fun _ => rfl) fun _ => rfl)

theorem inv_release (h : Inv L s) (k : Key) : Inv L (s.release k) :=
  h.mono (fun _ hp => hp) rfl (same_groups s) fun x hx => ⟨x, (List.mem_filter.mp hx).1, rfl, rfl⟩

theorem inv_markGroup (h : Inv L s) (k : Key) : Inv L (s.markGroup k) :=
  h.mono (fun _ hp => hp) rfl (fun _ _ hg => markGroup_groups hg) (same_contents s)

theorem inv_setRo (h : Inv L s) (k : Key) (r : Ro) : Inv L (s.setRo k r) :=
  h.mono (fun _ hp => hp) rfl (same_groups s) (same_contents s)

theorem inv_setVrc (h : Inv L s) (k : Key) (v : Vrc) : Inv L (s.setVrc k v) :=
  h.mono (fun _ hp => hp) rfl (same_groups s) (same_contents s)

/-- An owner comes, or is put under deletion. -/
theorem inv_setParent (h : Inv L s) (o : Owner) (deleting : Bool) :
    Inv L (s.setParent o (some deleting)) := by
  refine h.mono (fun o' ho' => ?_) rfl (same_groups s) (same_contents s)
  by_cases ho : o' = o
  · subst ho
    rw [State.setParent_self]
    rfl
  · rw [State.setParent_of_ne _ ho]
    exact ho'

/-- The controller of an owner moves on. -/
theorem inv_setPhase (h : Inv L s) {p : Phase} (hp : p ≠ .idle → (s.parents o).isSome = true)
    (hg : ∀ k g, s.groups k = some g → g.owner = o → Unpassed L k o p)
    (hc : ∀ x ∈ s.contents, x.owner = o → p ≠ .finishing) : Inv L (s.setPhase o p) where
  group := by
    intro k g hgk
    have hinv := h.group k g hgk
    refine ⟨hinv.key, hinv.parent, ?_⟩
    by_cases ho : g.owner = o
    · rw [ho, State.setPhase_self]
      exact hg k g hgk ho
    · rw [State.setPhase_of_ne _ ho]
      exact hinv.unpassed
  content := by
    intro x hx
    have hinv := h.content x hx
    refine ⟨hinv.space, hinv.parent, ?_⟩
    by_cases ho : x.owner = o
    · rw [ho, State.setPhase_self]
      exact hc x hx ho
    · rw [State.setPhase_of_ne _ ho]
      exact hinv.unfinished
  working := by
    intro o' ho'
    by_cases ho : o' = o
    · subst ho
      rw [State.setPhase_self] at ho'
      exact hp ho'
    · rw [State.setPhase_of_ne _ ho] at ho'
      exact h.working o' ho'

/-- Into a phase in which the handler has not seen anything yet. -/
theorem inv_setPhase_early (h : Inv L s) {p : Phase} (hp : p ≠ .idle → (s.parents o).isSome = true)
    (hu : ∀ k, Unpassed L k o p) (hf : p ≠ .finishing) : Inv L (s.setPhase o p) :=
  inv_setPhase h hp (fun k _ _ _ => hu k) fun _ _ _ => hf

/-- Past the count there is no group of the owner. -/
theorem Inv.owner_ne (h : Inv L s) (hp : ∀ k, ¬Unpassed L k o (s.phase o)) {g : Group}
    (hg : s.groups k = some g) : g.owner ≠ o := by
  intro ho
  have hu := (h.group k g hg).unpassed
  rw [ho] at hu
  exact hp k hu

/-- One more class looked at: a group that has not been counted is still to come. -/
theorem unpassed_count {sc : String} {todo : List String} {n m : Nat} {g : Group}
    (hg : s.groups k = some g) (hu : Unpassed L k o (.counting (sc :: todo) n)) (hn : n ≤ m)
    (hthere : (s.groups (L.key o sc)).isSome = true → 0 < m) :
    Unpassed L k o (.counting todo m) := by
  rcases hu with hpos | ⟨sc', hsc', hk⟩
  · exact .inl (by omega)
  · rcases List.mem_cons.mp hsc' with rfl | hsc'
    · -- it is the group just looked for
      refine .inl (hthere ?_)
      rw [← hk, hg]
      rfl
    · exact .inr ⟨sc', hsc', hk⟩

/-- The finalizer is removed: every group and content that is left is another's. -/
theorem inv_finish (h : Inv L s) (hph : s.phase o = .finishing) :
    Inv L ((s.setParent o none).setPhase o .idle) := by
  have hcontent : ∀ x ∈ s.contents, x.owner ≠ o := by
    intro x hx ho
    have hun := (h.content x hx).unfinished
    rw [ho, hph] at hun
    exact hun rfl
  refine ⟨fun k g hg => ?_, fun x hx => ?_, fun o' ho' => ?_⟩
  · have hinv := h.group k g hg
    have hne := h.owner_ne (fun _ hu => by rw [hph] at hu; exact hu) hg
    refine ⟨hinv.key, ?_, ?_⟩
    · exact (s.setParent_of_ne hne).symm ▸ hinv.parent
    · rw [State.setPhase_of_ne _ hne]
      exact hinv.unpassed
  · have hinv := h.content x hx
    refine ⟨hinv.space, ?_, ?_⟩
    · exact (s.setParent_of_ne (hcontent x hx)).symm ▸ hinv.parent
    · rw [State.setPhase_of_ne _ (hcontent x hx)]
      exact hinv.unfinished
  · by_cases ho : o' = o
    · subst ho
      rw [State.setPhase_self] at ho'
      exact absurd rfl ho'
    · rw [State.setPhase_of_ne _ ho] at ho'
      exact (s.setParent_of_ne ho).symm ▸ h.working o' ho'

/-- The controller of an owner, with its call answered. -/
theorem inv_parentStep (h : Inv L s) (hs : parentStep L s o .ok = some s') : Inv L s' := by
  unfold parentStep at hs
  cases hph : s.phase o with
  | idle =>
    simp only [hph, map_eq_some_iff] at hs
    obtain ⟨deleting, hpar, rfl⟩ := hs
    have hsome : (s.parents o).isSome = true := by rw [hpar]; rfl
    cases deleting with
    | true => exact inv_setPhase_early h (fun _ => hsome) (fun _ => trivial) nofun
    | false => exact inv_setPhase_early h (fun _ => hsome) (fun _ => trivial) nofun
  | live =>
    simp only [hph, some.injEq] at hs
    subst hs
    exact inv_setPhase_early h (fun hne => absurd rfl hne) (fun _ => trivial) nofun
  | deleting todo =>
    have hsome := h.working o (by rw [hph]; exact nofun)
    cases todo with
    | nil =>
      simp only [hph, some.injEq] at hs
      subst hs
      refine inv_setPhase h (fun _ => hsome) (fun k g hg ho => ?_) fun _ _ _ => nofun
      obtain ⟨sc, hsc, hk⟩ := (h.group k g hg).key
      rw [ho] at hsc hk
      exact .inr ⟨sc, hsc, hk⟩
    | cons sc todo =>
      simp only [hph, some.injEq] at hs
      subst hs
      exact inv_setPhase_early (inv_markGroup h _) (fun _ => hsome) (fun _ => trivial) nofun
  | counting todo n =>
    have hsome := h.working o (by rw [hph]; exact nofun)
    have hun : ∀ k g, s.groups k = some g → g.owner = o → 0 < n ∨ ∃ sc ∈ todo, k = L.key o sc := by
      intro k g hg ho
      have hu := (h.group k g hg).unpassed
      rw [ho, hph] at hu
      exact hu
    cases todo with
    | nil =>
      simp only [hph, some.injEq] at hs
      subst hs
      by_cases hn : n = 0
      · rw [if_pos hn]
        refine inv_setPhase h (fun _ => hsome) (fun k g hg ho => ?_) fun _ _ _ => nofun
        rcases hun k g hg ho with hpos | ⟨sc, hsc, _⟩
        · exact absurd hn (Nat.ne_of_gt hpos)
        · exact absurd hsc List.not_mem_nil
      · rw [if_neg hn]
        exact inv_setPhase_early h (fun hne => absurd rfl hne) (fun _ => trivial) nofun
    | cons sc todo =>
      simp only [hph, some.injEq] at hs
      subst hs
      refine inv_setPhase h (fun _ => hsome) (fun k g hg ho => ?_) fun _ _ _ => nofun
      refine unpassed_count hg (hun k g hg ho) ?_ fun hthere => ?_
      · split <;> omega
      · rw [if_pos ⟨trivial, hthere⟩]
        omega
  | listing =>
    have hsome := h.working o (by rw [hph]; exact nofun)
    simp only [hph, some.injEq] at hs
    subst hs
    split
    next => exact inv_setPhase_early h (fun hne => absurd rfl hne) (fun _ => trivial) nofun
    next hlist =>
      refine inv_setPhase h (fun _ => hsome) (fun k g hg ho => absurd ho ?_) ?_
      · exact h.owner_ne (fun _ hu => by rw [hph] at hu; exact hu) hg
      -- a content of the owner would have been listed
      intro x hx ho
      refine absurd (.inr (List.any_eq_true.mpr ⟨x, hx, ?_⟩)) hlist
      rw [beq_iff_eq, ContentMeta.constellation, (h.content x hx).space, ho]
  | finishing =>
    simp only [hph, some.injEq] at hs
    subst hs
    exact inv_finish h hph

/-- A new group of a live owner. -/
theorem inv_makeGroup {scName : String} (h : Inv L s)
    (hs : makeGroupStep L s o scName out = some s') : Inv L s' := by
  unfold makeGroupStep at hs
  split at hs
  swap
  · cases hs
  next hguard =>
    obtain ⟨hlive, hsc⟩ := hguard
    split at hs
    swap
    · cases hs
      exact h
    cases hs
    refine ⟨fun k g hg => ?_, fun x hx => ?_, h.working⟩
    · by_cases hk : k = L.key o scName
      · subst hk
        rw [State.setGroup_self, some.injEq] at hg
        subst hg
        refine ⟨⟨scName, hsc, rfl⟩, h.working o (by rw [hlive]; exact nofun), ?_⟩
        show Unpassed L _ o (s.phase o)
        rw [hlive]
        trivial
      · rw [State.setGroup_of_ne _ hk] at hg
        exact ⟨(h.group k g hg).key, (h.group k g hg).parent, (h.group k g hg).unpassed⟩
    · exact ⟨(h.content x hx).space, (h.content x hx).parent, (h.content x hx).unfinished⟩

/-- The ReplicationObject reconciler, when it creates in time. -/
theorem inv_roStep (h : Inv L s) (ht : TimelyCreate s (.ro k out)) (hs : roStep s k out = some s') :
    Inv L s' := by
  unfold roStep at hs
  cases hr : s.ro k with
  | idle =>
    simp only [hr] at hs
    split at hs
    next => cases hs; exact inv_setRo h _ _
    next => cases hs; exact h
  | live o =>
    simp only [hr, some.injEq] at hs
    subst hs
    exact inv_setRo h _ _
  | owned o =>
    simp only [hr, some.injEq] at hs
    subst hs
    exact inv_setRo h _ _
  | absent o =>
    simp only [hr] at hs
    split at hs
    swap
    · cases hs
      exact inv_setRo h _ _
    cases hs
    -- the group that is there vouches for the owner
    obtain ⟨g, hg, ho⟩ := ht.group hr
    have hinv := h.group k g hg
    rw [ho] at hinv
    obtain ⟨sc, _, hkey⟩ := hinv.key
    have hadd : Inv L (s.addContent ⟨k.1, k.2, o, false, false⟩) := by
      refine ⟨fun k g hg => ?_, fun x hx => ?_, h.working⟩
      · exact ⟨(h.group k g hg).key, (h.group k g hg).parent, (h.group k g hg).unpassed⟩
      rcases List.mem_cons.mp hx with rfl | hx
      · refine ⟨by rw [hkey]; rfl, hinv.parent, fun hf => ?_⟩
        have hu := hinv.unpassed
        rw [show s.phase o = .finishing from hf] at hu
        exact hu
      · exact ⟨(h.content x hx).space, (h.content x hx).parent, (h.content x hx).unfinished⟩
    exact inv_setRo hadd _ _
  | terminating =>
    simp only [hr] at hs
    split at hs
    next => cases hs; exact inv_setRo (inv_markContent h _) _ _
    next => cases hs; exact inv_setRo h _ _

/-- A content reconcile makes no groups and no contents. -/
theorem inv_vrcStep (h : Inv L s) (hs : vrcStep s k out = some s') : Inv L s' := by
  unfold vrcStep at hs
  cases hv : s.vrc k with
  | idle =>
    simp only [hv] at hs
    split at hs
    next => cases hs; exact inv_setVrc h _ _
    next => cases hs; exact h
  | read x => simp only [hv, some.injEq] at hs; subst hs; exact inv_setVrc h _ _
  | resolved x => simp only [hv, some.injEq] at hs; subst hs; exact inv_setVrc h _ _
  | cleaning => simp only [hv, some.injEq] at hs; subst hs; exact inv_setVrc h _ _
  | cleaned =>
    simp only [hv] at hs
    cases out with
    | ok => cases hs; exact inv_setVrc (inv_annotate h _) _ _
    | failed => cases hs; exact inv_setVrc h _ _
    | lost => cases hs; exact inv_setVrc (inv_annotate h _) _ _
  | peers =>
    simp only [hv] at hs
    split at hs
    next => cases hs; exact inv_setVrc h _ _
    next => cases hs; exact inv_setVrc h _ _
  | allDone =>
    simp only [hv] at hs
    split at hs
    next => cases hs; exact inv_setVrc (inv_release h _) _ _
    next => cases hs; exact inv_setVrc h _ _
  | selfDestruct =>
    simp only [hv] at hs
    split at hs
    next => cases hs; exact inv_setVrc (inv_markContent h _) _ _
    next => cases hs; exact inv_setVrc h _ _

/-- One action keeps the invariant. -/
theorem inv_step {a : Act} (h : Inv L s) (ha : a.Answered) (ht : TimelyCreate s a)
    (hs : step L s a = some s') : Inv L s' := by
  cases a with
  | createParent o =>
    simp only [step] at hs
    split at hs
    swap
    · cases hs
    cases hs
    exact inv_setParent h o _
  | deleteParent o =>
    simp only [step, map_eq_some_iff] at hs
    obtain ⟨d, _, rfl⟩ := hs
    exact inv_setParent h o _
  | parent o out =>
    have hout : out = .ok := ha
    subst hout
    exact inv_parentStep h hs
  | makeGroup o sc out => exact inv_makeGroup h hs
  | deleteGroup k =>
    cases hs
    exact inv_markGroup h k
  | dropGroup k =>
    simp only [step] at hs
    split at hs
    swap
    · cases hs
    cases hs
    refine h.mono (fun _ hp => hp) rfl (fun k' g hg => ?_) (same_contents s)
    by_cases hk : k' = k
    · subst hk
      rw [State.setGroup_self] at hg
      cases hg
    · rw [State.setGroup_of_ne _ hk] at hg
      exact ⟨g, hg, rfl⟩
  | deleteContent k =>
    cases hs
    exact inv_markContent h k
  | ro k out => exact inv_roStep h ht hs
  | vrc k out => exact inv_vrcStep h hs

end Steps

/-- **Contents have their owners when they are created in time**: with every call answered, in
every run in which a content is only created while the group it was read for is there. -/
theorem parented_of_timely_creates {L : Layout} {parents : Owner → Option Bool}
    {acts : List Act} {s : State}
    (hok : RunMeets (step L) (fun s a => a.Answered ∧ TimelyCreate s a) (init parents) acts)
    (hrun : runFrom (step L) (init parents) acts = some s) : Parented s := by
  have hinv : Inv L s := runFrom_invariant (fun _ _ _ hi hp hs => inv_step hi hp.1 hp.2 hs) acts
    (inv_init parents) hok hrun
  exact fun x hx => (hinv.content x hx).parent

def soleOwner : Owner := { kind := .vscr, namespaceName := "ops", name := "pair" }

def oneClass : Layout where
  pvcNamespace := fun _ => "data"
  classes := fun _ => ["fast"]

def readyToCreate : List Act :=
  [.createParent soleOwner, .parent soleOwner .ok, .makeGroup soleOwner "fast" .ok,
   .parent soleOwner .ok, .ro ("data", "pair-fast") .ok, .ro ("data", "pair-fast") .ok,
   .ro ("data", "pair-fast") .ok]

def ownerLeaves : List Act :=
  [.deleteParent soleOwner, .parent soleOwner .ok, .parent soleOwner .ok,
   .dropGroup ("data", "pair-fast"), .parent soleOwner .ok, .parent soleOwner .ok,
   .parent soleOwner .ok, .parent soleOwner .ok, .parent soleOwner .ok]

/-- The content is created with the group still there, and the handler of the owner then waits for
it. -/
theorem parented_of_timely_creates_waits : ∃ s, runFrom (step oneClass) (init fun _ => none)
        (readyToCreate ++ .ro ("data", "pair-fast") .ok :: ownerLeaves) = some s ∧
      s.contents.length = 1 ∧ Parented s := by
  obtain ⟨s, hrun, hlen⟩ := map_eq_some_iff.mp (show (runFrom (step oneClass) (init fun _ => none)
        (readyToCreate ++ .ro ("data", "pair-fast") .ok :: ownerLeaves)).map
          (·.contents.length) = some 1 by decide +kernel)
  exact ⟨s, hrun, hlen, parented_of_timely_creates (by decide +kernel) hrun⟩

/-- **A content without an owner**: it is created after the owner has seen no group and no content
and is gone. -/
theorem late_create_orphans :
    (∀ a ∈ readyToCreate ++ ownerLeaves ++ [.ro ("data", "pair-fast") .ok], a.Answered) ∧
      ∃ s, runFrom (step oneClass) (init fun _ => none)
        (readyToCreate ++ ownerLeaves ++ [.ro ("data", "pair-fast") .ok]) = some s ∧
        ¬ Parented s := by
  refine ⟨by decide, ?_⟩
  obtain ⟨s, hrun, hlost⟩ := map_eq_some_iff.mp (show (runFrom (step oneClass) (init fun _ => none)
        (readyToCreate ++ ownerLeaves ++ [.ro ("data", "pair-fast") .ok])).map
          (fun s => s.contents.any fun x => (s.parents x.owner).isNone) = some true
      by decide +kernel)
  refine ⟨s, hrun, fun hp => ?_⟩
  obtain ⟨x, hx, hnone⟩ := List.any_eq_true.mp hlost
  exact absurd (hp x hx) (by rw [isNone_iff_eq_none.mp hnone]; decide)

end VastCsi.Ext.ContentLife
