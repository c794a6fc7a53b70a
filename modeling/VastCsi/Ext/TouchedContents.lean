import VastCsi.Ext.GroupContent

/-!
# What a touch reaches

`touchVRCsForStorageClasses` finds a content by the name of the group, and changes an annotation
of it to the time (`TouchedAll`). A content is reached when the name it is looked up under is the
one `reconcileVGR` made it with. That name has dashes for the dots of the StorageClass; the lookup
keeps the dots.
-/

namespace VastCsi.Ext.Groups

open Lib CsiAddons Policies List Option

variable {fates : Fates} {vscr : Vscr} {key : Trigger} {ts : String} {s t u : Store}

@[simp] theorem Vrc.annotationAt_set (c : Vrc) :
    (c.setAnnotationAt key ts).annotationAt key = ts := by
  cases key <;> rfl

variable {c : Vrc} {n : String} {names : List String}

theorem Vrc.setAnnotation_eq_iff : c.setAnnotationAt key ts = c ↔ c.annotationAt key = ts := by
  constructor
  · intro h
    rw [← h]
    exact c.annotationAt_set
  · rintro rfl
    cases key <;> rfl

@[simp] theorem Vrc.setAnnotation_twice (c : Vrc) :
    (c.setAnnotationAt key ts).setAnnotationAt key ts = c.setAnnotationAt key ts :=
  Vrc.setAnnotation_eq_iff.mpr c.annotationAt_set

@[simp] theorem Vrc.setAnnotation_class (c : Vrc) :
    (c.setAnnotationAt key ts).storageClass = c.storageClass := by
  cases key <;> rfl

@[simp] theorem Vrc.setAnnotation_source (c : Vrc) :
    (c.setAnnotationAt key ts).sourceVSCR = c.sourceVSCR := by
  cases key <;> rfl

/-- An event of a content that the call has changed. -/
def TouchEvent (key : Trigger) (ts : String) (s : Store) (e : UpdateEvent) : Prop :=
  s.vrcs e.name = some e.old ∧ e.new = e.old.setAnnotationAt key ts ∧ e.new ≠ e.old

/-- What touching the contents of these names makes of a store. -/
structure TouchedAll (key : Trigger) (ts : String) (names : List String) (s t : Store) :
    Prop where
  groups : t.vscrs = s.vscrs ∧ t.vgrs = s.vgrs
  contents : ∀ n, t.vrcs n =
    if n ∈ names then (s.vrcs n).map (·.setAnnotationAt key ts) else s.vrcs n
  events : ∃ es, t.events = es ++ s.events ∧ ∀ e, e ∈ es ↔ e.name ∈ names ∧ TouchEvent key ts s e
  writes : ∃ ws, t.writes = ws ++ s.writes ∧
    ∀ x, x ∈ ws ↔ ∃ n ∈ names, (s.vrcs n).isSome ∧ x = .touched n

theorem TouchedAll.nil : TouchedAll key ts [] s s where
  groups := ⟨rfl, rfl⟩
  contents _ := (if_neg List.not_mem_nil).symm
  events := ⟨[], rfl, fun _ => by simp only [List.not_mem_nil, false_and]⟩
  writes := ⟨[], rfl, fun _ => by simp only [List.not_mem_nil, false_and, exists_false]⟩

/-- Nothing is done for a name without a content. -/
theorem TouchedAll.missing (h : s.vrcs n = none) : TouchedAll key ts [n] s s where
  groups := ⟨rfl, rfl⟩
  contents m := by
    by_cases hm : m = n
    · rw [hm, h, map_none, ite_self]
    · rw [if_neg fun hmem => hm (List.mem_singleton.mp hmem)]
  events := by
    refine ⟨[], rfl, fun e => ⟨fun he => absurd he List.not_mem_nil, ?_⟩⟩
    rintro ⟨hname, hold, -⟩
    rw [List.mem_singleton.mp hname, h] at hold
    cases hold
  writes := by
    refine ⟨[], rfl, fun x => ⟨fun hx => absurd hx List.not_mem_nil, ?_⟩⟩
    rintro ⟨m, hm, hsome, -⟩
    rw [List.mem_singleton.mp hm, h] at hsome
    cases hsome

/-- One content is touched. -/
theorem TouchedAll.found (h : s.vrcs n = some c) :
    TouchedAll key ts [n] s { s.update n c (c.setAnnotationAt key ts) with
      writes := .touched n :: s.writes } where
  groups := ⟨rfl, rfl⟩
  contents m := by
    show Function.update s.vrcs n (some (c.setAnnotationAt key ts)) m = _
    by_cases hm : m = n
    · rw [hm, Function.update_self, if_pos List.mem_cons_self, h, Option.map_some]
    · rw [Function.update_of_ne hm, if_neg fun hmem => hm (List.mem_singleton.mp hmem)]
  events := by
    refine ⟨if c.setAnnotationAt key ts = c then [] else [⟨n, c, c.setAnnotationAt key ts⟩],
      ?_, fun e => ⟨fun he => ?_, ?_⟩⟩
    · show (if _ then _ else _) = _
      split
      · rfl
      · rfl
    · split at he
      next => cases he
      next hne =>
        rw [List.mem_singleton] at he
        subst he
        exact ⟨List.mem_cons_self, h, rfl, hne⟩
    · rintro ⟨hname, hold, hnew, hne⟩
      have hn := List.mem_singleton.mp hname
      rw [hn, h, Option.some.injEq] at hold
      subst hold
      rw [hnew] at hne
      rw [if_neg hne, List.mem_singleton, ← hn, ← hnew]
  writes := by
    refine ⟨[.touched n], rfl, fun x => ?_⟩
    simp only [List.mem_singleton, exists_eq_left, h, Option.isSome_some, true_and]

theorem TouchedAll.isSome (h : TouchedAll key ts names s t) (n : String) :
    (t.vrcs n).isSome = (s.vrcs n).isSome := by
  rw [h.contents n]
  split
  · rw [isSome_map]
  · rfl

/-- A content that has been touched gives no second event. -/
theorem TouchedAll.touchEvent (h : TouchedAll key ts names s t) (e : UpdateEvent) :
    TouchEvent key ts t e ↔ e.name ∉ names ∧ TouchEvent key ts s e := by
  unfold TouchEvent
  rw [h.contents e.name]
  by_cases hmem : e.name ∈ names
  · rw [if_pos hmem]
    refine ⟨?_, fun hn => absurd hmem hn.1⟩
    rintro ⟨hold, hnew, hne⟩
    obtain ⟨c, -, hc⟩ := map_eq_some_iff.mp hold
    rw [← hc, Vrc.setAnnotation_twice, hc] at hnew
    exact absurd hnew hne
  · rw [if_neg hmem]
    exact ⟨fun he => ⟨hmem, he⟩, fun he => he.2⟩

theorem TouchedAll.append {more : List String} (h₁ : TouchedAll key ts names s t)
    (h₂ : TouchedAll key ts more t u) : TouchedAll key ts (names ++ more) s u where
  groups := ⟨h₂.groups.1.trans h₁.groups.1, h₂.groups.2.trans h₁.groups.2⟩
  contents n := by
    rw [h₂.contents n, h₁.contents n]
    by_cases hn : n ∈ names
    · simp only [hn, List.mem_append, true_or, if_true, Option.map_map]
      split
      · congr 1
        funext c
        exact c.setAnnotation_twice
      · rfl
    · simp only [hn, List.mem_append, false_or, if_false]
  events := by
    obtain ⟨es, hes, hmem⟩ := h₁.events
    obtain ⟨es', hes', hmem'⟩ := h₂.events
    refine ⟨es' ++ es, by rw [hes', hes, List.append_assoc], fun e => ?_⟩
    rw [List.mem_append, hmem e, hmem' e, h₁.touchEvent e, List.mem_append]
    constructor
    · rintro (⟨hm, -, he⟩ | ⟨hm, he⟩)
      · exact ⟨.inr hm, he⟩
      · exact ⟨.inl hm, he⟩
    · rintro ⟨hm, he⟩
      by_cases hn : e.name ∈ names
      · exact .inr ⟨hn, he⟩
      · exact .inl ⟨hm.resolve_left hn, hn, he⟩
  writes := by
    obtain ⟨ws, hws, hmem⟩ := h₁.writes
    obtain ⟨ws', hws', hmem'⟩ := h₂.writes
    refine ⟨ws' ++ ws, by rw [hws', hws, List.append_assoc], fun x => ?_⟩
    rw [List.mem_append, hmem x, hmem' x]
    simp only [h₁.isSome, List.mem_append, or_and_right, exists_or]
    exact or_comm

theorem meets_setAnnotationAndUpdate (h : s.vrcs n = some c) :
    Yields (fun w => w.own = s) (setAnnotationAndUpdate fates n key ts)
      (fun _ w => TouchedAll key ts [n] s w.own) := by
  refine meets_api (fun _ hw => hw) (fun _ _ => trivial) (fun _ _ _ => trivial) ?_
  intro w hw
  subst hw
  dsimp only
  rw [h]
  exact TouchedAll.found h

/-- A call that returns has touched the contents of the names it tried. -/
theorem meets_touch : ∀ {scs : List String} {s : Store},
    Yields (fun w => w.own = s) (touchVRCsForStorageClasses fates vscr key ts scs)
      (fun _ w => TouchedAll key ts (scs.map (touchedName vscr)) s w.own)
  | [], s => .pure fun w hw => by rw [hw]; exact TouchedAll.nil
  | sc :: scs, s => by
    refine .bind (meets_withContext meets_getVRC.okOnly) fun found => ?_
    refine .assuming (p := found = s.vrcs (touchedName vscr sc)) (fun _ hw => hw.2) fun hfound => ?_
    cases found with
    | none =>
      exact meets_touch.weaken (fun _ hw => hw.1)
        (fun _ _ h => (TouchedAll.missing hfound.symm).append h) (fun _ _ _ => trivial)
    | some c =>
      refine .bind ((meets_withContext (meets_setAnnotationAndUpdate hfound.symm)).okOnly.pre
        (fun _ hw => hw.1)) fun _ => ?_
      -- The rest starts where the first touch has ended.
      intro w hw
      exact Meets.bind meets_touch (fun _ => Meets.pure fun _ h => hw.append h) w rfl

def undotted (scName : String) : String :=
  String.ofList (scName.toList.map fun c => if c = '.' then '-' else c)

/-- The content has the name and the owner `reconcileVGR` gives to the content of its
StorageClass. -/
def CreatedFor (vscr : Vscr) (name : String) (c : Vrc) : Prop :=
  c.sourceVSCR = vscr.name ∧ name = nameForSC vscr.name c.storageClass

instance (vscr : Vscr) (name : String) (c : Vrc) : Decidable (CreatedFor vscr name c) :=
  inferInstanceAs (Decidable (_ ∧ _))

/-- It is found by a StorageClass that is written as in its name. -/
theorem CreatedFor.mem_touched {name : String} (h : CreatedFor vscr name c) (scs : List String) :
    name ∈ scs.map (touchedName vscr) ↔ undotted c.storageClass ∈ scs := by
  rw [List.mem_map, h.2]
  constructor
  · rintro ⟨sc, hsc, heq⟩
    have hname : sc = undotted c.storageClass := String.append_right_inj _ |>.mp heq
    rwa [← hname]
  · intro hmem
    exact ⟨undotted c.storageClass, hmem, rfl⟩

def eventsSince (s t : Store) : List UpdateEvent :=
  t.events.take (t.events.length - s.events.length)

theorem TouchedAll.mem_eventsSince (h : TouchedAll key ts names s t) (e : UpdateEvent) :
    e ∈ eventsSince s t ↔ e.name ∈ names ∧ TouchEvent key ts s e := by
  obtain ⟨es, hes, hmem⟩ := h.events
  rw [eventsSince, hes, length_append, Nat.add_sub_cancel, take_left, hmem e]

/-- The watch lets a touch through: the annotation has a new value. -/
theorem TouchEvent.accepted {e : UpdateEvent} (h : TouchEvent key ts s e) (hts : ts ≠ "") :
    vastReplicationContentPredicate e = true := by
  obtain ⟨-, hnew, hne⟩ := h
  have hold : e.old.annotationAt key ≠ ts := fun hold =>
    hne (hnew.trans (Vrc.setAnnotation_eq_iff.mpr hold))
  have hchanged : triggerAnnotationChanged e key = true := by
    simp only [triggerAnnotationChanged, hnew, Vrc.annotationAt_set, bne_iff_ne, Bool.and_eq_true]
    exact ⟨hts, hold.symm⟩
  unfold vastReplicationContentPredicate
  cases key <;> simp only [hchanged, Bool.or_true, Bool.true_or]

/-- **The reach of a touch**: a content of a listed StorageClass gets an event that the watch lets
through exactly when the StorageClass as written in its name is listed too, and its annotation did
not have the time already. -/
theorem touch_event_iff (fates : Fates) (vscr : Vscr) (key : Trigger) (ts : String)
    (scs : List String) (w t : World Store) (touched : List String) (hts : ts ≠ "")
    (hrun : touchVRCsForStorageClasses fates vscr key ts scs w = .ok touched t)
    (name : String) (c : Vrc) (hc : w.own.vrcs name = some c) (hfor : CreatedFor vscr name c) :
    (∃ e ∈ eventsSince w.own t.own, e.name = name ∧ vastReplicationContentPredicate e = true) ↔
      undotted c.storageClass ∈ scs ∧ c.annotationAt key ≠ ts := by
  have hall := meets_touch.ok rfl hrun
  constructor
  · rintro ⟨e, he, rfl, -⟩
    obtain ⟨hname, hold, hnew, hne⟩ := (hall.mem_eventsSince e).mp he
    refine ⟨(hfor.mem_touched scs).mp hname, fun hsame => hne ?_⟩
    rw [hc, some.injEq] at hold
    rw [hnew, ← hold]
    exact Vrc.setAnnotation_eq_iff.mpr hsame
  · rintro ⟨hmem, hne⟩
    have hev : TouchEvent key ts w.own ⟨name, c, c.setAnnotationAt key ts⟩ :=
      ⟨hc, rfl, fun heq => hne (Vrc.setAnnotation_eq_iff.mp heq)⟩
    exact ⟨_, (hall.mem_eventsSince _).mpr ⟨(hfor.mem_touched scs).mpr hmem, hev⟩, rfl,
      hev.accepted hts⟩

def pairOf (primary secondary : String) : Vscr where
  name := "group"
  primaryStorageClass := primary
  protectionTopology := [⟨primary, secondary, "peer"⟩]

def beforeContent (vscr : Vscr) (secondary : String) : World Store where
  objs := fun _ => none
  own :=
    { vscrs := fun n => if n = vscr.name then some vscr else none
      vgrs := fun n =>
        if n = nameForSC vscr.name secondary then some ⟨vscr.name, secondary, false, "", [], .unset⟩
        else none }

def madeAndTouched (vscr : Vscr) (secondary : String) : Nat → Rec (List String)
  | 0 => do
    reconcileVGR {} (nameForSC vscr.name secondary)
    pure []
  | k + 1 => do
    let _ ← madeAndTouched vscr secondary k
    touchSecondaryVRCs steady vscr "2026-01-01T00:00:00Z"

def touchReport (name : String) :
    EStateM.Result KErr (World Store) (List String) → Option (List String × Bool × Nat)
  | .ok touched t => some (touched, (t.own.vrcs name).isSome, t.own.events.length)
  | .error _ _ => none

def westContent : Vrc := newContent {} ⟨"group", "west", false, "", [], .unset⟩
  (pairOf "east" "west") []

def westStore : World Store where
  objs := fun _ => none
  own :=
    { vscrs := fun n => if n = "group" then some (pairOf "east" "west") else none
      vrcs := fun n => if n = "group-west" then some westContent else none }

/-- The first touch of a second reaches it. -/
theorem touch_event_iff_west :
    ∃ e ∈ eventsSince westStore.own (endState (touchVRCsForStorageClasses steady
        (pairOf "east" "west") .mirrorSync "2026-01-01T00:00:00Z" ["west"] westStore)).own,
      e.name = "group-west" ∧ vastReplicationContentPredicate e = true :=
  (touch_event_iff steady (pairOf "east" "west") .mirrorSync "2026-01-01T00:00:00Z" ["west"]
    westStore _ ["group-west"] (by decide) rfl "group-west" westContent (by decide)
    (by decide)).mpr (by decide)

/-- A dot in the StorageClass hides the content from every touch, and the second touch
within a second changes nothing. -/
theorem touches_without_event :
    touchReport "group-west-1" (madeAndTouched (pairOf "east" "west.1") "west.1" 1
      (beforeContent (pairOf "east" "west.1") "west.1")) = some ([], true, 0) ∧
    touchReport "group-west" (madeAndTouched (pairOf "east" "west") "west" 1
      (beforeContent (pairOf "east" "west") "west")) = some (["group-west"], true, 1) ∧
    touchReport "group-west" (madeAndTouched (pairOf "east" "west") "west" 2
      (beforeContent (pairOf "east" "west") "west")) = some (["group-west"], true, 1) := by
  decide +kernel

end VastCsi.Ext.Groups
