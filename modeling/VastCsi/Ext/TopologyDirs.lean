import VastCsi.Ext.SpecValidation
import VastCsi.Ext.VscrReconcile

/-!
# The directories of a subsystem-level topology

The first reconcile gives every StorageClass the directory of the primary and then goes through
the entries: one with a `targetExportedDir` sets that of its destination, unless another one has
been set. That one has been set is read off the mapping: it has another directory than the
primary's. So an entry that names the primary's own directory is refused or forgotten, by its
place (`order_decides`).

The loop only looks at the requests, and goes through exactly when each passes those before it
(`foldl_isSome_iff`): one for the primary's directory leaves no trace, any other one bars all but
its like. Two that bar each other are refused in every order, and without such two the order that
puts the primary's directory first goes through.
-/

namespace VastCsi.Ext.Vscr

open CsiAddons Specs List Option Function Nat

/-- The mapping for these entries, each with its `targetExportedDir`. -/
def dirMapping (primaryDir : String) (entries : List (ReplicationTarget × String)) :
    Except KErr (List (String × String)) :=
  overrideDirs primaryDir (fun i => (entries[i]?.map (·.2)).getD "") 0 (entries.map (·.1))
    ((allStorageClasses (entries.map (·.1))).map fun scName => (scName, primaryDir))

/-- The directories that are asked for, by destination. -/
def asked (entries : List (ReplicationTarget × String)) : List (String × String) :=
  (entries.filter (·.2 != "")).map fun e => (e.1.destination, e.2)

/-- A destination that is given the primary's directory is given no other one. -/
def PrimaryAlone (primaryDir : String) (asked : List (String × String)) : Prop :=
  ∀ x ∈ asked, ∀ y ∈ asked, x.1 = y.1 → x.2 = primaryDir → y.2 = primaryDir

section Loop

variable {primaryDir : String}

/-- One entry that asks for a directory; nothing is left when it is refused. -/
def setAsked (primaryDir : String) (dirs : Option (String → String)) (x : String × String) :
    Option (String → String) :=
  dirs.bind fun f => if f x.1 ≠ primaryDir ∧ f x.1 ≠ x.2 then none else some (update f x.1 x.2)

theorem foldl_none (l : List (String × String)) :
    l.foldl (setAsked primaryDir) none = none := foldl_fixed' (fun _ => rfl) l

def mappingOf (keys : List String) (f : String → String) : List (String × String) :=
  keys.map fun scName => (scName, f scName)

variable {keys : List String} {f : String → String}

theorem lookup_mappingOf {scName : String} (h : scName ∈ keys) :
    (mappingOf keys f).lookup scName = some (f scName) := by
  induction keys with
  | nil => cases h
  | cons key keys ih =>
    rw [mappingOf, map_cons, lookup_cons]
    by_cases heq : scName = key
    · rw [heq, beq_self_eq_true]
    · rw [beq_false_of_ne heq]
      exact ih ((mem_cons.mp h).resolve_left heq)

theorem setDir_mappingOf (scName dir : String) :
    setDir (mappingOf keys f) scName dir = mappingOf keys (Function.update f scName dir) := by
  rw [setDir, mappingOf, List.map_map]
  refine map_congr_left fun key _ => ?_
  show (if key == scName then (key, dir) else (key, f key)) = _
  by_cases heq : key = scName
  · rw [heq, beq_self_eq_true, if_pos rfl, update_self]
  · rw [beq_false_of_ne heq, if_neg Bool.false_ne_true, update_of_ne heq]

theorem overrideDirs_eq {dirOf : Nat → String} :
    ∀ {entries : List (ReplicationTarget × String)} {i : Nat} {f : String → String},
      (∀ e ∈ entries, e.1.destination ∈ keys) →
      (∀ j, dirOf (i + j) = (entries[j]?.map (·.2)).getD "") →
      (overrideDirs primaryDir dirOf i (entries.map (·.1)) (mappingOf keys f)).toOption =
        ((asked entries).foldl (setAsked primaryDir) (some f)).map (mappingOf keys)
  | [], _, _, _, _ => rfl
  | e :: entries, i, f, hkeys, hdirs => by
    have hdir : dirOf i = e.2 := hdirs 0
    have hrest : ∀ j, dirOf (i + 1 + j) = (entries[j]?.map (·.2)).getD "" := by
      intro j
      rw [add_assoc, add_comm 1 j, hdirs (j + 1)]
      rfl
    have ih := fun f => overrideDirs_eq (f := f)
      (fun e' he' => hkeys e' (mem_cons_of_mem e he')) hrest
    rw [map_cons, overrideDirs, hdir, lookup_mappingOf (hkeys e mem_cons_self), asked]
    by_cases hempty : e.2 = ""
    · rw [hempty, filter_cons_of_neg (by simp [hempty])]
      exact ih f
    · rw [beq_false_of_ne hempty, if_neg Bool.false_ne_true,
        filter_cons_of_pos (by simpa using hempty), map_cons, foldl_cons]
      by_cases htaken : f e.1.destination ≠ primaryDir ∧ f e.1.destination ≠ e.2
      · have hrefused : setAsked primaryDir (some f) (e.1.destination, e.2) = none := if_pos htaken
        rw [hrefused, foldl_none, filter_some, if_pos (by simpa using htaken)]
        rfl
      · have hset : setAsked primaryDir (some f) (e.1.destination, e.2) =
            some (update f e.1.destination e.2) := if_neg htaken
        rw [hset, filter_some, if_neg (by simpa using htaken), setDir_mappingOf]
        exact ih _

/-- Two requests of different StorageClasses, or one made twice, can change places. -/
theorem setAsked_comm {x y : String × String} (hsame : x.1 = y.1 → x.2 = y.2)
    (dirs : Option (String → String)) :
    setAsked primaryDir (setAsked primaryDir dirs x) y =
      setAsked primaryDir (setAsked primaryDir dirs y) x := by
  by_cases hkey : x.1 = y.1
  · rw [Prod.ext hkey (hsame hkey)]
  · cases dirs with
    | none => rfl
    | some f =>
      have hother : ∀ {x y : String × String}, x.1 ≠ y.1 →
          setAsked primaryDir (setAsked primaryDir (some f) x) y =
            if f x.1 ≠ primaryDir ∧ f x.1 ≠ x.2 ∨ f y.1 ≠ primaryDir ∧ f y.1 ≠ y.2 then none
            else some (update (update f x.1 x.2) y.1 y.2) := by
        intro x y hne
        rw [setAsked, setAsked, bind_some]
        by_cases hx : f x.1 ≠ primaryDir ∧ f x.1 ≠ x.2
        · rw [if_pos hx, if_pos (.inl hx)]
          rfl
        · rw [if_neg hx, bind_some, update_of_ne hne.symm]
          exact if_congr (or_iff_right hx).symm rfl rfl
      rw [hother hkey, hother (Ne.symm hkey), update_comm hkey]
      exact if_congr or_comm rfl rfl

/-- What lets the later of two requests pass: the earlier one is for another StorageClass, for the
primary's directory, which leaves no trace, or for the same directory. -/
def Passes (primaryDir : String) (x y : String × String) : Prop :=
  x.1 = y.1 → x.2 ≠ primaryDir → y.2 = x.2

/-- The loop goes through exactly when every request passes the ones before it and the mapping it
began with. -/
theorem foldl_isSome_iff (l : List (String × String)) : ∀ f : String → String,
    (l.foldl (setAsked primaryDir) (some f)).isSome ↔
      (∀ x ∈ l, f x.1 ≠ primaryDir → x.2 = f x.1) ∧ l.Pairwise (Passes primaryDir) := by
  induction l with
  | nil =>
    intro f
    simp
  | cons y l ih =>
    intro f
    rw [foldl_cons, forall_mem_cons, pairwise_cons]
    by_cases htaken : f y.1 ≠ primaryDir ∧ f y.1 ≠ y.2
    · have hrefused : setAsked primaryDir (some f) y = none := if_pos htaken
      rw [hrefused, foldl_none]
      exact ⟨fun h => absurd h Bool.false_ne_true, fun h => absurd (h.1.1 htaken.1).symm htaken.2⟩
    · have hset : setAsked primaryDir (some f) y = some (update f y.1 y.2) := if_neg htaken
      -- what the new mapping asks of a later request is what the old one and `y` do
      have hlater : ∀ x : String × String,
          (update f y.1 y.2 x.1 ≠ primaryDir → x.2 = update f y.1 y.2 x.1) ↔
            (f x.1 ≠ primaryDir → x.2 = f x.1) ∧ Passes primaryDir y x := by
        intro x
        unfold Passes
        by_cases hkey : x.1 = y.1
        · rw [hkey, update_self]
          grind
        · rw [update_of_ne hkey]
          grind
      rw [hset, ih]
      simp only [hlater]
      grind

end Loop

theorem allStorageClasses_perm {ts us : List ReplicationTarget} (h : ts.Perm us) :
    allStorageClasses ts = allStorageClasses us := by
  refine List.Perm.eq_of_pairwise' (r := (· ≤ ·)) (pairwise_insertionSort _ _)
    (pairwise_insertionSort _ _) ?_
  exact (perm_insertionSort _ _).trans
    ((h.flatMap_right _).dedup.trans (perm_insertionSort _ _).symm)

variable {primaryDir : String} {entries : List (ReplicationTarget × String)}

theorem dirMapping_eq : (dirMapping primaryDir entries).toOption =
      ((asked entries).foldl (setAsked primaryDir) (some fun _ => primaryDir)).map
        (mappingOf (allStorageClasses (entries.map (·.1)))) := by
  refine overrideDirs_eq (fun e he => ?_) fun j => by rw [zero_add]
  rw [mem_allStorageClasses, Lib.Mesh.mem_vertices]
  exact ⟨_, mem_map_of_mem (mem_map_of_mem he), .inr rfl⟩

/-- Some destination is given two different directories. -/
def Conflict (asked : List (String × String)) : Prop :=
  ∃ x ∈ asked, ∃ y ∈ asked, x.1 = y.1 ∧ x.2 ≠ y.2

/-- Some destination is given two different directories, neither of them the primary's. -/
def OthersDiffer (primaryDir : String) (asked : List (String × String)) : Prop :=
  ∃ x ∈ asked, ∃ y ∈ asked, x.1 = y.1 ∧ x.2 ≠ y.2 ∧ x.2 ≠ primaryDir ∧ y.2 ≠ primaryDir

theorem asked_perm {entries' : List (ReplicationTarget × String)} (h : entries.Perm entries') :
    (asked entries).Perm (asked entries') := (h.filter _).map _

theorem refused_iff : (dirMapping primaryDir entries).toOption = none ↔
    ¬ (asked entries).Pairwise (Passes primaryDir) := by
  have hstart : ∀ x ∈ asked entries, (primaryDir : String) ≠ primaryDir → x.2 = primaryDir :=
    fun _ _ h => absurd rfl h
  rw [dirMapping_eq, Option.map_eq_none_iff, ← Option.not_isSome_iff_eq_none, foldl_isSome_iff,
    and_iff_right hstart]

/-- Whichever of the two comes first is in the way of the other. -/
theorem refused_of_othersDiffer (h : OthersDiffer primaryDir (asked entries)) :
    (dirMapping primaryDir entries).toOption = none := by
  obtain ⟨x, hx, y, hy, hkey, hdir, hxp, hyp⟩ := h
  refine refused_iff.mpr fun hpass => hdir ?_
  let Same (x y : String × String) : Prop :=
    x.1 = y.1 → x.2 ≠ primaryDir → y.2 ≠ primaryDir → x.2 = y.2
  have hsymm : Std.Symm Same := ⟨fun _ _ h hkey hyp hxp => (h hkey.symm hxp hyp).symm⟩
  have hsame : (asked entries).Pairwise Same := hpass.imp fun h hkey hxp _ => (h hkey hxp).symm
  exact hsame.forall_of_forall (fun _ _ _ _ _ => rfl) hx hy hkey hxp hyp

/-- The entries with the requests for the primary's directory in front. -/
def primaryFirst (primaryDir : String) (entries : List (ReplicationTarget × String)) :
    List (ReplicationTarget × String) :=
  entries.filter (·.2 == primaryDir) ++ entries.filter fun e => !(e.2 == primaryDir)

theorem primaryFirst_perm : entries.Perm (primaryFirst primaryDir entries) :=
  (filter_append_perm _ _).symm

/-- In that order the loop goes through, with one other directory at most for a destination. -/
theorem accepted_primaryFirst (h : ¬ OthersDiffer primaryDir (asked entries)) :
    (dirMapping primaryDir (primaryFirst primaryDir entries)).toOption ≠ none := by
  have hmem : ∀ {e}, e ∈ entries.filter (·.2 != "") → (e.1.destination, e.2) ∈ asked entries :=
    fun he => mem_map_of_mem he
  have hsub : ∀ {q x}, x ∈ asked (entries.filter q) → x ∈ asked entries ∧
      ∃ e, q e = true ∧ e.2 = x.2 := by
    intro q x hx
    obtain ⟨e, he, rfl⟩ := List.mem_map.mp hx
    obtain ⟨hq, hne⟩ := List.mem_filter.mp he
    obtain ⟨hentry, hq⟩ := List.mem_filter.mp hq
    exact ⟨hmem (List.mem_filter.mpr ⟨hentry, hne⟩), e, hq, rfl⟩
  have hsplit : asked (primaryFirst primaryDir entries) =
      asked (entries.filter (·.2 == primaryDir)) ++
        asked (entries.filter fun e => !(e.2 == primaryDir)) := by
    rw [asked, primaryFirst, filter_append, map_append, asked, asked]
  refine fun hnone => refused_iff.mp hnone ?_
  rw [hsplit, pairwise_append]
  have hfirst : ∀ x ∈ asked (entries.filter (·.2 == primaryDir)), x.2 = primaryDir := by
    intro x hx
    obtain ⟨-, e, he, hex⟩ := hsub hx
    exact hex ▸ eq_of_beq he
  refine ⟨List.pairwise_of_forall_mem_list fun x hx y _ _ hne => absurd (hfirst x hx) hne,
    List.pairwise_of_forall_mem_list fun x hx y hy hkey hxp => ?_,
    fun x hx y _ _ hne => absurd (hfirst x hx) hne⟩
  obtain ⟨hxa, -⟩ := hsub hx
  obtain ⟨hya, e, he, hey⟩ := hsub hy
  have hyp : y.2 ≠ primaryDir := by
    rw [← hey]
    simpa using he
  by_contra hdir
  exact h ⟨x, hxa, y, hya, hkey, fun heq => hdir heq.symm, hxp, hyp⟩

theorem dirMapping_perm {entries' : List (ReplicationTarget × String)}
    (hperm : entries.Perm entries') (hsame : ¬ Conflict (asked entries)) :
    (dirMapping primaryDir entries').toOption = (dirMapping primaryDir entries).toOption := by
  have hloop := (asked_perm hperm).foldl_eq' (f := setAsked primaryDir)
    (fun x hx y hy => setAsked_comm fun hkey => by_contra fun hdir =>
      hsame ⟨x, hx, y, hy, hkey, hdir⟩)
  rw [dirMapping_eq, dirMapping_eq, hloop, allStorageClasses_perm (hperm.map _)]

/-- **The directories in any order**: all orders give one mapping, or are all refused, and two
directories for one StorageClass are refused, exactly when no StorageClass is given the primary's
directory and another one, or some StorageClass is given two that are not the primary's. -/
theorem dirs_of_perm_iff (primaryDir : String) (entries : List (ReplicationTarget × String)) :
    (∀ entries', entries.Perm entries' →
        (dirMapping primaryDir entries').toOption = (dirMapping primaryDir entries).toOption ∧
        (Conflict (asked entries) → (dirMapping primaryDir entries').toOption = none)) ↔
      PrimaryAlone primaryDir (asked entries) ∨ OthersDiffer primaryDir (asked entries) := by
  have hothers : ∀ {entries'}, entries.Perm entries' → OthersDiffer primaryDir (asked entries) →
      (dirMapping primaryDir entries').toOption = none := by
    rintro entries' hperm ⟨x, hx, y, hy, h⟩
    have hmem := fun z => (asked_perm hperm).mem_iff (a := z)
    exact refused_of_othersDiffer ⟨x, (hmem x).mp hx, y, (hmem y).mp hy, h⟩
  constructor
  · intro hall
    by_contra hnot
    obtain ⟨halone, hdiffer⟩ := not_or.mp hnot
    -- the order that puts the primary's directory first goes through in spite of the conflict
    have hconflict : Conflict (asked entries) := by
      unfold PrimaryAlone at halone
      push Not at halone
      obtain ⟨x, hx, y, hy, hkey, hxp, hyp⟩ := halone
      exact ⟨x, hx, y, hy, hkey, fun hdir => hyp (hdir ▸ hxp)⟩
    exact accepted_primaryFirst hdiffer ((hall _ primaryFirst_perm).2 hconflict)
  · rintro (halone | hdiffer) entries' hperm
    · by_cases hconflict : Conflict (asked entries)
      · obtain ⟨x, hx, y, hy, hkey, hdir⟩ := hconflict
        have hdiffer : OthersDiffer primaryDir (asked entries) :=
          ⟨x, hx, y, hy, hkey, hdir, fun h => hdir (h.trans (halone x hx y hy hkey h).symm),
            fun h => hdir ((halone y hy x hx hkey.symm h).trans h.symm)⟩
        rw [hothers hperm hdiffer, hothers (.refl _) hdiffer]
        exact ⟨rfl, fun _ => rfl⟩
      · exact ⟨dirMapping_perm hperm hconflict, fun h => absurd h hconflict⟩
    · rw [hothers hperm hdiffer, hothers (.refl _) hdiffer]
      exact ⟨rfl, fun _ => rfl⟩

def twoDirs : List (ReplicationTarget × String) :=
  [(⟨"east", "west", "p"⟩, "/k8s"), (⟨"north", "west", "q"⟩, "/other")]

/-- In one order the directory of the primary is forgotten, in the other it is refused. -/
theorem order_decides : (dirMapping "/k8s" twoDirs).toOption =
        some [("east", "/k8s"), ("north", "/k8s"), ("west", "/other")] ∧
      (dirMapping "/k8s" twoDirs.reverse).toOption = none := by
  decide +kernel

end VastCsi.Ext.Vscr
