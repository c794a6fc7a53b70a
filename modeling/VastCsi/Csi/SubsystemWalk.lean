import VastCsi.Csi.GroupMembers

/-!
# `_find_subsystem_for_source_dir`

The walk asks for the view at `dirname(source_dir)`, then at the `dirname` of that, until it is at
the root. It works on texts. `dirname_cases` says which: a text is some slashes and a last piece,
and then its `dirname` is these slashes, or it goes on after a text that does not end in a slash,
and then its `dirname` is that text. So the texts asked for are the beginnings of the source
directory that end before a slash and not in one (`Asked`), the longest one first, and at the end
the slashes it begins with, which are their own `dirname` when there are two of them or more.

`findSubsystem` has a number of steps, which is large enough when more make no difference.
-/

namespace VastCsi.Csi.GroupMembers

open Lib.Components List
open VastCsi.Lib.Text (words unwords)

/-- A proper ancestor of the directory other than the root: some of its components, from the first
one on and not the last one, with one slash between them. -/
def IsAncestor (p sourceDir : List Char) : Prop :=
  ∃ a, a ≠ [] ∧ a <+: (words '/' sourceDir).dropLast ∧
    p = (if sourceDir.head? = some '/' then ['/'] else []) ++ unwords '/' a

def noSubsystem (sourceDir : List Char) : Err :=
  let dir := String.ofList sourceDir
  .notFound s!"No NVMe subsystem found covering source_dir '{dir}'"

/-- The view with the longest path of those that are looked for, or `NOT_FOUND`. -/
def Answers (c : Vms) (sourceDir : List Char) (sought : List Char → Prop) : Except Err View → Prop
  | .ok v => v ∈ c.views ∧ sought v.path ∧
      ∀ u ∈ c.views, sought u.path → u.path.length ≤ v.path.length
  | .error e => e = noSubsystem sourceDir ∧ ∀ v ∈ c.views, ¬ sought v.path

/-- The walk comes to an end with the view at the longest proper ancestor. -/
def Correct (c : Vms) (sourceDir : List Char) : Prop :=
  ∃ r N, Answers c sourceDir (IsAncestor · sourceDir) r ∧
    ∀ n, N ≤ n → findSubsystem c sourceDir n (dirname sourceDir) = r

def viewsAt (c : Vms) (path : List Char) : List View := c.views.filter fun v => v.path == path

/-- A text the walk asks for: it begins the directory, ends before a slash and not in one. -/
structure Asked (dir t : List Char) : Prop where
  starts : t ++ ['/'] <+: dir
  nonempty : t ≠ []
  last : t.getLast? ≠ some '/'

/-- The first text asked for that has a view has a single one, it is an ancestor, and no longer
ancestor, which the walk may have missed because of doubled slashes, has a view. -/
def FindsAncestor (c : Vms) (dir : List Char) : Prop :=
  ∃ v, viewsAt c v.path = [v] ∧ Asked dir v.path ∧ IsAncestor v.path dir ∧
    (∀ t, Asked dir t → viewsAt c t ≠ [] → t.length ≤ v.path.length) ∧
    ∀ u ∈ c.views, IsAncestor u.path dir → u.path.length ≤ v.path.length

/-- No text asked for has a view, nor has an ancestor, and the directory does not begin with two
slashes. -/
structure FindsNone (c : Vms) (dir : List Char) : Prop where
  asked : ∀ t, Asked dir t → viewsAt c t = []
  ancestors : ∀ v ∈ c.views, ¬ IsAncestor v.path dir
  slashes : ¬ ['/', '/'] <+: dir

/-! ## What `dirname` takes off -/

section Dirname

variable {d e p t w : List Char}

theorem rstrip_spec (l : List Char) : ∃ k, l = Lib.Text.rstrip '/' l ++ List.replicate k '/' ∧
    (Lib.Text.rstrip '/' l).getLast? ≠ some '/' := by
  refine ⟨(l.reverse.takeWhile (· == '/')).length, ?_, ?_⟩
  · have hslashes : l.reverse.takeWhile (· == '/') =
        List.replicate (l.reverse.takeWhile (· == '/')).length '/' :=
      eq_replicate_of_mem fun x hx => eq_of_beq (mem_takeWhile_imp (p := (· == '/')) hx)
    have hsplit := congrArg reverse (takeWhile_append_dropWhile (p := (· == '/')) (l := l.reverse))
    rw [reverse_append, reverse_reverse, hslashes, reverse_replicate] at hsplit
    simpa [Lib.Text.rstrip, Lib.Text.lstrip] using hsplit.symm
  · rw [Lib.Text.rstrip, getLast?_reverse, Lib.Text.lstrip]
    intro hhead
    have hfirst := head?_dropWhile_not (· == '/') l.reverse
    rw [hhead] at hfirst
    simp at hfirst

/-- A text is slashes and a piece, or goes on after a text that does not end in a slash. -/
theorem slashes_cases (p : List Char) :
    (∃ k w, '/' ∉ w ∧ p = List.replicate k '/' ++ w ∧ dirname p = List.replicate k '/') ∨
      ∃ e k w, e ≠ [] ∧ e.getLast? ≠ some '/' ∧ '/' ∉ w ∧
        p = e ++ List.replicate (k + 1) '/' ++ w ∧ dirname p = e := by
  by_cases hslash : '/' ∈ p
  · obtain ⟨a, b, hp, hnot⟩ := eq_append_cons_of_mem (mem_reverse.mpr hslash)
    have hw : '/' ∉ a.reverse := fun h => hnot (mem_reverse.mp h)
    have hsplit : p = b.reverse ++ '/' :: a.reverse := by
      rw [← reverse_reverse p, hp]
      simp
    obtain ⟨k, hd, hlast⟩ := rstrip_spec (b.reverse ++ ['/'])
    by_cases hall : (b.reverse ++ ['/']).all (· == '/') = true
    · obtain ⟨m, hslashes⟩ : ∃ m, b.reverse ++ ['/'] = List.replicate m '/' :=
        ⟨_, eq_replicate_of_mem fun x hx => eq_of_beq (all_eq_true.mp hall x hx)⟩
      refine .inl ⟨m, a.reverse, hw, ?_, ?_⟩
      · rw [← hslashes, hsplit]
        simp
      · rw [hsplit, dirname_append hw, if_pos hall, ← hslashes]
    · obtain ⟨m, rfl⟩ : ∃ m, k = m + 1 := by
        refine ⟨k - 1, ?_⟩
        by_contra hk
        obtain rfl : k = 0 := by omega
        rw [replicate_zero, append_nil] at hd
        rw [← hd] at hlast
        simp at hlast
      refine .inr ⟨_, m, a.reverse, fun hnil => ?_, hlast, hw, ?_, ?_⟩
      · rw [hnil, nil_append] at hd
        rw [hd] at hall
        simp at hall
      · rw [← hd, hsplit]
        simp
      · rw [hsplit, dirname_append hw, if_neg hall]
  · refine .inl ⟨0, p, hslash, rfl, ?_⟩
    have hdrop : p.reverse.dropWhile (· != '/') = [] :=
      dropWhile_eq_nil_iff.mpr fun x hx => by
        simpa using fun h : x = '/' => hslash (h ▸ mem_reverse.mp hx)
    rw [dirname, hdrop]
    rfl

/-- The slash after a text is not in the last piece. -/
theorem starts_of_append (hw : '/' ∉ w) (h : t ++ ['/'] <+: d ++ w) : t ++ ['/'] <+: d := by
  obtain ⟨r, hr⟩ := h
  rcases append_eq_append_iff.mp hr with ⟨as, rfl, -⟩ | ⟨bs, hbs, rfl⟩
  · exact prefix_append _ _
  · rcases eq_nil_or_concat bs with rfl | ⟨bs, b, rfl⟩
    · rw [append_nil] at hbs
      exact hbs ▸ prefix_rfl
    · -- the last character of the text would be in the piece
      rw [concat_eq_append, ← append_assoc] at hbs
      obtain rfl : '/' = b := (List.cons.inj (append_inj' hbs rfl).2).1
      exact absurd (by simp) hw

theorem not_asked_slashes {k : Nat} (h : t <+: List.replicate k '/') (hne : t ≠ []) :
    t.getLast? = some '/' := by
  rw [getLast?_eq_getLast_of_ne_nil hne, eq_of_mem_replicate (h.subset (getLast_mem hne))]

/-- The `dirname` of a text is the longest text that is asked for, or slashes. -/
theorem asked_cases (p : List Char) :
    (∃ k, dirname p = List.replicate k '/' ∧ (∀ t, ¬ Asked p t) ∧ (['/', '/'] <+: p ↔ 2 ≤ k)) ∨
      (Asked p (dirname p) ∧ (∀ t, Asked p t → t = dirname p ∨ Asked (dirname p) t) ∧
        (['/', '/'] <+: p ↔ ['/', '/'] <+: dirname p)) := by
  rcases slashes_cases p with ⟨k, w, hw, rfl, hdir⟩ | ⟨e, k, w, hne, hlast, hw, rfl, hdir⟩
  · refine .inl ⟨k, hdir, fun t ht => ht.last ?_, ?_⟩
    · have hstart := starts_of_append hw ht.starts
      exact not_asked_slashes ((prefix_append t ['/']).trans hstart) ht.nonempty
    · rcases k with _ | _ | k
      · refine ⟨fun h => ?_, fun h => by omega⟩
        exact absurd (h.subset mem_cons_self) hw
      · refine ⟨fun h => ?_, fun h => by omega⟩
        obtain ⟨r, hr⟩ := h
        have hw' : ['/'] ++ r = w := (List.cons.inj hr).2
        exact absurd (hw' ▸ mem_cons_self) hw
      · exact ⟨fun _ => by omega, fun _ => ⟨List.replicate k '/' ++ w, by simp [replicate_succ]⟩⟩
  · have hbegin : e ++ ['/'] <+: e ++ List.replicate (k + 1) '/' ++ w :=
      ⟨List.replicate k '/' ++ w, by simp [replicate_succ]⟩
    refine .inr ⟨by rw [hdir]; exact ⟨hbegin, hne, hlast⟩, fun t ht => ?_, ?_⟩
    · have hstart := starts_of_append hw ht.starts
      obtain ⟨r, hr⟩ := hstart
      rw [hdir]
      rw [append_assoc] at hr
      rcases append_eq_append_iff.mp hr with ⟨as, has, hrest⟩ | ⟨bs, hbs, hrest⟩
      · cases as with
        | nil => exact .inl (by simpa using has.symm)
        | cons x as =>
          obtain rfl : '/' = x := (List.cons.inj hrest).1
          refine .inr ⟨⟨as, ?_⟩, ht.nonempty, ht.last⟩
          rw [has]
          simp
      · cases bs with
        | nil => exact .inl (by simpa using hbs)
        | cons x bs =>
          refine absurd ?_ ht.last
          have hslashes : (x :: bs) <+: List.replicate (k + 1) '/' := ⟨_, hrest.symm⟩
          rw [hbs, getLast?_append_of_ne_nil _ (cons_ne_nil x bs)]
          exact not_asked_slashes hslashes (cons_ne_nil x bs)
    · rw [hdir]
      refine ⟨fun h => ?_, fun h => h.trans ((prefix_append e ['/']).trans hbegin)⟩
      obtain ⟨r, hr⟩ := h
      rw [append_assoc] at hr
      rcases append_eq_append_iff.mp hr with ⟨as, has, -⟩ | ⟨bs, hbs, -⟩
      · exact ⟨as, has.symm⟩
      · -- a text of one or two slashes ends in one
        refine absurd (not_asked_slashes (k := 2) ⟨bs, hbs.symm⟩ hne) hlast

end Dirname

/-! ## The walk -/

section Walk

variable {c : Vms} {s p t : List Char} {v : View}

/-- What the walk returns at a text that has views. -/
def oneAt (c : Vms) (t : List Char) : Except Err View :=
  match viewsAt c t with
  | [v] => .ok v
  | _ => .error .tooMany

theorem findSubsystem_miss (hp : ¬ (p = [] ∨ p = ['/'])) (hnone : viewsAt c p = []) (n : Nat) :
    findSubsystem c s (n + 1) p = findSubsystem c s n (dirname p) := by
  rw [viewsAt] at hnone
  rw [findSubsystem, if_neg hp, hnone]
  rfl

theorem findSubsystem_hit (hp : ¬ (p = [] ∨ p = ['/'])) (hsome : viewsAt c p ≠ []) (n : Nat) :
    findSubsystem c s (n + 1) p = oneAt c p := by
  rw [viewsAt] at hsome
  rw [oneAt, viewsAt, findSubsystem, if_neg hp]
  cases hviews : c.views.filter fun v => v.path == p with
  | nil => exact absurd hviews hsome
  | cons v rest => cases rest <;> rfl

theorem Asked.not_stop (h : Asked p t) : ¬ (t = [] ∨ t = ['/']) := by
  rintro (rfl | rfl)
  · exact h.nonempty rfl
  · exact h.last rfl

/-- The first text that has a view. -/
structure Hit (c : Vms) (p t : List Char) : Prop where
  asked : Asked p t
  views : viewsAt c t ≠ []
  first : ∀ t', Asked p t' → viewsAt c t' ≠ [] → t'.length ≤ t.length

theorem Hit.unique (h : Hit c p t) {u : List Char} (h' : Hit c p u) : u = t := by
  have hu := (prefix_append u ['/']).trans h'.asked.starts
  have ht := (prefix_append t ['/']).trans h.asked.starts
  have hle := prefix_of_prefix_length_le hu ht (h.first u h'.asked h'.views)
  exact hle.eq_of_length_le (h'.first t h.asked h.views)

theorem Asked.trans (h : Asked p t) {u : List Char} (hu : Asked t u) : Asked p u :=
  ⟨hu.starts.trans ((prefix_append t ['/']).trans h.starts), hu.nonempty, hu.last⟩

theorem Asked.length_lt (h : Asked p t) : t.length < p.length := by
  have hle := h.starts.length_le
  rw [length_append, length_singleton] at hle
  omega

/-- The walk has come to slashes that are their own `dirname`: it goes on for ever, or finds a view
there, or several. -/
def Lost : Except Err View → Prop
  | .ok v => ∃ k, v.path = List.replicate k '/'
  | .error e => ∀ dir, e ≠ noSubsystem dir

theorem lost_endless : Lost (.error .endless) := by
  intro dir h
  cases h

theorem dirname_slashes (k : Nat) : dirname (List.replicate k '/') = List.replicate k '/' := by
  cases k with
  | zero => rfl
  | succ k =>
    have hall : (List.replicate k '/' ++ ['/']).all (· == '/') = true := by simp
    rw [replicate_succ', dirname_append not_mem_nil, if_pos hall]

theorem lost_slashes {k : Nat} (hk : 2 ≤ k) (n : Nat) :
    Lost (findSubsystem c s n (List.replicate k '/')) := by
  have hstop : ¬ (List.replicate k '/' = [] ∨ List.replicate k '/' = ['/']) := by
    rintro (h | h)
    all_goals
      have hlength := congrArg List.length h
      simp at hlength
      omega
  induction n with
  | zero => exact lost_endless
  | succ n ih =>
    by_cases hviews : viewsAt c (List.replicate k '/') = []
    · rw [findSubsystem_miss hstop hviews, dirname_slashes]
      exact ih
    · rw [findSubsystem_hit hstop hviews, oneAt]
      split
      next v hv =>
        have hmem : v ∈ viewsAt c (List.replicate k '/') := hv ▸ mem_singleton_self v
        exact ⟨k, eq_of_beq (mem_filter.mp hmem).2⟩
      next => exact fun _ h => nomatch h

theorem findSubsystem_root {k : Nat} (hk : ¬ 2 ≤ k) (n : Nat) :
    findSubsystem c s (n + 1) (List.replicate k '/') = .error (noSubsystem s) := by
  rw [findSubsystem, if_pos]
  · rfl
  · rcases k with _ | _ | k
    · exact .inl rfl
    · exact .inr rfl
    · omega

/-- What the runs of one step more have, all runs of that many steps have. -/
theorem exists_of_succ {q : Nat → Prop} {N : Nat} (h : ∀ n, N ≤ n → q (n + 1)) :
    ∃ N, ∀ n, N ≤ n → q n := by
  refine ⟨N + 1, fun n hn => ?_⟩
  obtain ⟨n, rfl⟩ : ∃ m, n = m + 1 := ⟨n - 1, by omega⟩
  exact h n (by omega)

/-- **The walk from below a text**: it returns what is at the first text that has a view; without
one it ends at the root, unless it comes to two slashes or more. -/
theorem walk_outcome (c : Vms) (s p : List Char) :
    (∃ t, Hit c p t ∧ ∃ N, ∀ n, N ≤ n → findSubsystem c s n (dirname p) = oneAt c t) ∨
      (∀ t, Asked p t → viewsAt c t = []) ∧
        (¬ ['/', '/'] <+: p ∧
            (∃ N, ∀ n, N ≤ n → findSubsystem c s n (dirname p) = .error (noSubsystem s)) ∨
          ['/', '/'] <+: p ∧ ∀ n, Lost (findSubsystem c s n (dirname p))) := by
  -- the texts asked for get shorter
  induction hlen : p.length using Nat.strong_induction_on generalizing p with
  | _ m ih =>
    rcases asked_cases p with ⟨k, hdir, hnone, hslash⟩ | ⟨hasked, hup, hslash⟩
    · refine .inr ⟨fun t ht => absurd ht (hnone t), ?_⟩
      rw [hdir, hslash]
      by_cases hk : 2 ≤ k
      · exact .inr ⟨hk, lost_slashes hk⟩
      · exact .inl ⟨hk, exists_of_succ (N := 0) fun n _ => findSubsystem_root hk n⟩
    · by_cases hviews : viewsAt c (dirname p) = []
      · have hmiss := findSubsystem_miss (s := s) hasked.not_stop hviews
        rcases ih _ (hlen ▸ hasked.length_lt) _ rfl with ⟨t, hhit, N, hrun⟩ | ⟨hnone, hend⟩
        · refine .inl ⟨t, ⟨hasked.trans hhit.asked, hhit.views, fun t' ht' hviews' => ?_⟩,
            exists_of_succ fun n hn => (hmiss n).trans (hrun n hn)⟩
          rcases hup t' ht' with rfl | ht'
          · exact absurd hviews hviews'
          · exact hhit.first t' ht' hviews'
        · refine .inr ⟨fun t ht => ?_, ?_⟩
          · rcases hup t ht with rfl | ht
            · exact hviews
            · exact hnone t ht
          · rw [hslash]
            refine hend.imp (And.imp_right ?_) (And.imp_right ?_)
            · rintro ⟨N, hrun⟩
              exact exists_of_succ fun n hn => (hmiss n).trans (hrun n hn)
            · intro hlost n
              cases n with
              | zero => exact lost_endless
              | succ n =>
                rw [hmiss]
                exact hlost n
      · refine .inl ⟨dirname p, ⟨hasked, hviews, fun t ht _ => ?_⟩,
          exists_of_succ (N := 0) fun n _ => findSubsystem_hit hasked.not_stop hviews n⟩
        rcases hup t ht with rfl | ht
        · exact le_refl _
        · exact ht.length_lt.le

theorem not_isAncestor_slashes {k : Nat} : ¬ IsAncestor (List.replicate k '/') s := by
  rintro ⟨a, hne, hstart, hslashes⟩
  have hcomp : ∀ w ∈ a, Component w := fun w hw =>
    component_of_mem_words (dropLast_subset _ (hstart.subset hw))
  have hwords : ∀ k, words '/' (List.replicate k '/') = [] := by
    intro k
    induction k with
    | zero => rfl
    | succ k ih => rw [replicate_succ, Lib.Text.words_cons_self, ih]
  have hwords := hwords k
  rw [hslashes] at hwords
  split at hwords
  · exact hne ((words_rooted hcomp).symm.trans hwords)
  · exact hne ((words_unwords hcomp).symm.trans hwords)

theorem oneAt_eq_ok_iff : oneAt c t = .ok v ↔ viewsAt c t = [v] := by
  unfold oneAt
  constructor
  · intro h
    split at h
    next hviews => rw [hviews, Except.ok.inj h]
    next => cases h
  · intro h
    rw [h]

theorem path_of_viewsAt (h : viewsAt c t = [v]) : v ∈ c.views ∧ v.path = t := by
  have hmem : v ∈ viewsAt c t := h ▸ mem_singleton_self v
  exact ⟨(mem_filter.mp hmem).1, eq_of_beq (mem_filter.mp hmem).2⟩

end Walk

/-- **The walk to the subsystem** ends with the view at the longest proper ancestor of the source
directory, or with `NOT_FOUND` when there is none, exactly when the first text it asks for that has
a view has one, at an ancestor, and no longer ancestor has a view; or when none of the texts and
ancestors has a view and the directory does not begin with two slashes. -/
theorem walk_correct_iff (c : Vms) (s : List Char) :
    Correct c s ↔ FindsAncestor c s ∨ FindsNone c s := by
  rcases walk_outcome c s s with ⟨t, hhit, N, hrun⟩ | ⟨hnone, ⟨hslash, N, hrun⟩ | ⟨hslash, hlost⟩⟩
  · constructor
    · rintro ⟨r, M, hanswers, hrun'⟩
      have hr : oneAt c t = r := (hrun _ (le_max_left N M)).symm.trans (hrun' _ (le_max_right N M))
      subst hr
      cases hone : oneAt c t with
      | ok v =>
        rw [hone] at hanswers
        have hviews := oneAt_eq_ok_iff.mp hone
        obtain ⟨-, rfl⟩ := path_of_viewsAt hviews
        exact .inl ⟨v, hviews, hhit.asked, hanswers.2.1, hhit.first, hanswers.2.2⟩
      | error e =>
        rw [hone] at hanswers
        unfold oneAt at hone
        split at hone
        · cases hone
        · cases hone
          cases hanswers.1
    · rintro (⟨v, hviews, hasked, hancestor, hfirst, hlongest⟩ | hfinds)
      · have hne : viewsAt c v.path ≠ [] := by
          rw [hviews]
          exact cons_ne_nil _ _
        -- the first text with a view is the path of that view
        rw [hhit.unique ⟨hasked, hne, hfirst⟩] at hviews
        refine ⟨.ok v, N, ⟨(path_of_viewsAt hviews).1, hancestor, hlongest⟩, fun n hn => ?_⟩
        rw [hrun n hn, oneAt_eq_ok_iff.mpr hviews]
      · exact absurd (hfinds.asked t hhit.asked) hhit.views
  · constructor
    · rintro ⟨r, M, hanswers, hrun'⟩
      have hr : .error (noSubsystem s) = r :=
        (hrun _ (le_max_left N M)).symm.trans (hrun' _ (le_max_right N M))
      subst hr
      exact .inr ⟨hnone, hanswers.2, hslash⟩
    · rintro (⟨v, hviews, hasked, -⟩ | hfinds)
      · rw [hnone _ hasked] at hviews
        cases hviews
      · exact ⟨.error (noSubsystem s), N, ⟨rfl, hfinds.ancestors⟩, hrun⟩
  · constructor
    · rintro ⟨r, M, hanswers, hrun'⟩
      have hr := hlost M
      rw [hrun' M (le_refl _)] at hr
      cases r with
      | ok v =>
        obtain ⟨k, hk⟩ := hr
        exact absurd (hk ▸ hanswers.2.1) not_isAncestor_slashes
      | error e => exact absurd hanswers.1 (hr s)
    · rintro (⟨v, hviews, hasked, -⟩ | hfinds)
      · rw [hnone _ hasked] at hviews
        cases hviews
      · exact absurd hslash hfinds.slashes

def k8sView : Vms := ⟨[⟨[], "/k8s".toList⟩, ⟨[], "/k8s/group".toList⟩], [], []⟩

def twoTenants : Vms := ⟨[⟨"a".toList, "/k8s".toList⟩, ⟨"b".toList, "/k8s".toList⟩], [], []⟩

/-- No number of steps is enough for `//group`; the view at `/k8s/group` is found for
`/k8s/group/`, and neither of two views at `/k8s`. -/
theorem walk_never_ends :
    (∀ n, findSubsystem ⟨[], [], []⟩ "//group".toList n (dirname "//group".toList) =
        .error .endless) ∧
      findSubsystemForSourceDir k8sView "/k8s/group/".toList = .ok ⟨[], "/k8s/group".toList⟩ ∧
      findSubsystemForSourceDir twoTenants "/k8s/group".toList = .error .tooMany := by
  refine ⟨fun n => ?_, by decide, by decide⟩
  have hslashes : dirname (dirname "//group".toList) = dirname "//group".toList := by decide
  induction n with
  | zero => rfl
  | succ n ih =>
    rw [findSubsystem_miss (by decide) rfl, hslashes]
    exact ih

end VastCsi.Csi.GroupMembers
