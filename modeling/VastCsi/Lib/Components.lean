import VastCsi.Lib.Runs

/-!
# Paths and their components

A path that is written in the usual way is `rooted ws`: a slash, and its components with one slash
between them. Containment of directories is that of the components (`isUnder`); the text of a
directory also begins the texts of siblings whose names begin with its own. `dirname` and
`basename` are those of Python's `os.path`.
-/

namespace VastCsi.Lib.Components

open Text List

structure Component (w : List Char) : Prop where
  nonempty : w ≠ []
  slash : '/' ∉ w

instance (w : List Char) : Decidable (Component w) :=
  decidable_of_iff (w ≠ [] ∧ '/' ∉ w) ⟨fun h => ⟨h.1, h.2⟩, fun h => ⟨h.1, h.2⟩⟩

/-- The path with these components. -/
def rooted (ws : List (List Char)) : List Char := '/' :: unwords '/' ws

/-- The path is written in the usual way. -/
def IsRooted (p : List Char) : Prop := ∃ ws, (∀ w ∈ ws, Component w) ∧ p = rooted ws

/-- A relative path that is written in the usual way. -/
def IsRelative (p : List Char) : Prop := ∃ ws, (∀ w ∈ ws, Component w) ∧ p = unwords '/' ws

/-- The components of `d` begin those of `p`. -/
def isUnder (d p : List Char) : Bool := (words '/' d).isPrefixOf (words '/' p)

def dirname (p : List Char) : List Char :=
  let head := (p.reverse.dropWhile (· != '/')).reverse
  if head.all (· == '/') then head else rstrip '/' head

def basename (p : List Char) : List Char := (p.reverse.takeWhile (· != '/')).reverse

variable {d p w : List Char} {ws a b : List (List Char)}

theorem isUnder_iff : isUnder d p = true ↔ words '/' d <+: words '/' p := isPrefixOf_iff_prefix

theorem component_of_mem_words {l : List Char} (h : w ∈ words '/' l) : Component w := by
  obtain ⟨hmem, hne⟩ := mem_filter.mp h
  exact ⟨by simpa using hne, not_mem_of_mem_splitOn hmem⟩

theorem words_of_component (h : Component w) : words '/' w = [w] := by
  rw [words, splitOn_eq_singleton h.slash]
  obtain ⟨c, cs, rfl⟩ := exists_cons_of_ne_nil h.nonempty
  rfl

theorem words_unwords (h : ∀ w ∈ ws, Component w) : words '/' (unwords '/' ws) = ws := by
  induction ws with
  | nil => rfl
  | cons w ws ih =>
    have hw := h w mem_cons_self
    have hws : ∀ v ∈ ws, Component v := fun v hv => h v (mem_cons_of_mem w hv)
    cases ws with
    | nil =>
      rw [show unwords '/' [w] = w by simp [unwords]]
      exact words_of_component hw
    | cons v vs =>
      rw [unwords_cons (cons_ne_nil v vs), words_append, words_of_component hw, ih hws]
      rfl

theorem words_rooted (h : ∀ w ∈ ws, Component w) : words '/' (rooted ws) = ws := by
  rw [rooted, words_cons_self, words_unwords h]

theorem unwords_append (ha : a ≠ []) (hb : b ≠ []) :
    unwords '/' (a ++ b) = unwords '/' a ++ '/' :: unwords '/' b := by
  induction a with
  | nil => exact absurd rfl ha
  | cons w ws ih =>
    cases ws with
    | nil =>
      rw [singleton_append, unwords_cons hb]
      simp [unwords]
    | cons v vs =>
      have hvs : v :: vs ≠ [] := cons_ne_nil v vs
      rw [cons_append, unwords_cons (by simp), ih hvs, unwords_cons hvs, append_assoc]
      rfl

theorem rooted_append (ha : a ≠ []) (hb : b ≠ []) :
    rooted (a ++ b) = rooted a ++ '/' :: unwords '/' b := by
  rw [rooted, unwords_append ha hb]
  rfl

/-- A text of components does not begin with a slash. -/
theorem head?_unwords (h : ∀ w ∈ ws, Component w) : (unwords '/' ws).head? ≠ some '/' := by
  cases ws with
  | nil => simp [unwords]
  | cons w ws =>
    have hw := h w mem_cons_self
    obtain ⟨c, cs, rfl⟩ := exists_cons_of_ne_nil hw.nonempty
    have hc : c ≠ '/' := fun hc => hw.slash (hc ▸ mem_cons_self)
    cases ws with
    | nil => simpa [unwords] using hc
    | cons v vs =>
      rw [unwords_cons (cons_ne_nil v vs)]
      simpa using hc

/-- A slash before a text that begins with none is all that `lstrip` takes. -/
theorem lstrip_cons_of_head {l : List Char} (h : l.head? ≠ some '/') :
    lstrip '/' ('/' :: l) = l := by
  cases l with
  | nil => rfl
  | cons x l =>
    have hx : x ≠ '/' := fun hx => h (by rw [hx]; rfl)
    simp [lstrip, hx]

theorem unwords_ne_nil (h : ∀ w ∈ ws, Component w) (hne : ws ≠ []) : unwords '/' ws ≠ [] := by
  intro hnil
  have := words_unwords h
  rw [hnil] at this
  exact hne this.symm

/-- A path under another continues it with a slash, or is the same. -/
theorem rooted_eq_of_starts (ha : a ≠ []) (h : a <+: b) :
    rooted b = rooted a ∨ ∃ r, rooted b = rooted a ++ '/' :: r := by
  obtain ⟨q, rfl⟩ := h
  cases q with
  | nil => exact Or.inl (by rw [append_nil])
  | cons w ws => exact Or.inr ⟨_, rooted_append ha (cons_ne_nil w ws)⟩

/-- The text of `p` continues that of `d` within its last component. -/
def Sibling (d p : List Char) : Prop := d ≠ ['/'] ∧ ∃ x r, p = d ++ x :: r ∧ x ≠ '/'

theorem Sibling.isPrefix (h : Sibling d p) : d <+: p := by
  obtain ⟨_, x, r, heq, _⟩ := h
  exact ⟨x :: r, heq.symm⟩

/-- A text that begins with that of a directory is under the directory, unless it is a
sibling's. -/
theorem isUnder_iff_of_starts (hd : IsRooted d) (hp : IsRooted p) (h : d <+: p) :
    isUnder d p = true ↔ ¬ Sibling d p := by
  obtain ⟨a, ha, rfl⟩ := hd
  obtain ⟨b, hb, rfl⟩ := hp
  rw [isUnder_iff, words_rooted ha, words_rooted hb]
  constructor
  · rintro hab ⟨hroot, x, r, heq, hx⟩
    have hne : a ≠ [] := by
      rintro rfl
      exact hroot rfl
    rcases rooted_eq_of_starts hne hab with hsame | ⟨r', hr'⟩
    · have hlen := congrArg List.length (hsame.symm.trans heq)
      simp at hlen
    · obtain ⟨hx', -⟩ := List.cons.inj (append_cancel_left (hr'.symm.trans heq))
      exact hx hx'.symm
  · intro hsib
    by_cases hroot : a = []
    · rw [hroot]
      exact nil_prefix
    obtain ⟨r, hr⟩ := h
    cases r with
    | nil =>
      rw [append_nil] at hr
      have heq := congrArg (words '/') hr
      rw [words_rooted ha, words_rooted hb] at heq
      exact ⟨[], (append_nil a).trans heq⟩
    | cons x r =>
      have hx : x = '/' := by
        by_contra hx
        refine hsib ⟨fun h => hroot ?_, x, r, hr.symm, hx⟩
        have := congrArg (words '/') h
        rw [words_rooted ha] at this
        exact this
      have heq := congrArg (words '/') hr
      rw [hx, words_append, words_rooted ha, words_rooted hb] at heq
      exact ⟨_, heq⟩

/-- A path under a directory begins with its text. -/
theorem prefix_of_isUnder (hd : IsRooted d) (hp : IsRooted p) (h : isUnder d p = true) :
    d <+: p := by
  obtain ⟨a, ha, rfl⟩ := hd
  obtain ⟨b, hb, rfl⟩ := hp
  rw [isUnder_iff, words_rooted ha, words_rooted hb] at h
  by_cases hne : a = []
  · rw [hne]
    exact ⟨unwords '/' b, rfl⟩
  · rcases rooted_eq_of_starts hne h with hsame | ⟨r, hr⟩
    · exact ⟨[], (append_nil _).trans hsame.symm⟩
    · exact ⟨_, hr.symm⟩

/-- The text of some components begins that of more. -/
theorem unwords_starts (h : a <+: b) : unwords '/' a <+: unwords '/' b := by
  obtain ⟨q, rfl⟩ := h
  by_cases ha : a = []
  · rw [ha]
    exact nil_prefix
  by_cases hq : q = []
  · exact ⟨[], by rw [hq, append_nil, append_nil]⟩
  · rw [unwords_append ha hq]
    exact prefix_append _ _

/-- What `dirname` keeps before it strips slashes. -/
theorem dirname_append (hw : '/' ∉ w) : dirname (d ++ '/' :: w) =
      if (d ++ ['/']).all (· == '/') then d ++ ['/'] else rstrip '/' (d ++ ['/']) := by
  have hhead : ((d ++ '/' :: w).reverse.dropWhile (· != '/')).reverse = d ++ ['/'] := by
    rw [reverse_append, reverse_cons, append_assoc, dropWhile_append_of_pos]
    · simp
    · intro x hx
      have hx : x ∈ w := mem_reverse.mp hx
      simpa using fun h : x = '/' => hw (h ▸ hx)
  rw [dirname, hhead]

theorem getLast?_append_cons_of_not_mem (hne : w ≠ []) (hw : '/' ∉ w) :
    (d ++ '/' :: w).getLast? ≠ some '/' := by
  rcases eq_nil_or_concat w with rfl | ⟨w, x, rfl⟩
  · exact absurd rfl hne
  · rw [concat_eq_append] at hw ⊢
    rw [← cons_append, ← append_assoc, getLast?_concat]
    rintro ⟨rfl⟩
    exact hw (mem_append_right _ (mem_singleton_self _))

theorem rooted_concat (w : List Char) (hws : ws ≠ []) :
    rooted (ws ++ [w]) = rooted ws ++ '/' :: w := by
  rw [rooted_append hws (cons_ne_nil w [])]
  simp [unwords]

/-- A path with components does not end in a slash. -/
theorem getLast?_rooted (hw : Component w) : (rooted (ws ++ [w])).getLast? ≠ some '/' := by
  by_cases hws : ws = []
  · rw [hws]
    have h := getLast?_append_cons_of_not_mem (d := []) hw.nonempty hw.slash
    simpa [rooted, unwords] using h
  · rw [rooted_concat w hws]
    exact getLast?_append_cons_of_not_mem hw.nonempty hw.slash

theorem not_all_slashes (hne : d ≠ []) (hlast : d.getLast? ≠ some '/') :
    ¬ d.all (· == '/') = true := by
  intro hall
  have hslash := all_eq_true.mp hall _ (getLast_mem hne)
  exact hlast (by rw [getLast?_eq_getLast_of_ne_nil hne, eq_of_beq hslash])

/-- The parent of something in a directory. -/
theorem dirname_append_of_getLast? (hne : d ≠ []) (hlast : d.getLast? ≠ some '/') (hw : '/' ∉ w) :
    dirname (d ++ '/' :: w) = d := by
  have hstrip : rstrip '/' (d ++ ['/']) = rstrip '/' d := by simp [rstrip, lstrip]
  rw [dirname_append hw, if_neg, hstrip, rstrip_eq_self hlast]
  intro hall
  rw [all_append, Bool.and_eq_true] at hall
  exact not_all_slashes hne hlast hall.1

theorem dirname_rooted (hws : ∀ v ∈ ws, Component v) (hw : Component w) :
    dirname (rooted (ws ++ [w])) = rooted ws := by
  rcases eq_nil_or_concat ws with rfl | ⟨vs, v, rfl⟩
  · -- the parent of a path of one component is the root
    have h : rooted ([] ++ [w]) = [] ++ '/' :: w := by simp [rooted, unwords]
    rw [h, dirname_append hw.slash]
    rfl
  · rw [concat_eq_append] at hws ⊢
    have hv := hws v (mem_append_right _ (mem_singleton_self v))
    rw [rooted_concat w (by simp)]
    exact dirname_append_of_getLast? (cons_ne_nil _ _) (getLast?_rooted hv) hw.slash

end VastCsi.Lib.Components
