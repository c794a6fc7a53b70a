import VastCsi.Lib.Text

/-!
# Slash-separated paths in two languages

Python's `os.path.join` puts characters together and tidies nothing. Go's `path.Join` cleans what
it has joined: empty parts and `.` go, and `..` takes the part before it. A path whose last part
is an ordinary name (`Segment`) is a directory followed by the name in both.
-/

namespace VastCsi.Lib.Paths

open Lib List

/-- A path as the directory of what is joined to it. -/
def withSlash (p : List Char) : List Char :=
  if p = [] ∨ p.getLast? = some '/' then p else p ++ ['/']

/-- `os.path.join(a, b)`. -/
def join (a b : List Char) : List Char := if b.head? = some '/' then b else withSlash a ++ b

/-- One part of `path.Clean`; the topmost part first. -/
def pushPart (rooted : Bool) (stack : List (List Char)) (part : List Char) : List (List Char) :=
  if part = [] ∨ part = ['.'] then stack
  else if part = ['.', '.'] then
    match stack with
    | [] => if rooted then [] else [['.', '.']]
    | top :: rest => if top = ['.', '.'] then part :: top :: rest else rest
  else part :: stack

def isRooted (p : List Char) : Bool := p.head? == some '/'

/-- The parts that `path.Clean` keeps, the last one first. -/
def cleanParts (p : List Char) : List (List Char) :=
  (p.splitOn '/').foldl (pushPart (isRooted p)) []

def root (p : List Char) : List Char := if isRooted p then ['/'] else []

def clean (p : List Char) : List Char :=
  match root p ++ ['/'].intercalate (cleanParts p).reverse with
  | [] => ['.']
  | cs => cs

/-- `path.Join(a, b)`: empty elements are ignored. -/
def goJoin (a b : List Char) : List Char :=
  match a, b with
  | [], [] => []
  | [], b => clean b
  | a, [] => clean a
  | a, b => clean (a ++ '/' :: b)

def base (p : List Char) : List Char :=
  if p = [] then ['.']
  else
    match Text.rstrip '/' p with
    | [] => ['/']
    | q => (q.splitOn '/').getLastD []

/-- The directory of what `path.Join` joins to a path. -/
def cleanDir (p : List Char) : List Char := root p ++ (cleanParts p).reverse.flatMap (· ++ ['/'])

structure Segment (s : List Char) : Prop where
  nonempty : s ≠ []
  slash : '/' ∉ s
  dot : s ≠ ['.']
  dots : s ≠ ['.', '.']

/-- Nothing, or something that ends in a slash. -/
def IsDir (d : List Char) : Prop := d = [] ∨ d.getLast? = some '/'

variable {s d p : List Char}

theorem Segment.head (h : Segment s) : s.head? ≠ some '/' := by
  intro hs
  exact h.slash (mem_of_head? hs)

theorem isDir_withSlash (p : List Char) : IsDir (withSlash p) := by
  unfold withSlash
  split
  next h => exact h
  next => exact .inr (by simp)

theorem isDir_cleanDir (p : List Char) : IsDir (cleanDir p) := by
  unfold cleanDir IsDir
  rcases eq_nil_or_concat (cleanParts p).reverse with hnil | ⟨parts, last, hparts⟩
  · rw [hnil]
    unfold root
    split
    next => exact .inr rfl
    next => exact .inl rfl
  · right
    rw [hparts, concat_eq_append, flatMap_append, ← append_assoc]
    simp

/-- The last part of a path is what follows its last slash. -/
theorem takeWhile_reverse_append (hd : IsDir d) (hs : '/' ∉ s) :
    (d ++ s).reverse.takeWhile (· != '/') = s.reverse := by
  rw [reverse_append, takeWhile_append_of_pos (by
    intro c hc
    have : c ∈ s := mem_reverse.mp hc
    simp only [bne_iff_ne, ne_eq]
    rintro rfl
    exact hs this)]
  rcases hd with rfl | hlast
  · simp
  · obtain ⟨l, rfl⟩ := getLast?_eq_some_iff.mp hlast
    simp

/-- **Directory and name can be told apart.** -/
theorem append_segment_inj {d' s' : List Char} (hd : IsDir d) (hd' : IsDir d') (hs : '/' ∉ s)
    (hs' : '/' ∉ s') : d ++ s = d' ++ s' ↔ d = d' ∧ s = s' := by
  constructor
  · intro h
    have hname : s.reverse = s'.reverse := by
      rw [← takeWhile_reverse_append hd hs, h, takeWhile_reverse_append hd' hs']
    rw [reverse_injective hname] at h
    exact ⟨append_cancel_right h, reverse_injective hname⟩
  · rintro ⟨rfl, rfl⟩
    rfl

/-- A name ends in no slash. -/
theorem rstrip_append_segment (hs : Segment s) : Text.rstrip '/' (d ++ s) = d ++ s := by
  refine Text.rstrip_eq_self fun hlast => hs.slash ?_
  rw [getLast?_append_of_ne_nil d hs.nonempty] at hlast
  exact mem_of_getLast? hlast

/-- A name starts with no slash. -/
theorem lstrip_append_segment (hs : Segment s) :
    Text.lstrip '/' (d ++ s) = Text.lstrip '/' d ++ s := by
  obtain ⟨c, cs, rfl⟩ := exists_cons_of_ne_nil hs.nonempty
  have hc : (c == '/') = false := by
    rw [beq_eq_false_iff_ne]
    rintro rfl
    exact hs.slash mem_cons_self
  rw [Text.lstrip, Text.lstrip, dropWhile_append]
  split
  next hnil =>
    rw [isEmpty_iff.mp hnil, dropWhile_cons_of_neg (by simp [hc])]
    rfl
  next => rfl

theorem isDir_lstrip (hd : IsDir d) : IsDir (Text.lstrip '/' d) := by
  rcases hd with rfl | hlast
  · exact .inl rfl
  · rcases eq_nil_or_concat (Text.lstrip '/' d) with hnil | ⟨init, last, hcat⟩
    · exact .inl hnil
    · right
      have hsuffix : Text.lstrip '/' d <:+ d := dropWhile_suffix _
      obtain ⟨pre, hpre⟩ := hsuffix
      rw [hcat, concat_eq_append, ← append_assoc] at hpre
      rw [← hpre, getLast?_append] at hlast
      rw [hcat, concat_eq_append, getLast?_append]
      exact hlast

theorem join_segment {a : List Char} (hs : Segment s) : join a s = withSlash a ++ s :=
  if_neg hs.head

theorem splitOn_segment (hs : Segment s) : s.splitOn '/' = [s] := splitOn_eq_singleton hs.slash

theorem pushPart_segment {rooted : Bool} {stack : List (List Char)} (hs : Segment s) :
    pushPart rooted stack s = s :: stack := by
  unfold pushPart
  rw [if_neg (not_or.mpr ⟨hs.nonempty, hs.dot⟩), if_neg hs.dots]

theorem intercalate_append_singleton (parts : List (List Char)) (s : List Char) :
    ['/'].intercalate (parts ++ [s]) = parts.flatMap (· ++ ['/']) ++ s := by
  induction parts with
  | nil => simp
  | cons part rest ih =>
    cases rest with
    | nil => simp [List.intercalate]
    | cons next rest =>
      rw [cons_append, intercalate_cons_of_ne_nil (by simp), ih]
      simp

theorem clean_segment (hs : Segment s) : clean s = s := by
  have hroot : isRooted s = false := by
    rw [isRooted, beq_eq_false_iff_ne]
    exact hs.head
  have hparts : cleanParts s = [s] := by
    rw [cleanParts, splitOn_segment hs, foldl_cons, foldl_nil, pushPart_segment hs]
  unfold clean
  rw [hparts, root, hroot]
  obtain ⟨c, cs, rfl⟩ := exists_cons_of_ne_nil hs.nonempty
  simp

theorem clean_append_segment (hp : p ≠ []) (hs : Segment s) :
    clean (p ++ '/' :: s) = cleanDir p ++ s := by
  have hrooted : isRooted (p ++ '/' :: s) = isRooted p := by
    obtain ⟨c, cs, rfl⟩ := exists_cons_of_ne_nil hp
    rfl
  have hparts : cleanParts (p ++ '/' :: s) = s :: cleanParts p := by
    rw [cleanParts, hrooted, splitOn_append_cons_self, splitOn_segment hs, foldl_append,
      foldl_cons, foldl_nil, pushPart_segment hs]
    rfl
  have hbody : root (p ++ '/' :: s) ++ ['/'].intercalate (cleanParts (p ++ '/' :: s)).reverse =
      cleanDir p ++ s := by
    rw [hparts, reverse_cons, intercalate_append_singleton, root, hrooted, cleanDir, root,
      append_assoc]
  unfold clean
  rw [hbody]
  obtain ⟨c, cs, rfl⟩ := exists_cons_of_ne_nil hs.nonempty
  split
  next hnil => simp at hnil
  next => rfl

/-- **`path.Join` of a name** puts it into the clean directory. -/
theorem goJoin_segment (hs : Segment s) : goJoin p s = cleanDir p ++ s := by
  obtain ⟨c, cs, rfl⟩ := exists_cons_of_ne_nil hs.nonempty
  cases p with
  | nil => exact clean_segment hs
  | cons d ds => exact clean_append_segment (cons_ne_nil d ds) hs

theorem base_segment (hs : Segment s) : base s = s := by
  have hstrip : Text.rstrip '/' s = s := rstrip_append_segment (d := []) hs
  unfold base
  rw [if_neg hs.nonempty, hstrip]
  obtain ⟨c, cs, rfl⟩ := exists_cons_of_ne_nil hs.nonempty
  simp [splitOn_segment hs]

/-- The parts of a clean path are not empty and hold no slash. -/
theorem mem_cleanParts {part : List Char} (h : part ∈ cleanParts p) : part ≠ [] ∧ '/' ∉ part := by
  have hfold : ∀ (rest stack : List (List Char)), (∀ q ∈ rest, '/' ∉ q) →
      (∀ q ∈ stack, q ≠ [] ∧ '/' ∉ q) →
      ∀ q ∈ rest.foldl (pushPart (isRooted p)) stack, q ≠ [] ∧ '/' ∉ q := by
    intro rest
    induction rest with
    | nil => exact fun stack _ hstack => hstack
    | cons first rest ih =>
      intro stack hrest hstack
      refine ih _ (fun q hq => hrest q (mem_cons_of_mem _ hq)) fun q hq => ?_
      have hfirst := hrest first mem_cons_self
      unfold pushPart at hq
      split at hq
      next => exact hstack q hq
      next hne =>
        split at hq
        next hdots =>
          split at hq
          next =>
            split at hq
            next => cases hq
            next => rw [mem_singleton.mp hq]; decide
          next top below =>
            split at hq
            next =>
              rcases mem_cons.mp hq with rfl | hq
              · exact ⟨fun h => hne (.inl h), hfirst⟩
              · exact hstack q hq
            next => exact hstack q (mem_cons_of_mem _ hq)
        next =>
          rcases mem_cons.mp hq with rfl | hq
          · exact ⟨fun h => hne (.inl h), hfirst⟩
          · exact hstack q hq
  exact hfold _ [] (fun q hq => Text.not_mem_of_mem_splitOn hq) (by simp) part h

/-- The directory of a relative path does not start with a slash. -/
theorem cleanDir_head (h : isRooted p = false) : (cleanDir p).head? ≠ some '/' := by
  unfold cleanDir root
  rw [if_neg (by rw [h]; decide), nil_append]
  cases hparts : (cleanParts p).reverse with
  | nil => simp
  | cons part rest =>
    have hmem : part ∈ cleanParts p := mem_reverse.mp (hparts ▸ mem_cons_self)
    obtain ⟨hne, hslash⟩ := mem_cleanParts hmem
    obtain ⟨c, cs, rfl⟩ := exists_cons_of_ne_nil hne
    simp only [flatMap_cons, cons_append, head?_cons, Option.some.injEq, ne_eq]
    rintro rfl
    exact hslash mem_cons_self

end VastCsi.Lib.Paths
