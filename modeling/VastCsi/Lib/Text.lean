import Mathlib.Data.List.Basic

/-!
# Text as the source handles it

The string operations the handlers use, over the characters of a string so that they evaluate:
substring and suffix tests, stripping, the piece after the last separator, and a separated path as
the list of its non-empty pieces (`parts` and `join`).
-/

namespace VastCsi.Lib.Text

open List String

/-- The pattern occurs in the text. -/
def occurs (pat : List Char) : List Char → Bool
  | [] => pat.isEmpty
  | c :: cs => pat.isPrefixOf (c :: cs) || occurs pat cs

/-- `pat in s`. -/
def contains (s pat : String) : Bool := occurs pat.toList s.toList

/-- `s.endswith(suf)`. -/
def endsWith (s suf : String) : Bool := suf.toList.isSuffixOf s.toList

/-- `s.startswith(pre)`. -/
def startsWith (s pre : String) : Bool := pre.toList.isPrefixOf s.toList

theorem occurs_iff {pat : List Char} : ∀ {l : List Char}, occurs pat l = true ↔ pat <:+: l
  | [] => by simp [occurs]
  | c :: cs => by rw [occurs, Bool.or_eq_true, isPrefixOf_iff_prefix, infix_cons_iff, occurs_iff]

/-- `s.lstrip(c)`, on characters. -/
def lstrip (c : Char) (l : List Char) : List Char := l.dropWhile (· == c)

/-- `s.rstrip(c)`, on characters. -/
def rstrip (c : Char) (l : List Char) : List Char := (lstrip c l.reverse).reverse

variable {c : Char}

theorem rstrip_eq_self {l : List Char} (h : l.getLast? ≠ some c) : rstrip c l = l := by
  rcases eq_nil_or_concat l with rfl | ⟨init, last, rfl⟩
  · rfl
  · have hlast : last ≠ c := fun hc => h (by simp [hc])
    simp [rstrip, lstrip, hlast]

/-- `s.strip(c)`. -/
def strip (c : Char) (s : String) : String := String.ofList (rstrip c (lstrip c s.toList))

/-- `s.strip()`. -/
def trim (s : String) : String :=
  String.ofList (((s.toList.dropWhile Char.isWhitespace).reverse.dropWhile
    Char.isWhitespace).reverse)

/-- `s.split(c, 1)`: what is before the first separator and what is after it. -/
def splitFirst (c : Char) (s : String) : Option (String × String) :=
  match s.toList.dropWhile (· != c) with
  | [] => none
  | _ :: rest => some (String.ofList (s.toList.takeWhile (· != c)), String.ofList rest)

/-- `s.rsplit(c, 1)[-1]`: what follows the last separator. -/
def lastPiece (c : Char) (s : String) : String := String.ofList ((s.toList.splitOn c).getLastD [])

/-- The non-empty pieces between separators. -/
def parts (c : Char) (s : String) : List String :=
  ((s.toList.splitOn c).filter (!·.isEmpty)).map String.ofList

/-- A rooted path with the given pieces. -/
def join (c : Char) (ps : List String) : String :=
  String.ofList (c :: [c].intercalate (ps.map String.toList))

/-- Pieces a separated path can have. -/
def Clean (c : Char) (p : String) : Prop := p ≠ "" ∧ c ∉ p.toList

theorem not_mem_of_mem_splitOn {c : Char} : ∀ {l p : List Char}, p ∈ l.splitOn c → c ∉ p
  | [], p, h => by
    rw [splitOn_nil, mem_singleton] at h
    simp [h]
  | a :: l, p, h => by
    rw [splitOn_cons_eq_if_modifyHead] at h
    split at h
    next hac =>
      rcases mem_cons.mp h with rfl | h'
      · simp
      · exact not_mem_of_mem_splitOn h'
    next hac =>
      -- the first piece of the rest grows by `a`, which is not the separator
      have ih := @not_mem_of_mem_splitOn c l
      cases hl : l.splitOn c with
      | nil => exact absurd hl (splitOn_ne_nil c l)
      | cons q qs =>
        rw [hl] at h ih
        rcases mem_cons.mp h with rfl | h'
        · intro hc
          rcases mem_cons.mp hc with rfl | hq
          · simp at hac
          · exact ih mem_cons_self hq
        · exact ih (mem_cons_of_mem _ h')

/-- The pieces of a path are clean. -/
theorem clean_of_mem_parts {s p : String} (h : p ∈ parts c s) : Clean c p := by
  obtain ⟨l, hl, rfl⟩ := mem_map.mp h
  obtain ⟨hmem, hne⟩ := mem_filter.mp hl
  refine ⟨?_, ?_⟩
  · intro he
    have : l = [] := by
      have := congrArg String.toList he
      simpa using this
    simp [this] at hne
  · rw [toList_ofList]
    exact not_mem_of_mem_splitOn hmem

/-- **Printing a path and splitting it again.** -/
theorem parts_join {ps : List String} (h : ∀ p ∈ ps, Clean c p) : parts c (join c ps) = ps := by
  have hsplit : (join c ps).toList.splitOn c =
      [] :: ([c].intercalate (ps.map String.toList)).splitOn c := by
    rw [join, toList_ofList, splitOn_cons_eq_if_modifyHead]
    simp
  cases ps with
  | nil =>
    rw [parts, hsplit]
    rfl
  | cons p ps =>
    have hclean : ∀ l ∈ (p :: ps).map String.toList, c ∉ l := by
      intro l hl
      obtain ⟨q, hq, rfl⟩ := mem_map.mp hl
      exact (h q hq).2
    rw [parts, hsplit, splitOn_intercalate c hclean (by simp)]
    have hne : ((p :: ps).map String.toList).filter (!·.isEmpty) = (p :: ps).map String.toList := by
      rw [filter_eq_self]
      intro l hl
      obtain ⟨q, hq, rfl⟩ := mem_map.mp hl
      have := (h q hq).1
      simpa using this
    rw [List.filter_cons_of_neg (by simp), hne, List.map_map]
    simp [Function.comp_def]

/-- A path continued by another has the pieces of both. -/
theorem parts_append (a b : String) :
    parts c (a ++ String.singleton c ++ b) = parts c a ++ parts c b := by
  have hsplit : (a ++ String.singleton c ++ b).toList.splitOn c =
      a.toList.splitOn c ++ b.toList.splitOn c := by
    rw [String.toList_append, String.toList_append, String.toList_singleton, List.append_assoc]
    exact splitOn_append_cons_self _ _
  rw [parts, parts, parts, hsplit, filter_append, map_append]

/-- A clean piece is a path of one piece. -/
theorem parts_of_clean {p : String} (h : Clean c p) : parts c p = [p] := by
  have hsplit : p.toList.splitOn c = [p.toList] := splitOn_eq_singleton h.2
  have hne : p.toList.isEmpty = false := by
    cases hp : p.toList with
    | nil => exact absurd (toList_eq_nil_iff.mp hp) h.1
    | cons _ _ => rfl
  rw [parts, hsplit]
  simp [hne]

/-- The path without its last piece. -/
def dirname (c : Char) (s : String) : String := join c (parts c s).dropLast

/-- The last piece of a path; empty for the root. -/
def basename (c : Char) (s : String) : String := (parts c s).getLastD ""

/-- The parent continued by the last piece is the path again. -/
theorem parts_dirname_basename (s : String) :
    parts c (dirname c s ++ String.singleton c ++ basename c s) = parts c s := by
  have hclean : ∀ p ∈ (parts c s).dropLast, Clean c p :=
    fun p hp => clean_of_mem_parts (dropLast_subset _ hp)
  rw [parts_append, dirname, parts_join hclean, basename]
  cases hp : parts c s with
  | nil => simp [parts]
  | cons a l =>
    have hne : parts c s ≠ [] := by simp [hp]
    have hlast : (a :: l).getLastD "" = (parts c s).getLast hne := by
      simp [hp, getLastD_eq_getLast?, getLast?_eq_getLast_of_ne_nil]
    rw [hlast, parts_of_clean (clean_of_mem_parts (getLast_mem hne)), ← hp, dropLast_append_getLast]

end VastCsi.Lib.Text
