import Mathlib.Data.List.Chain
import VastCsi.Ext.ObjectNames

/-!
# Sanitized names as subdomains

`SanitizeK8sName` collapses dashes, but neither dots nor a dot beside a dash, and trims only the
ends of the whole name. So the labels between its dots can be empty, or begin or end with a dash.

What is kept of a name has name characters only, is framed by letters or digits and has at most 253
of them, so it is a subdomain exactly when the labels between its dots are framed. By induction on
the labels this says that no dot has a dot or a dash beside it (`framed_labels_iff`).
-/

namespace VastCsi.Ext.Names

open Lib Lib.Text List

/-- An RFC 1123 subdomain that is not too long for a name. -/
def IsSubdomain (l : List Char) : Prop :=
  l.length ≤ 253 ∧ (∀ c ∈ l, isNameChar c = true) ∧ ∀ label ∈ l.splitOn '.', Framed label

/-- What is kept of a name: dashes are collapsed, the ends trimmed, the rest is cut. -/
def kept (name : List Char) : List Char :=
  clip isEdge 253 (trimEdges (squeeze '-' (name.map cleanChar)))

/-- No dot stands beside a dot or a dash. -/
def DotsApart (l : List Char) : Prop :=
  l.IsChain fun a b => a = '.' ∨ b = '.' → isEdge a = false ∨ isEdge b = false

section Labels

variable {l a b : List Char}

theorem dotsApart_of_not_mem (h : '.' ∉ l) : DotsApart l := by
  refine List.Pairwise.isChain (pairwise_of_forall_mem_list fun x hx y hy => ?_)
  rintro (rfl | rfl)
  · exact absurd hx h
  · exact absurd hy h

theorem framed_append_dot_iff : Framed (a ++ '.' :: b) ∧ DotsApart (a ++ '.' :: b) ↔
    (Framed a ∧ DotsApart a) ∧ Framed b ∧ DotsApart b := by
  have hchain : DotsApart (a ++ '.' :: b) ↔ DotsApart a ∧ DotsApart b ∧
      (∀ x ∈ a.getLast?, isEdge x = false) ∧ ∀ y ∈ b.head?, isEdge y = false := by
    unfold DotsApart
    rw [isChain_append, isChain_cons]
    simp [isEdge]
    tauto
  rw [hchain]
  constructor
  · rintro ⟨⟨⟨x, hx, hxe⟩, y, hy, hye⟩, ha, hb, hlast, hhead⟩
    have ha' : a ≠ [] := by
      rintro rfl
      cases hx
      cases hxe
    have hb' : b ≠ [] := by
      rintro rfl
      rw [getLast?_concat] at hy
      cases hy
      cases hye
    rw [head?_append_of_ne_nil a ha'] at hx
    rw [getLast?_append_of_ne_nil a (cons_ne_nil _ b), getLast?_cons_of_ne_nil hb'] at hy
    exact ⟨⟨⟨⟨x, hx, hxe⟩, _, getLast?_eq_getLast_of_ne_nil ha', hlast _
      (getLast?_eq_getLast_of_ne_nil ha')⟩, ha⟩, ⟨⟨_, head?_eq_some_head hb', hhead _
      (head?_eq_some_head hb')⟩, y, hy, hye⟩, hb⟩
  · rintro ⟨⟨hfa, ha⟩, hfb, hb⟩
    refine ⟨hfa.append ['.'] hfb, ha, hb, ?_, ?_⟩
    · rintro x hx
      obtain ⟨z, hz, hze⟩ := hfa.last
      rwa [Option.some.inj (hx.symm.trans hz)]
    · rintro x hx
      obtain ⟨z, hz, hze⟩ := hfb.first
      rwa [Option.some.inj (hx.symm.trans hz)]

/-- The labels are framed when the whole text is, and the dots are apart. -/
theorem framed_labels_iff (l : List Char) :
    (∀ label ∈ l.splitOn '.', Framed label) ↔ Framed l ∧ DotsApart l := by
  by_cases hdot : '.' ∈ l
  · obtain ⟨a, b, rfl⟩ := append_of_mem hdot
    have ha : a.length < (a ++ '.' :: b).length := by simp
    have hb : b.length < (a ++ '.' :: b).length := by simp; omega
    rw [splitOn_append_cons_self, framed_append_dot_iff, ← framed_labels_iff a,
      ← framed_labels_iff b]
    simp only [mem_append, or_imp, forall_and]
  · rw [splitOn_eq_singleton hdot]
    simp [dotsApart_of_not_mem hdot]
termination_by l.length

end Labels

section Kept

variable {name : List Char}

theorem framed_trimEdges {l : List Char} (h : trimEdges l ≠ []) : Framed (trimEdges l) := by
  have hlast : isEdge ((trimEdges l).getLast h) = false :=
    Bool.eq_false_iff.mpr (rdropWhile_last_not isEdge (l.dropWhile isEdge) h)
  refine ⟨⟨_, head?_eq_some_head h, ?_⟩, _, getLast?_eq_getLast_of_ne_nil h, hlast⟩
  obtain ⟨rest, hrest⟩ := rdropWhile_prefix isEdge (l.dropWhile isEdge)
  have hfirst := head?_dropWhile_not isEdge l
  rw [← hrest, show List.rdropWhile isEdge (List.dropWhile isEdge l) = trimEdges l from rfl,
    head?_append_of_ne_nil _ h, head?_eq_some_head h] at hfirst
  exact hfirst

theorem framed_kept (h : kept name ≠ []) : Framed (kept name) := by
  refine (framed_trimEdges ?_).clip
  intro hnil
  rw [kept, hnil] at h
  exact h rfl

theorem length_clip_le {n : Nat} {l : List Char} : (clip isEdge n l).length ≤ n := by
  rw [clip]
  split
  next => exact (List.rdropWhile_prefix isEdge _).length_le.trans (length_take_le n l)
  next h => exact Nat.le_of_not_lt h

theorem infix_kept : kept name <:+: squeeze '-' (name.map cleanChar) :=
  (prefix_clip ..).isInfix.trans ((List.rdropWhile_prefix isEdge _).isInfix.trans
    (dropWhile_suffix isEdge).isInfix)

theorem isNameChar_kept : ∀ c ∈ kept name, isNameChar c = true := by
  intro c hc
  obtain ⟨x, -, rfl⟩ := mem_map.mp (mem_of_mem_squeeze (infix_kept.subset hc))
  exact isNameChar_cleanChar x

theorem kept_kept (h : kept name ≠ []) : kept (kept name) = kept name := by
  have hclean : (kept name).map cleanChar = kept name := map_cleanChar isNameChar_kept
  have hdashes : occurs ['-', '-'] (kept name) = false := by
    rw [Bool.eq_false_iff, Ne, occurs_iff]
    intro hin
    have hocc := occurs_iff.mpr (hin.trans infix_kept)
    rw [occurs_squeeze] at hocc
    cases hocc
  have hlength : ¬ 253 < (kept name).length := Nat.not_lt.mpr length_clip_le
  rw [kept, hclean, squeeze_eq_self hdashes, (framed_kept h).trimEdges, clip, if_neg hlength]

theorem sanitizeK8sName_eq_kept (name : List Char) :
    sanitizeK8sName name = if kept name = [] then "resource".toList else kept name := by
  rw [kept, ← collapse_eq_squeeze]
  rfl

end Kept

/-- **Sanitized names**: sanitizing again changes nothing, and the name is a subdomain exactly when
no dot stands beside a dot or a dash in what is kept. -/
theorem sanitized_subdomain_iff (name : List Char) :
    sanitizeK8sName (sanitizeK8sName name) = sanitizeK8sName name ∧
      (IsSubdomain (sanitizeK8sName name) ↔ DotsApart (kept name)) := by
  rw [sanitizeK8sName_eq_kept name]
  split
  next hnil =>
    rw [hnil]
    refine ⟨by decide, iff_of_true ⟨by decide, all_eq_true.mp rfl, ?_⟩ .nil⟩
    rw [splitOn_eq_singleton (by decide), forall_mem_singleton]
    exact ⟨⟨'r', rfl, rfl⟩, 'e', rfl, rfl⟩
  next hne =>
    rw [sanitizeK8sName_eq_kept, kept_kept hne, if_neg hne]
    refine ⟨rfl, fun h => ((framed_labels_iff _).mp h.2.2).2, fun h => ?_⟩
    exact ⟨length_clip_le, isNameChar_kept, (framed_labels_iff _).mpr ⟨framed_kept hne, h⟩⟩

/-- Dots are not collapsed, and a dash may follow one. -/
theorem sanitized_not_subdomain :
    (sanitizeK8sName "a..b".toList).splitOn '.' = ["a".toList, [], "b".toList] ∧
      (sanitizeK8sName "a_._b".toList).splitOn '.' = ["a-".toList, "-b".toList] ∧
      (sanitizeK8sName "\u0130..b".toList).splitOn '.' = ["i".toList, [], "b".toList] := by
  decide +kernel

end VastCsi.Ext.Names
