import Mathlib.Data.Sym.Card

/-!
# Lists of undirected edges

An undirected graph as a program keeps it: a list of edges, each with two ends in some order. A
simple list has at most one edge for each two vertices, so it has one for all of them exactly when
there are as many edges as pairs.
-/

namespace VastCsi.Lib.Mesh

open List

variable {α : Type} {es : List (α × α)} {a b : α}

/-- The two ends of an edge, in no order. -/
def ends (e : α × α) : Sym2 α := s(e.1, e.2)

/-- No loops, and no two edges with the same ends. -/
structure Simple (es : List (α × α)) : Prop where
  loopless : ∀ e ∈ es, e.1 ≠ e.2
  nodup : (es.map ends).Nodup

def vertices [DecidableEq α] (es : List (α × α)) : Finset α :=
  (es.flatMap fun e => [e.1, e.2]).toFinset

/-- Every two vertices have an edge. -/
def Joined [DecidableEq α] (es : List (α × α)) : Prop :=
  ∀ a ∈ vertices es, ∀ b ∈ vertices es, a ≠ b → s(a, b) ∈ es.map ends

/-- The list grows by an edge that joins two vertices nobody joins yet. -/
theorem simple_cons_iff {e : α × α} :
    Simple (e :: es) ↔ e.1 ≠ e.2 ∧ ends e ∉ es.map ends ∧ Simple es := by
  constructor
  · intro h
    obtain ⟨hnew, hnodup⟩ := nodup_cons.mp (map_cons ▸ h.nodup)
    refine ⟨h.loopless e mem_cons_self, hnew, ?_, hnodup⟩
    exact fun e' he' => h.loopless e' (mem_cons_of_mem e he')
  · rintro ⟨hloop, hnew, hs⟩
    refine ⟨forall_mem_cons.mpr ⟨hloop, hs.loopless⟩, ?_⟩
    rw [map_cons]
    exact nodup_cons.mpr ⟨hnew, hs.nodup⟩

/-- The order of the edges does not matter. -/
theorem Simple.perm {es' : List (α × α)} (h : Simple es) (hp : es.Perm es') : Simple es' where
  loopless e he := h.loopless e (hp.mem_iff.mpr he)
  nodup := (hp.map ends).nodup_iff.mp h.nodup

variable [DecidableEq α]

theorem mem_vertices : a ∈ vertices es ↔ ∃ e ∈ es, a = e.1 ∨ a = e.2 := by
  simp only [vertices, mem_toFinset, mem_flatMap, mem_cons, not_mem_nil, or_false]

/-- In a simple list the ends of the edges are different vertices. -/
theorem Simple.ends_subset (h : Simple es) :
    (es.map ends).toFinset ⊆ (vertices es).offDiag.image Sym2.mk.uncurry := by
  intro z hz
  obtain ⟨e, he, rfl⟩ := mem_map.mp (mem_toFinset.mp hz)
  refine Finset.mem_image.mpr ⟨e, Finset.mem_offDiag.mpr ?_, rfl⟩
  exact ⟨mem_vertices.mpr ⟨e, he, .inl rfl⟩, mem_vertices.mpr ⟨e, he, .inr rfl⟩, h.loopless e he⟩

/-- Being joined, as an inclusion the other way. -/
theorem joined_iff_subset :
    Joined es ↔ (vertices es).offDiag.image Sym2.mk.uncurry ⊆ (es.map ends).toFinset := by
  constructor
  · intro h z hz
    obtain ⟨⟨a, b⟩, hab, rfl⟩ := Finset.mem_image.mp hz
    obtain ⟨ha, hb, hne⟩ := Finset.mem_offDiag.mp hab
    exact mem_toFinset.mpr (h a ha b hb hne)
  · intro h a ha b hb hne
    refine mem_toFinset.mp (h (Finset.mem_image.mpr ⟨(a, b), ?_, rfl⟩))
    exact Finset.mem_offDiag.mpr ⟨ha, hb, hne⟩

/-- **Counting the edges**: all vertices are joined if there are as many edges as
pairs of vertices. -/
theorem joined_iff_length (h : Simple es) :
    Joined es ↔ es.length = (vertices es).card.choose 2 := by
  have hcard : (es.map ends).toFinset.card = es.length := by
    rw [toFinset_card_of_nodup h.nodup, length_map]
  rw [joined_iff_subset, ← Sym2.card_image_offDiag, ← hcard]
  constructor
  · exact fun hsub => congrArg Finset.card (h.ends_subset.antisymm hsub)
  · intro heq
    rw [Finset.eq_of_subset_of_card_le h.ends_subset heq.ge]

end VastCsi.Lib.Mesh
