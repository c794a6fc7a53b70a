/-!
# Programs that make calls

A client of a remote interface is a tree: it returns, it fails, or it makes a call and goes on
with the answer (`Prog`). It is run call by call, between the calls of others (`advance`).

`Ensures R Q E p s` is the rely-guarantee judgement: between two calls the state may change along
`R.rely`; every answer that `R.step` allows is followed; every call moves the state along
`R.guar`; the program ends in `Q` or fails in `E`. `Within A G p` speaks about the calls only.
-/

namespace VastCsi.Lib

open List

/-- A program over the calls `Op`, where `op` is answered by an `Resp op`. -/
inductive Prog (Op : Type) (Resp : Op → Type) (ε α : Type) where
  | ret (a : α)
  | fail (e : ε)
  | call (op : Op) (k : Resp op → Prog Op Resp ε α)

namespace Prog

variable {Op : Type} {Resp : Op → Type} {ε α β σ : Type}

def bind : Prog Op Resp ε α → (α → Prog Op Resp ε β) → Prog Op Resp ε β
  | .ret a, f => f a
  | .fail e, _ => .fail e
  | .call op k, f => .call op fun r => (k r).bind f

def catching : Prog Op Resp ε α → (ε → Prog Op Resp ε α) → Prog Op Resp ε α
  | .ret a, _ => .ret a
  | .fail e, h => h e
  | .call op k, h => .call op fun r => (k r).catching h

instance : Monad (Prog Op Resp ε) where
  pure := .ret
  bind := bind

instance : MonadExcept ε (Prog Op Resp ε) where
  throw := .fail
  tryCatch := catching

def perform (op : Op) : Prog Op Resp ε (Resp op) := .call op .ret

def each (f : β → Prog Op Resp ε PUnit) : List β → Prog Op Resp ε PUnit
  | [] => .ret ⟨⟩
  | b :: bs => (f b).bind fun _ => each f bs

def advance (exec : (op : Op) → σ → Resp op × σ) :
    Prog Op Resp ε α → σ → Option (Prog Op Resp ε α × σ)
  | .call op k, s => some (k (exec op s).1, (exec op s).2)
  | _, _ => none

/-- What is known about the server, about the others and about the program's own calls. -/
structure Rules (Op : Type) (Resp : Op → Type) (σ : Type) where
  step : (op : Op) → σ → Resp op → σ → Prop
  rely : σ → σ → Prop
  guar : σ → σ → Prop
  rely_refl : ∀ s, rely s s
  rely_trans : ∀ {s t u}, rely s t → rely t u → rely s u

/-- The program keeps to the guarantee and ends in `Q`, or fails in `E`. -/
def Ensures (R : Rules Op Resp σ) (Q : α → σ → Prop) (E : ε → σ → Prop) :
    Prog Op Resp ε α → σ → Prop
  | .ret a, s => ∀ s', R.rely s s' → Q a s'
  | .fail e, s => ∀ s', R.rely s s' → E e s'
  | .call op k, s =>
    ∀ s', R.rely s s' → ∀ r t, R.step op s' r t → R.guar s' t ∧ Ensures R Q E (k r) t

variable {R : Rules Op Resp σ} {Q : α → σ → Prop} {E : ε → σ → Prop}

variable {p : Prog Op Resp ε α} {s : σ}

/-- The judgement is not lost to the others. -/
theorem Ensures.stable {t : σ} (h : Ensures R Q E p s) (ht : R.rely s t) : Ensures R Q E p t := by
  cases p with
  | ret a => exact fun u hu => h u (R.rely_trans ht hu)
  | fail e => exact fun u hu => h u (R.rely_trans ht hu)
  | call op k => exact fun u hu => h u (R.rely_trans ht hu)

theorem Ensures.mono {Q' : α → σ → Prop} {E' : ε → σ → Prop} (h : Ensures R Q E p s)
    (hq : ∀ a t, Q a t → Q' a t) (he : ∀ e t, E e t → E' e t) :
    Ensures R Q' E' p s := by
  induction p generalizing s with
  | ret a => exact fun t ht => hq a t (h t ht)
  | fail e => exact fun t ht => he e t (h t ht)
  | call op k ih => exact fun s' hs r t ht => ⟨(h s' hs r t ht).1, ih r (h s' hs r t ht).2⟩

/-- Sequencing. -/
theorem Ensures.bind {Q' : β → σ → Prop} {f : α → Prog Op Resp ε β} (h : Ensures R Q E p s)
    (hf : ∀ a t, Q a t → Ensures R Q' E (f a) t) :
    Ensures R Q' E (p.bind f) s := by
  induction p generalizing s with
  | ret a => exact hf a s (h s (R.rely_refl s))
  | fail e => exact h
  | call op k ih => exact fun s' hs r t ht => ⟨(h s' hs r t ht).1, ih r (h s' hs r t ht).2⟩

/-- One call, and what is done with its answer. -/
theorem ensures_perform_bind {Q : β → σ → Prop} {op : Op} {f : Resp op → Prog Op Resp ε β}
    (h : ∀ s', R.rely s s' → ∀ r t, R.step op s' r t → R.guar s' t ∧ Ensures R Q E (f r) t) :
    Ensures R Q E ((perform op).bind f) s :=
  h

/-- A loop over a list: the invariant speaks about what is left of the list. -/
theorem ensures_each {f : β → Prog Op Resp ε PUnit} {I : List β → σ → Prop}
    (hstable : ∀ s t, I [] s → R.rely s t → I [] t)
    (hstep : ∀ b bs s, I (b :: bs) s → Ensures R (fun _ => I bs) E (f b) s) :
    ∀ {bs : List β} {s : σ}, I bs s → Ensures R (fun _ => I []) E (each f bs) s
  | [], s, h => fun t ht => hstable s t h ht
  | b :: bs, s, h => Ensures.bind (hstep b bs s h) fun _ _ ht => ensures_each hstable hstep ht

/-- What the judgement says about the next call. -/
theorem Ensures.advance {exec : (op : Op) → σ → Resp op × σ}
    (hexec : ∀ op s, R.step op s (exec op s).1 (exec op s).2) {p' : Prog Op Resp ε α} {s' : σ}
    (h : Ensures R Q E p s) (hadv : p.advance exec s = some (p', s')) :
    R.guar s s' ∧ Ensures R Q E p' s' := by
  cases p with
  | ret a => cases hadv
  | fail e => cases hadv
  | call op k =>
    cases hadv
    exact h s (R.rely_refl s) _ _ (hexec op s)

/-- While the answers are in `A`, the calls are in `G`. -/
def Within (A : (op : Op) → Resp op → Prop) (G : Op → Prop) : Prog Op Resp ε α → Prop
  | .ret _ => True
  | .fail _ => True
  | .call op k => G op ∧ ∀ r, A op r → Within A G (k r)

variable {A : (op : Op) → Resp op → Prop} {G : Op → Prop}

theorem Within.bind {f : α → Prog Op Resp ε β} (h : Within A G p) (hf : ∀ a, Within A G (f a)) :
    Within A G (p.bind f) := by
  induction p with
  | ret a => exact hf a
  | fail e => trivial
  | call op k ih => exact ⟨h.1, fun r hr => ih r (h.2 r hr)⟩

/-- `try`/`catch`. -/
theorem Within.catching {handler : ε → Prog Op Resp ε α} (h : Within A G p)
    (hh : ∀ e, Within A G (handler e)) :
    Within A G (p.catching handler) := by
  induction p with
  | ret a => trivial
  | fail e => exact hh e
  | call op k ih => exact ⟨h.1, fun r hr => ih r (h.2 r hr)⟩

theorem within_each {f : β → Prog Op Resp ε PUnit} :
    ∀ {bs : List β}, (∀ b ∈ bs, Within A G (f b)) → Within A G (each f bs)
  | [], _ => trivial
  | b :: _, h =>
    Within.bind (h b mem_cons_self) fun _ => within_each fun c hc => h c (mem_cons_of_mem b hc)

end Prog

end VastCsi.Lib
