import VastCsi.Ext.StreamMesh

/-!
# Streams over repeated attempts

In `ensureWith` the two writes are parameters, and a write that is never made can be replaced by
anything: that is how `streams_in_order` says which writes an attempt does not make. The path is
not created when it is there, a stream is not added when its name is in the record, and after an
attempt that has returned neither is done at all (`ensureWith_eq`).

`AgreeOn` compares two procedures from the states of an assertion, and is carried through the
procedure as an assertion is: by its sequence, its loops and its contexts.
-/

namespace VastCsi.Ext.StreamMesh

open Lib CsiAddons Constellation List

variable {cfg : Setting} {vms : Vms} {a : Attempt cfg} {p : Ppath} {l : ReplicationLink}

/-- From the states of `P` the two procedures are one. -/
def AgreeOn {α : Type} (P : World Ppath → Prop) (x y : Rec α) : Prop := ∀ w, P w → x w = y w

section Agree

variable {α β : Type} {P : World Ppath → Prop} {Q : α → World Ppath → Prop}
  {E : KErr → World Ppath → Prop} {x y : Rec α}

theorem AgreeOn.refl : AgreeOn P x x := fun _ _ => rfl

theorem AgreeOn.bind {f g : α → Rec β} (h : AgreeOn P x y) (hx : Meets P x Q E)
    (hf : ∀ b, AgreeOn (Q b) (f b) (g b)) : AgreeOn P (x >>= f) (y >>= g) := by
  intro w hw
  show EStateM.bind x f w = EStateM.bind y g w
  rw [EStateM.bind, EStateM.bind, ← h w hw]
  have hpost := hx w hw
  cases hrun : x w with
  | ok b t =>
    rw [hrun] at hpost
    exact hf b t hpost
  | error e t => rfl

theorem AgreeOn.withContext {context : String} (h : AgreeOn P x y) :
    AgreeOn P (withContext context x) (withContext context y) := by
  intro w hw
  show EStateM.tryCatch x _ w = EStateM.tryCatch y _ w
  rw [EStateM.tryCatch, EStateM.tryCatch, h w hw]

theorem AgreeOn.forEach {f g : β → Rec Unit} :
    ∀ {bs : List β}, (∀ b ∈ bs, AgreeOn P (f b) (g b)) → (∀ b ∈ bs, Keeps P (f b)) →
      AgreeOn P (forEach f bs) (forEach g bs)
  | [], _, _ => .refl
  | b :: _, h, hkeeps =>
    .bind (h b mem_cons_self) (hkeeps b mem_cons_self) fun _ =>
      .forEach (fun c hc => h c (mem_cons_of_mem b hc)) fun c hc => hkeeps c (mem_cons_of_mem b hc)

end Agree

section Writes

variable {I : Ppath → Prop} {create : ReplicationLink → Rec Unit} {add : Stream → Rec Unit}
  {target sc : String}

/-- The two ways to add the stream of a link are one where it is missing. -/
def AddsAlike (cfg : Setting) (vms : Vms) (a : Attempt cfg) (add : Stream → Rec Unit)
    (I : Ppath → Prop) (l : ReplicationLink) : Prop :=
  AgreeOn (fun w => I w.own ∧ cfg.streamName l ∉ recordNames vms w.own l.edge.sideA)
    (addReplicationStream a.fates (linkStream cfg l)) (add (linkStream cfg l))

theorem agree_addIfMissing (h : AddsAlike cfg vms a add I l) {names : List (List UInt8)} :
    AgreeOn (fun w => I w.own ∧ w.own.present = true ∧ names = recordNames vms w.own l.edge.sideA)
      (addIfMissing (addReplicationStream a.fates) (linkStream cfg l) names)
      (addIfMissing add (linkStream cfg l) names) := by
  rintro w ⟨hI, -, rfl⟩
  unfold addIfMissing
  split
  next => rfl
  next hout => exact h w ⟨hI, fun hmem => hout (contains_iff_mem.mpr hmem)⟩

theorem agree_addStandby (h : ∀ sc k, Standby cfg target sc k → AddsAlike cfg vms a add I k)
    (hl : l ∈ cfg.pairs sc) (hsc : sc ≠ cfg.primarySC) :
    AgreeOn (fun w => I w.own) (addStandby cfg vms a (addReplicationStream a.fates) target l)
      (addStandby cfg vms a add target l) := by
  unfold addStandby
  split
  next => exact .refl
  next heq =>
    rw [not_not] at heq
    rw [linkStream_standby hl hsc]
    exact .bind .refl meets_getPpathRecord fun _ => agree_addIfMissing (h sc l ⟨hl, hsc, heq⟩)

theorem agree_addStandbys (hI : GrowsTo cfg vms target I)
    (h : ∀ sc k, Standby cfg target sc k → AddsAlike cfg vms a add I k) :
    AgreeOn (fun w => I w.own) (addStandbys cfg vms a (addReplicationStream a.fates) target sc)
      (addStandbys cfg vms a add target sc) := by
  unfold addStandbys
  split
  next => exact .refl
  next hsc =>
    exact .forEach (fun l hl => agree_addStandby h hl hsc)
      fun l hl => (meets_addStandby hI hl hsc).post fun _ _ hw => hw.1

theorem agree_addTarget (hI : Grows cfg vms I) (hl : l ∈ (cfg.pairs cfg.primarySC).tail)
    (h : ∀ k, TargetLinks cfg l k → AddsAlike cfg vms a add I k) :
    AgreeOn (fun w => I w.own) (addTarget cfg vms a (addReplicationStream a.fates) l)
      (addTarget cfg vms a add l) := by
  have hstandby : ∀ sc k, Standby cfg l.edge.sideB sc k → AddsAlike cfg vms a add I k := by
    intro sc k hk
    exact h k (.inr ((mem_pairs.mp hk.1).2 ▸ hk))
  have hto : GrowsTo cfg vms l.edge.sideB I := hI.to ⟨l, hl, rfl⟩
  have hwait : ∀ context, Keeps (fun w : World Ppath => I w.own)
      (waitForStreamState vms a.fates l.edge.sideA (cfg.streamName l) context) :=
    fun _ => keeps_waitForStreamState
  unfold addTarget
  rw [linkStream_primary (mem_of_mem_tail hl)]
  refine .bind .refl meets_getPpathRecord fun _ => ?_
  refine .bind (agree_addIfMissing (h l (.inl rfl)))
    ((meets_addIfMissing fun p hp => hI p l hp (addable_primary hl)).post fun _ _ hw => hw.1)
    fun _ => ?_
  refine .bind .refl (hwait _) fun _ => ?_
  exact .bind (.forEach (fun _ _ => agree_addStandbys hto hstandby)
    fun _ _ => keeps_addStandbys hto) (.forEach fun _ _ => keeps_addStandbys hto)
    fun _ => .refl

theorem agree_ensurePpath {first : ReplicationLink}
    (h : AgreeOn (fun w => I w.own ∧ w.own.present = false) (createPpath vms a.fates first)
      (create first)) :
    AgreeOn (fun w => I w.own) (ensurePpath cfg vms a (createPpath vms a.fates) first)
      (ensurePpath cfg vms a create first) := by
  have hcheck : Meets (fun w : World Ppath => I w.own)
      (withContext "failed to check if protected path exists"
        (api a.fates fun w => .ok w.own.present w))
      (fun found w => I w.own ∧ found = w.own.present) (fun _ w => I w.own) :=
    meets_withContext (meets_api (fun _ hw => hw) (fun _ hw => hw) (fun _ _ hw => hw.1)
      fun _ hw => ⟨hw, rfl⟩)
  refine .bind .refl hcheck fun found => ?_
  refine .bind ?_ ((Meets.trivial _).pre fun _ _ => trivial) fun _ => .refl
  unfold createIfMissing
  split
  next => exact .refl
  next hfound =>
    refine .bind .refl (keeps_assertThat _ _) fun _ w hw => h w ⟨hw.1, ?_⟩
    rw [← hw.2, Bool.eq_false_iff]
    exact hfound

/-- The procedure does the same with other writes, if these are the same where they are made. -/
theorem ensureWith_eq (hI : Grows cfg vms I)
    (hcreate : ∀ first ∈ (cfg.pairs cfg.primarySC).head?, ∀ p, p.present = false → I p →
      I ⟨true, [embedded vms first]⟩)
    (hcreates : ∀ first, AgreeOn (fun w => I w.own ∧ w.own.present = false)
      (createPpath vms a.fates first) (create first))
    (hadds : ∀ l ∈ (cfg.pairs cfg.primarySC).tail, ∀ k, TargetLinks cfg l k →
      AddsAlike cfg vms a add I k) :
    AgreeOn (fun w => I w.own) (ensureConstellationPpath cfg vms a)
      (ensureWith cfg vms a create add) := by
  have hkeeps : ∀ l ∈ (cfg.pairs cfg.primarySC).tail,
      Keeps (fun w => I w.own) (addTarget cfg vms a (addReplicationStream a.fates) l) :=
    fun l hl => keeps_addTarget hI hl
  have hagree : ∀ l ∈ (cfg.pairs cfg.primarySC).tail, AgreeOn (fun w => I w.own)
      (addTarget cfg vms a (addReplicationStream a.fates) l)
      (addTarget cfg vms a add l) :=
    fun l hl => agree_addTarget hI hl (hadds l hl)
  unfold ensureConstellationPpath ensureWith
  cases hpairs : cfg.pairs cfg.primarySC with
  | nil => exact .refl
  | cons first rest =>
    rw [hpairs] at hcreate hkeeps hagree
    refine .bind (.withContext (agree_ensurePpath (hcreates first)))
      (meets_withContext ((meets_ensurePpath (hcreate first rfl)).post fun _ _ hw => hw.1))
      fun _ => ?_
    exact .bind (.forEach hagree hkeeps) (.forEach hkeeps) fun _ => .refl

end Writes

/-- Before each standby stream there was a stream of the primary to the same target; the last
stream is in front. -/
def PrimaryFirst (cfg : Setting) : List Stream → Prop
  | [] => True
  | st :: older => (st.standby = true → ∃ k ∈ older, k.cluster = cfg.primarySC ∧
      k.remote = st.remote ∧ k.standby = false) ∧ PrimaryFirst cfg older

structure Ordered (cfg : Setting) (vms : Vms) (p : Ppath) : Prop where
  placed : ∀ st ∈ p.streams, st.cluster = cfg.primarySC →
    (∃ k ∈ (cfg.pairs cfg.primarySC).head?, st = embedded vms k) ∨
      ∃ k ∈ (cfg.pairs cfg.primarySC).tail, st = linkStream cfg k
  order : PrimaryFirst cfg p.streams

/-- What an attempt makes of a path: there is no more than before, and nothing has gone. -/
structure Extends (p q : Ppath) : Prop where
  present : p.present = true → q.present = true
  streams : p.streams <:+ q.streams
  absent : q.present = false → q.streams = []

/-- With the names apart the name of a link to an additional target stands for its stream. -/
theorem mem_of_shown (hnames : NamesApart cfg vms) (ho : Ordered cfg vms p)
    (hl : l ∈ (cfg.pairs cfg.primarySC).tail) (h : Shown cfg vms (· = l) p) :
    linkStream cfg l ∈ p.streams := by
  obtain ⟨hlink, hside⟩ := mem_pairs.mp (mem_of_mem_tail hl)
  have hadded : added cfg cfg.primarySC = (cfg.pairs cfg.primarySC).tail := if_pos rfl
  have hkey : cfg.primarySC ∈ cfg.keys := hside ▸ mem_keys hlink
  have hname := h l rfl
  rw [mem_recordNames, hside] at hname
  obtain ⟨st, hst, hcluster, hst'⟩ := hname.resolve_left (hnames.unshown _ hkey l (hadded ▸ hl))
  rcases ho.placed st hst hcluster with ⟨k, -, rfl⟩ | ⟨k, hk, rfl⟩
  · exact absurd hst'.symm (hnames.unembedded l (hadded ▸ hl))
  · have hkl : k = l := inj_on_of_nodup_map (hnames.distinct _ hkey) (hadded ▸ hk)
      (hadded ▸ hl) hst'
    rwa [← hkl]

theorem keeps_ordered (hnames : NamesApart cfg vms) :
    Keeps (fun w => Ordered cfg vms w.own) (ensureConstellationPpath cfg vms a) := by
  refine keeps_ensure_of (fun first hfirst p _ _ => ⟨?_, ?_⟩) fun l hl =>
    keeps_addTarget_of (fun p hp hnew ho => ⟨?_, ?_⟩) (fun sc k hk p hp hnew ho => ?_) hl
  · intro st hst _
    exact .inl ⟨first, hfirst, mem_singleton.mp hst⟩
  · exact ⟨fun h => absurd h Bool.false_ne_true, trivial⟩
  · exact forall_mem_cons.mpr ⟨fun _ => .inr ⟨l, hl, rfl⟩, ho.placed⟩
  · refine ⟨fun h => ?_, ho.order⟩
    rw [← linkStream_primary (mem_of_mem_tail hl)] at h
    exact absurd h Bool.false_ne_true
  · -- the stream of the primary is there when a standby stream is added
    have hmem := mem_of_shown hnames ho.1 hl ho.2
    have hside := (mem_pairs.mp hk.1).2
    refine ⟨⟨?_, ?_⟩, fun j hj => recordNames_add (ho.2 j hj)⟩
    · refine forall_mem_cons.mpr ⟨fun hcluster => ?_, ho.1.placed⟩
      exact absurd (hside.symm.trans hcluster) hk.2.1
    · refine ⟨fun _ => ⟨_, hmem, (mem_pairs.mp (mem_of_mem_tail hl)).2, hk.2.2.symm, ?_⟩,
        ho.1.order⟩
      rw [← linkStream_primary (mem_of_mem_tail hl)]
      rfl

theorem Extends.refl (h : p.present = false → p.streams = []) : Extends p p :=
  ⟨id, suffix_refl _, h⟩

theorem keeps_extends : Keeps (fun w => Extends p w.own) (ensureConstellationPpath cfg vms a) := by
  refine keeps_ensure_of (fun first _ q hq h => ?_) fun l hl =>
    keeps_addTarget (fun q l hq _ _ h => ?_) hl
  · have hnil : p.streams = [] := suffix_nil.mp (h.absent hq ▸ h.streams)
    exact ⟨fun _ => rfl, hnil ▸ nil_suffix, fun h => absurd h.symm Bool.false_ne_true⟩
  · exact ⟨fun _ => hq, h.streams.trans (suffix_cons _ _),
      fun habsent => absurd (habsent.symm.trans hq) Bool.false_ne_true⟩

end VastCsi.Ext.StreamMesh
