import VastCsi.Csi.MountString

/-!
# `split_mount_flags` again

What `split_mount_flags` returns for items with balanced quotes are flags: texts in which a comma
or a blank stands only in quotes, and no quote is left open. Flags that were joined by commas are
split where they were joined.

The loop is followed symbol by symbol with its quote state (`splitLoop_append`): a flag goes through
it as it is (`Flag.split`), and what comes out are flags (`flag_of_mem_splitLoop`).
-/

namespace VastCsi.Csi.MountOptions

open Lib.Tokens List

/-- A comma or a blank outside quotes; `q` tells whether the text begins in quotes. -/
def bareSeparator : Bool → Text → Bool
  | _, [] => false
  | q, c :: cs => (!q && (isComma c || isSpace c)) || bareSeparator (if c == '"' then !q else q) cs

/-- A text without separators outside quotes, and without an open quote. -/
structure Flag (o : Text) : Prop where
  ne_nil : o ≠ []
  noBracket : ∀ c ∈ o, isBracket c = false
  closed : quoteState false o = false
  whole : bareSeparator false o = false

variable {o : Text} {q : Bool} {c : Char}

theorem quoteState_append (b : Text) :
    ∀ (a : Text) (q : Bool), quoteState q (a ++ b) = quoteState (quoteState q a) b
  | [], _ => rfl
  | _ :: a, _ => quoteState_append b a _

theorem bareSeparator_append (b : Text) : ∀ (a : Text) (q : Bool), bareSeparator q (a ++ b) =
      (bareSeparator q a || bareSeparator (quoteState q a) b)
  | [], _ => rfl
  | c :: a, q => by
    rw [cons_append, bareSeparator, bareSeparator_append b a, bareSeparator, Bool.or_assoc]
    rfl

theorem isSpace_of_whole {l : Text} (h : bareSeparator false (c :: l) = false) :
    isSpace c = false :=
  (Bool.or_eq_false_iff.mp (Bool.or_eq_false_iff.mp h).1).2

/-- The last symbol is a quote or stands outside quotes. -/
theorem isSpace_of_closed {l : Text} (hclosed : quoteState q (l ++ [c]) = false)
    (hwhole : bareSeparator q (l ++ [c]) = false) : isSpace c = false := by
  rw [quoteState_append] at hclosed
  rw [bareSeparator_append, Bool.or_eq_false_iff] at hwhole
  by_cases hquote : (c == '"') = true
  · rw [beq_iff_eq.mp hquote]
    decide
  · have hout : quoteState q l = false := by rwa [quoteState, if_neg hquote] at hclosed
    rw [hout] at hwhole
    exact isSpace_of_whole hwhole.2

/-- Trimming leaves a flag as it is. -/
theorem Flag.emit (h : Flag o) : emit o = [o] := by
  have hstrip : strip isSpace o = o := by
    have hfront : o.dropWhile isSpace = o := by
      cases o with
      | nil => rfl
      | cons c l => exact dropWhile_cons_of_neg (by rw [isSpace_of_whole h.whole]; decide)
    rw [strip, hfront, rdropWhile_eq_self_iff]
    intro hne hlast
    have hlast' := isSpace_of_closed (q := false) (l := o.dropLast) (c := o.getLast hne)
      (by rw [dropLast_append_getLast]; exact h.closed)
      (by rw [dropLast_append_getLast]; exact h.whole)
    rw [hlast'] at hlast
    cases hlast
  rw [MountOptions.emit, hstrip, if_neg (by rw [List.isEmpty_iff]; exact h.ne_nil)]

/-- The loop collects what has no separators outside quotes. -/
theorem splitLoop_append {r : Text} :
    ∀ {l : Text} {q : Bool} {buf : Text}, bareSeparator q l = false →
      splitLoop (l ++ r) q buf = splitLoop r (quoteState q l) (buf ++ l)
  | [], _, buf, _ => by rw [append_nil]; rfl
  | c :: l, q, buf, h => by
    obtain ⟨hc, hl⟩ := Bool.or_eq_false_iff.mp h
    have hpush : buf ++ c :: l = buf ++ [c] ++ l := by simp
    rw [cons_append, splitLoop, hc, quoteState, hpush, ← splitLoop_append hl]
    split
    next => rfl
    next => rfl

theorem Flag.split (h : Flag o) : splitMountFlags o = [o] := by
  have hloop : splitLoop (o ++ []) false [] = splitLoop [] (quoteState false o) o :=
    splitLoop_append h.whole
  rw [append_nil] at hloop
  rw [splitMountFlags, filter_brackets h.noBracket, hloop]
  exact h.emit

/-- The invariant of the loop: what is collected is a flag when the quotes are closed. -/
theorem flag_of_mem_splitLoop {tok : Text} :
    ∀ (l : Text) {q : Bool} (buf : Text), (∀ c ∈ buf ++ l, isBracket c = false) →
      quoteState false (buf ++ l) = false → quoteState false buf = q →
      bareSeparator false buf = false → tok ∈ splitLoop l q buf → Flag tok
  | [], _, buf, hbracket, hclosed, _, hwhole, htok => by
    rw [append_nil] at hbracket hclosed
    cases buf with
    | nil => cases htok
    | cons c buf =>
      have hflag : Flag (c :: buf) := ⟨cons_ne_nil c buf, hbracket, hclosed, hwhole⟩
      rw [splitLoop, hflag.emit, mem_singleton] at htok
      rwa [htok]
  | c :: l, q, buf, hbracket, hclosed, hq, hwhole, htok => by
    have happend : buf ++ c :: l = buf ++ [c] ++ l := by simp
    have hpush : ∀ {q'}, (if c == '"' then !q else q) = q' →
        (!q && (isComma c || isSpace c)) = false → tok ∈ splitLoop l q' (buf ++ [c]) →
        Flag tok := by
      intro q' hq' hc htok
      refine flag_of_mem_splitLoop l _ (happend ▸ hbracket) (happend ▸ hclosed) ?_ ?_ htok
      · rw [quoteState_append, hq]
        exact hq'
      · rw [bareSeparator_append, hwhole, hq, bareSeparator, hc]
        rfl
    rw [splitLoop] at htok
    split at htok
    next hquote =>
      refine hpush (if_pos hquote) ?_ htok
      rw [beq_iff_eq.mp hquote]
      exact Bool.and_false _
    next hquote =>
      split at htok
      next hsep =>
        obtain ⟨hout, -⟩ := Bool.and_eq_true_iff.mp hsep
        rw [Bool.not_eq_true'] at hout
        subst hout
        have hrest : quoteState false l = false := by
          rwa [quoteState_append, hq, quoteState, if_neg hquote] at hclosed
        rcases mem_append.mp htok with htok | htok
        · refine flag_of_mem_splitLoop [] buf (fun x hx => ?_) ?_ hq hwhole htok
          · rw [append_nil] at hx
            exact hbracket x (mem_append_left _ hx)
          · rw [append_nil, hq]
        · exact flag_of_mem_splitLoop l [] (fun x hx => hbracket x
            (mem_append_right buf (mem_cons_of_mem c hx))) hrest rfl rfl htok
      next hsep => exact hpush (if_neg hquote) (Bool.eq_false_iff.mpr hsep) htok

theorem quoteState_filter :
    ∀ (l : Text) (q : Bool), quoteState q (l.filter (!isBracket ·)) = quoteState q l
  | [], _ => rfl
  | c :: l, q => by
    by_cases hc : isBracket c = true
    · have hquote : ¬(c == '"') = true := by
        intro hquote
        rw [beq_iff_eq.mp hquote] at hc
        cases hc
      rw [filter_cons_of_neg (by simp [hc]), quoteState, if_neg hquote]
      exact quoteState_filter l q
    · rw [filter_cons_of_pos (by simpa using hc)]
      exact quoteState_filter l _

theorem flag_of_mem {text tok : Text} (hclosed : quoteState false text = false)
    (htok : tok ∈ splitMountFlags text) : Flag tok := by
  refine flag_of_mem_splitLoop _ [] (fun c hc => ?_) ?_ rfl rfl htok
  · simpa using (mem_filter.mp hc).2
  · exact (quoteState_filter text false).trans hclosed

theorem bareSeparator_of_not_mem : ∀ {l : Text}, '"' ∉ l → bareSeparator false l = false → ',' ∉ l
  | [], _, _ => not_mem_nil
  | c :: l, hquote, h => by
    rw [mem_cons, not_or] at hquote ⊢
    obtain ⟨hc, hl⟩ := Bool.or_eq_false_iff.mp h
    rw [if_neg (by simpa using Ne.symm hquote.1)] at hl
    refine ⟨?_, bareSeparator_of_not_mem hquote.2 hl⟩
    rintro rfl
    cases hc

theorem Flag.format (h : Flag o) : formatFlag o = o := by
  refine if_neg fun hformat => ?_
  simp only [Bool.and_eq_true, contains_iff_mem, Bool.not_eq_true'] at hformat
  refine bareSeparator_of_not_mem (fun hquote => ?_) h.whole hformat.1.1
  rw [contains_iff_mem.mpr hquote] at hformat
  cases hformat.2

theorem splitLoop_joinCommas :
    ∀ {fs : List Text}, (∀ f ∈ fs, Flag f) → splitLoop (joinCommas fs) false [] = fs
  | [], _ => rfl
  | [f], h => by
    have hf := h f (mem_singleton_self f)
    have hjoin : joinCommas [f] = f ++ [] := by simp [joinCommas, List.intercalate]
    rw [hjoin, splitLoop_append hf.whole]
    exact hf.emit
  | f :: g :: fs, h => by
    have hf := h f mem_cons_self
    rw [joinCommas_cons, splitLoop_append hf.whole, hf.closed]
    show emit f ++ splitLoop (joinCommas (g :: fs)) false [] = _
    rw [hf.emit, splitLoop_joinCommas fun x hx => h x (mem_cons_of_mem f hx)]
    rfl

theorem split_joinMountFlags {fs : List Text} (h : ∀ f ∈ fs, Flag f) :
    splitMountFlags (joinMountFlags fs) = fs := by
  have hformat : fs.map formatFlag = fs := by
    rw [map_congr_left fun f hf => (h f hf).format, map_id']
  have hbracket : ∀ c ∈ joinCommas fs, isBracket c = false := by
    intro c hc
    rcases mem_joinCommas hc with rfl | ⟨f, hf, hcf⟩
    · decide
    · exact (h f hf).noBracket c hcf
  rw [joinMountFlags, hformat, splitMountFlags, filter_brackets hbracket]
  exact splitLoop_joinCommas h

/-- **`split_mount_flags` of what it returned**: for items with balanced quotes, splitting the
flags again, or the string they are joined to, gives the same flags, and these have no comma or
blank outside quotes. -/
theorem split_stable (items : List Text)
    (hbalanced : ∀ item ∈ items, quoteState false item = false) :
    splitFlagList (splitFlagList items) = splitFlagList items ∧
      splitMountFlags (joinMountFlags (splitFlagList items)) = splitFlagList items ∧
      ∀ tok ∈ splitFlagList items, bareSeparator false tok = false := by
  have hflags : ∀ tok ∈ splitFlagList items, Flag tok := by
    intro tok htok
    obtain ⟨item, hitem, htok⟩ := mem_flatMap.mp htok
    exact flag_of_mem (hbalanced item hitem) htok
  exact ⟨flatMap_words fun tok htok => (hflags tok htok).split, split_joinMountFlags hflags,
    fun tok htok => (hflags tok htok).whole⟩

/-- The context that kubelet adds, between two options of a StorageClass. -/
theorem split_stable_context :
    splitFlagList (splitFlagList ["vers=4 context=\"s0:c26,c10\",nolock".toList]) =
      ["vers=4".toList, "context=\"s0:c26,c10\"".toList, "nolock".toList] :=
  (split_stable ["vers=4 context=\"s0:c26,c10\",nolock".toList] (by decide)).1.trans (by decide)

end VastCsi.Csi.MountOptions
