import VastCsi.Csi.MountOptions

/-!
# The string that is passed to `mount`

The options of a plain text are words for every splitter, and so are those that the driver adds.
What the NFS plugin passes on is the list of these words, joined by commas, and it is read back if
no comma gets into quotes: no word but the last may leave a quote open.
-/

namespace VastCsi.Csi.MountOptions

open Lib.Tokens List Bool

variable {text : Text}

theorem Plain.word (h : Plain text) {o : Text} (ho : o ∈ tokens isComma (strip isSpace text)) :
    Word o where
  ne_nil := (mem_tokens ho).1
  noComma c hc := ((mem_tokens ho).2 c hc).2
  noSpace c hc := h.noSpace c ((mem_tokens ho).2 c hc).1
  noBracket c hc := h.noBracket c (mem_of_mem_strip ((mem_tokens ho).2 c hc).1)

variable {o : Text}

theorem quotedComma_of_forall :
    ∀ {l : Text} {q : Bool}, (∀ c ∈ l, isComma c = false) → quotedComma q l = false
  | [], _, _ => rfl
  | c :: l, q, h => by
    rw [quotedComma, h c List.mem_cons_self, Bool.and_false, Bool.false_or]
    exact quotedComma_of_forall fun x hx => h x (List.mem_cons_of_mem c hx)

theorem Word.split (h : Word o) : splitMountFlags o = [o] := by
  have hplain : Plain o := by
    refine ⟨?_, h.noBracket, quotedComma_of_forall h.noComma⟩
    rw [strip_eq_self h.noSpace]
    exact h.noSpace
  rw [hplain.split, strip_eq_self h.noSpace, tokens_word h.ne_nil h.noComma]

theorem mountItems_append (a b : Text) :
    mountItems (a ++ ',' :: b) = mountItems a ++ mountItems b := by
  have hcomma : isComma ',' = true := rfl
  rw [mountItems, splitOnP_append_cons a b hcomma, map_append, filter_append]
  rfl

/-- A piece between commas, with blanks around it. -/
theorem mountItems_piece {a l b : Text} (ha : ∀ c ∈ a, isSpace c = true)
    (hl : ∀ c ∈ l, isSpace c = false ∧ isComma c = false) (hb : ∀ c ∈ b, isSpace c = true) :
    mountItems (a ++ l ++ b) = if l.isEmpty then [] else [l] := by
  have hblank : ∀ {c}, isSpace c = true → isComma c = false := by
    intro c hc
    by_contra hcomma
    rw [isSpace_of_isComma (not_eq_false _ ▸ hcomma)] at hc
    cases hc
  have hnone : ∀ c ∈ a ++ l ++ b, isComma c = false := by
    intro c hc
    rcases mem_append.mp hc with hc | hc
    · rcases mem_append.mp hc with hc | hc
      · exact hblank (ha c hc)
      · exact (hl c hc).2
    · exact hblank (hb c hc)
  rw [mountItems, splitOnP_eq_singleton hnone, map_singleton,
    strip_between ha (fun c hc => (hl c hc).1) hb]
  cases l <;> rfl

theorem Word.items (h : Word o) : mountItems o = [o] := by
  have hpiece := mountItems_piece (a := []) (b := []) (fun c hc => nomatch hc)
    (fun c hc => ⟨h.noSpace c hc, h.noComma c hc⟩) fun c hc => nomatch hc
  rw [nil_append, append_nil] at hpiece
  rw [hpiece, if_neg (by rw [List.isEmpty_iff]; exact h.ne_nil)]

/-- The items of a text without blanks inside are the pieces between commas. -/
theorem mountItems_plain {b : Text} (hb : ∀ c ∈ b, isSpace c = true) :
    ∀ {l a buf : Text}, (∀ c ∈ a, isSpace c = true) →
      (∀ c ∈ buf, isSpace c = false ∧ isComma c = false) → (∀ c ∈ l, isSpace c = false) →
      mountItems (a ++ (buf ++ l) ++ b) = tokens isComma (buf ++ l)
  | [], a, buf, ha, hbuf, _ => by
    rw [append_nil, mountItems_piece ha hbuf hb]
    exact (tokens_of_forall fun c hc => (hbuf c hc).2).symm
  | c :: l, a, buf, ha, hbuf, hl => by
    have hl' : ∀ x ∈ l, isSpace x = false := fun x hx => hl x (List.mem_cons_of_mem c hx)
    have hnone : ∀ {P : Char → Prop}, ∀ x ∈ ([] : Text), P x := fun x hx => nomatch hx
    by_cases hsep : isComma c = true
    · have hfirst : mountItems (a ++ buf) = tokens isComma buf := by
        have hpiece := mountItems_piece ha hbuf hnone
        rw [append_nil] at hpiece
        rw [hpiece]
        exact (tokens_of_forall fun x hx => (hbuf x hx).2).symm
      have hrest : mountItems ([] ++ ([] ++ l) ++ b) = tokens isComma ([] ++ l) :=
        mountItems_plain hb hnone hnone hl'
      have hcomma : c = ',' := beq_iff_eq.mp hsep
      have happend : a ++ (buf ++ c :: l) ++ b = (a ++ buf) ++ ',' :: ([] ++ ([] ++ l) ++ b) := by
        rw [hcomma]
        simp only [append_assoc, List.cons_append, nil_append]
      rw [happend, mountItems_append, hfirst, hrest, nil_append, tokens_append_cons hsep]
    · have hpush : ∀ x ∈ buf ++ [c], isSpace x = false ∧ isComma x = false := by
        intro x hx
        rcases mem_append.mp hx with hx | hx
        · exact hbuf x hx
        · rw [mem_singleton.mp hx]
          exact ⟨hl c List.mem_cons_self, eq_false_iff.mpr hsep⟩
      have happend : buf ++ c :: l = buf ++ [c] ++ l := by
        rw [append_assoc]
        rfl
      rw [happend]
      exact mountItems_plain hb ha hpush hl'

theorem Plain.items (h : Plain text) : mountItems text = tokens isComma (strip isSpace text) := by
  obtain ⟨a, b, ha, hb, htext⟩ := strip_spec isSpace text
  have hplain : mountItems (a ++ ([] ++ strip isSpace text) ++ b) =
      tokens isComma ([] ++ strip isSpace text) :=
    mountItems_plain hb ha (fun c hc => nomatch hc) h.noSpace
  rw [nil_append, ← htext] at hplain
  exact hplain

theorem joinCommas_cons (f g : Text) (fs : List Text) :
    joinCommas (f :: g :: fs) = f ++ ',' :: joinCommas (g :: fs) := by
  simp [joinCommas, List.intercalate]

theorem mountItems_joinCommas : ∀ fs : List Text, mountItems (joinCommas fs) = fs.flatMap mountItems
  | [] => rfl
  | [f] => by simp [joinCommas, List.intercalate]
  | f :: g :: fs => by
    rw [joinCommas_cons, mountItems_append, mountItems_joinCommas (g :: fs)]
    rfl

theorem flatMap_words {f : Text → List Text} {l : List Text} (h : ∀ o ∈ l, f o = [o]) :
    l.flatMap f = l := by
  induction l with
  | nil => rfl
  | cons o l ih =>
    rw [flatMap_cons, h o List.mem_cons_self, ih fun x hx => h x (List.mem_cons_of_mem o hx)]
    rfl

theorem mem_toDigitsCore {base : Nat} (hbase : 0 < base) {c : Char} :
    ∀ {fuel n : Nat} {acc : List Char}, c ∈ Nat.toDigitsCore base fuel n acc →
      c ∈ acc ∨ ∃ d < base, c = Nat.digitChar d
  | 0, n, acc, h => .inl h
  | fuel + 1, n, acc, h => by
    have hpush : c ∈ Nat.digitChar (n % base) :: acc →
        c ∈ acc ∨ ∃ d < base, c = Nat.digitChar d := by
      intro h
      rcases mem_cons.mp h with rfl | h
      · exact .inr ⟨n % base, Nat.mod_lt n hbase, rfl⟩
      · exact .inl h
    rw [Nat.toDigitsCore] at h
    split at h
    next => exact hpush h
    next =>
      rcases mem_toDigitsCore hbase h with h | h
      · exact hpush h
      · exact .inr h

def isWordChar (c : Char) : Bool := !isComma c && !isSpace c && !isBracket c && c != '"'

theorem quoteState_of_chars : ∀ {o : Text}, o.all isWordChar = true → quoteState false o = false
  | [], _ => rfl
  | c :: o, h => by
    rw [all_cons, and_eq_true] at h
    have hquote : ¬(c == '"') = true := by
      intro hc
      rw [beq_iff_eq.mp hc] at h
      exact absurd h.1 (by decide)
    rw [quoteState, if_neg hquote]
    exact quoteState_of_chars h.2

theorem word_of_chars (hne : o ≠ []) (h : o.all isWordChar = true) :
    Word o ∧ quoteState false o = false := by
  refine ⟨⟨hne, fun c hc => ?_, fun c hc => ?_, fun c hc => ?_⟩, quoteState_of_chars h⟩ <;>
    · have hword := all_eq_true.mp h c hc
      simp only [isWordChar, and_eq_true, not_eq_true'] at hword
      simp only [hword]

theorem isWordChar_hex {n : Nat} {c : Char} (h : c ∈ Nat.toDigits 16 n) : isWordChar c = true := by
  have hdigits : ∀ d < 16, isWordChar (Nat.digitChar d) = true := by decide
  rcases mem_toDigitsCore (by decide) h with h | ⟨d, hd, rfl⟩
  · cases h
  · exact hdigits d hd

theorem word_serial {name : Text} (hne : name ≠ []) (hname : name.all isWordChar = true)
    (n : Nat) : Word (name ++ Nat.toDigits 16 n) ∧
      quoteState false (name ++ Nat.toDigits 16 n) = false := by
  have hhex : (Nat.toDigits 16 n).all isWordChar = true :=
    all_eq_true.mpr fun _ hc => isWordChar_hex hc
  refine word_of_chars (append_ne_nil_of_left_ne_nil hne _) ?_
  rw [all_append, hname, hhex]
  rfl

def ownFlags (pub : Publish) : List Text :=
  readonlyFlags pub ++ toMountFlags pub.serials ++ mockFlags pub

theorem word_readonlyFlags {pub : Publish} (h : o ∈ readonlyFlags pub) :
    Word o ∧ quoteState false o = false := by
  unfold readonlyFlags at h
  split at h
  next =>
    rw [mem_singleton.mp h]
    exact word_of_chars (by decide) (by decide)
  next => cases h

theorem word_toMountFlags {serials : Option (Nat × Nat)} (h : o ∈ toMountFlags serials) :
    Word o ∧ quoteState false o = false := by
  unfold toMountFlags at h
  split at h
  next => cases h
  next cert privkey =>
    rcases mem_pair.mp h with rfl | rfl
    · exact word_serial (by decide) (by decide) cert
    · exact word_serial (by decide) (by decide) privkey

theorem word_mockFlags {pub : Publish} (h : o ∈ mockFlags pub) :
    Word o ∧ quoteState false o = false := by
  have hwords : ∀ o ∈ ["port=2049".toList, "nolock".toList, "vers=3".toList],
      o ≠ [] ∧ o.all isWordChar = true := by decide
  unfold mockFlags at h
  split at h
  next => exact word_of_chars (hwords o h).1 (hwords o h).2
  next => cases h

variable {order : SetOrder} {pub : Publish}

/-- The options of the text, in the order in which they are passed on. -/
def textFlags (order : SetOrder) (pub : Publish) (text : Text) : List Text :=
  if pub.fromCapability then tokens isComma (strip isSpace text)
  else order.list (normalizeMountOptions text)

theorem mem_textFlags : o ∈ textFlags order pub text ↔ o ∈ tokens isComma (strip isSpace text) := by
  unfold textFlags
  split
  next => exact Iff.rfl
  next => rw [order.mem_list, mem_normalize]

theorem Plain.flagsList (h : Plain text) : flagsList order pub text =
      readonlyFlags pub ++ textFlags order pub text ++ toMountFlags pub.serials ++
        mockFlags pub := by
  have hmiddle : (if pub.fromCapability then [text]
      else order.list (normalizeMountOptions text)).flatMap mountItems =
        textFlags order pub text := by
    unfold textFlags
    split
    next =>
      rw [flatMap_singleton]
      exact h.items
    next =>
      refine flatMap_words fun o ho => (h.word ?_).items
      exact mem_normalize.mp ((order.mem_list _ o).mp ho)
  rw [MountOptions.flagsList, publishFlags, mountItems_joinCommas, flatMap_append,
    flatMap_append, hmiddle, flatMap_words fun o ho => (word_readonlyFlags ho).1.items,
    flatMap_words fun o ho => (word_toMountFlags ho).1.items]

theorem Plain.word_of_mem (h : Plain text) (ho : o ∈ MountOptions.flagsList order pub text) :
    Word o := by
  rw [h.flagsList] at ho
  rcases mem_append.mp ho with ho | ho
  · rcases mem_append.mp ho with ho | ho
    · rcases mem_append.mp ho with ho | ho
      · exact (word_readonlyFlags ho).1
      · exact h.word (mem_textFlags.mp ho)
    · exact (word_toMountFlags ho).1
  · exact (word_mockFlags ho).1

theorem formatFlag_word (h : Word o) : formatFlag o = o := by
  have hcomma : o.contains ',' = false := by
    rw [eq_false_iff]
    intro hc
    exact absurd (h.noComma ',' (contains_iff_mem.mp hc)) (by decide)
  rw [formatFlag, hcomma]
  rfl

theorem Plain.optionString (h : Plain text) :
    optionString order pub text = joinCommas (MountOptions.flagsList order pub text) := by
  have hsplit : splitFlagList (MountOptions.flagsList order pub text) =
      MountOptions.flagsList order pub text :=
    flatMap_words fun o ho => (h.word_of_mem ho).split
  have hformat : (MountOptions.flagsList order pub text).map formatFlag =
      MountOptions.flagsList order pub text := by
    rw [map_congr_left fun o ho => formatFlag_word (h.word_of_mem ho), map_id']
  rw [MountOptions.optionString, hsplit, joinMountFlags, hformat]

variable {fs : List Text}

theorem mem_joinCommas {c : Char} : ∀ {fs : List Text}, c ∈ joinCommas fs → c = ',' ∨
    ∃ f ∈ fs, c ∈ f
  | [], h => nomatch h
  | [f], h => by
    have hjoin : joinCommas [f] = f := by simp [joinCommas, List.intercalate]
    rw [hjoin] at h
    exact .inr ⟨f, mem_singleton_self f, h⟩
  | f :: g :: fs, h => by
    rw [joinCommas_cons] at h
    rcases mem_append.mp h with h | h
    · exact .inr ⟨f, List.mem_cons_self, h⟩
    · rcases mem_cons.mp h with h | h
      · exact .inl h
      · rcases mem_joinCommas h with h | ⟨x, hx, hcx⟩
        · exact .inl h
        · exact .inr ⟨x, List.mem_cons_of_mem f hx, hcx⟩

/-- Words that were joined are read back if no comma got into quotes, and only then. -/
theorem sameOptions_joinCommas_iff (h : ∀ f ∈ fs, Word f) :
    SameOptions (splitMountFlags (joinCommas fs)) fs ↔
      quotedComma false (joinCommas fs) = false := by
  have hspace : ∀ c ∈ joinCommas fs, isSpace c = false := by
    intro c hc
    rcases mem_joinCommas hc with rfl | ⟨f, hf, hcf⟩
    · decide
    · exact (h f hf).noSpace c hcf
  have hbracket : ∀ c ∈ joinCommas fs, isBracket c = false := by
    intro c hc
    rcases mem_joinCommas hc with rfl | ⟨f, hf, hcf⟩
    · decide
    · exact (h f hf).noBracket c hcf
  constructor
  · intro hsame
    by_contra hq
    rw [not_eq_false] at hq
    obtain ⟨w, hw, hcw⟩ := exists_mem_split (filter_brackets hbracket) hq
    exact absurd ((h w ((hsame w).mp hw)).noComma ',' hcw) (by decide)
  · intro hq
    have hplain : Plain (joinCommas fs) := by
      refine ⟨?_, hbracket, hq⟩
      rw [strip_eq_self hspace]
      exact hspace
    have hread : splitMountFlags (joinCommas fs) = fs := by
      rw [hplain.split, strip_eq_self hspace]
      refine tokens_intercalate fun f hf => ⟨(h f hf).ne_nil, fun hc => ?_⟩
      exact absurd ((h f hf).noComma ',' hc) (by decide)
    rw [hread]
    exact fun o => Iff.rfl

theorem quotedComma_append_comma {r : Text} :
    ∀ {f : Text} {q : Bool}, (∀ c ∈ f, isComma c = false) →
      quotedComma q (f ++ ',' :: r) = (quoteState q f || quotedComma (quoteState q f) r)
  | [], q, _ => by
    show ((q && isComma ',') || quotedComma (if (',' == '"') = true then !q else q) r) = _
    have hcomma : isComma ',' = true := rfl
    have hquote : ¬(',' == '"') = true := by decide
    rw [hcomma, Bool.and_true, if_neg hquote]
    rfl
  | c :: f, q, h => by
    rw [List.cons_append, quotedComma, quoteState, h c List.mem_cons_self, Bool.and_false,
      Bool.false_or]
    exact quotedComma_append_comma fun x hx => h x (List.mem_cons_of_mem c hx)

/-- No comma gets into quotes if only the last word leaves a quote open. -/
theorem quotedComma_joinCommas_iff : ∀ {fs : List Text}, (∀ f ∈ fs, Word f) →
      (quotedComma false (joinCommas fs) = false ↔ ∀ f ∈ fs.dropLast, quoteState false f = false)
  | [], _ => by simp [joinCommas, quotedComma]
  | [f], h => by
    have hjoin : joinCommas [f] = f := by simp [joinCommas, List.intercalate]
    rw [hjoin]
    simp [quotedComma_of_forall (h f (mem_singleton_self f)).noComma]
  | f :: g :: fs, h => by
    have hwords : ∀ x ∈ g :: fs, Word x := fun x hx => h x (List.mem_cons_of_mem f hx)
    have ih := quotedComma_joinCommas_iff hwords
    have hf := quotedComma_append_comma (q := false) (r := joinCommas (g :: fs))
      (h f List.mem_cons_self).noComma
    rw [joinCommas_cons, hf, or_eq_false_iff, dropLast_cons_cons, forall_mem_cons]
    constructor
    · rintro ⟨hopen, hrest⟩
      rw [hopen] at hrest
      exact ⟨hopen, ih.mp hrest⟩
    · rintro ⟨hopen, hrest⟩
      rw [hopen]
      exact ⟨rfl, ih.mpr hrest⟩

/-- Of lists between which `t` stands, `t` alone has elements without `p`: all but the last of
the whole have `p` if an element of `t` without it is the last one. -/
theorem forall_dropLast_iff {p : Text → Prop} {a t b : List Text} (ha : ∀ o ∈ a, p o)
    (hb : ∀ o ∈ b, p o) :
    (∀ o ∈ (a ++ t ++ b).dropLast, p o) ↔ ∀ o ∈ t, ¬p o → b = [] ∧ o ∉ t.dropLast := by
  by_cases hnil : b = []
  · subst hnil
    by_cases ht : t = []
    · subst ht
      rw [append_nil, append_nil]
      exact ⟨fun _ o ho => (nomatch ho), fun _ o ho => ha o (dropLast_subset a ho)⟩
    · rw [append_nil, dropLast_append_of_ne_nil ht]
      refine ⟨fun h o _ hopen => ⟨rfl, fun ho => hopen (h o (mem_append_right a ho))⟩, ?_⟩
      intro h o ho
      rcases mem_append.mp ho with ho | ho
      · exact ha o ho
      · by_contra hopen
        exact (h o (dropLast_subset t ho) hopen).2 ho
  · rw [dropLast_append_of_ne_nil hnil]
    refine ⟨fun h o ho hopen => absurd (h o ?_) hopen, ?_⟩
    · exact mem_append_left _ (mem_append_right a ho)
    · intro h o ho
      rcases mem_append.mp ho with ho | ho
      · rcases mem_append.mp ho with ho | ho
        · exact ha o ho
        · by_contra hopen
          exact hnil (h o ho hopen).1
      · exact hb o (dropLast_subset b ho)

theorem Plain.closed_iff (h : Plain text) :
    (∀ f ∈ (MountOptions.flagsList order pub text).dropLast, quoteState false f = false) ↔
      ∀ o ∈ tokens isComma (strip isSpace text), quoteState false o = true →
        toMountFlags pub.serials ++ mockFlags pub = [] ∧
          o ∉ (textFlags order pub text).dropLast := by
  have hown : ∀ o ∈ toMountFlags pub.serials ++ mockFlags pub, quoteState false o = false := by
    intro o ho
    rcases mem_append.mp ho with ho | ho
    · exact (word_toMountFlags ho).2
    · exact (word_mockFlags ho).2
  rw [h.flagsList, append_assoc, forall_dropLast_iff (fun o ho => (word_readonlyFlags ho).2) hown]
  simp only [not_eq_false, mem_textFlags]

/-- The splitters agree, and the string that is passed to `mount` has the options of the text and
of the driver, if and only if the text is plain and an option of the text that leaves a quote open
is passed last: the driver appends nothing and the order has nothing after it. -/
theorem options_agree_iff (order : SetOrder) (pub : Publish) (text : Text) :
    (SameOptions (splitMountFlags text) (normalizeMountOptions text) ∧
      SameOptions (splitMountFlags text) (ephemeralOptions text) ∧
      SameOptions (splitMountFlags (optionString order pub text))
        (ownFlags pub ++ splitMountFlags text)) ↔
    Plain text ∧ ∀ o ∈ tokens isComma (strip isSpace text), quoteState false o = true →
      toMountFlags pub.serials ++ mockFlags pub = [] ∧
        o ∉ (textFlags order pub text).dropLast := by
  -- for a plain text, the list that is passed on has these options
  have hpassed : Plain text → SameOptions (MountOptions.flagsList order pub text)
        (ownFlags pub ++ splitMountFlags text) := by
    intro h o
    rw [h.flagsList, h.split, ownFlags]
    simp only [mem_append, mem_textFlags]
    tauto
  have hread : Plain text →
      (SameOptions (splitMountFlags (MountOptions.optionString order pub text))
          (ownFlags pub ++ splitMountFlags text) ↔
        ∀ o ∈ tokens isComma (strip isSpace text), quoteState false o = true →
          toMountFlags pub.serials ++ mockFlags pub = [] ∧
            o ∉ (textFlags order pub text).dropLast) := by
    intro h
    have hwords : ∀ f ∈ MountOptions.flagsList order pub text, Word f := fun f => h.word_of_mem
    rw [h.optionString, ← h.closed_iff, ← quotedComma_joinCommas_iff hwords,
      ← sameOptions_joinCommas_iff hwords]
    exact forall_congr' fun o => by rw [hpassed h o]
  constructor
  · rintro ⟨hnorm, heph, hmount⟩
    have h : Plain text := agree_iff.mp ⟨hnorm, heph⟩
    exact ⟨h, (hread h).mp hmount⟩
  · rintro ⟨h, hopen⟩
    obtain ⟨hnorm, heph⟩ := agree_iff.mpr h
    exact ⟨hnorm, heph, (hread h).mpr hopen⟩

def contextText : Text := "context=\"s0:c26,c10\",nouuid".toList

def backwards : SetOrder := ⟨List.reverse, fun _ _ => mem_reverse⟩

def fromAttribute : Publish := ⟨false, false, none, false⟩

/-- The value has a comma: it is one option for `split_mount_flags` and two for the others, and in
the string for `mount` its halves have changed places. -/
theorem quoted_value_torn :
    ¬SameOptions (splitMountFlags contextText) (normalizeMountOptions contextText) ∧
      ¬SameOptions (splitMountFlags contextText) (ephemeralOptions contextText) ∧
      optionString backwards fromAttribute contextText = "nouuid,c10\",context=\"s0:c26".toList ∧
      ¬SameOptions (splitMountFlags (optionString backwards fromAttribute contextText))
        (ownFlags fromAttribute ++ splitMountFlags contextText) := by
  have hvalue : "context=\"s0:c26,c10\"".toList ∈ splitMountFlags contextText := by decide
  refine ⟨fun h => ?_, fun h => ?_, by decide, fun h => ?_⟩
  · have hnot : "context=\"s0:c26,c10\"".toList ∉ normalizeMountOptions contextText := by decide
    exact hnot ((h _).mp hvalue)
  · have hnot : "context=\"s0:c26,c10\"".toList ∉ ephemeralOptions contextText := by decide
    exact hnot ((h _).mp hvalue)
  · have hnot : "context=\"s0:c26,c10\"".toList ∉
        splitMountFlags (optionString backwards fromAttribute contextText) := by decide
    exact hnot ((h _).mpr (mem_append_right _ hvalue))

end VastCsi.Csi.MountOptions
