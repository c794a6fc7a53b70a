import VastCsi.Lib.Tokens
import Mathlib.Data.List.Dedup

/-!
# The mount options of a text

Three functions take the options out of a text. `split_mount_flags` drops brackets and splits at
commas and blanks outside quotes, `normalize_mount_options` trims the text and splits at every
comma, and ephemeral volumes split at commas and blanks, quoted or not. On the way to an NFS mount
the options are joined, split at commas again, taken apart by `split_mount_flags` and joined once
more.
-/

namespace VastCsi.Csi.MountOptions

open Lib.Tokens List Bool

abbrev Text := List Char

def isSpace (c : Char) : Bool :=
  let n := c.toNat
  (0x09 ≤ n && n ≤ 0x0d) || (0x1c ≤ n && n ≤ 0x20) || n == 0x85 || n == 0xa0 || n == 0x1680 ||
    (0x2000 ≤ n && n ≤ 0x200a) || n == 0x2028 || n == 0x2029 || n == 0x202f || n == 0x205f ||
    n == 0x3000

def isComma (c : Char) : Bool := c == ','

def isBracket (c : Char) : Bool := c == '[' || c == ']'

/-- The token that was collected, if anything is left of it. -/
def emit (buf : Text) : List Text := if (strip isSpace buf).isEmpty then [] else [strip isSpace buf]

def splitLoop : Text → Bool → Text → List Text
  | [], _, buf => emit buf
  | c :: cs, inQuotes, buf =>
    if c == '"' then splitLoop cs (!inQuotes) (buf ++ [c])
    else if !inQuotes && (isComma c || isSpace c) then emit buf ++ splitLoop cs inQuotes []
    else splitLoop cs inQuotes (buf ++ [c])

def splitMountFlags (text : Text) : List Text := splitLoop (text.filter (!isBracket ·)) false []

def splitFlagList (items : List Text) : List Text := items.flatMap splitMountFlags

structure SetOrder where
  list : List Text → List Text
  mem_list : ∀ l o, o ∈ list l ↔ o ∈ l

/-- `normalize_mount_options`, up to the order. -/
def normalizeMountOptions (text : Text) : List Text := (tokens isComma (strip isSpace text)).dedup

def commaToSpace (c : Char) : Char := if c == ',' then ' ' else c

/-- The options of an ephemeral volume, from `_get_publish_context_for_ev_volumes`. -/
def ephemeralOptions (text : Text) : List Text :=
  ((tokens isSpace (text.map commaToSpace)).map (strip isSpace)).filter (!·.isEmpty)

def joinCommas (flags : List Text) : Text := [','].intercalate flags

def formatFlag (flag : Text) : Text :=
  if flag.contains ',' && flag.contains '=' && !flag.contains '"' then
    flag.takeWhile (· != '=') ++ "=\"".toList ++ (flag.dropWhile (· != '=')).tail ++ ['"']
  else flag

def joinMountFlags (flags : List Text) : Text := joinCommas (flags.map formatFlag)

/-- What else a mount depends on. `fromCapability` tells that the text is the mount flag of the
volume capability; `serials` are those of the mTLS certificate and key, if credentials were
loaded. -/
structure Publish where
  readonly : Bool
  fromCapability : Bool
  serials : Option (Nat × Nat)
  mockVast : Bool
  deriving DecidableEq, Repr

def toMountFlags : Option (Nat × Nat) → List Text
  | none => []
  | some (cert, privkey) =>
    ["cert_serial=0x".toList ++ Nat.toDigits 16 cert,
     "privkey_serial=0x".toList ++ Nat.toDigits 16 privkey]

def readonlyFlags (pub : Publish) : List Text := if pub.readonly then ["ro".toList] else []

def mockFlags (pub : Publish) : List Text :=
  if pub.mockVast then ["port=2049".toList, "nolock".toList, "vers=3".toList] else []

def publishFlags (order : SetOrder) (pub : Publish) (text : Text) : List Text :=
  readonlyFlags pub ++
    (if pub.fromCapability then [text] else order.list (normalizeMountOptions text)) ++
    toMountFlags pub.serials

/-- The items of a string, in `mount` of the NFS plugin. -/
def mountItems (flags : Text) : List Text :=
  ((flags.splitOnP isComma).map (strip isSpace)).filter (!·.isEmpty)

/-- The list that this `mount` passes on. -/
def flagsList (order : SetOrder) (pub : Publish) (text : Text) : List Text :=
  mountItems (joinCommas (publishFlags order pub text)) ++ mockFlags pub

/-- What follows `-o`; where it is empty there is no `-o`. -/
def optionString (order : SetOrder) (pub : Publish) (text : Text) : Text :=
  joinMountFlags (splitFlagList (flagsList order pub text))

/-- The quotes after a text; `false` is outside. -/
def quoteState : Bool → Text → Bool
  | q, [] => q
  | q, c :: cs => quoteState (if c == '"' then !q else q) cs

def quotedComma : Bool → Text → Bool
  | _, [] => false
  | q, c :: cs => (q && isComma c) || quotedComma (if c == '"' then !q else q) cs

/-- A text that every splitter takes apart at its commas. -/
structure Plain (text : Text) : Prop where
  noSpace : ∀ c ∈ strip isSpace text, isSpace c = false
  noBracket : ∀ c ∈ text, isBracket c = false
  noQuotedComma : quotedComma false text = false

structure Word (o : Text) : Prop where
  ne_nil : o ≠ []
  noComma : ∀ c ∈ o, isComma c = false
  noSpace : ∀ c ∈ o, isSpace c = false
  noBracket : ∀ c ∈ o, isBracket c = false

/-- The same options, in whatever order. -/
def SameOptions (a b : List Text) : Prop := ∀ o, o ∈ a ↔ o ∈ b

variable {c : Char} {buf : Text}

theorem isSpace_of_isComma (h : isComma c = true) : isSpace c = false := by
  rw [beq_iff_eq.mp h]
  decide

/-- Quotes, commas and blanks are different symbols. -/
theorem not_quote_of_isSpace (h : isSpace c = true) : ¬(c == '"') = true := by
  intro hquote
  rw [beq_iff_eq.mp hquote] at h
  exact absurd h (by decide)

theorem isComma_of_quote (h : (c == '"') = true) : isComma c = false := by
  rw [beq_iff_eq.mp h]
  rfl

theorem space_comma_of_isBracket (h : isBracket c = true) :
    isSpace c = false ∧ isComma c = false := by
  rcases or_eq_true_iff.mp h with h | h
  · rw [beq_iff_eq.mp h]
    decide
  · rw [beq_iff_eq.mp h]
    decide

theorem mem_emit {tok : Text} (h : tok ∈ emit buf) : tok = strip isSpace buf := by
  unfold emit at h
  split at h
  next => cases h
  next => exact mem_singleton.mp h

/-- What has a comma is not trimmed away. -/
theorem exists_mem_emit (h : ',' ∈ buf) : ∃ tok ∈ emit buf, ',' ∈ tok := by
  have hstrip : ',' ∈ strip isSpace buf := mem_strip h (by decide)
  have hne : (strip isSpace buf).isEmpty = false := by
    cases hs : strip isSpace buf with
    | nil =>
      rw [hs] at hstrip
      cases hstrip
    | cons c cs => rfl
  refine ⟨strip isSpace buf, ?_, hstrip⟩
  rw [emit, hne]
  exact mem_singleton_self _

/-- The symbols of the tokens are those of the text. -/
theorem mem_splitLoop {tok : Text} : ∀ {l : Text} {q : Bool} {buf : Text}, tok ∈ splitLoop l q buf →
      ∀ c ∈ tok, c ∈ buf ∨ c ∈ l
  | [], _, buf, h, c, hc => by
    rw [mem_emit h] at hc
    exact .inl (mem_of_mem_strip hc)
  | x :: l, q, buf, h, c, hc => by
    have hpush : ∀ {q : Bool}, tok ∈ splitLoop l q (buf ++ [x]) → c ∈ buf ∨ c ∈ x :: l := by
      intro q h
      rcases mem_splitLoop h c hc with hc | hc
      · rcases mem_append.mp hc with hc | hc
        · exact .inl hc
        · exact .inr (mem_singleton.mp hc ▸ List.mem_cons_self)
      · exact .inr (List.mem_cons_of_mem x hc)
    rw [splitLoop] at h
    split at h
    next => exact hpush h
    next =>
      split at h
      next =>
        rcases mem_append.mp h with h | h
        · rw [mem_emit h] at hc
          exact .inl (mem_of_mem_strip hc)
        · rcases mem_splitLoop h c hc with hc | hc
          · cases hc
          · exact .inr (List.mem_cons_of_mem x hc)
      next => exact hpush h

/-- A comma that was collected stays in its token. -/
theorem exists_mem_splitLoop_of_buf :
    ∀ {l : Text} {q : Bool} {buf : Text}, ',' ∈ buf → ∃ tok ∈ splitLoop l q buf, ',' ∈ tok
  | [], _, _, h => exists_mem_emit h
  | c :: l, q, buf, h => by
    rw [splitLoop]
    split
    next => exact exists_mem_splitLoop_of_buf (mem_append_left _ h)
    next =>
      split
      next =>
        obtain ⟨tok, htok, hc⟩ := exists_mem_emit h
        exact ⟨tok, mem_append_left _ htok, hc⟩
      next => exact exists_mem_splitLoop_of_buf (mem_append_left _ h)

/-- A comma in quotes is collected. -/
theorem exists_mem_splitLoop : ∀ {l : Text} {q : Bool} {buf : Text}, quotedComma q l = true →
      ∃ tok ∈ splitLoop l q buf, ',' ∈ tok
  | [], _, _, h => nomatch h
  | c :: l, q, buf, h => by
    rw [quotedComma, or_eq_true] at h
    rw [splitLoop]
    split
    next hquote =>
      rw [isComma_of_quote hquote, Bool.and_false, if_pos hquote] at h
      exact exists_mem_splitLoop (h.resolve_left false_ne_true)
    next hquote =>
      rw [if_neg hquote] at h
      rcases h with h | h
      · obtain ⟨hq, hc⟩ := and_eq_true_iff.mp h
        rw [hq]
        refine exists_mem_splitLoop_of_buf (mem_append_right _ ?_)
        rw [beq_iff_eq.mp hc]
        exact mem_singleton_self _
      · split
        next =>
          obtain ⟨tok, htok, hc⟩ := exists_mem_splitLoop h
          exact ⟨tok, mem_append_right _ htok, hc⟩
        next => exact exists_mem_splitLoop h

theorem emit_of_forall (h : ∀ c ∈ buf, isSpace c = false) :
    emit buf = if buf.isEmpty then [] else [buf] := by
  rw [emit, strip_eq_self h]

/-- Blanks at the start. -/
theorem splitLoop_blanks {l : Text} :
    ∀ {a : Text}, (∀ c ∈ a, isSpace c = true) → splitLoop (a ++ l) false [] = splitLoop l false []
  | [], _ => rfl
  | c :: a, h => by
    have hc : isSpace c = true := h c List.mem_cons_self
    rw [List.cons_append, splitLoop, if_neg (not_quote_of_isSpace hc), hc, Bool.or_true]
    exact splitLoop_blanks fun x hx => h x (List.mem_cons_of_mem c hx)

/-- Blanks at the end, in quotes or not. -/
theorem splitLoop_end (hbuf : ∀ c ∈ buf, isSpace c = false) :
    ∀ {b : Text} {q : Bool} {pad : Text}, (∀ c ∈ pad, isSpace c = true) →
      (∀ c ∈ b, isSpace c = true) →
      splitLoop b q (buf ++ pad) = if buf.isEmpty then [] else [buf]
  | b, q, pad, hpad, hb => by
    have hemit : emit (buf ++ pad) = if buf.isEmpty then [] else [buf] := by
      have hstrip : strip isSpace ([] ++ buf ++ pad) = buf :=
        strip_between (fun c hc => nomatch hc) hbuf hpad
      rw [List.nil_append] at hstrip
      rw [emit, hstrip]
    cases b with
    | nil => exact hemit
    | cons c b =>
      have hc : isSpace c = true := hb c List.mem_cons_self
      have hb' : ∀ x ∈ b, isSpace x = true := fun x hx => hb x (List.mem_cons_of_mem c hx)
      rw [splitLoop, if_neg (not_quote_of_isSpace hc), hc, Bool.or_true]
      cases q with
      | false =>
        have hrest : splitLoop b false [] = [] := by
          have hblanks := splitLoop_blanks (l := []) hb'
          rwa [List.append_nil] at hblanks
        show emit (buf ++ pad) ++ splitLoop b false [] = _
        rw [hemit, hrest, List.append_nil]
      | true =>
        show splitLoop b true (buf ++ pad ++ [c]) = _
        rw [append_assoc]
        refine splitLoop_end hbuf (fun x hx => ?_) hb'
        rcases mem_append.mp hx with hx | hx
        · exact hpad x hx
        · exact mem_singleton.mp hx ▸ hc

/-- Without blanks inside and without commas in quotes, the tokens are the pieces between
commas. -/
theorem splitLoop_plain {b : Text} (hb : ∀ c ∈ b, isSpace c = true) :
    ∀ {l : Text} {q : Bool} {buf : Text}, (∀ c ∈ l, isSpace c = false) →
      quotedComma q l = false → (∀ c ∈ buf, isSpace c = false ∧ isComma c = false) →
      splitLoop (l ++ b) q buf = tokens isComma (buf ++ l)
  | [], q, buf, _, _, hbuf => by
    have hpad : ∀ c ∈ ([] : Text), isSpace c = true := fun c hc => nomatch hc
    have hend := splitLoop_end (q := q) (fun c hc => (hbuf c hc).1) hpad hb
    rw [List.append_nil] at hend
    rw [List.nil_append, List.append_nil, hend]
    exact (tokens_of_forall fun c hc => (hbuf c hc).2).symm
  | c :: l, q, buf, hl, hq, hbuf => by
    have hl' : ∀ x ∈ l, isSpace x = false := fun x hx => hl x (List.mem_cons_of_mem c hx)
    have hc : isSpace c = false := hl c List.mem_cons_self
    obtain ⟨hcomma, hrest⟩ := Bool.or_eq_false_iff.mp hq
    have hpush : isComma c = false → ∀ x ∈ buf ++ [c], isSpace x = false ∧ isComma x = false := by
      intro hnot x hx
      rcases List.mem_append.mp hx with hx | hx
      · exact hbuf x hx
      · exact List.mem_singleton.mp hx ▸ ⟨hc, hnot⟩
    have happend : buf ++ c :: l = buf ++ [c] ++ l := by
      rw [List.append_assoc]
      rfl
    rw [List.cons_append, splitLoop, hc, Bool.or_false]
    split
    next hquote =>
      rw [if_pos hquote] at hrest
      rw [splitLoop_plain hb hl' hrest (hpush (isComma_of_quote hquote)), happend]
    next hquote =>
      rw [if_neg hquote] at hrest
      by_cases hsep : isComma c = true
      · have hout : q = false := by
          rw [hsep, Bool.and_true] at hcomma
          exact hcomma
        subst hout
        have hempty : ∀ x ∈ ([] : Text), isSpace x = false ∧ isComma x = false :=
          fun x hx => nomatch hx
        rw [hsep]
        show emit buf ++ splitLoop (l ++ b) false [] = _
        rw [splitLoop_plain hb hl' hrest hempty, List.nil_append, tokens_append_cons hsep,
          tokens_of_forall fun x hx => (hbuf x hx).2, emit_of_forall fun x hx => (hbuf x hx).1]
      · have hnot := Bool.eq_false_iff.mpr hsep
        rw [hnot, Bool.and_false, if_neg Bool.false_ne_true,
          splitLoop_plain hb hl' hrest (hpush hnot), happend]

variable {text : Text}

theorem quotedComma_left {b : Text} :
    ∀ {a : Text} {q : Bool}, quotedComma q (a ++ b) = false → quotedComma q a = false
  | [], _, _ => rfl
  | c :: a, q, h => by
    rw [List.cons_append, quotedComma, or_eq_false_iff] at h
    rw [quotedComma, or_eq_false_iff]
    exact ⟨h.1, quotedComma_left h.2⟩

theorem quotedComma_blanks {l : Text} : ∀ {a : Text}, (∀ c ∈ a, isSpace c = true) →
      quotedComma false (a ++ l) = quotedComma false l
  | [], _ => rfl
  | c :: a, h => by
    have hquote := not_quote_of_isSpace (h c List.mem_cons_self)
    rw [List.cons_append, quotedComma, Bool.false_and, Bool.false_or, if_neg hquote]
    exact quotedComma_blanks fun x hx => h x (List.mem_cons_of_mem c hx)

theorem filter_brackets (h : ∀ c ∈ text, isBracket c = false) :
    text.filter (!isBracket ·) = text := by
  rw [filter_eq_self]
  intro c hc
  rw [h c hc]
  rfl

theorem Plain.split (h : Plain text) :
    splitMountFlags text = tokens isComma (strip isSpace text) := by
  obtain ⟨a, b, ha, hb, htext⟩ := strip_spec isSpace text
  have hquoted : quotedComma false (strip isSpace text) = false := by
    have hq := h.noQuotedComma
    rw [htext, append_assoc, quotedComma_blanks ha] at hq
    exact quotedComma_left hq
  rw [splitMountFlags, filter_brackets h.noBracket]
  calc splitLoop text false [] = splitLoop (a ++ (strip isSpace text ++ b)) false [] := by
        rw [← append_assoc, ← htext]
    _ = splitLoop (strip isSpace text ++ b) false [] := splitLoop_blanks ha
    _ = tokens isComma (strip isSpace text) :=
        splitLoop_plain hb h.noSpace hquoted fun c hc => nomatch hc

/-- Ephemeral volumes split at commas and blanks. -/
theorem ephemeral_eq (text : Text) :
    ephemeralOptions text = tokens (fun c => isComma c || isSpace c) text := by
  have hsep : ∀ c ∈ text, isSpace (commaToSpace c) = (isComma c || isSpace c) := by
    intro c _
    unfold commaToSpace isComma
    split
    next hc =>
      rw [hc]
      rfl
    next hc => rw [Bool.eq_false_iff.mpr hc, Bool.false_or]
  have hsame : ∀ c ∈ text, (isComma c || isSpace c) = false → commaToSpace c = c := by
    intro c _ hc
    have hcomma : isComma c = false := (or_eq_false_iff.mp hc).1
    exact if_neg (Bool.eq_false_iff.mp hcomma)
  rw [ephemeralOptions, tokens_map hsep hsame]
  have hstrip : ∀ w ∈ tokens (fun c => isComma c || isSpace c) text, strip isSpace w = w := by
    intro w hw
    exact strip_eq_self fun c hc => (or_eq_false_iff.mp ((mem_tokens hw).2 c hc).2).2
  rw [map_congr_left hstrip, map_id', filter_eq_self]
  intro w hw
  have hne := (mem_tokens hw).1
  simpa using hne

theorem Plain.ephemeral (h : Plain text) :
    ephemeralOptions text = tokens isComma (strip isSpace text) := by
  obtain ⟨a, b, ha, hb, htext⟩ := strip_spec isSpace text
  have hends : ∀ {l : Text}, (∀ c ∈ l, isSpace c = true) →
      ∀ c ∈ l, (isComma c || isSpace c) = true := by
    intro l hl c hc
    rw [hl c hc, Bool.or_true]
  have hsame : ∀ c ∈ strip isSpace text, (isComma c || isSpace c) = isComma c := by
    intro c hc
    rw [h.noSpace c hc, Bool.or_false]
  rw [ephemeral_eq]
  calc tokens (fun c => isComma c || isSpace c) text
      = tokens (fun c => isComma c || isSpace c) (a ++ strip isSpace text ++ b) := by rw [← htext]
    _ = tokens (fun c => isComma c || isSpace c) (strip isSpace text) :=
        tokens_between _ (hends ha) (hends hb)
    _ = tokens isComma (strip isSpace text) := tokens_congr hsame

theorem mem_normalize {o : Text} :
    o ∈ normalizeMountOptions text ↔ o ∈ tokens isComma (strip isSpace text) :=
  mem_dedup

/-- An option with a comma. -/
theorem exists_mem_split (hfilter : text.filter (!isBracket ·) = text)
    (hq : quotedComma false text = true) : ∃ w ∈ splitMountFlags text, ',' ∈ w := by
  rw [splitMountFlags, hfilter]
  exact exists_mem_splitLoop hq

/-- The three splitters agree on the plain texts and on no others. -/
theorem agree_iff : (SameOptions (splitMountFlags text) (normalizeMountOptions text) ∧
      SameOptions (splitMountFlags text) (ephemeralOptions text)) ↔ Plain text := by
  constructor
  · rintro ⟨hnorm, heph⟩
    have hpiece : ∀ c ∈ strip isSpace text, isComma c = false →
        ∃ w ∈ splitMountFlags text, c ∈ w := by
      intro c hc hcomma
      obtain ⟨w, hw, hcw⟩ := exists_mem_tokens hcomma hc
      exact ⟨w, (hnorm w).mpr (mem_normalize.mpr hw), hcw⟩
    -- options of ephemeral volumes have no blanks
    have hspace : ∀ c ∈ strip isSpace text, isSpace c = false := by
      intro c hc
      by_cases hcomma : isComma c = true
      · exact isSpace_of_isComma hcomma
      · obtain ⟨w, hw, hcw⟩ := hpiece c hc (Bool.eq_false_iff.mpr hcomma)
        have hw' := (heph w).mp hw
        rw [ephemeral_eq] at hw'
        exact (or_eq_false_iff.mp ((mem_tokens hw').2 c hcw).2).2
    -- those of `split_mount_flags` have no brackets
    have hbracket : ∀ c ∈ text, isBracket c = false := by
      intro c hc
      by_contra hbr
      rw [not_eq_false] at hbr
      obtain ⟨hsp, hcomma⟩ := space_comma_of_isBracket hbr
      obtain ⟨w, hw, hcw⟩ := hpiece c (mem_strip hc hsp) hcomma
      rcases mem_splitLoop hw c hcw with hnil | hmem
      · cases hnil
      · have hkept := (mem_filter.mp hmem).2
        rw [hbr] at hkept
        cases hkept
    refine ⟨hspace, hbracket, ?_⟩
    -- and the pieces between commas have no commas
    by_contra hq
    rw [not_eq_false] at hq
    obtain ⟨w, hw, hcw⟩ := exists_mem_split (filter_brackets hbracket) hq
    have hpart := (mem_tokens (mem_normalize.mp ((hnorm w).mp hw))).2 ',' hcw
    exact absurd hpart.2 (by decide)
  · intro h
    refine ⟨fun o => ?_, fun o => ?_⟩
    · rw [h.split, mem_normalize]
    · rw [h.split, h.ephemeral]

end VastCsi.Csi.MountOptions
