import Mathlib.Data.List.Nodup
import Mathlib.Data.List.TakeWhile

/-!
# URLs and query strings

`urlparse` and `parse_qsl` of Python, on characters, as far as the path and the query go. The
checks on the host (brackets, look-alike characters) are left out: they pass for a host.
Percent-decoding is a parameter.
-/

namespace VastCsi.Lib.Urls

open List

/-- The text before the first `c` and the text after it. -/
def cut (c : Char) (l : List Char) : List Char × List Char :=
  (l.takeWhile (· != c), (l.dropWhile (· != c)).drop 1)

theorem takeWhile_bne_append {c : Char} {a : List Char} (h : c ∉ a) (b : List Char) :
    (a ++ c :: b).takeWhile (· != c) = a := by
  rw [takeWhile_append_of_pos]
  · simp
  · intro x hx
    rw [bne_iff_ne]
    rintro rfl
    exact h hx

theorem dropWhile_bne_append {c : Char} {a : List Char} (h : c ∉ a) (b : List Char) :
    (a ++ c :: b).dropWhile (· != c) = c :: b := by
  rw [dropWhile_append_of_pos]
  · simp
  · intro x hx
    rw [bne_iff_ne]
    rintro rfl
    exact h hx

theorem cut_append {c : Char} {a : List Char} (h : c ∉ a) (b : List Char) :
    cut c (a ++ c :: b) = (a, b) := by
  rw [cut, takeWhile_bne_append h, dropWhile_bne_append h]
  rfl

def isSchemeChar (c : Char) : Bool := c.isAlphanum || c == '+' || c == '-' || c == '.'

/-- Characters that `urlsplit` removes wherever they stand. -/
def isRemoved (c : Char) : Bool := c == '\t' || c == '\r' || c == '\n'

/-- Does a character end the host? -/
def endsHost (c : Char) : Bool := c == '/' || c == '?' || c == '#'

def splitScheme (url : List Char) : List Char × List Char :=
  if url.contains ':' && (url.head?.any Char.isAlpha && (cut ':' url).1.all isSchemeChar) then
    ((cut ':' url).1.map Char.toLower, (cut ':' url).2)
  else ([], url)

def dropHost : List Char → List Char
  | '/' :: '/' :: rest => rest.dropWhile (!endsHost ·)
  | url => url

def usesParams : List (List Char) :=
  ["", "ftp", "hdl", "prospero", "http", "https", "shttp", "rtsp", "rtsps", "rtspu", "sip", "sips",
    "mms", "sftp", "tel"].map String.toList

/-- `_splitparams`: the parameters are those of the last segment. -/
def dropParams (path : List Char) : List Char :=
  let last := (path.reverse.takeWhile (· != '/')).reverse
  path.take (path.length - last.length) ++ last.takeWhile (· != ';')

structure Parsed where
  path : List Char
  query : List Char
  deriving DecidableEq, Repr

def ofPathQuery (scheme : List Char) (pathQuery : List Char × List Char) : Parsed where
  path := if scheme ∈ usesParams then dropParams pathQuery.1 else pathQuery.1
  query := pathQuery.2

def ofSchemeRest (schemeRest : List Char × List Char) : Parsed :=
  ofPathQuery schemeRest.1 (cut '?' ((dropHost schemeRest.2).takeWhile (· != '#')))

def urlparse (url : List Char) : Parsed :=
  ofSchemeRest (splitScheme ((url.dropWhile (· ≤ ' ')).filter (!isRemoved ·)))

structure Parts where
  scheme : List Char
  host : List Char
  path : List Char
  query : List Char
  deriving DecidableEq, Repr

def Parts.url (p : Parts) : List Char :=
  p.scheme ++ ':' :: '/' :: '/' :: (p.host ++ '/' :: (p.path ++ '/' :: '?' :: p.query))

/-- Parts that a URL can have. The path stands between two slashes. -/
structure Parts.WellFormed (p : Parts) : Prop where
  scheme_head : p.scheme.head?.any Char.isAlpha = true
  scheme_chars : ∀ c ∈ p.scheme, isSchemeChar c = true
  host : ∀ c ∈ p.host, endsHost c = false
  path : ∀ c ∈ p.path, c ≠ '?' ∧ c ≠ '#'
  query : '#' ∉ p.query
  clean : ∀ c ∈ p.url, isRemoved c = false

theorem Parts.wellFormed_iff {p : Parts} :
    p.WellFormed ↔ p.scheme.head?.any Char.isAlpha = true ∧ p.scheme.all isSchemeChar = true ∧
      p.host.all (!endsHost ·) = true ∧ p.path.all (fun c => c != '?' && c != '#') = true ∧
      '#' ∉ p.query ∧ p.url.all (!isRemoved ·) = true := by
  simp only [all_eq_true, Bool.not_eq_true', Bool.and_eq_true, bne_iff_ne]
  constructor
  · intro h
    exact ⟨h.scheme_head, h.scheme_chars, h.host, h.path, h.query, h.clean⟩
  · rintro ⟨hhead, hchars, hhost, hpath, hquery, hclean⟩
    exact ⟨hhead, hchars, hhost, hpath, hquery, hclean⟩

instance (p : Parts) : Decidable p.WellFormed := decidable_of_iff' _ Parts.wellFormed_iff

theorem dropParams_append_slash (path : List Char) :
    dropParams (path ++ ['/']) = path ++ ['/'] := by
  have hlen : (path ++ ['/']).take (path.length + 1) = path ++ ['/'] := take_of_length_le (by simp)
  simp [dropParams, hlen]

theorem not_le_space_of_isAlpha {c : Char} (h : c.isAlpha = true) : ¬c ≤ ' ' := by
  have hle : c ≤ ' ' → c.val.toNat ≤ 32 := fun h => UInt32.le_iff_toNat_le.mp h
  have hval : 65 ≤ c.val.toNat := by
    rcases Bool.or_eq_true_iff.mp h with h | h
    · have hrange : 'A'.val ≤ c.val ∧ c.val ≤ 'Z'.val := of_decide_eq_true h
      exact UInt32.le_iff_toNat_le.mp hrange.1
    · have hge : 'a'.val ≤ c.val := of_decide_eq_true (Bool.and_eq_true_iff.mp h).1
      exact Nat.le_trans (by decide) (UInt32.le_iff_toNat_le.mp hge)
  intro hspace
  have := hle hspace
  omega

theorem not_isSchemeChar_colon : isSchemeChar ':' = false := by decide

theorem splitScheme_url {scheme : List Char} (hhead : scheme.head?.any Char.isAlpha = true)
    (hchars : ∀ c ∈ scheme, isSchemeChar c = true) (rest : List Char) :
    splitScheme (scheme ++ ':' :: rest) = (scheme.map Char.toLower, rest) := by
  have hcolon : ':' ∉ scheme := by
    intro h
    have hc := hchars ':' h
    rw [not_isSchemeChar_colon] at hc
    cases hc
  have hhead' : (scheme ++ ':' :: rest).head?.any Char.isAlpha = true := by
    cases scheme with
    | nil => cases hhead
    | cons c cs => exact hhead
  have hcut := cut_append hcolon rest
  rw [splitScheme, hcut, hhead']
  have hall : scheme.all isSchemeChar = true := all_eq_true.mpr hchars
  simp [hall]

theorem dropHost_url {host : List Char} (h : ∀ c ∈ host, endsHost c = false) (rest : List Char) :
    dropHost ('/' :: '/' :: (host ++ '/' :: rest)) = '/' :: rest := by
  show (host ++ '/' :: rest).dropWhile (!endsHost ·) = '/' :: rest
  rw [dropWhile_append_of_pos]
  · rfl
  · intro c hc
    rw [h c hc]
    rfl

/-- A URL is taken apart into its parts. -/
theorem urlparse_url {p : Parts} (h : p.WellFormed) :
    urlparse p.url = ⟨'/' :: (p.path ++ ['/']), p.query⟩ := by
  have hspace : p.url.dropWhile (· ≤ ' ') = p.url := by
    have hhead := h.scheme_head
    unfold Parts.url
    cases hs : p.scheme with
    | nil =>
      rw [hs] at hhead
      cases hhead
    | cons c cs =>
      rw [hs] at hhead
      refine dropWhile_cons_of_neg ?_
      rw [decide_eq_true_iff]
      exact not_le_space_of_isAlpha hhead
  have hfilter : p.url.filter (!isRemoved ·) = p.url := by
    rw [filter_eq_self]
    intro c hc
    rw [h.clean c hc]
    rfl
  have hpath : '?' ∉ '/' :: (p.path ++ ['/']) := by
    simp only [mem_cons, mem_append, not_mem_nil, or_false, not_or]
    exact ⟨by decide, fun hq => (h.path '?' hq).1 rfl, by decide⟩
  have hhash : ∀ c ∈ '/' :: (p.path ++ ['/']) ++ '?' :: p.query, (c != '#') = true := by
    intro c hc
    rw [bne_iff_ne]
    rintro rfl
    simp only [mem_append, mem_cons, not_mem_nil, or_false] at hc
    rcases hc with (hc | hc | hc) | hc | hc
    · cases hc
    · exact (h.path '#' hc).2 rfl
    · cases hc
    · cases hc
    · exact h.query hc
  have htake : ('/' :: (p.path ++ '/' :: '?' :: p.query)).takeWhile (· != '#') =
      '/' :: (p.path ++ ['/']) ++ '?' :: p.query := by
    rw [← takeWhile_eq_self_iff.mpr hhash]
    simp
  rw [urlparse, hspace, hfilter, Parts.url, splitScheme_url h.scheme_head h.scheme_chars,
    ofSchemeRest, dropHost_url h.host, htake, cut_append hpath, ofPathQuery]
  have hparams := dropParams_append_slash ('/' :: p.path)
  rw [cons_append] at hparams
  rw [hparams, ite_self]

/-- `parse_qsl` with blank values kept. -/
def parseQsl (unquote : List Char → String) (query : List Char) : List (String × String) :=
  ((query.splitOn '&').filter (!·.isEmpty)).map fun nv =>
    (unquote (cut '=' nv).1, unquote (cut '=' nv).2)

section Dict

variable {κ β : Type} [DecidableEq κ]

/-- `d[k] = v`. -/
def put (d : List (κ × β)) (kv : κ × β) : List (κ × β) :=
  if d.any (·.1 == kv.1) then d.map fun e => if e.1 = kv.1 then kv else e else d ++ [kv]

/-- `dict(pairs)`. -/
def dictOf (pairs : List (κ × β)) : List (κ × β) := pairs.foldl put []

theorem foldl_put {pairs d : List (κ × β)} (h : ((d ++ pairs).map Prod.fst).Nodup) :
    pairs.foldl put d = d ++ pairs := by
  induction pairs generalizing d with
  | nil => simp
  | cons kv pairs ih =>
    have hnew : d.any (·.1 == kv.1) = false := by
      rw [any_eq_false]
      intro e he hkey
      rw [map_append, nodup_append] at h
      exact h.2.2 e.1 (mem_map_of_mem he) kv.1 mem_cons_self (beq_iff_eq.mp hkey)
    rw [foldl_cons, put, hnew, if_neg Bool.false_ne_true, ih]
    · simp
    · simpa using h

/-- Distinct keys are all kept. -/
theorem dictOf_of_nodup {pairs : List (κ × β)} (h : (pairs.map Prod.fst).Nodup) :
    dictOf pairs = pairs :=
  foldl_put (d := []) h

end Dict

end VastCsi.Lib.Urls
