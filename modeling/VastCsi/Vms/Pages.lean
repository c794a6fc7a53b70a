import VastCsi.Lib.Text
import VastCsi.Lib.Urls

/-!
# Lists in pages

`VastResource.list` runs a `ResourceIterator` to its end: every page names the URL of the next.
The iterator takes such a URL apart into version, path and query, and `request` puts a URL
together again; it drops a path's first segment when it is the version. The server is any function
from the number of the call and the GET to a response; tokens and retries are not modelled here.
-/

namespace VastCsi.Vms.Pages

open Lib Urls List

/-- `str.isdigit` for one character, and `unquote` of a query. -/
structure Std where
  isdigit : Char → Bool
  unquote : List Char → String

structure Get where
  url : List Char
  params : List (String × String)
  deriving DecidableEq, Repr

def strip (l : List Char) : List Char := Text.rstrip '/' (Text.lstrip '/' l)

def orV1 : Option (List Char) → List Char
  | none => "v1".toList
  | some [] => "v1".toList
  | some v => v

/-- Drop the version, if the method starts with it. -/
def dropVersion (ver method : List Char) : List Char :=
  if (ver ++ ['/']).isPrefixOf method then method.drop (ver.length + 1) else method

/-- `base_url`, version and method, and a slash at the end. -/
def joinUrl (base ver method : List Char) : List Char :=
  base ++ '/' :: (ver ++ '/' :: (method ++ ['/']))

def request (base : List Char) (method : List Char) (apiVer : Option (List Char))
    (params : List (String × String)) : Get where
  url := joinUrl base (orV1 apiVer) (dropVersion (orV1 apiVer) (strip method))
  params := params

def isVersion (std : Std) : List Char → Bool
  | 'v' :: ds => !ds.isEmpty && ds.all std.isdigit
  | l => l == "latest".toList

def dropApi (path : List Char) : List Char :=
  if "/api/".toList.isPrefixOf path then path.drop 5 else path

/-- The version and the method of a path; without a version it is the iterator's. -/
def versionMethod (std : Std) (apiVer : Option (List Char)) (path : List Char) :
    Option (List Char) × List Char :=
  if path.contains '/' && isVersion std (cut '/' path).1 then
    (some (cut '/' path).1, (cut '/' path).2)
  else (apiVer, path)

def pageGet (std : Std) (base : List Char) (apiVer : Option (List Char)) (url : List Char) : Get :=
  let parsed := urlparse url
  let vm := versionMethod std apiVer (strip (dropApi parsed.path))
  request base vm.2 vm.1 (dictOf (parseQsl std.unquote parsed.query))

/-- A JSON object: its `results` (absent, null or a list), whether it has `count`, its `next`,
and the object as a record. -/
structure Bunch (ρ : Type) where
  results : Option (Option (List ρ))
  hasCount : Bool
  next : Option (List Char)
  self : ρ
  deriving DecidableEq, Repr

inductive Response (ρ : Type) where
  | bunch (b : Bunch ρ)
  | list (rs : List ρ)
  | other
  deriving DecidableEq, Repr

/-- The `next` of a page is a URL. -/
def isUrl : Option (List Char) → Bool
  | none => false
  | some url => !url.isEmpty

def Bunch.isPage {ρ : Type} (b : Bunch ρ) : Bool := b.results.isSome && b.hasCount

/-- `response.results or []`. -/
def Bunch.page {ρ : Type} (b : Bunch ρ) : List ρ := (b.results.getD none).getD []

/-- `ResourceIterator`, and the GETs it has sent. -/
structure Iter (ρ : Type) where
  resourceName : List Char
  apiVer : Option (List Char)
  initialParams : List (String × String)
  initialized : Bool
  current : List ρ
  nextUrl : Option (List Char)
  sent : List Get
  deriving DecidableEq, Repr

section Iterator

variable {ρ : Type} (std : Std) (base : List Char) (server : Nat → Get → Response ρ)

def Iter.init (resourceName : List Char) (params : List (String × String)) (pageSize : Nat)
    (apiVer : Option (List Char)) : Iter ρ where
  resourceName := resourceName
  apiVer := apiVer
  initialParams :=
    if 0 < pageSize && !params.any (·.1 == "page_size") then
      params ++ [("page_size", toString pageSize)]
    else params
  initialized := false
  current := []
  nextUrl := none
  sent := []

def Iter.process (it : Iter ρ) : Response ρ → Iter ρ
  | .bunch b =>
    if b.isPage then { it with current := b.page, nextUrl := b.next }
    else { it with current := [b.self], nextUrl := none }
  | .list rs => { it with current := rs, nextUrl := none }
  | .other => { it with current := [], nextUrl := none }

def Iter.fetch (it : Iter ρ) (g : Get) : Iter ρ :=
  Iter.process { it with sent := it.sent ++ [g] } (server it.sent.length g)

def Iter.firstGet (it : Iter ρ) : Get := request base it.resourceName it.apiVer it.initialParams

def Iter.hasNext (it : Iter ρ) : Bool := !it.initialized || isUrl it.nextUrl

def Iter.next (it : Iter ρ) : Iter ρ × List ρ :=
  if !it.initialized then
    let it' := { it.fetch server (it.firstGet base) with initialized := true }
    (it', it'.current)
  else
    match it.nextUrl with
    | none => (it, [])
    | some [] => (it, [])
    | some url =>
      let it' := it.fetch server (pageGet std base it.apiVer url)
      (it', it'.current)

def drain : Nat → Iter ρ → List ρ → Option (List ρ × Iter ρ)
  | 0, it, acc => if it.hasNext then none else some (acc, it)
  | n + 1, it, acc =>
    if it.hasNext then
      drain n (it.next std base server).1 (acc ++ (it.next std base server).2)
    else some (acc, it)

/-- `all`; `none` when `n` rounds were not enough. -/
def all (n : Nat) (it : Iter ρ) : Option (List ρ × Iter ρ) :=
  if !it.initialized then
    drain std base server n (it.next std base server).1 (it.next std base server).2
  else drain std base server n it it.current

def list (n : Nat) (resourceName : List Char) (params : List (String × String)) (pageSize : Nat)
    (apiVer : Option (List Char)) : Option (List ρ × Iter ρ) :=
  all std base server n (Iter.init resourceName params pageSize apiVer)

end Iterator

/-- `scheme://host/api/<version>/<path>/?query`. -/
structure PageUrl where
  scheme : List Char
  host : List Char
  version : List Char
  path : List Char
  query : List Char
  deriving DecidableEq, Repr

namespace PageUrl

def parts (u : PageUrl) : Parts :=
  ⟨u.scheme, u.host, "api/".toList ++ (u.version ++ '/' :: u.path), u.query⟩

def text (u : PageUrl) : List Char := u.parts.url

structure WellFormed (std : Std) (u : PageUrl) : Prop where
  parts : u.parts.WellFormed
  version_ne_nil : u.version ≠ []
  version : '/' ∉ u.version
  path_ne_nil : u.path ≠ []
  path_head : u.path.head? ≠ some '/'
  path_last : u.path.getLast? ≠ some '/'
  keys : ((parseQsl std.unquote u.query).map Prod.fst).Nodup

/-- The GET that the URL stands for: its version, its path and its decoded query. -/
def get (std : Std) (base : List Char) (u : PageUrl) : Get where
  url := joinUrl base u.version u.path
  params := parseQsl std.unquote u.query

/-- The version is a known one and the path does not start with it again; or it is not known, and
is taken for the iterator's. -/
def Faithful (std : Std) (apiVer : Option (List Char)) (u : PageUrl) : Prop :=
  if isVersion std u.version then ¬(u.version ++ ['/']) <+: u.path
  else (orV1 apiVer ++ ['/']) <+: u.version ++ '/' :: u.path

end PageUrl

variable {l : List Char}

theorem lstrip_eq_self (h : l.head? ≠ some '/') : Text.lstrip '/' l = l := by
  cases l with
  | nil => rfl
  | cons c cs =>
    refine dropWhile_cons_of_neg ?_
    rw [beq_iff_eq]
    rintro rfl
    exact h rfl

theorem strip_eq_self (hhead : l.head? ≠ some '/') (hlast : l.getLast? ≠ some '/') :
    strip l = l := by
  rw [strip, lstrip_eq_self hhead, Text.rstrip_eq_self hlast]

theorem strip_append_slash (hne : l ≠ []) (hhead : l.head? ≠ some '/')
    (hlast : l.getLast? ≠ some '/') : strip (l ++ ['/']) = l := by
  have hhead' : (l ++ ['/']).head? ≠ some '/' := by
    rw [head?_append_of_ne_nil l hne]
    exact hhead
  have hlast' : Text.rstrip '/' (l ++ ['/']) = Text.rstrip '/' l := by
    simp [Text.rstrip, Text.lstrip]
  rw [strip, lstrip_eq_self hhead', hlast', Text.rstrip_eq_self hlast]

section PageUrls

variable {std : Std} {u : PageUrl}

theorem PageUrl.WellFormed.head (h : u.WellFormed std) :
    (u.version ++ '/' :: u.path).head? ≠ some '/' := by
  rw [head?_append_of_ne_nil _ h.version_ne_nil]
  exact fun hhead => h.version (mem_of_head? hhead)

theorem PageUrl.WellFormed.last (h : u.WellFormed std) :
    (u.version ++ '/' :: u.path).getLast? ≠ some '/' := by
  rw [getLast?_append_of_ne_nil _ (cons_ne_nil _ _), getLast?_cons_of_ne_nil h.path_ne_nil]
  exact h.path_last

/-- Version and path, as the iterator has them. -/
theorem PageUrl.WellFormed.strip_dropApi (h : u.WellFormed std) :
    strip (dropApi (urlparse u.text).path) = u.version ++ '/' :: u.path := by
  have hparsed : (urlparse u.text).path =
      "/api/".toList ++ (u.version ++ '/' :: u.path ++ ['/']) := by
    rw [PageUrl.text, urlparse_url h.parts, PageUrl.parts]
    simp
  have hdrop : dropApi (urlparse u.text).path = u.version ++ '/' :: u.path ++ ['/'] := by
    rw [hparsed, dropApi, if_pos (List.isPrefixOf_iff_prefix.mpr (prefix_append _ _))]
    rfl
  rw [hdrop]
  exact strip_append_slash (by simp) h.head h.last

/-- The GET that is sent for the URL of a page. -/
theorem pageGet_text (h : u.WellFormed std) (base : List Char) (apiVer : Option (List Char)) :
    pageGet std base apiVer u.text =
      if isVersion std u.version then
        request base u.path (some u.version) (parseQsl std.unquote u.query)
      else request base (u.version ++ '/' :: u.path) apiVer (parseQsl std.unquote u.query) := by
  have hquery : (urlparse u.text).query = u.query := by
    rw [PageUrl.text, urlparse_url h.parts]
    rfl
  rw [pageGet, h.strip_dropApi, hquery, dictOf_of_nodup h.keys, versionMethod, cut_append h.version]
  have hslash : (u.version ++ '/' :: u.path).contains '/' = true := by simp
  rw [hslash, Bool.true_and]
  split <;> rfl

variable {ver : List Char}

theorem dropVersion_of_version {rest : List Char} :
    dropVersion ver (ver ++ '/' :: rest) = rest := by
  have hpre : (ver ++ ['/']).isPrefixOf (ver ++ '/' :: rest) = true :=
    isPrefixOf_iff_prefix.mpr ⟨rest, by simp⟩
  rw [dropVersion, if_pos hpre]
  have hlen : ver.length + 1 = (ver ++ ['/']).length := by simp
  have happ : ver ++ '/' :: rest = (ver ++ ['/']) ++ rest := by simp
  rw [hlen, happ, drop_left]

theorem dropVersion_of_other {method : List Char} (h : ¬(ver ++ ['/']) <+: method) :
    dropVersion ver method = method := by
  rw [dropVersion, if_neg]
  rwa [List.isPrefixOf_iff_prefix]

theorem orV1_some (h : ver ≠ []) : orV1 (some ver) = ver := by
  cases ver with
  | nil => exact absurd rfl h
  | cons c cs => rfl

/-- It is the one that the URL stands for, if the URL is faithful. -/
theorem pageGet_eq_get_iff (h : u.WellFormed std) (base : List Char) (apiVer : Option (List Char)) :
    pageGet std base apiVer u.text = u.get std base ↔ u.Faithful std apiVer := by
  rw [pageGet_text h, PageUrl.Faithful]
  split
  next =>
    have hpath := strip_eq_self h.path_head h.path_last
    simp only [request, PageUrl.get, Get.mk.injEq, and_true, hpath, orV1_some h.version_ne_nil]
    constructor
    · rintro heq ⟨rest, hrest⟩
      rw [← hrest, List.append_assoc, List.singleton_append, dropVersion_of_version] at heq
      have hlen := congrArg List.length heq
      simp [joinUrl] at hlen
      omega
    · intro hnot
      rw [dropVersion_of_other hnot]
  next =>
    simp only [request, PageUrl.get, Get.mk.injEq, and_true, strip_eq_self h.head h.last]
    constructor
    · intro heq
      by_contra hnot
      rw [dropVersion_of_other hnot] at heq
      have hlen := congrArg List.length heq
      simp [joinUrl] at hlen
      omega
    · rintro ⟨rest, hrest⟩
      have hsplit : u.version ++ '/' :: u.path = orV1 apiVer ++ '/' :: rest := by
        rw [← hrest]
        simp
      rw [hsplit, dropVersion_of_version, joinUrl, joinUrl]
      have hend := congrArg (· ++ ['/']) hsplit
      simp only [List.append_assoc, List.cons_append] at hend
      rw [hend]

end PageUrls

section Pages

variable {ρ : Type} {std : Std} {base : List Char} {server : Nat → Get → Response ρ}

/-- The responses to the GETs of the pages, from the `n`-th call on: `urls` are those that the
pages name, and `pages` the records of each page. -/
def Chain (std : Std) (base : List Char) (server : Nat → Get → Response ρ) :
    Nat → Get → List PageUrl → List (List ρ) → Prop
  | n, g, [], [rs] =>
    ∃ b, server n g = .bunch b ∧ b.isPage = true ∧ b.page = rs ∧ isUrl b.next = false
  | n, g, u :: us, rs :: rss =>
    (∃ b, server n g = .bunch b ∧ b.isPage = true ∧ b.page = rs ∧ b.next = some u.text) ∧
      u.WellFormed std ∧ Chain std base server (n + 1) (u.get std base) us rss
  | _, _, _, _ => False

variable {it : Iter ρ}

/-- The iterator has fetched a page. -/
theorem fetch_page {g : Get} {b : Bunch ρ} (h : server it.sent.length g = .bunch b)
    (hpage : b.isPage = true) :
    it.fetch server g =
      { it with sent := it.sent ++ [g], current := b.page, nextUrl := b.next } := by
  rw [Iter.fetch, h, Iter.process, if_pos hpage]

theorem isUrl_text (u : PageUrl) : isUrl (some u.text) = true := by
  simp [isUrl, PageUrl.text, Parts.url]

theorem sent_fetch (it : Iter ρ) (g : Get) : (it.fetch server g).sent = it.sent ++ [g] := by
  unfold Iter.fetch Iter.process
  split
  · split <;> rfl
  · rfl
  · rfl

theorem initialized_fetch (it : Iter ρ) (g : Get) :
    (it.fetch server g).initialized = it.initialized := by
  unfold Iter.fetch Iter.process
  split
  · split <;> rfl
  · rfl
  · rfl

theorem next_of_url {url : List Char} (hinit : it.initialized = true)
    (hnext : it.nextUrl = some url) (hurl : isUrl (some url) = true) :
    it.next std base server = (it.fetch server (pageGet std base it.apiVer url),
        (it.fetch server (pageGet std base it.apiVer url)).current) := by
  rw [Iter.next, hinit, hnext]
  cases url with
  | nil => cases hurl
  | cons c cs => rfl

theorem sent_prefix_next (it : Iter ρ) : it.sent <+: (it.next std base server).1.sent := by
  unfold Iter.next
  split
  · show it.sent <+: (it.fetch server (it.firstGet base)).sent
    rw [sent_fetch]
    exact prefix_append _ _
  · split
    · exact prefix_rfl
    · exact prefix_rfl
    · rw [sent_fetch]
      exact prefix_append _ _

/-- A GET that was sent stays sent. -/
theorem sent_prefix_drain {n : Nat} {it' : Iter ρ} {acc rs : List ρ}
    (h : drain std base server n it acc = some (rs, it')) : it.sent <+: it'.sent := by
  induction n generalizing it acc with
  | zero =>
    rw [drain] at h
    split at h
    · cases h
    · cases h
      exact prefix_rfl
  | succ n ih =>
    rw [drain] at h
    split at h
    · exact (sent_prefix_next it).trans (ih h)
    · cases h
      exact prefix_rfl

theorem drain_of_not_hasNext (h : it.hasNext = false) (n : Nat) (acc : List ρ) :
    drain std base server n it acc = some (acc, it) := by
  cases n with
  | zero => rw [drain, h, if_neg Bool.false_ne_true]
  | succ n => rw [drain, h, if_neg Bool.false_ne_true]

theorem drain_of_url {url : List Char} (hinit : it.initialized = true)
    (hnext : it.nextUrl = some url) (hurl : isUrl (some url) = true) (n : Nat) (acc : List ρ) :
    drain std base server (n + 1) it acc =
      drain std base server n (it.fetch server (pageGet std base it.apiVer url))
        (acc ++ (it.fetch server (pageGet std base it.apiVer url)).current) := by
  have hhas : it.hasNext = true := by rw [Iter.hasNext, hnext, hurl, Bool.or_true]
  rw [drain, if_pos hhas, next_of_url hinit hnext hurl]

/-- The rest of the pages, once the GET `g` was sent. -/
theorem drain_iff {us : List PageUrl} {pages : List (List ρ)} {n : Nat} {it : Iter ρ} {g : Get}
    {acc : List ρ} (hinit : it.initialized = true) (hn : us.length ≤ n)
    (hchain : Chain std base server it.sent.length g us pages) :
    (∃ it', drain std base server n (it.fetch server g) (acc ++ (it.fetch server g).current) =
        some (acc ++ pages.flatten, it') ∧
      it'.sent = it.sent ++ g :: us.map (PageUrl.get std base)) ↔
    ∀ u ∈ us, u.Faithful std it.apiVer := by
  induction us generalizing pages n it g acc with
  | nil =>
    match pages, hchain with
    | [rs], ⟨b, hserver, hpage, hrs, hlast⟩ =>
      refine ⟨fun _ u hu => (nomatch hu), fun _ => ⟨it.fetch server g, ?_, ?_⟩⟩
      · rw [fetch_page hserver hpage, drain_of_not_hasNext, ← hrs, List.flatten_singleton]
        rw [Iter.hasNext, hinit, hlast]
        rfl
      · exact sent_fetch it g
  | cons u us ih =>
    match pages, hchain with
    | rs :: rss, ⟨⟨b, hserver, hpage, hrs, hnext⟩, hwf, hrest⟩ =>
      obtain ⟨m, rfl⟩ : ∃ m, n = m + 1 := Nat.exists_eq_add_one.mpr (by
        rw [List.length_cons] at hn
        omega)
      have hfetch := fetch_page hserver hpage
      have hinit' : (it.fetch server g).initialized = true := by rw [initialized_fetch, hinit]
      have hurl : (it.fetch server g).nextUrl = some u.text := by rw [hfetch]; exact hnext
      have hver : (it.fetch server g).apiVer = it.apiVer := by rw [hfetch]
      have hcurrent : (it.fetch server g).current = rs := by rw [hfetch]; exact hrs
      rw [drain_of_url hinit' hurl (isUrl_text u), hver, hcurrent]
      by_cases hfaithful : u.Faithful std it.apiVer
      · -- the GET is the page's own, so the server answers as the chain says
        rw [(pageGet_eq_get_iff hwf base it.apiVer).mpr hfaithful]
        have hlen : (it.fetch server g).sent.length = it.sent.length + 1 := by
          rw [sent_fetch, List.length_append, List.length_singleton]
        have hchain' : Chain std base server (it.fetch server g).sent.length (u.get std base) us
            rss := by
          rw [hlen]
          exact hrest
        have hih := @ih rss m (it.fetch server g) (u.get std base) (acc ++ rs) hinit'
          (by simpa using hn) hchain'
        rw [hver, sent_fetch] at hih
        simp only [List.flatten_cons, List.map_cons, List.forall_mem_cons, hfaithful, true_and]
        rw [← hih]
        simp only [List.append_assoc, List.singleton_append]
      · -- another GET is on record
        refine ⟨?_, fun hall => absurd (hall u List.mem_cons_self) hfaithful⟩
        rintro ⟨it', hdrain, hsent⟩
        have hpre := sent_prefix_drain hdrain
        rw [sent_fetch, sent_fetch, hsent, List.append_assoc,
          List.prefix_append_right_inj, List.singleton_append, List.map_cons] at hpre
        obtain ⟨_, hpre⟩ := List.cons_prefix_cons.mp hpre
        obtain ⟨heq, _⟩ := List.cons_prefix_cons.mp hpre
        exact absurd ((pageGet_eq_get_iff hwf base it.apiVer).mp heq) hfaithful

theorem process_initialized (it : Iter ρ) (r : Response ρ) :
    { it.process r with initialized := true } = Iter.process { it with initialized := true } r := by
  cases r with
  | bunch b =>
    cases hpage : b.isPage with
    | true => simp only [Iter.process, hpage, if_true]
    | false => simp only [Iter.process, hpage, Bool.false_eq_true, if_false]
  | list rs => rfl
  | other => rfl

/-- The first page is fetched like the others. -/
theorem fetch_initialized (it : Iter ρ) (g : Get) : { it.fetch server g with initialized := true } =
      Iter.fetch server { it with initialized := true } g :=
  process_initialized _ _

theorem all_of_fresh (h : it.initialized = false) (n : Nat) : all std base server n it =
      drain std base server n (Iter.fetch server { it with initialized := true } (it.firstGet base))
        (Iter.fetch server { it with initialized := true } (it.firstGet base)).current := by
  have hnext : it.next std base server =
      ({ it.fetch server (it.firstGet base) with initialized := true },
        (it.fetch server (it.firstGet base)).current) := by
    rw [Iter.next, h]
    rfl
  rw [all, h, hnext, ← fetch_initialized]
  rfl

def Response.records : Response ρ → List ρ
  | .bunch b => if b.isPage then b.page else [b.self]
  | .list rs => rs
  | .other => []

def Response.isPaginated : Response ρ → Bool
  | .bunch b => b.isPage
  | _ => false

theorem fetch_of_not_isPaginated (it : Iter ρ) (g : Get)
    (h : (server it.sent.length g).isPaginated = false) :
    (it.fetch server g).current = (server it.sent.length g).records ∧
      (it.fetch server g).nextUrl = none := by
  rw [Iter.fetch]
  cases hr : server it.sent.length g with
  | bunch b =>
    rw [hr] at h
    have hpage : b.isPage = false := h
    rw [Iter.process, Response.records, hpage]
    exact ⟨rfl, rfl⟩
  | list rs => exact ⟨rfl, rfl⟩
  | other => exact ⟨rfl, rfl⟩

/-- When the server answers with a chain of pages, `list` sends one GET per page, each for the
version, the path and the query of the page's URL, and returns the records of all pages in order,
exactly when every URL is faithful. -/
theorem list_pages_iff (std : Std) (base : List Char) (server : Nat → Get → Response ρ)
    (resourceName : List Char) (params : List (String × String)) (pageSize : Nat)
    (apiVer : Option (List Char)) (n : Nat) :
    let first : Get := (Iter.init (ρ := ρ) resourceName params pageSize apiVer).firstGet base
    (∀ us pages, us.length ≤ n → Chain std base server 0 first us pages →
      ((∃ it, list std base server n resourceName params pageSize apiVer =
          some (pages.flatten, it) ∧ it.sent = first :: us.map (PageUrl.get std base)) ↔
        ∀ u ∈ us, u.Faithful std apiVer)) ∧
    ((server 0 first).isPaginated = false →
      ∃ it, list std base server n resourceName params pageSize apiVer =
        some ((server 0 first).records, it) ∧ it.sent = [first]) := by
  intro first
  -- the iterator as it is when its first response is processed
  let fresh : Iter ρ := { Iter.init resourceName params pageSize apiVer with initialized := true }
  have hlist : list std base server n resourceName params pageSize apiVer =
      drain std base server n (fresh.fetch server first) (fresh.fetch server first).current :=
    all_of_fresh rfl n
  rw [hlist]
  constructor
  · intro us pages hn hchain
    exact @drain_iff _ _ _ _ us pages n fresh first [] rfl hn hchain
  · intro hnot
    obtain ⟨hcurrent, hnext⟩ := fetch_of_not_isPaginated fresh first hnot
    refine ⟨fresh.fetch server first, ?_, sent_fetch fresh first⟩
    have hdone : (fresh.fetch server first).hasNext = false := by
      rw [Iter.hasNext, initialized_fetch, hnext]
      rfl
    rw [drain_of_not_hasNext hdone, hcurrent]
    rfl

end Pages

def plain : Std where
  isdigit := Char.isDigit
  unquote := String.ofList

def vmsUrl : List Char := "https://vms/api".toList

def secondPage (version path : String) : PageUrl where
  scheme := "https".toList
  host := "vms".toList
  version := version.toList
  path := path.toList
  query := "page=2".toList

def twoPages (u : PageUrl) (n : Nat) (g : Get) : Response Nat :=
  if n = 0 then .bunch ⟨some (some [1]), true, some u.text, 0⟩
  else if g = u.get plain vmsUrl then .bunch ⟨some (some [2]), true, none, 0⟩
  else .other

def viewsGet : Get := (Iter.init (ρ := Nat) "views".toList [] 1000 none).firstGet vmsUrl

theorem wellFormed_secondPage_v2 : (secondPage "v2" "views").WellFormed plain where
  parts := by decide
  version_ne_nil := by decide
  version := by decide
  path_ne_nil := by decide
  path_head := by decide
  path_last := by decide
  keys := by decide

theorem wellFormed_secondPage_v1 : (secondPage "v1" "v1/views").WellFormed plain where
  parts := by decide
  version_ne_nil := by decide
  version := by decide
  path_ne_nil := by decide
  path_head := by decide
  path_last := by decide
  keys := by decide

theorem chain_twoPages {u : PageUrl} (h : u.WellFormed plain) (g : Get) :
    Chain plain vmsUrl (twoPages u) 0 g [u] [[1], [2]] :=
  ⟨⟨_, rfl, rfl, rfl, rfl⟩, h, _, if_pos rfl, rfl, rfl, rfl⟩

theorem list_pages_iff_twoPages :
    ∃ it, list plain vmsUrl (twoPages (secondPage "v2" "views")) 1 "views".toList [] 1000 none =
        some ([1, 2], it) ∧
      it.sent = [viewsGet, (secondPage "v2" "views").get plain vmsUrl] := by
  have hpages := (list_pages_iff plain vmsUrl (twoPages (secondPage "v2" "views"))
    "views".toList [] 1000 none 1).1 [secondPage "v2" "views"] [[1], [2]] (by decide)
    (chain_twoPages wellFormed_secondPage_v2 _)
  refine hpages.mpr fun u hu => ?_
  rw [mem_singleton] at hu
  subst hu
  show ¬_ <+: _
  decide

/-- The path of the second page starts with the version once more: the GET is for another path. -/
theorem repeated_version_dropped :
    Chain plain vmsUrl (twoPages (secondPage "v1" "v1/views")) 0 viewsGet
      [secondPage "v1" "v1/views"] [[1], [2]] ∧
    ∃ it, list plain vmsUrl (twoPages (secondPage "v1" "v1/views")) 1 "views".toList [] 1000 none =
        some ([1], it) ∧
      it.sent = [viewsGet, ⟨"https://vms/api/v1/views/".toList, [("page", "2")]⟩] :=
  ⟨chain_twoPages wellFormed_secondPage_v1 _, _, by rfl, by decide⟩

end VastCsi.Vms.Pages
