import VastCsi.Vms.VmsSession

/-!
# The cache of lookups that all sessions share

`cache_on_arguments` keeps the answers to lookups in one memory of the process, under a key made
of `hash(session)` and the text of the arguments. The hash is taken of the token and the endpoint,
or of the user, the password and the endpoint, written one after the other: the tenant is not part
of it.

The memory and the region over it are those of two libraries. What is assumed of them are the
fields of `Region`, and the results are for every region. Keys of two sessions are equal only if
the hashes are (`generateKey_inj`): what a run returns to a session was answered to one with its
hash (`run_values`), and the entries under its keys, while none is dropped, are those of a run
without the other's lookups (`filter_run_eq`).
-/

namespace VastCsi.Vms.SessionCache

open List String Nat

/-- `generate_key`: the session, a colon, and the key of the arguments. -/
def generateKey (sha256 : String → Nat) (session : VmsSession) (baseKey : String) : String :=
  Nat.repr (session.hash sha256) ++ ":" ++ baseKey

structure Lookup (ι : Type) where
  session : VmsSession
  args : ι
  now : Nat

/-- The cached methods: the text and the expiry of a call, and what a cluster
answers to it at a time, `none` when the call raises. -/
structure Methods (ι ν : Type) where
  baseKey : ι → String
  expirationTime : ι → Nat
  answer : VmsSession → ι → Nat → Option ν

section Entry

variable {ν : Type} (entry : Option (ν × Nat)) (expiry now : Nat)

/-- The value of an entry, with the time at which it was made, unless it is too old. -/
def fresh : Option ν := (entry.filter fun e => decide (now - e.2 ≤ expiry)).map Prod.fst

/-- The entry after a lookup: the same if its value is returned or none could be made. -/
def renewed (made : Option ν) : Option (ν × Nat) :=
  if (fresh entry expiry now).isSome then entry else (made.map (·, now)).or entry

end Entry

/-- A region of `dogpile.cache` over an `LRUCache` of `cachetools`: what the key generator can
rely on. -/
structure Region (ν : Type) where
  Store : Type
  maxSize : Nat
  empty : Store
  size : Store → Nat
  entry : Store → String → Option (ν × Nat)
  /-- `get_or_create`, with what the method returns if it is called. -/
  getOrCreate : Store → String → (expiry now : Nat) → (made : Option ν) → Option ν × Store
  size_empty : size empty = 0
  entry_empty : ∀ k, entry empty k = none
  size_le : ∀ s k expiry now made, size (getOrCreate s k expiry now made).2 ≤ size s + 1
  value : ∀ s k expiry now made,
    (getOrCreate s k expiry now made).1 = (fresh (entry s k) expiry now).or made
  /-- An entry was there before or has just been made; any other may have been dropped. -/
  kept : ∀ s k expiry now made k' e,
    entry (getOrCreate s k expiry now made).2 k' = some e →
      entry s k' = some e ∨ k' = k ∧ made = some e.1 ∧ now = e.2
  /-- None is dropped while there is room. -/
  room : ∀ s k expiry now made, size s < maxSize → ∀ k',
    entry (getOrCreate s k expiry now made).2 k' =
      if k' = k then renewed (entry s k) expiry now made else entry s k'

section Run

variable {ι ν : Type} (sha256 : String → Nat) (methods : Methods ι ν) (region : Region ν)

def Lookup.key (l : Lookup ι) : String := generateKey sha256 l.session (methods.baseKey l.args)

def lookup (s : region.Store) (l : Lookup ι) : Option ν × region.Store :=
  region.getOrCreate s (l.key sha256 methods) (methods.expirationTime l.args) l.now
    (methods.answer l.session l.args l.now)

/-- The lookups of a list in order: what each returned. -/
def run : region.Store → List (Lookup ι) → List (Lookup ι × Option ν)
  | _, [] => []
  | s, l :: ls =>
    (l, (lookup sha256 methods region s l).1) :: run (lookup sha256 methods region s l).2 ls

def valuesOf (s : VmsSession) (ls : List (Lookup ι)) : List (Option ν) :=
  ((run sha256 methods region region.empty ls).filter (·.1.session = s)).map (·.2)

end Run

/-- Two sessions that share the memory and do not notice it. -/
structure Isolated (sha256 : String → Nat) (s₁ s₂ : VmsSession) : Prop where
  /-- No lookup of the one has the key of a lookup of the other. -/
  keys : ∀ a b, generateKey sha256 s₁ a ≠ generateKey sha256 s₂ b
  /-- What the first one is handed was answered to itself, for the same text, and
  not longer ago than allowed; whatever was dropped from the memory meanwhile. -/
  own : ∀ {ι ν : Type} (methods : Methods ι ν) (region : Region ν) (ls : List (Lookup ι)),
    (∀ l ∈ ls, l.session = s₁ ∨ l.session = s₂) →
    ∀ r ∈ run sha256 methods region region.empty ls, r.1.session = s₁ → ∀ v, r.2 = some v →
      ∃ l ∈ ls, l.session = s₁ ∧ methods.baseKey l.args = methods.baseKey r.1.args ∧
        methods.answer s₁ l.args l.now = some v ∧
        r.1.now - l.now ≤ methods.expirationTime r.1.args
  /-- While the memory is not full, other lookups of the second one make no
  difference to the first. -/
  alike : ∀ {ι ν : Type} (methods : Methods ι ν) (region : Region ν) (ls ls' : List (Lookup ι)),
    (∀ l ∈ ls, l.session = s₁ ∨ l.session = s₂) →
    (∀ l ∈ ls', l.session = s₁ ∨ l.session = s₂) →
    ls.length ≤ region.maxSize → ls'.length ≤ region.maxSize →
    ls.filter (·.session = s₁) = ls'.filter (·.session = s₁) →
    valuesOf sha256 methods region s₁ ls = valuesOf sha256 methods region s₁ ls'

theorem toList_repr (n : Nat) : (Nat.repr n).toList = Nat.toDigits 10 n := by
  rw [repr_eq_ofList_toDigits, toList_ofList]

theorem colon_not_mem_digits (n : Nat) : ':' ∉ Nat.toDigits 10 n :=
  fun h => absurd (isDigit_of_mem_toDigits (by decide) (by decide) h) (by decide)

/-- The part before the first colon and the part after it. -/
theorem append_colon_inj {a b a' b' : List Char} (ha : ':' ∉ a) (ha' : ':' ∉ a')
    (h : a ++ ':' :: b = a' ++ ':' :: b') : a = a' ∧ b = b' := by
  induction a generalizing a' with
  | nil =>
    cases a' with
    | nil => exact ⟨rfl, (List.cons.inj h).2⟩
    | cons x a' => exact absurd ((List.cons.inj h).1 ▸ mem_cons_self) ha'
  | cons x a ih =>
    cases a' with
    | nil => exact absurd ((List.cons.inj h).1 ▸ mem_cons_self) ha
    | cons y a' =>
      obtain ⟨rfl, hrest⟩ := List.cons.inj h
      obtain ⟨rfl, rfl⟩ := ih (fun hm => ha (mem_cons_of_mem _ hm))
        (fun hm => ha' (mem_cons_of_mem _ hm)) hrest
      exact ⟨rfl, rfl⟩

/-- A key tells the hash of the session and the text of the arguments. -/
theorem generateKey_inj {sha256 : String → Nat} {s s' : VmsSession} {a b : String} :
    generateKey sha256 s a = generateKey sha256 s' b ↔ s.hash sha256 = s'.hash sha256 ∧ a = b := by
  constructor
  · intro h
    have hchars := congrArg String.toList h
    simp only [generateKey, String.toList_append, toList_repr, List.append_assoc,
      show ":".toList = [':'] from rfl, List.singleton_append] at hchars
    obtain ⟨hdigits, htext⟩ :=
      append_colon_inj (colon_not_mem_digits _) (colon_not_mem_digits _) hchars
    have hread := congrArg (Nat.ofDigitChars 10 · 0) hdigits
    simp only [Nat.ofDigitChars_ten_toDigits] at hread
    exact ⟨hread, String.toList_inj.mp htext⟩
  · rintro ⟨h, rfl⟩
    rw [generateKey, generateKey, h]

section Provenance

variable {ι ν : Type} {sha256 : String → Nat} {methods : Methods ι ν} {region : Region ν}

theorem fresh_eq_some {entry : Option (ν × Nat)} {expiry now : Nat} {v : ν}
    (h : fresh entry expiry now = some v) : ∃ t, entry = some (v, t) ∧ now - t ≤ expiry := by
  obtain ⟨⟨u, t⟩, he, rfl⟩ := Option.map_eq_some_iff.mp h
  obtain ⟨hentry, hold⟩ := Option.filter_eq_some_iff.mp he
  exact ⟨t, hentry, of_decide_eq_true hold⟩

/-- Every entry was answered to one of the lookups, under its key and at its time. -/
def Answered (sha256 : String → Nat) (methods : Methods ι ν) (region : Region ν)
    (ls : List (Lookup ι)) (s : region.Store) : Prop :=
  ∀ k e, region.entry s k = some e → ∃ l ∈ ls, l.key sha256 methods = k ∧ l.now = e.2 ∧
    methods.answer l.session l.args l.now = some e.1

variable {ls : List (Lookup ι)} {s : region.Store} {l : Lookup ι}

theorem Answered.lookup (h : Answered sha256 methods region ls s) (hl : l ∈ ls) :
    Answered sha256 methods region ls (lookup sha256 methods region s l).2 := by
  intro k e he
  rcases region.kept _ _ _ _ _ _ _ he with hold | ⟨rfl, hmade, hnow⟩
  · exact h k e hold
  · exact ⟨l, hl, rfl, hnow, hmade⟩

/-- What a lookup returns was answered to a lookup of the same key, and is not
too old. -/
theorem lookup_value {v : ν} (h : Answered sha256 methods region ls s) (hl : l ∈ ls)
    (hv : (lookup sha256 methods region s l).1 = some v) :
    ∃ l' ∈ ls, l'.key sha256 methods = l.key sha256 methods ∧
      methods.answer l'.session l'.args l'.now = some v ∧
      l.now - l'.now ≤ methods.expirationTime l.args := by
  rw [SessionCache.lookup, region.value, Option.or_eq_some_iff] at hv
  rcases hv with hv | ⟨-, hv⟩
  · obtain ⟨t, hentry, hold⟩ := fresh_eq_some hv
    obtain ⟨l', hl', hkey, hnow, hans⟩ := h _ _ hentry
    exact ⟨l', hl', hkey, hans, hnow ▸ hold⟩
  · exact ⟨l, hl, rfl, hv, by omega⟩

/-- The same for every lookup of a run. -/
theorem run_values {all : List (Lookup ι)} :
    ∀ {ls : List (Lookup ι)} {s : region.Store}, Answered sha256 methods region all s →
      (∀ l ∈ ls, l ∈ all) → ∀ r ∈ run sha256 methods region s ls, ∀ v, r.2 = some v →
      ∃ l' ∈ all, l'.key sha256 methods = r.1.key sha256 methods ∧
        methods.answer l'.session l'.args l'.now = some v ∧
        r.1.now - l'.now ≤ methods.expirationTime r.1.args
  | [], _, _, _, r, hr, _, _ => absurd hr not_mem_nil
  | l :: ls, s, h, hsub, r, hr, v, hv => by
    have hl := hsub l mem_cons_self
    rcases mem_cons.mp hr with rfl | hr
    · exact lookup_value h hl hv
    · exact run_values (h.lookup hl) (fun l' hl' => hsub l' (mem_cons_of_mem _ hl')) r hr v hv

end Provenance

section Alone

variable {ι ν : Type} {sha256 : String → Nat} {methods : Methods ι ν} {region : Region ν}
  {session : VmsSession} {s s' : region.Store} {l : Lookup ι}

/-- The two stores have the same entries under the keys of the session. -/
def Agree (sha256 : String → Nat) (region : Region ν) (session : VmsSession)
    (s s' : region.Store) : Prop :=
  ∀ a, region.entry s (generateKey sha256 session a) =
    region.entry s' (generateKey sha256 session a)

theorem Agree.other (methods : Methods ι ν) (h : Agree sha256 region session s s')
    (hroom : region.size s < region.maxSize) (hl : l.session.hash sha256 ≠ session.hash sha256) :
    Agree sha256 region session (lookup sha256 methods region s l).2 s' := by
  intro a
  have hne : generateKey sha256 session a ≠ l.key sha256 methods :=
    fun hkey => hl (generateKey_inj.mp hkey).1.symm
  rw [lookup, region.room _ _ _ _ _ hroom, if_neg hne]
  exact h a

theorem Agree.both (methods : Methods ι ν) (h : Agree sha256 region session s s')
    (hl : l.session = session) (hroom : region.size s < region.maxSize)
    (hroom' : region.size s' < region.maxSize) :
    (lookup sha256 methods region s l).1 = (lookup sha256 methods region s' l).1 ∧
      Agree sha256 region session (lookup sha256 methods region s l).2
        (lookup sha256 methods region s' l).2 := by
  have hentry : region.entry s (l.key sha256 methods) = region.entry s' (l.key sha256 methods) := by
    rw [Lookup.key, hl]
    exact h _
  refine ⟨?_, fun a => ?_⟩
  · rw [lookup, lookup, region.value, region.value, hentry]
  · rw [lookup, lookup, region.room _ _ _ _ _ hroom, region.room _ _ _ _ _ hroom', hentry, h a]

/-- While there is room, a session's part of a run is the run of its own lookups. -/
theorem filter_run_eq : ∀ {ls : List (Lookup ι)} {s s' : region.Store},
      (∀ l ∈ ls, l.session = session ∨ l.session.hash sha256 ≠ session.hash sha256) →
      region.size s + ls.length ≤ region.maxSize → region.size s' + ls.length ≤ region.maxSize →
      Agree sha256 region session s s' →
      (run sha256 methods region s ls).filter (·.1.session = session) =
        run sha256 methods region s' (ls.filter (·.session = session))
  | [], _, _, _, _, _, _ => rfl
  | l :: ls, s, s', hls, hroom, hroom', h => by
    rw [length_cons] at hroom hroom'
    have hrest := fun l' hl' => hls l' (mem_cons_of_mem _ hl')
    have hgrow : ∀ t : region.Store, region.size t + (ls.length + 1) ≤ region.maxSize →
        region.size (lookup sha256 methods region t l).2 + ls.length ≤ region.maxSize := by
      intro t ht
      have hsize : region.size (lookup sha256 methods region t l).2 ≤ region.size t + 1 :=
        region.size_le ..
      omega
    by_cases hs : l.session = session
    · obtain ⟨hvalue, hagree⟩ := h.both methods hs (by omega) (by omega)
      rw [filter_cons_of_pos (by simpa using hs), run, run,
        filter_cons_of_pos (by simpa using hs), hvalue,
        filter_run_eq hrest (hgrow s hroom) (hgrow s' hroom') hagree]
    · have hagree := h.other methods (by omega)
        ((hls l mem_cons_self).resolve_left hs)
      rw [filter_cons_of_neg (by simpa using hs), run, filter_cons_of_neg (by simpa using hs)]
      exact filter_run_eq hrest (hgrow s hroom) (by omega) hagree

end Alone

section Isolation

variable {sha256 : String → Nat} {s₁ s₂ : VmsSession}

/-- While the memory is not full, the lookups of the second session may be left out. -/
theorem valuesOf_eq {ι ν : Type} {methods : Methods ι ν} {region : Region ν}
    {ls : List (Lookup ι)} (h : s₁.hash sha256 ≠ s₂.hash sha256)
    (hls : ∀ l ∈ ls, l.session = s₁ ∨ l.session = s₂) (hlen : ls.length ≤ region.maxSize) :
    valuesOf sha256 methods region s₁ ls =
      (run sha256 methods region region.empty (ls.filter (·.session = s₁))).map (·.2) := by
  have hapart : ∀ l ∈ ls, l.session = s₁ ∨ l.session.hash sha256 ≠ s₁.hash sha256 :=
    fun l hl => (hls l hl).imp_right fun h₂ => by rw [h₂]; exact h.symm
  have hroom : region.size region.empty + ls.length ≤ region.maxSize := by
    rw [region.size_empty, zero_add]
    exact hlen
  rw [valuesOf, filter_run_eq hapart hroom hroom fun _ => rfl]

theorem isolated_of_hash_ne (h : s₁.hash sha256 ≠ s₂.hash sha256) : Isolated sha256 s₁ s₂ where
  keys a b hkey := h (generateKey_inj.mp hkey).1
  own methods region ls hls r hr hs v hv := by
    have hempty : Answered sha256 methods region ls region.empty := by
      intro k e he
      rw [region.entry_empty] at he
      cases he
    obtain ⟨l, hl, hkey, hans, hnow⟩ := run_values hempty (fun _ hl => hl) r hr v hv
    obtain ⟨hhash, htext⟩ := generateKey_inj.mp hkey
    have hsession : l.session = s₁ := by
      refine (hls l hl).resolve_right fun h₂ => h ?_
      rw [← h₂, hhash, hs]
    exact ⟨l, hl, hsession, htext, hsession ▸ hans, hnow⟩
  alike methods region ls ls' hls hls' hlen hlen' hsame := by
    rw [valuesOf_eq h hls hlen, valuesOf_eq h hls' hlen', hsame]

/-- **When two sessions are isolated**: where the hash tells the two texts apart, exactly when the
texts differ. -/
theorem sessions_isolated_iff (sha256 : String → Nat) (s₁ s₂ : VmsSession)
    (hcollision : s₁.hash sha256 = s₂.hash sha256 → s₁.hashKey = s₂.hashKey) :
    Isolated sha256 s₁ s₂ ↔ s₁.hashKey ≠ s₂.hashKey := by
  constructor
  · intro h hsame
    refine h.keys "" "" (generateKey_inj.mpr ⟨?_, rfl⟩)
    rw [VmsSession.hash, VmsSession.hash, hsame]
  · exact fun hne => isolated_of_hash_ne fun hhash => hne (hcollision hhash)

end Isolation

def tenantUser (tenant : String) : VmsSession :=
  ⟨some "csi", some "secret", none, some tenant, some "vms", none, none⟩

def elsewhere : VmsSession :=
  ⟨some "csi", some "secret", none, some "a", some "vms-east", none, none⟩

/-- Two clusters, told apart by the length of the texts. -/
theorem sessions_isolated_iff_clusters : Isolated String.length (tenantUser "a") elsewhere ∧
      (tenantUser "a").hashKey ≠ elsewhere.hashKey :=
  have hne : (tenantUser "a").hashKey ≠ elsewhere.hashKey := by decide
  ⟨(sessions_isolated_iff String.length (tenantUser "a") elsewhere
    fun h => absurd h (by decide)).mpr hne, hne⟩

/-- The region that drops nothing. -/
def unbounded (ν : Type) : Region ν where
  Store := String → Option (ν × Nat)
  maxSize := 200
  empty := fun _ => none
  size := fun _ => 0
  entry := fun s => s
  getOrCreate := fun s k expiry now made =>
    ((fresh (s k) expiry now).or made,
      fun k' => if k' = k then renewed (s k) expiry now made else s k')
  size_empty := rfl
  entry_empty := fun _ => rfl
  size_le := fun _ _ _ _ _ => Nat.zero_le _
  value := fun _ _ _ _ _ => rfl
  kept := by
    intro s k expiry now made k' e he
    dsimp only at he
    split_ifs at he with hk
    · subst hk
      unfold renewed at he
      split at he
      next => exact .inl he
      next =>
        rcases Option.or_eq_some_iff.mp he with he | ⟨-, he⟩
        · obtain ⟨v, hmade, rfl⟩ := Option.map_eq_some_iff.mp he
          exact .inr ⟨rfl, hmade, rfl⟩
        · exact .inl he
    · exact .inl he
  room := fun _ _ _ _ _ _ _ => rfl

/-- A view policy that each tenant has under the same name. -/
def policies : Methods String String where
  baseKey name := name
  expirationTime _ := 300
  answer session name _ := some (pyStr session.tenant ++ "/" ++ name)

/-- The sessions differ in their tenant, and the second one is handed the policy of the first
one's tenant. -/
theorem tenants_share_a_key :
    tenantUser "a" ≠ tenantUser "b" ∧ ¬ Isolated String.length (tenantUser "a") (tenantUser "b") ∧
      valuesOf String.length policies (unbounded String) (tenantUser "b")
        [⟨tenantUser "a", "default", 0⟩, ⟨tenantUser "b", "default", 1⟩] = [some "a/default"] := by
  refine ⟨by decide, fun h => h.keys "" "" (by decide), by decide⟩

end VastCsi.Vms.SessionCache
