import Mathlib.Data.List.Sort
import VastCsi.Csi.MountString

/-!
# Is it NFSv4?

Three places decide from the mount options of a volume whether it is mounted with NFSv4: the
protocol of its view, the check of its view policy for TLS, and the protocol of its replica. The
first two ask `is_ver_nfs4_present`, with the list of the options and with the options joined to a
string. The third one is `nfsProtocols` in Go, which trims the key and the value.

For `is_ver_nfs4_present` a string is one option, so that only the first option of the list
decides there (`present_text`). A `Capability` brings the options as a sorted set, and the first
of them is the least one (`firstIsVersion4_sortedSet`).
-/

namespace VastCsi.Csi.Nfs4Options

open Lib.Tokens List Bool
open MountOptions

/-! ## The flags of a capability -/

/-- The `mount_options` of the two contexts of a volume. -/
structure Contexts where
  volume : Option Text := none
  publish : Option Text := none
  deriving DecidableEq, Repr

/-- `volume_context.get("mount_options", publish_context.get("mount_options", ""))`. -/
def Contexts.mountOptions (ctx : Contexts) : Text := ctx.volume.getD (ctx.publish.getD [])

inductive AccessType where
  | unset
  | block
  | mount (mountFlags : List Text)
  deriving DecidableEq, Repr

def AccessType.mountFlags : AccessType → List Text
  | .mount flags => flags
  | _ => []

/-- A capability of a request, as far as its mount flags go. -/
structure Capability where
  mountFlags : List Text
  deriving DecidableEq, Repr

/-- Options are compared as Python compares strings, by their code points. -/
abbrev optionLE (a b : Text) : Prop := String.ofList a ≤ String.ofList b

def sortedSet (l : List Text) : List Text := l.dedup.insertionSort optionLE

def mountFlags (ctx : Contexts) (flags : List Text) : List Text :=
  sortedSet (((splitMountFlags ctx.mountOptions ++ splitFlagList flags).filter
    (!·.isEmpty)).map (strip isSpace))

/-- The flags of the capability and those of the contexts, as one sorted set. -/
def Capability.make (ctx : Contexts) (access : AccessType) : Capability where
  mountFlags := Nfs4Options.mountFlags ctx access.mountFlags

/-- `mount_flags`, of the first capability that has any. -/
def flagsOf (caps : List Capability) : List Text :=
  ((caps.map (·.mountFlags)).find? (!·.isEmpty)).getD []

def flagsStr (caps : List Capability) : Text := joinCommas (flagsOf caps)

/-! ## The three decisions -/

def partition (opt : Text) : Text × Text :=
  (opt.takeWhile (· != '='), (opt.dropWhile (· != '=')).tail)

def versionNames : List Text := ["vers".toList, "nfsvers".toList]

def startsWith4 (value : Text) : Bool := value.head? == some '4'

def isVersion4 (opt : Text) : Bool :=
  versionNames.contains (partition opt).1 && startsWith4 (partition opt).2

/-- The argument of `is_ver_nfs4_present`. -/
inductive Options where
  | text (s : Text)
  | list (l : List Text)
  deriving DecidableEq, Repr

def Options.listify : Options → List Text
  | .text s => [s]
  | .list l => l

def isVerNfs4Present (options : Options) : Bool := options.listify.any isVersion4

def mountProtocol (caps : List Capability) : String :=
  if isVerNfs4Present (.list (flagsOf caps)) then "NFS4" else "NFS"

/-- `get_xprtsec_from_mount_options`, of a string: the value of the first `xprtsec`. -/
def getXprtsec (mountOptions : Text) : Except Text Text :=
  match ((mountOptions.splitOnP isComma).map partition).find? (·.1 == "xprtsec".toList) with
  | none => .ok []
  | some (_, value) =>
    if [[], "tls".toList, "mtls".toList].contains value then .ok value else .error value

structure ViewPolicy where
  name : String
  nfsEnforceTls : Bool := false
  nfsEnforceTlsRelaxed : Bool := false
  nfsEnforceMtls : Bool := false
  deriving DecidableEq, Repr

/-- The message for NFSv3, which needs more protocols than NFS. -/
def notRelaxed (policy : ViewPolicy) (xprtsec : String) : String :=
  s!"View policy '{policy.name}' has nfs_enforce_tls_relaxed=False, " ++
    s!"but xprtsec='{xprtsec}' with NFSv3 requires nfs_enforce_tls_relaxed=True " ++
    "to allow NLM/NSM/MOUNT protocols."

def validateXprtsecViewPolicy (policy : ViewPolicy) (xprtsec : Text) (isNfs4 : Bool) :
    Except String Unit :=
  let strict := policy.nfsEnforceTls && !isNfs4 && !policy.nfsEnforceTlsRelaxed
  if xprtsec = [] then
    if policy.nfsEnforceTls then
      .error (s!"View policy '{policy.name}' has nfs_enforce_tls=True, " ++
        "but xprtsec is not set. Plain NFS is not allowed. " ++
        "Set xprtsec='tls' or 'mtls' in StorageClass mountOptions.")
    else if policy.nfsEnforceMtls then
      .error (s!"View policy '{policy.name}' has nfs_enforce_mtls=True, " ++
        "but xprtsec is not set. Plain NFS is not allowed. " ++
        "Set xprtsec='mtls' in StorageClass mountOptions.")
    else .ok ()
  else if xprtsec = "tls".toList then
    if strict then .error (notRelaxed policy "tls")
    else if policy.nfsEnforceMtls then
      .error (s!"View policy '{policy.name}' has nfs_enforce_mtls=True. " ++
        "xprtsec='tls' is not sufficient; use xprtsec='mtls' instead.")
    else .ok ()
  else if xprtsec = "mtls".toList then
    if strict then .error (notRelaxed policy "mtls") else .ok ()
  else .ok ()

/-- `validate_xprtsec_settings`, once the policy is found. -/
def validateXprtsecSettings (mountOptions : Text) (policy : ViewPolicy) : Except String Unit :=
  match getXprtsec mountOptions with
  | .error value =>
    let shown := String.ofList value
    .error s!"Invalid xprtsec value: '{shown}'. Must be one of ('', 'tls', 'mtls')"
  | .ok xprtsec => validateXprtsecViewPolicy policy xprtsec (isVerNfs4Present (.text mountOptions))

def goIsSpace (c : Char) : Bool :=
  let n := c.toNat
  (0x09 ≤ n && n ≤ 0x0d) || n == 0x20 || n == 0x85 || n == 0xa0 || n == 0x1680 ||
    (0x2000 ≤ n && n ≤ 0x200a) || n == 0x2028 || n == 0x2029 || n == 0x202f || n == 0x205f ||
    n == 0x3000

/-- `splitMountOption`: the key, the value and whether there is one. -/
def splitMountOption (opt : Text) : Text × Text × Bool :=
  if opt.contains '=' then
    (strip goIsSpace (partition opt).1, strip goIsSpace (partition opt).2, true)
  else (strip goIsSpace opt, [], false)

def goIsVersion4 (opt : Text) : Bool :=
  let (key, value, ok) := splitMountOption opt
  ok && versionNames.contains key && startsWith4 value

def nfsProtocols (mountOptions : List Text) : List String :=
  if mountOptions.any goIsVersion4 then ["NFS4"] else ["NFS"]

/-! ## When they agree -/

/-- The options of the volume that the driver has, and those of its StorageClass, lead to one
decision in all three places. -/
structure Agree (flags storageClass : List Text) : Prop where
  tls : isVerNfs4Present (.text (joinCommas flags)) = isVerNfs4Present (.list flags)
  replica : nfsProtocols storageClass = ["NFS4"] ↔ isVerNfs4Present (.list flags) = true

def FirstIsVersion4 (flags : List Text) : Prop := ∃ o rest, flags = o :: rest ∧ isVersion4 o = true

theorem nfsProtocols_iff {l : List Text} :
    nfsProtocols l = ["NFS4"] ↔ ∃ o ∈ l, goIsVersion4 o = true := by
  rw [← any_eq_true, nfsProtocols]
  by_cases h : l.any goIsVersion4 = true
  · rw [if_pos h]
    exact iff_of_true rfl h
  · rw [if_neg h]
    exact iff_of_false (by decide) h

theorem present_list_iff {l : List Text} :
    isVerNfs4Present (.list l) = true ↔ ∃ o ∈ l, isVersion4 o = true :=
  any_eq_true

theorem partition_eq (l : Text) : partition ('=' :: l) = ([], l) := rfl

theorem partition_cons {c : Char} (h : c ≠ '=') (l : Text) :
    partition (c :: l) = (c :: (partition l).1, (partition l).2) := by
  simp [partition, h]

variable {o : Text}

theorem partition_append (h : '=' ∈ o) (t : Text) :
    partition (o ++ t) = ((partition o).1, (partition o).2 ++ t) := by
  induction o with
  | nil => cases h
  | cons c o ih =>
    by_cases hc : c = '='
    · subst hc
      rw [cons_append, partition_eq, partition_eq]
    · have hmem : '=' ∈ o := by
        rcases mem_cons.mp h with heq | hmem
        · exact absurd heq.symm hc
        · exact hmem
      rw [cons_append, partition_cons hc, partition_cons hc, ih hmem]

theorem partition_of_not_mem (h : '=' ∉ o) (t : Text) :
    (partition (o ++ t)).1 = o ++ (partition t).1 := by
  induction o with
  | nil => rfl
  | cons c o ih =>
    have hc : c ≠ '=' := fun heq => h (heq ▸ mem_cons_self)
    have ho : '=' ∉ o := fun hmem => h (mem_cons_of_mem c hmem)
    rw [cons_append, partition_cons hc, ih ho]
    rfl

theorem isVersion4_iff : isVersion4 o = true ↔
    (partition o).1 ∈ versionNames ∧ ∃ rest, (partition o).2 = '4' :: rest := by
  rw [isVersion4, and_eq_true, contains_iff_mem, startsWith4, beq_iff_eq, head?_eq_some_iff]

theorem mem_of_isVersion4 (h : isVersion4 o = true) : '=' ∈ o := by
  by_contra hmem
  have hvalue : (partition o).2 = [] := by
    have hdrop : o.dropWhile (· != '=') = [] := dropWhile_eq_nil_iff.mpr fun c hc =>
      bne_iff_ne.mpr fun heq => hmem (heq ▸ hc)
    rw [partition, hdrop]
    rfl
  obtain ⟨-, rest, hrest⟩ := isVersion4_iff.mp h
  rw [hvalue] at hrest
  cases hrest

theorem isVersion4_append_comma (o t : Text) : isVersion4 (o ++ ',' :: t) = isVersion4 o := by
  rw [Bool.eq_iff_iff]
  by_cases hmem : '=' ∈ o
  · rw [isVersion4_iff, isVersion4_iff, partition_append hmem]
    refine and_congr_right fun _ => ?_
    -- an empty value is followed by the comma
    cases (partition o).2 with
    | nil => simp
    | cons c value => simp
  · refine iff_of_false (fun h => ?_) fun h => hmem (mem_of_isVersion4 h)
    obtain ⟨hname, -⟩ := isVersion4_iff.mp h
    rw [partition_of_not_mem hmem, partition_cons (by decide)] at hname
    have hcomma : ∀ name ∈ versionNames, ',' ∉ name := by decide
    exact hcomma _ hname (List.mem_append_right o List.mem_cons_self)

theorem present_text {flags : List Text} :
    isVerNfs4Present (.text (joinCommas flags)) = true ↔ FirstIsVersion4 flags := by
  have hone : ∀ s : Text, isVerNfs4Present (.text s) = isVersion4 s := by
    intro s
    exact or_false _
  rw [hone]
  have hfirst : ∀ o rest, isVersion4 o = true ↔ FirstIsVersion4 (o :: rest) := by
    intro o rest
    constructor
    · intro h
      exact ⟨o, rest, rfl, h⟩
    · rintro ⟨_, _, heq, h⟩
      exact (List.cons.inj heq).1 ▸ h
  match flags with
  | [] =>
    refine iff_of_false (by decide) ?_
    rintro ⟨o, rest, heq, -⟩
    cases heq
  | [o] =>
    have hjoin : joinCommas [o] = o := by simp [joinCommas, List.intercalate]
    rw [hjoin]
    exact hfirst o []
  | o :: g :: rest =>
    rw [joinCommas_cons, isVersion4_append_comma]
    exact hfirst o _

theorem goIsVersion4_of_isVersion4 (h : isVersion4 o = true) : goIsVersion4 o = true := by
  have hmem : o.contains '=' = true := contains_iff_mem.mpr (mem_of_isVersion4 h)
  obtain ⟨hname, rest, hvalue⟩ := isVersion4_iff.mp h
  have htrim : ∀ name ∈ versionNames, strip goIsSpace name = name := by decide
  obtain ⟨m, hm⟩ := head_strip (p := goIsSpace) (x := '4') (l := rest) (by decide)
  have hcontains : versionNames.contains (partition o).1 = true := contains_iff_mem.mpr hname
  rw [goIsVersion4, splitMountOption, if_pos hmem, htrim _ hname, hvalue, hm]
  simp only [hcontains]
  rfl

theorem mem_sortedSet {l : List Text} : o ∈ sortedSet l ↔ o ∈ l := by
  rw [sortedSet, mem_insertionSort, mem_dedup]

theorem strip_of_mem_splitLoop :
    ∀ {l : Text} {q : Bool} {buf : Text}, o ∈ splitLoop l q buf → o ≠ [] ∧ strip isSpace o = o := by
  have hemit : ∀ {buf : Text}, o ∈ emit buf → o ≠ [] ∧ strip isSpace o = o := by
    intro buf h
    rw [mem_emit h, strip_strip]
    refine ⟨fun hnil => ?_, rfl⟩
    rw [emit, hnil] at h
    cases h
  intro l
  induction l with
  | nil => exact hemit
  | cons c l ih =>
    intro q buf h
    rw [splitLoop] at h
    by_cases hquote : (c == '"') = true
    · rw [if_pos hquote] at h
      exact ih h
    · rw [if_neg hquote] at h
      by_cases hsep : (!q && (isComma c || isSpace c)) = true
      · rw [if_pos hsep] at h
        rcases mem_append.mp h with h | h
        · exact hemit h
        · exact ih h
      · rw [if_neg hsep] at h
        exact ih h

theorem mountFlags_eq (ctx : Contexts) (flags : List Text) : mountFlags ctx flags =
      sortedSet (splitMountFlags ctx.mountOptions ++ splitFlagList flags) := by
  have hwords : ∀ w ∈ splitMountFlags ctx.mountOptions ++ splitFlagList flags,
      w ≠ [] ∧ strip isSpace w = w := by
    intro w hw
    rcases mem_append.mp hw with hw | hw
    · exact strip_of_mem_splitLoop hw
    · obtain ⟨item, -, hw⟩ := mem_flatMap.mp hw
      exact strip_of_mem_splitLoop hw
  rw [mountFlags, filter_eq_self.mpr, map_congr_left (g := id), map_id]
  · intro w hw
    exact (hwords w hw).2
  · intro w hw
    have hne := (hwords w hw).1
    simpa using hne

/-- The first option of the sorted set is the least one. -/
theorem firstIsVersion4_sortedSet {l : List Text} : FirstIsVersion4 (sortedSet l) ↔
    ∃ o ∈ l, isVersion4 o = true ∧ ∀ o' ∈ l, optionLE o o' := by
  have hsorted : (sortedSet l).Pairwise optionLE := pairwise_insertionSort optionLE _
  constructor
  · rintro ⟨o, rest, heq, ho⟩
    rw [heq, pairwise_cons] at hsorted
    refine ⟨o, mem_sortedSet.mp (heq ▸ mem_cons_self), ho, fun o' ho' => ?_⟩
    rw [← mem_sortedSet, heq, mem_cons] at ho'
    rcases ho' with rfl | ho'
    · exact String.le_refl _
    · exact hsorted.1 o' ho'
  · rintro ⟨o, hmem, ho, hleast⟩
    have hin := mem_sortedSet.mpr hmem
    match heq : sortedSet l with
    | [] =>
      rw [heq] at hin
      cases hin
    | x :: rest =>
      rw [heq] at hin hsorted
      have hxo : optionLE x o := by
        rcases mem_cons.mp hin with rfl | hin
        · exact String.le_refl _
        · exact (pairwise_cons.mp hsorted).1 o hin
      have hx : x ∈ l := mem_sortedSet.mp (heq ▸ mem_cons_self)
      have hsame : x = o := String.ofList_injective (String.le_antisymm hxo (hleast x hx))
      exact ⟨x, rest, rfl, hsame ▸ ho⟩

/-- Without contexts the driver has the words of the options, in order. -/
theorem flagsOf_mount (options : List Text) :
    flagsOf [Capability.make {} (.mount options)] = sortedSet (splitFlagList options) := by
  have hflags : mountFlags {} options = sortedSet (splitFlagList options) :=
    mountFlags_eq {} options
  have hfirst : ∀ l : List Text, ([l].find? (!·.isEmpty)).getD [] = l := by
    intro l
    cases l <;> rfl
  rw [← hflags]
  exact hfirst _

theorem agree_iff {flags storageClass : List Text} : Agree flags storageClass ↔
    (∀ o ∈ storageClass, goIsVersion4 o = false) ∧ (∀ o ∈ flags, isVersion4 o = false) ∨
      (∃ o ∈ storageClass, goIsVersion4 o = true) ∧ FirstIsVersion4 flags := by
  have hfirst : FirstIsVersion4 flags → ∃ o ∈ flags, isVersion4 o = true := by
    intro ⟨o, rest, heq, ho⟩
    exact ⟨o, heq ▸ mem_cons_self, ho⟩
  have hnone : ∀ {f : Text → Bool} {l : List Text},
      (∀ o ∈ l, f o = false) ↔ ¬∃ o ∈ l, f o = true := by
    intro f l
    simp
  constructor
  · intro ⟨htls, hreplica⟩
    rw [Bool.eq_iff_iff, present_text, present_list_iff] at htls
    rw [nfsProtocols_iff, present_list_iff] at hreplica
    by_cases h : ∃ o ∈ flags, isVersion4 o = true
    · exact .inr ⟨hreplica.mpr h, htls.mpr h⟩
    · exact .inl ⟨hnone.mpr fun hgo => h (hreplica.mp hgo), hnone.mpr h⟩
  · intro h
    constructor
    · rw [Bool.eq_iff_iff, present_text, present_list_iff]
      rcases h with ⟨-, hflags⟩ | ⟨-, hhead⟩
      · exact iff_of_false (fun hhead => hnone.mp hflags (hfirst hhead)) (hnone.mp hflags)
      · exact iff_of_true hhead (hfirst hhead)
    · rw [nfsProtocols_iff, present_list_iff]
      rcases h with ⟨hgo, hflags⟩ | ⟨hgo, hhead⟩
      · exact iff_of_false (hnone.mp hgo) (hnone.mp hflags)
      · exact iff_of_true hgo (hfirst hhead)

/-- **When the three places agree**, for one list of options, and for the options of a
StorageClass as they reach the driver: no option asks for NFSv4, or the first one does, in the
list or among the words of the options in their order. -/
theorem decisions_agree_iff (options : List Text) :
    (Agree options options ↔ (∀ o ∈ options, goIsVersion4 o = false) ∨ FirstIsVersion4 options) ∧
    (Agree (flagsOf [Capability.make {} (.mount options)]) options ↔
      (∀ o ∈ options, goIsVersion4 o = false) ∧
          (∀ o ∈ splitFlagList options, isVersion4 o = false) ∨
        (∃ o ∈ options, goIsVersion4 o = true) ∧
          ∃ o ∈ splitFlagList options, isVersion4 o = true ∧
            ∀ o' ∈ splitFlagList options, optionLE o o') := by
  constructor
  · rw [agree_iff]
    constructor
    · intro h
      rcases h with ⟨hgo, -⟩ | ⟨-, hhead⟩
      · exact .inl hgo
      · exact .inr hhead
    · intro h
      rcases h with hgo | ⟨o, rest, heq, ho⟩
      · refine .inl ⟨hgo, fun o ho => eq_false_iff.mpr fun hv => ?_⟩
        have hfalse := hgo o ho
        rw [goIsVersion4_of_isVersion4 hv] at hfalse
        cases hfalse
      · exact .inr ⟨⟨o, heq ▸ mem_cons_self, goIsVersion4_of_isVersion4 ho⟩, o, rest, heq, ho⟩
  · rw [flagsOf_mount, agree_iff, firstIsVersion4_sortedSet]
    simp only [mem_sortedSet]

def tlsOptions : List Text := ["nconnect=8".toList, "vers=4.2".toList, "xprtsec=tls".toList]

def tlsVolume : List Capability :=
  [Capability.make {} (.mount tlsOptions)]

/-- The version is not the first option: view and replica are NFSv4, and the policy check takes
the volume for NFSv3. -/
theorem version_behind_other_option :
    flagsOf tlsVolume = tlsOptions ∧ mountProtocol tlsVolume = "NFS4" ∧
      nfsProtocols tlsOptions = ["NFS4"] ∧
      isVerNfs4Present (.text (flagsStr tlsVolume)) = false ∧
      ¬Agree tlsOptions tlsOptions ∧ ¬Agree (flagsOf tlsVolume) tlsOptions ∧
      validateXprtsecSettings (flagsStr tlsVolume) ⟨"strict", true, false, false⟩ =
        .error (notRelaxed ⟨"strict", true, false, false⟩ "tls") := by
  have hflags : flagsOf tlsVolume = tlsOptions := by decide
  have htext : isVerNfs4Present (.text (joinCommas tlsOptions)) = false := by decide
  have hdiffer : ¬Agree tlsOptions tlsOptions := fun h => by
    have htls := h.tls
    rw [htext] at htls
    exact absurd htls (by decide)
  have hstr : flagsStr tlsVolume = joinCommas tlsOptions := by rw [flagsStr, hflags]
  refine ⟨hflags, ?_, by decide, ?_, hdiffer, ?_, ?_⟩
  · rw [mountProtocol, hflags]
    decide
  · rw [hstr, htext]
  · rw [hflags]
    exact hdiffer
  · have hsec : getXprtsec (joinCommas tlsOptions) = .ok "tls".toList := by rfl
    rw [hstr, validateXprtsecSettings, hsec]
    simp only [htext]
    rfl

end VastCsi.Csi.Nfs4Options
