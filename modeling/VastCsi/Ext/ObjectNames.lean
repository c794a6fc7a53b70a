import VastCsi.Ext.Owners
import VastCsi.Lib.Registry
import VastCsi.Lib.Runs
import VastCsi.Lib.Trace

/-!
# The names of replication objects

For each StorageClass of an owner there are a cluster-scoped replication class and a
VolumeGroupReplication or VolumeReplication in the namespace of the PVCs, all found by name. The
names join the owner's name, the StorageClass and the provisioner with dashes, which the names may
contain themselves: `groupName` keeps the pieces between the dashes and `className` the words up
to 253 characters.
-/

namespace VastCsi.Ext.Names

open Lib Lib.Text CsiAddons List

def isNameChar (c : Char) : Bool :=
  ('a' ≤ c && c ≤ 'z') || ('0' ≤ c && c ≤ '9') || c == '-' || c == '.'

def isEdge (c : Char) : Bool := c == '-' || c == '.'

/-- `unicode.ToLower`, as far as names can tell: besides the letters A to Z two characters have
an ASCII letter below them, the dotted capital I and the Kelvin sign. Of every other one it makes
a character that no name has. -/
def toLower (c : Char) : Char :=
  if c = '\u0130' then 'i' else if c = '\u212a' then 'k' else c.toLower

/-- `strings.ToLower`, then a dash for what is not allowed. -/
def cleanChar (c : Char) : Char := if isNameChar (toLower c) then toLower c else '-'

def trimEdges (l : List Char) : List Char := (l.dropWhile isEdge).rdropWhile isEdge

def sanitizeK8sName (name : List Char) : List Char :=
  let sanitized := clip isEdge 253 (trimEdges (collapse '-' (name.map cleanChar)))
  if sanitized = [] then "resource".toList else sanitized

/-- What the API server lets through as an object's name; of a DNS subdomain only
that dots and dashes are not at the ends. -/
def isK8sName (l : List Char) : Bool :=
  l.all isNameChar && l.head?.any (!isEdge ·) && l.getLast?.any (!isEdge ·)

structure K8sName where
  text : String
  valid : isK8sName text.toList = true
  deriving DecidableEq

structure Request where
  kind : OwnerKind
  namespaceName : String
  name : K8sName
  pvcNamespace : String
  storageClass : K8sName
  deriving DecidableEq

def Request.triple (t : Request) : String × String × String :=
  (t.namespaceName, t.name.text, t.storageClass.text)

def slugify (l : List Char) : List Char := l.map fun c => if c = '.' ∨ c = ':' then '-' else c

/-- The suffixes of `VSCRReplicationClassFormat` and `VVRReplicationClassFormat`. -/
def classSuffix : OwnerKind → List Char
  | .vscr => "vscr".toList
  | .vvr => "vvr".toList

/-- `FormatReplicationClassName` with the two formats: `{sc_name}-{provisioner}-vscr`. -/
def formatReplicationClassName (kind : OwnerKind) (scName provisioner : List Char) : List Char :=
  sanitizeK8sName (scName ++ '-' :: (slugify provisioner ++ '-' :: classSuffix kind))

section Requests

variable (provisioner : String → String)

/-- The class name of `ensureReplicationClasses`, `ensureVolumeReplicationClass`. -/
def className (t : Request) : String :=
  String.ofList (sanitizeK8sName (t.name.text.toList ++ '-' ::
    formatReplicationClassName t.kind t.storageClass.text.toList
      (provisioner t.storageClass.text).toList))

/-- Where the VGR or VR is: its namespace, and `vgrNameForSC` or `vrNameForSC`. -/
def groupKey (t : Request) : String × String :=
  (t.pvcNamespace, nameForSC t.name.text t.storageClass.text)

/-- The classes by name and the VGRs or VRs by namespace and name, each with the request it was
made for. -/
structure Objects where
  classes : Registry String Request
  groups : Registry (String × String) Request

def Objects.empty : Objects := ⟨fun _ => none, fun _ => none⟩

/-- What reconciling and deletion do with the objects of one StorageClass. -/
inductive Step where
  | ensureReplicationClasses (t : Request)
  | ensureGroup (t : Request)
  | deleteGroup (t : Request)

namespace Step

def request : Step → Request
  | ensureReplicationClasses t | ensureGroup t | deleteGroup t => t

/-- An existing object is left as it is, and what is found by the name is deleted. -/
def apply (s : Objects) : Step → Objects
  | ensureReplicationClasses t => { s with classes := s.classes.ensure (className provisioner t) t }
  | ensureGroup t => { s with groups := s.groups.ensure (groupKey t) t }
  | deleteGroup t => { s with groups := s.groups.remove (groupKey t) }

/-- The step takes or deletes an object that was made for another request. -/
def Crosses (s : Objects) : Step → Prop
  | ensureReplicationClasses t => s.classes.Crosses (className provisioner t) t
  | ensureGroup t => s.groups.Crosses (groupKey t) t
  | deleteGroup t => s.groups.Crosses (groupKey t) t

instance (s : Objects) : ∀ st : Step, Decidable (st.Crosses provisioner s)
  | ensureReplicationClasses t =>
    inferInstanceAs (Decidable (s.classes.Crosses (className provisioner t) t))
  | ensureGroup t => inferInstanceAs (Decidable (s.groups.Crosses (groupKey t) t))
  | deleteGroup t => inferInstanceAs (Decidable (s.groups.Crosses (groupKey t) t))

end Step

def step (ts : List Request) (s : Objects) (st : Step) : Option Objects :=
  if st.request ∈ ts then some (st.apply provisioner s) else none

/-- Whatever these requests do, in any order, none gets at an object of another. -/
def Undisturbed (ts : List Request) : Prop :=
  ∀ s, Reachable (step provisioner ts) Objects.empty s →
    ∀ st : Step, st.request ∈ ts → ¬st.Crosses provisioner s

/-- Names that differ, and what they are to differ for. -/
structure Apart (t₁ t₂ : Request) : Prop where
  group : groupKey t₁ ≠ groupKey t₂
  replicationClass : className provisioner t₁ ≠ className provisioner t₂
  undisturbed : Undisturbed provisioner [t₁, t₂]

/-- The pieces a VGR's or VR's name keeps: of the owner's name and of the
StorageClass, split at dashes, there also at dots. -/
def groupPieces (t : Request) : List (List Char) :=
  t.name.text.toList.splitOn '-' ++
    (t.storageClass.text.toList.map fun c => if c = '.' then '-' else c).splitOn '-'

/-- The words a class name keeps: of the owner's name, the StorageClass, the
provisioner, and the kind. -/
def classWords (t : Request) : List (List Char) :=
  words '-' t.name.text.toList ++ (words '-' t.storageClass.text.toList ++
    (words '-' ((slugify (provisioner t.storageClass.text).toList).map cleanChar) ++
      [classSuffix t.kind]))

/-- The words are too many for a name, and the names agree where they are cut. -/
def CutAlike (t₁ t₂ : Request) : Prop :=
  (253 < (unwords '-' (classWords provisioner t₁)).length ∨
      253 < (unwords '-' (classWords provisioner t₂)).length) ∧
    clip isEdge 253 (unwords '-' (classWords provisioner t₁)) =
      clip isEdge 253 (unwords '-' (classWords provisioner t₂))

/-- The requests share no PVC namespace or differ in the pieces, and they differ in
the words, within the length of a name. -/
structure WordsApart (t₁ t₂ : Request) : Prop where
  pieces : t₁.pvcNamespace = t₂.pvcNamespace → groupPieces t₁ ≠ groupPieces t₂
  words : classWords provisioner t₁ ≠ classWords provisioner t₂
  cut : ¬CutAlike provisioner t₁ t₂

end Requests

theorem cleanChar_eq_self {c : Char} (h : isNameChar c = true) : cleanChar c = c := by
  have hlow : toLower c = c := by
    have hdot : c ≠ '\u0130' := by rintro rfl; exact absurd h (by decide)
    have hkelvin : c ≠ '\u212a' := by rintro rfl; exact absurd h (by decide)
    rw [toLower, if_neg hdot, if_neg hkelvin]
    refine dif_neg ?_
    rintro ⟨hA, hZ⟩
    simp only [isNameChar, Bool.or_eq_true, Bool.and_eq_true, decide_eq_true_eq, beq_iff_eq,
      Char.le_def, ge_iff_le, UInt32.le_iff_toNat_le] at h hA hZ
    change 65 ≤ c.val.toNat at hA
    change c.val.toNat ≤ 90 at hZ
    rcases h with ((h | h) | rfl) | rfl
    · change 97 ≤ c.val.toNat ∧ _ at h
      omega
    · change _ ∧ c.val.toNat ≤ 57 at h
      omega
    · exact absurd hA (by decide)
    · exact absurd hA (by decide)
  rw [cleanChar, hlow, if_pos h]

theorem isNameChar_cleanChar (c : Char) : isNameChar (cleanChar c) = true := by
  rw [cleanChar]
  split
  next h => exact h
  next => rfl

theorem map_cleanChar {l : List Char} (h : ∀ c ∈ l, isNameChar c = true) : l.map cleanChar = l := by
  calc l.map cleanChar = l.map id := map_congr_left fun c hc => cleanChar_eq_self (h c hc)
    _ = l := map_id l

/-- A text that neither begins nor ends with a dash or a dot. -/
structure Framed (l : List Char) : Prop where
  first : ∃ x, l.head? = some x ∧ isEdge x = false
  last : ∃ x, l.getLast? = some x ∧ isEdge x = false

namespace Framed

variable {l a b : List Char}

theorem ne_nil (h : Framed l) : l ≠ [] := by
  rintro rfl
  obtain ⟨x, hx, _⟩ := h.first
  cases hx

theorem head?_ne (h : Framed l) : l.head? ≠ some '-' := by
  obtain ⟨x, hx, he⟩ := h.first
  rw [hx]
  rintro heq
  rw [Option.some.inj heq] at he
  cases he

theorem getLast?_ne (h : Framed l) : l.getLast? ≠ some '-' := by
  obtain ⟨x, hx, he⟩ := h.last
  rw [hx]
  rintro heq
  rw [Option.some.inj heq] at he
  cases he

theorem append (ha : Framed a) (m : List Char) (hb : Framed b) : Framed (a ++ (m ++ b)) := by
  obtain ⟨x, hx, hxe⟩ := ha.first
  obtain ⟨y, hy, hye⟩ := hb.last
  refine ⟨⟨x, ?_, hxe⟩, ⟨y, ?_, hye⟩⟩
  · rw [head?_append, hx]
    rfl
  · rw [getLast?_append, getLast?_append, hy]
    rfl

theorem squeeze (h : Framed l) : Framed (squeeze '-' l) := by
  refine ⟨?_, ?_⟩
  · rw [head?_squeeze]
    exact h.first
  · rw [getLast?_squeeze]
    exact h.last

theorem clip (h : Framed l) : Framed (clip isEdge 253 l) := by
  obtain ⟨x, hx, hxe⟩ := h.first
  obtain ⟨hne, hlast⟩ := clip_getLast (n := 253) (by omega) hx hxe fun y hy => by
    obtain ⟨z, hz, hze⟩ := h.last
    rw [hz] at hy
    rw [← Option.some.inj hy]
    exact hze
  refine ⟨⟨x, ?_, hxe⟩, ⟨_, getLast?_eq_getLast_of_ne_nil hne, hlast _ ?_⟩⟩
  · obtain ⟨rest, hrest⟩ := prefix_clip isEdge 253 l
    rw [← hrest, head?_append_of_ne_nil _ hne] at hx
    exact hx
  · exact getLast?_eq_getLast_of_ne_nil hne

/-- What is framed has nothing to trim. -/
theorem trimEdges (h : Framed l) : trimEdges l = l := by
  obtain ⟨x, hx, hxe⟩ := h.first
  obtain ⟨y, hy, hye⟩ := h.last
  cases l with
  | nil => cases hx
  | cons z l =>
    obtain rfl : z = x := Option.some.inj hx
    rw [Names.trimEdges, dropWhile_cons_of_neg (by rw [hxe]; exact Bool.false_ne_true),
      rdropWhile_eq_self_iff.mpr]
    intro hne
    rw [getLast?_eq_getLast_of_ne_nil hne] at hy
    rw [Option.some.inj hy, hye]
    exact Bool.false_ne_true

end Framed

/-- Sanitizing what is framed once it is cleaned: runs are squeezed and the length is cut. -/
theorem sanitizeK8sName_eq {l : List Char} (h : Framed (l.map cleanChar)) :
    sanitizeK8sName l = clip isEdge 253 (squeeze '-' (l.map cleanChar)) := by
  have hsq := h.squeeze
  rw [sanitizeK8sName, collapse_eq_squeeze, hsq.trimEdges]
  exact if_neg hsq.clip.ne_nil

theorem K8sName.framed (n : K8sName) : Framed n.text.toList := by
  have h := n.valid
  simp only [isK8sName, Bool.and_eq_true, Option.any_eq_true, Bool.not_eq_true'] at h
  obtain ⟨⟨-, hfirst⟩, hlast⟩ := h
  exact ⟨hfirst, hlast⟩

/-- The characters of a name are those a name may have. -/
theorem K8sName.isNameChar (n : K8sName) : ∀ c ∈ n.text.toList, isNameChar c = true := by
  have h := n.valid
  simp only [isK8sName, Bool.and_eq_true] at h
  exact all_eq_true.mp h.1.1

theorem framed_classSuffix (kind : OwnerKind) : Framed (classSuffix kind) := by
  cases kind with
  | vscr => exact ⟨⟨'v', rfl, rfl⟩, ⟨'r', rfl, rfl⟩⟩
  | vvr => exact ⟨⟨'v', rfl, rfl⟩, ⟨'r', rfl, rfl⟩⟩

theorem isNameChar_classSuffix (kind : OwnerKind) :
    ∀ c ∈ classSuffix kind, isNameChar c = true := by
  refine all_eq_true.mp ?_
  cases kind <;> rfl

theorem words_classSuffix (kind : OwnerKind) :
    words '-' (classSuffix kind) = [classSuffix kind] := by
  cases kind <;> decide

def rawClassName (provisioner : String → String) (t : Request) : List Char :=
  t.storageClass.text.toList ++ '-' ::
    ((slugify (provisioner t.storageClass.text).toList).map cleanChar ++ '-' :: classSuffix t.kind)

section Requests

variable {provisioner : String → String} {t t₁ t₂ : Request}

theorem framed_rawClassName : Framed (rawClassName provisioner t) := by
  have h := t.storageClass.framed.append
    ('-' :: ((slugify (provisioner t.storageClass.text).toList).map cleanChar ++ ['-']))
    (framed_classSuffix t.kind)
  simpa [rawClassName] using h

theorem formatReplicationClassName_eq : formatReplicationClassName t.kind t.storageClass.text.toList
        (provisioner t.storageClass.text).toList =
      clip isEdge 253 (squeeze '-' (rawClassName provisioner t)) := by
  have hclean : (t.storageClass.text.toList ++ '-' ::
      (slugify (provisioner t.storageClass.text).toList ++ '-' :: classSuffix t.kind)).map
        cleanChar = rawClassName provisioner t := by
    rw [map_append, map_cons, map_append, map_cons,
      map_cleanChar t.storageClass.isNameChar, map_cleanChar (isNameChar_classSuffix t.kind)]
    rfl
  rw [formatReplicationClassName, sanitizeK8sName_eq (by rw [hclean]; exact framed_rawClassName),
    hclean]

theorem isNameChar_rawClassName : ∀ c ∈ rawClassName provisioner t, isNameChar c = true := by
  intro c hc
  simp only [rawClassName, mem_append, mem_cons, mem_map] at hc
  rcases hc with hc | rfl | ⟨x, -, rfl⟩ | rfl | hc
  · exact t.storageClass.isNameChar c hc
  · rfl
  · exact isNameChar_cleanChar x
  · rfl
  · exact isNameChar_classSuffix t.kind c hc

theorem words_rawClassName : words '-' (t.name.text.toList ++ '-' :: rawClassName provisioner t) =
      classWords provisioner t := by
  rw [words_append, rawClassName, words_append, words_append, words_classSuffix]
  rfl

/-- **A class name is its words**, joined by single dashes and cut to 253. -/
theorem className_eq : className provisioner t =
      String.ofList (clip isEdge 253 (unwords '-' (classWords provisioner t))) := by
  have hraw : Framed (rawClassName provisioner t) := framed_rawClassName
  have hname := t.name.framed
  have hbase := hraw.squeeze.clip
  -- the base name is clean, so that sanitizing the whole leaves it as it is
  have hclean : ∀ c ∈ t.name.text.toList ++
      '-' :: clip isEdge 253 (squeeze '-' (rawClassName provisioner t)), isNameChar c = true := by
    intro c hc
    rcases mem_append.mp hc with hc | hc
    · exact t.name.isNameChar c hc
    rcases mem_cons.mp hc with rfl | hc
    · rfl
    · exact isNameChar_rawClassName c (mem_of_mem_squeeze ((prefix_clip _ _ _).subset hc))
  obtain ⟨x, hx, hxe⟩ := hraw.squeeze.first
  have hwhole : Framed (t.name.text.toList ++ '-' :: rawClassName provisioner t) :=
    hname.append ['-'] hraw
  rw [className, formatReplicationClassName_eq, sanitizeK8sName_eq, map_cleanChar hclean]
  · -- squeezing goes through the joint, and the base is cut again with the whole
    rw [squeeze_append_cons hbase.head?_ne hname.getLast?_ne,
      squeeze_eq_of_start (prefix_clip _ _ _), append_cons, clip_append_clip (by omega) hx hxe,
      ← append_cons, ← squeeze_append_cons hraw.head?_ne hname.getLast?_ne,
      squeeze_eq_unwords hwhole.head?_ne hwhole.getLast?_ne, words_rawClassName]
  · rw [map_cleanChar hclean]
    exact hname.append ['-'] hbase

theorem dash_not_mem_classWords : ∀ w ∈ classWords provisioner t, '-' ∉ w := by
  intro w hw
  rw [← words_rawClassName] at hw
  exact (mem_words hw).2

theorem classWords_ne_nil : classWords provisioner t ≠ [] := by simp [classWords]

/-- Class names differ if the words do, unless those are too long for a name. -/
theorem className_ne_iff : className provisioner t₁ ≠ className provisioner t₂ ↔
      classWords provisioner t₁ ≠ classWords provisioner t₂ ∧ ¬CutAlike provisioner t₁ t₂ := by
  have hinj : unwords '-' (classWords provisioner t₁) = unwords '-' (classWords provisioner t₂) ↔
      classWords provisioner t₁ = classWords provisioner t₂ :=
    unwords_inj classWords_ne_nil classWords_ne_nil dash_not_mem_classWords dash_not_mem_classWords
  rw [className_eq, className_eq, Ne, String.ofList_inj]
  refine ⟨fun h => ⟨fun hw => h (by rw [hw]), fun hc => h hc.2⟩, ?_⟩
  rintro ⟨hw, hc⟩ h
  -- a name that is not cut is its words
  by_cases hlong : 253 < (unwords '-' (classWords provisioner t₁)).length ∨
      253 < (unwords '-' (classWords provisioner t₂)).length
  · exact hc ⟨hlong, h⟩
  · rw [not_or] at hlong
    rw [clip, clip, if_neg hlong.1, if_neg hlong.2] at h
    exact hw (hinj.mp h)

/-- VGRs or VRs in one namespace have different names if the pieces differ. -/
theorem groupKey_ne_iff : groupKey t₁ ≠ groupKey t₂ ↔
      (t₁.pvcNamespace = t₂.pvcNamespace → groupPieces t₁ ≠ groupPieces t₂) := by
  have hname : nameForSC t₁.name.text t₁.storageClass.text =
      nameForSC t₂.name.text t₂.storageClass.text ↔ groupPieces t₁ = groupPieces t₂ := by
    rw [groupPieces, groupPieces, ← join_eq_iff_pieces, ← String.toList_inj]
    simp [nameForSC]
  rw [groupKey, groupKey, Ne, Prod.mk.injEq, not_and, hname]

/-- Every object stands where one of the requests has it. -/
structure Own (provisioner : String → String) (ts : List Request) (s : Objects) : Prop where
  classes : Registry.Owned (fun t k => t ∈ ts ∧ className provisioner t = k) s.classes
  groups : Registry.Owned (fun t k => t ∈ ts ∧ groupKey t = k) s.groups

/-- A step leaves every object where its request has it. -/
theorem own_step {ts : List Request} {s s' : Objects} {st : Step} (h : Own provisioner ts s)
    (hs : step provisioner ts s st = some s') : Own provisioner ts s' := by
  rw [step] at hs
  split at hs
  next hmem =>
    cases hs
    cases st with
    | ensureReplicationClasses t => exact ⟨h.classes.ensure fun _ => ⟨hmem, rfl⟩, h.groups⟩
    | ensureGroup t => exact ⟨h.classes, h.groups.ensure fun _ => ⟨hmem, rfl⟩⟩
    | deleteGroup t => exact ⟨h.classes, h.groups.remove⟩
  next => cases hs

theorem own_of_reachable {ts : List Request} {s : Objects}
    (h : Reachable (step provisioner ts) Objects.empty s) : Own provisioner ts s :=
  reachable_invariant (fun _ _ _ => own_step) ⟨.empty, .empty⟩ h

/-- Of two requests with different keys, a key tells which one. -/
theorem eq_of_key_eq {κ : Type} {key : Request → κ} (h : key t₁ ≠ key t₂) {t t' : Request}
    (ht : t ∈ [t₁, t₂]) (ht' : t' ∈ [t₁, t₂]) (heq : key t' = key t) : t' = t := by
  simp only [mem_cons, not_mem_nil, or_false] at ht ht'
  rcases ht with rfl | rfl <;> rcases ht' with rfl | rfl
  · rfl
  · exact absurd heq.symm h
  · exact absurd heq h
  · rfl

theorem undisturbed_of_ne (hgroup : groupKey t₁ ≠ groupKey t₂)
    (hclass : className provisioner t₁ ≠ className provisioner t₂) :
    Undisturbed provisioner [t₁, t₂] := by
  intro s hreach st hst
  have hown := own_of_reachable hreach
  cases st with
  | ensureReplicationClasses t =>
    exact hown.classes.not_crosses fun t' h => eq_of_key_eq hclass hst h.1 h.2
  | ensureGroup t => exact hown.groups.not_crosses fun t' h => eq_of_key_eq hgroup hst h.1 h.2
  | deleteGroup t => exact hown.groups.not_crosses fun t' h => eq_of_key_eq hgroup hst h.1 h.2

/-- **When two requests keep apart**: their names differ, and neither gets at an
object of the other's, exactly if the words the names are made of differ. -/
theorem apart_iff : Apart provisioner t₁ t₂ ↔ WordsApart provisioner t₁ t₂ := by
  constructor
  · intro h
    obtain ⟨hwords, hcut⟩ := className_ne_iff.mp h.replicationClass
    exact ⟨groupKey_ne_iff.mp h.group, hwords, hcut⟩
  · intro h
    have hgroup := groupKey_ne_iff.mpr h.pieces
    have hclass := className_ne_iff.mpr ⟨h.words, h.cut⟩
    exact ⟨hgroup, hclass, undisturbed_of_ne hgroup hclass⟩

end Requests

def shortOwner (kind : OwnerKind) : Request where
  kind := kind
  namespaceName := "default"
  name := ⟨"a", by decide⟩
  pvcNamespace := "default"
  storageClass := ⟨"b-c", by decide⟩

def longOwner (kind : OwnerKind) : Request where
  kind := kind
  namespaceName := "default"
  name := ⟨"a-b", by decide⟩
  pvcNamespace := "default"
  storageClass := ⟨"c", by decide⟩

def oneDriver : String → String := fun _ => "csi.vastdata.com"

example : className oneDriver (shortOwner .vscr) = "a-b-c-csi-vastdata-com-vscr" := by
  decide +kernel

/-- The second owner takes the class with the first one's protected-path name, and takes and
deletes the first one's VGR or VR. -/
theorem dashed_owners_share_objects : ∃ t₁ t₂ : Request, t₁.triple ≠ t₂.triple ∧ t₁.kind = t₂.kind ∧
      t₁.pvcNamespace = t₂.pvcNamespace ∧ groupKey t₁ = groupKey t₂ ∧
      className oneDriver t₁ = className oneDriver t₂ ∧
      ∃ s, runFrom (step oneDriver [t₁, t₂]) Objects.empty
          [.ensureReplicationClasses t₁, .ensureGroup t₁] = some s ∧
        (Step.ensureReplicationClasses t₂).Crosses oneDriver s ∧
        (Step.ensureGroup t₂).Crosses oneDriver s ∧ (Step.deleteGroup t₂).Crosses oneDriver s := by
  exact ⟨shortOwner .vscr, longOwner .vscr, by decide, rfl, rfl, by decide +kernel,
    by decide +kernel, _, rfl, by decide +kernel, by decide +kernel, by decide +kernel⟩

end VastCsi.Ext.Names
