import VastCsi.Vms.Scope

/-!
# Names and paths of a COSI bucket

A bucket id is `name@tenant@endpoint`. The objects of a bucket are found by
names made from the bucket's: its clone stream and snapshot carry a prefix
(with a digest in place of the tail when the name would be too long for the
VMS), its managed owner is a user of the same name, its view carries it as
`bucket`, and its directory is `bucket_path(root_export, name)`.
-/

namespace VastCsi.Cosi

open Lib Vms List String

structure BucketId where
  name : String
  tenantId : String
  endpoint : String
  deriving DecidableEq, Repr

/-- `BucketId.parse`: the endpoint takes what is left. -/
def BucketId.parse (bucketId : String) : Except Err BucketId :=
  match Text.splitFirst '@' bucketId with
  | none => .error (.abort .invalidArgument s!"invalid bucket_id format: '{bucketId}'")
  | some (name, rest) =>
    match Text.splitFirst '@' rest with
    | none => .error (.abort .invalidArgument s!"invalid bucket_id format: '{bucketId}'")
    | some (tenantId, endpoint) => .ok { name, tenantId, endpoint }

/-- `cosi_clone_resource_name`; `digest` is the first ten hex digits of the
SHA-256 of the bucket name. -/
def cosiCloneResourceName (digest : String → String) (pre bucketName : String) : String :=
  let candidate := pre ++ bucketName
  if candidate.length ≤ 64 then candidate
  else
    let tailRoom := 64 - pre.length - (digest bucketName).length - 1
    pre ++ String.ofList (bucketName.toList.take tailRoom) ++ "-" ++ digest bucketName

def cosiCloneSnapName (digest : String → String) (bucketName : String) : String :=
  cosiCloneResourceName digest "cosi-snp-" bucketName

def cosiCloneStreamName (digest : String → String) (bucketName : String) : String :=
  cosiCloneResourceName digest "cosi-strm-" bucketName

/-- `View.bucket_path`. Irreducible: on a variable path it does not compute
to anything useful. -/
@[irreducible] def bucketPath (rootExport bucketName : String) : String :=
  let root := Text.strip '/' (Text.trim rootExport)
  if root == "" then "/" ++ bucketName else "/" ++ root ++ "/" ++ bucketName

section CloneNames

variable {digest : String → String} {pre a b : String}

/-- What is left of a name that is too long. -/
def cutName (digest : String → String) (pre name : String) : String :=
  String.ofList (name.toList.take (64 - pre.length - (digest name).length - 1)) ++
    ("-" ++ digest name)

/-- The first name is what the second, which is too long, is cut to. -/
def Spells (digest : String → String) (pre a b : String) : Prop :=
  64 < (pre ++ b).length ∧ a = cutName digest pre b

instance : Decidable (Spells digest pre a b) := inferInstanceAs (Decidable (_ ∧ _))

theorem cosiCloneResourceName_eq (digest : String → String) (pre name : String) :
    cosiCloneResourceName digest pre name =
      pre ++ if (pre ++ name).length ≤ 64 then name else cutName digest pre name := by
  unfold cosiCloneResourceName cutName
  dsimp only
  split
  next => rfl
  next => simp only [String.append_assoc]

theorem length_cutName (hlen : (digest b).length = 10) (hpre : pre.length ≤ 53)
    (hb : 64 < (pre ++ b).length) : (pre ++ cutName digest pre b).length = 64 := by
  simp only [cutName, String.length_append, String.length_ofList, List.length_take,
    String.length_toList, hlen] at hb ⊢
  have hdash : "-".length = 1 := rfl
  omega

theorem length_cosiCloneResourceName (hlen : (digest a).length = 10) (hpre : pre.length ≤ 53) :
    (cosiCloneResourceName digest pre a).length ≤ 64 := by
  rw [cosiCloneResourceName_eq]
  split
  next hshort => exact hshort
  next hlong => exact Nat.le_of_eq (length_cutName hlen hpre (Nat.lt_of_not_le hlong))

/-- The digest ends a cut name. -/
theorem digest_eq_of_cutName (hlen : ∀ n, (digest n).length = 10)
    (h : cutName digest pre a = cutName digest pre b) : digest a = digest b := by
  have hlists := congrArg String.toList h
  simp only [cutName, ← String.append_assoc, String.toList_append] at hlists
  have hlength : (digest a).toList.length = (digest b).toList.length := by
    rw [length_toList, length_toList, hlen, hlen]
  exact String.toList_inj.mp (List.append_inj' hlists hlength).2

theorem cosiCloneResourceName_eq_iff (hlen : ∀ n, (digest n).length = 10)
    (hpre : pre.length ≤ 53) (hcoll : digest a = digest b → a = b) (hne : a ≠ b) :
    cosiCloneResourceName digest pre a = cosiCloneResourceName digest pre b ↔
      Spells digest pre a b ∨ Spells digest pre b a := by
  have hshort : ∀ {x y : String}, Spells digest pre x y → (pre ++ x).length ≤ 64 := by
    rintro x y ⟨hy, rfl⟩
    exact Nat.le_of_eq (length_cutName (hlen y) hpre hy)
  have hlong : ∀ {x y : String}, Spells digest pre x y → ¬ (pre ++ y).length ≤ 64 :=
    fun h => Nat.not_le.mpr h.1
  rw [cosiCloneResourceName_eq, cosiCloneResourceName_eq, String.append_right_inj]
  constructor
  · intro h
    split at h
    next ha =>
      split at h
      next => exact absurd h hne
      next hb => exact .inl ⟨Nat.lt_of_not_le hb, h⟩
    next ha =>
      split at h
      next => exact .inr ⟨Nat.lt_of_not_le ha, h.symm⟩
      next => exact absurd (hcoll (digest_eq_of_cutName hlen h)) hne
  · rintro (h | h)
    · rw [if_pos (hshort h), if_neg (hlong h), ← h.2]
    · rw [if_pos (hshort h), if_neg (hlong h), ← h.2]

end CloneNames

/-- **Names of clone snapshots and streams**: they fit, and those of two buckets differ unless
one bucket is named like the cut name of the other. -/
theorem clone_names_apart_iff (digest : String → String) (hlen : ∀ n, (digest n).length = 10)
    {a b : String} (hcoll : digest a = digest b → a = b) (hne : a ≠ b) :
    ((cosiCloneSnapName digest a).length ≤ 64 ∧ (cosiCloneStreamName digest a).length ≤ 64) ∧
      ((cosiCloneSnapName digest a ≠ cosiCloneSnapName digest b ∧
          cosiCloneStreamName digest a ≠ cosiCloneStreamName digest b) ↔
        ∀ pre ∈ ["cosi-snp-", "cosi-strm-"],
          ¬ Spells digest pre a b ∧ ¬ Spells digest pre b a) := by
  have hsnap : "cosi-snp-".length ≤ 53 := by decide
  have hstrm : "cosi-strm-".length ≤ 53 := by decide
  refine ⟨⟨length_cosiCloneResourceName (hlen a) hsnap,
    length_cosiCloneResourceName (hlen a) hstrm⟩, ?_⟩
  simp only [forall_mem_cons, not_mem_nil, false_implies, implies_true, and_true, ← not_or]
  exact not_congr (or_congr (cosiCloneResourceName_eq_iff hlen hsnap hcoll hne)
    (cosiCloneResourceName_eq_iff hlen hstrm hcoll hne))

def longBucket : String := "warehouse-7d0f0a5e-52f0-4f0c-9d0c-1f6f3b5c2a91-archive-2024"

def tenDigits (name : String) : String := if name = longBucket then "0123456789" else "abcdefabcd"

/-- A bucket named like the cut name has the snapshot of the other. -/
theorem cut_name_taken :
    let short := "warehouse-7d0f0a5e-52f0-4f0c-9d0c-1f6f3b5c2a-0123456789"
    short.length ≤ 63 ∧ longBucket.length ≤ 63 ∧ short ≠ longBucket ∧
      tenDigits short ≠ tenDigits longBucket ∧
      cosiCloneSnapName tenDigits short = cosiCloneSnapName tenDigits longBucket := by
  decide +kernel

theorem clone_names_apart_iff_two :
    cosiCloneSnapName tenDigits "logs" ≠ cosiCloneSnapName tenDigits longBucket ∧
      cosiCloneStreamName tenDigits "logs" ≠ cosiCloneStreamName tenDigits longBucket := by
  have hlen : ∀ n, (tenDigits n).length = 10 := by
    intro n
    unfold tenDigits
    split
    next => rfl
    next => rfl
  exact (clone_names_apart_iff tenDigits hlen (by decide +kernel) (by decide +kernel)).2.mpr
    (by decide +kernel)

end VastCsi.Cosi
