import VastCsi.Ext.SpecValidation

/-!
# Schedules in seconds

`ParseEveryToSeconds` reads a duration that `ProtectionPolicyFrame.Validate` lets through: any
number of digits, and a unit. It counts in 64-bit integers, so what it returns is the duration up
to a multiple of `2 ^ 64`.

`Wraps` ties a machine integer to the number it stands for. The fold over the digits and the unit
keep it (`parseEveryToSeconds_wraps`), and the two are equal exactly when the number fits
(`Wraps.toInt_eq_iff`).
-/

namespace VastCsi.Ext.Specs

def digit (ch : Char) : Nat := ch.toNat - '0'.toNat

def addDigit (amount : Int64) (ch : Char) : Int64 :=
  if ch.isDigit then amount * 10 + Int64.ofNat (digit ch) else amount

/-- The `switch` over the unit. -/
def inUnit (amount : Int64) : Char → Option Int64
  | 's' | 'S' => some amount
  | 'm' => some (amount * 60)
  | 'h' | 'H' => some (amount * 3600)
  | 'd' | 'D' => some (amount * 86400)
  | 'w' | 'W' => some (amount * 7 * 86400)
  | 'M' => some (amount * 30 * 86400)
  | 'y' | 'Y' => some (amount * 365 * 86400)
  | _ => none

def parseEveryToSeconds (s : String) : Except String Int64 :=
  if !isVastDuration s then
    .error ("invalid VAST duration " ++ quoted s ++
      ": expected <number><unit> (e.g. \"15m\", \"1h\", \"2d\")")
  else
    match s.toList.getLast?.bind (inUnit (s.toList.foldl addDigit 0)) with
    | some seconds => .ok seconds
    | none => .error ("unsupported duration unit in " ++ quoted s)

/-- The same function for both kinds of spec. -/
def effectiveSyncIntervalSeconds (syncIntervalSeconds : Int64) (s : ReplicationSpec) :
    Except String Int64 :=
  if 0 < syncIntervalSeconds then .ok syncIntervalSeconds
  else
    match s.protectionPolicyTemplate.params with
    | [] => .error "syncIntervalSeconds not set and protectionPolicyTemplate has no params"
    | f :: _ => parseEveryToSeconds f.every

/-! ## What is meant -/

def unitSeconds : Char → Nat
  | 's' | 'S' => 1
  | 'm' => 60
  | 'h' | 'H' => 60 * 60
  | 'd' | 'D' => 24 * 60 * 60
  | 'w' | 'W' => 7 * (24 * 60 * 60)
  | 'M' => 30 * (24 * 60 * 60)
  | 'y' | 'Y' => 365 * (24 * 60 * 60)
  | _ => 0

def numberOf (digits : List Char) : Nat := digits.foldl (fun n ch => n * 10 + digit ch) 0

def secondsOf (s : String) : Nat :=
  numberOf s.toList.dropLast * (s.toList.getLast?.map unitSeconds).getD 0

/-- The value is the number up to wrap-around. -/
def Wraps (v : Int64) (n : Nat) : Prop := v.toInt = (n : Int).bmod (2 ^ 64)

section Wraps

variable {v : Int64} {n : Nat}

theorem Wraps.ofNat (k : Nat) : Wraps (Int64.ofNat k) k := Int64.toInt_ofNat'

theorem Wraps.mul (h : Wraps v n) (k : Nat) : Wraps (v * Int64.ofNat k) (n * k) := by
  rw [Wraps, Int64.toInt_mul, h, Wraps.ofNat k, Int.bmod_mul_bmod, Int.mul_bmod_bmod,
    Int.natCast_mul]

theorem Wraps.addDigit (h : Wraps v n) {ch : Char} (hch : ch.isDigit = true) :
    Wraps (Specs.addDigit v ch) (n * 10 + digit ch) := by
  have hten : (v * 10).toInt = ((n * 10 : Nat) : Int).bmod (2 ^ 64) := h.mul 10
  rw [Specs.addDigit, if_pos hch, Wraps, Int64.toInt_add, hten, Wraps.ofNat (digit ch),
    Int.bmod_add_bmod, Int.add_bmod_bmod, Int.natCast_add]

theorem Wraps.foldl_addDigit {ds : List Char} (h : Wraps v n) (hds : ∀ d ∈ ds, d.isDigit = true) :
    Wraps (ds.foldl Specs.addDigit v) (ds.foldl (fun n ch => n * 10 + digit ch) n) := by
  induction ds generalizing v n with
  | nil => exact h
  | cons d ds ih =>
    rw [List.forall_mem_cons] at hds
    exact ih (h.addDigit hds.1) hds.2

/-- A unit is no digit. -/
theorem Wraps.inUnit (h : Wraps v n) {u : Char} (hu : u ∈ "sSmMhHdDwWyY".toList) :
    u.isDigit = false ∧ ∃ v', Specs.inUnit v u = some v' ∧ Wraps v' (n * unitSeconds u) := by
  have hone : Wraps v (n * 1) := by rwa [Nat.mul_one]
  have hdays : ∀ k : Nat, Wraps (v * Int64.ofNat k * 86400) (n * (k * (24 * 60 * 60))) := by
    intro k
    rw [← Nat.mul_assoc]
    exact (h.mul k).mul 86400
  rw [show "sSmMhHdDwWyY".toList = ['s', 'S', 'm', 'M', 'h', 'H', 'd', 'D', 'w', 'W', 'y', 'Y']
    from rfl] at hu
  simp only [List.mem_cons, List.not_mem_nil, or_false] at hu
  rcases hu with rfl | rfl | rfl | rfl | rfl | rfl | rfl | rfl | rfl | rfl | rfl | rfl
  · exact ⟨rfl, _, rfl, hone⟩
  · exact ⟨rfl, _, rfl, hone⟩
  · exact ⟨rfl, _, rfl, h.mul 60⟩
  · exact ⟨rfl, _, rfl, hdays 30⟩
  · exact ⟨rfl, _, rfl, h.mul 3600⟩
  · exact ⟨rfl, _, rfl, h.mul 3600⟩
  · exact ⟨rfl, _, rfl, h.mul 86400⟩
  · exact ⟨rfl, _, rfl, h.mul 86400⟩
  · exact ⟨rfl, _, rfl, hdays 7⟩
  · exact ⟨rfl, _, rfl, hdays 7⟩
  · exact ⟨rfl, _, rfl, hdays 365⟩
  · exact ⟨rfl, _, rfl, hdays 365⟩

theorem Wraps.toInt_eq_iff (h : Wraps v n) : v.toInt = n ↔ n < 2 ^ 63 := by
  rw [h, Int.bmod_def]
  split
  next => omega
  next => omega

end Wraps

theorem parseEveryToSeconds_wraps {s : String} (h : isVastDuration s = true) :
    ∃ v, parseEveryToSeconds s = .ok v ∧ Wraps v (secondsOf s) := by
  unfold parseEveryToSeconds secondsOf
  rw [h]
  unfold isVastDuration at h
  cases hrev : s.toList.reverse with
  | nil =>
    rw [hrev] at h
    cases h
  | cons u ds =>
    rw [hrev] at h
    simp only [Bool.and_eq_true, List.contains_iff_mem, List.all_eq_true] at h
    obtain ⟨hu, -, hds⟩ := h
    have hs : s.toList = ds.reverse ++ [u] := by
      rw [← List.reverse_reverse s.toList, hrev, List.reverse_cons]
    have hnumber : Wraps (ds.reverse.foldl addDigit 0) (numberOf ds.reverse) :=
      Wraps.foldl_addDigit (.ofNat 0) fun d hd => hds d (List.mem_reverse.mp hd)
    obtain ⟨hdigit, v, hv, hwraps⟩ := hnumber.inUnit hu
    have hfold : s.toList.foldl addDigit 0 = ds.reverse.foldl addDigit 0 := by
      rw [hs, List.foldl_append, List.foldl_cons, List.foldl_nil]
      generalize ds.reverse.foldl addDigit 0 = amount
      rw [addDigit, hdigit]
      rfl
    rw [hfold, hs]
    simp only [List.getLast?_concat, List.dropLast_concat, Option.bind_some, hv, Option.map_some,
      Option.getD_some]
    exact ⟨v, rfl, hwraps⟩

theorem ProtectionPolicyFrame.isVastDuration_every {clock : Clock} {f : ProtectionPolicyFrame}
    (h : f.validate clock = .ok ()) : isVastDuration f.every = true := by
  unfold ProtectionPolicyFrame.validate at h
  split at h
  next => cases h
  next =>
    split at h
    next => cases h
    next hdur => simpa using hdur

/-- The result is the duration. -/
def Exact (result : Except String Int64) (every : String) : Prop :=
  ∃ v, result = .ok v ∧ v.toInt = secondsOf every

/-- **Schedules in seconds**: for a schedule that is accepted, the two functions return the
duration exactly when it fits into 63 bits. -/
theorem interval_exact_iff {clock : Clock} {f : ProtectionPolicyFrame}
    (hf : f.validate clock = .ok ()) {syncIntervalSeconds : Int64}
    (hunset : ¬ 0 < syncIntervalSeconds) {s : ReplicationSpec}
    (hfirst : s.protectionPolicyTemplate.params.head? = some f) :
    (Exact (parseEveryToSeconds f.every) f.every ∧
        Exact (effectiveSyncIntervalSeconds syncIntervalSeconds s) f.every) ↔
      secondsOf f.every < 2 ^ 63 := by
  obtain ⟨v, hv, hwraps⟩ := parseEveryToSeconds_wraps (f.isVastDuration_every hf)
  have heffective : effectiveSyncIntervalSeconds syncIntervalSeconds s =
      parseEveryToSeconds f.every := by
    obtain ⟨rest, hrest⟩ := List.head?_eq_some_iff.mp hfirst
    rw [effectiveSyncIntervalSeconds, if_neg hunset, hrest]
  rw [heffective, and_self, ← hwraps.toInt_eq_iff, hv]
  constructor
  · rintro ⟨v', hv', hexact⟩
    cases hv'
    exact hexact
  · exact fun h => ⟨v, rfl, h⟩

/-- The number of seconds comes back as zero. -/
theorem interval_wraps :
    (ProtectionPolicyFrame.mk "18446744073709551616s" "" "" "").validate ⟨fun _ _ => false, ""⟩ =
        .ok () ∧ parseEveryToSeconds "18446744073709551616s" = .ok 0 ∧
      secondsOf "18446744073709551616s" = 2 ^ 64 := by
  decide +kernel

theorem interval_exact_iff_quarter :
    let f := ProtectionPolicyFrame.mk "15m" "" "" ""
    secondsOf f.every = 900 ∧ Exact (parseEveryToSeconds f.every) f.every ∧
      Exact (effectiveSyncIntervalSeconds 0 ⟨"east", [], ⟨[f]⟩⟩) f.every := by
  have hf : (ProtectionPolicyFrame.mk "15m" "" "" "").validate ⟨fun _ _ => false, ""⟩ = .ok () := by
    decide +kernel
  exact ⟨by decide +kernel, (interval_exact_iff hf (by decide) rfl).mpr (by decide +kernel)⟩

end VastCsi.Ext.Specs
