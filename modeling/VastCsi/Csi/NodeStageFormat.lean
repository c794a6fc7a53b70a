import VastCsi.Csi.NodeStage

/-!
# Which devices a staging formats

With probes that are right when they answer, every format command of a staging hits an empty
device unless encryption is required and the LUKS probe of a device that holds something exits
with a non-zero status.

Both directions follow the record of format commands: that all hit empty devices is kept while no
probe is misread, and a command that hit another device stays on it (`formatSafe_blankOnly`,
`formatSafe_mem`, two instances of `FormatSafe`).
-/

namespace VastCsi.Csi

open Lib Vms List

/-- Every format command so far hit an empty device. -/
def BlankOnly (n : Node) : Prop := ∀ f ∈ n.formats, f.2 = .blank

/-- `blkid` is right when it answers: 0 with the type of what is there, 2
when nothing is. Other exit statuses say nothing. -/
structure BlkidRight (env : NodeEnv) : Prop where
  found : ∀ c, env.blkid c = .code 0 → c.type ≠ ""
  notFound : ∀ c, env.blkid c = .code 2 → c = .blank

/-- `cryptsetup isLuks` is right when it exits with its yes or its no. -/
structure IsLuksRight (env : NodeEnv) : Prop where
  yes : ∀ c, env.isLuks c = .code 0 → c.isLuks = true
  no : ∀ c, env.isLuks c = .code 1 → c.isLuks = false

/-- Encryption is required, the LUKS probe of the raw device exits with a non-zero status, and the
raw device is not empty. -/
def MisreadsProbe (env : NodeEnv) (req : StageReq) (n : Node) : Prop :=
  (∃ caps, stagePrelude env req = .ok (some caps)) ∧ requiresEncryption req = .ok true ∧
    (∃ k, k ≠ 0 ∧ env.isLuks n.raw = .code k) ∧ n.raw ≠ .blank

section Steps

variable {env : NodeEnv} {req : StageReq} {I : Node → Prop}

/-- A command that only succeeds or fails keeps everything. -/
theorem meets_check {e : Exit} : Keeps I (check e) := by
  unfold check
  split
  next => exact .ret
  next => exact .err
  next => exact .err

theorem meets_checkLuks {e : Exit} {failed timedOut : String} :
    Keeps I (checkLuks e failed timedOut) := by
  unfold checkLuks
  split
  next => exact .ret
  next => exact .err
  next => exact .err

/-- The file system part keeps whatever recording a format command on an
empty device and changing contents keeps. -/
structure FormatSafe (I : Node → Prop) : Prop where
  record : ∀ n d, I n → n.content d = .blank → I { n with formats := (d, .blank) :: n.formats }
  contents : ∀ n raw mapper, I n → I { n with raw := raw, mapper := mapper }

variable {d : Device}

theorem meets_mkfs {t : String} (h : FormatSafe I) :
    Meets (fun n => I n ∧ n.content d = .blank) (mkfs env d t) (fun _ => I) (fun _ => I) := by
  refine .bind (Q := fun _ => I) (fun n hn => ?_) fun _ => ?_
  · show I { n with formats := (d, n.content d) :: n.formats }
    rw [hn.2]
    exact h.record n d hn.1 hn.2
  · refine .bind meets_check fun _ n hn => ?_
    cases d with
    | raw => exact h.contents n _ _ hn
    | mapper => exact h.contents n _ _ hn

theorem meets_formatDevice {t : String} (hb : BlkidRight env) (h : FormatSafe I) :
    Keeps I (formatDevice env req t d) := by
  refine .bind (Q := fun r n => I n ∧ (r = none → n.content d = .blank) ∧ r ≠ some "")
    (E := fun _ => I) ?_ fun r => ?_
  · refine .bind (Q := fun m n => I n ∧ m = n) (fun n hn => ⟨hn, rfl⟩) fun m => ?_
    dsimp only
    split
    next hc =>
      refine .pure fun n hn => ⟨hn.1, (fun h => by cases h), ?_⟩
      intro he
      exact hb.found _ hc (Option.some.inj he)
    next hc =>
      refine .pure fun n hn => ⟨hn.1, fun _ => ?_, by simp⟩
      rw [← hn.2]
      exact hb.notFound _ hc
    next => exact .throw fun n hn => hn.1
    next => exact .throw fun n hn => hn.1
  · cases r with
    | none => refine .bind ((meets_mkfs h).pre (fun n hn => ⟨hn.1, hn.2.1 rfl⟩)) fun _ => .ret
    | some fs =>
      dsimp only
      split
      next => exact .pure fun n hn => hn.1
      next =>
        split
        next he =>
          refine .assuming (p := False) (fun n hn => hn.2.2 ?_) False.elim
          rw [beq_iff_eq.mp he]
        next => exact .throw fun n hn => hn.1

theorem meets_stageDevice {caps : StageCaps} (hb : BlkidRight env) (h : FormatSafe I) :
    Keeps I (stageDevice env req caps d) := by
  refine .bind meets_check fun _ => .bind (Q := fun _ => I) ?_ fun _ =>
    .bind meets_check fun _ => meets_check
  unfold stageFilesystem
  split
  next =>
    refine .bind (meets_formatDevice hb h) fun formatted => ?_
    unfold finishFilesystem
    split
    next => exact .err
    next =>
      split
      next =>
        split
        next => exact .err
        next => exact .ret
      next => exact .ret
  next => exact .ret

theorem meets_luksOpenDevice (h : FormatSafe I) : Keeps I (luksOpenDevice env) :=
  .bind meets_checkLuks fun _ n hn => h.contents n _ _ hn

/-- Opening and formatting the LUKS container, from a state in which a probe
that says no means an empty device. -/
theorem meets_initHostEncryption (env : NodeEnv) (h : FormatSafe I) :
    Meets (fun n => I n ∧ ∀ k, k ≠ 0 → env.isLuks n.raw = .code k → n.raw = .blank)
      (initHostEncryption env) (fun _ => I) (fun _ => I) := by
  refine .bind (Q := fun b n => I n ∧ (b = false → n.raw = .blank)) (E := fun _ => I) ?_ fun b => ?_
  · refine .bind (Q := fun m n => (I n ∧
      ∀ k, k ≠ 0 → env.isLuks n.raw = .code k → n.raw = .blank) ∧ m = n)
      (fun n hn => ⟨hn, rfl⟩) fun m => ?_
    split
    next => exact .pure fun n hn => ⟨hn.1.1, fun h => by cases h⟩
    next k hne hc =>
      refine .pure fun n hn => ⟨hn.1.1, fun _ => hn.1.2 k hne ?_⟩
      rw [← hn.2]
      exact hc
    next => exact .throw fun n hn => hn.1.1
  · cases b with
    | true =>
      refine .bind (Q := fun _ => I) ?_ fun active => ?_
      · unfold isLuksActive
        split
        next => exact .pure fun _ hn => hn.1
        next => exact .pure fun _ hn => hn.1
        next => exact .throw fun _ hn => hn.1
      · cases active with
        | true => exact .ret
        | false => exact meets_luksOpenDevice h
    | false =>
      refine .bind (Q := fun _ => I) ?_ fun _ => meets_luksOpenDevice h
      refine .bind (Q := fun _ => I) (fun n hn => ?_) fun _ =>
        .bind meets_checkLuks fun _ n hn => h.contents n _ _ hn
      have hraw : n.raw = .blank := hn.2 rfl
      have hI := h.record n .raw hn.1 hraw
      rw [← hraw] at hI
      exact hI

end Steps

/-- Recording formats of empty devices keeps all of them so. -/
theorem formatSafe_blankOnly : FormatSafe BlankOnly where
  record n d hn _ := by
    intro f hf
    rcases mem_cons.mp hf with h | h
    · rw [h]
    · exact hn f h
  contents _ _ _ hn := hn

/-- A format command, once run, stays on the record. -/
theorem formatSafe_mem (f : Device × Content) : FormatSafe (fun n => f ∈ n.formats) where
  record _ _ hn _ := mem_cons_of_mem _ hn
  contents _ _ _ hn := hn

/-- A non-zero probe sends `init_host_encryption` to `luksFormat`, whatever
the device holds, and the record keeps it. -/
theorem meets_initHostEncryption_misread {env : NodeEnv} {c : Content} {k : Nat}
    (hk : k ≠ 0) (hp : env.isLuks c = .code k) :
    Meets (fun n => n.raw = c) (initHostEncryption env)
      (fun _ n => (Device.raw, c) ∈ n.formats) (fun _ n => (Device.raw, c) ∈ n.formats) := by
  have hS := formatSafe_mem (Device.raw, c)
  have hdev : Meets (fun n => n.raw = c) (isLuksDevice env)
      (fun b n => b = false ∧ n.raw = c) (fun _ n => (Device.raw, c) ∈ n.formats) := by
    refine .bind (Q := fun m n => n.raw = c ∧ m = n) (fun n hn => ⟨hn, rfl⟩) fun m => ?_
    refine .assuming (p := m.raw = c) (fun n hn => hn.2 ▸ hn.1) fun hm => ?_
    rw [hm, hp]
    cases k with
    | zero => exact absurd rfl hk
    | succ j => exact .pure fun n hn => ⟨rfl, hn.1⟩
  refine .bind hdev fun b => .assuming (p := b = false) (fun n hn => hn.1) fun hb => ?_
  subst hb
  refine .bind (Q := fun _ n => (Device.raw, c) ∈ n.formats) ?_ fun _ => meets_luksOpenDevice hS
  refine .bind (Q := fun _ n => (Device.raw, c) ∈ n.formats) (fun n hn => ?_) fun _ =>
    .bind meets_checkLuks fun _ n hn => hn
  show (Device.raw, c) ∈ (Device.raw, n.raw) :: n.formats
  rw [hn.2]
  exact mem_cons_self

/-- Staging formats only empty devices, unless the probe is misread; then the format command that
follows hit the content. -/
theorem formats_blank_only_iff {env : NodeEnv} {req : StageReq} {n : Node}
    (hb : BlkidRight env) (hn : n.formats = []) :
    BlankOnly (endState (nodeStageVolume env req n)) ↔ ¬ MisreadsProbe env req n := by
  have hstart : BlankOnly n := by
    intro f hf
    rw [hn] at hf
    cases hf
  unfold nodeStageVolume MisreadsProbe
  cases hpre : stagePrelude env req with
  | error e => exact iff_of_true hstart (by rintro ⟨⟨caps, h⟩, -⟩; cases h)
  | ok reached =>
    cases reached with
    | none => exact iff_of_true hstart (by rintro ⟨⟨caps, h⟩, -⟩; cases h)
    | some caps =>
      cases henc : requiresEncryption req with
      | error e => exact iff_of_true hstart (by rintro ⟨-, h, -⟩; cases h)
      | ok encrypts =>
        cases encrypts with
        | false =>
          have hkeep : Meets BlankOnly (stageDevice env req caps .raw) (fun _ => BlankOnly)
            (fun _ => BlankOnly) := meets_stageDevice hb formatSafe_blankOnly
          exact iff_of_true (hkeep.endState hstart) (by rintro ⟨-, h, -⟩; cases h)
        | true =>
          constructor
          · rintro hall ⟨-, -, ⟨k, hk, hp⟩, hne⟩
            have hrun : Meets (fun m => m.raw = n.raw)
                (initHostEncryption env >>= fun _ => stageDevice env req caps .mapper)
                (fun _ m => (Device.raw, n.raw) ∈ m.formats)
                (fun _ m => (Device.raw, n.raw) ∈ m.formats) :=
              (meets_initHostEncryption_misread hk hp).bind fun _ =>
                meets_stageDevice hb (formatSafe_mem _)
            exact hne (hall _ (hrun.endState rfl))
          · intro hgood
            have hraw : ∀ k, k ≠ 0 → env.isLuks n.raw = .code k → n.raw = .blank := by
              intro k hk hp
              by_contra hne
              exact hgood ⟨⟨caps, rfl⟩, rfl, ⟨k, hk, hp⟩, hne⟩
            have hrun := (meets_initHostEncryption env formatSafe_blankOnly).bind fun _ =>
              (meets_stageDevice hb formatSafe_blankOnly :
                Meets BlankOnly (stageDevice env req caps .mapper) _ _)
            exact hrun.endState ⟨hstart, hraw⟩

def workingNode (isLuks : Content → Exit) : NodeEnv where
  lockedBy := none
  caps := .ok { isFilesystem := true, fsType := "ext4", isReadonly := false }
  alreadyStaged := false
  derivedContext := .error .timedOut
  sessionConnected := true
  multipathEnabled := true
  connects := true
  deviceFound := true
  tuned := .ok ()
  devicePath := "/dev/nvme0n1"
  stderr := ""
  isLuks := isLuks
  status := (.code 4, false)
  luksFormat := .code 0
  luksOpen := .code 0
  setReadwrite := .code 0
  blkid := fun c => if c = .blank then .code 2 else if c.type = "" then .code 4 else .code 0
  mkfs := .code 0
  integrity := .ok ()
  resize := .ok ()
  setReadonly := .code 0
  bindMount := .code 0

def encryptedStage : StageReq where
  volumeId := "pvc-1"
  publishContext := some ⟨"nqn.sub", "nqn.host", "nguid", "10.0.0.1"⟩
  needResize := false
  encryptionConfig := false
  passphrase := "secret"

theorem workingNode_blkidRight (isLuks : Content → Exit) : BlkidRight (workingNode isLuks) := by
  have hcases : ∀ c, (workingNode isLuks).blkid c =
      if c = .blank then .code 2 else if c.type = "" then .code 4 else .code 0 := fun _ => rfl
  constructor
  · intro c hc htype
    rw [hcases, if_pos htype] at hc
    split at hc
    next => cases hc
    next => cases hc
  · intro c hc
    rw [hcases] at hc
    split at hc
    next h => exact h
    next => split at hc <;> cases hc

/-- A first staging, where the probe says no on an empty device. -/
theorem formats_blank_only_iff_first : BlankOnly (endState (nodeStageVolume
      (workingNode fun c => if c.isLuks then .code 0 else .code 1)
      encryptedStage { raw := .blank, mapper := none })) := by
  refine (formats_blank_only_iff (workingNode_blkidRight _) rfl).mpr ?_
  rintro ⟨-, -, -, hne⟩
  exact hne rfl

/-- The probe fails with status 4 on the device of a volume that is in use, and the LUKS container
with the file system in it is formatted over. -/
theorem misread_probe_formats_luks :
    BlkidRight (workingNode fun _ => .code 4) ∧ IsLuksRight (workingNode fun _ => .code 4) ∧
      (Device.raw, Content.luks (.fs "ext4")) ∈
        (endState (nodeStageVolume (workingNode fun _ => .code 4) encryptedStage
          { raw := .luks (.fs "ext4"), mapper := none })).formats := by
  refine ⟨workingNode_blkidRight _, ⟨?_, ?_⟩, by decide⟩
  · intro c hc
    cases hc
  · intro c hc
    cases hc

end VastCsi.Csi
