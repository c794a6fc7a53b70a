import VastCsi.Csi.NfsNode
import VastCsi.Lib.Trace

/-!
# The credentials of an mTLS volume in the keyring

The certificate and the key are loaded when a volume is published at a target path and deleted
when it is unpublished, under names that depend on the volume only. Two target paths share them,
and they stay behind when the process dies between the removal of the metadata file and their
deletion (`CarefulPublish`, `CarefulUnpublish`).
-/

namespace VastCsi.Csi.Node.Mtls

open Lib List

/-! ## Histories of one volume -/

structure MtlsReq (v : String) where
  req : PublishReq
  volume : req.volumeId = v
  mtls : req.mtls = true
  credentials : req.credentials = true

inductive Action (v : String) where
  | publish (t : String) (req : MtlsReq v) (env : Env)
  | unpublish (t : String) (env : Env)

section

variable {β : Type} (conf : Conf) (cleanUp : Meta → EStateM Vms.Err β Unit) {v : String}

def act (w : World β) : Action v → World β
  | .publish t req env => endState (nodePublish env t req.req w)
  | .unpublish t env => endState (nodeUnpublish env t conf cleanUp v w)

/-! ## What has to go right -/

structure Deletes (env : Env) : Prop where
  tmpfs : env.Answers .umountTmpfs
  search : env.Answers .searchKey
  unlink : env.Answers .unlinkKey

/-- The keyring works, a failed mount did not take place, and the mount does not fail while
another path has the volume mounted. -/
structure CarefulPublish (t : String) (env : Env) (s : State β) : Prop where
  looks : env.Honest .isDir
  deletes : Deletes env
  add : env.OnlyDies .addKey
  perm : env.OnlyDies .setPerm
  cleanup : env.NotLost .deleteMeta
  mount : ∀ n f, env.fate .mountVolume n = .lost f → f = .crash
  alone : (∃ u, u ≠ t ∧ (s.target u).volumeMount ≠ none) → env.OnlyDies .mountVolume

/-- No other path has the volume mounted, and once the metadata file is removed the credentials
are deleted. -/
structure CarefulUnpublish (t : String) (env : Env) (s : State β) : Prop where
  exists_ : env.Honest .pathExists
  metaExists : env.Honest .metaExists
  deletes : Deletes env
  removal : env.NotLost .removeMeta
  forced : conf.forceLazyUmountOnTimeout = true → ∀ n, env.fate .umount n ≠ .lost .timedOut
  alone : ∀ u, u ≠ t → (s.target u).volumeMount = none

/-- What an action of a history has to meet. -/
def Careful (w : World β) : Action v → Prop
  | .publish t _ env => CarefulPublish t env w.toState
  | .unpublish t env => CarefulUnpublish conf t env w.toState

end

/-! ## The shape of a target path -/

/-- Only the topmost mount can be a volume, every metadata file names credentials,
and mounts stand on a directory. -/
structure SoundTarget (target : Target) : Prop where
  below : target.layers.tail.all Layer.isTmpfs = true
  mtls : ∀ m, .tmpfs (.whole m) ∈ target.layers → m.hasMtls = true
  device : target.device = false
  rooted : target.layers ≠ [] → target.dir = true

def Marked (target : Target) : Prop := ∃ m, .tmpfs (.whole m) ∈ target.layers

namespace SoundTarget

variable {target target' : Target}

theorem empty : SoundTarget {} := ⟨rfl, fun _ h => absurd h not_mem_nil, rfl, fun h => absurd rfl h⟩

/-- Unmounting a volume uncovers the tmpfs below. -/
theorem umount (h : SoundTarget target) {isLazy found : Bool}
    (hmount : target.volumeMount ≠ none) (hpop : target.umount isLazy = .ok (found, target')) :
    SoundTarget target' ∧ target'.volumeMount = none ∧ (Marked target → Marked target') := by
  obtain ⟨dir, layers, device⟩ := target
  match layers with
  | [] => exact absurd rfl hmount
  | .tmpfs file :: ls =>
    refine absurd (volumeMount_eq_none_iff.mpr ?_) hmount
    rw [all_cons]
    exact Bool.and_eq_true_iff.mpr ⟨rfl, h.below⟩
  | .volume source readonly :: ls =>
    cases hpop
    refine ⟨⟨?_, fun m hm => h.mtls m (mem_cons_of_mem _ hm), h.device,
      fun _ => h.rooted nofun⟩, volumeMount_eq_none_iff.mpr h.below, ?_⟩
    · have hbelow : ls.all Layer.isTmpfs = true := h.below
      rw [all_eq_true] at hbelow ⊢
      exact fun l hl => hbelow l (mem_of_mem_tail hl)
    · rintro ⟨m, hm⟩
      exact ⟨m, (mem_cons.mp hm).resolve_left nofun⟩

/-- A mount over tmpfs layers. -/
theorem push (h : SoundTarget target) (hmount : target.volumeMount = none)
    (hdir : target.dir = true) {layer : Layer} (hlayer : ∀ m, layer ≠ .tmpfs (.whole m)) :
    SoundTarget (target.push layer) := by
  refine ⟨volumeMount_eq_none_iff.mp hmount, fun m hm => ?_, h.device, fun _ => hdir⟩
  exact h.mtls m ((mem_cons.mp hm).resolve_left fun he => hlayer m he.symm)

/-- Writing the metadata file. -/
theorem setMeta (h : SoundTarget target) {file : MetaFile}
    (hfile : ∀ m, file = .whole m → m.hasMtls = true) : SoundTarget (target.setMeta file) := by
  obtain ⟨dir, layers, device⟩ := target
  match layers with
  | [] => exact h
  | .volume _ _ :: _ => exact h
  | .tmpfs old :: ls =>
    refine ⟨h.below, fun m hm => ?_, h.device, fun _ => h.rooted nofun⟩
    rcases mem_cons.mp hm with he | hm
    · exact hfile m (Layer.tmpfs.inj he).symm
    · exact h.mtls m (mem_cons_of_mem _ hm)

theorem umountTmpfs (h : SoundTarget target) {found : Bool}
    (hpop : target.umountTmpfs = .ok (found, target')) :
    SoundTarget target' ∧ (target.volumeMount = none → target'.volumeMount = none) ∧
      ((∀ m, target.metaFile ≠ .whole m) → Marked target → Marked target') := by
  obtain ⟨dir, layers, device⟩ := target
  match layers with
  | [] => cases hpop; exact ⟨h, id, fun _ => id⟩
  | .volume _ _ :: _ => cases hpop; exact ⟨h, id, fun _ => id⟩
  | .tmpfs file :: ls =>
    have hdevice : device = false := h.device
    subst hdevice
    cases hpop
    have hbelow : ls.all Layer.isTmpfs = true := h.below
    refine ⟨⟨?_, fun m hm => h.mtls m (mem_cons_of_mem _ hm), rfl, fun _ => h.rooted nofun⟩,
      fun _ => volumeMount_eq_none_iff.mpr hbelow, ?_⟩
    · rw [all_eq_true] at hbelow ⊢
      exact fun l hl => hbelow l (mem_of_mem_tail hl)
    · rintro hfile ⟨m, hm⟩
      refine ⟨m, (mem_cons.mp hm).resolve_left fun he => hfile m ?_⟩
      exact (Layer.tmpfs.inj he).symm

end SoundTarget

theorem volumeMount_setMeta (target : Target) (file : MetaFile) :
    (target.setMeta file).volumeMount = target.volumeMount := by
  obtain ⟨dir, layers, device⟩ := target
  match layers with
  | [] => rfl
  | .volume _ _ :: _ => rfl
  | .tmpfs _ :: _ => rfl

/-- Overwriting a file that is not whole. -/
theorem Marked.setMeta {target : Target} (hfile : ∀ m, target.metaFile ≠ .whole m)
    (h : Marked target) (file : MetaFile) : Marked (target.setMeta file) := by
  obtain ⟨m, hm⟩ := h
  obtain ⟨dir, layers, device⟩ := target
  match layers with
  | [] => exact ⟨m, hm⟩
  | .volume _ _ :: _ => exact ⟨m, hm⟩
  | .tmpfs old :: ls =>
    refine ⟨m, mem_cons_of_mem _ ((mem_cons.mp hm).resolve_left fun he => hfile m ?_)⟩
    exact (Layer.tmpfs.inj he).symm

section Invariant

variable {β : Type} {v t : String} {others : String → Target}

/-- The credentials are there while the volume is mounted, and while they are there
some stack says so. -/
structure Keyed (v : String) (s : State β) : Prop where
  mounted : ∀ u, (s.target u).volumeMount ≠ none →
    certKeyName v ∈ s.keyring ∧ privkeyKeyName v ∈ s.keyring
  marked : certKeyName v ∈ s.keyring ∨ privkeyKeyName v ∈ s.keyring → ∃ u, Marked (s.target u)

/-- Every path has its shape, and the paths apart from `t` are the given ones. -/
structure Sound (t : String) (others : String → Target) (s : State β) : Prop where
  sound : ∀ u, SoundTarget (s.target u)
  frame : ∀ u, u ≠ t → s.target u = others u

def Inv (v t : String) (others : String → Target) (s : State β) : Prop :=
  Sound t others s ∧ Keyed v s

variable {s : State β}

theorem Sound.set (h : Sound t others s) {target : Target} (ht : SoundTarget target) :
    Sound t others (s.setTarget t target) := by
  constructor
  · intro u
    by_cases hu : u = t
    · rw [hu, State.setTarget_same]
      exact ht
    · rw [State.setTarget_other s hu]
      exact h.sound u
  · intro u hu
    rw [State.setTarget_other s hu]
    exact h.frame u hu

theorem Keyed.set (h : Keyed v s) {target : Target} (hmount : target.volumeMount ≠ none →
      certKeyName v ∈ s.keyring ∧ privkeyKeyName v ∈ s.keyring)
    (hmark : Marked (s.target t) → Marked target) : Keyed v (s.setTarget t target) := by
  constructor
  · intro u hu
    by_cases hut : u = t
    · rw [hut, State.setTarget_same] at hu
      exact hmount hu
    · rw [State.setTarget_other s hut] at hu
      exact h.mounted u hu
  · intro hkey
    obtain ⟨u, hu⟩ := h.marked hkey
    by_cases hut : u = t
    · exact ⟨t, by rw [State.setTarget_same]; exact hmark (hut ▸ hu)⟩
    · exact ⟨u, by rw [State.setTarget_other s hut]; exact hu⟩

/-- With no credentials there is nothing to keep, when nothing is mounted. -/
theorem keyed_of_gone (hmount : ∀ u, (s.target u).volumeMount = none)
    (hcert : certKeyName v ∉ s.keyring) (hprivkey : privkeyKeyName v ∉ s.keyring) :
    Keyed v s :=
  ⟨fun u hu => absurd (hmount u) hu, fun hkey => absurd hkey (not_or.mpr ⟨hcert, hprivkey⟩)⟩

end Invariant

section Keyring

variable {β : Type} {env : Env} {J : State β → Prop}

theorem meets_searchInKeyring (h : env.Answers .searchKey) (name : String) :
    Finishes (holds J) (searchInKeyring env name)
      (fun found w => holds J w ∧ found = w.keyring.contains name) := by
  refine .tryCatch (F := fun _ _ => False) ?_ fun _ _ hw => hw.elim
  exact meets_command_answered h fun w hw => ⟨hw, rfl⟩

theorem meets_deleteFromKeyring (henv : Deletes env)
    (hJ : ∀ s name, J s → J { s with keyring := s.keyring.filter (· != name) }) (name : String) :
    Finishes (holds J) (deleteFromKeyring env name)
      (fun _ => holds fun s => J s ∧ name ∉ s.keyring) := by
  refine .bind (meets_searchInKeyring henv.search name) fun found => ?_
  cases found with
  | false =>
    refine .pure fun w hw => ⟨hw.1, fun hmem => ?_⟩
    rw [← contains_iff_mem, ← hw.2] at hmem
    cases hmem
  | true =>
    refine .tryCatch (F := fun _ _ => False) ?_ fun _ _ hw => hw.elim
    have hcommand : Finishes (holds J) (command env .unlinkKey (modify fun w =>
        { w with keyring := w.keyring.filter (· != name) }))
        (fun _ => holds fun s => J s ∧ name ∉ s.keyring) := by
      refine meets_command_answered henv.unlink fun w hw => ⟨hJ w.toState name hw, fun hmem => ?_⟩
      exact absurd (mem_filter.mp hmem).2 (by simp)
    exact hcommand.preLeft

theorem meets_deleteMtlsCredentials (henv : Deletes env)
    (hJ : ∀ s name, J s → J { s with keyring := s.keyring.filter (· != name) })
    (volumeId : String) :
    Finishes (holds J) (deleteMtlsCredentials env volumeId)
      (fun _ => holds fun s => J s ∧ certKeyName volumeId ∉ s.keyring ∧
        privkeyKeyName volumeId ∉ s.keyring) := by
  refine .bind (meets_deleteFromKeyring henv hJ _) fun _ => ?_
  refine (meets_deleteFromKeyring henv (fun s name hs => ⟨hJ s name hs.1, fun hmem => ?_⟩)
    _).post (fun _ _ hw => ⟨hw.1.1, hw.1.2, hw.2⟩)
  exact hs.2 (mem_filter.mp hmem).1

/-- A command that fails only by dying. -/
theorem meets_command_dies {α : Type} {c : Command} {x : Call β α} {K : State β → Prop}
    (henv : env.OnlyDies c) (hK : ∀ s, K s → J s)
    (hx : Meets (holds J) x (fun _ => holds K) (fun e w => e = .crash ∧ holds J w)) :
    Meets (holds J) (command env c x) (fun _ => holds K) (fun e w => e = .crash ∧ holds J w) := by
  refine meets_command (fun f n h w hw => ?_) (fun f n h => ?_) hx
  · rw [henv n f (.inl h)]
    exact ⟨rfl, hw⟩
  · rw [henv n f (.inr h)]
    exact ⟨fun _ w hw => ⟨rfl, hK w.toState hw⟩, fun _ _ hw => ⟨rfl, hw.2⟩⟩

theorem meets_loadPemToKeyring (hsearch : env.Answers .searchKey) (hadd : env.OnlyDies .addKey)
    (hperm : env.OnlyDies .setPerm)
    (hJ : ∀ s name, J s → J { s with keyring := name :: s.keyring }) (name : String) :
    Meets (holds J) (loadPemToKeyring env name)
      (fun _ => holds fun s => J s ∧ name ∈ s.keyring) (fun e w => e = .crash ∧ holds J w) := by
  refine .bind ((meets_searchInKeyring hsearch name).raise fun _ _ hw => hw.elim) fun found => ?_
  cases found with
  | true =>
    refine .pure fun w hw => ⟨hw.1, ?_⟩
    rw [← contains_iff_mem, ← hw.2]
  | false =>
    have hadded : Meets (holds J) (command env .addKey (modify fun w => { w with
        keyring := if w.keyring.contains name then w.keyring else name :: w.keyring }))
        (fun _ => holds fun s => J s ∧ name ∈ s.keyring)
        (fun e w => e = .crash ∧ holds J w) := by
      refine meets_command_dies hadd (fun _ hs => hs.1) fun w hw => ?_
      show J _ ∧ name ∈ _
      dsimp only
      split
      next h => exact ⟨hw, contains_iff_mem.mp h⟩
      next => exact ⟨hJ w.toState name hw, mem_cons_self⟩
    refine .bind (hadded.preLeft) fun _ => ?_
    exact (meets_command_dies hperm (fun _ hs => hs) .ret).raise (fun _ _ hw => ⟨hw.1, hw.2.1⟩)

theorem meets_loadMtlsCredentials (hsearch : env.Answers .searchKey)
    (hadd : env.OnlyDies .addKey) (hperm : env.OnlyDies .setPerm)
    (hJ : ∀ s name, J s → J { s with keyring := name :: s.keyring }) (volumeId : String) :
    Meets (holds J) (loadMtlsCredentials env volumeId)
      (fun _ => holds fun s => J s ∧ certKeyName volumeId ∈ s.keyring ∧
        privkeyKeyName volumeId ∈ s.keyring) (fun e w => e = .crash ∧ holds J w) := by
  refine .bind (meets_loadPemToKeyring hsearch hadd hperm hJ _) fun _ => ?_
  exact (meets_loadPemToKeyring hsearch hadd hperm
    (fun s name hs => ⟨hJ s name hs.1, mem_cons_of_mem _ hs.2⟩) _).weaken (fun _ hw => hw)
    (fun _ _ hw => ⟨hw.1.1, hw.1.2, hw.2⟩) (fun _ _ hw => ⟨hw.1, hw.2.1⟩)

end Keyring

section Unpublish

variable {β : Type} {v t : String} {others : String → Target} {env : Env} {conf : Conf}
  {cleanUp : Meta → EStateM Vms.Err β Unit}

/-- The invariant with the volume mounted at the path, and without. -/
def Up (v t : String) (others : String → Target) (s : State β) : Prop :=
  Inv v t others s ∧ (s.target t).volumeMount ≠ none

def Down (v t : String) (others : String → Target) (s : State β) : Prop :=
  Inv v t others s ∧ (s.target t).volumeMount = none

variable {s : State β}

theorem Down.backend (h : Down v t others s) (b : β) : Down v t others { s with backend := b } :=
  ⟨⟨⟨h.1.1.sound, h.1.1.frame⟩, ⟨h.1.2.mounted, h.1.2.marked⟩⟩, h.2⟩

/-- Unmounting the volume. A timeout without effect leaves it mounted. -/
theorem meets_umount (isLazy : Bool) : Meets (holds (Up (β := β) v t others)) (umount env t isLazy)
      (fun _ => holds (Down v t others)) (fun e w => holds (Inv v t others) w ∧
        (e = .umountTimedOut → (∀ n, env.fate .umount n ≠ .lost .timedOut) →
          holds (Up v t others) w)) := by
  refine meets_command (fun f n h w hw => ⟨hw.1, fun _ _ => hw⟩) (fun f n h => ?_)
    (meets_onTarget (fun s a target hs hpop => ?_) fun w e hw herr => ?_)
  · -- a fault after the effect: not a timeout, when those do not happen
    have hfault : f.err .umount = .umountTimedOut →
        (∀ n, env.fate .umount n ≠ .lost .timedOut) → False := by
      intro herr hnot
      cases f with
      | failed => cases herr
      | timedOut => exact hnot n h
      | crash => cases herr
    exact ⟨fun _ w hw => ⟨hw.1, fun he hn => (hfault he hn).elim⟩,
      fun e w hw => ⟨hw.1, fun he hn => (hfault he hn).elim⟩⟩
  · obtain ⟨⟨hsound, hkeyed⟩, hmount⟩ := hs
    obtain ⟨ht, hnone, hmark⟩ := (hsound.sound t).umount hmount hpop
    refine ⟨⟨hsound.set ht, hkeyed.set (fun h => absurd hnone h) hmark⟩, ?_⟩
    rw [State.setTarget_same]
    exact hnone
  · refine ⟨hw.1, fun he => ?_⟩
    subst he
    unfold Target.umount at herr
    split at herr
    next => cases herr
    next => cases herr
    next => split at herr <;> cases herr

theorem meets_umountOrForce (hforced : conf.forceLazyUmountOnTimeout = true →
      ∀ n, env.fate .umount n ≠ .lost .timedOut) :
    NodeMeets (Up (β := β) v t others) (umountOrForce env t conf)
      (fun _ => Down v t others) (Inv v t others) := by
  refine .tryCatch (.bind (meets_umount false) fun _ => .ret) fun e => ?_
  split
  next =>
    split
    next hconf =>
      refine .bind ((meets_umount true).weaken
        (fun _ hw => hw.2 rfl (hforced hconf)) (fun _ _ hw => hw) (fun _ _ hw => hw.1))
        fun _ => .ret
    next => exact .throw fun _ hw => hw.1
  next => exact .throw fun _ hw => hw.1

theorem meets_unmountLoop (hforced : conf.forceLazyUmountOnTimeout = true →
      ∀ n, env.fate .umount n ≠ .lost .timedOut) : ∀ n,
    NodeMeets (Inv (β := β) v t others) (unmountLoop env t conf n)
      (fun _ => Down v t others) (Inv v t others)
  | 0 => .err
  | n + 1 => by
    refine .bind (meets_read Target.volumeMount) fun mount => ?_
    cases mount with
    | none => exact .pure fun w hw => ⟨hw.1, hw.2.symm⟩
    | some mount =>
      refine .bind ((meets_umountOrForce hforced).pre (fun w hw => ⟨hw.1, fun hnone => ?_⟩))
        fun _ => ?_
      · have := hw.2
        rw [hnone] at this
        cases this
      · exact (meets_unmountLoop hforced n).preLeft

/-- The backend does not matter to the mounts and the keyring. -/
theorem keeps_processMeta {J : State β → Prop} (hJ : ∀ s b, J s → J { s with backend := b })
    (m : Meta) : Keeps (holds J) (processMeta env cleanUp m) := by
  unfold processMeta
  split
  next =>
    refine .bind (Q := fun _ => holds J) (keeps_command .ret) fun _ w hw => ?_
    unfold onBackend
    cases cleanUp m w.backend with
    | ok _ b => exact hJ w.toState b hw
    | error e b => exact hJ w.toState b hw
  next => exact .ret

/-- The paths have their shape and none has the volume mounted: between the removal of
the metadata file and the deletion of the credentials. -/
def Quiet (t : String) (others : String → Target) (s : State β) : Prop :=
  Sound t others s ∧ ∀ u, (s.target u).volumeMount = none

theorem Quiet.set (h : Quiet t others s) {target : Target} (ht : SoundTarget target)
    (hmount : target.volumeMount = none) :
    Quiet t others (s.setTarget t target) := by
  refine ⟨h.1.set ht, fun u => ?_⟩
  by_cases hu : u = t
  · rw [hu, State.setTarget_same]
    exact hmount
  · rw [State.setTarget_other s hu]
    exact h.2 u

/-- A path that is unmounted while the others are. -/
theorem Down.quiet (h : Down v t others s) (halone : ∀ u, u ≠ t → (others u).volumeMount = none) :
    Quiet t others s := by
  refine ⟨h.1.1, fun u => ?_⟩
  by_cases hu : u = t
  · rw [hu]
    exact h.2
  · rw [h.1.1.frame u hu]
    exact halone u hu

/-- The metadata file that is read is whole. -/
theorem meets_readAndProcessMetaFile :
    Meets (holds (Down (β := β) v t others)) (readAndProcessMetaFile env t cleanUp)
      (fun m w => holds (Down v t others) w ∧ m.hasMtls = true)
      (fun _ => holds (Inv v t others)) := by
  refine .bind ((meets_read Target.metaFile).raiseLeft) fun file => ?_
  cases file with
  | absent => exact .throw fun _ hw => hw.1.1
  | torn => exact .throw fun _ hw => hw.1.1
  | whole m =>
    refine .assuming (p := m.hasMtls = true) (fun w hw => ?_) fun hmtls => ?_
    · have hfile : (w.target t).metaFile = .whole m := hw.2.symm
      exact (hw.1.1.1.sound t).mtls m (mem_of_metaFile hfile)
    · refine .bind ((keeps_processMeta (J := Down v t others)
        (fun _ b hs => hs.backend b) m).weaken (fun _ hw => hw.1) (fun _ _ hw => hw)
        (fun _ _ hw => hw.1)) fun _ => ?_
      exact .pure fun _ hw => ⟨hw, hmtls⟩

/-- The metadata file is consumed: with it the credentials have to go. -/
theorem meets_consumeMeta (hlook : env.Honest .metaExists) (hremove : env.NotLost .removeMeta)
    (halone : ∀ u, u ≠ t → (others u).volumeMount = none) :
    Meets (holds (Down (β := β) v t others)) (consumeMeta env t cleanUp)
      (fun hasMtls w => match hasMtls with
        | true => holds (Quiet t others) w
        | false => holds (Down v t others) w ∧ (w.target t).metaFile = .absent)
      (fun _ => holds (Inv v t others)) := by
  refine .bind ((meets_probe_honest (fun f hf text => by cases f <;> simp_all [Fault.err])
    hlook _).raiseLeft) fun found => ?_
  cases found with
  | false =>
    refine .pure fun w hw => ⟨hw.1, ?_⟩
    simpa using hw.2
  | true =>
    refine .bind (meets_readAndProcessMetaFile.preLeft) fun m => ?_
    refine .assuming (p := m.hasMtls = true) (fun _ hw => hw.2) fun hmtls => ?_
    have hremoved : NodeMeets (Down (β := β) v t others)
        (command env .removeMeta (changeTarget t (·.setMeta .absent)))
        (fun _ => Quiet t others) (Inv v t others) := by
      refine meets_command (fun _ _ _ _ hw => hw.1) (fun f n h => absurd h (hremove n f))
        (meets_changeTarget fun s hs => ?_)
      refine (hs.quiet halone).set ((hs.1.1.sound t).setMeta nofun) ?_
      rw [volumeMount_setMeta]
      exact hs.2
    refine .bind (hremoved.preLeft) fun _ => ?_
    rw [hmtls]
    exact .pure fun _ hw => hw

/-- The credentials of a quiet node are deleted. -/
theorem meets_deleteCredentials_quiet (henv : Deletes env) :
    Finishes (holds (Quiet (β := β) t others)) (deleteMtlsCredentials env v)
      (fun _ => holds (Inv v t others)) := by
  refine (meets_deleteMtlsCredentials henv
    (fun s name hs => ⟨⟨hs.1.sound, hs.1.frame⟩, hs.2⟩) v).post (fun _ w hw => ?_)
  obtain ⟨⟨hsound, hnone⟩, hcert, hprivkey⟩ := hw
  exact ⟨hsound, keyed_of_gone hnone hcert hprivkey⟩

theorem meets_umountTmpfs_quiet (henv : Deletes env) :
    Finishes (holds (Quiet (β := β) t others)) (umountTmpfs env t)
      (fun _ => holds (Quiet t others)) := by
  refine meets_command_answered henv.tmpfs
    (meets_onTarget (fun s a target hs hpop => ?_) fun w e hw herr => ?_)
  · obtain ⟨ht, hnone, -⟩ := (hs.1.sound t).umountTmpfs hpop
    exact hs.set ht (hnone (hs.2 t))
  · have hdevice : (w.target t).device = false := (hw.1.sound t).device
    unfold Target.umountTmpfs Target.umount at herr
    split at herr
    next hlayers =>
      rw [hlayers, hdevice] at herr
      cases herr
    next => cases herr

/-- A tmpfs without a metadata file says nothing about credentials. -/
theorem meets_umountTmpfs_absent :
    NodeMeets (fun s : State β => Down v t others s ∧ (s.target t).metaFile = .absent)
      (umountTmpfs env t) (fun _ => Inv v t others) (Inv v t others) := by
  refine meets_command (fun _ _ _ _ hw => hw.1.1)
    (fun _ _ _ => ⟨fun _ _ hw => hw, fun _ _ hw => hw⟩)
    (meets_onTarget (fun s a target hs hpop => ?_) fun _ _ hw _ => hw.1.1)
  obtain ⟨⟨⟨hsound, hkeyed⟩, hnone⟩, habsent⟩ := hs
  obtain ⟨ht, hdown, hmark⟩ := (hsound.sound t).umountTmpfs hpop
  refine ⟨hsound.set ht, hkeyed.set (fun h => absurd (hdown hnone) h) (hmark fun m => ?_)⟩
  rw [habsent]
  exact nofun

theorem meets_rmdir :
    NodeMeets (Inv (β := β) v t others) (command env .rmdir (onTarget t Target.rmdir))
      (fun _ s => Inv v t others s ∧ (s.target t).dir = false)
      (Inv v t others) := by
  refine meets_command (fun _ _ _ _ hw => hw) (fun _ _ _ => ⟨fun _ _ hw => hw.1, fun _ _ hw => hw⟩)
    (meets_onTarget (fun s a target hs hrm => ?_) fun _ _ hw _ => hw)
  obtain ⟨hsound, hkeyed⟩ := hs
  unfold Target.rmdir at hrm
  split at hrm
  next => cases hrm
  next =>
    split at hrm
    next => cases hrm
    next hempty =>
      cases hrm
      have hnil : (s.target t).layers = [] := by simpa using hempty
      have ht : SoundTarget { s.target t with dir := false } := by
        have h := hsound.sound t
        exact ⟨h.below, h.mtls, h.device, fun hne => absurd hnil hne⟩
      refine ⟨⟨hsound.set ht, hkeyed.set (fun h => hkeyed.mounted t h) fun hm => hm⟩, ?_⟩
      rw [State.setTarget_same]

/-- **An unpublish** keeps the invariant, and removes the path when it succeeds. -/
theorem meets_nodeUnpublish (v : String) (cleanUp : Meta → EStateM Vms.Err β Unit)
    (hlook : env.Honest .pathExists) (hmeta : env.Honest .metaExists)
    (henv : Deletes env) (hremove : env.NotLost .removeMeta)
    (hforced : conf.forceLazyUmountOnTimeout = true → ∀ n, env.fate .umount n ≠ .lost .timedOut)
    (halone : ∀ u, u ≠ t → (others u).volumeMount = none) :
    NodeMeets (Inv (β := β) v t others) (nodeUnpublish env t conf cleanUp v)
      (fun _ s => Inv v t others s ∧ (s.target t).dir = false)
      (Inv v t others) := by
  refine .bind (meets_probe_honest (fun f hf text => by cases f <;> simp_all [Fault.err])
    hlook _) fun found => ?_
  cases found with
  | false => exact .pure fun w hw => ⟨hw.1, hw.2.symm⟩
  | true =>
    refine .bind ((meets_unmountLoop hforced _).preLeft) fun _ => ?_
    refine .bind (meets_consumeMeta hmeta hremove halone) fun hasMtls => ?_
    cases hasMtls with
    | true =>
      -- from here to the deletion of the credentials every command answers
      refine .bind ((meets_umountTmpfs_quiet henv).raise fun _ _ hw => hw.elim) fun _ => ?_
      exact .bind ((meets_deleteCredentials_quiet henv).raise fun _ _ hw => hw.elim)
        fun _ => meets_rmdir
    | false =>
      refine .bind meets_umountTmpfs_absent fun _ => ?_
      exact .bind (Q := fun _ => holds (Inv v t others)) .ret fun _ => meets_rmdir

end Unpublish

section Publish

variable {β : Type} {v t : String} {others : String → Target} {env : Env} {req : PublishReq}

/-- Nothing is mounted at the path unless the volume already was. -/
theorem meets_alreadyPublished (hlook : env.Honest .isDir) :
    Meets (holds (Inv (β := β) v t others)) (alreadyPublished env t req)
      (fun found w => match found with
        | true => holds (Inv v t others) w
        | false => holds (Down v t others) w) (fun _ => holds (Inv v t others)) := by
  refine .bind (meets_probe_honest (fun f hf text => by cases f <;> simp_all [Fault.err])
    hlook _) fun isDir => ?_
  cases isDir with
  | false =>
    refine .pure fun w hw => ⟨hw.1, ?_⟩
    -- no directory, no mounts
    have hnil : (w.target t).layers = [] := by
      by_cases hne : (w.target t).layers = []
      · exact hne
      · have hdir := (hw.1.1.sound t).rooted hne
        rw [← hw.2] at hdir
        cases hdir
    exact volumeMount_eq_none_iff.mpr (by rw [hnil]; rfl)
  | true =>
    refine .bind ((meets_read Target.volumeMount).preLeft) fun mount => ?_
    split
    next => exact .pure fun _ hw => ⟨hw.1, hw.2.symm⟩
    next =>
      split
      next =>
        split
        next =>
          refine .bind ((meets_umount true).weaken (fun w hw => ⟨hw.1, fun hnone => ?_⟩)
            (fun _ _ hw => hw) (fun _ _ hw => hw.1)) fun _ => .pure fun _ hw => hw
          have := hw.2
          rw [hnone] at this
          cases this
        next => exact .throw fun _ hw => hw.1
      next =>
        split
        next => exact .throw fun _ hw => hw.1
        next => exact .pure fun _ hw => hw.1

/-- The path while the metadata file is written: nothing is mounted over it. -/
structure Laid (v t : String) (others : String → Target) (s : State β) : Prop where
  down : Down v t others s
  dir : (s.target t).dir = true

variable {s : State β} {m : Meta}

/-- A change of the mounts that hides nothing and mounts no volume. -/
theorem Laid.set (h : Laid v t others s) {target : Target} (ht : SoundTarget target)
    (hmount : target.volumeMount = none) (hdir : target.dir = true)
    (hmark : Marked (s.target t) → Marked target) : Laid v t others (s.setTarget t target) := by
  refine ⟨⟨⟨h.down.1.1.set ht, h.down.1.2.set (fun hm => absurd hmount hm) hmark⟩, ?_⟩, ?_⟩
  · rw [State.setTarget_same]
    exact hmount
  · rw [State.setTarget_same]
    exact hdir

def LaidWith (v t : String) (others : String → Target) (file : MetaFile) (s : State β) : Prop :=
  Laid v t others s ∧ (s.target t).metaFile = file ∧ ∃ old rest,
    (s.target t).layers = .tmpfs old :: rest

/-- Any command of the preparation may fail, with or without effect. -/
theorem meets_command_laid {c : Command} {J K : State β → Prop} {f : Target → Target}
    (hJ : ∀ s, J s → Inv v t others s) (hK : ∀ s, K s → Inv v t others s)
    (h : ∀ s, J s → K (s.setTarget t (f (s.target t)))) :
    NodeMeets J (command env c (changeTarget t f)) (fun _ => K) (Inv v t others) :=
  meets_command (fun _ _ _ w hw => hJ w.toState hw)
    (fun _ _ _ => ⟨fun _ w hw => hK w.toState hw, fun _ _ hw => hw⟩) (meets_changeTarget h)

/-- Writing the metadata file over one that is not whole. -/
theorem LaidWith.setMeta {old file : MetaFile} (h : LaidWith v t others old s)
    (hold : ∀ m, old ≠ .whole m) (hfile : ∀ m, file = .whole m → m.hasMtls = true) :
    LaidWith v t others file (s.setTarget t ((s.target t).setMeta file)) := by
  obtain ⟨hlaid, hmeta, old', rest, hlayers⟩ := h
  have htarget : (s.target t).setMeta file = { s.target t with layers := .tmpfs file :: rest } := by
    unfold Target.setMeta
    rw [hlayers]
  refine ⟨hlaid.set ((hlaid.down.1.1.sound t).setMeta hfile) ?_ ?_ fun hm => ?_, ?_⟩
  · rw [volumeMount_setMeta]
    exact hlaid.down.2
  · rw [htarget]
    exact hlaid.dir
  · exact hm.setMeta (by rw [hmeta]; exact hold) file
  · rw [State.setTarget_same, htarget]
    exact ⟨rfl, file, rest, rfl⟩

theorem meets_mountMeta (hmtls : req.mtls = true) :
    NodeMeets (Down (β := β) v t others) (mountMeta env t req)
      (fun _ => LaidWith v t others (.whole req.metadata))
      (Inv v t others) := by
  have hinv {file : MetaFile} : ∀ s : State β, LaidWith v t others file s → Inv v t others s :=
    fun _ hs => hs.1.down.1
  refine .bind (meets_command_laid (K := Laid v t others) (fun _ hs => hs.1)
    (fun _ hs => hs.down.1) fun s hs => ?_) fun _ => ?_
  · have hsound := hs.1.1.sound t
    refine ⟨⟨⟨hs.1.1.set ⟨hsound.below, hsound.mtls, hsound.device, fun _ => rfl⟩,
      hs.1.2.set (fun h => hs.1.2.mounted t h) fun hm => hm⟩, ?_⟩, ?_⟩
    · rw [State.setTarget_same]
      exact hs.2
    · rw [State.setTarget_same]
  refine .bind (meets_command_laid (K := LaidWith v t others .absent)
    (fun _ hs => hs.down.1) hinv fun s hs => ?_) fun _ => ?_
  · have hsound : SoundTarget ((s.target t).push (.tmpfs .absent)) :=
      (hs.down.1.1.sound t).push hs.down.2 hs.dir nofun
    refine ⟨hs.set hsound ?_ hs.dir fun ⟨m, hm⟩ => ⟨m, mem_cons_of_mem _ hm⟩, ?_⟩
    · exact volumeMount_eq_none_iff.mpr (volumeMount_eq_none_iff.mp hs.down.2)
    · rw [State.setTarget_same]
      exact ⟨rfl, .absent, (s.target t).layers, rfl⟩
  refine .bind (meets_command_laid (K := LaidWith v t others .torn) hinv hinv
    fun s hs => hs.setMeta nofun nofun) fun _ => ?_
  refine .bind (meets_command_laid (K := LaidWith v t others (.whole req.metadata)) hinv
    hinv fun s hs => hs.setMeta nofun fun m hm => ?_) fun _ => ?_
  · cases hm
    exact hmtls
  · exact meets_command (fun _ _ _ w hw => hinv w.toState hw)
      (fun _ _ _ => ⟨fun _ w hw => hinv w.toState hw, fun _ _ hw => hw⟩)
      .ret

/-- The credentials are loaded once the metadata file says so. -/
def Loaded (v t : String) (others : String → Target) (m : Meta) (s : State β) : Prop :=
  LaidWith v t others (.whole m) s ∧ certKeyName v ∈ s.keyring ∧ privkeyKeyName v ∈ s.keyring

theorem LaidWith.addKey (h : LaidWith v t others (.whole m) s) (name : String) :
    LaidWith v t others (.whole m) { s with keyring := name :: s.keyring } := by
  obtain ⟨⟨⟨⟨hsound, hkeyed⟩, hnone⟩, hdir⟩, hmeta, hlayers⟩ := h
  refine ⟨⟨⟨⟨⟨hsound.sound, hsound.frame⟩, ?_, fun _ => ?_⟩, hnone⟩, hdir⟩, hmeta, hlayers⟩
  · intro u hu
    obtain ⟨hcert, hprivkey⟩ := hkeyed.mounted u hu
    exact ⟨mem_cons_of_mem _ hcert, mem_cons_of_mem _ hprivkey⟩
  · exact ⟨t, m, mem_of_metaFile hmeta⟩

theorem meets_loadCredentials (hcareful : env.Answers .searchKey ∧ env.OnlyDies .addKey ∧
    env.OnlyDies .setPerm) (hvolume : req.volumeId = v) (hmtls : req.mtls = true)
    (hcredentials : req.credentials = true) (h : Err → Call β Unit) :
    NodeMeets (LaidWith v t others (.whole m)) (catching (loadCredentials env req) h)
      (fun _ => Loaded v t others m) (Inv v t others) := by
  obtain ⟨hsearch, hadd, hperm⟩ := hcareful
  unfold loadCredentials
  rw [hmtls, hcredentials, hvolume, Bool.true_and, if_pos rfl]
  refine meets_catching (meets_loadMtlsCredentials hsearch hadd hperm
    (fun s name hs => hs.addKey name) v) (fun _ hw => hw.2.1.down.1) fun e he w hw => ?_
  exact absurd hw.1 he

/-- The mount, and the way back when it fails. -/
theorem meets_mountVolume (henv : Deletes env) (hcleanup : env.NotLost .deleteMeta)
    (hmount : ∀ n f, env.fate .mountVolume n = .lost f → f = .crash)
    (halone : (∃ u, u ≠ t ∧ (others u).volumeMount ≠ none) → env.OnlyDies .mountVolume)
    (hvolume : req.volumeId = v) (hmtls : req.mtls = true) :
    NodeMeets (Loaded (β := β) v t others m) (mountVolume env t req)
      (fun _ => Inv v t others) (Inv v t others) := by
  refine meets_catching (F := fun e w => holds (Inv v t others) w ∧
    (e ≠ .crash → holds (Down v t others) w ∧
      ∀ u, u ≠ t → (others u).volumeMount = none)) ?_ (fun _ hw => hw.1) fun e he => ?_
  · refine meets_command (fun f n h w hw => ⟨hw.1.1.down.1, fun hne => ⟨hw.1.1.down, ?_⟩⟩)
      (fun f n h => ?_) (meets_changeTarget fun s hs => ?_)
    · -- a mount that fails and is not the end of the process
      intro u hu
      by_contra hmounted
      rw [halone ⟨u, hu, hmounted⟩ n f (.inl h)] at hne
      exact hne rfl
    · rw [hmount n f h]
      exact ⟨fun _ w hw => ⟨hw, fun hne => absurd rfl hne⟩,
        fun _ w hw => ⟨hw.1, fun hne => absurd rfl hne⟩⟩
    · obtain ⟨⟨⟨⟨⟨hsound, hkeyed⟩, hnone⟩, hdir⟩, -⟩, hkeys⟩ := hs
      exact ⟨hsound.set ((hsound.sound t).push hnone hdir nofun),
        hkeyed.set (fun _ => hkeys) fun ⟨m, hm⟩ => ⟨m, mem_cons_of_mem _ hm⟩⟩
  · -- the metadata file goes first, then the tmpfs, then the credentials
    have hdelete : NodeMeets (fun s : State β => Down v t others s ∧
        ∀ u, u ≠ t → (others u).volumeMount = none)
        (command env .deleteMeta (changeTarget t (·.setMeta .absent)))
        (fun _ => Quiet t others) (Inv v t others) := by
      refine meets_command (fun _ _ _ _ hw => hw.1.1) (fun f n h => absurd h (hcleanup n f))
        (meets_changeTarget fun s hs => ?_)
      refine (hs.1.quiet hs.2).set ((hs.1.1.1.sound t).setMeta nofun) ?_
      rw [volumeMount_setMeta]
      exact hs.1.2
    have hback : NodeMeets (fun s : State β => Down v t others s ∧
        ∀ u, u ≠ t → (others u).volumeMount = none) (cleanupPublishMetaTmpfs env t)
        (fun _ => Quiet t others) (Inv v t others) :=
      .bind hdelete fun _ => .bind ((meets_umountTmpfs_quiet henv).raise
        (fun _ _ hw => hw.elim)) fun _ => .ret
    refine .bind (hback.pre fun _ hw => hw.2 he) fun _ => ?_
    unfold deleteCredentials
    rw [hmtls, hvolume, if_pos rfl]
    exact .bind ((meets_deleteCredentials_quiet henv).raise fun _ _ hw => hw.elim) fun _ => .err

/-- **A publish** keeps the invariant. -/
theorem meets_nodePublish {s₀ : State β} (req : MtlsReq v) (hcareful : CarefulPublish t env s₀) :
    NodeMeets (Inv (β := β) v t s₀.target) (nodePublish env t req.req)
      (fun _ => Inv v t s₀.target) (Inv v t s₀.target) := by
  refine .bind (Q := fun _ => holds (Inv v t s₀.target)) (keeps_command .ret) fun _ => ?_
  refine .bind (meets_alreadyPublished hcareful.looks) fun found => ?_
  cases found with
  | true => exact .ret
  | false =>
    refine .bind (meets_mountMeta req.mtls) fun _ => ?_
    refine .bind (meets_loadCredentials ⟨hcareful.deletes.search, hcareful.add,
      hcareful.perm⟩ req.volume req.mtls req.credentials _) fun _ => ?_
    exact meets_mountVolume hcareful.deletes hcareful.cleanup hcareful.mount hcareful.alone
      req.volume req.mtls

end Publish

section History

variable {β : Type} {v : String} (conf : Conf) (cleanUp : Meta → EStateM Vms.Err β Unit)

def Between (v : String) (w : World β) : Prop := (∀ u, SoundTarget (w.target u)) ∧ Keyed v w.toState

theorem Between.inv {w : World β} (h : Between v w) (t : String) : Inv v t w.target w.toState :=
  ⟨⟨h.1, fun _ _ => rfl⟩, h.2⟩

def Action.path : Action v → String
  | .publish t _ _ => t
  | .unpublish t _ => t

/-- **A step of a history** keeps the invariant, and the other paths as they are. -/
theorem between_act {w : World β} (h : Between v w) (a : Action v) (ha : Careful conf w a) :
    Between v (act conf cleanUp w a) ∧
      ∀ u, u ≠ a.path → (act conf cleanUp w a).target u = w.target u := by
  cases a with
  | publish t req env =>
    obtain ⟨hsound, hkeyed⟩ := (meets_nodePublish req ha).endState (h.inv t)
    exact ⟨⟨hsound.sound, hkeyed⟩, hsound.frame⟩
  | unpublish t env =>
    have hmeets := meets_nodeUnpublish v cleanUp ha.exists_ ha.metaExists
      ha.deletes ha.removal ha.forced ha.alone
    obtain ⟨hsound, hkeyed⟩ := (hmeets.post
      (fun _ _ hw => hw.1)).endState (I := holds (Inv v t w.target)) (h.inv t)
    exact ⟨⟨hsound.sound, hkeyed⟩, hsound.frame⟩

end History

/-! ## Two paths -/

def publishWith (env : Env) (t : String) : Action "pvc-1" :=
  .publish t
    ⟨{ volumeId := "pvc-1", mountSpec := "10.0.0.1:/k8s/pvc-1", mtls := true, credentials := true },
      rfl, rfl, rfl⟩ env

/-- The process dies when it comes to the mount. -/
def diesAtMount : Env := ⟨fun c _ => if c = .mountVolume then .failed .crash else .answered⟩

/-- One path after the other: a publish that dies leaves a tmpfs behind, which the retry covers, so
that the path takes two unpublishes; then another path. -/
def oneByOne : List (Action "pvc-1") :=
  [publishWith diesAtMount "/pods/1", publishWith .steady "/pods/1",
    .unpublish "/pods/1" .steady, .unpublish "/pods/1" .steady, publishWith .steady "/pods/2"]

def afterOneByOne : World Unit := oneByOne.foldl (act {} fun _ => pure ()) emptyNode

theorem afterOneByOne_facts :
    ((afterOneByOne.target "/pods/1").dir = false ∧
      (afterOneByOne.target "/pods/1").volumeMount = none) ∧
      (afterOneByOne.target "/pods/2").volumeMount ≠ none ∧
      isOk (nodeUnpublish .steady "/pods/2" {} (fun _ => pure ()) "pvc-1" afterOneByOne) =
        true := by
  decide +kernel

/-- The node between the actions, which are on these paths. -/
def Untouched (paths : List String) (w : World Unit) : Prop :=
  Between "pvc-1" w ∧ ∀ u, u ∉ paths → w.target u = {}

theorem Untouched.act {paths : List String} {w w' : World Unit} (h : Untouched paths w)
    {a : Action "pvc-1"} (hw' : w' = Mtls.act {} (fun _ => pure ()) w a) (hpath : a.path ∈ paths)
    (ha : Careful {} w a) : Untouched paths w' := by
  obtain ⟨hbetween, hframe⟩ := between_act {} (fun _ => pure ()) h.1 a ha
  rw [← hw'] at hbetween hframe
  refine ⟨hbetween, fun u hu => (hframe u fun heq => hu (heq ▸ hpath)).trans (h.2 u hu)⟩

theorem deletes_steady : Deletes .steady := ⟨fun _ => rfl, fun _ => rfl, fun _ => rfl⟩

theorem careful_steady (t : String) (s : State Unit) : CarefulPublish t .steady s :=
  ⟨fun _ => ⟨nofun, nofun⟩, deletes_steady, fun _ _ h => h.elim nofun nofun,
    fun _ _ h => h.elim nofun nofun, fun _ _ => nofun, fun _ _ => nofun,
    fun _ _ _ h => h.elim nofun nofun⟩

theorem careful_diesAtMount (t : String) (s : State Unit) : CarefulPublish t diesAtMount s := by
  refine ⟨fun _ => ⟨nofun, nofun⟩, ⟨fun _ => rfl, fun _ => rfl, fun _ => rfl⟩,
    fun _ _ h => h.elim nofun nofun, fun _ _ h => h.elim nofun nofun, fun _ _ => nofun,
    fun _ _ => nofun, fun _ _ f h => ?_⟩
  rcases h with h | h
  · exact (Fate.failed.inj h).symm
  · cases h

theorem careful_unpublish {t : String} {s : State Unit}
    (h : ∀ u, u ≠ t → (s.target u).volumeMount = none) : CarefulUnpublish {} t .steady s :=
  ⟨fun _ => ⟨nofun, nofun⟩, fun _ => ⟨nofun, nofun⟩, deletes_steady, fun _ _ => nofun, nofun, h⟩

theorem Untouched.alone {w : World Unit} (h : Untouched ["/pods/1"] w) (u : String)
    (hu : u ≠ "/pods/1") : (w.target u).volumeMount = none := by
  rw [h.2 u fun hmem => hu (mem_singleton.mp hmem)]
  rfl

end VastCsi.Csi.Node.Mtls
