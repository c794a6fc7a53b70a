import VastCsi.Csi.MountOptions

/-!
# `get_connected_session`

The sessions of `nvme list-subsys` are searched for a subsystem with an NQN and a host. Of each
session only the first subsystem of the NQN is looked at, and the host is that of the session, or
of the first controller of this subsystem when the session reports none. A session whose `HostNQN`
is `None` is not one that reports none: the search ends there with an error.
-/

namespace VastCsi.Csi.NvmeSessions

open Lib.Tokens List Option
open VastCsi.Csi.MountOptions (Text isSpace)

structure Subsystem where
  name : Text
  nqn : Text
  paths : List Text
  deriving DecidableEq, Repr

/-- The `HostNQN` of a session: not there, `None` or a text. -/
inductive HostNqn where
  | absent
  | null
  | text (t : Text)
  deriving DecidableEq, Repr

structure Session where
  hostNqn : HostNqn
  subsystems : List Subsystem
  deriving DecidableEq, Repr

inductive Err where
  | attributeError (message : String)
  deriving DecidableEq, Repr

/-- `hostnqn` under the class path of each controller, where there is one. -/
abbrev Sysfs := Text → Option Text

def stripped (t : Text) : Text := strip isSpace t

def getHostnqnFromSysfs (sysfs : Sysfs) (subsystem : Subsystem) : Option Text :=
  match subsystem.paths with
  | [] => none
  | controller :: _ => (sysfs controller).map stripped

def HostNqn.reported : HostNqn → Except Err Text
  | .absent => .ok []
  | .null => .error (.attributeError "'NoneType' object has no attribute 'strip'")
  | .text t => .ok (stripped t)

def Session.target (session : Session) (subsystemNqn : Text) : Option Subsystem :=
  session.subsystems.find? fun s => stripped s.nqn == stripped subsystemNqn

def resolveHost (sysfs : Sysfs) (target : Subsystem) (reported : Text) : Option Text :=
  if reported = [] then (getHostnqnFromSysfs sysfs target).map stripped else some reported

def visit (sysfs : Sysfs) (hostNqn subsystemNqn : Text) (session : Session) :
    Except Err (Option Subsystem) :=
  match session.target subsystemNqn with
  | none => .ok none
  | some target =>
    match session.hostNqn.reported with
    | .error e => .error e
    | .ok reported =>
      if resolveHost sysfs target reported = some (stripped hostNqn) then .ok (some target)
      else .ok none

def getConnectedSession (sysfs : Sysfs) (hostNqn subsystemNqn : Text) :
    List Session → Except Err (Option Subsystem)
  | [] => .ok none
  | session :: rest =>
    match visit sysfs hostNqn subsystemNqn session with
    | .error e => .error e
    | .ok (some target) => .ok (some target)
    | .ok none => getConnectedSession sysfs hostNqn subsystemNqn rest

def HostNqn.known : HostNqn → Text
  | .text t => stripped t
  | _ => []

/-- The host of a subsystem: reported, or read from sysfs. -/
def hostOf (sysfs : Sysfs) (session : Session) (s : Subsystem) : Option Text :=
  if session.hostNqn.known = [] then getHostnqnFromSysfs sysfs s else some session.hostNqn.known

section

variable (sysfs : Sysfs) (hostNqn subsystemNqn : Text)

/-- The session lists the subsystem, with the NQN and the host. -/
def IsConnected (session : Session) (s : Subsystem) : Prop :=
  s ∈ session.subsystems ∧ stripped s.nqn = stripped subsystemNqn ∧
    hostOf sysfs session s = some (stripped hostNqn)

/-- A subsystem is returned if there is one, and it is such a one. -/
def Answers (sessions : List Session) : Except Err (Option Subsystem) → Prop
  | .ok (some s) => ∃ session ∈ sessions, IsConnected sysfs hostNqn subsystemNqn session s
  | .ok none => ∀ session ∈ sessions, ∀ s, ¬ IsConnected sysfs hostNqn subsystemNqn session s
  | .error _ => False

/-- The session lists the NQN, and its `HostNQN` is `None`. -/
def Broken (session : Session) : Prop :=
  session.hostNqn = .null ∧ session.target subsystemNqn ≠ none

def Hits (session : Session) : Prop :=
  session.hostNqn ≠ .null ∧ ∃ target, session.target subsystemNqn = some target ∧
    hostOf sysfs session target = some (stripped hostNqn)

/-- The first subsystem of the NQN does not have the host, and another one does. -/
def Hides (session : Session) : Prop :=
  ∃ target, session.target subsystemNqn = some target ∧
    hostOf sysfs session target ≠ some (stripped hostNqn) ∧
      ∃ s, IsConnected sysfs hostNqn subsystemNqn session s

/-- A session is hit, and none before it is broken. -/
def HitFirst : List Session → Prop
  | [] => False
  | session :: rest => Hits sysfs hostNqn subsystemNqn session ∨
      ¬ Broken subsystemNqn session ∧ HitFirst rest

end

instance (sysfs : Sysfs) (hostNqn subsystemNqn : Text) (session : Session) (s : Subsystem) :
    Decidable (IsConnected sysfs hostNqn subsystemNqn session s) :=
  inferInstanceAs (Decidable (_ ∧ _ ∧ _))

section

variable {sysfs : Sysfs} {hostNqn subsystemNqn : Text} {session : Session} {target : Subsystem}

theorem reported_of_ne_null {h : HostNqn} (hne : h ≠ .null) : h.reported = .ok h.known := by
  cases h with
  | absent => rfl
  | null => exact absurd rfl hne
  | text t => rfl

theorem resolveHost_known :
    resolveHost sysfs target session.hostNqn.known = hostOf sysfs session target := by
  unfold resolveHost hostOf getHostnqnFromSysfs
  by_cases hnone : session.hostNqn.known = []
  · rw [if_pos hnone, if_pos hnone]
    cases target.paths with
    | nil => rfl
    | cons controller rest =>
      -- a text that is stripped twice is stripped
      have htwice : ∀ t, stripped (stripped t) = stripped t := strip_strip isSpace
      cases hfile : sysfs controller with
      | none => simp only [hfile, map_none]
      | some t => simp only [hfile, map_some, htwice]
  · rw [if_neg hnone, if_neg hnone]

theorem isConnected_of_target (htarget : session.target subsystemNqn = some target)
    (hhost : hostOf sysfs session target = some (stripped hostNqn)) :
    IsConnected sysfs hostNqn subsystemNqn session target := by
  have hnqn := find?_some htarget
  exact ⟨mem_of_find?_eq_some htarget, eq_of_beq hnqn, hhost⟩

theorem target_ne_none {s : Subsystem} (h : IsConnected sysfs hostNqn subsystemNqn session s) :
    session.target subsystemNqn ≠ none := by
  intro hnone
  exact find?_eq_none.mp hnone s h.1 (beq_iff_eq.mpr h.2.1)

theorem visit_cases (session : Session) :
    (Broken subsystemNqn session ∧ ∃ e, visit sysfs hostNqn subsystemNqn session = .error e) ∨
      (Hits sysfs hostNqn subsystemNqn session ∧ ∃ s,
        visit sysfs hostNqn subsystemNqn session = .ok (some s) ∧
          IsConnected sysfs hostNqn subsystemNqn session s) ∨
      (¬ Broken subsystemNqn session ∧ ¬ Hits sysfs hostNqn subsystemNqn session ∧
        visit sysfs hostNqn subsystemNqn session = .ok none) := by
  unfold visit
  cases htarget : session.target subsystemNqn with
  | none =>
    refine .inr (.inr ⟨fun hbroken => hbroken.2 htarget, fun hhits => ?_, rfl⟩)
    obtain ⟨-, t, ht, -⟩ := hhits
    rw [htarget] at ht
    cases ht
  | some target =>
    dsimp only
    by_cases hnull : session.hostNqn = .null
    · have hbroken : Broken subsystemNqn session :=
        ⟨hnull, by rw [htarget]; exact some_ne_none target⟩
      rw [hnull]
      exact .inl ⟨hbroken, _, rfl⟩
    · rw [reported_of_ne_null hnull]
      dsimp only
      rw [resolveHost_known]
      by_cases hhost : hostOf sysfs session target = some (stripped hostNqn)
      · rw [if_pos hhost]
        exact .inr (.inl ⟨⟨hnull, target, htarget, hhost⟩, target, rfl,
          isConnected_of_target htarget hhost⟩)
      · rw [if_neg hhost]
        refine .inr (.inr ⟨fun hbroken => hnull hbroken.1, fun hhits => ?_, rfl⟩)
        obtain ⟨-, t, ht, hhost'⟩ := hhits
        rw [htarget] at ht
        cases ht
        exact hhost hhost'

theorem hides_iff (hbroken : ¬ Broken subsystemNqn session)
    (hhits : ¬ Hits sysfs hostNqn subsystemNqn session) :
    Hides sysfs hostNqn subsystemNqn session ↔
      ∃ s, IsConnected sysfs hostNqn subsystemNqn session s := by
  constructor
  · intro hhides
    obtain ⟨-, -, -, hconnected⟩ := hhides
    exact hconnected
  · intro hconnected
    obtain ⟨s, hs⟩ := hconnected
    obtain ⟨target, htarget⟩ := ne_none_iff_exists'.mp (target_ne_none hs)
    refine ⟨target, htarget, fun hhost => hhits ⟨fun hnull => ?_, target, htarget, hhost⟩, s, hs⟩
    exact hbroken ⟨hnull, target_ne_none hs⟩

end

section

variable {sysfs : Sysfs} {hostNqn subsystemNqn : Text}

theorem search_cases (sessions : List Session) :
    ((∃ e, getConnectedSession sysfs hostNqn subsystemNqn sessions = .error e) ∧
        ¬ HitFirst sysfs hostNqn subsystemNqn sessions ∧
          ∃ session ∈ sessions, Broken subsystemNqn session) ∨
      (HitFirst sysfs hostNqn subsystemNqn sessions ∧ ∃ s,
        getConnectedSession sysfs hostNqn subsystemNqn sessions = .ok (some s) ∧
          ∃ session ∈ sessions, IsConnected sysfs hostNqn subsystemNqn session s) ∨
      (getConnectedSession sysfs hostNqn subsystemNqn sessions = .ok none ∧
        ¬ HitFirst sysfs hostNqn subsystemNqn sessions ∧
          ∀ session ∈ sessions, ¬ Broken subsystemNqn session ∧
            ¬ Hits sysfs hostNqn subsystemNqn session) := by
  induction sessions with
  | nil => exact .inr (.inr ⟨rfl, fun h => h, fun session h => absurd h not_mem_nil⟩)
  | cons session rest ih =>
    have hmem : session ∈ session :: rest := mem_cons_self
    rw [getConnectedSession]
    rcases visit_cases session with ⟨hbroken, e, hvisit⟩ | ⟨hhits, s, hvisit, hs⟩ |
        ⟨hbroken, hhits, hvisit⟩
    · refine .inl ⟨⟨e, by rw [hvisit]⟩, fun hfirst => ?_, session, hmem, hbroken⟩
      rcases hfirst with hhits | ⟨hnot, -⟩
      · exact hhits.1 hbroken.1
      · exact hnot hbroken
    · exact .inr (.inl ⟨.inl hhits, s, by rw [hvisit], session, hmem, hs⟩)
    · rw [hvisit]
      have hrest : HitFirst sysfs hostNqn subsystemNqn (session :: rest) ↔
          HitFirst sysfs hostNqn subsystemNqn rest :=
        ⟨fun h => (h.resolve_left hhits).2, fun h => .inr ⟨hbroken, h⟩⟩
      rw [hrest]
      rcases ih with ⟨herror, hfirst, session', hin, hbroken'⟩ |
          ⟨hfirst, s, hfound, session', hin, hs⟩ | ⟨hnone, hfirst, hall⟩
      · exact .inl ⟨herror, hfirst, session', mem_cons_of_mem _ hin, hbroken'⟩
      · exact .inr (.inl ⟨hfirst, s, hfound, session', mem_cons_of_mem _ hin, hs⟩)
      · refine .inr (.inr ⟨hnone, hfirst, fun session' hin => ?_⟩)
        rcases mem_cons.mp hin with rfl | hin
        · exact ⟨hbroken, hhits⟩
        · exact hall session' hin

end

/-- **The connected subsystem**: the answer is right exactly when a session is hit before one is
broken, or no session is broken and none hides the subsystem. -/
theorem connected_session_iff (sysfs : Sysfs) (hostNqn subsystemNqn : Text)
    (sessions : List Session) :
    Answers sysfs hostNqn subsystemNqn sessions
        (getConnectedSession sysfs hostNqn subsystemNqn sessions) ↔
      HitFirst sysfs hostNqn subsystemNqn sessions ∨
        ∀ session ∈ sessions, ¬ Broken subsystemNqn session ∧
          ¬ Hides sysfs hostNqn subsystemNqn session := by
  rcases search_cases sessions with ⟨⟨e, herror⟩, hfirst, session, hin, hbroken⟩ |
      ⟨hfirst, s, hfound, hs⟩ | ⟨hnone, hfirst, hall⟩
  · rw [herror]
    constructor
    · intro hanswers
      exact hanswers.elim
    · intro h
      exact (h.resolve_left hfirst session hin).1 hbroken
  · rw [hfound]
    exact ⟨fun _ => .inl hfirst, fun _ => hs⟩
  · rw [hnone]
    constructor
    · intro hanswers
      refine .inr fun session hin => ⟨(hall session hin).1, fun hhides => ?_⟩
      obtain ⟨-, -, -, s, hs⟩ := hhides
      exact hanswers session hin s hs
    · intro h session hin s hs
      have hhides := (hides_iff (hall session hin).1 (hall session hin).2).mpr ⟨s, hs⟩
      exact (h.resolve_left hfirst session hin).2 hhides

def firstSubsystem : Subsystem := ⟨"nvme-subsys0".toList, "nqn.vast".toList, ["nvme0".toList]⟩

def secondSubsystem : Subsystem := ⟨"nvme-subsys1".toList, "nqn.vast".toList, ["nvme1".toList]⟩

def twoHosts : Sysfs := fun controller =>
  if controller = "nvme0".toList then some "nqn.other".toList
  else if controller = "nvme1".toList then some "nqn.csi".toList
  else none

/-- The search for a host ends with an error at a session with `None`, and with nothing behind a
subsystem of another host. -/
theorem session_missed :
    IsConnected twoHosts "nqn.csi".toList "nqn.vast".toList ⟨.null, [secondSubsystem]⟩
        secondSubsystem ∧
      getConnectedSession twoHosts "nqn.csi".toList "nqn.vast".toList [⟨.null, [secondSubsystem]⟩] =
          .error (.attributeError "'NoneType' object has no attribute 'strip'") ∧
      IsConnected twoHosts "nqn.csi".toList "nqn.vast".toList
        ⟨.absent, [firstSubsystem, secondSubsystem]⟩ secondSubsystem ∧
      getConnectedSession twoHosts "nqn.csi".toList "nqn.vast".toList
        [⟨.absent, [firstSubsystem, secondSubsystem]⟩] = .ok none := by
  decide

end VastCsi.Csi.NvmeSessions
