import Mathlib.Algebra.Ring.Nat
import Mathlib.Data.List.Basic

/-!
# The fields of a session and where they come from

`VmsSession.create` resolves the credentials of a session: those of the named cluster, those of
the global secret when none are given, or the ones given. A session is only ever built here, so
that its fields satisfy the checks at the end of `create`.
-/

namespace VastCsi.Vms

structure VmsSession where
  username : Option String
  password : Option String
  token : Option String
  tenant : Option String
  endpoint : Option String
  sslCert : Option String
  clusterName : Option String
  deriving DecidableEq, Repr

def truthy : Option String → Bool
  | none => false
  | some s => s != ""

/-- A text or `None` in an f-string. -/
def pyStr : Option String → String
  | none => "None"
  | some s => s

structure ClusterAuth where
  username : Option String := none
  password : Option String := none
  token : Option String := none
  tenant : Option String := none
  endpoint : Option String := none
  deriving DecidableEq, Repr

/-- What `create` reads of the configuration; an empty entry of the
multi-cluster secret counts as none. -/
structure Config where
  clusterCredentials : String → Option ClusterAuth := fun _ => none
  /-- `vms_credentials_store.exists()`. -/
  credentialsStore : Bool := false
  vmsUser : Option String := none
  vmsPassword : Option String := none
  vmsToken : Option String := none
  vmsTenant : Option String := none
  vmsHost : Option String := none

inductive SessionErr where
  | lookupFieldError (field tip : String)
  | attributeError (name : String)
  | exception (message : String)
  deriving DecidableEq, Repr

namespace VmsSession

def withCluster (s : VmsSession) (auth : ClusterAuth) (endpoint : String) : VmsSession :=
  { s with
    username := auth.username, password := auth.password, token := auth.token
    tenant := auth.tenant, endpoint := some endpoint }

def withGlobal (s : VmsSession) (config : Config) : VmsSession :=
  { s with
    username := config.vmsUser, password := config.vmsPassword, token := config.vmsToken
    tenant := config.vmsTenant, endpoint := config.vmsHost }

def isGlobal (s : VmsSession) : Bool := !(truthy s.username || truthy s.token)

def resolve (config : Config) (s : VmsSession) : Except SessionErr (VmsSession × String) :=
  if truthy s.clusterName then
    match config.clusterCredentials (pyStr s.clusterName) with
    | none =>
      .error (.lookupFieldError "cluster_name" "Make sure cluster name is present in secret.")
    | some auth =>
      match auth.endpoint with
      | none => .error (.attributeError "endpoint")
      | some endpoint => .ok (s.withCluster auth endpoint,
          s!"multi-cluster auth configuration (cluster_name='{pyStr s.clusterName}')")
  else if s.isGlobal then
    .ok (if config.credentialsStore then s.withGlobal config else s,
      "mounted credentials (global secret)")
  else .ok (s, "StorageClass secret")

def check (s : VmsSession) (configSource : String) : Except SessionErr VmsSession :=
  if truthy s.token && (truthy s.username || truthy s.password) then
    .error (.exception "Provide either both 'username' and 'password', or a 'token', but not both.")
  else if !truthy s.token && !truthy s.username then
    .error (.lookupFieldError "username" s!"Make sure username is present in {configSource}.")
  else if !truthy s.token && !truthy s.password then
    .error (.lookupFieldError "password" s!"Make sure password is present in {configSource}.")
  else if !truthy s.endpoint then
    .error (.lookupFieldError "endpoint" s!"Make sure endpoint is present in {configSource}.")
  else .ok s

def create (config : Config) (s : VmsSession) : Except SessionErr VmsSession := do
  let (s, configSource) ← resolve config s
  s.check configSource

def Checked (s : VmsSession) : Prop :=
  (truthy s.token = true ∧ truthy s.username = false ∧ truthy s.password = false ∨
    truthy s.token = false ∧ truthy s.username = true ∧ truthy s.password = true) ∧
    truthy s.endpoint = true

variable {s t : VmsSession}

theorem check_ok_iff {configSource : String} :
    s.check configSource = .ok t ↔ s.Checked ∧ s = t := by
  unfold check Checked
  cases truthy s.token <;> cases truthy s.username <;> cases truthy s.password <;>
    cases truthy s.endpoint <;> simp

theorem create_ok_iff {config : Config} : create config s = .ok t ↔
      ∃ configSource, resolve config s = .ok (t, configSource) ∧ t.Checked := by
  unfold create
  cases hr : resolve config s with
  | error e => simp [bind, Except.bind]
  | ok r =>
    obtain ⟨u, configSource⟩ := r
    simp only [bind, Except.bind, check_ok_iff, Except.ok.injEq, Prod.mk.injEq]
    constructor
    · rintro ⟨hu, rfl⟩
      exact ⟨configSource, ⟨rfl, rfl⟩, hu⟩
    · rintro ⟨_, ⟨rfl, rfl⟩, hu⟩
      exact ⟨hu, rfl⟩

/-- A session is not taken for one without credentials. -/
theorem Checked.isGlobal (h : s.Checked) : s.isGlobal = false := by
  rcases h.1 with ⟨ht, -, -⟩ | ⟨-, hu, -⟩
  · simp [VmsSession.isGlobal, ht]
  · simp [VmsSession.isGlobal, hu]

/-- **The fields of a session resolve to themselves**, whichever of the secrets
they came from. -/
theorem create_create {config : Config} (h : create config s = .ok t) :
    create config t = .ok t := by
  obtain ⟨configSource, hr, ht⟩ := create_ok_iff.mp h
  rw [create_ok_iff]
  unfold resolve at hr
  by_cases hc : truthy s.clusterName = true
  · -- the entry of the cluster is looked up again
    rw [if_pos hc] at hr
    cases ha : config.clusterCredentials (pyStr s.clusterName) with
    | none => rw [ha] at hr; cases hr
    | some auth =>
      rw [ha] at hr
      dsimp only at hr
      cases he : auth.endpoint with
      | none => rw [he] at hr; cases hr
      | some endpoint =>
        rw [he] at hr
        cases hr
        refine ⟨s!"multi-cluster auth configuration (cluster_name='{pyStr s.clusterName}')", ?_, ht⟩
        unfold resolve
        rw [if_pos (show truthy (s.withCluster auth endpoint).clusterName = true from hc)]
        simp only [withCluster, ha, he]
  · rw [if_neg hc] at hr
    -- whatever was resolved, the name of the cluster is the one given
    have hname : t.clusterName = s.clusterName := by
      split at hr
      next =>
        obtain ⟨rfl, -⟩ := Prod.mk.inj (Except.ok.inj hr)
        split <;> rfl
      next =>
        obtain ⟨rfl, -⟩ := Prod.mk.inj (Except.ok.inj hr)
        rfl
    refine ⟨"StorageClass secret", ?_, ht⟩
    unfold resolve
    rw [if_neg (by rw [hname]; exact hc), if_neg (by rw [ht.isGlobal]; decide)]

def hashKey (s : VmsSession) : String :=
  if truthy s.token then pyStr s.token ++ pyStr s.endpoint
  else pyStr s.username ++ pyStr s.password ++ pyStr s.endpoint

/-- `__hash__`, for a hash function that reads its digest as a number. -/
def hash (sha256 : String → Nat) (s : VmsSession) : Nat := sha256 s.hashKey % (2 ^ 61 - 1)

end VmsSession

end VastCsi.Vms
