import VastCsi.Lib.Proc
import VastCsi.Lib.Text

/-!
# Secrets over the extensions server

`ResolveSecret` hands out the data of a Secret for a reference, `ResolveCOSIBucketAuth` for a
bucket, whose parameters have the reference. On the TCP listener an interceptor has the bearer
token reviewed and lets only the controller ServiceAccounts of the driver through; the handlers
ask whether that user may get the Secret. On the unix socket no question is asked. Every answer
that a request gets is put on record (`Event`).
-/

namespace VastCsi.Ext.SecretAccess

open Lib EStateM List Bool

structure UserInfo where
  username : String
  uid : String
  groups : List String
  extra : List (String × List String)
  deriving DecidableEq, Repr

def isDriverControllerSA (username : String) : Bool :=
  Text.startsWith username "system:serviceaccount:" &&
    match username.toList.splitOn ':' with
    | [_, _, ns, name] => ns != [] && name != [] && "-vast-controller-sa".toList.isSuffixOf name
    | _ => false

/-- The user name of a ServiceAccount whose name ends in `-vast-controller-sa`. -/
def IsControllerAccount (username : String) : Prop :=
  ∃ ns name : List Char, ns ≠ [] ∧ ':' ∉ ns ∧ ':' ∉ name ∧ "-vast-controller-sa".toList <:+ name ∧
    username.toList = "system:serviceaccount:".toList ++ ns ++ ':' :: name

/-- `isDriverControllerSA` accepts these user names only. -/
theorem isControllerAccount {username : String} (h : isDriverControllerSA username = true) :
    IsControllerAccount username := by
  rw [isDriverControllerSA, and_eq_true, Text.startsWith, isPrefixOf_iff_prefix] at h
  obtain ⟨⟨rest, hrest⟩, hparts⟩ := h
  have hsplit : username.toList.splitOn ':' =
      "system".toList :: "serviceaccount".toList :: rest.splitOn ':' := by
    have h₁ : "system:serviceaccount:".toList ++ rest =
        "system".toList ++ ':' :: ("serviceaccount".toList ++ ':' :: rest) := rfl
    rw [← hrest, h₁, splitOn_append_cons_self, splitOn_append_cons_self]
    rfl
  rw [hsplit] at hparts
  -- what follows the prefix has two pieces
  cases hr : rest.splitOn ':' with
  | nil => exact absurd hr (splitOn_ne_nil ':' rest)
  | cons ns pieces =>
    rw [hr] at hparts
    match pieces, hr with
    | [], _ => cases hparts
    | _ :: _ :: _, _ => cases hparts
    | [name], hr =>
      simp only [and_eq_true, bne_iff_ne, isSuffixOf_iff_suffix] at hparts
      obtain ⟨⟨hns, _⟩, hsuffix⟩ := hparts
      have hmem : ∀ q ∈ [ns, name], ':' ∉ q := fun q hq => Text.not_mem_of_mem_splitOn (hr ▸ hq)
      refine ⟨ns, name, hns, hmem ns (by simp), hmem name (by simp), hsuffix, ?_⟩
      have hjoin : [':'].intercalate (rest.splitOn ':') = rest := intercalate_splitOn ':'
      rw [hr] at hjoin
      rw [← hrest, ← hjoin]
      simp [List.intercalate]

structure AccessReview where
  user : String
  uid : String
  groups : List String
  extra : List (String × List String)
  namespace_ : String
  verb : String
  group : String
  resource : String
  name : String
  deriving DecidableEq, Repr

/-- The review that `AuthorizeSecretGet` asks for; `extraToSAR` copies the extra values. -/
def secretReview (user : UserInfo) (secretName secretNamespace : String) : AccessReview where
  user := user.username
  uid := user.uid
  groups := user.groups
  extra := user.extra
  namespace_ := secretNamespace
  verb := "get"
  group := ""
  resource := "secrets"
  name := secretName

structure Bucket where
  name : String
  parameters : List (String × String)
  deriving DecidableEq, Repr

inductive Event where
  | tokenReviewed (token : String) (user : UserInfo) (authenticated : Bool)
  | bucketsListed (bucketId : String) (buckets : List Bucket)
  | accessReviewed (review : AccessReview) (allowed : Bool)
  | secretRead (name namespace_ : String) (data : List (String × String))
  deriving DecidableEq, Repr

/-- An API error; `notFound` is what `IsNotFound` recognises. -/
structure ApiErr where
  notFound : Bool
  text : String
  deriving DecidableEq, Repr

/-- What the `n`-th call is answered with. -/
structure Env where
  tokenReview : Nat → String → Except ApiErr (UserInfo × Bool)
  listBuckets : Nat → String → Except ApiErr (List Bucket)
  accessReview : Nat → AccessReview → Except ApiErr Bool
  getSecret : Nat → String → String → Except ApiErr (List (String × String))

inductive Code where
  | unauthenticated | permissionDenied | invalidArgument | notFound | internal
  deriving DecidableEq, Repr

structure Status where
  code : Code
  message : String
  deriving DecidableEq, Repr

structure World where
  calls : Nat
  record : List Event
  deriving DecidableEq, Repr

abbrev Call (α : Type) := EStateM Status World α

/-- One call: an answer goes on record, and an error becomes a status. -/
def api {α : Type} (answer : Nat → Except ApiErr α) (event : α → Event)
    (status : ApiErr → Status) : Call α := fun w =>
  match answer w.calls with
  | .ok a => .ok a { calls := w.calls + 1, record := w.record ++ [event a] }
  | .error e => .error (status e) { w with calls := w.calls + 1 }

/-- `strings.TrimPrefix(authHeader, "Bearer ")`. -/
def trimBearer (header : String) : String :=
  if Text.startsWith header "Bearer " then String.ofList (header.toList.drop 7) else header

/-- The token of a request: that of the first `authorization` header. -/
def bearerToken (metadata : Option (List (String × List String))) : Except Status String :=
  match metadata with
  | none => .error ⟨.unauthenticated, "missing metadata"⟩
  | some md =>
    match md.lookup "authorization" with
    | none | some [] => .error ⟨.unauthenticated, "missing authorization token"⟩
    | some (header :: _) => .ok (trimBearer header)

def orFail {α : Type} : Except Status α → Call α
  | .ok a => pure a
  | .error e => throw e

def validateBearerToken (env : Env) (token : String) : Call (UserInfo × Bool) :=
  api (fun n => env.tokenReview n token) (fun r => .tokenReviewed token r.1 r.2) fun e =>
    let text := e.text
    ⟨.internal, s!"token review failed: {text}"⟩

/-- What `authorizeConnection` makes of a reviewed user. -/
def admitUser (user : UserInfo) (authenticated : Bool) : Except Status UserInfo :=
  let username := user.username
  if !authenticated then .error ⟨.unauthenticated, "invalid token"⟩
  else if !isDriverControllerSA username then
    .error ⟨.permissionDenied, s!"identity \"{username}\" is not an allowed VastExtensions caller"⟩
  else .ok user

def authorizeConnection (env : Env) (metadata : Option (List (String × List String))) :
    Call UserInfo := do
  let token ← orFail (bearerToken metadata)
  let (user, authenticated) ← validateBearerToken env token
  orFail (admitUser user authenticated)

/-- `AuthorizeSecretGet`; without a user in the context there is nothing to do. -/
def authorizeSecretGet (env : Env) (ctx : Option UserInfo) (secretName secretNamespace : String) :
    Call Unit :=
  match ctx with
  | none => pure ()
  | some user => do
    let review := secretReview user secretName secretNamespace
    let allowed ← api (fun n => env.accessReview n review) (.accessReviewed review) fun e =>
      let text := e.text
      ⟨.internal, s!"subject access review failed: {text}"⟩
    if allowed then pure ()
    else throw ⟨.permissionDenied,
      s!"caller is not allowed to get secret {secretNamespace}/{secretName}"⟩

def resolveSecret (env : Env) (ctx : Option UserInfo) (secretName secretNamespace : String) :
    Call (List (String × String)) :=
  if secretName = "" then throw ⟨.invalidArgument, "secret_name must not be empty"⟩
  else if secretNamespace = "" then
    throw ⟨.invalidArgument, "secret_namespace must not be empty"⟩
  else do
    authorizeSecretGet env ctx secretName secretNamespace
    api (fun n => env.getSecret n secretName secretNamespace)
      (.secretRead secretName secretNamespace) fun e =>
        let text := e.text
        if e.notFound then ⟨.notFound, s!"secret {secretNamespace}/{secretName} not found"⟩
        else ⟨.internal, s!"failed to get secret {secretNamespace}/{secretName}: {text}"⟩

def findBucket (bucketId : String) : List Bucket → Except Status Bucket
  | [] => .error ⟨.notFound, s!"COSI Bucket with bucketID \"{bucketId}\" not found"⟩
  | [bucket] => .ok bucket
  | _ => .error ⟨.notFound, s!"multiple COSI Buckets with bucketID \"{bucketId}\""⟩

theorem findBucket_ok {bucketId : String} {buckets : List Bucket} {bucket : Bucket}
    (h : findBucket bucketId buckets = .ok bucket) : buckets = [bucket] := by
  match buckets, h with
  | [_], h =>
    cases h
    rfl

/-- A parameter of a Go map; a missing one is empty. -/
def param (parameters : List (String × String)) (key : String) : String :=
  (parameters.lookup key).getD ""

def secretRefFromParameters (parameters : List (String × String)) : Option (String × String) :=
  let name := param parameters "vastdata.com/secret-name"
  let ns := param parameters "vastdata.com/secret-namespace"
  if name = "" ∧ ns = "" then none else some (name, ns)

/-- The rest of `ResolveCOSIBucketAuth`. A bucket without a reference has no data of its own. -/
def resolveReference (env : Env) (ctx : Option UserInfo) :
    Option (String × String) → Call (List (String × String))
  | none => pure []
  | some (name, ns) =>
    if name = "" ∨ ns = "" then
      throw ⟨.invalidArgument,
        "vastdata.com/secret-name and vastdata.com/secret-namespace must both be set"⟩
    else resolveSecret env ctx name ns

def resolveCOSIBucketAuth (env : Env) (ctx : Option UserInfo) (bucketId : String) :
    Call (List (String × String)) :=
  if bucketId = "" then throw ⟨.invalidArgument, "bucket_id must not be empty"⟩
  else do
    let buckets ← api (fun n => env.listBuckets n bucketId) (.bucketsListed bucketId) fun e =>
      let text := e.text
      ⟨.notFound, s!"list COSI Buckets by bucketID: {text}"⟩
    let bucket ← orFail (findBucket bucketId buckets)
    resolveReference env ctx (secretRefFromParameters bucket.parameters)

inductive Request where
  | resolveSecret (secretName secretNamespace : String)
  | resolveCOSIBucketAuth (bucketId : String)
  deriving DecidableEq, Repr

def handle (env : Env) (ctx : Option UserInfo) : Request → Call (List (String × String))
  | .resolveSecret name ns => resolveSecret env ctx name ns
  | .resolveCOSIBucketAuth bucketId => resolveCOSIBucketAuth env ctx bucketId

/-- `parseBindAddress` and the server options: a unix socket has no interceptor. -/
def isUnix (bindAddress : String) : Bool :=
  Text.startsWith bindAddress "unix://" || Text.startsWith bindAddress "/"

def serve (env : Env) (bindAddress : String) (metadata : Option (List (String × List String)))
    (req : Request) : Call (List (String × String)) :=
  if isUnix bindAddress then handle env none req
  else do
    let user ← authorizeConnection env metadata
    handle env (some user) req

variable {w w' : World} {user : UserInfo} {env : Env}

theorem api_ok {α : Type} {answer : Nat → Except ApiErr α} {event : α → Event}
    {status : ApiErr → Status} {a : α} (h : api answer event status w = .ok a w') :
    w'.record = w.record ++ [event a] := by
  unfold api at h
  cases hans : answer w.calls with
  | ok b =>
    rw [hans] at h
    cases h
    rfl
  | error e =>
    rw [hans] at h
    cases h

theorem orFail_ok {α : Type} {x : Except Status α} {a : α} (h : orFail x w = .ok a w') :
    x = .ok a ∧ w' = w := by
  cases x with
  | ok b =>
    obtain ⟨rfl, rfl⟩ := pure_ok_iff.mp h
    exact ⟨rfl, rfl⟩
  | error e => cases h

theorem admitUser_ok {user' : UserInfo} {authenticated : Bool}
    (h : admitUser user authenticated = .ok user') :
    user' = user ∧ authenticated = true ∧ isDriverControllerSA user.username = true := by
  unfold admitUser at h
  cases authenticated with
  | false => cases h
  | true =>
    cases hsa : isDriverControllerSA user.username with
    | false => simp [hsa] at h
    | true =>
      simp only [hsa, Bool.not_true, Bool.false_eq_true, if_false, Except.ok.injEq] at h
      exact ⟨h.symm, rfl, rfl⟩

/-- The user of the context is the one that the token of the request was reviewed to. -/
theorem authorizeConnection_ok {metadata : Option (List (String × List String))}
    (h : authorizeConnection env metadata w = .ok user w') :
    ∃ token, bearerToken metadata = .ok token ∧ isDriverControllerSA user.username = true ∧
      w'.record = w.record ++ [.tokenReviewed token user true] := by
  obtain ⟨token, w₁, hhead, hrest⟩ := bind_ok_iff.mp h
  obtain ⟨htoken, rfl⟩ := orFail_ok hhead
  obtain ⟨⟨reviewed, authenticated⟩, w₂, hreview, hend⟩ := bind_ok_iff.mp hrest
  obtain ⟨hallowed, rfl⟩ := orFail_ok hend
  obtain ⟨rfl, rfl, hsa⟩ := admitUser_ok hallowed
  have hrecord := api_ok hreview
  exact ⟨token, htoken, hsa, hrecord⟩

theorem authorizeSecretGet_ok {name ns : String}
    (h : authorizeSecretGet env (some user) name ns w = .ok () w') :
    w'.record = w.record ++ [.accessReviewed (secretReview user name ns) true] := by
  obtain ⟨allowed, w₁, hreview, h⟩ := bind_ok_iff.mp h
  have hrecord := api_ok hreview
  cases allowed with
  | false => cases h
  | true =>
    obtain ⟨_, rfl⟩ := pure_ok_iff.mp h
    exact hrecord

/-- Data is returned after a review of the caller for that very Secret. -/
theorem resolveSecret_ok {name ns : String} {data : List (String × String)}
    (h : resolveSecret env (some user) name ns w = .ok data w') :
    w'.record = w.record ++
      [.accessReviewed (secretReview user name ns) true, .secretRead name ns data] := by
  unfold resolveSecret at h
  split at h
  · cases h
  · split at h
    · cases h
    · obtain ⟨_, w₁, hauth, hread⟩ := bind_ok_iff.mp h
      rw [api_ok hread, authorizeSecretGet_ok hauth, append_assoc]
      rfl

/-- A bucket request reads the Secret that the parameters of the one bucket refer to. -/
theorem resolveCOSIBucketAuth_ok {bucketId : String} {data : List (String × String)}
    (h : resolveCOSIBucketAuth env (some user) bucketId w = .ok data w') (hdata : data ≠ []) :
    ∃ bucket name ns, secretRefFromParameters bucket.parameters = some (name, ns) ∧
      w'.record = w.record ++ [.bucketsListed bucketId [bucket],
        .accessReviewed (secretReview user name ns) true, .secretRead name ns data] := by
  unfold resolveCOSIBucketAuth at h
  split at h
  · cases h
  · obtain ⟨buckets, w₁, hlist, hrest⟩ := bind_ok_iff.mp h
    obtain ⟨bucket, w₂, hfind, hend⟩ := bind_ok_iff.mp hrest
    obtain ⟨hone, rfl⟩ := orFail_ok hfind
    obtain rfl := findBucket_ok hone
    cases href : secretRefFromParameters bucket.parameters with
    | none =>
      rw [href] at hend
      obtain ⟨rfl, _⟩ := pure_ok_iff.mp hend
      exact absurd rfl hdata
    | some ref =>
      obtain ⟨name, ns⟩ := ref
      rw [href, resolveReference] at hend
      split at hend
      · cases hend
      · refine ⟨bucket, name, ns, href, ?_⟩
        rw [resolveSecret_ok hend, api_ok hlist, append_assoc]
        rfl

/-- How a request came to a Secret: the reference is the request's own, or that of the one
bucket which has the requested id. -/
inductive Refers : Request → List Event → String → String → Prop where
  | secret (name ns : String) : Refers (.resolveSecret name ns) [] name ns
  | bucket {bucketId : String} {b : Bucket} {name ns : String}
      (h : secretRefFromParameters b.parameters = some (name, ns)) :
      Refers (.resolveCOSIBucketAuth bucketId) [.bucketsListed bucketId [b]] name ns

/-- The request's own token was reviewed, its user is a controller ServiceAccount and was allowed
to get the Secret, and the data are what that Secret was then read to have. -/
def Authorized (metadata : Option (List (String × List String))) (req : Request)
    (data : List (String × String)) (record : List Event) : Prop :=
  ∃ token user lookup name ns, bearerToken metadata = .ok token ∧
    IsControllerAccount user.username ∧ Refers req lookup name ns ∧
    record = .tokenReviewed token user true :: lookup ++
      [.accessReviewed (secretReview user name ns) true, .secretRead name ns data]

/-- On the TCP listener, a request that returns data has been authorised to them. -/
theorem secret_data_authorized {env : Env} {bindAddress : String}
    {metadata : Option (List (String × List String))} {req : Request}
    {data : List (String × String)} {w w' : World} (htcp : isUnix bindAddress = false)
    (h : serve env bindAddress metadata req w = .ok data w') (hdata : data ≠ []) :
    ∃ record, w'.record = w.record ++ record ∧ Authorized metadata req data record := by
  rw [serve, htcp] at h
  obtain ⟨user, w₁, hconn, h⟩ := bind_ok_iff.mp h
  obtain ⟨token, htoken, hsa, hrecord⟩ := authorizeConnection_ok hconn
  have haccount := isControllerAccount hsa
  cases req with
  | resolveSecret name ns =>
    refine ⟨_, ?_, token, user, [], name, ns, htoken, haccount, .secret name ns, rfl⟩
    rw [resolveSecret_ok h, hrecord, append_assoc]
  | resolveCOSIBucketAuth bucketId =>
    obtain ⟨b, name, ns, href, hlast⟩ := resolveCOSIBucketAuth_ok h hdata
    refine ⟨_, ?_, token, user, [.bucketsListed bucketId [b]], name, ns, htoken, haccount,
      .bucket href, rfl⟩
    rw [hlast, hrecord, append_assoc]
    rfl

def controllerUser : UserInfo where
  username := "system:serviceaccount:vast:csi-vast-controller-sa"
  uid := "u1"
  groups := []
  extra := []

def oneBucket : Bucket where
  name := "b1"
  parameters := [("vastdata.com/secret-name", "mgmt"), ("vastdata.com/secret-namespace", "team")]

def permissive : Env where
  tokenReview _ _ := .ok (controllerUser, true)
  listBuckets _ _ := .ok [oneBucket]
  accessReview _ _ := .ok true
  getSecret _ _ _ := .ok [("password", "p")]

theorem secret_data_authorized_bucket :
    ∃ w', serve permissive ":9090" (some [("authorization", ["Bearer t"])])
        (.resolveCOSIBucketAuth "b1") ⟨0, []⟩ = .ok [("password", "p")] w' ∧
      ∃ record, w'.record = [] ++ record ∧
        Authorized (some [("authorization", ["Bearer t"])]) (.resolveCOSIBucketAuth "b1")
          [("password", "p")] record := by
  have hrun : ∃ w', serve permissive ":9090" (some [("authorization", ["Bearer t"])])
      (.resolveCOSIBucketAuth "b1") ⟨0, []⟩ = .ok [("password", "p")] w' := ⟨_, by rfl⟩
  obtain ⟨w', hw⟩ := hrun
  exact ⟨w', hw, secret_data_authorized (by decide) hw (by decide)⟩

end VastCsi.Ext.SecretAccess
