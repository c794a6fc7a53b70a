import VastCsi.Lib.Proc
import VastCsi.Vms.VmsSession

/-!
# The credentials in the metadata of a published volume

`SerializationMixin` writes a session or a LUKS manager into `.vast-csi-meta`, sealed under a key
of the installation and the volume when there is one. The reader dispatches on the shape of what
it finds, so a payload is any JSON value. The cryptography and the text formats are the fields of
`Primitives`, each with the law that makes it ideal. The reader records every message handed to
`pickle.loads`.
-/

namespace VastCsi.Vms

open Lib List
open EStateM (Result)

/-- A JSON value; the keys of an object are distinct, as those of a `dict`. -/
inductive Json where
  | null
  | bool (value : Bool)
  | number (literal : String)
  | string (value : String)
  | array (items : List Json)
  | object (fields : List (String × Json))

inductive SerdeErr where
  | serializationError (message : String)
  | typeError (message : String)
  | session (cause : SessionErr)

/-- The cryptography and the text formats, ideal: over secrets `σ`, keys `κ`
and messages `β`. A failure carries the text of the exception. -/
structure Primitives (σ κ β : Type) where
  b64encode : β → String
  b64decode : String → Except String β
  dumps : Json → β
  loads : β → Except String Json
  deriveKey : σ → String → κ
  /-- AES-GCM under a nonce, which stands in front of the sealed message. -/
  encryptGcm : κ → β → β → β
  decryptGcm : κ → β → Except String β
  deriveKeyLegacy : String → κ
  decryptLegacyCfb : κ → β → Except String β
  unpickle : β → Except String Json
  textOf : SerdeErr → String
  /-- The class of a value, `type(payload)!r`. -/
  typeName : Json → String
  /-- `repr` of a value or of `None`. -/
  repr : Option Json → String
  b64decode_b64encode : ∀ m, b64decode (b64encode m) = .ok m
  loads_dumps : ∀ j, loads (dumps j) = .ok j
  deriveKey_inj : ∀ {s s' v v'}, deriveKey s v = deriveKey s' v' → s = s' ∧ v = v'
  decryptGcm_encryptGcm : ∀ k nonce m, decryptGcm k (encryptGcm k nonce m) = .ok m
  decryptGcm_other : ∀ {k k'} nonce m, k' ≠ k →
    ∃ text, decryptGcm k' (encryptGcm k nonce m) = .error text

/-- A class that mixes `SerializationMixin` in. -/
structure SerializationMixin (τ : Type) where
  dumpData : τ → List (String × Json)
  loadData : Json → Except SerdeErr τ

def ofText : Option String → Json
  | none => .null
  | some s => .string s

/-- The keyword arguments of a call `f(**fields)` of a function with `params`. -/
def keywordArgs (params : List String) : Json → Except SerdeErr (List (String × Json))
  | .object fields =>
    match fields.find? fun field => !params.contains field.1 with
    | some field => .error (.typeError s!"got an unexpected keyword argument '{field.1}'")
    | none => .ok fields
  | _ => .error (.typeError "argument after ** must be a mapping")

/-- A text argument that defaults to `None`. The constructor takes any value; a session has texts
here, so a payload with a number or a list for one, which `dump` does not write but a reader may
get, is an error of the model and not of the code. -/
def textArg (fields : List (String × Json)) (name : String) : Except SerdeErr (Option String) :=
  match fields.lookup name with
  | none | some .null => .ok none
  | some (.string s) => .ok (some s)
  | some _ => .error (.typeError s!"'{name}' is not a text")

def VmsSession.dumpData (s : VmsSession) : List (String × Json) :=
  [("username", ofText s.username), ("password", ofText s.password), ("token", ofText s.token),
    ("tenant", ofText s.tenant), ("endpoint", ofText s.endpoint),
    ("ssl_cert", ofText s.sslCert), ("cluster_name", ofText s.clusterName)]

def VmsSession.loadData (config : Config) (dataFields : Json) : Except SerdeErr VmsSession := do
  let fields ← keywordArgs ["username", "password", "token", "tenant", "endpoint", "ssl_cert",
    "cluster_name"] dataFields
  let username ← textArg fields "username"
  let password ← textArg fields "password"
  let token ← textArg fields "token"
  let tenant ← textArg fields "tenant"
  let endpoint ← textArg fields "endpoint"
  let sslCert ← textArg fields "ssl_cert"
  let clusterName ← textArg fields "cluster_name"
  (VmsSession.create config
    { username, password, token, tenant, endpoint, sslCert, clusterName }).mapError .session

def sessionMixin (config : Config) : SerializationMixin VmsSession :=
  { dumpData := VmsSession.dumpData, loadData := VmsSession.loadData config }

/-- The fields of a `VmsSession` object: they were resolved by `create`. -/
structure Session (config : Config) where
  fields : VmsSession
  created : ∃ arguments, VmsSession.create config arguments = .ok fields

/-- A `LuksManager`; `encryption_config` is a JSON object or `None`. -/
structure LuksManager where
  volumeId : String
  passphrase : Option String
  encryptionConfig : Json

namespace LuksManager

def dumpData (m : LuksManager) : List (String × Json) :=
  [("volume_id", .string m.volumeId), ("passphrase", ofText m.passphrase),
    ("encryption_config", m.encryptionConfig)]

def loadData (dataFields : Json) : Except SerdeErr LuksManager := do
  let fields ← keywordArgs ["volume_id", "passphrase", "encryption_config"] dataFields
  match ← textArg fields "volume_id" with
  | none => .error (.typeError "missing 1 required positional argument: 'volume_id'")
  | some volumeId =>
    let passphrase ← textArg fields "passphrase"
    .ok { volumeId, passphrase
          encryptionConfig := (fields.lookup "encryption_config").getD .null }

end LuksManager

def luksMixin : SerializationMixin LuksManager :=
  { dumpData := LuksManager.dumpData, loadData := LuksManager.loadData }

section Mixin

variable {σ κ β τ : Type} (C : Primitives σ κ β) (cls : SerializationMixin τ)

def serialize (x : τ) (volumeId : String) (credKey : Option σ) (nonce : β) : Json :=
  match credKey with
  | some credKey =>
    let plaintext := C.dumps (.object (cls.dumpData x))
    let blob := C.b64encode (C.encryptGcm (C.deriveKey credKey volumeId) nonce plaintext)
    .object [("format", .string "encrypted"), ("data", .string blob)]
  | none => .object (("format", .string "plain") :: cls.dumpData x)

/-- The reader; its state is what was handed to `pickle.loads`, latest first. -/
abbrev Reader (β : Type) := EStateM SerdeErr (List β)

def orRaise {α ε : Type} (raised : ε → SerdeErr) : Except ε α → Reader β α
  | .ok a => pure a
  | .error e => throw (raised e)

def pickleLoads (raw : β) : Reader β Json := do
  modify (raw :: ·)
  orRaise (fun text => .serializationError s!"legacy metadata deserialization failed: {text}")
    (C.unpickle raw)

def deserializeLegacy (volumeId encryptedBlob : String) : Reader β τ := do
  let failed (text : String) : SerdeErr :=
    .serializationError s!"legacy metadata deserialization failed: {text}"
  let encryptedBytes ← orRaise failed (C.b64decode encryptedBlob)
  let rawData ← orRaise failed (C.decryptLegacyCfb (C.deriveKeyLegacy volumeId) encryptedBytes)
  let fields ← pickleLoads C rawData
  orRaise (fun e => failed (C.textOf e)) (cls.loadData fields)

def deserializeEncrypted (volumeId : String) (payload : List (String × Json))
    (credKey : Option σ) : Reader β τ :=
  match credKey with
  | none => throw (.serializationError "encrypted metadata requires credSerializationSecret")
  | some credKey => do
    let failed (text : String) : SerdeErr :=
      .serializationError s!"failed to decrypt metadata: {text}"
    match payload.lookup "data" with
    | none => throw (failed "'data'")
    | some (.string data) =>
      let encrypted ← orRaise failed (C.b64decode data)
      let raw ← orRaise failed (C.decryptGcm (C.deriveKey credKey volumeId) encrypted)
      let fields ← orRaise failed (C.loads raw)
      orRaise id (cls.loadData fields)
    | some _ =>
      -- `b64decode` raises a `TypeError`, which is not caught
      throw (.typeError "argument should be a bytes-like object or ASCII string")

def unknownFormat (payload : List (String × Json)) : Reader β τ :=
  let format := C.repr (payload.lookup "format")
  throw (.serializationError s!"unknown serialized metadata format: {format}")

/-- The transitional formats: a sealed payload without a format, then a legacy
text. -/
def deserializeTransitional (volumeId : String) (payload : List (String × Json))
    (credKey : Option σ) : Reader β τ :=
  match payload.lookup "data" with
  | some (.string data) =>
    match credKey with
    | some credKey =>
      tryCatch (deserializeEncrypted C cls volumeId
          [("format", .string "encrypted"), ("data", .string data)] (some credKey))
        fun
          | .serializationError _ => deserializeLegacy C cls volumeId data
          | e => throw e
    | none => deserializeLegacy C cls volumeId data
  | _ => unknownFormat C payload

def deserialize (volumeId : String) (payload : Json) (credKey : Option σ)
    (fallbackToDeser : Bool) : Reader β τ :=
  match payload with
  | .string encryptedBlob =>
    if fallbackToDeser then deserializeLegacy C cls volumeId encryptedBlob
    else throw (.serializationError "legacy serialized metadata rejected (fallbackToDeser=false)")
  | .object fields =>
    match fields.lookup "format" with
    | some (.string "plain") =>
      orRaise id (cls.loadData (.object (fields.filter (·.1 != "format"))))
    | some (.string "encrypted") => deserializeEncrypted C cls volumeId fields credKey
    | _ =>
      if fallbackToDeser then deserializeTransitional C cls volumeId fields credKey
      else unknownFormat C fields
  | payload => throw (.serializationError
      s!"unsupported serialized payload type: {C.typeName payload}")

end Mixin

theorem textArg_cons_self (name : String) (t : Option String) (fields : List (String × Json)) :
    textArg ((name, ofText t) :: fields) name = .ok t := by
  unfold textArg
  rw [lookup_cons_self]
  cases t <;> rfl

theorem textArg_cons_of_ne {name other : String} (h : (name == other) = false) (j : Json)
    (fields : List (String × Json)) :
    textArg ((other, j) :: fields) name = textArg fields name := by
  simp only [textArg, lookup_cons, h]

theorem VmsSession.loadData_dumpData (config : Config) (s : VmsSession) :
    VmsSession.loadData config (.object s.dumpData) =
      (VmsSession.create config s).mapError .session := by
  have hargs : keywordArgs ["username", "password", "token", "tenant", "endpoint", "ssl_cert",
      "cluster_name"] (.object s.dumpData) = .ok s.dumpData := rfl
  unfold VmsSession.loadData
  rw [hargs]
  simp [bind, Except.bind, VmsSession.dumpData, textArg_cons_self, textArg_cons_of_ne]

theorem LuksManager.loadData_dumpData (m : LuksManager) :
    LuksManager.loadData (.object m.dumpData) = .ok m := by
  obtain ⟨volumeId, passphrase, encryptionConfig⟩ := m
  cases passphrase <;> rfl

section

variable {σ κ β τ : Type} (C : Primitives σ κ β) (cls : SerializationMixin τ)

theorem orRaise_ok {α ε : Type} (raised : ε → SerdeErr) (a : α) :
    orRaise raised (.ok a) = (pure a : Reader β α) := rfl

/-- What opening a sealed payload comes to, whatever the fallback. -/
theorem deserialize_sealed (volumeId : String) (data : β) (credKey : Option σ)
    (fallbackToDeser : Bool) :
    deserialize C cls volumeId
      (.object [("format", .string "encrypted"), ("data", .string (C.b64encode data))]) credKey
      fallbackToDeser =
      (match credKey with
      | none => throw (.serializationError "encrypted metadata requires credSerializationSecret")
      | some credKey => do
        let failed (text : String) : SerdeErr :=
          .serializationError s!"failed to decrypt metadata: {text}"
        let raw ← orRaise failed (C.decryptGcm (C.deriveKey credKey volumeId) data)
        let fields ← orRaise failed (C.loads raw)
        orRaise id (cls.loadData fields)) := by
  unfold deserialize
  simp only [lookup_cons, String.reduceBEq]
  cases credKey with
  | none => rfl
  | some credKey =>
    simp only [deserializeEncrypted, lookup_cons, String.reduceBEq, C.b64decode_b64encode]
    rfl

/-- Reading what was written loads what was dumped. -/
theorem deserialize_serialize {x : τ} (hformat : ∀ field ∈ cls.dumpData x, field.1 ≠ "format")
    (volumeId : String) (credKey : Option σ) (nonce : β) (fallbackToDeser : Bool) :
    deserialize C cls volumeId (serialize C cls x volumeId credKey nonce) credKey
      fallbackToDeser = orRaise id (cls.loadData (.object (cls.dumpData x))) := by
  cases credKey with
  | some credKey =>
    unfold serialize
    simp only [deserialize_sealed, C.decryptGcm_encryptGcm, orRaise_ok, pure_bind, C.loads_dumps]
  | none =>
    have hfields : (("format", Json.string "plain") :: cls.dumpData x).filter
        (·.1 != "format") = cls.dumpData x := by
      rw [filter_cons_of_neg (by simp), filter_eq_self]
      exact fun field hf => bne_iff_ne.mpr (hformat field hf)
    show orRaise id (cls.loadData (.object (List.filter _ _))) = _
    rw [hfields]

/-- A sealed payload does not open under another key. -/
theorem deserialize_other (x : τ) {volumeId volumeId' : String} {credKey : σ}
    {credKey' : Option σ} (h : (credKey', volumeId') ≠ (some credKey, volumeId)) (nonce : β)
    (fallbackToDeser : Bool) (log : List β) :
    ∃ message, deserialize C cls volumeId' (serialize C cls x volumeId (some credKey) nonce)
      credKey' fallbackToDeser log = .error (.serializationError message) log := by
  cases credKey' with
  | none =>
    refine ⟨"encrypted metadata requires credSerializationSecret", ?_⟩
    unfold serialize
    rw [deserialize_sealed]
    rfl
  | some credKey' =>
    have hkey : C.deriveKey credKey' volumeId' ≠ C.deriveKey credKey volumeId := by
      intro heq
      obtain ⟨rfl, rfl⟩ := C.deriveKey_inj heq
      exact h rfl
    obtain ⟨text, htext⟩ := C.decryptGcm_other nonce (C.dumps (.object (cls.dumpData x))) hkey
    refine ⟨s!"failed to decrypt metadata: {text}", ?_⟩
    unfold serialize
    simp only [deserialize_sealed, htext]
    rfl

variable {log : List β}

/-- A step outside `pickle.loads` leaves the log as it is. -/
theorem meets_orRaise {α ε : Type} {raised : ε → SerdeErr} (r : Except ε α) :
    Keeps (· = log) (orRaise raised r) := by
  cases r with
  | ok a => exact .ret
  | error e => exact .err

theorem meets_deserializeEncrypted (volumeId : String) (payload : List (String × Json))
    (credKey : Option σ) :
    Keeps (· = log) (deserializeEncrypted C cls volumeId payload credKey) := by
  unfold deserializeEncrypted
  split
  next => exact .err
  next =>
    split
    next => exact .err
    next =>
      exact (meets_orRaise _).bind fun _ => (meets_orRaise _).bind fun _ =>
        (meets_orRaise _).bind fun _ => meets_orRaise _
    next => exact .err

/-- Without the fallback no payload reaches the unpickler. -/
theorem meets_deserialize_strict (volumeId : String) (payload : Json) (credKey : Option σ) :
    Keeps (· = log) (deserialize C cls volumeId payload credKey false) := by
  unfold deserialize
  split
  next => exact .err
  next =>
    split
    next => exact meets_orRaise _
    next => exact meets_deserializeEncrypted C cls _ _ _
    next => exact .err
  next => exact .err

end

/-- **The metadata of a published volume**: a session and a LUKS manager come
back as they were written, a payload sealed for another volume or under another
key is rejected, and without the fallback nothing reaches `pickle.loads`. -/
theorem serialization_sound {σ κ β : Type} (C : Primitives σ κ β) (config : Config) :
    (∀ (s : Session config) volumeId credKey nonce fallbackToDeser log,
      deserialize C (sessionMixin config) volumeId
        (serialize C (sessionMixin config) s.fields volumeId credKey nonce) credKey
        fallbackToDeser log = .ok s.fields log) ∧
    (∀ (m : LuksManager) volumeId credKey nonce fallbackToDeser log,
      deserialize C luksMixin volumeId (serialize C luksMixin m volumeId credKey nonce) credKey
        fallbackToDeser log = .ok m log) ∧
    (∀ (τ : Type) (cls : SerializationMixin τ) x volumeId credKey nonce volumeId' credKey'
        fallbackToDeser log, (credKey', volumeId') ≠ (some credKey, volumeId) →
      ∃ message, deserialize C cls volumeId'
        (serialize C cls x volumeId (some credKey) nonce) credKey' fallbackToDeser log =
          .error (.serializationError message) log) ∧
    ∀ (τ : Type) (cls : SerializationMixin τ) volumeId payload credKey log,
      endState (deserialize C cls volumeId payload credKey false log) = log := by
  refine ⟨?_, ?_, ?_, ?_⟩
  · intro s volumeId credKey nonce fallbackToDeser log
    obtain ⟨arguments, hcreated⟩ := s.created
    have hload : (sessionMixin config).loadData (.object ((sessionMixin config).dumpData
        s.fields)) = .ok s.fields := by
      show VmsSession.loadData config (.object s.fields.dumpData) = _
      rw [VmsSession.loadData_dumpData, VmsSession.create_create hcreated]
      rfl
    rw [deserialize_serialize C (sessionMixin config)
      (by simp [sessionMixin, VmsSession.dumpData]), hload]
    rfl
  · intro m volumeId credKey nonce fallbackToDeser log
    have hload : luksMixin.loadData (.object (luksMixin.dumpData m)) = .ok m :=
      LuksManager.loadData_dumpData m
    rw [deserialize_serialize C luksMixin (by simp [luksMixin, LuksManager.dumpData]), hload]
    rfl
  · intro τ cls x volumeId credKey nonce volumeId' credKey' fallbackToDeser log hother
    exact deserialize_other C cls x hother nonce fallbackToDeser log
  · intro τ cls volumeId payload credKey log
    exact (meets_deserialize_strict C cls volumeId payload credKey).endState rfl

/-! ## The laws are consistent

A text format and a sealing for which every law holds: the text of a value
determines the value, and the key stands in front of the sealed message. -/

namespace Plain

/-- A text, each character escaped, up to the closing quote. -/
def quoted : List Char → List Char
  | [] => ['"']
  | c :: cs => '\\' :: c :: quoted cs

theorem quoted_append_inj : ∀ {s t r r' : List Char},
    quoted s ++ r = quoted t ++ r' → s = t ∧ r = r'
  | [], [], _, _, h => ⟨rfl, List.cons.inj h |>.2⟩
  | [], _ :: _, _, _, h => absurd (List.cons.inj h).1 (by decide)
  | _ :: _, [], _, _, h => absurd (List.cons.inj h).1 (by decide)
  | c :: cs, d :: ds, r, r', h => by
    obtain ⟨rfl, htail⟩ := List.cons.inj (List.cons.inj h).2
    obtain ⟨rfl, rfl⟩ := quoted_append_inj htail
    exact ⟨rfl, rfl⟩

mutual

/-- The text of a value: a letter for its class, then its parts. -/
def render : Json → List Char
  | .null => ['n']
  | .bool true => ['t']
  | .bool false => ['f']
  | .number literal => 'd' :: quoted literal.toList
  | .string value => 's' :: quoted value.toList
  | .array items => 'a' :: renderItems items
  | .object fields => 'o' :: renderFields fields

def renderItems : List Json → List Char
  | [] => ['.']
  | j :: js => ',' :: (render j ++ renderItems js)

def renderFields : List (String × Json) → List Char
  | [] => ['.']
  | (key, j) :: fields => ',' :: (quoted key.toList ++ (render j ++ renderFields fields))

end

mutual

theorem render_append_inj : ∀ (j : Json) {k : Json} {r r' : List Char},
    render j ++ r = render k ++ r' → j = k ∧ r = r'
  | .null, k, r, r', h => by
    cases k with
    | bool b => cases b <;> simp [render] at h
    | _ => simp_all [render]
  | .bool b, k, r, r', h => by
    cases k with
    | bool b' => cases b <;> cases b' <;> simp_all [render]
    | _ => cases b <;> simp [render] at h
  | .number s, k, r, r', h => by
    cases k with
    | number t =>
      obtain ⟨hst, rfl⟩ := quoted_append_inj (List.cons.inj h).2
      exact ⟨congrArg Json.number (String.toList_injective hst), rfl⟩
    | bool b => cases b <;> simp [render] at h
    | _ => simp [render] at h
  | .string s, k, r, r', h => by
    cases k with
    | string t =>
      obtain ⟨hst, rfl⟩ := quoted_append_inj (List.cons.inj h).2
      exact ⟨congrArg Json.string (String.toList_injective hst), rfl⟩
    | bool b => cases b <;> simp [render] at h
    | _ => simp [render] at h
  | .array items, k, r, r', h => by
    cases k with
    | array items' =>
      obtain ⟨rfl, rfl⟩ := renderItems_append_inj items (List.cons.inj h).2
      exact ⟨rfl, rfl⟩
    | bool b => cases b <;> simp [render] at h
    | _ => simp [render] at h
  | .object fields, k, r, r', h => by
    cases k with
    | object fields' =>
      obtain ⟨rfl, rfl⟩ := renderFields_append_inj fields (List.cons.inj h).2
      exact ⟨rfl, rfl⟩
    | bool b => cases b <;> simp [render] at h
    | _ => simp [render] at h

theorem renderItems_append_inj : ∀ (items : List Json) {items' : List Json}
    {r r' : List Char}, renderItems items ++ r = renderItems items' ++ r' → items = items' ∧ r = r'
  | [], items', r, r', h => by
    cases items' with
    | nil => exact ⟨rfl, (List.cons.inj h).2⟩
    | cons j js => exact absurd (List.cons.inj h).1 (by decide)
  | j :: js, items', r, r', h => by
    cases items' with
    | nil => exact absurd (List.cons.inj h).1 (by decide)
    | cons k ks =>
      simp only [renderItems, List.cons_append, List.append_assoc, List.cons.injEq, true_and] at h
      obtain ⟨rfl, htail⟩ := render_append_inj j h
      obtain ⟨rfl, rfl⟩ := renderItems_append_inj js htail
      exact ⟨rfl, rfl⟩

theorem renderFields_append_inj : ∀ (fields : List (String × Json))
    {fields' : List (String × Json)} {r r' : List Char},
    renderFields fields ++ r = renderFields fields' ++ r' → fields = fields' ∧ r = r'
  | [], fields', r, r', h => by
    cases fields' with
    | nil => exact ⟨rfl, (List.cons.inj h).2⟩
    | cons field rest => exact absurd (List.cons.inj h).1 (by decide)
  | (key, j) :: rest, fields', r, r', h => by
    cases fields' with
    | nil => exact absurd (List.cons.inj h).1 (by decide)
    | cons field rest' =>
      obtain ⟨key', j'⟩ := field
      simp only [renderFields, List.cons_append, List.append_assoc, List.cons.injEq, true_and] at h
      obtain ⟨hkey, hvalue⟩ := quoted_append_inj h
      obtain ⟨rfl, htail⟩ := render_append_inj j hvalue
      obtain ⟨rfl, rfl⟩ := renderFields_append_inj rest htail
      obtain rfl := String.toList_injective hkey
      exact ⟨rfl, rfl⟩

end

theorem render_injective : Function.Injective render := by
  intro j k h
  have happend : render j ++ [] = render k ++ [] := by rw [h]
  exact (render_append_inj j happend).1

def keyText (k : String × String) : List Char := quoted k.1.toList ++ quoted k.2.toList

theorem eq_of_keyText_append {k k' : String × String} {r r' : List Char}
    (h : keyText k ++ r = keyText k' ++ r') : k = k' := by
  simp only [keyText, List.append_assoc] at h
  obtain ⟨hsecret, htail⟩ := quoted_append_inj h
  obtain ⟨hvolume, -⟩ := quoted_append_inj htail
  exact Prod.ext (String.toList_injective hsecret) (String.toList_injective hvolume)

open Classical in
/-- Nothing is unpickled here. -/
noncomputable def primitives : Primitives String (String × String) (List Char) where
  b64encode m := String.ofList m
  b64decode s := .ok s.toList
  dumps := render
  loads m := if h : ∃ j, render j = m then .ok h.choose else .error "Expecting value"
  deriveKey secret volumeId := (secret, volumeId)
  encryptGcm k _ m := keyText k ++ m
  decryptGcm k c := if (keyText k).isPrefixOf c then .ok (c.drop (keyText k).length) else .error ""
  deriveKeyLegacy volumeId := ("", volumeId)
  decryptLegacyCfb _ c := .ok c
  unpickle _ := .error "invalid load key"
  textOf _ := ""
  typeName _ := ""
  repr _ := ""
  b64decode_b64encode m := by rw [String.toList_ofList]
  loads_dumps j := by
    have hj : ∃ k, render k = render j := ⟨j, rfl⟩
    rw [dif_pos hj, render_injective hj.choose_spec]
  deriveKey_inj h := Prod.mk.inj h
  decryptGcm_encryptGcm k _ m := by
    rw [if_pos (List.isPrefixOf_iff_prefix.mpr (prefix_append _ _)), drop_left]
  decryptGcm_other {k k'} _ m hne := by
    refine ⟨"", if_neg fun hprefix => hne ?_⟩
    obtain ⟨r, hr⟩ := isPrefixOf_iff_prefix.mp hprefix
    exact eq_of_keyText_append hr

end Plain

/-- A session of the volume `pvc-1` is read back under its key and not for `pvc-2`. -/
theorem serialization_sound_plain :
    let config : Config := {}
    let fields : VmsSession :=
      { username := none, password := none, token := some "t", tenant := none
        endpoint := some "vms", sslCert := none, clusterName := none }
    let payload := serialize Plain.primitives (sessionMixin config) fields "pvc-1" (some "key") []
    deserialize Plain.primitives (sessionMixin config) "pvc-1" payload (some "key") false [] =
        .ok fields [] ∧
      ∃ message, deserialize Plain.primitives (sessionMixin config) "pvc-2" payload
        (some "key") true [] = .error (.serializationError message) [] := by
  intro config fields payload
  obtain ⟨hsession, -, hother, -⟩ := serialization_sound Plain.primitives config
  refine ⟨hsession ⟨fields, fields, rfl⟩ "pvc-1" (some "key") [] false [], ?_⟩
  exact hother VmsSession (sessionMixin config) fields "pvc-1" "key" [] "pvc-2" (some "key") true
    [] (by decide)

end VastCsi.Vms
