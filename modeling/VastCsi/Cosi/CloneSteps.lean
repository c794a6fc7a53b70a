import VastCsi.Cosi.CloneBucket

/-!
# The steps of a clone

Everything up to the view is invisible to an assertion that looks at the views and the record of
deletions only (`LooksAt`), and after the view there are only `Abort`s. Where every call is
answered (`Undisturbed`), on a cluster whose entries under the clone's names are of use
(`CloneReady`), the `try` block raises nothing but `Abort`.
-/

namespace VastCsi.Cosi

open Lib Vms Cluster

section Kept

variable {α : Type} {env : Env} {k : Kind} {K : List Kind} {I : World → Prop}

/-- Nothing was deleted between the two, and the version and the tables of
these kinds are the same. -/
structure Agree (K : List Kind) (w w' : World) : Prop where
  log : w'.deleted = w.deleted
  version : w'.vms.swVersion = w.vms.swVersion
  tables : ∀ k ∈ K, w'.vms.table k = w.vms.table k

theorem agree_of_vms {w w' : World} (hd : w'.deleted = w.deleted) (hv : w'.vms = w.vms) :
    Agree K w w' :=
  ⟨hd, by rw [hv], fun _ _ => by rw [hv]⟩

theorem agree_views {w w' : World} (h : Agree [.view, .snapshot, .stream] w w') :
    Agree [.view] w w' :=
  ⟨h.log, h.version, fun k hk => h.tables k (List.mem_cons.mpr (.inl (List.mem_singleton.mp hk)))⟩

/-- An assertion that looks at nothing but the record of deletions, the version
and the tables of these kinds. -/
def LooksAt (K : List Kind) (I : World → Prop) : Prop := ∀ w w', Agree K w w' → I w → I w'

/-- A call whose effect the assertion does not see. -/
theorem keeps_request {x : Call α} (hI : LooksAt K I) (hx : ∀ w, Agree K w (endState (x w))) :
    Keeps I (request env x) := by
  refine meets_request_world (fun w hw => hI w _ (agree_of_vms rfl rfl) hw) (fun _ h => h)
    (fun _ _ h => h) ?_
  exact keeps_of_endState fun w hw => hI w _ (hx w) hw

theorem keeps_read {f : Cluster → α} (hI : LooksAt K I) : Keeps I (request env (readVms f)) :=
  keeps_request hI fun _ => agree_of_vms rfl rfl

theorem keeps_one {q : Query k} (hI : LooksAt K I) : Keeps I (one env k q) := by
  refine .bind (keeps_read hI) fun rs => ?_
  match rs with
  | [] => exact keeps_pure _
  | [_] => exact keeps_pure _
  | _ :: _ :: _ => exact keeps_throw _

theorem keeps_oneOrFail {q : Query k} (hI : LooksAt K I) : Keeps I (oneOrFail env k q) := by
  refine .bind (keeps_one hI) fun r => ?_
  cases r with
  | none => exact keeps_throw _
  | some r => exact keeps_pure r

variable {row : Nat → Row k} {req : CloneReq} {tenantId name path : String} {view : View}

/-- Creating a row of another kind. -/
theorem agree_create {cascade : Cluster → Cluster} (hk : k ∉ K)
    (hc : ∀ v, (cascade v).table = v.table ∧ (cascade v).swVersion = v.swVersion) (w : World) :
    Agree K w (endState (createRow k row cascade w)) where
  log := rfl
  version := (hc _).2
  tables := by
    intro k' hk'
    show (cascade (w.vms.insert k _)).table k' = _
    rw [(hc _).1]
    exact insert_table_ne fun h => hk (h ▸ hk')

theorem keeps_create {cascade : Cluster → Cluster} (hI : LooksAt K I) (hk : k ∉ K)
    (hc : ∀ v, (cascade v).table = v.table ∧ (cascade v).swVersion = v.swVersion) :
    Keeps I (request env (createRow k row cascade)) :=
  keeps_request hI (agree_create hk hc)

/-- Creating a row that nobody asks for afterwards. -/
theorem keeps_create_unit (hI : LooksAt K I) (hk : k ∉ K) :
    Keeps I (do let _ ← request env (createRow k row); pure ()) :=
  .bind (keeps_create hI hk fun _ => ⟨rfl, rfl⟩) fun _ => keeps_pure _

theorem keeps_resolveBucketOwner (hI : LooksAt K I) (hk : Kind.user ∉ K) :
    Keeps I (resolveBucketOwner env req tenantId) := by
  unfold resolveBucketOwner
  split
  next =>
    refine .bind ?_ fun _ => keeps_pure _
    refine .bind (keeps_one hI) fun r => ?_
    cases r with
    | none => exact keeps_create_unit hI hk
    | some r => exact keeps_pure _
  next => exact keeps_request hI fun _ => agree_of_vms rfl rfl
  next => exact keeps_request hI fun _ => agree_of_vms rfl rfl

theorem keeps_ensureSnapshot (hI : LooksAt K I) (hk : Kind.snapshot ∉ K) :
    Keeps I (ensureSnapshot env name path tenantId) := by
  refine .bind (keeps_one hI) fun r => ?_
  cases r with
  | none => exact keeps_create hI hk fun _ => ⟨rfl, rfl⟩
  | some snapshot =>
    dsimp only
    split
    next => exact keeps_pure _
    next => exact keeps_throw _

/-- Waiting changes at most the state of the stream. -/
theorem settleStream_state (timeout id : Nat) (w : World) :
    endState (settleStream env timeout id w) = w ∨
      ∃ state, endState (settleStream env timeout id w) =
        { w with vms := w.vms.setStreamState id state } := by
  unfold settleStream
  split
  next => exact .inl rfl
  next =>
    split
    all_goals first
      | exact .inl rfl
      | (split
         next => exact .inr ⟨_, rfl⟩
         next => exact .inl rfl)

theorem keeps_waitForStream {timeout id : Nat} (hI : LooksAt K I) (hk : Kind.stream ∉ K) :
    Keeps I (waitForStream env timeout id) := by
  refine keeps_request hI fun w => ?_
  rcases settleStream_state timeout id w with h | ⟨state, h⟩
  · rw [h]
    exact agree_of_vms rfl rfl
  · rw [h]
    exact ⟨rfl, rfl, fun k' hk' => set_table_ne _ _ fun he => hk (he ▸ hk')⟩

theorem keeps_findOrClone (hI : LooksAt K I) (hk : Kind.stream ∉ K) :
    Keeps I (findOrClone env name tenantId path) := by
  refine .bind (keeps_one hI) fun r => ?_
  cases r with
  | none => exact keeps_create hI hk fun _ => ⟨rfl, rfl⟩
  | some r => exact keeps_pure r

theorem keeps_ensureStream {timeout : Nat} {wait : Bool} (hI : LooksAt K I) (hk : Kind.stream ∉ K) :
    Keeps I (ensureStream env timeout name tenantId path wait) := by
  refine .bind (keeps_read hI) fun ver => ?_
  split
  next => exact keeps_throw _
  next =>
    refine .bind (keeps_findOrClone hI hk) fun stream => ?_
    cases wait with
    | true => exact keeps_waitForStream hI hk
    | false => exact keeps_pure _

/-- What a check of the view leaves: an `Abort` is all it raises. -/
abbrev OnlyAborts (I : World → Prop) (x : Call α) : Prop :=
  Meets I x (fun _ => I) (fun e w => e.isAbort = true ∧ I w)

theorem onlyAborts_assertThat {b : Bool} {e : Err} (he : e.isAbort = true) :
    OnlyAborts I (assertThat b e) :=
  .assertThat (fun _ _ hw => hw) (fun _ _ hw => ⟨he, hw⟩)

theorem onlyAborts_checkOwner {owner : String} : OnlyAborts I (checkOwner req owner view) := by
  unfold checkOwner
  split
  next => exact onlyAborts_assertThat rfl
  next => exact .ret

theorem onlyAborts_checkPath : OnlyAborts I (checkPath req view) := by
  unfold checkPath
  exact onlyAborts_assertThat rfl

theorem onlyAborts_checks {owner : String} :
    OnlyAborts I (do checkOwner req owner view; checkPath req view; pure view) := by
  refine .bind onlyAborts_checkOwner fun _ => ?_
  refine .bind onlyAborts_checkPath fun _ => ?_
  exact .ret

/-- The `try` block, with what the creation of the view keeps or breaks left
to the caller. -/
theorem meets_cloneBody {digest : String → String} {src : CloneSource} {L : World → Prop}
    {E : Err → World → Prop} (hI : LooksAt [.view] I) (hIL : ∀ w, I w → L w)
    (hIE : ∀ e w, I w → E e w) (hLE : ∀ e w, e.isAbort = true → L w → E e w)
    (hcreate : ∀ row, Meets I (request env (createRow .view row)) (fun _ => L) E) :
    Meets I (cloneBody env digest req src) (fun _ => L) E := by
  have weak : ∀ {β : Type} {x : Call β}, Keeps I x → Meets I x (fun _ => I) E :=
    fun h => h.raise hIE
  refine .bind (weak (keeps_ensureSnapshot hI (by decide))) fun _ => ?_
  refine .bind (weak (keeps_ensureStream hI (by decide))) fun _ => ?_
  refine .bind (Q := fun _ => L) ?_ fun view => ?_
  · refine .bind (weak (keeps_one hI)) fun r => ?_
    cases r with
    | none => exact hcreate _
    | some view => exact .pure hIL
  · exact onlyAborts_checks.raise (fun e w hw => hLE e w hw.1 hw.2)

theorem keeps_checkLimit {quota : Quota} {capacity : Nat} {e : Nat → Err} :
    Keeps I (checkLimit quota capacity e) := by
  unfold checkLimit
  split
  next => exact keeps_assertThat _ _
  next => exact keeps_pure _

theorem keeps_ensureBucketQuota {capacity : Nat} (hI : LooksAt [.view] I) :
    Keeps I (ensureBucketQuota env view capacity) := by
  refine .bind (keeps_one hI) fun r => ?_
  cases r with
  | some quota => exact keeps_checkLimit
  | none =>
    refine .bind (keeps_one hI) fun r => ?_
    cases r with
    | some quota => exact keeps_checkLimit
    | none => exact keeps_create_unit hI (by decide)

theorem keeps_applyBucketPostProvision (hI : LooksAt [.view] I) :
    Keeps I (applyBucketPostProvision env req view) := by
  refine .bind (.forEach fun rule _ => ?_) fun _ => ?_
  · refine .bind (keeps_one hI) fun r => ?_
    cases r with
    | none => exact keeps_create_unit hI (by decide)
    | some r => exact keeps_pure _
  · split
    next => exact keeps_pure _
    next => exact keeps_pure _
    next => exact keeps_ensureBucketQuota hI

theorem keeps_bucketEndpoint (hI : LooksAt K I) : Keeps I (bucketEndpoint env req tenantId) := by
  unfold bucketEndpoint
  split
  next => exact keeps_pure _
  next =>
    refine .bind (keeps_oneOrFail hI) fun pool => ?_
    cases pool.tenantId with
    | none =>
      cases pool.vips with
      | nil => exact keeps_throw _
      | cons vip _ => exact keeps_pure vip
    | some t =>
      dsimp only
      split
      next => exact keeps_throw _
      next =>
        cases pool.vips with
        | nil => exact keeps_throw _
        | cons vip _ => exact keeps_pure vip

end Kept

/-- Every call is answered, and a stream that is waited for completes. -/
structure Undisturbed (env : Env) : Prop where
  answered : ∀ n, env.fate n = .answered
  completes : ∀ n, env.streamCompletes n = true

def settles : StreamState → Bool
  | .completed | .initializing | .syncing | .finalizing | .active => true
  | _ => false

def AtMostOne (k : Kind) (q : Query k) (v : Cluster) : Prop := ((v.table k).select q).length ≤ 1

instance (k : Kind) (q : Query k) (v : Cluster) : Decidable (AtMostOne k q v) :=
  inferInstanceAs (Decidable (_ ≤ 1))

variable {v v' : Cluster}

theorem AtMostOne.congr {k : Kind} {q : Query k} (h : AtMostOne k q v)
    (ht : v'.table k = v.table k) : AtMostOne k q v' := by
  unfold AtMostOne
  rw [ht]
  exact h

/-- The cluster can make the stream and the view of the clone. -/
structure StreamReady (digest : String → String) (req : CloneReq) (v : Cluster) : Prop where
  version : v.swVersion.lt streamsSince = false
  oneStream : AtMostOne .stream (·.name == cosiCloneStreamName digest req.name) v
  stream : req.blockingClones = true → ∀ s ∈ v.table .stream,
    s.name = cosiCloneStreamName digest req.name → settles s.state = true
  oneView : AtMostOne .view (fun r => r.bucket == some req.name) v

/-- It can make the clone of `sourcePath`: also a snapshot under the clone's
name is one of the source. -/
structure CloneReady (digest : String → String) (req : CloneReq) (sourcePath : String)
    (v : Cluster) : Prop extends StreamReady digest req v where
  oneSnapshot : AtMostOne .snapshot (·.name == cosiCloneSnapName digest req.name) v
  snapshot : ∀ s ∈ v.table .snapshot, s.name = cosiCloneSnapName digest req.name →
    Text.strip '/' s.path = Text.strip '/' sourcePath

theorem StreamReady.congr {digest : String → String} {req : CloneReq} (h : StreamReady digest req v)
    (hver : v'.swVersion = v.swVersion) (hs : v'.table .stream = v.table .stream)
    (hv : v'.table .view = v.table .view) :
    StreamReady digest req v' where
  version := by rw [hver]; exact h.version
  oneStream := h.oneStream.congr hs
  stream := by rw [hs]; exact h.stream
  oneView := h.oneView.congr hv

theorem CloneReady.congr {digest : String → String} {req : CloneReq} {sourcePath : String}
    (h : CloneReady digest req sourcePath v) (hver : v'.swVersion = v.swVersion)
    (hsnap : v'.table .snapshot = v.table .snapshot) (hs : v'.table .stream = v.table .stream)
    (hv : v'.table .view = v.table .view) :
    CloneReady digest req sourcePath v' where
  toStreamReady := h.toStreamReady.congr hver hs hv
  oneSnapshot := h.oneSnapshot.congr hsnap
  snapshot := by rw [hsnap]; exact h.snapshot

section Undisturbed

variable {α : Type} {env : Env} {k : Kind} {q : Query k} {digest : String → String}
  {req : CloneReq} {sourcePath : String}

/-- Only `Abort`s, from `J` to `Q`. -/
abbrev Aborts (J : Cluster → Prop) (x : Call α) (Q : α → World → Prop) : Prop :=
  Meets (onVms J) x Q (fun e _ => e.isAbort = true)

/-- A call that is answered does what its effect does. -/
theorem aborts_request {J : Cluster → Prop} {Q : α → World → Prop} {x : Call α}
    (h : Undisturbed env) (hx : Aborts J x Q) : Aborts J (request env x) Q := by
  intro w hw
  have := hx w.tick hw
  unfold request
  rw [h.answered]
  exact this

/-- A lookup that finds at most one entry. -/
theorem aborts_one {J : Cluster → Prop} (h : Undisturbed env) (hone : ∀ v, J v → AtMostOne k q v) :
    Aborts J (one env k q) (fun r w => J w.vms ∧ Found k q w.vms r) := by
  have hlist : Aborts J (list env k q) (fun rs w => J w.vms ∧ rs = (w.vms.table k).select q) :=
    aborts_request h fun _ hw => ⟨hw, rfl⟩
  refine .bind hlist fun rs => ?_
  match rs with
  | [] => exact .pure fun w hw => ⟨hw.1, hw.2.symm⟩
  | [r] => exact .pure fun w hw => ⟨hw.1, hw.2.symm⟩
  | _ :: _ :: _ =>
    refine .throw fun w hw => ?_
    have hle := hone w.vms hw.1
    rw [AtMostOne, ← hw.2] at hle
    simp at hle

variable {tenantId : String}

theorem aborts_ensureSnapshot (h : Undisturbed env) : Aborts (CloneReady digest req sourcePath)
      (ensureSnapshot env (cosiCloneSnapName digest req.name) sourcePath tenantId)
      (fun _ => onVms (StreamReady digest req)) := by
  refine .bind (aborts_one h fun _ hv => hv.oneSnapshot) fun r => ?_
  cases r with
  | none =>
    refine (aborts_request (J := CloneReady digest req sourcePath) h fun w hw => ?_).pre
      (fun _ hw => hw.1)
    exact hw.toStreamReady.congr rfl (insert_table_ne (by decide)) (insert_table_ne (by decide))
  | some snapshot =>
    refine .assuming
      (p := Text.strip '/' snapshot.path = Text.strip '/' sourcePath) ?_ fun hpath => ?_
    · rintro w ⟨hw, hfound⟩
      exact hw.snapshot snapshot hfound.mem.1 (beq_iff_eq.mp hfound.mem.2)
    · dsimp only
      rw [if_pos (beq_iff_eq.mpr hpath)]
      exact .pure fun w hw => hw.1.toStreamReady

/-- The stream is there, and one that is waited for is not stuck. -/
theorem aborts_findOrClone {path : String} (h : Undisturbed env) : Aborts (StreamReady digest req)
      (findOrClone env (cosiCloneStreamName digest req.name) tenantId path)
      (fun stream w => AtMostOne .view (fun r => r.bucket == some req.name) w.vms ∧
        (req.blockingClones = true →
          ∃ r ∈ w.vms.table .stream, r.id = stream.id ∧ settles r.state = true)) := by
  refine .bind (aborts_one h fun _ hv => hv.oneStream) fun r => ?_
  cases r with
  | none =>
    refine (aborts_request (J := StreamReady digest req) h fun w hw => ?_).preLeft
    refine ⟨hw.oneView.congr rfl, fun _ => ?_⟩
    exact ⟨_, mem_insert_self Table.hasKey_fresh, rfl, rfl⟩
  | some stream =>
    refine .pure fun w hw => ⟨hw.1.oneView, fun hblock => ?_⟩
    obtain ⟨hready, hfound⟩ := hw
    have hname := beq_iff_eq.mp hfound.mem.2
    exact ⟨stream, hfound.mem.1, rfl, hready.stream hblock stream hfound.mem.1 hname⟩

/-- A stream that is not stuck completes. -/
theorem settleStream_ok {w : World} {r : Stream} (timeout : Nat) (h : Undisturbed env)
    (hr : r ∈ w.vms.table .stream) (hs : settles r.state = true) :
    ∃ w', settleStream env timeout r.id w = .ok () w' ∧ w'.vms.table .view = w.vms.table .view := by
  have hfind : w.vms.find .stream r.id = some r := by
    cases hf : w.vms.find .stream r.id with
    | none => exact absurd rfl (find_none hf hr)
    | some r' =>
      obtain ⟨hr', hid⟩ := find_some hf
      rw [Table.eq_of_key hr' hr hid]
  unfold settleStream
  rw [hfind]
  have hview : ∀ state, (w.vms.setStreamState r.id state).table .view = w.vms.table .view :=
    fun _ => set_table_ne _ _ (by decide)
  dsimp only
  rw [h.completes, if_pos rfl]
  cases hstate : r.state with
  | completed => exact ⟨_, rfl, rfl⟩
  | initializing => exact ⟨_, rfl, hview _⟩
  | syncing => exact ⟨_, rfl, hview _⟩
  | finalizing => exact ⟨_, rfl, hview _⟩
  | active => exact ⟨_, rfl, hview _⟩
  | _ =>
    rw [hstate] at hs
    cases hs

theorem aborts_ensureStream {timeout : Nat} {path : String} (h : Undisturbed env) :
    Aborts (StreamReady digest req)
      (ensureStream env timeout (cosiCloneStreamName digest req.name) tenantId path
        req.blockingClones)
      (fun _ => onVms (AtMostOne .view fun r => r.bucket == some req.name)) := by
  have hversion : Aborts (StreamReady digest req) (getSwVersion env)
      (fun ver w => StreamReady digest req w.vms ∧ ver.lt streamsSince = false) :=
    aborts_request h fun _ hw => ⟨hw, hw.version⟩
  refine .bind hversion fun ver => ?_
  refine .assuming (p := ver.lt streamsSince = false) (fun _ hw => hw.2) fun hver => ?_
  rw [hver]
  refine .bind ((aborts_findOrClone h).preLeft) fun stream => ?_
  cases hblock : req.blockingClones with
  | false => exact .pure fun _ hw => hw.1
  | true =>
    refine aborts_request (J := fun v => AtMostOne .view (fun r => r.bucket == some req.name) v ∧
      (true = true → ∃ r ∈ v.table .stream, r.id = stream.id ∧ settles r.state = true)) h ?_
    rintro w ⟨hview, hstream⟩
    obtain ⟨r, hr, hid, hstate⟩ := hstream rfl
    obtain ⟨w', hw', hsame⟩ := settleStream_ok timeout h hr hstate
    rw [← hid, hw']
    exact hview.congr hsame

/-- The `try` block of an undisturbed attempt raises nothing but `Abort`. -/
theorem aborts_cloneBody {src : CloneSource} (h : Undisturbed env) :
    Aborts (CloneReady digest req src.view.path) (cloneBody env digest req src)
      (fun _ _ => True) := by
  refine .bind (aborts_ensureSnapshot h) fun _ => ?_
  refine .bind (aborts_ensureStream h) fun _ => ?_
  refine .bind (Q := fun _ _ => True) ?_ fun view => ?_
  · refine .bind (aborts_one h fun _ hv => hv) fun r => ?_
    cases r with
    | none =>
      exact (aborts_request (J := fun _ => True) h fun _ _ => trivial).pre (fun _ _ => trivial)
    | some view => exact .pure fun _ _ => trivial
  · exact onlyAborts_checks.raiseLeft

end Undisturbed

end VastCsi.Cosi
