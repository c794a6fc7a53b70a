import VastCsi.Vms.TokenRefresh

/-!
# The POSTs that an expired token causes

When a token expires, every request that was sent with it is answered with 403, and each of these
workers calls `refresh_auth_token`. A call that finds a refresh in progress waits for its token;
one that comes after it does not look at the header: it clears the new token and sends another
POST. A run has three phases (`Phase`): before the first claim, while it lasts, and after it.
-/

namespace VastCsi.Vms.TokenRefresh

open Lib List

variable {W : Type} [DecidableEq W] {old : String} {s s' : State W} {as : List (Act W)}
  {a : Act W} {w : W}

def posts (as : List (Act W)) : Nat := as.countP Act.isPost

/-- The token of the header has expired, and nobody has noticed yet. -/
structure Expired (old : String) (s : State W) : Prop where
  fresh : Fresh s
  header : s.authorization = old
  nonempty : old ≠ ""

/-- The token that is obtained is not the old one. -/
def NewToken (old : String) : Act W → Prop
  | .postAnswer _ r => ∃ token, r = .ok token ∧ bearer token ≠ old
  | _ => True

/-- `refresh_auth_token` is not called when there is a new token already. -/
def Prompt (old : String) (s : State W) : Act W → Prop
  | .enter _ => s.authorizing = true ∨ s.authorization = old
  | _ => True

/-- Why the worker of a place is in `refresh_auth_token`, or about to be. -/
def Pc.cause : Pc → Option Cause
  | .enter k | .waiting k | .notified k => some k.cause
  | _ => none

instance : ∀ (s : State W) (a : Act W), Decidable (Prompt old s a)
  | s, .enter _ => inferInstanceAs (Decidable (s.authorizing = true ∨ s.authorization = old))
  | _, .check _ | _, .wake _ | _, .post _ | _, .postAnswer _ _ | _, .setHeader _ | _, .release _
  | _, .resume _ | _, .send _ | _, .answer _ _ => isTrue trivial

/-- A worker clears a new token because of a 403 for the old one. -/
def ClearsNewToken (old : String) (s : State W) (a : Act W) : Prop :=
  (s.pc a.worker).cause = some (.forbidden old) ∧ s.authorization ≠ old ∧
    s.authorization ≠ "" ∧ ∃ s', step false s a = some s' ∧ s'.authorization = ""

omit [DecidableEq W] in
theorem posts_concat (as : List (Act W)) (a : Act W) :
    posts (as ++ [a]) = posts as + if a.isPost then 1 else 0 := by
  rw [posts, countP_append, countP_singleton]
  rfl

omit [DecidableEq W] in
theorem posts_concat_of_not (h : a.isPost = false) : posts (as ++ [a]) = posts as := by
  rw [posts_concat, h]
  rfl

/-- At least `n` POSTs have been sent or are about to be. -/
def Started (n : Nat) (as : List (Act W)) (s : State W) : Prop :=
  n ≤ posts as ∨ n ≤ posts as + 1 ∧ ∃ w k, s.pc w = .claimed k

/-- Only the POST itself takes a worker from its claim. -/
theorem Effect.claimed_kept {v : W} {k : Call} (h : Effect s a s') (ha : a.isPost = false)
    (hv : s.pc v = .claimed k) : s'.pc v = .claimed k := by
  have hne : ∀ {w}, (s.pc w).isPending = true → v ≠ w := by
    intro w hw heq
    rw [← heq, hv] at hw
    cases hw
  have hne' : ∀ {w p}, s.pc w = p → p ≠ .claimed k → v ≠ w := by
    intro w p hw hp heq
    rw [← heq, hv] at hw
    exact hp hw.symm
  cases h with
  | outside hw => rw [goto_pc_of_ne (hne hw), hv]
  | wait hw => rw [goto_pc_of_ne (hne hw), hv]
  | use hpc => rw [goto_pc_of_ne (hne' hpc nofun), hv]
  | claim hw => rw [claim_pc_of_ne (hne hw), hv]
  | post hpc => cases ha
  | grant hpc => rw [goto_pc_of_ne (hne' hpc nofun), hv]
  | fail hpc => rw [goto_pc_of_ne (hne' hpc nofun), hv]
  | write hpc => rw [write_pc_of_ne (hne' hpc nofun), hv]
  | release hpc => rw [release_pc_of_ne (hne' hpc nofun), hv]; rfl
  | abort hpc => rw [release_pc_of_ne (hne' hpc nofun), hv]; rfl

theorem Started.step {n : Nat} (h : Started n as s) (hs : step false s a = some s') :
    Started n (as ++ [a]) s' := by
  cases ha : a.isPost with
  | true =>
    left
    rw [posts_concat, if_pos ha]
    rcases h with h | h
    · omega
    · exact h.1
  | false =>
    rw [Started, posts_concat_of_not ha]
    refine h.imp_right fun ⟨hn, v, k, hv⟩ => ⟨hn, v, k, ?_⟩
    exact (step_effect hs).claimed_kept ha hv

/-- A claim that is made while nobody has claimed is one more POST. -/
theorem Started.claim {n : Nat} (h : Started n as s) (hnone : ∀ v, (s.pc v).isClaimed = false)
    (k : Call) : Started (n + 1) (as ++ [a]) (s.claim w k) := by
  have hn : n ≤ posts as := by
    rcases h with h | ⟨_, v, k, hv⟩
    · exact h
    · have := hnone v
      rw [hv] at this
      cases this
  have hmono : posts as ≤ posts (as ++ [a]) := by
    rw [posts_concat]
    omega
  exact Or.inr ⟨by omega, w, k, claim_pc_self⟩

inductive IdleEffect (s : State W) : Act W → State W → Prop where
  | outside {a : Act W} {w : W} {p : Pc} (hpost : a.isPost = false) (hent : ∀ v, a ≠ .enter v) :
      IdleEffect s a (s.goto w p)
  | use {w : W} {k : Call} : IdleEffect s (.wake w) (s.goto w (.refreshed k s.authorization))
  | claim {a : Act W} {w : W} {k : Call}
      (hact : a = .enter w ∨ a = .wake w ∧ s.authorization = "") : IdleEffect s a (s.claim w k)

/-- Only a worker that has claimed sends a POST, writes the header or releases. -/
theorem Effect.idle {o : Option W} (hs : Effect s a s') (hinv : Inv as s o)
    (ha : s.authorizing = false) : IdleEffect s a s' := by
  cases hs with
  | outside _ _ hpost hent => exact .outside hpost hent
  | wait _ ha' =>
    rw [ha] at ha'
    cases ha'
  | use => exact .use
  | claim _ _ hact => exact .claim hact
  | post hpc => exact (hinv.false_of_claimed ha hpc rfl).elim
  | grant hpc => exact (hinv.false_of_claimed ha hpc rfl).elim
  | fail hpc => exact (hinv.false_of_claimed ha hpc rfl).elim
  | write hpc => exact (hinv.false_of_claimed ha hpc rfl).elim
  | release hpc => exact (hinv.false_of_claimed ha hpc rfl).elim
  | abort hpc => exact (hinv.false_of_claimed ha hpc rfl).elim

/-- Once the header is not the old one, or somebody is refreshing it, there is a POST. -/
def Noticed (old : String) (as : List (Act W)) (s : State W) : Prop :=
  s.authorizing = false ∧ s.authorization = old ∨ Started 1 as s

theorem Noticed.step {o : Option W} (hinv : Inv as s o) (h : Noticed old as s)
    (hs : step false s a = some s') : Noticed old (as ++ [a]) s' := by
  rcases h with ⟨ha, hheader⟩ | h
  · have hnone := hinv.not_claimed ha
    cases (step_effect hs).idle hinv ha with
    | outside => exact Or.inl ⟨ha, hheader⟩
    | use => exact Or.inl ⟨ha, hheader⟩
    | claim => exact Or.inr (Started.claim (Or.inl (Nat.zero_le _)) hnone _)
  · exact Or.inr (h.step hs)

def Pc.isPosted : Pc → Bool
  | .inFlight _ | .granted _ _ | .written _ => true
  | _ => false

theorem Pc.isClaimed_of_isPosted {p : Pc} (h : p.isPosted = true) : p.isClaimed = true := by
  cases p with
  | inFlight k => rfl
  | granted k token => rfl
  | written k => rfl
  | _ => cases h

/-- Before the first claim, while it lasts, and after it. -/
inductive Phase (old : String) (as : List (Act W)) (s : State W) : Prop where
  | before (ha : s.authorizing = false) (hheader : s.authorization = old)
      (hposts : posts as = 0) (hnone : ∀ w, .enter w ∉ as)
  | claimed (w : W) (k : Call) (hw : s.pc w = .claimed k) (hposts : posts as = 0)
  | posted (w : W) (hw : (s.pc w).isPosted = true) (hposts : posts as = 1)
  | after (ha : s.authorizing = false) (hheader : Obtained as s.authorization)
      (hposts : posts as = 1)

theorem Phase.step_claimed {k : Call} (hw : s.pc w = .claimed k) (hposts : posts as = 0)
    (hs : Effect s a s') : Phase old (as ++ [a]) s' := by
  cases ha : a.isPost with
  | false => exact .claimed w k (hs.claimed_kept ha hw) (by rw [posts_concat_of_not ha, hposts])
  | true =>
    cases hs with
    | @post v k' hpc =>
      refine .posted v (by rw [goto_pc_self]; rfl) ?_
      rw [posts_concat, hposts]
      rfl
    | outside _ _ ha' => rw [ha] at ha'; cases ha'
    | wait _ _ ha' => rw [ha] at ha'; cases ha'
    | claim _ _ hact => rcases hact with rfl | ⟨rfl, _⟩ <;> cases ha
    | _ => cases ha

section Phases

variable {o : Option W} (hinv : Inv as s o)

include hinv

theorem Phase.step_before (ha : s.authorizing = false) (hheader : s.authorization = old)
    (hposts : posts as = 0) (hnone : ∀ w, .enter w ∉ as) (hs : Effect s a s') :
    Phase old (as ++ [a]) s' := by
  cases hs.idle hinv ha with
  | outside hpost hent =>
    refine .before ha hheader (by rw [posts_concat_of_not hpost, hposts]) fun v hv => ?_
    rcases mem_append.mp hv with hv | hv
    · exact hnone v hv
    · exact hent v (mem_singleton.mp hv).symm
  | @use w k =>
    refine .before ha hheader (by rw [posts_concat_of_not rfl, hposts]) fun v hv => ?_
    rcases mem_append.mp hv with hv | hv
    · exact hnone v hv
    · cases mem_singleton.mp hv
  | @claim _ w k hact =>
    refine .claimed w k claim_pc_self ?_
    rw [posts_concat_of_not, hposts]
    rcases hact with rfl | ⟨rfl, _⟩ <;> rfl

theorem Phase.step_posted (hnew : NewToken old a) (hw : (s.pc w).isPosted = true)
    (hposts : posts as = 1) (hs : Effect s a s') : Phase old (as ++ [a]) s' := by
  have hc := Pc.isClaimed_of_isPosted hw
  have hflag : s.authorizing = true := by
    rw [hinv.flag, (hinv.claimed w).mp hc]
    rfl
  -- whoever has claimed is `w`
  have heq : ∀ {v p}, s.pc v = p → p.isClaimed = true → v = w := by
    intro v p hpc hp
    rw [← hpc] at hp
    exact hinv.eq_of_claimed hp hc
  have hne : ∀ {v}, (s.pc v).isPending = true → w ≠ v := by
    rintro v hv rfl
    rw [Pc.isClaimed_of_isPending hv] at hc
    cases hc
  cases hs with
  | outside hv _ hpost =>
    exact .posted w (by rw [goto_pc_of_ne (hne hv), hw]) (by rw [posts_concat_of_not hpost, hposts])
  | wait hv _ hpost =>
    exact .posted w (by rw [goto_pc_of_ne (hne hv), hw]) (by rw [posts_concat_of_not hpost, hposts])
  | use _ ha => rw [hflag] at ha; cases ha
  | claim _ ha => rw [hflag] at ha; cases ha
  | post hpc =>
    obtain rfl := heq hpc rfl
    rw [hpc] at hw
    cases hw
  | @grant v k token hpc =>
    exact .posted v (by rw [goto_pc_self]; rfl) (by rw [posts_concat_of_not rfl, hposts])
  | fail hpc =>
    obtain ⟨token, hr, _⟩ := hnew
    cases hr
  | @write v k token hpc =>
    exact .posted v (by rw [write_pc_self]; rfl) (by rw [posts_concat_of_not rfl, hposts])
  | @release v k hpc =>
    refine .after rfl ?_ (by rw [posts_concat_of_not rfl, hposts])
    exact (hinv.mono (subset_append_left as _)).ok_at hpc
  | abort hpc =>
    obtain rfl := heq hpc rfl
    rw [hpc] at hw
    cases hw

theorem Phase.step_after (hprompt : Prompt old s a) (hne : s.authorization ≠ old)
    (hempty : s.authorization ≠ "") (ha : s.authorizing = false)
    (hheader : Obtained as s.authorization) (hposts : posts as = 1) (hs : Effect s a s') :
    Phase old (as ++ [a]) s' := by
  have hheader := hheader.mono (subset_append_left as [a])
  cases hs.idle hinv ha with
  | outside hpost => exact .after ha hheader (by rw [posts_concat_of_not hpost, hposts])
  | use => exact .after ha hheader (by rw [posts_concat_of_not rfl, hposts])
  | claim hact =>
    rcases hact with rfl | ⟨rfl, he⟩
    · rcases hprompt with h | h
      · rw [ha] at h
        cases h
      · exact absurd h hne
    · exact absurd he hempty

end Phases

/-- While there is a new token, no prompt step clears it. -/
theorem Prompt.not_clears (hprompt : Prompt old s a) : ¬ ClearsNewToken old s a := by
  rintro ⟨_, hold, hempty, s', hs, hcleared⟩
  cases step_effect hs with
  | claim hw ha hact =>
    rcases hact with rfl | ⟨rfl, he⟩
    · rcases hprompt with h | h
      · rw [ha] at h
        cases h
      · exact absurd h hold
    · exact absurd he hempty
  | write => exact absurd hcleared (bearer_ne_empty _)
  | _ => exact absurd hcleared hempty

omit [DecidableEq W] in
/-- A header that was obtained is neither empty nor the old one. -/
theorem Obtained.ne {header : String} (h : Obtained as header)
    (hnew : ∀ a ∈ as, NewToken old a) : header ≠ old ∧ header ≠ "" := by
  obtain ⟨w, token, hmem, rfl⟩ := h
  obtain ⟨token', hr, hne⟩ := hnew _ hmem
  cases hr
  exact ⟨hne, bearer_ne_empty token⟩

structure PromptInv (old : String) (as : List (Act W)) (s : State W) : Prop where
  inv : ∃ o, Inv as s o
  new : ∀ a ∈ as, NewToken old a
  phase : Phase old as s

omit [DecidableEq W] in
theorem PromptInv.init (h : Expired old s) : PromptInv old [] s :=
  ⟨⟨none, .init h.fresh⟩, nofun, .before h.fresh.authorizing h.header rfl nofun⟩

/-- A prompt step keeps the phase, or goes on to the next. -/
theorem PromptInv.step (h : PromptInv old as s) (hprompt : Prompt old s a)
    (hnew : NewToken old a) (hs : step false s a = some s') : PromptInv old (as ++ [a]) s' := by
  obtain ⟨o, hinv⟩ := h.inv
  refine ⟨hinv.step hs, fun b hb => ?_, ?_⟩
  · rcases mem_append.mp hb with hb | hb
    · exact h.new b hb
    · rw [mem_singleton.mp hb]
      exact hnew
  have heffect := step_effect hs
  cases h.phase with
  | before ha hheader hposts hnone => exact .step_before hinv ha hheader hposts hnone heffect
  | claimed w k hw hposts => exact .step_claimed hw hposts heffect
  | posted w hw hposts => exact .step_posted hinv hnew hw hposts heffect
  | after ha hheader hposts =>
    obtain ⟨hold, hempty⟩ := hheader.ne h.new
    exact .step_after hinv hprompt hold hempty ha hheader hposts heffect

/-- A run of prompt steps is in one of the phases. -/
theorem promptInv_of_run {s₀ t : State W} (hexp : Expired old s₀)
    (hrun : runFrom (step false) s₀ as = some t) (hnew : ∀ a ∈ as, NewToken old a)
    (hprompt : RunMeets (step false) (Prompt old) s₀ as) : PromptInv old as t := by
  refine runFrom_history (P := fun s a => Prompt old s a ∧ NewToken old a) (I := PromptInv old)
    (fun _ _ _ _ h hp hs => h.step hp.1 hp.2 hs) as (.init hexp) (runMeets_iff.mpr ?_) hrun
  rintro pre a post u rfl hu
  exact ⟨runMeets_iff.mp hprompt pre a post u rfl hu,
    hnew a (mem_append_right _ (mem_cons_self ..))⟩

/-- A call that comes after the refresh sends a second POST. -/
theorem late_call_posts {s₀ t u : State W} {pre post : List (Act W)} (hexp : Expired old s₀)
    (hrun : runFrom (step false) s₀ (pre ++ .enter w :: post) = some t)
    (hover : t.authorizing = false) (hu : runFrom (step false) s₀ pre = some u)
    (hlate : u.authorizing = false ∧ u.authorization ≠ old) :
    2 ≤ posts (pre ++ .enter w :: post) := by
  -- along the run up to the call
  have hnoticed : (∃ o, Inv pre u o) ∧ Noticed old pre u :=
    runFrom_history (P := fun _ _ => True) (I := fun as s => (∃ o, Inv as s o) ∧ Noticed old as s)
      (fun _ _ _ _ h _ hs => ⟨h.1.elim fun _ hi => hi.step hs, h.1.elim fun _ hi =>
        h.2.step hi hs⟩) pre
      ⟨⟨none, .init hexp.fresh⟩, Or.inl ⟨hexp.fresh.authorizing, hexp.header⟩⟩
      (runMeets_of_forall (fun _ _ => trivial) _ _) hu
  obtain ⟨⟨o, hinv⟩, hnoticed⟩ := hnoticed
  have hstarted := hnoticed.resolve_left fun h => hlate.2 h.2
  -- the call itself claims
  obtain ⟨u₁, hu₁, hrun⟩ := runFrom_append_iff.mp hrun
  obtain rfl := Option.some.inj (hu.symm.trans hu₁)
  obtain ⟨u', hu', hrun⟩ := runFrom_cons_iff.mp hrun
  have hsecond : Started 2 (pre ++ [.enter w]) u' := by
    cases step_effect hu' with
    | claim hw ha hact => exact hstarted.claim (hinv.not_claimed ha) _
    | outside _ _ _ hent => exact absurd rfl (hent w)
    | wait _ ha => rw [hlate.1] at ha; cases ha
  -- and so its POST is sent by the end of the run
  have hend : (∃ o, Inv (pre ++ [.enter w] ++ post) t o) ∧
      Started 2 (pre ++ [.enter w] ++ post) t :=
    runFrom_history (P := fun _ _ => True) (I := fun as s => (∃ o, Inv as s o) ∧ Started 2 as s)
      (fun _ _ _ _ h _ hs => ⟨h.1.elim fun _ hi => hi.step hs, h.2.step hs⟩) post
      ⟨hinv.step hu', hsecond⟩ (runMeets_of_forall (fun _ _ => trivial) _ _) hrun
  obtain ⟨⟨o', hinv'⟩, hend⟩ := hend
  rw [append_cons]
  exact hend.resolve_right fun ⟨_, v, k, hv⟩ => hinv'.false_of_claimed hover hv rfl

/-- **The POSTs of an expiry.** When every POST succeeds and the last refresh is over, there
has been exactly one POST, and no new token was cleared for a 403 of the old one, if and
only if nobody has called `refresh_auth_token` once there was a new token. -/
theorem one_post_iff {s₀ t : State W} (hexp : Expired old s₀)
    (hrun : runFrom (step false) s₀ as = some t) (hnew : ∀ a ∈ as, NewToken old a)
    (hcalled : ∃ w, .enter w ∈ as) (hover : t.authorizing = false) :
    posts as = 1 ∧ RunMeets (step false) (fun s a => ¬ ClearsNewToken old s a) s₀ as ↔
      RunMeets (step false) (Prompt old) s₀ as := by
  constructor
  · rintro ⟨hone, -⟩
    refine runMeets_iff.mpr fun pre a post u heq hu => ?_
    cases a with
    | enter w =>
      change u.authorizing = true ∨ u.authorization = old
      by_contra hlate
      rw [not_or, Bool.not_eq_true] at hlate
      rw [heq] at hrun hone
      have htwo := late_call_posts hexp hrun hover hu hlate
      omega
    | _ => trivial
  · intro hprompt
    refine ⟨?_, hprompt.mono fun _ _ h => h.not_clears⟩
    have hinv := promptInv_of_run hexp hrun hnew hprompt
    obtain ⟨o, hi⟩ := hinv.inv
    cases hinv.phase with
    | before _ _ _ hnone =>
      obtain ⟨w, hw⟩ := hcalled
      exact absurd hw (hnone w)
    | claimed w k hw => exact (hi.false_of_claimed hover hw rfl).elim
    | posted w hw hposts => exact hposts
    | after _ _ hposts => exact hposts

def bothReady : State Bool := ⟨false, bearer "old", fun _ => .ready 3⟩

theorem expired_bothReady : Expired (bearer "old") bothReady :=
  ⟨⟨rfl, fun _ => .ready 3⟩, rfl, bearer_ne_empty _⟩

def bothForbidden : List (Act Bool) :=
  [.send true, .send false, .answer true true, .answer false true]

def refreshBy (w : Bool) (token : String) : List (Act Bool) :=
  [.enter w, .post w, .postAnswer w (.ok token), .setHeader w, .release w]

def waitsForToken : List (Act Bool) :=
  bothForbidden ++ [.enter true, .enter false, .post true, .postAnswer true (.ok "new"),
    .setHeader true, .release true, .wake false]

/-- The second worker calls while the first one has its POST in flight, waits, and goes on with
its token. -/
theorem one_post_iff_waiting : ∃ t, runFrom (step false) bothReady waitsForToken = some t ∧
    t.authorizing = false ∧ posts waitsForToken = 1 ∧
    ∃ k, t.pc false = .refreshed k (bearer "new") := by
  have hrun : ∃ t, runFrom (step false) bothReady waitsForToken = some t ∧
      t.authorizing = false ∧ ∃ k, t.pc false = .refreshed k (bearer "new") :=
    ⟨_, rfl, rfl, _, rfl⟩
  obtain ⟨t, ht, hover, hshared⟩ := hrun
  have hnew : ∀ a ∈ waitsForToken, NewToken (bearer "old") a := by
    simp [waitsForToken, bothForbidden, NewToken, bearer]
  exact ⟨t, ht, hover, ((one_post_iff expired_bothReady ht hnew ⟨true, by simp [waitsForToken]⟩
    hover).mpr (by decide)).1, hshared⟩

/-- The second worker calls after the first one has its token: this token is cleared, and there
are two POSTs. -/
theorem late_call_clears : (∃ t, runFrom (step false) bothReady
      (bothForbidden ++ refreshBy true "new" ++ refreshBy false "newer") = some t ∧
        t.authorizing = false) ∧
    posts (bothForbidden ++ refreshBy true "new" ++ refreshBy false "newer") = 2 ∧
    ∃ u, runFrom (step false) bothReady (bothForbidden ++ refreshBy true "new") = some u ∧
      u.authorization = bearer "new" ∧ ClearsNewToken (bearer "old") u (.enter false) :=
  ⟨⟨_, rfl, rfl⟩, rfl, _, rfl, rfl, rfl, by decide, by decide, _, rfl, rfl⟩

end VastCsi.Vms.TokenRefresh
