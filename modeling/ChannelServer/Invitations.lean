/-
Invitations between friends.

A session that has applied for a match with a friend is in the status `MATCH_APPLY`, and the
session that received the invitation is in the status `MATCH_RECVER`; who applied to whom is not
stored.  An answer names the applicant, and the code checks the two statuses only.

The log records the invitations.  Over a run, a session in one of the two statuses has been in it
since the latest invitation on its side (`Side.held_since`), so that an answer meets the invitation
it is meant for exactly when that one is the latest of those that the applicant sent or the
receiver received: `answer_agrees_iff`.
-/
import ChannelServer.ViewStep

namespace ChannelServer

open Resumption WaitingRoom

/-! ### The invitations of a log -/

/-- The invitations that a log records, the latest first: who applied, and to whom. -/
def invitations (log : List Mark) : List (SessionId × SessionId) :=
  log.filterMap fun
    | .applied n m => some (n, m)
    | _ => none

lemma invitations_append (new old : List Mark) :
    invitations (new ++ old) = invitations new ++ invitations old := List.filterMap_append

lemma invitations_accepts {new : List Mark} (h : ∀ m ∈ new, ∃ n b, m = .asyncAccept n b) :
    invitations new = [] := by
  refine List.filterMap_eq_nil_iff.2 fun m hm => ?_
  obtain ⟨n, b, rfl⟩ := h m hm
  rfl

@[simp] lemma invitations_applied (n m : SessionId) (log : List Mark) :
    invitations (.applied n m :: log) = (n, m) :: invitations log := rfl

lemma mem_invitations {n m : SessionId} {log : List Mark} :
    (n, m) ∈ invitations log ↔ .applied n m ∈ log := by
  induction log with
  | nil => simp [invitations]
  | cons x log ih =>
    rw [← List.singleton_append, invitations_append, List.mem_append, ih]
    cases x <;> simp [invitations]

/-- The two sides of an invitation. -/
inductive Side
  | applicant
  | receiver
deriving DecidableEq, Repr

namespace Side

/-- The status of a session that waits for an answer, or is asked for one. -/
def status : Side → Status
  | applicant => .matchApply
  | receiver => .matchRecver

/-- The session on one side of an invitation. -/
def of : Side → SessionId × SessionId → SessionId
  | applicant => Prod.fst
  | receiver => Prod.snd

end Side

/-- The statuses of the two sides. -/
def Status.pending : Status → Bool
  | .matchApply => true
  | .matchRecver => true
  | _ => false

lemma Side.pending_status (side : Side) : side.status.pending = true := by cases side <;> rfl

/-! ### What a step does to the invitations -/

namespace View

variable {u v w : View} {n m : SessionId}

/-- The step records no invitation: who is pending now was so before. -/
structure Uninvited (v w : View) : Prop where
  stat : ∀ k, (w.stat k).pending = true → v.stat k = w.stat k
  log : ∃ new, w.log = new ++ v.log ∧ invitations new = []

/-- The step is an invitation. -/
structure Invites (v w : View) (n m : SessionId) : Prop where
  ne : m ≠ n
  applicant : v.stat n = .login
  receiver : v.stat m = .login
  stat : w.stat = Function.update (Function.update v.stat n .matchApply) m .matchRecver
  log : w.log = .applied n m :: v.log

lemma Uninvited.refl (v : View) : v.Uninvited v := ⟨fun _ _ => rfl, [], rfl, rfl⟩

lemma Uninvited.trans (h₁ : u.Uninvited v) (h₂ : v.Uninvited w) : u.Uninvited w := by
  obtain ⟨new₁, hlog₁, hnew₁⟩ := h₁.log
  obtain ⟨new₂, hlog₂, hnew₂⟩ := h₂.log
  refine ⟨fun k hk => ?_, new₂ ++ new₁, ?_, ?_⟩
  · have hv := h₂.stat k hk
    exact (h₁.stat k (by rwa [hv])).trans hv
  · rw [hlog₂, hlog₁, List.append_assoc]
  · rw [invitations_append, hnew₁, hnew₂, List.append_nil]

/-- A change that leaves the statuses alone. -/
lemma Uninvited.of_stat (hstat : w.stat = v.stat) (new : List Mark) (hlog : w.log = new ++ v.log)
    (hnew : invitations new = []) : v.Uninvited w :=
  ⟨fun k _ => by rw [hstat], new, hlog, hnew⟩

lemma Uninvited.setStat (v : View) (n : SessionId) (st : Status) (hst : st.pending = false) :
    v.Uninvited (v.setStat n st) := by
  refine ⟨fun k hk => ?_, [], rfl, rfl⟩
  rw [setStat_stat] at hk ⊢
  split
  · rename_i hkn
    rw [if_pos hkn, hst] at hk
    cases hk
  · rfl

lemma Uninvited.waitAccept (v : View) : v.Uninvited v.waitAccept := by
  obtain ⟨flag, queue, accepts, new, hnew, h⟩ := v.waitAccept_eq
  rw [h]
  exact .of_stat rfl new rfl (invitations_accepts hnew)

lemma Uninvited.close (v : View) (n : SessionId) : v.Uninvited (v.close n) := by
  rcases v.close_cases n with ⟨-, h⟩ | ⟨-, redis, userIdMap, h⟩ <;> rw [h]
  · exact .refl v
  · have hreleased : v.Uninvited
        (View.release { v with redis := redis, userIdMap := userIdMap } n) :=
      (Uninvited.setStat v n .wait rfl).trans (.of_stat rfl [] rfl rfl)
    exact finishClose_of_release (fun w hw => hw.trans (.waitAccept w)) hreleased

lemma Uninvited.accept (v : View) (n : SessionId) : v.Uninvited (v.accept n) := by
  have hstat : v.Uninvited { v with
      log := .accepted n :: v.log
      reads := v.reads ++ [⟨n, v.isOpen n⟩]
      stat := Function.update v.stat n .conn
      connections := v.connections + 1
      active := v.active ++ [n] } :=
    (Uninvited.setStat v n .conn rfl).trans (.of_stat rfl [_] rfl rfl)
  exact hstat.trans (.waitAccept _)

lemma Uninvited.matched (v : View) (key : Str) (a b : SessionId) :
    v.Uninvited (v.matched key a b) :=
  ((Uninvited.setStat v a .matchComplete rfl).trans (.setStat _ b .matchComplete rfl)).trans
    (.of_stat rfl [_] rfl rfl)

lemma Served.uninvited {r : QueId} {c : Bool} (h : v.Served r w c) : v.Uninvited w := by
  cases h with
  | nobody _ => exact .of_stat rfl [] rfl rfl
  | @pair a b uuid _ _ =>
    have hpaired : v.Uninvited ((v.setQue r (serve v.waiting (v.matchingQue r)).2).note
        (v.pairMark r a b)) := .of_stat rfl [_] rfl rfl
    exact hpaired.trans (.matched _ _ a b)

end View

/-- The only packet that records an invitation is an APPLY between two logged in sessions. -/
lemma PacketStep.invited {v w : View} {n : SessionId} {p : Packet} (h : PacketStep v n p w) :
    v.Uninvited w ∨ ∃ m, v.Invites w n m := by
  cases h with
  | config _ | other _ | notJoined _ | notLoggedOut _ | notConfirmed _ => exact Or.inl (.refl v)
  | friends h => cases h <;> exact Or.inl (.of_stat rfl [] rfl rfl)
  | refused _ _ => exact Or.inl (.setStat v n _ rfl)
  | burnt _ _ _ => exact Or.inl (.of_stat rfl [] rfl rfl)
  | joined _ _ _ =>
    exact Or.inl ((View.Uninvited.setStat v n .login rfl).trans (.of_stat rfl [_] rfl rfl))
  | loggedOut _ =>
    exact Or.inl ((View.Uninvited.setStat v n .logout rfl).trans (.of_stat rfl [_] rfl rfl))
  | confirmed _ =>
    exact Or.inl ((View.Uninvited.setStat v n .matchConfirm rfl).trans (.close _ n))
  | relayed h =>
    cases h with
    | refused => exact Or.inl (.refl v)
    | self _ => exact Or.inl (.setStat v n _ rfl)
    | @accept m uuid _ _ _ _ _ _ => exact Or.inl (.matched v _ n m)
    | @apply m _ _ hne hn hm => exact Or.inr ⟨m, hne, hn, hm, rfl, rfl⟩
    | @deny m _ _ _ _ _ =>
      exact Or.inl ((View.Uninvited.setStat v n .login rfl).trans (.setStat _ m _ rfl))
  | @ranked u b h =>
    have henter : v.Uninvited (v.enter n (checkRating (v.rating n)).que) :=
      (View.Uninvited.setStat v n .matchRequest rfl).trans (.of_stat rfl [_] rfl rfl)
    have harm : u.Uninvited (u.armUnless n b) := by
      rcases u.armUnless_cases n b with h | h <;> rw [h]
      · exact .of_stat rfl [] rfl rfl
      · exact .refl u
    exact Or.inl ((henter.trans h.uninvited).trans harm)

/-- **Invitations**, one step: a step records no invitation, or it is one. -/
theorem ViewStep.invited {v w : View} {e : Event} (h : ViewStep v e w) :
    v.Uninvited w ∨ ∃ n m, v.Invites w n m := by
  cases h with
  | startAccept _ _ =>
    have hstart : v.Uninvited { v with starting := v.starting - 1 } := .of_stat rfl [] rfl rfl
    exact Or.inl (hstart.trans (.waitAccept _))
  | @accepted n _ _ =>
    have hopen : v.Uninvited (View.setOpen { v with accepts := v.accepts.erase n } n true) :=
      .of_stat rfl [] rfl rfl
    exact Or.inl (hopen.trans (.accept _ n))
  | acceptFailed _ _ | receive _ _ | receiveEnd _ | readFailed _ _ | timerIdle _ _ | world =>
    exact Or.inl (.of_stat rfl [] rfl rfl)
  | writeDone _ => exact Or.inl (.refl v)
  | @packet n p rest answers _ _ hp =>
    rcases hp.invited with h | ⟨m, h⟩
    · have hnext : v.Uninvited { v with current := some (n, rest) } := .of_stat rfl [] rfl rfl
      exact Or.inl (hnext.trans h)
    · exact Or.inr ⟨n, m, h.ne, h.applicant, h.receiver, h.stat, h.log⟩
  | @disconnected n error _ _ _ =>
    have hread : v.Uninvited { v with reads := v.reads.erase ⟨n, true⟩ } := .of_stat rfl [] rfl rfl
    exact Or.inl (hread.trans (.close _ n))
  | @timerWiden n i answers w c _ _ hserved =>
    have hwiden : v.Uninvited (View.widen { v with
        waits := Function.update v.waits n ((v.waits n).eraseIdx i) } n) :=
      .of_stat rfl [_] rfl rfl
    exact Or.inl (hwiden.trans hserved.uninvited)

/-! ### Since when a session is pending -/

/-- The session has been in the status in all states of the run whose log goes on from `since`. -/
def HeldSince (since : List Mark) (k : SessionId) (st : Status) (states : List Server) : Prop :=
  ∀ t ∈ states, since <:+ t.log → (t.sess k).stat = st

/-- A run of the server with the states it went through. -/
abbrev Trace : List Server → Server → Prop := Runs.Trace Initial Step

/-- A new entry of a log is one of the entries in front, or it was in the log before. -/
lemma suffix_of_append {m : Mark} {old new log : List Mark} (h : m :: old <:+ new ++ log) :
    m :: old <:+ log ∨ ∃ x y, new = x ++ m :: y ∧ old = y ++ log := by
  obtain ⟨front, h⟩ := h
  rcases List.append_eq_append_iff.1 h with ⟨rest, rfl, hrest⟩ | ⟨rest, rfl, hrest⟩
  · cases rest with
    | nil => exact Or.inl ⟨[], by simpa using hrest⟩
    | cons m' y =>
      obtain ⟨rfl, rfl⟩ := List.cons.inj hrest
      exact Or.inr ⟨front, y, rfl, rfl⟩
  · exact Or.inl ⟨rest, hrest.symm⟩

section Traces

variable {past : List Server} {s s' : Server}

/-- At the start nobody is pending, and there are no invitations. -/
lemma Initial.uninvited (h : Initial s) :
    (∀ k, (s.sess k).stat.pending = false) ∧ invitations s.log = [] := by
  obtain ⟨b, hv⟩ := h.view_eq
  have hinit : (Boot.init b).view.Uninvited s.view := by
    rw [hv]
    exact .waitAccept _
  refine ⟨fun k => ?_, ?_⟩
  · by_contra hk
    have hpending : (s.sess k).stat.pending = true := by simpa using hk
    have hstat : Status.wait = (s.sess k).stat := hinit.stat k hpending
    rw [← hstat] at hk
    exact hk rfl
  · obtain ⟨new, hlog, hnew⟩ := hinit.log
    have hlog : s.log = new := by simpa [Boot.init, Server.view] using hlog
    rw [hlog, hnew]

lemma Step.log_suffix {e : Event} (h : Step s e s') : s.log <:+ s'.log := by
  rcases (view_step h).invited with hu | ⟨n, m, hi⟩
  · obtain ⟨new, hlog, -⟩ := hu.log
    exact ⟨new, hlog.symm⟩
  · exact ⟨[.applied n m], hi.log.symm⟩

/-- The log only grows. -/
lemma trace_log_suffix (h : Trace past s) : ∀ t ∈ past, t.log <:+ s.log := by
  induction h with
  | start _ => simp
  | step _ hs ih =>
    intro t ht
    rcases List.mem_cons.1 ht with rfl | ht
    · exact hs.log_suffix
    · exact (ih t ht).trans hs.log_suffix

/-- When an invitation was made, both of its sessions were logged in and not pending. -/
lemma trace_login_before (h : Trace past s) {n m : SessionId} {old : List Mark}
    (hold : .applied n m :: old <:+ s.log) :
    ∃ t ∈ past, t.log = old ∧ m ≠ n ∧ (t.sess n).stat = .login ∧ (t.sess m).stat = .login := by
  induction h with
  | @start s₀ hi =>
    have hmem : (n, m) ∈ invitations s₀.log := mem_invitations.2 (hold.subset (by simp))
    rw [hi.uninvited.2] at hmem
    cases hmem
  | @step past s₁ s₂ e _ hs ih =>
    have hbefore : .applied n m :: old <:+ s₁.log → ∃ t ∈ s₁ :: past,
        t.log = old ∧ m ≠ n ∧ (t.sess n).stat = .login ∧ (t.sess m).stat = .login := by
      intro hsuffix
      obtain ⟨t, ht, hprop⟩ := ih hsuffix
      exact ⟨t, List.mem_cons_of_mem _ ht, hprop⟩
    rcases (view_step hs).invited with hu | ⟨a, r, hi⟩
    · obtain ⟨new, hlog, hnew⟩ := hu.log
      have hlog : s₂.log = new ++ s₁.log := hlog
      rw [hlog] at hold
      rcases suffix_of_append hold with hsuffix | ⟨x, y, rfl, -⟩
      · exact hbefore hsuffix
      · have hmem : (n, m) ∈ invitations (x ++ .applied n m :: y) :=
          mem_invitations.2 (by simp)
        rw [hnew] at hmem
        cases hmem
    · have hlog : s₂.log = [.applied a r] ++ s₁.log := hi.log
      rw [hlog] at hold
      rcases suffix_of_append hold with hsuffix | ⟨x, y, hxy, rfl⟩
      · exact hbefore hsuffix
      · obtain ⟨rfl, hxy⟩ | ⟨x', rfl, hxy⟩ := List.cons_eq_append_iff.1 hxy
        · obtain ⟨happ, rfl⟩ := List.cons.inj hxy
          obtain ⟨rfl, rfl⟩ := Mark.applied.inj happ
          exact ⟨s₁, by simp, rfl, hi.ne, hi.applicant, hi.receiver⟩
        · simp at hxy

/-- An invitation of other sessions does not change who is pending on a side. -/
lemma View.Invites.side_status {v w : View} {a r k : SessionId} (h : v.Invites w a r)
    (side : Side) (hside : side.of (a, r) ≠ k) (hk : w.stat k = side.status) :
    v.stat k = side.status := by
  rw [h.stat] at hk
  by_cases hkr : k = r
  · subst hkr
    rw [Function.update_self] at hk
    cases side with
    | applicant => cases hk
    | receiver => exact absurd rfl hside
  · rw [Function.update_of_ne hkr] at hk
    by_cases hka : k = a
    · subst hka
      rw [Function.update_self] at hk
      cases side with
      | applicant => exact absurd rfl hside
      | receiver => cases hk
    · rwa [Function.update_of_ne hka] at hk

/-- The latest invitation of `k` on its side, and the status that `k` has had since, in some
states. -/
def Side.Holds (side : Side) (log : List Mark) (k : SessionId) (states : List Server) : Prop :=
  ∃ n m new old, log = new ++ .applied n m :: old ∧ side.of (n, m) = k ∧
    (∀ i ∈ invitations new, side.of i ≠ k) ∧
    HeldSince (.applied n m :: old) k side.status states

/-- A session that stays pending goes on with the invitation it had. -/
lemma Side.Holds.goes_on {side : Side} {log new : List Mark} {k : SessionId}
    {states : List Server} (h : side.Holds log k states) (hlog : s.log = new ++ log)
    (hnew : ∀ i ∈ invitations new, side.of i ≠ k) (hk : (s.sess k).stat = side.status) :
    side.Holds s.log k (s :: states) := by
  obtain ⟨n, m, new', old, hlog', hside, hnew', hheld⟩ := h
  refine ⟨n, m, new ++ new', old, ?_, hside, ?_, ?_⟩
  · rw [hlog, hlog', List.append_assoc]
  · intro i hi
    rw [invitations_append] at hi
    rcases List.mem_append.1 hi with hi | hi
    · exact hnew i hi
    · exact hnew' i hi
  · intro t ht hsuffix
    rcases List.mem_cons.1 ht with rfl | ht
    · exact hk
    · exact hheld t ht hsuffix

/-- **Pending sessions.**  A session that is pending has been so since the latest invitation on
its side. -/
theorem Side.held_since (side : Side) (h : Trace past s) {k : SessionId}
    (hk : (s.sess k).stat = side.status) : side.Holds s.log k (s :: past) := by
  induction h with
  | start hi =>
    have hnot := hi.uninvited.1 k
    rw [hk, side.pending_status] at hnot
    cases hnot
  | @step past s₁ s₂ e htrace hs ih =>
    rcases (view_step hs).invited with hu | ⟨a, r, hi⟩
    · obtain ⟨new, hlog, hnew⟩ := hu.log
      have hpending : (s₂.view.stat k).pending = true := by
        show (s₂.sess k).stat.pending = true
        rw [hk, side.pending_status]
      exact (ih ((hu.stat k hpending).trans hk)).goes_on hlog (by simp [hnew]) hk
    · by_cases hside : side.of (a, r) = k
      · refine ⟨a, r, [], s₁.log, hi.log, hside, by simp [invitations], ?_⟩
        intro t ht hsuffix
        rcases List.mem_cons.1 ht with rfl | ht
        · exact hk
        · -- the invitation is not in the log of an earlier state
          have hearlier : t.log <:+ s₁.log := by
            rcases List.mem_cons.1 ht with rfl | ht
            · exact List.suffix_rfl
            · exact trace_log_suffix htrace t ht
          have hlength := (hsuffix.trans hearlier).length_le
          rw [List.length_cons] at hlength
          omega
      · have hlog : s₂.log = [.applied a r] ++ s₁.log := hi.log
        exact (ih (hi.side_status side hside hk)).goes_on hlog (by simpa [invitations] using hside)
          hk

/-! ### Answers -/

/-- The latest invitation of `a` was received by `r`; `old` is the log before it. -/
def Server.AppliedTo (s : Server) (a r : SessionId) (old : List Mark) : Prop :=
  ∃ new, s.log = new ++ .applied a r :: old ∧ ∀ k, (a, k) ∉ invitations new

/-- The packet of `r` settles an invitation of `a`: it is an ACCEPT that matches the two, or a
DENY that takes `a` out of its status `MATCH_APPLY`. -/
def Server.Settles (s s' : Server) (r a : SessionId) (message : MatchWithFriendsRelay) : Prop :=
  message.type = .accept ∧ (∃ key, s'.log = .matchMade key r a :: s.log) ∨
    message.type = .deny ∧ (s.sess a).stat = .matchApply ∧ (s'.sess a).stat ≠ .matchApply

/-- A packet that settles an invitation of `a` comes from `a` itself, or from a session in
`MATCH_RECVER` while `a` is in `MATCH_APPLY`. -/
lemma Step.settles {r a : SessionId} {message : MatchWithFriendsRelay} {rest : List Packet}
    {answers : Answers} (h : Step s (.packet answers) s')
    (hcur : s.current = some (r, .playFriendsRel message :: rest))
    (hsettles : s.Settles s' r a message) :
    r = a ∨ (s.sess r).stat = .matchRecver ∧ (s.sess a).stat = .matchApply := by
  have hv := view_step h
  have hlog : s'.log = s'.view.log := rfl
  have hstat : (s'.sess a).stat = s'.view.stat a := rfl
  unfold Server.Settles at hsettles
  rw [hlog, hstat] at hsettles
  generalize s'.view = w at hv hsettles
  cases hv with
  | @packet n p rest' answers _ hcur' hpacket =>
    obtain ⟨rfl, hps⟩ := Prod.mk.inj (Option.some.inj (hcur.symm.trans hcur'))
    obtain ⟨rfl, rfl⟩ := List.cons.inj hps
    cases hpacket with
    | relayed hrel =>
      cases hrel with
      | refused =>
        rcases hsettles with ⟨-, key, hmade⟩ | ⟨-, hbefore, hafter⟩
        · have hlength := congrArg List.length hmade
          simp [Server.view] at hlength
        · exact absurd hbefore hafter
      | self _ =>
        rcases hsettles with ⟨-, key, hmade⟩ | ⟨-, hbefore, hafter⟩
        · have hlength := congrArg List.length hmade
          simp [Server.view, View.setStat] at hlength
        · by_cases hra : r = a
          · exact Or.inl hra
          · rw [View.setStat_stat, if_neg (Ne.symm hra)] at hafter
            exact absurd hbefore hafter
      | @accept m uuid htype _ _ hr hm _ =>
        rcases hsettles with ⟨-, key, hmade⟩ | ⟨hdeny, -⟩
        · obtain ⟨hmade, -⟩ := List.cons.inj hmade
          obtain ⟨-, -, rfl⟩ := Mark.matchMade.inj hmade
          exact Or.inr ⟨hr, hm⟩
        · rw [htype] at hdeny
          cases hdeny
      | apply htype _ _ _ _ =>
        rcases hsettles with ⟨haccept, -⟩ | ⟨hdeny, -⟩
        · rw [htype] at haccept
          cases haccept
        · rw [htype] at hdeny
          cases hdeny
      | @deny m htype _ _ hr hm =>
        rcases hsettles with ⟨haccept, -⟩ | ⟨-, hbefore, hafter⟩
        · rw [htype] at haccept
          cases haccept
        · by_cases hra : r = a
          · exact Or.inl hra
          · exact Or.inr ⟨hr, hbefore⟩

/-- The first invitation of one kind. -/
lemma find?_invitations {p : SessionId × SessionId → Bool} {n m : SessionId}
    {log new old : List Mark}
    (hlog : log = new ++ .applied n m :: old) (hnew : ∀ i ∈ invitations new, p i = false)
    (hp : p (n, m) = true) : (invitations log).find? p = some (n, m) := by
  have hnone : (invitations new).find? p = none := by
    rw [List.find?_eq_none]
    intro i hi
    simp [hnew i hi]
  rw [hlog, invitations_append, List.find?_append, hnone, invitations_applied,
    List.find?_cons_of_pos hp]
  rfl

/-- The latest entry of a kind stands at one place. -/
lemma latest_unique {m : Mark} {new new' old old' : List Mark}
    (h : new ++ m :: old = new' ++ m :: old') (hnew : m ∉ new) (hnew' : m ∉ new') : old = old' := by
  rcases List.append_eq_append_iff.1 h with ⟨rest, rfl, hrest⟩ | ⟨rest, rfl, hrest⟩
  · cases rest with
    | nil => exact (List.cons.inj hrest).2
    | cons x rest =>
      obtain ⟨rfl, -⟩ := List.cons.inj hrest
      exact absurd (by simp) hnew'
  · cases rest with
    | nil => exact (List.cons.inj hrest).2.symm
    | cons x rest =>
      obtain ⟨rfl, -⟩ := List.cons.inj hrest
      exact absurd (by simp) hnew

/-- The first entry with one of two properties, when it has the first one. -/
lemma find?_of_imp {α : Type} {p q : α → Bool} {l : List α} {x : α}
    (hpq : ∀ y, p y = true → q y = true)
    (h : l.find? q = some x) (hx : p x = true) : l.find? p = some x := by
  obtain ⟨-, front, rest, rfl, hfront⟩ := List.find?_eq_some_iff_append.1 h
  refine List.find?_eq_some_iff_append.2 ⟨hx, front, rest, rfl, fun y hy => ?_⟩
  have hq := hfront y hy
  simp only [Bool.not_eq_true', Bool.eq_false_iff] at hq ⊢
  exact fun hp => hq (hpq y hp)

/-- A session in `MATCH_APPLY` has been so since its latest invitation. -/
lemma appliedTo_iff (h : Trace past s) {a r : SessionId} (ha : (s.sess a).stat = .matchApply) :
    (∃ old, s.AppliedTo a r old ∧ HeldSince (.applied a r :: old) a .matchApply (s :: past)) ↔
      (invitations s.log).find? (fun i => i.1 = a) = some (a, r) := by
  constructor
  · rintro ⟨old, ⟨new, hlog, hnew⟩, -⟩
    refine find?_invitations hlog ?_ (by simp)
    rintro ⟨n, m⟩ hmem
    simp only [decide_eq_false_iff_not]
    rintro rfl
    exact hnew m hmem
  · intro hfind
    obtain ⟨n, m, new, old, hlog, hside, hnew, hheld⟩ := Side.held_since .applicant h ha
    obtain rfl : n = a := hside
    have hfind' : (invitations s.log).find? (fun i => i.1 = n) = some (n, m) := by
      refine find?_invitations hlog (fun i hi => ?_) (by simp)
      exact decide_eq_false (hnew i hi)
    obtain ⟨-, rfl⟩ := Prod.mk.inj (Option.some.inj (hfind.symm.trans hfind'))
    exact ⟨old, ⟨new, hlog, fun k hk => hnew _ hk rfl⟩, hheld⟩

/-- Nobody invites himself. -/
lemma invitation_ne (h : Trace past s) {n m : SessionId} (hmem : (n, m) ∈ invitations s.log) :
    m ≠ n := by
  obtain ⟨new, old, hlog⟩ := List.append_of_mem (mem_invitations.1 hmem)
  obtain ⟨t, -, -, hne, -⟩ := trace_login_before h ⟨new, hlog.symm⟩
  exact hne

/-- **Agreement of an answer.**  When a packet of `r` settles an invitation of `a`, then the latest
invitation of `a` was received by `r` and both sessions have been pending since it was made, if
and only if the latest of the invitations that `a` made or `r` received is one of `a` to `r`.
A DENY takes a session out of `MATCH_APPLY` whose pending invitation was received by `r`, if and
only if its latest invitation is one to `r`. -/
theorem answer_agrees_iff {r a : SessionId} {message : MatchWithFriendsRelay} {rest : List Packet}
    {answers : Answers} (h : Trace past s)
    (hcur : s.current = some (r, .playFriendsRel message :: rest))
    (hstep : Step s (.packet answers) s') :
    (s.Settles s' r a message →
      ((∃ old, s.AppliedTo a r old ∧ HeldSince (.applied a r :: old) a .matchApply (s :: past) ∧
          HeldSince (.applied a r :: old) r .matchRecver (s :: past)) ↔
        (invitations s.log).find? (fun i => i.1 = a ∨ i.2 = r) = some (a, r))) ∧
    (message.type = .deny → (s.sess a).stat = .matchApply → (s'.sess a).stat ≠ .matchApply →
      ((∃ old, s.AppliedTo a r old ∧ HeldSince (.applied a r :: old) a .matchApply (s :: past)) ↔
        (invitations s.log).find? (fun i => i.1 = a) = some (a, r))) := by
  refine ⟨fun hsettles => ⟨?_, fun hfind => ?_⟩, fun _ ha _ => appliedTo_iff h ha⟩
  · rintro ⟨old, ⟨new, hlog, hnew⟩, -, hheld⟩
    refine find?_invitations hlog ?_ (by simp)
    rintro ⟨n, m⟩ hmem
    simp only [decide_eq_false_iff_not]
    rintro (rfl | rfl)
    · exact hnew m hmem
    · -- an invitation that `r` received later found it logged in
      obtain ⟨x, y, rfl⟩ := List.append_of_mem (mem_invitations.1 hmem)
      have hsuffix : .applied n m :: (y ++ .applied a m :: old) <:+ s.log :=
        ⟨x, by rw [hlog, List.append_assoc, List.cons_append]⟩
      obtain ⟨t, ht, htlog, -, -, hlogin⟩ := trace_login_before h hsuffix
      have hrecver := hheld t (List.mem_cons_of_mem _ ht) ⟨y, htlog.symm⟩
      rw [hlogin] at hrecver
      cases hrecver
  · rcases hstep.settles hcur hsettles with rfl | ⟨hr, ha⟩
    · exact absurd rfl (invitation_ne h (List.mem_of_find?_eq_some hfind))
    · have happlied : (invitations s.log).find? (fun i => i.1 = a) = some (a, r) :=
        find?_of_imp (fun i hi => by simpa using Or.inl (of_decide_eq_true hi)) hfind (by simp)
      obtain ⟨old, ⟨new, hlog, hnew⟩, hheld⟩ := (appliedTo_iff h ha).2 happlied
      obtain ⟨n, m, new', old', hlog', hside, hnew', hheld'⟩ := Side.held_since .receiver h hr
      obtain rfl : m = r := hside
      have hreceived : (invitations s.log).find? (fun i => i.2 = m) = some (a, m) :=
        find?_of_imp (fun i hi => by simpa using Or.inr (of_decide_eq_true hi)) hfind (by simp)
      have hreceived' : (invitations s.log).find? (fun i => i.2 = m) = some (n, m) := by
        refine find?_invitations hlog' (fun i hi => ?_) (by simp)
        exact decide_eq_false (hnew' i hi)
      obtain ⟨rfl, -⟩ := Prod.mk.inj (Option.some.inj (hreceived.symm.trans hreceived'))
      -- the latest invitation of `a` and the latest one that `r` received are the same entry
      obtain rfl : old = old' := by
        refine latest_unique (hlog.symm.trans hlog') ?_ ?_
        · exact fun hc => hnew m (mem_invitations.2 hc)
        · exact fun hc => hnew' _ (mem_invitations.2 hc) rfl
      exact ⟨old, ⟨new, hlog, hnew⟩, hheld, hheld'⟩

end Traces

/-! ### Four friends -/

/-- Four sessions, and the users `a`, `b`, `c` and `d`. -/
def fourUsers : Boot :=
  Boot.plain 4 1
    (fun token => if token = lit "ta" then some (lit "a")
      else if token = lit "tb" then some (lit "b")
      else if token = lit "tc" then some (lit "c")
      else if token = lit "td" then some (lit "d") else none)
    ⟨[⟨lit "a", 0, 0, 250⟩, ⟨lit "b", 0, 0, 250⟩, ⟨lit "c", 0, 0, 250⟩,
      ⟨lit "d", 0, 0, 250⟩], []⟩

/-- The users log in, then `a` applies to `b`, and `c` to `d`. -/
def twoInvitations : List Event :=
  [.acceptDone 0 false, .acceptDone 1 false, .acceptDone 2 false, .acceptDone 3 false,
    .receive 1 [.joinReq ⟨lit "tb", lit "b"⟩], .packet ⟨[], [], 1⟩, .receiveEnd,
    .receive 3 [.joinReq ⟨lit "td", lit "d"⟩], .packet ⟨[], [], 1⟩, .receiveEnd,
    .receive 0 [.joinReq ⟨lit "ta", lit "a"⟩, .playFriendsRel ⟨some .apply, some (lit "b"), []⟩],
    .packet ⟨[], [], 1⟩, .packet ⟨[], [], 0⟩, .receiveEnd,
    .receive 2 [.joinReq ⟨lit "tc", lit "c"⟩, .playFriendsRel ⟨some .apply, some (lit "d"), []⟩],
    .packet ⟨[], [], 1⟩, .packet ⟨[], [], 0⟩, .receiveEnd]

/-- A run that can be evaluated, with one more step. -/
private lemma trace_of_run {b : Boot} {es : List Event} {e : Event} {test : Server → Server → Bool}
    (h : ((run b es).bind fun s => (next s e).map fun s' => test s s') = some true) :
    ∃ past s s', Trace past s ∧ Step s e s' ∧ test s s' = true := by
  obtain ⟨s, hs, hnext⟩ := Option.bind_eq_some_iff.1 h
  obtain ⟨s', hs', htest⟩ := Option.map_eq_some_iff.1 hnext
  obtain ⟨past, hpast⟩ := (reachable_of_run hs).exists_trace
  exact ⟨past, s, s', hpast, step_of_next hs', htest⟩

/-- Of the two who were applied to, `b` accepts and `d` denies: `b` the invitation of `a`, and `d`
that of `c`. -/
theorem answer_agrees_two_invitations :
    (∃ past s s' old, Trace past s ∧ s.Settles s' 1 0 ⟨some .accept, some (lit "a"), []⟩ ∧
      s.AppliedTo 0 1 old ∧ HeldSince (.applied 0 1 :: old) 0 .matchApply (s :: past) ∧
      HeldSince (.applied 0 1 :: old) 1 .matchRecver (s :: past)) ∧
    ∃ past s s' old, Trace past s ∧ s.Settles s' 3 2 ⟨some .deny, some (lit "c"), []⟩ ∧
      s.AppliedTo 2 3 old ∧ HeldSince (.applied 2 3 :: old) 2 .matchApply (s :: past) := by
  constructor
  · have hrun : ((run fourUsers (twoInvitations ++
        [.receive 1 [.playFriendsRel ⟨some .accept, some (lit "a"), []⟩]])).bind fun s =>
        (next s (.packet ⟨[List.replicate 16 7], [], 0⟩)).map fun s' =>
        decide (s.current = some (1, [.playFriendsRel ⟨some .accept, some (lit "a"), []⟩]) ∧
          s'.log = .matchMade (roomKeyOf (List.replicate 16 7)) 1 0 :: s.log ∧
          invitations s.log = [(2, 3), (0, 1)])) = some true := by decide
    obtain ⟨past, s, s', htrace, hstep, htest⟩ := trace_of_run hrun
    obtain ⟨hcur, hlog, hinvited⟩ := of_decide_eq_true htest
    have hsettles : s.Settles s' 1 0 ⟨some .accept, some (lit "a"), []⟩ := Or.inl ⟨rfl, _, hlog⟩
    obtain ⟨old, hold⟩ := ((answer_agrees_iff htrace hcur hstep).1 hsettles).2
      (by rw [hinvited]; decide)
    exact ⟨past, s, s', old, htrace, hsettles, hold⟩
  · have hrun : ((run fourUsers (twoInvitations ++
        [.receive 3 [.playFriendsRel ⟨some .deny, some (lit "c"), []⟩]])).bind fun s =>
        (next s (.packet ⟨[], [], 0⟩)).map fun s' =>
        decide (s.current = some (3, [.playFriendsRel ⟨some .deny, some (lit "c"), []⟩]) ∧
          (s.sess 2).stat = .matchApply ∧ (s'.sess 2).stat = .login ∧
          invitations s.log = [(2, 3), (0, 1)])) = some true := by decide
    obtain ⟨past, s, s', htrace, hstep, htest⟩ := trace_of_run hrun
    obtain ⟨hcur, hbefore, hafter, hinvited⟩ := of_decide_eq_true htest
    have hne : (s'.sess 2).stat ≠ .matchApply := by simp [hafter]
    obtain ⟨old, hold⟩ := ((answer_agrees_iff htrace hcur hstep).2 rfl hbefore hne).2
      (by rw [hinvited]; decide)
    exact ⟨past, s, s', old, htrace, Or.inr ⟨rfl, hbefore, hne⟩, hold⟩

/-- While `a` waits for the answer of `b`, and `c` for that of `d`, the user `b` accepts in the name
of `c`, who never applied to `b`, and the two are matched; or `b` denies `c`. -/
theorem answer_to_somebody_else :
    (∃ past s s', Trace past s ∧
      s.current = some (1, [.playFriendsRel ⟨some .accept, some (lit "c"), []⟩]) ∧
      (∃ answers, Step s (.packet answers) s') ∧
      (∃ key, s'.log = .matchMade key 1 2 :: s.log) ∧ ∀ old, ¬ s.AppliedTo 2 1 old) ∧
    ∃ past s s', Trace past s ∧
      s.current = some (1, [.playFriendsRel ⟨some .deny, some (lit "c"), []⟩]) ∧
      (∃ answers, Step s (.packet answers) s') ∧
      (s.sess 2).stat = .matchApply ∧ (s'.sess 2).stat = .login ∧
      ∀ old, ¬ s.AppliedTo 2 1 old := by
  have hnot : ∀ s : Server, invitations s.log = [(2, 3), (0, 1)] →
      ∀ old, ¬ s.AppliedTo 2 1 old := by
    rintro s hinvited old ⟨new, hlog, -⟩
    have hmem : (2, 1) ∈ invitations s.log := mem_invitations.2 (by simp [hlog])
    simp [hinvited] at hmem
  constructor
  · have hrun : ((run fourUsers (twoInvitations ++
        [.receive 1 [.playFriendsRel ⟨some .accept, some (lit "c"), []⟩]])).bind fun s =>
        (next s (.packet ⟨[List.replicate 16 7], [], 0⟩)).map fun s' =>
        decide (s.current = some (1, [.playFriendsRel ⟨some .accept, some (lit "c"), []⟩]) ∧
          s'.log = .matchMade (roomKeyOf (List.replicate 16 7)) 1 2 :: s.log ∧
          invitations s.log = [(2, 3), (0, 1)])) = some true := by decide
    obtain ⟨past, s, s', htrace, hstep, htest⟩ := trace_of_run hrun
    obtain ⟨hcur, hlog, hinvited⟩ := of_decide_eq_true htest
    exact ⟨past, s, s', htrace, hcur, ⟨_, hstep⟩, ⟨_, hlog⟩, hnot s hinvited⟩
  · have hrun : ((run fourUsers (twoInvitations ++
        [.receive 1 [.playFriendsRel ⟨some .deny, some (lit "c"), []⟩]])).bind fun s =>
        (next s (.packet ⟨[], [], 0⟩)).map fun s' =>
        decide (s.current = some (1, [.playFriendsRel ⟨some .deny, some (lit "c"), []⟩]) ∧
          (s.sess 2).stat = .matchApply ∧ (s'.sess 2).stat = .login ∧
          invitations s.log = [(2, 3), (0, 1)])) = some true := by decide
    obtain ⟨past, s, s', htrace, hstep, htest⟩ := trace_of_run hrun
    obtain ⟨hcur, hbefore, hafter, hinvited⟩ := of_decide_eq_true htest
    exact ⟨past, s, s', htrace, hcur, ⟨_, hstep⟩, hbefore, hafter, hnot s hinvited⟩

end ChannelServer
