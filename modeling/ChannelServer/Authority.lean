/-
Acting as a user.

A session acts as a user when a packet of it changes the user's friend list, puts the session
into a matching queue, or moves it into one of the statuses of a match.  `loggedInAs` reads
off the log as whom a session is logged in since its latest accept.  The dispatch of packets
looks at the type of the packet only, so that a session that has not logged in, or has logged
out, can act with the user id left over from an earlier login; and the text of a statement is
printed with the ids as they are, so that a target with quotes in it can make it a statement
about the rows of other users.  `Server.MayAct` is the condition on the steps that excludes both,
and `acting_requires_login` proves that in runs that meet it a session only acts as the user it
is logged in as.
-/
import ChannelServer.LoginMap
import ChannelServer.Matching
import ChannelServer.Queries

namespace ChannelServer

open Resumption WaitingRoom

/-- The user as whom the session is logged in, according to the log. -/
def loggedInAs (n : SessionId) : List Mark → Option Str
  | [] => none
  | .accepted m :: log => if m = n then none else loggedInAs n log
  | .joined m id :: log => if m = n then some id else loggedInAs n log
  | .loggedOut m :: log => if m = n then none else loggedInAs n log
  | _ :: log => loggedInAs n log

/-- The entries of the log that concern logins. -/
def Mark.ofLogin : Mark → Bool
  | .accepted _ => true
  | .joined _ _ => true
  | .loggedOut _ => true
  | _ => false

lemma loggedInAs_append {n : SessionId} {new log : List Mark}
    (hnew : ∀ m ∈ new, m.ofLogin = false) : loggedInAs n (new ++ log) = loggedInAs n log := by
  induction new with
  | nil => rfl
  | cons m new ih =>
    have hm := hnew m List.mem_cons_self
    have ih := ih fun k hk => hnew k (List.mem_cons_of_mem _ hk)
    cases m <;> simp_all [loggedInAs, Mark.ofLogin]

namespace View

/-- The session acts as the user whose id it carries: it has logged in with this id since its
latest accept, and has not logged out. -/
def Authorized (v : View) (n : SessionId) : Prop := loggedInAs n v.log = some (v.userId n)

/-- A session that has a status of a user is logged in; the status `WAIT` counts only in the
session's own packet loop. -/
def AuthOk (v : View) : Prop :=
  ∀ n, v.stat n ≠ .conn → v.stat n ≠ .logout →
    (v.stat n = .wait → ∃ ps, v.current = some (n, ps)) → v.Authorized n

/-- A packet by which a session acts comes in a status of a user. -/
def MayAct (v : View) : Event → Prop
  | .packet _ =>
      match v.current with
      | some (n, .friendsReq message :: _) =>
          message.type ≠ .search → v.stat n ≠ .conn ∧ v.stat n ≠ .logout
      | some (n, .playRankReq :: _) => v.stat n ≠ .conn ∧ v.stat n ≠ .logout
      | some (n, .playFriendsRel message :: _) =>
          v.userIdMap message.targetId = some n → v.stat n ≠ .conn ∧ v.stat n ≠ .logout
      | _ => True
  | _ => True

/-- Two views with the same user ids, friend lists and logins. -/
structure SameLogins (v w : View) : Prop where
  userId : w.userId = v.userId
  friendInfo : w.friendInfo = v.friendInfo
  log : ∃ new, w.log = new ++ v.log ∧ ∀ m ∈ new, m.ofLogin = false

variable {u v w : View} {n : SessionId}

lemma SameLogins.refl (v : View) : v.SameLogins v := ⟨rfl, rfl, [], rfl, by simp⟩

lemma SameLogins.trans (h₁ : u.SameLogins v) (h₂ : v.SameLogins w) : u.SameLogins w := by
  obtain ⟨new₁, hlog₁, hnew₁⟩ := h₁.log
  obtain ⟨new₂, hlog₂, hnew₂⟩ := h₂.log
  refine ⟨h₂.userId.trans h₁.userId, h₂.friendInfo.trans h₁.friendInfo, new₂ ++ new₁, ?_, ?_⟩
  · rw [hlog₂, hlog₁, List.append_assoc]
  · intro m hm
    rcases List.mem_append.1 hm with hm | hm
    · exact hnew₂ m hm
    · exact hnew₁ m hm

lemma SameLogins.authorized (h : v.SameLogins w) (n : SessionId) :
    w.Authorized n ↔ v.Authorized n := by
  obtain ⟨new, hlog, hnew⟩ := h.log
  unfold Authorized
  rw [hlog, loggedInAs_append hnew, h.userId]

/-- A change of statuses: who has a status of a user now was authorized before. -/
lemma AuthOk.of_sameLogins (h : v.SameLogins w)
    (hauth : ∀ n, w.stat n ≠ .conn → w.stat n ≠ .logout →
      (w.stat n = .wait → ∃ ps, w.current = some (n, ps)) → v.Authorized n) : w.AuthOk :=
  fun n hconn hlogout hwait => (h.authorized n).2 (hauth n hconn hlogout hwait)

lemma SameLogins.waitAccept (v : View) : v.SameLogins v.waitAccept := by
  obtain ⟨flag, queue, accepts, new, hnew, h⟩ := v.waitAccept_eq
  rw [h]
  refine ⟨rfl, rfl, new, rfl, fun m hm => ?_⟩
  obtain ⟨n, b, rfl⟩ := hnew m hm
  simp [Mark.ofLogin]

/-- Closing a session keeps the logins; the status of the session is `WAIT` then, unless
`close_session` returned at once. -/
lemma close_logins (v : View) (n : SessionId) :
    v.SameLogins (v.close n) ∧ (v.close n).current = v.current ∧
      ((v.close n).stat = v.stat ∨ (v.close n).stat = Function.update v.stat n .wait) := by
  rcases v.close_cases n with ⟨-, h⟩ | ⟨-, redis, userIdMap, h⟩ <;> rw [h]
  · exact ⟨SameLogins.refl v, rfl, Or.inl rfl⟩
  · have hreleased : v.SameLogins
        (View.release { v with redis := redis, userIdMap := userIdMap } n) :=
      ⟨rfl, rfl, [], rfl, by simp⟩
    refine ⟨finishClose_of_release (fun w hw => hw.trans (.waitAccept w)) hreleased, ?_⟩
    obtain ⟨flag, queue, accepts, new, -, h⟩ :=
      View.finishClose_eq { v with redis := redis, userIdMap := userIdMap } n
    rw [h]
    exact ⟨rfl, Or.inr rfl⟩

lemma Served.sameLogins {r : QueId} {b : Bool} (h : v.Served r w b) :
    v.SameLogins w ∧ w.current = v.current := by
  cases h with
  | nobody _ => exact ⟨⟨rfl, rfl, [], rfl, by simp⟩, rfl⟩
  | pair _ _ => exact ⟨⟨rfl, rfl, [_, _], rfl, by simp [Mark.ofLogin, pairMark]⟩, rfl⟩

/-- Serving a queue only moves sessions that were authorized already. -/
lemma AuthOk.served {r : QueId} {b : Bool} (hv : v.AuthOk) (h : v.Served r w b) : w.AuthOk := by
  obtain ⟨hsame, hcur⟩ := h.sameLogins
  refine AuthOk.of_sameLogins hsame fun k hconn hlogout hwait => ?_
  rw [hcur] at hwait
  rcases h.stat k with hst | ⟨-, hwaiting⟩
  · rw [hst] at hconn hlogout hwait
    exact hv k hconn hlogout hwait
  · simp only [View.waiting, Bool.and_eq_true, decide_eq_true_eq] at hwaiting
    exact hv k (by simp [hwaiting.2]) (by simp [hwaiting.2]) (by simp [hwaiting.2])

/-- One status is set, for a session that is authorized or comes to no status of a user. -/
lemma AuthOk.setStat (hv : v.AuthOk) {st : Status}
    (hn : st ≠ .conn → st ≠ .logout → v.Authorized n) : (v.setStat n st).AuthOk := by
  refine AuthOk.of_sameLogins ⟨rfl, rfl, [], rfl, by simp⟩ ?_
  exact (Function.forall_update_iff v.stat fun k st' => st' ≠ .conn → st' ≠ .logout →
    (st' = .wait → ∃ ps, v.current = some (k, ps)) → v.Authorized k).2
      ⟨fun hconn hlogout _ => hn hconn hlogout, fun k _ => hv k⟩

/-- A session is closed; if its packet loop runs, it has to be authorized there. -/
lemma AuthOk.close (hv : v.AuthOk) (hn : (∃ ps, v.current = some (n, ps)) → v.Authorized n) :
    (v.close n).AuthOk := by
  obtain ⟨hsame, hcur, hstat⟩ := close_logins v n
  refine AuthOk.of_sameLogins hsame fun k hconn hlogout hwait => ?_
  rw [hcur] at hwait
  rcases hstat with hstat | hstat
  · rw [hstat] at hconn hlogout hwait
    exact hv k hconn hlogout hwait
  · rw [hstat] at hconn hlogout hwait
    by_cases hkn : k = n
    · subst hkn
      exact hn (hwait (Function.update_self _ _ _))
    · rw [Function.update_of_ne hkn] at hconn hlogout hwait
      exact hv k hconn hlogout hwait

end View

/-- **Logins and statuses agree**, one packet. -/
lemma PacketStep.authOk {v w : View} {n : SessionId} {p : Packet} {rest : List Packet}
    (h : PacketStep v n p w) (hcur : v.current = some (n, rest)) (hv : v.AuthOk)
    (hmay : ∀ answers, View.MayAct { v with current := some (n, p :: rest) } (.packet answers)) :
    w.AuthOk := by
  have hmay := hmay ⟨[], [], 0⟩
  simp only [View.MayAct] at hmay
  -- in its own packet loop a session that has a status of a user is authorized
  have hauth : v.stat n ≠ .conn → v.stat n ≠ .logout → v.Authorized n := fun hconn hlogout =>
    hv n hconn hlogout fun _ => ⟨rest, hcur⟩
  cases h with
  | config _ | other _ | notJoined _ | notLoggedOut _ | notConfirmed _ | burnt _ _ _ => exact hv
  | friends h => cases h <;> exact hv
  | refused _ _ => exact hv.setStat fun _ h => absurd rfl h
  | @joined message id rating _ _ _ =>
    intro k hconn hlogout hwait
    show loggedInAs k (.joined n id :: v.log) = some (Function.update v.userId n id k)
    by_cases hkn : n = k
    · subst hkn
      rw [loggedInAs, if_pos rfl, Function.update_self]
    · -- the entry of the log concerns `n` only
      rw [loggedInAs, if_neg hkn, Function.update_of_ne (Ne.symm hkn)]
      have hstat : (v.login n message.token id rating).stat k = v.stat k :=
        Function.update_of_ne (Ne.symm hkn) _ _
      rw [hstat] at hconn hlogout hwait
      exact hv k hconn hlogout hwait
  | loggedOut _ =>
    intro k hconn hlogout hwait
    have hstat : (((v.forget n).setStat n .logout).note (.loggedOut n)).stat k =
        Function.update v.stat n .logout k := rfl
    rw [hstat] at hconn hlogout hwait
    have hkn : k ≠ n := by
      rintro rfl
      rw [Function.update_self] at hlogout
      exact hlogout rfl
    rw [Function.update_of_ne hkn] at hconn hlogout hwait
    show loggedInAs k (.loggedOut n :: v.log) = _
    rw [loggedInAs, if_neg (Ne.symm hkn)]
    exact hv k hconn hlogout hwait
  | confirmed hst =>
    have hn : v.Authorized n := hauth (by simp [hst]) (by simp [hst])
    exact (hv.setStat fun _ _ => hn).close fun _ => hn
  | relayed h =>
    cases h with
    | refused => exact hv
    | self hself => exact hv.setStat fun _ _ => hauth (hmay hself).1 (hmay hself).2
    | @accept m uuid _ _ _ hn hm _ =>
      have hboth : ((v.setStat n .matchComplete).setStat m .matchComplete).AuthOk :=
        (hv.setStat fun _ _ => hauth (by simp [hn]) (by simp [hn])).setStat fun _ _ =>
          hv m (by simp [hm]) (by simp [hm]) (by simp [hm])
      refine View.AuthOk.of_sameLogins (v := (v.setStat n .matchComplete).setStat m .matchComplete)
        ⟨rfl, rfl, [_], rfl, by simp [Mark.ofLogin]⟩ hboth
    | @apply m _ _ _ hn hm =>
      have hboth : ((v.setStat n .matchApply).setStat m .matchRecver).AuthOk :=
        (hv.setStat fun _ _ => hauth (by simp [hn]) (by simp [hn])).setStat fun _ _ =>
          hv m (by simp [hm]) (by simp [hm]) (by simp [hm])
      refine View.AuthOk.of_sameLogins (v := (v.setStat n .matchApply).setStat m .matchRecver)
        ⟨rfl, rfl, [_], rfl, by simp [Mark.ofLogin]⟩ hboth
    | @deny m _ _ _ hn hm =>
      exact (hv.setStat fun _ _ => hauth (by simp [hn]) (by simp [hn])).setStat fun _ _ =>
        hv m (by simp [hm]) (by simp [hm]) (by simp [hm])
  | @ranked u b h =>
    have hset : (v.setStat n .matchRequest).AuthOk :=
      hv.setStat fun _ _ => hauth hmay.1 hmay.2
    have henter : (v.enter n (checkRating (v.rating n)).que).AuthOk :=
      View.AuthOk.of_sameLogins (v := v.setStat n .matchRequest)
        ⟨rfl, rfl, [_], rfl, by simp [Mark.ofLogin]⟩ hset
    have hserved := henter.served h
    rcases u.armUnless_cases n b with h | h <;> rw [h] <;> exact hserved

/-- **Logins and statuses agree**, one step. -/
theorem ViewStep.authOk {v w : View} {e : Event} (h : ViewStep v e w) (hp : v.PoolOk)
    (hv : v.AuthOk) (hmay : v.MayAct e) : w.AuthOk := by
  cases h with
  | startAccept _ _ =>
    have hsame : v.SameLogins (View.waitAccept { v with starting := v.starting - 1 }) :=
      View.SameLogins.trans (v := { v with starting := v.starting - 1 })
        ⟨rfl, rfl, [], rfl, by simp⟩ (View.SameLogins.waitAccept _)
    refine View.AuthOk.of_sameLogins hsame ?_
    rw [(View.waitAccept_stat _).1, (View.waitAccept_stat _).2]
    exact hv
  | @accepted n hcur hn =>
    intro k hconn hlogout hwait
    unfold View.accept at hconn hlogout hwait ⊢
    rw [(View.SameLogins.waitAccept _).authorized]
    rw [(View.waitAccept_stat _).1] at hconn hlogout hwait
    rw [(View.waitAccept_stat _).2] at hwait
    -- the accepted session itself has the status `CONN`
    have hkn : n ≠ k := by
      rintro rfl
      exact hconn (Function.update_self _ _ _)
    show loggedInAs k (.accepted n :: v.log) = some (v.userId k)
    rw [loggedInAs, if_neg hkn]
    have hstat : Function.update v.stat n .conn k = v.stat k :=
      Function.update_of_ne (Ne.symm hkn) _ _
    have hconn : Function.update v.stat n .conn k ≠ .conn := hconn
    have hlogout : Function.update v.stat n .conn k ≠ .logout := hlogout
    have hwait : Function.update v.stat n .conn k = .wait → _ := hwait
    rw [hstat] at hconn hlogout hwait
    exact hv k hconn hlogout hwait
  | acceptFailed _ _ | readFailed _ _ | timerIdle _ _ | writeDone _ | world => exact hv
  | @receive n packets hcur hread =>
    intro k hconn hlogout hwait
    refine hv k hconn hlogout fun hst => ?_
    obtain ⟨ps, hps⟩ := hwait hst
    obtain ⟨rfl, -⟩ := Prod.mk.inj (Option.some.inj hps)
    -- the session that was read is active, so its status is not `WAIT`
    exact absurd hst (hp.active_stat _ (hp.read_active _ hread))
  | @packet n p rest answers _ hcur hpacket =>
    have hv' : View.AuthOk { v with current := some (n, rest) } := by
      intro k hconn hlogout hwait
      refine hv k hconn hlogout fun hst => ?_
      obtain ⟨ps, hps⟩ := hwait hst
      obtain ⟨rfl, -⟩ := Prod.mk.inj (Option.some.inj hps)
      exact ⟨_, hcur⟩
    refine hpacket.authOk rfl hv' fun answers' => ?_
    simp only [View.MayAct, hcur] at hmay ⊢
    exact hmay
  | @receiveEnd n hcur =>
    intro k hconn hlogout hwait
    refine hv k hconn hlogout fun hst => ?_
    obtain ⟨ps, hps⟩ := hwait hst
    cases hps
  | @disconnected n error hcur hread herror =>
    refine View.AuthOk.close (v := { v with reads := v.reads.erase ⟨n, true⟩ }) hv ?_
    rintro ⟨ps, hps⟩
    exact absurd (hps.symm.trans hcur) (by simp)
  | @timerWiden n i answers _ b hcur hst hserved =>
    have hwiden : (View.widen { v with
        waits := Function.update v.waits n ((v.waits n).eraseIdx i) } n).AuthOk :=
      View.AuthOk.of_sameLogins (v := v) ⟨rfl, rfl, [_], rfl, by simp [Mark.ofLogin]⟩ hv
    exact hwiden.served hserved

/-- In runs whose steps all may act, logins and statuses agree. -/
lemma authOk_of_mayAct {s : Server} (h : ReachedBy (fun s e => s.view.MayAct e) s) :
    s.view.AuthOk := by
  refine (ReachedBy.view_invariant View.MayAct (P := fun v => v.PoolOk ∧ v.AuthOk) ?_ ?_ h).2
  · intro b
    refine ⟨View.PoolOk.init b, ?_⟩
    intro k hconn hlogout hwait
    -- at the start every status is `WAIT`, and no packet loop runs
    have hst : ((Boot.init b).view.waitAccept).stat k = .wait := by
      rw [(View.waitAccept_stat _).1]
      rfl
    obtain ⟨ps, hps⟩ := hwait hst
    rw [(View.waitAccept_stat _).2] at hps
    cases hps
  · rintro v e w ⟨hp, hv⟩ hmay hstep
    exact ⟨hstep.poolOk hp, hstep.authOk hp hv hmay⟩

/-! ### Acting -/

/-- The packet puts its session into a queue, or moves it into a status of a match. -/
def View.Acts (v w : View) (n : SessionId) : Prop :=
  (∃ r, n ∈ w.matchingQue r ∧ n ∉ v.matchingQue r) ∨
    (∃ r new, w.log = new ++ v.log ∧ Mark.setMatchingQue n r ∈ new) ∨
    w.stat n ≠ v.stat n ∧
      w.stat n ∈ [.matchRequest, .matchApply, .matchRecver, .matchComplete]

/-- A step that leaves the queues alone can only act through the status. -/
lemma View.SameQueues.stat_of_acts {v w : View} {n : SessionId} (h : v.SameQueues w)
    (hacts : v.Acts w n) : w.stat n ≠ v.stat n ∧
      w.stat n ∈ [.matchRequest, .matchApply, .matchRecver, .matchComplete] := by
  rcases hacts with ⟨r, hw, hv⟩ | ⟨r, new, hlog, hmem⟩ | hstat
  · rw [h.matchingQue] at hw
    exact absurd hw hv
  · obtain ⟨new', hlog', hnew'⟩ := h.log
    obtain rfl := List.append_cancel_right (hlog.symm.trans hlog')
    have hfalse := hnew' _ hmem
    cases hfalse
  · exact hstat

/-- A packet other than a rank request moves its session into a status of a match only from
`LOGIN` or `MATCH_RECVER`. -/
lemma PacketStep.stat_of_acts {v w : View} {n : SessionId} {p : Packet} (h : PacketStep v n p w)
    (hp : p ≠ .playRankReq) (hne : w.stat n ≠ v.stat n)
    (hmem : w.stat n ∈ [.matchRequest, .matchApply, .matchRecver, .matchComplete]) :
    v.stat n = .login ∨ v.stat n = .matchRecver := by
  have hset : ∀ (u : View) (st : Status), (u.setStat n st).stat n = st := fun u st =>
    Function.update_self _ _ _
  cases h with
  | config _ | other _ | notJoined _ | notLoggedOut _ | notConfirmed _ | burnt _ _ _ =>
    exact absurd rfl hne
  | friends h => cases h <;> exact absurd rfl hne
  | ranked _ => exact absurd rfl hp
  | refused _ _ =>
    rw [hset] at hmem
    simp at hmem
  | joined _ _ _ =>
    have hstat : Function.update v.stat n .login n ∈ _ := hmem
    simp at hstat
  | loggedOut _ =>
    have hstat : Function.update v.stat n .logout n ∈ _ := hmem
    simp at hstat
  | confirmed _ =>
    rcases (View.close_logins (v.setStat n .matchConfirm) n).2.2 with hstat | hstat
    · rw [hstat, hset] at hmem
      simp at hmem
    · rw [hstat, Function.update_self] at hmem
      simp at hmem
  | relayed h =>
    cases h with
    | refused => exact absurd rfl hne
    | self _ =>
      rw [hset] at hmem
      simp at hmem
    | accept _ _ _ hn _ _ => exact Or.inr hn
    | apply _ _ _ hn _ => exact Or.inl hn
    | deny _ _ _ hn _ => exact Or.inr hn

/-- Only a friends request changes rows of `friend_info`, and only rows of the user whose id
its session carries. -/
lemma PacketStep.rows_changed {v w : View} {n : SessionId} {p : Packet} {u : Str}
    (h : PacketStep v n p w)
    (hrows : w.friendInfo.filter (·.1 = u) ≠ v.friendInfo.filter (·.1 = u)) :
    ∃ message, p = .friendsReq message ∧ message.type ≠ .search ∧ v.userId n = u := by
  have hsame : v.SameLogins w → False := fun h => hrows (by rw [h.friendInfo])
  cases h with
  | @friends message _ h =>
    cases h with
    | same => exact absurd rfl hrows
    | add htype _ =>
      refine ⟨message, rfl, by simp [htype], ?_⟩
      by_contra hne
      refine hrows ?_
      show (v.friendInfo ++ [(v.userId n, message.targetId)]).filter (·.1 = u) = _
      rw [List.filter_append, List.filter_cons_of_neg (by simpa using hne)]
      simp
    | del htype _ =>
      refine ⟨message, rfl, by simp [htype], ?_⟩
      by_contra hne
      refine hrows ?_
      show (v.friendInfo.filter (· ≠ (v.userId n, message.targetId))).filter (·.1 = u) = _
      rw [List.filter_filter]
      refine List.filter_congr fun row _ => ?_
      by_cases hrow : row.1 = u
      · have : row ≠ (v.userId n, message.targetId) := by
          rintro rfl
          exact hne hrow
        simp [hrow, this]
      · simp [hrow]
  | config _ | other _ | notJoined _ | notLoggedOut _ | notConfirmed _ | burnt _ _ _
  | refused _ _ | joined _ _ _ | loggedOut _ => exact absurd rfl hrows
  | confirmed _ =>
    refine (hsame (View.SameLogins.trans (v := v.setStat n .matchConfirm) ?_ ?_)).elim
    · exact ⟨rfl, rfl, [], rfl, by simp⟩
    · exact (View.close_logins (v.setStat n .matchConfirm) n).1
  | relayed h => cases h <;> exact absurd rfl hrows
  | @ranked u' b h =>
    have hfriends : (u'.armUnless n b).friendInfo = u'.friendInfo := by
      rcases u'.armUnless_cases n b with h | h <;> rw [h]
      rfl
    refine absurd ?_ hrows
    rw [hfriends, h.sameLogins.1.friendInfo]
    rfl

/-- The step may act: a packet by which a session acts comes in a status of a user, and the texts
of its statements are read as they are meant. -/
structure Server.MayAct (s : Server) (e : Event) : Prop where
  inStatus : s.view.MayAct e
  faithful : s.FaithfulTexts e

/-- **Acting as a user requires being logged in as that user**, in runs whose steps all may
act: when a packet changes the friend list of a user, that user is the one its session is
logged in as; and a session that a packet of its own puts into a queue or into a status of a
match is logged in as the user whose id it carries. -/
theorem acting_requires_login {s s' : Server} {n : SessionId} {p : Packet} {rest : List Packet}
    {answers : Answers} (h : ReachedBy (fun s e => s.MayAct e) s)
    (hcur : s.current = some (n, p :: rest)) (hmay : s.MayAct (.packet answers))
    (hstep : Step s (.packet answers) s') :
    (∀ u, s'.tables.friendInfo.filter (·.1 = u) ≠ s.tables.friendInfo.filter (·.1 = u) →
      (s.sess n).userId = u ∧ loggedInAs n s.log = some u) ∧
    (s.view.Acts s'.view n → loggedInAs n s.log = some (s.sess n).userId) := by
  have hv := authOk_of_mayAct (h.mono fun _ _ hmay => hmay.inStatus)
  have hmay := hmay.inStatus
  have hcur' : s.view.current = some (n, p :: rest) := hcur
  have hauth : s.view.stat n ≠ .conn → s.view.stat n ≠ .logout → s.view.Authorized n :=
    fun hconn hlogout => hv n hconn hlogout fun _ => ⟨_, hcur'⟩
  simp only [View.MayAct, hcur'] at hmay
  have hv := view_step hstep
  generalize hw : s'.view = w at hv
  cases hv with
  | @packet m q rest' _ _ hcurm hpacket =>
    obtain ⟨rfl, heq⟩ := Prod.mk.inj (Option.some.inj (hcur'.symm.trans hcurm))
    obtain ⟨rfl, rfl⟩ := List.cons.inj heq
    constructor
    · intro u hu
      have hrows : w.friendInfo.filter (·.1 = u) ≠ s.view.friendInfo.filter (·.1 = u) := by
        rw [← hw]
        exact hu
      obtain ⟨message, rfl, htype, rfl⟩ := hpacket.rows_changed hrows
      obtain ⟨hconn, hlogout⟩ := hmay htype
      exact ⟨rfl, hauth hconn hlogout⟩
    · intro hacts
      by_cases hp : p = .playRankReq
      · subst hp
        exact hauth hmay.1 hmay.2
      · have hacts' : View.Acts { s.view with current := some (n, rest) } w n := hacts
        obtain ⟨hne, hmem⟩ := (hpacket.sameQueues hp).stat_of_acts hacts'
        have hst : s.view.stat n = .login ∨ s.view.stat n = .matchRecver :=
          hpacket.stat_of_acts hp hne hmem
        rcases hst with hst | hst
        · exact hauth (by simp [hst]) (by simp [hst])
        · exact hauth (by simp [hst]) (by simp [hst])

/-- The client of session 0 logs in as `a` and disconnects; the next client of the session
adds a friend to the list of `a` without a login. -/
theorem friend_added_without_login :
    ∃ s s' answers, Reachable s ∧
      s.current = some (0, [.friendsReq ⟨.add, lit "b"⟩]) ∧ Step s (.packet answers) s' ∧
      s.tables.friendInfo.filter (·.1 = lit "a") = [] ∧
      s'.tables.friendInfo.filter (·.1 = lit "a") = [(lit "a", lit "b")] ∧
      loggedInAs 0 s.log = none := by
  have hrun : (run twoUsers [.acceptDone 0 false, .receive 0 [.joinReq ⟨lit "ta", lit "a"⟩],
      .packet ⟨[], [], 1⟩, .receiveEnd, .receiveError 0 true .eof, .acceptDone 1 false,
      .acceptDone 0 false, .receive 0 [.friendsReq ⟨.add, lit "b"⟩]]).map
      (fun s => (decide (s.current = some (0, [.friendsReq ⟨.add, lit "b"⟩])),
        s.tables.friendInfo.isEmpty, (loggedInAs 0 s.log).isNone,
        (next s (.packet ⟨[], [], 1⟩)).map fun s' =>
          decide (s'.tables.friendInfo = [(lit "a", lit "b")]))) =
      some (true, true, true, some true) := by decide
  obtain ⟨s, hs, heq⟩ := Option.map_eq_some_iff.1 hrun
  simp only [Prod.mk.injEq, decide_eq_true_eq, List.isEmpty_iff, Option.isNone_iff_eq_none] at heq
  obtain ⟨hcur, hrows, hlog, hnext⟩ := heq
  obtain ⟨s', hs', hrows'⟩ := Option.map_eq_some_iff.1 hnext
  rw [decide_eq_true_eq] at hrows'
  refine ⟨s, s', ⟨[], [], 1⟩, reachable_of_run hs, hcur, step_of_next hs', ?_, ?_, hlog⟩
  · rw [hrows]
    rfl
  · rw [hrows']
    decide

/-- `MayAct` as a computation, for the events of an example. -/
private def mayActTest (s : Server) (e : Event) : Bool :=
  decide (s.FaithfulTexts e) &&
    match e with
    | .packet _ =>
        match s.current with
        | some (_, .joinReq _ :: _) => true
        | some (n, .friendsReq _ :: _) => (s.sess n).stat == .login
        | _ => false
    | .acceptDone _ _ => true
    | .receive _ _ => true
    | _ => false

private lemma mayAct_of_test {s : Server} {e : Event} (h : mayActTest s e = true) : s.MayAct e := by
  obtain ⟨hfaithful, h⟩ := Bool.and_eq_true_iff.1 h
  refine ⟨?_, of_decide_eq_true hfaithful⟩
  cases e with
  | packet answers =>
    dsimp only at h
    split at h
    · rename_i n message rest hcur
      have hcur' : s.view.current = some (n, .joinReq message :: rest) := hcur
      simp only [View.MayAct, hcur']
    · rename_i n message rest hcur
      have hcur' : s.view.current = some (n, .friendsReq message :: rest) := hcur
      have hst : (s.sess n).stat = .login := by simpa using h
      have hst' : s.view.stat n = .login := hst
      simp [View.MayAct, hcur', hst']
    · cases h
  | _ => trivial

/-- A client logs in as `a` and adds a friend. -/
theorem acting_requires_login_added_friend :
    ∃ s s', ReachedBy (fun s e => s.MayAct e) s ∧
      s.current = some (0, [.friendsReq ⟨.add, lit "b"⟩]) ∧ Step s (.packet ⟨[], [], 1⟩) s' ∧
      s'.tables.friendInfo.filter (·.1 = lit "a") ≠ s.tables.friendInfo.filter (·.1 = lit "a") ∧
      (∀ u, s'.tables.friendInfo.filter (·.1 = u) ≠ s.tables.friendInfo.filter (·.1 = u) →
        (s.sess 0).userId = u ∧ loggedInAs 0 s.log = some u) ∧
      (s.view.Acts s'.view 0 → loggedInAs 0 s.log = some (s.sess 0).userId) := by
  have hrun : (runIf mayActTest twoUsers [.acceptDone 0 false,
      .receive 0 [.joinReq ⟨lit "ta", lit "a"⟩, .friendsReq ⟨.add, lit "b"⟩],
      .packet ⟨[], [], 1⟩]).bind (fun s =>
        (next s (.packet ⟨[], [], 1⟩)).map fun s' =>
          decide (s.current = some (0, [.friendsReq ⟨.add, lit "b"⟩]) ∧
            mayActTest s (.packet ⟨[], [], 1⟩) = true ∧
            s'.tables.friendInfo.filter (·.1 = lit "a") ≠
              s.tables.friendInfo.filter (·.1 = lit "a"))) = some true := by decide
  obtain ⟨s, hs, hrun⟩ := Option.bind_eq_some_iff.1 hrun
  obtain ⟨s', hs', heq⟩ := Option.map_eq_some_iff.1 hrun
  obtain ⟨hcur, htest, hrows⟩ := of_decide_eq_true heq
  have hreach := reachedBy_of_runIf (fun _ _ => mayAct_of_test) hs
  have hstep := step_of_next hs'
  exact ⟨s, s', hreach, hcur, hstep, hrows,
    acting_requires_login hreach hcur (mayAct_of_test htest) hstep⟩

end ChannelServer
