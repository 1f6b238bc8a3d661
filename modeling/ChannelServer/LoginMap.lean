/-
The login map.

`user_id_map_` says on which session a user is logged in, and each session has a status and a
user id of its own.  `View.LoginOk` says that the two agree.  The handlers do not keep this
up by themselves: a second login on a logged in session, a rank request of a session that is
not logged in, a logout that removes somebody else's entry, and a connection that ends in
`MATCH_APPLY` or with an unusual error all break it.  `Server.KeepsMap` is the condition on
the steps that excludes these, and `login_map_agrees` proves the agreement in all runs that
meet it.
-/
import ChannelServer.Pool

namespace ChannelServer

open Resumption WaitingRoom

/-- The statuses of a session that is logged in. -/
def Status.loggedIn : Status → Bool
  | .login => true
  | .matchRequest => true
  | .matchApply => true
  | .matchRecver => true
  | .matchComplete => true
  | _ => false

namespace View

/-- The login map and the sessions agree. -/
structure LoginOk (v : View) : Prop where
  entry : ∀ u n, v.userIdMap u = some n →
    v.Connected n ∧ v.userId n = u ∧ (v.stat n).loggedIn = true
  mapped : ∀ n, v.Connected n → (v.stat n).loggedIn = true → v.userIdMap (v.userId n) = some n
  no_confirm : ∀ n, v.stat n ≠ .matchConfirm

/-- The event keeps the agreement. -/
def KeepsMap (v : View) : Event → Prop
  | .packet _ =>
      match v.current with
      | some (n, .joinReq _ :: _) => (v.stat n).loggedIn = false ∨ v.isOpen n = false
      | some (n, .logoutReq :: _) =>
          v.redis (v.token n) = none ∨ ∀ m, v.userIdMap (v.userId n) = some m → m = n
      | some (n, .playRankReq :: _) => (v.stat n).loggedIn = true ∨ v.isOpen n = false
      | _ => True
  | .receiveError n live error =>
      live = true → if error = .other then (v.stat n).loggedIn = false else v.stat n ≠ .matchApply
  | _ => True

variable {v w : View} {n : SessionId}

/-- A change after which the same sessions are connected and logged in. -/
lemma LoginOk.congr (hv : v.LoginOk) (hmap : w.userIdMap = v.userIdMap)
    (huser : w.userId = v.userId) (hconn : ∀ k, w.Connected k ↔ v.Connected k)
    (hstat : ∀ k, v.Connected k → (w.stat k).loggedIn = (v.stat k).loggedIn)
    (hconf : ∀ k, w.stat k ≠ .matchConfirm) : w.LoginOk := by
  refine ⟨fun u k hk => ?_, fun k hk hlog => ?_, hconf⟩
  · rw [hmap] at hk
    obtain ⟨hconnk, huserk, hlogk⟩ := hv.entry u k hk
    refine ⟨(hconn k).2 hconnk, ?_, ?_⟩
    · rw [huser]
      exact huserk
    · rw [hstat k hconnk]
      exact hlogk
  · rw [hconn] at hk
    rw [hstat k hk] at hlog
    rw [hmap, huser]
    exact hv.mapped k hk hlog

/-- A session that is not logged in has no entry. -/
lemma LoginOk.entry_ne (hv : v.LoginOk) (hn : (v.stat n).loggedIn = false) {u : Str}
    {m : SessionId} (hm : v.userIdMap u = some m) : m ≠ n := by
  rintro rfl
  have hlog := (hv.entry u m hm).2.2
  rw [hn] at hlog
  cases hlog

/-- One status is set. -/
lemma LoginOk.setStat (hv : v.LoginOk) {st : Status} (hst : st ≠ .matchConfirm)
    (hlog : v.Connected n → st.loggedIn = (v.stat n).loggedIn) : (v.setStat n st).LoginOk := by
  refine hv.congr rfl rfl (fun _ => Iff.rfl) ?_ ?_
  · intro k hk
    show (Function.update v.stat n st k).loggedIn = _
    by_cases hkn : k = n
    · subst hkn
      rw [Function.update_self, hlog hk]
    · rw [Function.update_of_ne hkn]
  · exact (Function.forall_update_iff v.stat fun _ st' => st' ≠ .matchConfirm).2
      ⟨hst, fun k _ => hv.no_confirm k⟩

lemma LoginOk.waitAccept (hv : v.LoginOk) : v.waitAccept.LoginOk := by
  obtain ⟨flag, queue, accepts, new, -, h⟩ := v.waitAccept_eq
  rw [h]
  exact ⟨hv.entry, hv.mapped, hv.no_confirm⟩

lemma Served.login {r : QueId} {b : Bool} (h : v.Served r w b) :
    w.userIdMap = v.userIdMap ∧ w.userId = v.userId := by
  cases h <;> exact ⟨rfl, rfl⟩

/-- Serving a queue only moves sessions from `MATCH_REQUEST` to `MATCH_COMPLETE`. -/
lemma LoginOk.served {r : QueId} {b : Bool} (hv : v.LoginOk) (h : v.Served r w b) : w.LoginOk := by
  refine hv.congr h.login.1 h.login.2 h.samePool.connected ?_ ?_
  · intro k _
    rcases h.stat k with hst | ⟨hst, hwait⟩
    · rw [hst]
    · simp only [View.waiting, Bool.and_eq_true, decide_eq_true_eq] at hwait
      rw [hst, hwait.2]
      rfl
  · intro k
    rcases h.stat k with hst | ⟨hst, -⟩
    · rw [hst]
      exact hv.no_confirm k
    · rw [hst]
      simp

lemma LoginOk.relayed {message : MatchWithFriendsRelay} (hv : v.LoginOk)
    (h : v.Relayed n message w) : w.LoginOk := by
  cases h with
  | refused => exact hv
  | self hself =>
    refine hv.setStat (by simp) fun _ => ?_
    rw [(hv.entry _ _ hself).2.2]
    rfl
  | @accept m uuid _ _ hne hn hm _ =>
    have hboth : ((v.setStat n .matchComplete).setStat m .matchComplete).LoginOk := by
      refine (hv.setStat (by simp) fun _ => by rw [hn]; rfl).setStat (by simp) fun _ => ?_
      show _ = (Function.update v.stat n _ m).loggedIn
      rw [Function.update_of_ne hne, hm]
      rfl
    exact ⟨hboth.entry, hboth.mapped, hboth.no_confirm⟩
  | @apply m _ _ hne hn hm =>
    have hboth : ((v.setStat n .matchApply).setStat m .matchRecver).LoginOk := by
      refine (hv.setStat (by simp) fun _ => by rw [hn]; rfl).setStat (by simp) fun _ => ?_
      show _ = (Function.update v.stat n _ m).loggedIn
      rw [Function.update_of_ne hne, hm]
      rfl
    exact ⟨hboth.entry, hboth.mapped, hboth.no_confirm⟩
  | @deny m _ _ hne hn hm =>
    refine (hv.setStat (by simp) fun _ => by rw [hn]; rfl).setStat (by simp) fun _ => ?_
    show _ = (Function.update v.stat n _ m).loggedIn
    rw [Function.update_of_ne hne, hm]
    rfl

/-- The end of `close_session`, when no entry is left for the session. -/
lemma LoginOk.finishClose (hp : v.PoolOk)
    (hentry : ∀ u k, v.userIdMap u = some k →
      k ≠ n ∧ v.Connected k ∧ v.userId k = u ∧ (v.stat k).loggedIn = true)
    (hmapped : ∀ k, k ≠ n → v.Connected k → (v.stat k).loggedIn = true →
      v.userIdMap (v.userId k) = some k)
    (hconf : ∀ k, k ≠ n → v.stat k ≠ .matchConfirm) : (v.finishClose n).LoginOk := by
  have hnodup : v.active.Nodup := (List.nodup_append.1 hp.nodup).2.1
  have hreleased : (v.release n).LoginOk := by
    refine ⟨fun u k hk => ?_, fun k hk hlog => ?_, fun k => ?_⟩
    · obtain ⟨hkn, ⟨hact, hread⟩, huser, hlog⟩ := hentry u k hk
      refine ⟨⟨hnodup.mem_erase_iff.2 ⟨hkn, hact⟩, hread⟩, huser, ?_⟩
      show (Function.update v.stat n .wait k).loggedIn = true
      rwa [Function.update_of_ne hkn]
    · obtain ⟨hact, hread⟩ := hk
      obtain ⟨hkn, hact⟩ := hnodup.mem_erase_iff.1 hact
      have hlog' : (Function.update v.stat n .wait k).loggedIn = true := hlog
      rw [Function.update_of_ne hkn] at hlog'
      exact hmapped k hkn ⟨hact, hread⟩ hlog'
    · exact (Function.forall_update_iff v.stat fun _ st => st ≠ .matchConfirm).2
        ⟨by simp, hconf⟩ k
  exact finishClose_of_release (fun w hw => hw.waitAccept) hreleased

/-- A session is closed whose own entry is removed first. -/
lemma LoginOk.finishClose_own (hp : v.PoolOk) (hown : v.userIdMap (v.userId n) = some n)
    (hentry : ∀ u k, v.userIdMap u = some k →
      v.userId k = u ∧ (k ≠ n → v.Connected k ∧ (v.stat k).loggedIn = true))
    (hmapped : ∀ k, k ≠ n → v.Connected k → (v.stat k).loggedIn = true →
      v.userIdMap (v.userId k) = some k)
    (hconf : ∀ k, k ≠ n → v.stat k ≠ .matchConfirm) :
    ((v.eraseUser (v.userId n)).finishClose n).LoginOk := by
  refine LoginOk.finishClose (v := v.eraseUser (v.userId n)) hp.of_keys ?_ ?_ hconf
  · intro u k hk
    have hk' : Function.update v.userIdMap (v.userId n) none u = some k := hk
    have hu : u ≠ v.userId n := by
      rintro rfl
      simp at hk'
    rw [Function.update_of_ne hu] at hk'
    obtain ⟨huser, hrest⟩ := hentry u k hk'
    -- the entry of `n` is the one that was removed
    have hkn : k ≠ n := by
      rintro rfl
      exact hu huser.symm
    exact ⟨hkn, (hrest hkn).1, huser, (hrest hkn).2⟩
  · intro k hkn hconn hlog
    have hk := hmapped k hkn hconn hlog
    show Function.update v.userIdMap (v.userId n) none (v.userId k) = some k
    rw [Function.update_of_ne, hk]
    intro heq
    rw [heq, hown] at hk
    exact hkn (Option.some.inj hk).symm

/-- A session is closed in a status in which `close_session` does not return at once.  Its
reads have ended, so it may be the one session that is logged in without being connected. -/
lemma LoginOk.close (hp : v.PoolOk) (hcloses : (v.stat n).closes)
    (hentry : ∀ u k, v.userIdMap u = some k → v.userId k = u ∧
      (k = n → (v.stat n).loggedIn = true ∨ v.stat n = .matchConfirm) ∧
      (k ≠ n → v.Connected k ∧ (v.stat k).loggedIn = true))
    (hown : (v.stat n).loggedIn = true ∨ v.stat n = .matchConfirm →
      v.userIdMap (v.userId n) = some n)
    (hmapped : ∀ k, k ≠ n → v.Connected k → (v.stat k).loggedIn = true →
      v.userIdMap (v.userId k) = some k)
    (hconf : ∀ k, k ≠ n → v.stat k ≠ .matchConfirm) : (v.close n).LoginOk := by
  have hentry' : ∀ u k, v.userIdMap u = some k →
      v.userId k = u ∧ (k ≠ n → v.Connected k ∧ (v.stat k).loggedIn = true) :=
    fun u k hk => ⟨(hentry u k hk).1, (hentry u k hk).2.2⟩
  have hforget : v.userIdMap (v.userId n) = some n → ((v.forget n).finishClose n).LoginOk :=
    fun hown => LoginOk.finishClose_own (v := v.eraseKey (v.token n)) hp.of_keys hown hentry'
      hmapped hconf
  have hplain : (v.stat n).loggedIn = false → v.stat n ≠ .matchConfirm →
      (v.finishClose n).LoginOk := by
    intro hlog hst
    refine LoginOk.finishClose hp (fun u k hk => ?_) hmapped hconf
    obtain ⟨huser, hself, hother⟩ := hentry u k hk
    -- an entry of `n` would make it a session that is logged in
    have hkn : k ≠ n := by
      intro hkn
      rcases hself hkn with h | h
      · rw [hlog] at h
        cases h
      · exact hst h
    exact ⟨hkn, (hother hkn).1, huser, (hother hkn).2⟩
  unfold View.close
  cases hst : v.stat n with
  | wait => exact absurd hst hcloses.1
  | matchApply => exact absurd hst hcloses.2
  | conn | logout => exact hplain (by rw [hst]; rfl) (by rw [hst]; simp)
  | login | matchRecver | matchRequest => exact hforget (hown (Or.inl (by rw [hst]; rfl)))
  | matchConfirm =>
    exact LoginOk.finishClose_own hp (hown (Or.inr hst)) hentry' hmapped hconf
  | matchComplete =>
    have hown := hown (Or.inl (by rw [hst]; rfl))
    exact LoginOk.finishClose_own (v := (v.eraseKey (v.roomKey n)).eraseKey (v.token n))
      hp.of_keys hown hentry' hmapped hconf

/-- A user logs in on a connected session that is not logged in. -/
lemma LoginOk.login (hv : v.LoginOk) {token id : Str} {rating : ℤ} (hconn : v.Connected n)
    (hlog : (v.stat n).loggedIn = false) (hid : v.userIdMap id = none) :
    (v.login n token id rating).LoginOk := by
  refine ⟨fun u k hu => ?_, fun k hk hlogk => ?_, ?_⟩
  · have hu' : Function.update v.userIdMap id (some n) u = some k := hu
    by_cases hid' : u = id
    · subst hid'
      rw [Function.update_self] at hu'
      obtain rfl := Option.some.inj hu'
      refine ⟨hconn, Function.update_self _ _ _, ?_⟩
      show (Function.update v.stat n .login n).loggedIn = true
      rw [Function.update_self]
      rfl
    · -- the entries of the other users belong to other sessions
      rw [Function.update_of_ne hid'] at hu'
      have hkn : k ≠ n := hv.entry_ne hlog hu'
      obtain ⟨hconnk, huserk, hlogk⟩ := hv.entry u k hu'
      refine ⟨hconnk, ?_, ?_⟩
      · show Function.update v.userId n id k = u
        rwa [Function.update_of_ne hkn]
      · show (Function.update v.stat n .login k).loggedIn = true
        rwa [Function.update_of_ne hkn]
  · show Function.update v.userIdMap id (some n) (Function.update v.userId n id k) = some k
    by_cases hkn : k = n
    · subst hkn
      rw [Function.update_self, Function.update_self]
    · have hlogk' : (Function.update v.stat n .login k).loggedIn = true := hlogk
      rw [Function.update_of_ne hkn] at hlogk'
      have hmapped := hv.mapped k hk hlogk'
      -- `id` had no entry, so it is not the user of another session
      rw [Function.update_of_ne hkn, Function.update_of_ne, hmapped]
      intro heq
      rw [heq, hid] at hmapped
      cases hmapped
  · exact (Function.forall_update_iff v.stat fun _ st => st ≠ .matchConfirm).2
      ⟨by simp, fun k _ => hv.no_confirm k⟩

/-- A session logs out whose user id is not stored for another session. -/
lemma LoginOk.logout (hv : v.LoginOk) (hown : ∀ m, v.userIdMap (v.userId n) = some m → m = n) :
    ((v.forget n).setStat n .logout).LoginOk := by
  refine ⟨fun u k hu => ?_, fun k hk hlogk => ?_, ?_⟩
  · have hu' : Function.update v.userIdMap (v.userId n) none u = some k := hu
    have hune : u ≠ v.userId n := by
      rintro rfl
      simp at hu'
    rw [Function.update_of_ne hune] at hu'
    obtain ⟨hconnk, huserk, hlogk⟩ := hv.entry u k hu'
    have hkn : k ≠ n := by
      rintro rfl
      exact hune huserk.symm
    refine ⟨hconnk, huserk, ?_⟩
    show (Function.update v.stat n .logout k).loggedIn = true
    rwa [Function.update_of_ne hkn]
  · have hlogk' : (Function.update v.stat n .logout k).loggedIn = true := hlogk
    have hkn : k ≠ n := by
      rintro rfl
      rw [Function.update_self] at hlogk'
      cases hlogk'
    rw [Function.update_of_ne hkn] at hlogk'
    have hmapped := hv.mapped k hk hlogk'
    show Function.update v.userIdMap (v.userId n) none (v.userId k) = some k
    rw [Function.update_of_ne, hmapped]
    intro heq
    rw [heq] at hmapped
    exact hkn (hown k hmapped)
  · exact (Function.forall_update_iff v.stat fun _ st => st ≠ .matchConfirm).2
      ⟨by simp, fun k _ => hv.no_confirm k⟩

/-- A connection that is accepted is not logged in. -/
lemma LoginOk.accept (hp : v.PoolOk) (hv : v.LoginOk) (hn : n ∈ v.accepts) :
    (View.accept ({ v with accepts := v.accepts.erase n }.setOpen n true) n).LoginOk := by
  have hnact : n ∉ v.active := hp.not_active_of_accepts hn
  refine LoginOk.waitAccept ⟨fun u k hu => ?_, fun k hk hlogk => ?_, ?_⟩
  · obtain ⟨⟨hact, hread⟩, huserk, hlogk⟩ := hv.entry u k hu
    have hkn : k ≠ n := by
      rintro rfl
      exact hnact hact
    refine ⟨⟨List.mem_append_left _ hact, ?_⟩, huserk, ?_⟩
    · exact hread.imp_left (List.mem_append_left _)
    · show (Function.update v.stat n .conn k).loggedIn = true
      rwa [Function.update_of_ne hkn]
  · have hlogk' : (Function.update v.stat n .conn k).loggedIn = true := hlogk
    have hkn : k ≠ n := by
      rintro rfl
      rw [Function.update_self] at hlogk'
      cases hlogk'
    rw [Function.update_of_ne hkn] at hlogk'
    obtain ⟨hact, hread⟩ := hk
    have hact' : k ∈ v.active ++ [n] := hact
    refine hv.mapped k ⟨by simpa [hkn] using hact', hread.imp_left fun hread => ?_⟩ hlogk'
    have hread' : (⟨k, true⟩ : Read) ∈ v.reads ++ [⟨n, Function.update v.isOpen n true n⟩] := hread
    simpa [hkn] using hread'
  · exact (Function.forall_update_iff v.stat fun _ st => st ≠ .matchConfirm).2
      ⟨by simp, fun k _ => hv.no_confirm k⟩

/-- The next packet of a packet loop. -/
lemma LoginOk.nextPacket {ps rest : List Packet} (hv : v.LoginOk)
    (hcur : v.current = some (n, ps)) : LoginOk { v with current := some (n, rest) } :=
  hv.congr rfl rfl (fun k => and_congr_right fun _ => beingRead_nextPacket hcur k)
    (fun _ _ => rfl) hv.no_confirm

end View

/-- **The login map**, one packet. -/
lemma PacketStep.loginOk {v w : View} {n : SessionId} {p : Packet} {rest : List Packet}
    (h : PacketStep v n p w) (hcur : v.current = some (n, rest)) (hp : v.PoolOk) (hv : v.LoginOk)
    (hk : ∀ answers, View.KeepsMap { v with current := some (n, p :: rest) } (.packet answers)) :
    w.LoginOk := by
  have hk := hk ⟨[], [], 0⟩
  simp only [View.KeepsMap] at hk
  cases h with
  | config _ | other _ | notJoined _ | notLoggedOut _ | notConfirmed _ => exact hv
  | burnt _ _ _ => exact ⟨hv.entry, hv.mapped, hv.no_confirm⟩
  | friends h => cases h <;> exact ⟨hv.entry, hv.mapped, hv.no_confirm⟩
  | relayed h => exact hv.relayed h
  | @ranked u b h =>
    -- a session that was closed in its loop is not connected, and may ask as it likes
    have hlog : v.Connected n → (v.stat n).loggedIn = true := by
      intro hconn
      refine hk.resolve_right fun hclosed => ?_
      have hopen := (hp.isOpen_iff n).2 hconn.1
      rw [show v.isOpen n = false from hclosed] at hopen
      cases hopen
    have hset : (v.setStat n .matchRequest).LoginOk :=
      hv.setStat (by simp) fun hconn => by rw [hlog hconn]; rfl
    have henter : (v.enter n (checkRating (v.rating n)).que).LoginOk :=
      ⟨hset.entry, hset.mapped, hset.no_confirm⟩
    have hserved := henter.served h
    rcases u.armUnless_cases n b with h | h <;> rw [h]
    · exact ⟨hserved.entry, hserved.mapped, hserved.no_confirm⟩
    · exact hserved
  | refused hopen _ =>
    have hlog : (v.stat n).loggedIn = false :=
      hk.resolve_right fun hclosed => absurd (hopen.symm.trans hclosed) (by simp)
    exact hv.setStat (by simp) fun _ => by rw [hlog]; rfl
  | @joined message id rating hopen hkv hid =>
    have hlog : (v.stat n).loggedIn = false :=
      hk.resolve_right fun hclosed => absurd (hopen.symm.trans hclosed) (by simp)
    exact hv.login ⟨(hp.isOpen_iff n).1 hopen, Or.inr ⟨rest, hcur⟩⟩ hlog hid
  | @loggedOut id hkv =>
    have hown : ∀ m, v.userIdMap (v.userId n) = some m → m = n :=
      hk.resolve_left fun hnone => absurd (hkv.symm.trans hnone) (by simp)
    have hlogout := hv.logout hown
    exact ⟨hlogout.entry, hlogout.mapped, hlogout.no_confirm⟩
  | confirmed hst =>
    -- `MATCH_CONFIRM` lasts until the session is closed, within the same handler
    have hact := hp.active_of_complete hcur hst
    have hown : v.userIdMap (v.userId n) = some n :=
      hv.mapped n ⟨hact, Or.inr ⟨rest, hcur⟩⟩ (by rw [hst]; rfl)
    have hstn : (v.setStat n .matchConfirm).stat n = .matchConfirm := Function.update_self _ _ _
    have hstk : ∀ k, k ≠ n → (v.setStat n .matchConfirm).stat k = v.stat k := fun k hkn =>
      Function.update_of_ne hkn _ _
    refine View.LoginOk.close (hp.setConfirm hcur hst) ?_ ?_ (fun _ => hown) ?_ ?_
    · rw [hstn]
      simp [Status.closes]
    · intro u k hu
      obtain ⟨hconnk, huserk, hlogk⟩ := hv.entry u k hu
      refine ⟨huserk, fun _ => Or.inr hstn, fun hkn => ⟨hconnk, ?_⟩⟩
      rw [hstk k hkn]
      exact hlogk
    · intro k hkn hconn hlogk
      rw [hstk k hkn] at hlogk
      exact hv.mapped k hconn hlogk
    · intro k hkn
      rw [hstk k hkn]
      exact hv.no_confirm k

/-- **The login map**, one step. -/
theorem ViewStep.loginOk {v w : View} {e : Event} (h : ViewStep v e w) (hp : v.PoolOk)
    (hv : v.LoginOk) (hk : v.KeepsMap e) : w.LoginOk := by
  cases h with
  | startAccept _ _ => exact View.LoginOk.waitAccept ⟨hv.entry, hv.mapped, hv.no_confirm⟩
  | acceptFailed _ _ | writeDone _ | world => exact ⟨hv.entry, hv.mapped, hv.no_confirm⟩
  | accepted _ hn => exact hv.accept hp hn
  | @receive n packets hcur hread =>
    refine hv.congr rfl rfl (fun k => ?_) (fun _ _ => rfl) hv.no_confirm
    exact and_congr_right fun _ => View.beingRead_receive hcur hread k
  | @packet n p rest answers _ hcur hpacket =>
    refine hpacket.loginOk rfl (hp.nextPacket hcur) (hv.nextPacket hcur) fun answers' => ?_
    simp only [View.KeepsMap, hcur] at hk ⊢
    exact hk
  | @receiveEnd n hcur =>
    refine hv.congr rfl rfl (fun k => ?_) (fun _ _ => rfl) hv.no_confirm
    exact and_congr_right fun hact => hp.beingRead_receiveEnd hcur hact
  | @readFailed n live hcur hread =>
    have hconn : ∀ k, (k = n → live = false) →
        (View.Connected { v with reads := v.reads.erase ⟨n, live⟩ } k ↔ v.Connected k) := by
      intro k hkn
      refine and_congr_right fun _ => or_congr_left ?_
      refine List.mem_erase_of_ne ?_
      rintro heq
      obtain ⟨rfl, hlive⟩ := Read.mk.inj heq
      rw [hkn rfl] at hlive
      cases hlive
    cases live with
    | false => exact hv.congr rfl rfl (fun k => hconn k fun _ => rfl) (fun _ _ => rfl) hv.no_confirm
    | true =>
      -- the session that is given up is not logged in
      have hlog : (v.stat n).loggedIn = false := by
        have hk' := hk rfl
        simpa using hk'
      refine ⟨fun u k hu => ?_, fun k hk' hlogk => ?_, hv.no_confirm⟩
      · have hkn := hv.entry_ne hlog hu
        obtain ⟨hconnk, hrest⟩ := hv.entry u k hu
        exact ⟨(hconn k fun h => absurd h hkn).2 hconnk, hrest⟩
      · have hkn : k ≠ n := by
          rintro rfl
          rw [hlog] at hlogk
          cases hlogk
        exact hv.mapped k ((hconn k fun h => absurd h hkn).1 hk') hlogk
  | @disconnected n error hcur hread herror =>
    have hact := hp.read_active n hread
    have hconn : ∀ k, k ≠ n →
        (View.Connected { v with reads := v.reads.erase ⟨n, true⟩ } k ↔ v.Connected k) := by
      intro k hkn
      refine and_congr_right fun _ => or_congr_left (List.mem_erase_of_ne ?_)
      simp [hkn]
    have happly : v.stat n ≠ .matchApply := by
      have hk' := hk rfl
      rwa [if_neg herror] at hk'
    refine View.LoginOk.close (hp.eraseRead _) ⟨hp.active_stat n hact, happly⟩ ?_ ?_ ?_ ?_
    · intro u k hu
      obtain ⟨hconnk, huserk, hlogk⟩ := hv.entry u k hu
      refine ⟨huserk, ?_, fun hkn => ⟨(hconn k hkn).2 hconnk, hlogk⟩⟩
      rintro rfl
      exact Or.inl hlogk
    · rintro (hlog | hst)
      · exact hv.mapped n ⟨hact, Or.inl hread⟩ hlog
      · exact absurd hst (hv.no_confirm n)
    · intro k hkn hk' hlogk
      exact hv.mapped k ((hconn k hkn).1 hk') hlogk
    · intro k _
      exact hv.no_confirm k
  | timerIdle _ _ => exact ⟨hv.entry, hv.mapped, hv.no_confirm⟩
  | @timerWiden n i answers _ b hcur hst hserved =>
    have hwiden : (View.widen { v with
        waits := Function.update v.waits n ((v.waits n).eraseIdx i) } n).LoginOk :=
      ⟨hv.entry, hv.mapped, hv.no_confirm⟩
    exact hwiden.served hserved

/-- The login request of the event fails at the database. -/
def Server.JoinFails (s : Server) (e : Event) : Prop :=
  ∃ answers n message rest id, e = .packet answers ∧
    s.current = some (n, .joinReq message :: rest) ∧ s.redis message.token = some id ∧
    s.userIdMap id = none ∧ LoginFails s answers id

/-- The event keeps the agreement of the login map and the sessions. -/
def Server.KeepsMap (s : Server) (e : Event) : Prop := s.view.KeepsMap e ∨ s.JoinFails e

/-- A login request that fails at the database changes redis at most. -/
lemma Step.view_of_joinFails {s s' : Server} {e : Event} (h : Step s e s')
    (hfails : s.JoinFails e) :
    ∃ n ps rest redis, s.current = some (n, ps) ∧
      s'.view = { s.view with current := some (n, rest), redis := redis } := by
  obtain ⟨answers, n, message, rest, id, rfl, hcur, hkv, hid, hfails⟩ := hfails
  obtain ⟨t, hprep, hrun⟩ := step_iff.1 h
  simp only [prepare, hcur, Option.some.injEq] at hprep
  subst hprep
  simp only [handler, hcur] at hrun
  obtain ⟨b, s₁, h₁, hrun⟩ := Prog.run_bind_eq_done.1 hrun
  obtain ⟨-, rfl⟩ := Out.done.inj hrun
  have hview := view_lobbyLoginProcess_fails (s := { s with
    current := some (n, rest), answers := answers }) hkv hid hfails h₁
  rcases hview with hview | hview
  · exact ⟨n, _, rest, s.redis, hcur, hview⟩
  · exact ⟨n, _, rest, _, hcur, hview⟩

/-- A login request that fails at the database keeps the agreement. -/
lemma Step.loginOk_of_joinFails {s s' : Server} {e : Event} (h : Step s e s')
    (hv : s.view.LoginOk) (hfails : s.JoinFails e) : s'.view.LoginOk := by
  obtain ⟨n, ps, rest, redis, hcur, hview⟩ := h.view_of_joinFails hfails
  have hv' : View.LoginOk { s.view with current := some (n, rest) } := hv.nextPacket hcur
  rw [hview]
  exact ⟨hv'.entry, hv'.mapped, hv'.no_confirm⟩

/-- **The login map and the sessions agree** in runs whose steps keep the agreement: an entry
belongs to a connected session that has this user id and is logged in, and a connected
session that is logged in is stored under its user id. -/
theorem login_map_agrees {s : Server} (h : ReachedBy (fun s e => s.KeepsMap e) s) :
    (∀ u n, s.userIdMap u = some n →
      (n ∈ s.active ∧ (⟨n, true⟩ ∈ s.reads ∨ ∃ ps, s.current = some (n, ps))) ∧
        (s.sess n).userId = u ∧ (s.sess n).stat.loggedIn = true) ∧
    ∀ n, (n ∈ s.active ∧ (⟨n, true⟩ ∈ s.reads ∨ ∃ ps, s.current = some (n, ps))) →
      (s.sess n).stat.loggedIn = true → s.userIdMap (s.sess n).userId = some n := by
  have hok : s.view.LoginOk := by
    refine Runs.Reached.invariant (I := fun s => s.view.LoginOk) ?_ ?_ h
    · intro s hs
      obtain ⟨b, hv⟩ := hs.view_eq
      rw [hv]
      refine View.LoginOk.waitAccept ⟨?_, ?_, ?_⟩
      · rintro u n hu
        cases hu
      · rintro n ⟨hact, -⟩
        cases hact
      · intro n
        show Status.wait ≠ .matchConfirm
        simp
    · rintro s e s' hr hv hk hstep
      rcases hk with hk | hfails
      · exact (view_step hstep).loginOk (Reachable.poolOk hr.unconditional) hv hk
      · exact Step.loginOk_of_joinFails hstep hv hfails
  exact ⟨hok.entry, hok.mapped⟩

/-! ### Two users on one connection -/

/-- Two sessions, and two users `a` and `b` with the tokens `ta` and `tb`. -/
def twoUsers : Boot :=
  Boot.plain 2 1
    (fun token => if token = lit "ta" then some (lit "a")
      else if token = lit "tb" then some (lit "b") else none)
    ⟨[⟨lit "a", 3, 1, 350⟩, ⟨lit "b", 0, 2, 250⟩], []⟩

/-- A client logs in as `a` and then, on the same connection, as `b`, and disconnects: the
entry of `a` still names the session, which is not connected any more. -/
theorem login_map_stale :
    ∃ s, Reachable s ∧ s.userIdMap (lit "a") = some 0 ∧ 0 ∉ s.active := by
  have hrun : (run twoUsers [.acceptDone 0 false,
      .receive 0 [.joinReq ⟨lit "ta", lit "a"⟩, .joinReq ⟨lit "tb", lit "b"⟩],
      .packet ⟨[], [], 1⟩, .packet ⟨[], [], 1⟩, .receiveEnd, .receiveError 0 true .eof]).map
      (fun s => (s.userIdMap (lit "a"), s.active)) = some (some 0, []) := by decide
  obtain ⟨s, hs, heq⟩ := Option.map_eq_some_iff.1 hrun
  obtain ⟨hmap, hact⟩ := Prod.mk.inj heq
  exact ⟨s, reachable_of_run hs, hmap, by simp [hact]⟩

/-- `KeepsMap` as a computation, for the events of an example. -/
private def keepsMapTest (s : Server) : Event → Bool
  | .acceptDone _ _ => true
  | .receive _ _ => true
  | .packet _ =>
      match s.current with
      | some (n, .joinReq _ :: _) => !(s.sess n).stat.loggedIn
      | _ => false
  | _ => false

/-- A client logs in as `a`. -/
theorem login_map_agrees_one_user :
    ∃ s, runIf keepsMapTest twoUsers [.acceptDone 0 false,
        .receive 0 [.joinReq ⟨lit "ta", lit "a"⟩], .packet ⟨[], [], 1⟩] = some s ∧
      s.userIdMap (lit "a") = some 0 ∧
      (∀ u n, s.userIdMap u = some n →
        (n ∈ s.active ∧ (⟨n, true⟩ ∈ s.reads ∨ ∃ ps, s.current = some (n, ps))) ∧
          (s.sess n).userId = u ∧ (s.sess n).stat.loggedIn = true) ∧
      ∀ n, (n ∈ s.active ∧ (⟨n, true⟩ ∈ s.reads ∨ ∃ ps, s.current = some (n, ps))) →
        (s.sess n).stat.loggedIn = true → s.userIdMap (s.sess n).userId = some n := by
  have htest : ∀ s e, keepsMapTest s e = true → s.KeepsMap e := by
    intro s e h
    refine Or.inl ?_
    cases e with
    | acceptDone _ _ | receive _ _ => trivial
    | packet answers =>
      simp only [keepsMapTest] at h
      split at h
      · rename_i n message rest hcur
        have hcur' : s.view.current = some (n, .joinReq message :: rest) := hcur
        have hlog : (s.sess n).stat.loggedIn = false := by simpa using h
        simp only [View.KeepsMap, hcur']
        exact Or.inl hlog
      · cases h
    | startAccept | receiveEnd | receiveError _ _ _ | timer _ _ _ | writeDone _ _ | world _ _ =>
      cases h
  have hrun : (runIf keepsMapTest twoUsers [.acceptDone 0 false,
      .receive 0 [.joinReq ⟨lit "ta", lit "a"⟩], .packet ⟨[], [], 1⟩]).map
      (fun s => s.userIdMap (lit "a")) = some (some 0) := by decide
  obtain ⟨s, hs, hmap⟩ := Option.map_eq_some_iff.1 hrun
  exact ⟨s, hs, hmap, login_map_agrees (reachedBy_of_runIf htest hs)⟩

end ChannelServer
