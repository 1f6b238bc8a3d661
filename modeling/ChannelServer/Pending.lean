/-
Sessions that wait for an answer.

An invitation puts two sessions in the statuses `MATCH_APPLY` and `MATCH_RECVER`, and an answer
releases both.  But each of them can leave its status alone, through a logout, a disconnection, a
rank request, a JOIN_REQ that is refused or a packet to itself, and the answer of the receiver may
name somebody else; the partner then waits for ever.  `Server.KeepsPairs` is the condition on the
steps that excludes these, and `pending_sessions_paired` proves that the sessions of the two
statuses are in bijection in all runs that meet it, and that each pair can still be released.
-/
import ChannelServer.Invitations
import ChannelServer.LoginMap
import ChannelServer.Locks

namespace ChannelServer

open Resumption WaitingRoom

namespace View

/-! ### Pairs -/

/-- The session `a` waits for the answer of `r`: both are connected, `r` received the latest
invitation of `a`, that invitation is the latest one `r` received, and `r` can name `a`. -/
structure Pair (v : View) (a r : SessionId) : Prop where
  applicant : v.stat a = .matchApply
  receiver : v.stat r = .matchRecver
  connected_applicant : v.Connected a
  connected_receiver : v.Connected r
  applied : (invitations v.log).find? (fun i => i.1 = a) = some (a, r)
  received : (invitations v.log).find? (fun i => i.2 = r) = some (a, r)
  named : ∃ id, v.userIdMap id = some a

/-- Every session that is pending has its partner. -/
structure PairsOk (v : View) : Prop where
  applicant : ∀ a, v.stat a = .matchApply → ∃ r, v.Pair a r
  receiver : ∀ r, v.stat r = .matchRecver → ∃ a, v.Pair a r

/-- Without the entry of a user id, the sessions in `MATCH_APPLY` can still be named. -/
def Names (v : View) (u : Str) : Prop :=
  ∀ a, v.stat a = .matchApply → ∃ id, id ≠ u ∧ v.userIdMap id = some a

/-- The event separates no pair. -/
def KeepsPairs (v : View) : Event → Prop
  | .packet _ =>
      match v.current with
      | some (n, .joinReq _ :: _) => (v.stat n).pending = false ∨ v.isOpen n = false
      | some (n, .logoutReq :: _) =>
          v.redis (v.token n) = none ∨ (v.stat n).pending = false ∧ v.Names (v.userId n)
      | some (n, .playRankReq :: _) => (v.stat n).pending = false
      | some (n, .matchConfirm :: _) => v.stat n = .matchComplete → v.Names (v.userId n)
      | some (n, .playFriendsRel message :: _) =>
          ∀ m, v.userIdMap message.targetId = some m →
            if m = n then (v.stat n).pending = false
            else if message.type = .apply then
              v.stat n = .login → v.stat m = .login →
                v.Connected n ∧ v.Connected m ∧ ∃ id, v.userIdMap id = some n
            else
              v.stat n = .matchRecver → v.stat m = .matchApply →
                (invitations v.log).find? (fun i => i.2 = n) = some (m, n)
      | _ => True
  | .receiveError n live error =>
      live = true → (v.stat n).pending = false ∧
        (error = .other ∨ v.stat n = .conn ∨ v.stat n = .logout ∨ v.Names (v.userId n))
  | _ => True

variable {u v w : View} {a r n m : SessionId}

/-- Every applicant has one partner. -/
lemma Pair.receiver_unique {r' : SessionId} (h : v.Pair a r) (h' : v.Pair a r') : r = r' :=
  (Prod.mk.inj (Option.some.inj (h.applied.symm.trans h'.applied))).2

/-- Every receiver has one partner. -/
lemma Pair.applicant_unique {a' : SessionId} (h : v.Pair a r) (h' : v.Pair a' r) : a = a' :=
  (Prod.mk.inj (Option.some.inj (h.received.symm.trans h'.received))).1

lemma PairsOk.connected (hv : v.PairsOk) {k : SessionId} (hk : (v.stat k).pending = true) :
    v.Connected k := by
  cases hst : v.stat k with
  | matchApply =>
    obtain ⟨r, hr⟩ := hv.applicant k hst
    exact hr.connected_applicant
  | matchRecver =>
    obtain ⟨a, ha⟩ := hv.receiver k hst
    exact ha.connected_receiver
  | wait | conn | login | logout | matchRequest | matchComplete | matchConfirm =>
    rw [hst] at hk
    cases hk

/-! ### Steps that leave the pairs alone -/

/-- The step leaves the sessions that are pending as they are, and makes nobody pending. -/
structure KeepsPending (v w : View) : Prop where
  uninvited : v.Uninvited w
  stat : ∀ k, (v.stat k).pending = true → w.stat k = v.stat k
  connected : ∀ k, (v.stat k).pending = true → v.Connected k → w.Connected k
  named : ∀ a, v.stat a = .matchApply → (∃ id, v.userIdMap id = some a) →
    ∃ id, w.userIdMap id = some a

lemma KeepsPending.refl (v : View) : v.KeepsPending v :=
  ⟨.refl v, fun _ _ => rfl, fun _ _ h => h, fun _ _ h => h⟩

lemma KeepsPending.trans (h₁ : u.KeepsPending v) (h₂ : v.KeepsPending w) : u.KeepsPending w := by
  refine ⟨h₁.uninvited.trans h₂.uninvited, fun k hk => ?_, fun k hk hconn => ?_, fun a ha hid => ?_⟩
  · have hv := h₁.stat k hk
    exact (h₂.stat k (by rwa [hv])).trans hv
  · exact h₂.connected k (by rwa [h₁.stat k hk]) (h₁.connected k hk hconn)
  · have hv := h₁.stat a (by rw [ha]; rfl)
    exact h₂.named a (hv.trans ha) (h₁.named a ha hid)

/-- A change that leaves statuses, connections and the login map alone. -/
lemma KeepsPending.of_stat (hstat : w.stat = v.stat) (hconn : ∀ k, v.Connected k → w.Connected k)
    (hmap : w.userIdMap = v.userIdMap) (new : List Mark) (hlog : w.log = new ++ v.log)
    (hnew : invitations new = []) : v.KeepsPending w :=
  ⟨.of_stat hstat new hlog hnew, fun k _ => by rw [hstat], fun k _ => hconn k,
    fun a _ h => by rwa [hmap]⟩

/-- The status of a session that is not pending is set. -/
lemma KeepsPending.setStat (hn : (v.stat n).pending = false) {st : Status}
    (hst : st.pending = false) : v.KeepsPending (v.setStat n st) := by
  refine ⟨.setStat v n st hst, fun k hk => ?_, fun _ _ h => h, fun _ _ h => h⟩
  rw [setStat_stat, if_neg]
  rintro rfl
  rw [hn] at hk
  cases hk

lemma KeepsPending.eraseUser {u : Str} (hu : v.Names u) : v.KeepsPending (v.eraseUser u) := by
  refine ⟨.of_stat rfl [] rfl rfl, fun _ _ => rfl, fun _ _ h => h, fun a ha _ => ?_⟩
  obtain ⟨id, hid, hmap⟩ := hu a ha
  exact ⟨id, (Function.update_of_ne hid _ _).trans hmap⟩

lemma KeepsPending.waitAccept (v : View) : v.KeepsPending v.waitAccept := by
  obtain ⟨flag, queue, accepts, new, hnew, h⟩ := v.waitAccept_eq
  rw [h]
  exact .of_stat rfl (fun _ h => h) rfl new rfl (invitations_accepts hnew)

/-- A session that is not pending is released. -/
lemma KeepsPending.finishClose (hnodup : v.active.Nodup) (hn : (v.stat n).pending = false) :
    v.KeepsPending (v.finishClose n) := by
  have hreleased : v.KeepsPending (v.release n) := by
    refine ⟨?_, fun k hk => ?_, fun k hk hconn => ?_, fun _ _ h => h⟩
    · exact (Uninvited.setStat v n .wait rfl).trans (.of_stat rfl [] rfl rfl)
    · show Function.update v.stat n .wait k = _
      rw [Function.update_of_ne]
      rintro rfl
      rw [hn] at hk
      cases hk
    · have hkn : k ≠ n := by
        rintro rfl
        rw [hn] at hk
        cases hk
      exact ⟨hnodup.mem_erase_iff.2 ⟨hkn, hconn.1⟩, hconn.2⟩
  exact finishClose_of_release (fun w hw => hw.trans (.waitAccept w)) hreleased

/-- A session that is not logged in is closed without a change of the login map. -/
lemma close_of_conn (h : v.stat n = .conn ∨ v.stat n = .logout) : v.close n = v.finishClose n := by
  unfold close
  rcases h with h | h <;> rw [h]

/-- The entry of its user id is all that a session that is closed removes from the login map. -/
lemma close_userIdMap (v : View) (n : SessionId) :
    v.close n = v ∨ (∃ redis, v.close n = View.finishClose { v with redis := redis } n) ∨
      ∃ redis, v.close n =
        View.finishClose (View.eraseUser { v with redis := redis } (v.userId n)) n := by
  unfold close
  cases v.stat n with
  | wait | matchApply => exact Or.inl rfl
  | conn | logout => exact Or.inr (Or.inl ⟨v.redis, rfl⟩)
  | matchConfirm => exact Or.inr (Or.inr ⟨v.redis, rfl⟩)
  | login | matchRequest | matchRecver | matchComplete => exact Or.inr (Or.inr ⟨_, rfl⟩)

/-- A session that is not pending is closed. -/
lemma KeepsPending.close (hnodup : v.active.Nodup) (hn : (v.stat n).pending = false)
    (hnames : v.stat n = .conn ∨ v.stat n = .logout ∨ v.Names (v.userId n)) :
    v.KeepsPending (v.close n) := by
  rw [← or_assoc] at hnames
  rcases hnames with hconn | hnames
  · rw [close_of_conn hconn]
    exact .finishClose hnodup hn
  · have hkeys : ∀ redis, v.KeepsPending { v with redis := redis } := fun redis =>
      .of_stat rfl (fun _ h => h) rfl [] rfl rfl
    rcases v.close_userIdMap n with h | ⟨redis, h⟩ | ⟨redis, h⟩ <;> rw [h]
    · exact .refl v
    · exact (hkeys redis).trans (.finishClose hnodup hn)
    · have herase : KeepsPending { v with redis := redis }
          (View.eraseUser { v with redis := redis } (v.userId n)) := .eraseUser hnames
      exact ((hkeys redis).trans herase).trans (.finishClose hnodup hn)

/-- The end of a read of a session that is not pending. -/
lemma KeepsPending.eraseRead {live : Bool} (hn : live = true → (v.stat n).pending = false) :
    v.KeepsPending { v with reads := v.reads.erase ⟨n, live⟩ } := by
  refine ⟨.of_stat rfl [] rfl rfl, fun _ _ => rfl, fun k hk hconn => ?_, fun _ _ h => h⟩
  refine ⟨hconn.1, hconn.2.imp_left fun hread => (List.mem_erase_of_ne ?_).2 hread⟩
  intro heq
  obtain ⟨rfl, hlive⟩ := Read.mk.inj heq
  rw [hn hlive.symm] at hk
  cases hk

/-- A connection of a session that is not pending is accepted. -/
lemma KeepsPending.accept (hn : (v.stat n).pending = false) :
    v.KeepsPending
      (View.accept (View.setOpen { v with accepts := v.accepts.erase n } n true) n) := by
  have hset : v.KeepsPending (v.setStat n .conn) := .setStat hn rfl
  have hconn : View.KeepsPending (v.setStat n .conn) { v with
      accepts := v.accepts.erase n
      isOpen := Function.update v.isOpen n true
      log := .accepted n :: v.log
      reads := v.reads ++ [⟨n, Function.update v.isOpen n true n⟩]
      stat := Function.update v.stat n .conn
      connections := v.connections + 1
      active := v.active ++ [n] } := by
    refine .of_stat rfl (fun k hconn => ?_) rfl [_] rfl rfl
    exact ⟨List.mem_append_left _ hconn.1, hconn.2.imp_left fun h => List.mem_append_left _ h⟩
  exact (hset.trans hconn).trans (.waitAccept _)

/-- Serving a queue leaves the sessions that are pending alone. -/
lemma KeepsPending.served {q : QueId} {b : Bool} (h : v.Served q w b) : v.KeepsPending w := by
  refine ⟨h.uninvited, fun k hk => ?_, fun k _ hconn => (h.samePool.connected k).2 hconn,
    fun a _ hid => by rwa [h.login.1]⟩
  rcases h.stat k with hst | ⟨-, hwaiting⟩
  · exact hst
  · simp only [View.waiting, Bool.and_eq_true, decide_eq_true_eq] at hwaiting
    rw [hwaiting.2] at hk
    cases hk

/-- A pair that is left alone stays a pair. -/
lemma Pair.of_keeps (h : v.Pair a r) (hw : v.KeepsPending w) : w.Pair a r := by
  obtain ⟨new, hlog, hnew⟩ := hw.uninvited.log
  have hinvited : invitations w.log = invitations v.log := by
    rw [hlog, invitations_append, hnew, List.nil_append]
  have ha : (v.stat a).pending = true := by rw [h.applicant]; rfl
  have hr : (v.stat r).pending = true := by rw [h.receiver]; rfl
  refine ⟨?_, ?_, ?_, ?_, ?_, ?_, ?_⟩
  · rw [hw.stat a ha, h.applicant]
  · rw [hw.stat r hr, h.receiver]
  · exact hw.connected a ha h.connected_applicant
  · exact hw.connected r hr h.connected_receiver
  · rw [hinvited, h.applied]
  · rw [hinvited, h.received]
  · exact hw.named a h.applicant h.named

lemma PairsOk.of_keeps (hv : v.PairsOk) (h : v.KeepsPending w) : w.PairsOk := by
  constructor
  · intro a ha
    obtain ⟨r, hr⟩ := hv.applicant a ((h.uninvited.stat a (by rw [ha]; rfl)).trans ha)
    exact ⟨r, hr.of_keeps h⟩
  · intro r hr
    obtain ⟨a, ha⟩ := hv.receiver r ((h.uninvited.stat r (by rw [hr]; rfl)).trans hr)
    exact ⟨a, ha.of_keeps h⟩

/-! ### An invitation and its answer -/

/-- An invitation makes a pair. -/
lemma Invites.pair (h : v.Invites w n m) (hn : w.Connected n) (hm : w.Connected m)
    (hid : ∃ id, w.userIdMap id = some n) : w.Pair n m := by
  have hinvited : invitations w.log = (n, m) :: invitations v.log := by
    rw [h.log, invitations_applied]
  refine ⟨?_, ?_, hn, hm, ?_, ?_, hid⟩
  · rw [h.stat, Function.update_of_ne h.ne.symm, Function.update_self]
  · rw [h.stat, Function.update_self]
  · rw [hinvited]
    exact List.find?_cons_of_pos (by simp)
  · rw [hinvited]
    exact List.find?_cons_of_pos (by simp)

/-- The pairs there were have other sessions, since those of an invitation are in `LOGIN`. -/
lemma Pair.of_invite (hpair : v.Pair a r) (h : v.Invites w n m)
    (hconn : ∀ k, w.Connected k ↔ v.Connected k) (hmap : w.userIdMap = v.userIdMap) :
    w.Pair a r := by
  have hinvited : invitations w.log = (n, m) :: invitations v.log := by
    rw [h.log, invitations_applied]
  have hlogin : ∀ k, v.stat k = .login → a ≠ k ∧ r ≠ k := by
    intro k hk
    constructor
    · rintro rfl
      exact absurd (hk.symm.trans hpair.applicant) (by simp)
    · rintro rfl
      exact absurd (hk.symm.trans hpair.receiver) (by simp)
  obtain ⟨han, hrn⟩ := hlogin n h.applicant
  obtain ⟨ham, hrm⟩ := hlogin m h.receiver
  refine ⟨?_, ?_, (hconn a).2 hpair.connected_applicant, (hconn r).2 hpair.connected_receiver,
    ?_, ?_, by rw [hmap]; exact hpair.named⟩
  · rw [h.stat, Function.update_of_ne ham, Function.update_of_ne han, hpair.applicant]
  · rw [h.stat, Function.update_of_ne hrm, Function.update_of_ne hrn, hpair.receiver]
  · rw [hinvited, List.find?_cons_of_neg (by simpa using han.symm), hpair.applied]
  · rw [hinvited, List.find?_cons_of_neg (by simpa using hrm.symm), hpair.received]

lemma PairsOk.invite (hv : v.PairsOk) (h : v.Invites w n m)
    (hconn : ∀ k, w.Connected k ↔ v.Connected k)
    (hmap : w.userIdMap = v.userIdMap) (hn : v.Connected n) (hm : v.Connected m)
    (hid : ∃ id, v.userIdMap id = some n) : w.PairsOk := by
  have hnew : w.Pair n m := h.pair ((hconn n).2 hn) ((hconn m).2 hm) (by rwa [hmap])
  constructor
  · intro a ha
    by_cases han : a = n
    · subst han
      exact ⟨m, hnew⟩
    · have ha : v.stat a = .matchApply := h.side_status .applicant (Ne.symm han) ha
      obtain ⟨r, hr⟩ := hv.applicant a ha
      exact ⟨r, hr.of_invite h hconn hmap⟩
  · intro r hr
    by_cases hrm : r = m
    · subst hrm
      exact ⟨n, hnew⟩
    · have hr : v.stat r = .matchRecver := h.side_status .receiver (Ne.symm hrm) hr
      obtain ⟨a, ha⟩ := hv.receiver r hr
      exact ⟨a, ha.of_invite h hconn hmap⟩

/-- An answer releases its pair, and leaves the other pairs alone. -/
lemma PairsOk.settle (hv : v.PairsOk) (hpair : v.Pair a r) {st st' : Status}
    (hst : st.pending = false) (hst' : st'.pending = false)
    (hstat : w.stat = Function.update (Function.update v.stat r st) a st')
    (hconn : ∀ k, w.Connected k ↔ v.Connected k) (hmap : w.userIdMap = v.userIdMap)
    (hlog : invitations w.log = invitations v.log) : w.PairsOk := by
  have hnot : ∀ k, (w.stat k).pending = true → k ≠ a ∧ k ≠ r := by
    intro k hk
    rw [hstat] at hk
    constructor
    · rintro rfl
      rw [Function.update_self, hst'] at hk
      cases hk
    · rintro rfl
      by_cases hka : k = a
      · subst hka
        rw [Function.update_self, hst'] at hk
        cases hk
      · rw [Function.update_of_ne hka, Function.update_self, hst] at hk
        cases hk
  have hsame : ∀ k, k ≠ a → k ≠ r → w.stat k = v.stat k := fun k hka hkr => by
    rw [hstat, Function.update_of_ne hka, Function.update_of_ne hkr]
  have hother : ∀ a' r', a' ≠ a → r' ≠ r → v.Pair a' r' → w.Pair a' r' := by
    intro a' r' ha' hr' hpair'
    have har : a' ≠ r := by
      rintro rfl
      exact absurd (hpair'.applicant.symm.trans hpair.receiver) (by simp)
    have hra : r' ≠ a := by
      rintro rfl
      exact absurd (hpair'.receiver.symm.trans hpair.applicant) (by simp)
    refine ⟨?_, ?_, (hconn a').2 hpair'.connected_applicant,
      (hconn r').2 hpair'.connected_receiver, ?_, ?_, by rw [hmap]; exact hpair'.named⟩
    · rw [hsame a' ha' har, hpair'.applicant]
    · rw [hsame r' hra hr', hpair'.receiver]
    · rw [hlog, hpair'.applied]
    · rw [hlog, hpair'.received]
  constructor
  · intro a' ha'
    obtain ⟨hne, hne'⟩ := hnot a' (by rw [ha']; rfl)
    rw [hsame a' hne hne'] at ha'
    obtain ⟨r', hr'⟩ := hv.applicant a' ha'
    refine ⟨r', hother a' r' hne ?_ hr'⟩
    rintro rfl
    exact hne (hr'.applicant_unique hpair)
  · intro r' hr'
    obtain ⟨hne', hne⟩ := hnot r' (by rw [hr']; rfl)
    rw [hsame r' hne' hne] at hr'
    obtain ⟨a', ha'⟩ := hv.receiver r' hr'
    refine ⟨a', hother a' r' ?_ hne ha'⟩
    rintro rfl
    exact hne (ha'.receiver_unique hpair)

end View

/-- **Pairs**, one packet between friends. -/
lemma View.Relayed.pairsOk {v w : View} {n : SessionId} {message : MatchWithFriendsRelay}
    {rest : List Packet} (h : v.Relayed n message w) (hv : v.PairsOk)
    (hk : ∀ answers, View.KeepsPairs { v with current := some (n, .playFriendsRel message :: rest) }
      (.packet answers)) (hcur : v.current = some (n, rest)) : w.PairsOk := by
  have hk := hk ⟨[], [], 0⟩
  simp only [View.KeepsPairs] at hk
  cases h with
  | refused => exact hv
  | self hself =>
    have hpending := hk n hself
    rw [if_pos rfl] at hpending
    exact hv.of_keeps (.setStat hpending rfl)
  | @accept m uuid htype htarget hne hn hm _ =>
    have hreceived := hk m htarget
    rw [if_neg hne, if_neg (by simp [htype])] at hreceived
    obtain ⟨a, hpair⟩ := hv.receiver n hn
    obtain ⟨rfl, -⟩ := Prod.mk.inj (Option.some.inj (hpair.received.symm.trans (hreceived hn hm)))
    exact hv.settle hpair rfl rfl rfl (fun _ => Iff.rfl) rfl rfl
  | @apply m htype htarget hne hn hm =>
    have hinvite := hk m htarget
    rw [if_neg hne, if_pos htype] at hinvite
    obtain ⟨hconnn, hconnm, hid⟩ := hinvite hn hm
    have hcong : ∀ k, View.Connected
        { v with current := some (n, .playFriendsRel message :: rest) } k → v.Connected k :=
      fun k hconn => ⟨hconn.1, (View.beingRead_nextPacket hcur k).1 hconn.2⟩
    exact hv.invite ⟨hne, hn, hm, rfl, rfl⟩ (fun _ => Iff.rfl) rfl (hcong n hconnn)
      (hcong m hconnm) hid
  | @deny m htype htarget hne hn hm =>
    have hreceived := hk m htarget
    rw [if_neg hne, if_neg (by simp [htype])] at hreceived
    obtain ⟨a, hpair⟩ := hv.receiver n hn
    obtain ⟨rfl, -⟩ := Prod.mk.inj (Option.some.inj (hpair.received.symm.trans (hreceived hn hm)))
    exact hv.settle hpair rfl rfl rfl (fun _ => Iff.rfl) rfl rfl

/-- **Pairs**, one packet. -/
lemma PacketStep.pairsOk {v w : View} {n : SessionId} {p : Packet} {rest : List Packet}
    (h : PacketStep v n p w) (hcur : v.current = some (n, rest)) (hp : v.PoolOk) (hv : v.PairsOk)
    (hk : ∀ answers, View.KeepsPairs { v with current := some (n, p :: rest) } (.packet answers)) :
    w.PairsOk := by
  have hnodup : v.active.Nodup := (List.nodup_append.1 hp.nodup).2.1
  have hdata : ∀ {w : View}, w.stat = v.stat → (∀ k, v.Connected k → w.Connected k) →
      w.userIdMap = v.userIdMap → w.log = v.log → w.PairsOk := fun hstat hconn hmap hlog =>
    hv.of_keeps (.of_stat hstat hconn hmap [] hlog rfl)
  cases h with
  | relayed h => exact h.pairsOk hv hk hcur
  | config _ | other _ | notJoined _ | notLoggedOut _ | notConfirmed _ => exact hv
  | burnt _ _ _ => exact hdata rfl (fun _ h => h) rfl rfl
  | friends h => cases h <;> exact hdata rfl (fun _ h => h) rfl rfl
  | @ranked u b h =>
    have hpending := hk ⟨[], [], 0⟩
    simp only [View.KeepsPairs] at hpending
    have hset : v.KeepsPending (v.setStat n .matchRequest) := .setStat hpending rfl
    have henter : v.KeepsPending (v.enter n (checkRating (v.rating n)).que) :=
      hset.trans (.of_stat rfl (fun _ h => h) rfl [_] rfl rfl)
    have harm : u.KeepsPending (u.armUnless n b) := by
      rcases u.armUnless_cases n b with h | h <;> rw [h]
      · exact .of_stat rfl (fun _ h => h) rfl [] rfl rfl
      · exact .refl u
    exact hv.of_keeps ((henter.trans (.served h)).trans harm)
  | refused hopen _ =>
    have hpending := hk ⟨[], [], 0⟩
    simp only [View.KeepsPairs, hopen] at hpending
    exact hv.of_keeps (.setStat (hpending.resolve_right (by simp)) rfl)
  | @joined message id rating hopen hkv hid =>
    have hpending := hk ⟨[], [], 0⟩
    simp only [View.KeepsPairs, hopen] at hpending
    have hset : v.KeepsPending (v.setStat n .login) :=
      .setStat (hpending.resolve_right (by simp)) rfl
    have hlogin : View.KeepsPending (v.setStat n .login) (v.login n message.token id rating) := by
      refine ⟨.of_stat rfl [_] rfl rfl, fun _ _ => rfl, fun _ _ h => h, ?_⟩
      rintro a - ⟨u, hu⟩
      -- the id of the login had no entry
      refine ⟨u, (Function.update_of_ne ?_ _ _).trans hu⟩
      rintro rfl
      exact absurd (hid.symm.trans hu) (by simp)
    exact hv.of_keeps (hset.trans hlogin)
  | @loggedOut id hkv =>
    have hpending := hk ⟨[], [], 0⟩
    simp only [View.KeepsPairs, hkv] at hpending
    obtain ⟨hpending, hnames⟩ := hpending.resolve_left (by simp)
    have hkey : v.KeepsPending (v.eraseKey (v.token n)) :=
      .of_stat rfl (fun _ h => h) rfl [] rfl rfl
    have herase : View.KeepsPending (v.eraseKey (v.token n)) (v.forget n) := .eraseUser hnames
    have hset : View.KeepsPending (v.forget n) ((v.forget n).setStat n .logout) :=
      View.KeepsPending.setStat (v := v.forget n) hpending rfl
    have hnote : View.KeepsPending ((v.forget n).setStat n .logout)
        (((v.forget n).setStat n .logout).note (.loggedOut n)) :=
      .of_stat rfl (fun _ h => h) rfl [_] rfl rfl
    exact hv.of_keeps (((hkey.trans herase).trans hset).trans hnote)
  | confirmed hst =>
    have hnames := hk ⟨[], [], 0⟩
    simp only [View.KeepsPairs] at hnames
    have hset : v.KeepsPending (v.setStat n .matchConfirm) :=
      .setStat (by rw [hst]; rfl) rfl
    refine hv.of_keeps (hset.trans (.close hnodup ?_ (Or.inr (Or.inr ?_))))
    · rw [View.setStat_stat, if_pos rfl]
      rfl
    · intro a ha
      rw [View.setStat_stat] at ha
      split at ha
      · cases ha
      · exact hnames hst a ha

/-- **Pairs**, one step. -/
theorem ViewStep.pairsOk {v w : View} {e : Event} (h : ViewStep v e w) (hp : v.PoolOk)
    (hv : v.PairsOk) (hk : v.KeepsPairs e) : w.PairsOk := by
  have hnodup : v.active.Nodup := (List.nodup_append.1 hp.nodup).2.1
  have hdata : ∀ {w : View}, w.stat = v.stat → (∀ k, v.Connected k → w.Connected k) →
      w.userIdMap = v.userIdMap → w.log = v.log → v.KeepsPending w := fun hstat hconn hmap hlog =>
    .of_stat hstat hconn hmap [] hlog rfl
  cases h with
  | startAccept _ _ =>
    have hstart : v.KeepsPending { v with starting := v.starting - 1 } :=
      hdata rfl (fun _ h => h) rfl rfl
    exact hv.of_keeps (hstart.trans (.waitAccept _))
  | acceptFailed _ _ | timerIdle _ _ | writeDone _ | world =>
    exact hv.of_keeps (hdata rfl (fun _ h => h) rfl rfl)
  | @accepted n hcur hn =>
    have hpending : (v.stat n).pending = false := by
      by_contra hpending
      have hconn := hv.connected (k := n) (by simpa using hpending)
      exact hp.not_active_of_accepts hn hconn.1
    exact hv.of_keeps (.accept hpending)
  | @receive n packets hcur hread =>
    refine hv.of_keeps (hdata rfl (fun k hconn => ?_) rfl rfl)
    exact ⟨hconn.1, (View.beingRead_receive hcur hread k).2 hconn.2⟩
  | @packet n p rest answers _ hcur hpacket =>
    have hnext : v.KeepsPending { v with current := some (n, rest) } :=
      hdata rfl (fun k hconn => ⟨hconn.1, (View.beingRead_nextPacket hcur k).2 hconn.2⟩) rfl rfl
    refine hpacket.pairsOk rfl (hp.nextPacket hcur) (hv.of_keeps hnext) fun answers' => ?_
    have hsame : ({ ({ v with current := some (n, rest) } : View) with
        current := some (n, p :: rest) } : View) = v := by rw [← hcur]
    rw [hsame]
    exact hk
  | @receiveEnd n hcur =>
    refine hv.of_keeps (hdata rfl (fun k hconn => ⟨hconn.1, ?_⟩) rfl rfl)
    exact (hp.beingRead_receiveEnd hcur hconn.1).2 hconn.2
  | readFailed _ _ => exact hv.of_keeps (.eraseRead fun hlive => (hk hlive).1)
  | @disconnected n error hcur hread herror =>
    obtain ⟨hpending, hnames⟩ := hk rfl
    have herase : v.KeepsPending { v with reads := v.reads.erase ⟨n, true⟩ } :=
      .eraseRead fun _ => hpending
    exact hv.of_keeps (herase.trans (.close hnodup hpending (hnames.resolve_left herror)))
  | @timerWiden n i answers _ b hcur hst hserved =>
    have hwiden : v.KeepsPending (View.widen { v with
        waits := Function.update v.waits n ((v.waits n).eraseIdx i) } n) :=
      .of_stat rfl (fun _ h => h) rfl [_] rfl rfl
    exact hv.of_keeps (hwiden.trans (.served hserved))

/-! ### Runs -/

/-- The event separates no pair, or it is a login request that fails at the database. -/
def Server.KeepsPairs (s : Server) (e : Event) : Prop := s.view.KeepsPairs e ∨ s.JoinFails e

/-- The invariant over a run. -/
theorem ReachedBy.pairsOk {s : Server} (h : ReachedBy (fun s e => s.KeepsPairs e) s) :
    s.view.PairsOk := by
  refine Runs.Reached.invariant (I := fun s => s.view.PairsOk) ?_ ?_ h
  · intro s hs
    have hpending := hs.uninvited.1
    constructor
    · intro a ha
      have hst : (s.sess a).stat = .matchApply := ha
      have hnot := hpending a
      rw [hst] at hnot
      cases hnot
    · intro r hr
      have hst : (s.sess r).stat = .matchRecver := hr
      have hnot := hpending r
      rw [hst] at hnot
      cases hnot
  · rintro s e s' hr hv (hk | hfails) hstep
    · exact (view_step hstep).pairsOk (Reachable.poolOk hr.unconditional) hv hk
    · obtain ⟨n, ps, rest, redis, hcur, hview⟩ := hstep.view_of_joinFails hfails
      rw [hview]
      refine hv.of_keeps (.of_stat rfl (fun k hconn => ⟨hconn.1, ?_⟩) rfl [] rfl rfl)
      exact (View.beingRead_nextPacket hcur k).2 hconn.2

/-- A DENY in the name of the applicant releases both sessions. -/
lemma deny_releases {s : Server} {a r : SessionId} {id : Str} (hmtx : s.mtx .userIdMapMtx = 0)
    (hid : s.userIdMap id = some a) (ha : (s.sess a).stat = .matchApply)
    (hr : (s.sess r).stat = .matchRecver) :
    ∃ s', (processMatchingWithFriends r ⟨some .deny, some id, []⟩).run s = .done () s' ∧
      (s'.sess a).stat = .login ∧ (s'.sess r).stat = .login := by
  have hne : a ≠ r := by
    rintro rfl
    rw [ha] at hr
    cases hr
  have hrun : (processMatchingWithFriends r ⟨some .deny, some id, []⟩).run s = (do
      setStatus r .login
      setStatus a .login
      sendMessage a (.playFriendsRel ⟨some .deny, some (s.sess r).userId, []⟩) : Handler Unit).run
        s := by
    unfold processMatchingWithFriends
    have htarget : MatchWithFriendsRelay.targetId ⟨some .deny, some id, []⟩ = id := rfl
    have htype : MatchWithFriendsRelay.type ⟨some .deny, some id, []⟩ = .deny := rfl
    rw [Prog.run_bind, htarget, findIdInUserMap_run id hmtx, Out.bind_done, hid, htype,
      if_neg (by simp [hne])]
    simp only [bothHave, getStatus, getUserId, getSess, Prog.run_bind, Prog.run_read,
      Out.bind_done, hr, ha, if_true, Prog.run_pure]
    rfl
  rw [hrun]
  refine ⟨_, rfl, ?_, ?_⟩
  · simp [Server.setSess]
  · simp [Server.setSess, Function.update_of_ne hne.symm]

/-- **No orphaned invitation**, in runs that separate no pair: the sessions in `MATCH_APPLY` and
those in `MATCH_RECVER` are in bijection, an applicant being paired with the session that received
its latest invitation; both of a pair are connected; and between two handlers, a DENY of the
receiver that names the applicant can still release both. -/
theorem pending_sessions_paired {s : Server} (h : ReachedBy (fun s e => s.KeepsPairs e) s) :
    (∀ a, (s.sess a).stat = .matchApply → ∃! r, s.view.Pair a r) ∧
      (∀ r, (s.sess r).stat = .matchRecver → ∃! a, s.view.Pair a r) ∧
      ∀ a r, s.view.Pair a r → s.current = none →
        ∃ id t u, s.userIdMap id = some a ∧
          Step s (.receive r [.playFriendsRel ⟨some .deny, some id, []⟩]) t ∧
          Step t (.packet ⟨[], [], 0⟩) u ∧ (u.sess a).stat = .login ∧ (u.sess r).stat = .login := by
  have hok := h.pairsOk
  refine ⟨fun a ha => ?_, fun r hr => ?_, fun a r hpair hcur => ?_⟩
  · obtain ⟨r, hpair⟩ := hok.applicant a ha
    exact ⟨r, hpair, fun r' hpair' => hpair'.receiver_unique hpair⟩
  · obtain ⟨a, hpair⟩ := hok.receiver r hr
    exact ⟨a, hpair, fun a' hpair' => hpair'.applicant_unique hpair⟩
  · obtain ⟨id, hid⟩ := hpair.named
    have hread : ⟨r, true⟩ ∈ s.reads := by
      rcases hpair.connected_receiver.2 with hread | ⟨ps, hps⟩
      · exact hread
      · exact absurd (hps.symm.trans hcur) (by simp)
    have hmtx : s.mtx = free := Reachable.mtx_free h.unconditional
    let message : MatchWithFriendsRelay := ⟨some .deny, some id, []⟩
    let t : Server := { s with
      reads := s.reads.erase ⟨r, true⟩, current := some (r, [.playFriendsRel message]) }
    obtain ⟨u, hrun, ha, hr⟩ := deny_releases (s := { t with
      current := some (r, []), answers := ⟨[], [], 0⟩ }) (congrFun hmtx _) hid hpair.applicant
      hpair.receiver
    refine ⟨id, t, u, hid, step_iff.2 ⟨t, ?_, rfl⟩, step_iff.2 ⟨_, rfl, hrun⟩, ha, hr⟩
    exact if_pos ⟨hcur, hread⟩

/-- `KeepsPairs` as a computation, for the events of an example. -/
private def keepsPairsTest (s : Server) : Event → Bool
  | .acceptDone _ _ => true
  | .receive _ _ => true
  | .receiveEnd => true
  | .packet _ =>
      match s.current with
      | some (n, .joinReq _ :: _) => !(s.sess n).stat.pending
      | some (n, .playFriendsRel message :: _) =>
          match s.userIdMap message.targetId with
          | none => true
          | some m => decide (m ≠ n ∧ message.type = .apply ∧ n ∈ s.active ∧ m ∈ s.active ∧
              ⟨m, true⟩ ∈ s.reads ∧ s.userIdMap (s.sess n).userId = some n)
      | _ => false
  | _ => false

private lemma keepsPairs_of_test {s : Server} {e : Event} (h : keepsPairsTest s e = true) :
    s.KeepsPairs e := by
  refine Or.inl ?_
  cases e with
  | acceptDone _ _ | receive _ _ | receiveEnd => trivial
  | packet answers =>
    simp only [keepsPairsTest] at h
    split at h
    · rename_i n message rest hcur
      have hcur' : s.view.current = some (n, .joinReq message :: rest) := hcur
      have hpending : (s.sess n).stat.pending = false := by simpa using h
      simp only [View.KeepsPairs, hcur']
      exact Or.inl hpending
    · rename_i n message rest hcur
      have hcur' : s.view.current = some (n, .playFriendsRel message :: rest) := hcur
      simp only [View.KeepsPairs, hcur']
      intro m hm
      have hm : s.userIdMap message.targetId = some m := hm
      rw [hm] at h
      obtain ⟨hne, htype, hn, hmact, hread, hid⟩ := of_decide_eq_true h
      rw [if_neg hne, if_pos htype]
      exact fun _ _ => ⟨⟨hn, Or.inr ⟨_, hcur⟩⟩, ⟨hmact, Or.inl hread⟩, _, hid⟩
    · cases h
  | startAccept | receiveError _ _ _ | timer _ _ _ | writeDone _ _ | world _ _ => cases h

/-- The users `a` and `c` wait for the answers of `b` and `d`. -/
theorem pending_sessions_paired_two_invitations :
    ∃ s, ReachedBy (fun s e => s.KeepsPairs e) s ∧ (∃! r, s.view.Pair 0 r) ∧
      (∃! a, s.view.Pair a 3) ∧ s.view.Pair 0 1 ∧ ∃ id t u, s.userIdMap id = some 0 ∧
        Step s (.receive 1 [.playFriendsRel ⟨some .deny, some id, []⟩]) t ∧
        Step t (.packet ⟨[], [], 0⟩) u ∧ (u.sess 0).stat = .login ∧ (u.sess 1).stat = .login := by
  have hrun : (runIf keepsPairsTest fourUsers twoInvitations).map (fun s =>
      decide ((s.sess 0).stat = .matchApply ∧ (s.sess 3).stat = .matchRecver ∧
        s.current = none ∧ (invitations s.log).find? (fun i => i.1 = 0) = some (0, 1))) =
      some true := by decide
  obtain ⟨s, hs, heq⟩ := Option.map_eq_some_iff.1 hrun
  obtain ⟨h₀, h₃, hcur, hfind⟩ := of_decide_eq_true heq
  have hreach := reachedBy_of_runIf (fun _ _ => keepsPairs_of_test) hs
  obtain ⟨happlicants, hreceivers, hrelease⟩ := pending_sessions_paired hreach
  obtain ⟨r, hpair, -⟩ := happlicants 0 h₀
  obtain ⟨-, rfl⟩ := Prod.mk.inj (Option.some.inj (hpair.applied.symm.trans hfind))
  exact ⟨s, hreach, happlicants 0 h₀, hreceivers 3 h₃, hpair, hrelease 0 1 hpair hcur⟩

/-- The connection of `a` ends while it waits for the answer of `b`, who stays in `MATCH_RECVER`;
or `b` asks for a rank match, and `a` stays in `MATCH_APPLY`. -/
theorem orphaned_invitation :
    (∃ s, Reachable s ∧ (s.sess 1).stat = .matchRecver ∧
      (invitations s.log).find? (fun i => i.2 = 1) = some (0, 1) ∧ ¬ s.view.Connected 0) ∧
    ∃ s, Reachable s ∧ (s.sess 0).stat = .matchApply ∧ s.view.Connected 0 ∧
      (invitations s.log).find? (fun i => i.1 = 0) = some (0, 1) ∧
      (s.sess 1).stat ≠ .matchRecver := by
  constructor
  · have hrun : (run fourUsers (twoInvitations ++ [.receiveError 0 true .eof])).map (fun s =>
        decide ((s.sess 1).stat = .matchRecver ∧
          (invitations s.log).find? (fun i => i.2 = 1) = some (0, 1) ∧ ⟨0, true⟩ ∉ s.reads ∧
          s.current = none)) = some true := by decide
    obtain ⟨s, hs, heq⟩ := Option.map_eq_some_iff.1 hrun
    obtain ⟨hst, hfind, hread, hcur⟩ := of_decide_eq_true heq
    refine ⟨s, reachable_of_run hs, hst, hfind, ?_⟩
    rintro ⟨-, hread' | ⟨ps, hps⟩⟩
    · exact hread hread'
    · exact absurd (hps.symm.trans hcur) (by simp)
  · have hrun : (run fourUsers (twoInvitations ++
        [.receive 1 [.playRankReq], .packet ⟨[], [], 0⟩])).map (fun s =>
        decide ((s.sess 0).stat = .matchApply ∧ 0 ∈ s.active ∧ ⟨0, true⟩ ∈ s.reads ∧
          (invitations s.log).find? (fun i => i.1 = 0) = some (0, 1) ∧
          (s.sess 1).stat = .matchRequest)) = some true := by decide
    obtain ⟨s, hs, heq⟩ := Option.map_eq_some_iff.1 hrun
    obtain ⟨hst, hact, hread, hfind, hrequest⟩ := of_decide_eq_true heq
    exact ⟨s, reachable_of_run hs, hst, ⟨hact, Or.inl hread⟩, hfind, by simp [hrequest]⟩

end ChannelServer
