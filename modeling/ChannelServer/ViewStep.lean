/-
The steps of the server, seen on the view.

`ViewStep` lists the possible changes of the view in one event, each with the conditions
under which the source makes it; `PacketStep` is the part of the list for the packets.
`view_step` proves that the list is complete.  The invariants of the server are derived
from this list, without looking at the handlers again.
-/
import ChannelServer.Effects

namespace ChannelServer

open Resumption WaitingRoom

/-- The view after `process_packet`, for a packet `p` of the session `n`. -/
inductive PacketStep (v : View) (n : SessionId) : Packet → View → Prop
  | friends {message : FriendsRequest} {v' : View} (h : v.Befriended n message v') :
      PacketStep v n (.friendsReq message) v'
  | config (message : ErrorReport) : PacketStep v n (.errorMsg message) v
  | other (type : ℕ) : PacketStep v n (.other type) v
  | relayed {message : MatchWithFriendsRelay} {v' : View} (h : v.Relayed n message v') :
      PacketStep v n (.playFriendsRel message) v'
  | ranked {w : View} {b : Bool}
      (h : (v.enter n (checkRating (v.rating n)).que).Served (checkRating (v.rating n)).que w b) :
      PacketStep v n .playRankReq (w.armUnless n b)
  | notJoined (message : JoinRequest) : PacketStep v n (.joinReq message) v
  | refused {message : JoinRequest} (hopen : v.isOpen n = true)
      (hrefused : ∀ id, v.redis message.token = some id → v.userIdMap id ≠ none) :
      PacketStep v n (.joinReq message) (v.setStat n .logout)
  | burnt {message : JoinRequest} {id : Str} (hopen : v.isOpen n = true)
      (hkv : v.redis message.token = some id) (hid : v.userIdMap id = none) :
      PacketStep v n (.joinReq message) (v.eraseKey message.token)
  | joined {message : JoinRequest} {id : Str} {rating : ℤ} (hopen : v.isOpen n = true)
      (hkv : v.redis message.token = some id) (hid : v.userIdMap id = none) :
      PacketStep v n (.joinReq message) (v.login n message.token id rating)
  | notLoggedOut (h : v.redis (v.token n) = none) : PacketStep v n .logoutReq v
  | loggedOut {id : Str} (h : v.redis (v.token n) = some id) :
      PacketStep v n .logoutReq (((v.forget n).setStat n .logout).note (.loggedOut n))
  | notConfirmed (h : v.stat n ≠ .matchComplete) : PacketStep v n .matchConfirm v
  | confirmed (h : v.stat n = .matchComplete) :
      PacketStep v n .matchConfirm ((v.setStat n .matchConfirm).close n)

/-- The view after an event. -/
inductive ViewStep (v : View) : Event → View → Prop
  | startAccept (hcur : v.current = none) (h : 0 < v.starting) :
      ViewStep v .startAccept (View.waitAccept { v with starting := v.starting - 1 })
  | accepted {n : SessionId} (hcur : v.current = none) (h : n ∈ v.accepts) :
      ViewStep v (.acceptDone n false)
        (View.accept ({ v with accepts := v.accepts.erase n }.setOpen n true) n)
  | acceptFailed {n : SessionId} (hcur : v.current = none) (h : n ∈ v.accepts) :
      ViewStep v (.acceptDone n true) { v with accepts := v.accepts.erase n }
  | receive {n : SessionId} {packets : List Packet} (hcur : v.current = none)
      (h : ⟨n, true⟩ ∈ v.reads) :
      ViewStep v (.receive n packets)
        { v with reads := v.reads.erase ⟨n, true⟩, current := some (n, packets) }
  | packet {n : SessionId} {p : Packet} {rest : List Packet} {answers : Answers} {v' : View}
      (hcur : v.current = some (n, p :: rest))
      (h : PacketStep { v with current := some (n, rest) } n p v') :
      ViewStep v (.packet answers) v'
  | receiveEnd {n : SessionId} (hcur : v.current = some (n, [])) :
      ViewStep v .receiveEnd
        { v with current := none, reads := v.reads ++ [⟨n, v.isOpen n⟩] }
  | readFailed {n : SessionId} {live : Bool} (hcur : v.current = none)
      (h : ⟨n, live⟩ ∈ v.reads) :
      ViewStep v (.receiveError n live .other) { v with reads := v.reads.erase ⟨n, live⟩ }
  | disconnected {n : SessionId} {error : RecvError} (hcur : v.current = none)
      (h : ⟨n, true⟩ ∈ v.reads) (herror : error ≠ .other) :
      ViewStep v (.receiveError n true error)
        (View.close { v with reads := v.reads.erase ⟨n, true⟩ } n)
  | timerIdle {n : SessionId} {i : ℕ} {answers : Answers} (hcur : v.current = none)
      (hst : v.stat n ≠ .matchRequest) :
      ViewStep v (.timer n i answers)
        { v with waits := Function.update v.waits n ((v.waits n).eraseIdx i) }
  | timerWiden {n : SessionId} {i : ℕ} {answers : Answers} {v' : View} {b : Bool}
      (hcur : v.current = none) (hst : v.stat n = .matchRequest)
      (h : (View.widen { v with waits := Function.update v.waits n ((v.waits n).eraseIdx i) }
        n).Served sharedQue v' b) :
      ViewStep v (.timer n i answers) v'
  | writeDone {n : SessionId} {i : ℕ} (hcur : v.current = none) : ViewStep v (.writeDone n i) v
  | world {redis : Str → Option Str} {tables : Tables} :
      ViewStep v (.world redis tables) { v with redis := redis, friendInfo := tables.friendInfo }

/-! ### The list is complete -/

lemma packet_step {s s' : Server} {n : SessionId} {p : Packet} {u : Unit}
    (h : (processPacket n p).run s = .done u s') : PacketStep s.view n p s'.view := by
  cases p with
  | friendsReq message =>
    exact .friends (view_processFriendsFunction h)
  | playFriendsRel message => exact .relayed (processMatchingWithFriends_eq_done h).view
  | playRankReq =>
    obtain ⟨w, b, hserved, hv⟩ := view_processMatching h
    rw [hv]
    exact .ranked hserved
  | joinReq message =>
    obtain ⟨b, s₁, h₁, h⟩ := Prog.run_bind_eq_done.1 h
    obtain ⟨-, rfl⟩ := Out.done.inj h
    rcases view_lobbyLoginProcess h₁ with hv | ⟨hopen, hv, hrefused⟩ | ⟨hopen, id, hkv, hid, hv⟩ |
      ⟨hopen, id, rating, hkv, hid, hv⟩
    · rw [hv]
      exact .notJoined message
    · rw [hv]
      exact .refused hopen hrefused
    · rw [hv]
      exact .burnt hopen hkv hid
    · rw [hv]
      exact .joined hopen hkv hid
  | logoutReq =>
    obtain ⟨b, s₁, h₁, h⟩ := Prog.run_bind_eq_done.1 h
    obtain ⟨-, rfl⟩ := Out.done.inj h
    rcases view_lobbyLogoutProcess h₁ with ⟨hkv, hv⟩ | ⟨⟨id, hkv⟩, hv⟩
    · rw [hv]
      exact .notLoggedOut hkv
    · rw [hv]
      exact .loggedOut hkv
  | matchConfirm =>
    obtain ⟨b, s₁, h₁, h⟩ := Prog.run_bind_eq_done.1 h
    rcases view_processMatchConfirm h₁ with ⟨hst, rfl, hv₁⟩ | ⟨hst, rfl, hv₁⟩
    · rw [if_pos rfl] at h
      rw [view_closeSession h, hv₁]
      exact .confirmed hst
    · rw [if_neg (by simp)] at h
      obtain ⟨-, rfl⟩ := Out.done.inj h
      rw [hv₁]
      exact .notConfirmed hst
  | errorMsg message =>
    rw [(quiet_processConfig n message).view_eq h]
    exact .config message
  | other type =>
    obtain ⟨-, rfl⟩ := Out.done.inj h
    exact .other type

/-- A step is an event that can occur, followed by its handler. -/
lemma step_iff {s s' : Server} {e : Event} :
    Step s e s' ↔ ∃ t, prepare s e = some t ∧ (handler s e).run t = .done () s' := by
  unfold Step outcome
  simp

lemma quiet_handleWrite (n : SessionId) : Quiet (handleWrite n) := by
  refine quiet_bind ⟨fun s b s' hs => ?_, fun _ => trivial⟩ fun _ =>
    quiet_bind (quiet_getSess _ _) fun st => quiet_ite ?_ ?_
  · dsimp only at hs
    split at hs
    · cases hs
    · obtain ⟨-, rfl⟩ := Res.ok.inj hs
      exact view_setSess_of_eq rfl rfl rfl rfl rfl rfl rfl
  · exact quiet_modify fun _ => view_setSess_of_eq rfl rfl rfl rfl rfl rfl rfl
  · refine quiet_bind (quiet_getSess _ _) fun front => ?_
    cases front with
    | none => exact quiet_pure _
    | some data => exact quiet_waitSend _ _ _ _

/-- The handler of a timer, after the wait was removed. -/
lemma timer_step {s s' : Server} {n : SessionId} {i : ℕ} {answers : Answers} {u : Unit}
    (hcur : s.current = none)
    (h : (rematch n).run { s with
      answers := answers
      sess := Function.update s.sess n
        { s.sess n with waits := (s.sess n).waits.eraseIdx i } } = .done u s') :
    ViewStep s.view (.timer n i answers) s'.view := by
  have hfired : Server.view { s with
        answers := answers
        sess := Function.update s.sess n
          { s.sess n with waits := (s.sess n).waits.eraseIdx i } } =
      { s.view with
        waits := Function.update s.view.waits n ((s.view.waits n).eraseIdx i) } := by
    change (Server.setSess { s with answers := answers } n _).view = _
    rw [view_setSess]
    simp [Server.view]
  obtain ⟨st, s₁, h₁, h⟩ := Prog.run_bind_eq_done.1 h
  obtain ⟨rfl, rfl⟩ := getSess_eq_done h₁
  simp only [Function.update_self] at h
  by_cases hst : (s.sess n).stat = .matchRequest
  · rw [if_pos hst] at h
    obtain ⟨_, s₂, h₂, h⟩ := Prog.run_bind_eq_done.1 h
    obtain ⟨-, rfl⟩ := Out.done.inj h
    have hst' : (Server.view { s with
        answers := answers
        sess := Function.update s.sess n
          { s.sess n with waits := (s.sess n).waits.eraseIdx i } }).stat n = .matchRequest := by
      rw [hfired]
      exact hst
    obtain ⟨b, hserved⟩ := view_rematchingStart hst' h₂
    rw [hfired] at hserved
    exact .timerWiden hcur hst hserved
  · rw [if_neg hst] at h
    obtain ⟨-, rfl⟩ := Out.done.inj h
    rw [hfired]
    exact .timerIdle hcur hst

/-- The sockets after an accept has completed. -/
lemma view_acceptDone (s : Server) (n : SessionId) (error : Bool) :
    Server.view { s with
      accepts := s.accepts.erase n
      sess := Function.update s.sess n
        { s.sess n with isOpen := !error || (s.sess n).isOpen } } =
      View.setOpen { s.view with accepts := s.view.accepts.erase n } n
        (!error || s.view.isOpen n) := by
  change (Server.setSess { s with accepts := s.accepts.erase n } n _).view = _
  rw [view_setSess]
  simp [View.setOpen, Server.view]

/-- **The steps of the server on the view.**  Every step is in the list. -/
theorem view_step {s s' : Server} {e : Event} (h : Step s e s') : ViewStep s.view e s'.view := by
  obtain ⟨t, hprep, hrun⟩ := step_iff.1 h
  cases e with
  | startAccept =>
    obtain ⟨⟨hcur, hstart⟩, ht⟩ := Option.ite_none_right_eq_some.1 hprep
    obtain rfl := Option.some.inj ht
    obtain ⟨b, s₁, h₁, hrun⟩ := Prog.run_bind_eq_done.1 hrun
    obtain ⟨-, rfl⟩ := Out.done.inj hrun
    rw [view_waitAccept h₁]
    exact .startAccept hcur hstart
  | acceptDone n error =>
    obtain ⟨⟨hcur, hmem⟩, ht⟩ := Option.ite_none_right_eq_some.1 hprep
    obtain rfl := Option.some.inj ht
    cases error with
    | false =>
      rw [view_handleAccept hrun, view_acceptDone]
      exact .accepted hcur hmem
    | true =>
      obtain ⟨-, rfl⟩ := Out.done.inj hrun
      have hsame : View.setOpen { s.view with accepts := s.view.accepts.erase n } n
          (s.view.isOpen n) = { s.view with accepts := s.view.accepts.erase n } := by
        simp [View.setOpen]
      rw [view_acceptDone, Bool.not_true, Bool.false_or, hsame]
      exact .acceptFailed hcur hmem
  | receive n packets =>
    obtain ⟨⟨hcur, hmem⟩, ht⟩ := Option.ite_none_right_eq_some.1 hprep
    obtain rfl := Option.some.inj ht
    obtain ⟨-, rfl⟩ := Out.done.inj hrun
    exact .receive hcur hmem
  | packet answers =>
    simp only [prepare] at hprep
    split at hprep
    · rename_i n p rest hcur
      obtain rfl := Option.some.inj hprep
      simp only [handler, hcur] at hrun
      exact .packet hcur (packet_step hrun)
    · cases hprep
  | receiveEnd =>
    simp only [prepare] at hprep
    split at hprep
    · rename_i n hcur
      obtain rfl := Option.some.inj hprep
      simp only [handler, hcur] at hrun
      obtain ⟨-, rfl⟩ := Out.done.inj hrun
      exact .receiveEnd hcur
    · cases hprep
  | receiveError n live error =>
    obtain ⟨⟨hcur, hmem, hlive⟩, ht⟩ := Option.ite_none_right_eq_some.1 hprep
    obtain rfl := Option.some.inj ht
    -- only the read of an open socket ends with one of the errors that close the session
    have hclose : error ≠ .other → (closeSession n).run
        { s with reads := s.reads.erase ⟨n, live⟩ } = .done () s' →
        ViewStep s.view (.receiveError n live error) s'.view := by
      intro herror hrun
      obtain rfl : live = true := by
        cases live with
        | true => rfl
        | false => exact absurd (hlive rfl) herror
      rw [view_closeSession hrun]
      exact .disconnected hcur hmem herror
    cases error with
    | eof => exact hclose (by simp) hrun
    | connectionReset => exact hclose (by simp) hrun
    | other =>
      obtain ⟨-, rfl⟩ := Out.done.inj hrun
      exact .readFailed hcur hmem
  | timer n i answers =>
    obtain ⟨⟨hcur, -⟩, ht⟩ := Option.ite_none_right_eq_some.1 hprep
    obtain rfl := Option.some.inj ht
    exact timer_step hcur hrun
  | writeDone n i =>
    obtain ⟨⟨hcur, -⟩, ht⟩ := Option.ite_none_right_eq_some.1 hprep
    obtain rfl := Option.some.inj ht
    have hsame : Server.view (s.setSess n { s.sess n with
        send := { (s.sess n).send with writes := (s.sess n).send.writes.eraseIdx i } }) = s.view :=
      view_setSess_of_eq rfl rfl rfl rfl rfl rfl rfl
    rw [(quiet_handleWrite n).view_eq hrun, hsame]
    exact .writeDone hcur
  | world redis tables =>
    obtain rfl := Option.some.inj hprep
    obtain ⟨-, rfl⟩ := Out.done.inj hrun
    exact .world

/-! ### Statuses -/

section Statuses

variable {v w : View} {n k : SessionId}

lemma View.setStat_stat (v : View) (n : SessionId) (st : Status) (k : SessionId) :
    (v.setStat n st).stat k = if k = n then st else v.stat k := Function.update_apply _ _ _ _

@[simp] lemma View.armUnless_stat (v : View) (n : SessionId) (b : Bool) :
    (v.armUnless n b).stat = v.stat := by
  rcases v.armUnless_cases n b with h | h <;> rw [h]
  rfl

/-- Serving a queue only changes the statuses of two waiting sessions. -/
lemma View.Served.stat {r : QueId} {b : Bool} (h : v.Served r w b) (k : SessionId) :
    w.stat k = v.stat k ∨ w.stat k = .matchComplete ∧ v.waiting k = true := by
  cases h with
  | nobody _ => exact Or.inl rfl
  | @pair a b uuid hpair _ =>
    obtain ⟨ha, hb, -, -⟩ := serve_pair hpair
    show Function.update (Function.update v.stat a .matchComplete) b .matchComplete k = _ ∨
      Function.update (Function.update v.stat a .matchComplete) b .matchComplete k = _ ∧ _
    by_cases hkb : k = b
    · subst hkb
      exact Or.inr ⟨Function.update_self _ _ _, hb⟩
    · rw [Function.update_of_ne hkb]
      by_cases hka : k = a
      · subst hka
        exact Or.inr ⟨Function.update_self _ _ _, ha⟩
      · exact Or.inl (Function.update_of_ne hka _ _)

/-- A packet that does not close its session sets no status to `WAIT`. -/
lemma PacketStep.stat_ne_wait {p : Packet} (h : PacketStep v n p w)
    (hconf : p = .matchConfirm → v.stat n ≠ .matchComplete) (hk : v.stat k ≠ .wait) :
    w.stat k ≠ .wait := by
  have hset : ∀ (u : View) (m : SessionId) (st : Status), st ≠ .wait → u.stat k ≠ .wait →
      (u.setStat m st).stat k ≠ .wait := by
    intro u m st hst hu
    show Function.update u.stat m st k ≠ .wait
    by_cases hkm : k = m
    · subst hkm
      rwa [Function.update_self]
    · rwa [Function.update_of_ne hkm]
  cases h with
  | config _ | other _ | notJoined _ | notLoggedOut _ | notConfirmed _ | burnt _ _ _ => exact hk
  | friends h => cases h <;> exact hk
  | refused _ _ | joined _ _ _ | loggedOut _ => exact hset v n _ (by simp) hk
  | confirmed h => exact absurd h (hconf rfl)
  | relayed h =>
    cases h with
    | refused => exact hk
    | self _ => exact hset v n _ (by simp) hk
    | accept => exact hset (v.setStat n _) _ _ (by simp) (hset v n _ (by simp) hk)
    | apply => exact hset (v.setStat n _) _ _ (by simp) (hset v n _ (by simp) hk)
    | deny => exact hset (v.setStat n _) _ _ (by simp) (hset v n _ (by simp) hk)
  | @ranked u b h =>
    rw [View.armUnless_stat]
    rcases h.stat k with hst | ⟨hst, -⟩
    · rw [hst]
      exact hset v n _ (by simp) hk
    · rw [hst]
      simp

end Statuses

/-! ### Entries of the log -/

/-- The log grows by entries of a kind. -/
def View.LogGrows (p : Mark → Prop) (v w : View) : Prop :=
  ∃ new, w.log = new ++ v.log ∧ ∀ m ∈ new, p m

/-- The event is the packet `q` of the session `n`. -/
def View.Handles (v : View) (e : Event) (n : SessionId) (q : Packet) : Prop :=
  ∃ answers rest, e = .packet answers ∧ v.current = some (n, q :: rest)

/-- The entries that the packet `q` of the session `n` may add to the log; those for accepts of
the server, pairs of a queue and invitations are not restricted here. -/
def Mark.OfPacket (n : SessionId) (q : Packet) : Mark → Prop
  | .accepted _ => False
  | .widened _ => False
  | .joined k _ => k = n ∧ ∃ message, q = .joinReq message
  | .loggedOut k => k = n ∧ q = .logoutReq
  | .setMatchingQue k _ => k = n ∧ q = .playRankReq
  | .matchMade _ _ _ => q = .playRankReq ∨ ∃ message, q = .playFriendsRel message
  | _ => True

/-- The entries that an event may add to the log. -/
def View.MayLog (v : View) (e : Event) : Mark → Prop
  | .accepted n => e = .acceptDone n false
  | .widened n => ∃ i answers, e = .timer n i answers
  | .joined n _ => ∃ message, v.Handles e n (.joinReq message)
  | .loggedOut n => v.Handles e n .logoutReq
  | .setMatchingQue n _ => v.Handles e n .playRankReq
  | .matchMade _ _ _ => ∃ n, v.Handles e n .playRankReq ∨
      (∃ message, v.Handles e n (.playFriendsRel message)) ∨ ∃ i answers, e = .timer n i answers
  | _ => True

namespace View

variable {p : Mark → Prop} {u v w : View} {n : SessionId}

lemma LogGrows.refl (v : View) : LogGrows p v v := ⟨[], rfl, by simp⟩

lemma LogGrows.one {m : Mark} (hlog : w.log = m :: v.log) (hm : p m) : LogGrows p v w :=
  ⟨[m], hlog, by simpa using hm⟩

lemma LogGrows.of_eq (hlog : w.log = v.log) : LogGrows p v w := ⟨[], hlog, by simp⟩

lemma LogGrows.mono {p' : Mark → Prop} (h : LogGrows p v w) (hp : ∀ m, p m → p' m) :
    LogGrows p' v w := by
  obtain ⟨new, hlog, hnew⟩ := h
  exact ⟨new, hlog, fun m hm => hp m (hnew m hm)⟩

lemma LogGrows.trans (h₁ : LogGrows p u v) (h₂ : LogGrows p v w) : LogGrows p u w := by
  obtain ⟨new₁, hlog₁, hnew₁⟩ := h₁
  obtain ⟨new₂, hlog₂, hnew₂⟩ := h₂
  refine ⟨new₂ ++ new₁, ?_, ?_⟩
  · rw [hlog₂, hlog₁, List.append_assoc]
  · intro m hm
    rcases List.mem_append.1 hm with hm | hm
    · exact hnew₂ m hm
    · exact hnew₁ m hm

lemma LogGrows.waitAccept (hp : ∀ n b, p (.asyncAccept n b)) (v : View) :
    LogGrows p v v.waitAccept := by
  obtain ⟨flag, queue, accepts, new, hnew, h⟩ := v.waitAccept_eq
  rw [h]
  refine ⟨new, rfl, fun m hm => ?_⟩
  obtain ⟨n, b, rfl⟩ := hnew m hm
  exact hp n b

lemma LogGrows.close (hp : ∀ n b, p (.asyncAccept n b)) (v : View) (n : SessionId) :
    LogGrows p v (v.close n) := by
  rcases v.close_cases n with ⟨-, h⟩ | ⟨-, redis, userIdMap, h⟩ <;> rw [h]
  · exact LogGrows.refl v
  · exact finishClose_of_release (fun w hw => hw.trans (.waitAccept hp w)) (.of_eq rfl)

lemma LogGrows.served (hp : ∀ r a b st st' o o', p (.rankMatch r a b st st' o o'))
    (hmade : ∀ key a b, p (.matchMade key a b)) {r : QueId} {b : Bool} (h : v.Served r w b) :
    LogGrows p v w := by
  cases h with
  | nobody _ => exact .of_eq rfl
  | @pair a b uuid _ _ =>
    refine ⟨[.matchMade (roomKeyOf uuid) a b, v.pairMark r a b], rfl, ?_⟩
    simp only [List.mem_cons, List.not_mem_nil, or_false]
    rintro m (rfl | rfl)
    · exact hmade _ _ _
    · exact hp _ _ _ _ _ _ _

end View

/-- The entries that a packet adds to the log. -/
lemma PacketStep.logGrows {v w : View} {n : SessionId} {q : Packet} (h : PacketStep v n q w) :
    v.LogGrows (Mark.OfPacket n q) w := by
  have haccept : ∀ k b, Mark.OfPacket n q (.asyncAccept k b) := fun _ _ => trivial
  have hpair : ∀ r a b st st' o o', Mark.OfPacket n q (.rankMatch r a b st st' o o') :=
    fun _ _ _ _ _ _ _ => trivial
  cases h with
  | config _ | other _ | notJoined _ | notLoggedOut _ | notConfirmed _ | refused _ _
  | burnt _ _ _ => exact .of_eq rfl
  | friends h => cases h <;> exact .of_eq rfl
  | relayed h =>
    cases h with
    | refused | self _ | deny => exact .of_eq rfl
    | @accept m uuid _ _ _ _ _ _ =>
      exact .one (m := .matchMade (roomKeyOf uuid) n m) rfl (Or.inr ⟨_, rfl⟩)
    | @apply m _ _ _ _ _ => exact .one rfl (trivial : Mark.OfPacket n _ (.applied n m))
  | @joined message id _ _ _ _ => exact .one (m := .joined n id) rfl ⟨rfl, message, rfl⟩
  | loggedOut _ => exact .one (m := .loggedOut n) rfl ⟨rfl, rfl⟩
  | confirmed _ => exact (View.LogGrows.of_eq rfl).trans (View.LogGrows.close haccept _ _)
  | @ranked u b h =>
    have hserved : v.LogGrows (Mark.OfPacket n .playRankReq) u :=
      View.LogGrows.trans (.one (m := .setMatchingQue n _) rfl ⟨rfl, rfl⟩)
        (View.LogGrows.served hpair (fun _ _ _ => Or.inl rfl) h)
    rcases u.armUnless_cases n b with heq | heq <;> rw [heq]
    · exact hserved.trans (.of_eq rfl)
    · exact hserved

/-- The entries that a step adds to the log. -/
lemma ViewStep.logGrows {v w : View} {e : Event} (h : ViewStep v e w) :
    v.LogGrows (v.MayLog e) w := by
  have haccept : ∀ n b, v.MayLog e (.asyncAccept n b) := fun _ _ => trivial
  have hpair : ∀ r a b st st' o o', v.MayLog e (.rankMatch r a b st st' o o') :=
    fun _ _ _ _ _ _ _ => trivial
  cases h with
  | startAccept _ _ => exact (View.LogGrows.of_eq rfl).trans (View.LogGrows.waitAccept haccept _)
  | @accepted n _ _ =>
    have hnote : v.LogGrows (v.MayLog (.acceptDone n false)) (v.note (.accepted n)) :=
      .one rfl (rfl : Event.acceptDone n false = _)
    exact (hnote.trans (.of_eq rfl)).trans (View.LogGrows.waitAccept haccept _)
  | acceptFailed _ _ | receive _ _ | receiveEnd _ | readFailed _ _ | timerIdle _ _ | writeDone _
  | world => exact .of_eq rfl
  | disconnected _ _ _ => exact (View.LogGrows.of_eq rfl).trans (View.LogGrows.close haccept _ _)
  | @timerWiden n i answers _ _ _ _ h =>
    have hnote : v.LogGrows (v.MayLog (.timer n i answers)) (v.note (.widened n)) :=
      .one rfl ⟨i, answers, rfl⟩
    have hmade : ∀ key a b, v.MayLog (.timer n i answers) (.matchMade key a b) :=
      fun _ _ _ => ⟨n, Or.inr (Or.inr ⟨i, answers, rfl⟩)⟩
    have hserved := View.LogGrows.served hpair hmade h
    exact (hnote.trans (.of_eq rfl)).trans hserved
  | @packet n q rest answers _ hcur h =>
    have hgrows : v.LogGrows (Mark.OfPacket n q) w := (View.LogGrows.of_eq rfl).trans h.logGrows
    refine hgrows.mono fun m hm => ?_
    have hthis : v.Handles (.packet answers) n q := ⟨answers, rest, rfl, hcur⟩
    cases m with
    | accepted _ | widened _ => exact hm.elim
    | joined k id =>
      obtain ⟨rfl, message, rfl⟩ := hm
      exact ⟨message, hthis⟩
    | loggedOut k | setMatchingQue k r =>
      obtain ⟨rfl, rfl⟩ := hm
      exact hthis
    | matchMade key a b =>
      rcases hm with rfl | ⟨message, rfl⟩
      · exact ⟨n, Or.inl hthis⟩
      · exact ⟨n, Or.inr (Or.inl ⟨message, hthis⟩)⟩
    | asyncAccept _ _ | rankMatch _ _ _ _ _ _ _ | applied _ _ => trivial

/-! ### Invariants -/

/-- The view of an initial state. -/
lemma Initial.view_eq {s : Server} (h : Initial s) :
    ∃ b : Boot, s.view = (Boot.init b).view.waitAccept := by
  obtain ⟨b, r, h⟩ := h
  exact ⟨b, view_waitAccept h⟩

/-- The induction rule for properties of the view: initially the view is that of a server
that waits for its first connection, and the steps are those of the list. -/
theorem ReachedBy.view_invariant (ok : View → Event → Prop) {P : View → Prop}
    (h0 : ∀ b : Boot, P (Boot.init b).view.waitAccept)
    (hstep : ∀ v e v', P v → ok v e → ViewStep v e v' → P v') {s : Server}
    (h : ReachedBy (fun s e => ok s.view e) s) : P s.view := by
  refine Runs.Reached.invariant (I := fun s => P s.view) ?_ ?_ h
  · intro s hs
    obtain ⟨b, hv⟩ := hs.view_eq
    rw [hv]
    exact h0 b
  · intro s e s' _ hP hok hs
    exact hstep _ e _ hP hok (view_step hs)

/-- The same rule for runs without a condition. -/
lemma Reachable.view_invariant {P : View → Prop} (h0 : ∀ b : Boot, P (Boot.init b).view.waitAccept)
    (hstep : ∀ v e v', P v → ViewStep v e v' → P v') {s : Server} (h : Reachable s) : P s.view :=
  ReachedBy.view_invariant (fun _ _ => True) h0 (fun v e v' hv _ hs => hstep v e v' hv hs) h

end ChannelServer
