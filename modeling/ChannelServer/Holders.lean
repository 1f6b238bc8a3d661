/-
Who holds a room.

`make_matching_and_send_complete` stores a room key in redis and gives it to two players, who
hold the room from then on.  The key is taken out of redis by a player whose connection ends
while it has the status `MATCH_COMPLETE`, and it is handed on to the game server by a player
who confirms the match.  A player may also leave the status `MATCH_COMPLETE` in other ways,
and then nobody removes the key (`View.Abandons`).

* `room_held`: as long as the key of a match is in redis and no player has confirmed the
  match, a connected player holds the room, when the last one does not leave in such a way.
-/
import ChannelServer.Lib.Lockstep
import ChannelServer.LoginMap
import ChannelServer.Matching
import ChannelServer.Rooms

namespace ChannelServer

open Resumption WaitingRoom

namespace View

/-- The session is connected, and it is a player of the match with this room key. -/
def HoldsRoom (v : View) (key : Str) (n : SessionId) : Prop :=
  v.Connected n ∧ v.stat n = .matchComplete ∧ v.roomKey n = key

/-- The packet takes a player out of the status `MATCH_COMPLETE`, and leaves the key in redis. -/
def AbandonsBy (v : View) (n : SessionId) : Packet → Prop
  | .joinReq _ => True
  | .logoutReq => v.redis (v.token n) ≠ none
  | .playRankReq => True
  | .playFriendsRel message => v.userIdMap message.targetId = some n
  | _ => False

/-- The event is such a packet of the session, or an error of its read after which the session
is not closed. -/
def Abandons (v : View) (e : Event) (n : SessionId) : Prop :=
  (∃ p, v.Handles e n p ∧ v.AbandonsBy n p) ∨ e = .receiveError n true .other

/-- A player of the match with this room key leaves through `MATCH_CONFIRM`. -/
def ConfirmsRoom (v : View) (e : Event) (key : Str) : Prop :=
  ∃ n, v.Handles e n .matchConfirm ∧ v.stat n = .matchComplete ∧ v.roomKey n = key

/-- The last session that holds the room does not abandon it. -/
def KeepsRoom (v : View) (key : Str) (e : Event) : Prop :=
  ∀ n, v.HoldsRoom key n → v.Abandons e n → ∃ m, m ≠ n ∧ v.HoldsRoom key m

/-- The timer of a session pairs it with a session that is still read, or it is still read
itself. -/
def ReadsPlayer (v : View) : Event → Prop
  | .timer n _ _ => ∀ m, v.matchingQue sharedQue = [m] → v.waiting m = true →
      v.waiting n = true → v.BeingRead m ∨ v.BeingRead n
  | _ => True

variable {v w : View} {n k : SessionId} {key : Str}

/-! ### Closing a session -/

lemma waitAccept_room (v : View) :
    v.waitAccept.roomKey = v.roomKey ∧ v.waitAccept.redis = v.redis := by
  obtain ⟨flag, queue, accepts, new, -, h⟩ := v.waitAccept_eq
  rw [h]
  exact ⟨rfl, rfl⟩

lemma finishClose_room (v : View) (n : SessionId) :
    (v.finishClose n).stat = Function.update v.stat n .wait ∧
      (v.finishClose n).roomKey = v.roomKey ∧ (v.finishClose n).redis = v.redis := by
  obtain ⟨flag, queue, accepts, new, -, h⟩ := v.finishClose_eq n
  rw [h]
  exact ⟨rfl, rfl, rfl⟩

/-- Closing a session leaves the statuses and the room keys of the others alone. -/
lemma close_room (hkn : k ≠ n) :
    (v.close n).stat k = v.stat k ∧ (v.close n).roomKey k = v.roomKey k := by
  rcases v.close_cases n with ⟨-, h⟩ | ⟨-, redis, userIdMap, h⟩ <;> rw [h]
  · exact ⟨rfl, rfl⟩
  · obtain ⟨hstat, hkey, -⟩ :=
      View.finishClose_room { v with redis := redis, userIdMap := userIdMap } n
    rw [hstat, hkey, Function.update_of_ne hkn]
    exact ⟨rfl, rfl⟩

/-- A player whose connection ends removes the key of its room. -/
lemma close_redis (hst : v.stat n = .matchComplete) : (v.close n).redis (v.roomKey n) = none := by
  unfold close
  rw [hst]
  dsimp only
  rw [(finishClose_room _ n).2.2]
  show Function.update (Function.update v.redis (v.roomKey n) none) (v.token n) none _ = none
  by_cases htoken : v.roomKey n = v.token n
  · rw [htoken, Function.update_self]
  · rw [Function.update_of_ne htoken, Function.update_self]

/-- Serving a queue changes the statuses and the room keys of sessions that wait. -/
lemma Served.room {r : QueId} {b : Bool} (h : v.Served r w b) (hk : v.stat k ≠ .matchRequest) :
    w.stat k = v.stat k ∧ w.roomKey k = v.roomKey k := by
  cases h with
  | nobody _ => exact ⟨rfl, rfl⟩
  | @pair a b uuid h _ =>
    obtain ⟨ha, hb, -, -⟩ := serve_pair h
    have hne : ∀ m, v.waiting m = true → k ≠ m := by
      rintro m hm rfl
      simp only [waiting, Bool.and_eq_true, decide_eq_true_eq] at hm
      exact hk hm.2
    show Function.update (Function.update v.stat a _) b _ k = _ ∧
      Function.update (Function.update v.roomKey a _) b _ k = _
    rw [Function.update_of_ne (hne b hb), Function.update_of_ne (hne a ha),
      Function.update_of_ne (hne b hb), Function.update_of_ne (hne a ha)]
    exact ⟨rfl, rfl⟩

lemma setStat_room (v : View) {st : Status} (hkn : k ≠ n) :
    (v.setStat n st).stat k = v.stat k ∧ (v.setStat n st).roomKey k = v.roomKey k :=
  ⟨Function.update_of_ne hkn _ _, rfl⟩

end View

/-! ### One step -/

/-- A player keeps its status and its room key, unless it abandons the room or confirms. -/
lemma PacketStep.room {v w : View} {n k : SessionId} {p : Packet} (h : PacketStep v n p w)
    (hst : v.stat k = .matchComplete)
    (hkeeps : n = k → ¬ v.AbandonsBy k p ∧ p ≠ .matchConfirm) :
    w.stat k = .matchComplete ∧ w.roomKey k = v.roomKey k := by
  have hne : v.AbandonsBy k p ∨ p = .matchConfirm → k ≠ n := by
    rintro hleaves rfl
    obtain ⟨hnot, hconf⟩ := hkeeps rfl
    exact hleaves.elim hnot hconf
  suffices hsame : w.stat k = v.stat k ∧ w.roomKey k = v.roomKey k by
    rw [hsame.1, hsame.2]
    exact ⟨hst, rfl⟩
  cases h with
  | config _ | other _ | notJoined _ | notLoggedOut _ | notConfirmed _ | burnt _ _ _ =>
    exact ⟨rfl, rfl⟩
  | friends h => cases h <;> exact ⟨rfl, rfl⟩
  | refused _ _ | joined _ _ _ => exact v.setStat_room (hne (Or.inl trivial))
  | loggedOut h =>
    refine v.setStat_room ?_
    rintro rfl
    exact hne (Or.inl (by simp [View.AbandonsBy, h])) rfl
  | confirmed _ =>
    have hkn := hne (Or.inr rfl)
    obtain ⟨hstat, hkey⟩ := View.close_room (v := v.setStat n .matchConfirm) hkn
    rw [hstat, hkey]
    exact v.setStat_room hkn
  | @ranked u b h =>
    have hkn := hne (Or.inl trivial)
    have henter : (v.enter n (checkRating (v.rating n)).que).stat k = v.stat k :=
      Function.update_of_ne hkn _ _
    obtain ⟨hstat, hkey⟩ := h.room (k := k) (by rw [henter, hst]; simp)
    have hu : u.stat k = v.stat k ∧ u.roomKey k = v.roomKey k := ⟨hstat.trans henter, hkey⟩
    rcases u.armUnless_cases n b with heq | heq <;> rw [heq] <;> exact hu
  | relayed h =>
    have hpending : ∀ m, v.stat m ≠ .matchComplete → k ≠ m := by
      rintro m hm rfl
      exact hm hst
    cases h with
    | refused => exact ⟨rfl, rfl⟩
    | self hself =>
      refine v.setStat_room ?_
      rintro rfl
      exact hne (Or.inl hself) rfl
    | @accept m uuid _ _ _ hn hm _ =>
      have hkn := hpending n (by rw [hn]; simp)
      have hkm := hpending m (by rw [hm]; simp)
      show Function.update (Function.update v.stat n _) m _ k = _ ∧
        Function.update (Function.update v.roomKey n _) m _ k = _
      rw [Function.update_of_ne hkm, Function.update_of_ne hkn, Function.update_of_ne hkm,
        Function.update_of_ne hkn]
      exact ⟨rfl, rfl⟩
    | @apply m _ _ _ hn hm | @deny m _ _ _ hn hm =>
      have hkn := hpending n (by rw [hn]; simp)
      have hkm := hpending m (by rw [hm]; simp)
      show Function.update (Function.update v.stat n _) m _ k = _ ∧ _
      rw [Function.update_of_ne hkm, Function.update_of_ne hkn]
      exact ⟨rfl, rfl⟩

/-- **A room stays held** by a session that does not abandon it, one step. -/
theorem ViewStep.holdsRoom {v w : View} {e : Event} (h : ViewStep v e w) (hp : v.PoolOk)
    {key : Str} {k : SessionId} (hk : v.HoldsRoom key k) (habandons : ¬ v.Abandons e k)
    (hconfirms : ¬ v.ConfirmsRoom e key) (hstill : w.redis key ≠ none) : w.HoldsRoom key k := by
  obtain ⟨hconn, hst, hkey⟩ := hk
  -- a read that ends the connection would have removed the key
  have hread : ∀ error, e ≠ .receiveError k true error := by
    rintro error rfl
    cases h with
    | readFailed _ _ => exact habandons (Or.inr rfl)
    | disconnected _ _ _ =>
      rw [← hkey] at hstill
      exact hstill (View.close_redis (v := { v with reads := v.reads.erase ⟨k, true⟩ }) hst)
  have hconn' : w.Connected k := by
    rcases h.connected hp hconn with hconn' | ⟨error, rfl⟩ | ⟨hthis, -⟩
    · exact hconn'
    · exact absurd rfl (hread error)
    · exact absurd ⟨k, hthis, hst, hkey⟩ hconfirms
  refine ⟨hconn', ?_⟩
  rw [← hkey]
  cases h with
  | startAccept _ _ =>
    rw [(View.waitAccept_stat _).1, (View.waitAccept_room _).1]
    exact ⟨hst, rfl⟩
  | @accepted n _ hn =>
    have hkn : k ≠ n := by
      rintro rfl
      exact hp.not_active_of_accepts hn hconn.1
    unfold View.accept
    rw [(View.waitAccept_stat _).1, (View.waitAccept_room _).1]
    exact ⟨(Function.update_of_ne hkn _ _).trans hst, rfl⟩
  | acceptFailed _ _ | receive _ _ | receiveEnd _ | readFailed _ _ | timerIdle _ _ | writeDone _
  | world => exact ⟨hst, rfl⟩
  | @disconnected n error _ _ _ =>
    have hkn : k ≠ n := by
      rintro rfl
      exact hread error rfl
    obtain ⟨hstat, hroom⟩ :=
      View.close_room (v := { v with reads := v.reads.erase ⟨n, true⟩ }) hkn
    rw [hstat, hroom]
    exact ⟨hst, rfl⟩
  | @timerWiden n i answers _ b _ _ hserved =>
    obtain ⟨hstat, hroom⟩ :=
      hserved.room (k := k) fun hreq => absurd (hst.symm.trans hreq) (by simp)
    rw [hstat, hroom]
    exact ⟨hst, rfl⟩
  | @packet n p rest answers _ hcur hpacket =>
    refine hpacket.room hst ?_
    rintro rfl
    have hthis : v.Handles (.packet answers) n p := ⟨answers, rest, rfl, hcur⟩
    refine ⟨fun hleaves => habandons (Or.inl ⟨p, hthis, ?_⟩), ?_⟩
    · cases p <;> exact hleaves
    · rintro rfl
      exact hconfirms ⟨n, hthis, hst, hkey⟩

/-- An event lets one session at most abandon its room. -/
lemma View.Abandons.unique {v : View} {e : Event} {n m : SessionId} (hn : v.Abandons e n)
    (hm : v.Abandons e m) : m = n := by
  rcases hn with ⟨p, ⟨answers, rest, rfl, hcur⟩, -⟩ | rfl
  · rcases hm with ⟨q, ⟨answers', rest', -, hcur'⟩, -⟩ | heq
    · exact (Prod.mk.inj (Option.some.inj (hcur'.symm.trans hcur))).1
    · cases heq
  · rcases hm with ⟨q, ⟨answers', rest', heq, -⟩, -⟩ | heq
    · cases heq
    · exact (Event.receiveError.inj heq).1.symm

/-- A login request that fails at the database takes nobody out of a room. -/
lemma View.HoldsRoom.nextPacket {v : View} {key : Str} {k n : SessionId} {ps rest : List Packet}
    (hk : v.HoldsRoom key k) (hcur : v.current = some (n, ps)) (redis : Str → Option Str) :
    View.HoldsRoom { v with current := some (n, rest), redis := redis } key k :=
  ⟨⟨hk.1.1, (View.beingRead_nextPacket hcur k).2 hk.1.2⟩, hk.2⟩

/-- The last player who is connected does not abandon the room, or the event is a login request
that fails at the database. -/
def Server.KeepsRoom (s : Server) (key : Str) (e : Event) : Prop :=
  s.view.KeepsRoom key e ∨ s.JoinFails e

/-- **Somebody holds the room**, one step. -/
lemma Step.exists_holdsRoom {s s' : Server} {e : Event} (h : Step s e s') (hs : Reachable s)
    {key : Str} (hheld : ∃ n, s.view.HoldsRoom key n) (hkeeps : s.KeepsRoom key e)
    (hconfirms : ¬ s.view.ConfirmsRoom e key) (hstill : s'.redis key ≠ none) :
    ∃ n, s'.view.HoldsRoom key n := by
  obtain ⟨n, hn⟩ := hheld
  rcases hkeeps with hkeeps | hfails
  · -- one of the players does not abandon the room in this step
    have hstays : ∃ k, s.view.HoldsRoom key k ∧ ¬ s.view.Abandons e k := by
      by_cases habandons : s.view.Abandons e n
      · obtain ⟨m, hmn, hm⟩ := hkeeps n hn habandons
        exact ⟨m, hm, fun hm' => hmn (habandons.unique hm')⟩
      · exact ⟨n, hn, habandons⟩
    obtain ⟨k, hk, habandons⟩ := hstays
    exact ⟨k, (view_step h).holdsRoom hs.poolOk hk habandons hconfirms hstill⟩
  · obtain ⟨m, ps, rest, redis, hcur, hview⟩ := h.view_of_joinFails hfails
    rw [hview]
    exact ⟨n, hn.nextPacket hcur redis⟩

/-! ### The players of a match -/

/-- The players of a match. -/
def View.Matched (v : View) (key : Str) (a b : SessionId) : Prop :=
  (v.stat a = .matchComplete ∧ v.roomKey a = key) ∧ v.stat b = .matchComplete ∧ v.roomKey b = key

lemma View.matched_matched (v : View) (key : Str) {a b : SessionId} (hab : a ≠ b) :
    (v.matched key a b).Matched key a b := by
  refine ⟨⟨?_, ?_⟩, Function.update_self _ _ _, Function.update_self _ _ _⟩
  · show Function.update (Function.update v.stat a _) b _ a = _
    rw [Function.update_of_ne hab, Function.update_self]
  · show Function.update (Function.update v.roomKey a _) b _ a = _
    rw [Function.update_of_ne hab, Function.update_self]

/-- Serving a queue makes at most one match, for the pair that leaves it. -/
lemma View.Served.made {v w : View} {r : QueId} {c : Bool} (h : v.Served r w c) :
    madeKeys w.log = madeKeys v.log ∨ ∃ a b key,
      (serve v.waiting (v.matchingQue r)).1 = some (a, b) ∧
      madeKeys w.log = key :: madeKeys v.log ∧ w.Matched key a b := by
  cases h with
  | nobody _ => exact Or.inl rfl
  | @pair a b uuid h _ =>
    exact Or.inr ⟨a, b, roomKeyOf uuid, h, rfl, View.matched_matched _ _ (serve_pair h).2.2.1⟩

/-- The pair that is served after `n` was appended to a queue of at most one entry. -/
lemma View.serve_appended {v : View} {n : SessionId} {q : List SessionId} (hlen : q.length ≤ 1)
    {a b : SessionId} (h : (serve v.waiting (q ++ [n])).1 = some (a, b)) :
    q = [a] ∧ b = n ∧ v.waiting a = true ∧ v.waiting n = true := by
  obtain ⟨ha, hb, -, hq⟩ := serve_pair h
  match q, hlen with
  | [], _ => simp at hq
  | [c], _ =>
    obtain ⟨rfl, hq'⟩ := List.cons.inj hq
    have hbn : n = b := (List.cons.inj hq').1
    rw [hbn]
    exact ⟨rfl, rfl, ha, hb⟩

lemma View.isOpen_of_waiting {v : View} {n : SessionId} (h : v.waiting n = true) :
    v.isOpen n = true := by
  simp only [View.waiting, Bool.and_eq_true] at h
  exact h.1

/-- A match is made by a packet or by a timer, and one of its players was connected before. -/
lemma ViewStep.made_players {v w : View} {e : Event} (h : ViewStep v e w) (hp : v.PoolOk)
    (hque : ∀ r, (v.matchingQue r).length ≤ 1) (hreads : v.ReadsPlayer e) {new : List Mark}
    (hlog : w.log = new ++ v.log) {key : Str} (hkey : key ∈ madeKeys new) :
    ∃ n, v.Connected n ∧ w.stat n = .matchComplete ∧ w.roomKey n = key := by
  have hmade : madeKeys w.log = madeKeys new ++ madeKeys v.log := by
    rw [hlog, madeKeys_append]
  -- the match that the step makes is the one with this key
  have hone : ∀ key', madeKeys w.log = key' :: madeKeys v.log → key = key' := by
    intro key' heq
    have hnew : madeKeys new = [key'] := List.append_cancel_right (hmade.symm.trans heq)
    rw [hnew] at hkey
    exact List.mem_singleton.1 hkey
  have hnone : madeKeys w.log ≠ madeKeys v.log := by
    intro heq
    rw [List.self_eq_append_left.1 (heq.symm.trans hmade)] at hkey
    cases hkey
  obtain ⟨x, y, hm⟩ := mem_madeKeys.1 hkey
  obtain ⟨new', hlog', hmay⟩ := h.logGrows
  obtain rfl : new = new' := List.append_cancel_right (hlog.symm.trans hlog')
  obtain ⟨n, ⟨answers, rest, rfl, hcur⟩ | ⟨message, answers, rest, rfl, hcur⟩ |
    ⟨i, answers, rfl⟩⟩ := hmay _ hm
  · -- a rank request, whose own session is one of the players
    cases h with
    | packet hcur' hpacket =>
      obtain ⟨rfl, hq⟩ := Prod.mk.inj (Option.some.inj (hcur.symm.trans hcur'))
      obtain ⟨rfl, rfl⟩ := List.cons.inj hq
      cases hpacket with
      | @ranked u c hserved =>
        have harm : (u.armUnless n c).log = u.log ∧ (u.armUnless n c).stat = u.stat ∧
            (u.armUnless n c).roomKey = u.roomKey := by
          rcases u.armUnless_cases n c with heq | heq <;> rw [heq] <;> exact ⟨rfl, rfl, rfl⟩
        rw [harm.1] at hone hnone
        rw [harm.2.1, harm.2.2]
        rcases hserved.made with heq | ⟨a, b, key', hpair, heq, hplayers⟩
        · exact absurd heq hnone
        · obtain rfl := hone key' heq
          have hentered : (View.enter { v with current := some (n, rest) } n
              (checkRating (v.rating n)).que).matchingQue (checkRating (v.rating n)).que =
                v.matchingQue (checkRating (v.rating n)).que ++ [n] := Function.update_self _ _ _
          rw [hentered] at hpair
          obtain ⟨-, rfl, -, hwait⟩ := View.serve_appended (hque _) hpair
          have hopen := View.isOpen_of_waiting hwait
          exact ⟨b, ⟨(hp.isOpen_iff b).1 hopen, Or.inr ⟨_, hcur⟩⟩, hplayers.2⟩
  · -- a player who accepts an invitation
    cases h with
    | packet hcur' hpacket =>
      obtain ⟨rfl, hq⟩ := Prod.mk.inj (Option.some.inj (hcur.symm.trans hcur'))
      obtain ⟨rfl, rfl⟩ := List.cons.inj hq
      cases hpacket with
      | relayed hrelayed =>
        cases hrelayed with
        | refused | self _ | apply | deny => exact absurd rfl hnone
        | @accept m uuid _ _ hne hn _ _ =>
          obtain rfl := hone (roomKeyOf uuid) rfl
          have hact : n ∈ v.active := by
            by_contra hact
            exact (hp.current_closed n _ hcur hact).2 hn
          exact ⟨n, ⟨hact, Or.inr ⟨_, hcur⟩⟩, (View.matched_matched _ _ hne.symm).1⟩
  · cases h with
    | timerIdle _ _ => exact absurd rfl hnone
    | timerWiden _ _ hserved =>
      rcases hserved.made with heq | ⟨a, b, key', hpair, heq, hplayers⟩
      · exact absurd heq hnone
      · obtain rfl := hone key' heq
        have hwidened : (View.widen { v with
            waits := Function.update v.waits n ((v.waits n).eraseIdx i) } n).matchingQue sharedQue =
              v.matchingQue sharedQue ++ [n] := by
          simp [View.widen]
        rw [hwidened] at hpair
        obtain ⟨hqueue, rfl, hwaita, hwaitb⟩ := View.serve_appended (hque _) hpair
        have hopena : v.isOpen a = true := View.isOpen_of_waiting hwaita
        have hopenb : v.isOpen b = true := View.isOpen_of_waiting hwaitb
        rcases hreads a hqueue hwaita hwaitb with hread | hread
        · exact ⟨a, ⟨(hp.isOpen_iff a).1 hopena, hread⟩, hplayers.1⟩
        · exact ⟨b, ⟨(hp.isOpen_iff b).1 hopenb, hread⟩, hplayers.2⟩

/-- **A match has a player who holds its room** after the step that makes it. -/
lemma Step.made_room {s s' : Server} {e : Event} (h : Step s e s') (hs : Reachable s)
    (hreads : s.view.ReadsPlayer e) {new : List Mark} (hlog : s'.log = new ++ s.log) {key : Str}
    (hkey : key ∈ madeKeys new) : ∃ n, s'.view.HoldsRoom key n := by
  have hview := view_step h
  obtain ⟨n, hconn, hplayer⟩ :=
    hview.made_players hs.poolOk hs.length_matchingQue hreads hlog hkey
  refine ⟨n, ?_, hplayer⟩
  rcases hview.connected hs.poolOk hconn with hconn' | hleaves
  · exact hconn'
  · -- neither the end of a read nor a confirmation makes a match
    exfalso
    obtain ⟨x, y, hm⟩ := mem_madeKeys.1 hkey
    obtain ⟨new', hlog', hmay⟩ := hview.logGrows
    obtain rfl : new = new' := List.append_cancel_right (hlog.symm.trans hlog')
    obtain ⟨m, hmade⟩ := hmay _ hm
    rcases hleaves with ⟨error, rfl⟩ | ⟨⟨answers, rest, rfl, hcur⟩, -⟩
    · rcases hmade with ⟨_, _, heq, -⟩ | ⟨_, _, _, heq, -⟩ | ⟨_, _, heq⟩ <;> cases heq
    · rcases hmade with ⟨_, _, -, hcur'⟩ | ⟨_, _, _, -, hcur'⟩ | ⟨_, _, heq⟩
      · have hq := (Prod.mk.inj (Option.some.inj (hcur.symm.trans hcur'))).2
        cases hq
      · have hq := (Prod.mk.inj (Option.some.inj (hcur.symm.trans hcur'))).2
        cases hq
      · cases heq

/-! ### Runs -/

/-- **Rooms do not leak** while their last players do not abandon them.  A match with the room
key `key` is made in the step from `s₀` to `s₁`, and of a pair that a timer makes one player is
still read.  Then follows a run in which the key stays in redis, no player confirms the match,
and the last connected player does not abandon the room.  At its end a connected session in the
status `MATCH_COMPLETE` has this room key. -/
theorem room_held {s₀ s₁ s : Server} {e : Event} {es : List Event} {key : Str} {new : List Mark}
    (h : Reachable s₀) (hstep : Step s₀ e s₁) (hlog : s₁.log = new ++ s₀.log)
    (hkey : key ∈ madeKeys new) (hreads : s₀.view.ReadsPlayer e)
    (hrun : Runs.Path Step (fun t e => (t.redis key ≠ none ∧ ¬ t.view.ConfirmsRoom e key) ∧
      t.KeepsRoom key e) s₁ es s)
    (hstill : s.redis key ≠ none) :
    ∃ n, s.view.Connected n ∧ (s.sess n).stat = .matchComplete ∧ (s.sess n).roomKey = key := by
  have hs₁ : Reachable s₁ := .step h trivial hstep
  have hheld : ∃ n, s₁.view.HoldsRoom key n := hstep.made_room h hreads hlog hkey
  clear hstep hlog
  induction hrun with
  | nil t => exact hheld
  | cons hok hs hrest ih =>
    obtain ⟨⟨-, hconfirms⟩, hkeeps⟩ := hok
    refine ih hstill (.step hs₁ trivial hs) ?_
    refine hs.exists_holdsRoom hs₁ hheld hkeeps hconfirms ?_
    -- the key is there before the next step, or at the end
    cases hrest with
    | nil => exact hstill
    | cons hok' _ _ => exact hok'.1.1

/-- Two users whose ratings belong to the same bracket. -/
def rivals : Boot :=
  Boot.plain 2 1
    (fun token => if token = lit "ta" then some (lit "a")
      else if token = lit "tb" then some (lit "b") else none)
    ⟨[⟨lit "a", 3, 1, 350⟩, ⟨lit "b", 0, 2, 360⟩], []⟩

/-- Both log in and ask for a match; the last packet is still to come. -/
def beforeMatch : List Event :=
  [.acceptDone 0 false, .acceptDone 1 false,
    .receive 0 [.joinReq ⟨lit "ta", lit "a"⟩, .playRankReq], .packet ⟨[], [], 1⟩,
    .packet ⟨[], [], 0⟩, .receiveEnd,
    .receive 1 [.joinReq ⟨lit "tb", lit "b"⟩, .playRankReq], .packet ⟨[], [], 1⟩]

/-- The packet that makes the match, and its room key. -/
def matchPacket : Event := .packet ⟨[List.replicate 16 7], [], 0⟩

def matchKey : Str := roomKeyOf (List.replicate 16 7)

/-- The conditions of `room_held` as a computation, for a run in which the first player logs
out. -/
private def roomTest (s : Server) : Event → Bool
  | .packet _ =>
      match s.current with
      | some (0, .logoutReq :: _) =>
          (s.redis matchKey).isSome && decide ((1 ∈ s.active ∧ ⟨1, true⟩ ∈ s.reads) ∧
            (s.sess 1).stat = .matchComplete ∧ (s.sess 1).roomKey = matchKey)
      | _ => false
  | .receive _ _ => (s.redis matchKey).isSome
  | .receiveEnd => (s.redis matchKey).isSome
  | _ => false

private lemma keepsRoom_of_test {s : Server} {e : Event} (h : roomTest s e = true) :
    (s.redis matchKey ≠ none ∧ ¬ s.view.ConfirmsRoom e matchKey) ∧ s.KeepsRoom matchKey e := by
  have hquiet : (∀ n p, ¬ s.view.Handles e n p) → (∀ n, e ≠ .receiveError n true .other) →
      (s.redis matchKey).isSome →
      (s.redis matchKey ≠ none ∧ ¬ s.view.ConfirmsRoom e matchKey) ∧ s.KeepsRoom matchKey e := by
    intro hpacket hread hkey
    refine ⟨⟨Option.isSome_iff_ne_none.1 hkey, fun ⟨n, hthis, _⟩ => hpacket n _ hthis⟩, Or.inl ?_⟩
    rintro n - (⟨p, hthis, -⟩ | heq)
    · exact absurd hthis (hpacket n p)
    · exact absurd heq (hread n)
  cases e with
  | receive _ _ | receiveEnd =>
    exact hquiet (fun n p ⟨_, _, heq, _⟩ => by cases heq) (fun n heq => by cases heq) h
  | packet answers =>
    simp only [roomTest] at h
    split at h
    · rename_i rest hcur
      obtain ⟨hkey, htest⟩ := Bool.and_eq_true_iff.1 h
      obtain ⟨⟨hact, hread⟩, hst, hroom⟩ := of_decide_eq_true htest
      have hcur' : s.view.current = some (0, .logoutReq :: rest) := hcur
      refine ⟨⟨Option.isSome_iff_ne_none.1 hkey, ?_⟩, Or.inl ?_⟩
      · rintro ⟨n, ⟨_, _, -, hthis⟩, -⟩
        have hq := (Prod.mk.inj (Option.some.inj (hcur'.symm.trans hthis))).2
        cases hq
      · rintro n - (⟨p, ⟨_, _, -, hthis⟩, -⟩ | heq)
        · obtain ⟨rfl, -⟩ := Prod.mk.inj (Option.some.inj (hcur'.symm.trans hthis))
          exact ⟨1, by decide, ⟨hact, Or.inl hread⟩, hst, hroom⟩
        · cases heq
    · cases h
  | startAccept | acceptDone _ _ | receiveError _ _ _ | timer _ _ _ | writeDone _ _ | world _ _ =>
    cases h

/-- The first player logs out, and the second one still holds the room. -/
theorem room_held_one_logout :
    ∃ s₀ s₁ s new, run rivals beforeMatch = some s₀ ∧ Step s₀ matchPacket s₁ ∧
      s₁.log = new ++ s₀.log ∧ matchKey ∈ madeKeys new ∧
      Runs.exec (fun s e => if roomTest s e then next s e else none) s₁
        [.receiveEnd, .receive 0 [.logoutReq], .packet ⟨[], [], 0⟩] = some s ∧
      s.redis matchKey ≠ none ∧
      ∃ n, s.view.Connected n ∧ (s.sess n).stat = .matchComplete ∧
        (s.sess n).roomKey = matchKey := by
  have hrun : ((run rivals beforeMatch).bind fun s₀ => (next s₀ matchPacket).bind fun s₁ =>
      (Runs.exec (fun s e => if roomTest s e then next s e else none) s₁
        [.receiveEnd, .receive 0 [.logoutReq], .packet ⟨[], [], 0⟩]).map fun s =>
          decide (s₁.log = s₁.log.take 3 ++ s₀.log ∧ matchKey ∈ madeKeys (s₁.log.take 3) ∧
            s.redis matchKey ≠ none)) = some true := by decide
  obtain ⟨s₀, hs₀, hrun⟩ := Option.bind_eq_some_iff.1 hrun
  obtain ⟨s₁, hs₁, hrun⟩ := Option.bind_eq_some_iff.1 hrun
  obtain ⟨s, hs, htest⟩ := Option.map_eq_some_iff.1 hrun
  obtain ⟨hlog, hkey, hstill⟩ := of_decide_eq_true htest
  have hpath : Runs.Path Step (fun t e =>
      (t.redis matchKey ≠ none ∧ ¬ t.view.ConfirmsRoom e matchKey) ∧ t.KeepsRoom matchKey e) s₁
      [.receiveEnd, .receive 0 [.logoutReq], .packet ⟨[], [], 0⟩] s := by
    refine Runs.Path.of_exec (fun s e t hn => ?_) hs
    obtain ⟨htest, hn⟩ := Option.ite_none_right_eq_some.1 hn
    exact ⟨keepsRoom_of_test htest, step_of_next hn⟩
  exact ⟨s₀, s₁, s, _, hs₀, step_of_next hs₁, hlog, hkey, hs, hstill,
    room_held (reachable_of_run hs₀) (step_of_next hs₁) hlog hkey trivial hpath hstill⟩

/-- No player confirms a match in this event, as a computation. -/
private def noConfirmTest (s : Server) : Event → Bool
  | .packet _ =>
      match s.current with
      | some (_, .matchConfirm :: _) => false
      | _ => (s.redis matchKey).isSome
  | _ => (s.redis matchKey).isSome

private lemma noConfirm_of_test {s : Server} {e : Event} (h : noConfirmTest s e = true) :
    s.redis matchKey ≠ none ∧ ¬ s.view.ConfirmsRoom e matchKey := by
  constructor
  · rw [← Option.isSome_iff_ne_none]
    cases e with
    | packet answers =>
      simp only [noConfirmTest] at h
      split at h
      · cases h
      · exact h
    | startAccept | acceptDone _ _ | receive _ _ | receiveEnd | receiveError _ _ _ | timer _ _ _
    | writeDone _ _ | world _ _ => exact h
  · rintro ⟨n, ⟨answers, rest, rfl, hcur⟩, -⟩
    have hcur' : s.current = some (n, .matchConfirm :: rest) := hcur
    simp [noConfirmTest, hcur'] at h

/-- Both players log out: nobody has confirmed the match, its key is still in redis, and no
session holds the room. -/
theorem room_leaks_after_logouts :
    ∃ s₀ s₁ s new, Reachable s₀ ∧ Step s₀ matchPacket s₁ ∧ s₁.log = new ++ s₀.log ∧
      matchKey ∈ madeKeys new ∧
      Runs.Path Step (fun t e => t.redis matchKey ≠ none ∧ ¬ t.view.ConfirmsRoom e matchKey) s₁
        [.receiveEnd, .receive 0 [.logoutReq], .packet ⟨[], [], 0⟩, .receiveEnd,
          .receive 1 [.logoutReq], .packet ⟨[], [], 0⟩] s ∧
      s.redis matchKey ≠ none ∧
      ¬ ∃ n, s.view.Connected n ∧ (s.sess n).stat = .matchComplete ∧
        (s.sess n).roomKey = matchKey := by
  have hrun : ((run rivals beforeMatch).bind fun s₀ => (next s₀ matchPacket).bind fun s₁ =>
      (Runs.exec (fun s e => if noConfirmTest s e then next s e else none) s₁
        [.receiveEnd, .receive 0 [.logoutReq], .packet ⟨[], [], 0⟩, .receiveEnd,
          .receive 1 [.logoutReq], .packet ⟨[], [], 0⟩]).map fun s =>
          decide ((s₁.log = s₁.log.take 3 ++ s₀.log ∧ matchKey ∈ madeKeys (s₁.log.take 3)) ∧
            s.redis matchKey ≠ none ∧ ∀ n ∈ s.active, (s.sess n).stat ≠ .matchComplete)) =
      some true := by decide
  obtain ⟨s₀, hs₀, hrun⟩ := Option.bind_eq_some_iff.1 hrun
  obtain ⟨s₁, hs₁, hrun⟩ := Option.bind_eq_some_iff.1 hrun
  obtain ⟨s, hs, htest⟩ := Option.map_eq_some_iff.1 hrun
  obtain ⟨⟨hlog, hkey⟩, hstill, hnobody⟩ := of_decide_eq_true htest
  refine ⟨s₀, s₁, s, _, reachable_of_run hs₀, step_of_next hs₁, hlog, hkey, ?_, hstill, ?_⟩
  · refine Runs.Path.of_exec (fun s e t hn => ?_) hs
    obtain ⟨htest, hn⟩ := Option.ite_none_right_eq_some.1 hn
    exact ⟨noConfirm_of_test htest, step_of_next hn⟩
  · rintro ⟨n, hconn, hst, -⟩
    exact hnobody n hconn.1 hst

end ChannelServer
