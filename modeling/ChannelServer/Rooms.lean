/-
Rooms for two players.

A match gets a room key that was absent from redis, both of its players are told this key and
each of them the other one's record, and no other session is touched: `makeMatching_eq_done`.
Over a run, the keys of the matches are recorded in the log.  A session in the status
`MATCH_COMPLETE` carries the key of a match that it was a player of, so that with keys that are
never drawn twice, two such sessions with one key are the two players of one match.
-/
import ChannelServer.Actions
import ChannelServer.Matching
import ChannelServer.Sending

namespace ChannelServer

open Resumption

/-! ### One match -/

/-- What an opponent is told about a session. -/
def Session.info (x : Session) : UserInfo :=
  ⟨⟨x.ratingScore, x.battleHistory, x.win, x.lose⟩, x.userId⟩

/-- A session that is matched, and is told so by the message at the given address. -/
def Session.matched (x : Session) (addr : ℕ) (key : Str) (opponent : UserInfo) : Session :=
  { x with
    stat := .matchComplete
    roomKey := key
    send := x.send.push ⟨addr, .matchComplete key opponent⟩ }

section Match

variable {s s' : Server} {a b : SessionId}

/-- The key that is chosen was drawn, and it was absent from redis. -/
lemma roomKeyLoop_eq_done {k : ℕ} {key : Str} (h : (roomKeyLoop k).run s = .done key s') :
    ∃ used uuid rest, s.answers.uuids = used ++ uuid :: rest ∧ key = roomKeyOf uuid ∧
      s.redis key = none ∧ s' = { s with
        redis := Function.update s.redis key (some (lit "0"))
        answers := { s.answers with uuids := rest } } := by
  induction k generalizing s with
  | zero => cases h
  | succ k ih =>
    obtain ⟨key', s₁, h₁, h⟩ := Prog.run_bind_eq_done.1 h
    cases hu : s.answers.uuids with
    | nil => simp [generateRoomKey, Prog.run, hu] at h₁
    | cons uuid rest =>
      simp only [generateRoomKey, Prog.run, hu, Out.done.injEq] at h₁
      obtain ⟨rfl, rfl⟩ := h₁
      obtain ⟨kv, s₂, h₂, h⟩ := Prog.run_bind_eq_done.1 h
      obtain ⟨rfl, rfl⟩ := getRedisKv_eq_done h₂
      cases hkv : s.redis (roomKeyOf uuid) with
      | none =>
        simp only [hkv] at h
        obtain ⟨_, s₃, h₃, h⟩ := Prog.run_bind_eq_done.1 h
        obtain ⟨-, rfl⟩ := Out.done.inj h₃
        obtain ⟨rfl, rfl⟩ := Out.done.inj h
        exact ⟨[], uuid, rest, rfl, rfl, hkv, rfl⟩
      | some val =>
        -- the key is taken, and the next one is tried
        simp only [hkv] at h
        obtain ⟨used, uuid', rest', hrest, hkey, hnone, hs'⟩ := ih h
        exact ⟨uuid :: used, uuid', rest', congrArg (uuid :: ·) hrest, hkey, hnone, hs'⟩

lemma matchInfo_eq_done {n : SessionId} {info : UserInfo}
    (h : (matchInfo n).run s = .done info s') : info = (s.sess n).info ∧ s' = s := by
  obtain ⟨rfl, rfl⟩ := Out.done.inj h
  exact ⟨rfl, rfl⟩

lemma sendComplete_eq_done {n : SessionId} {key : Str} {opponent : UserInfo} {u : Unit}
    (h : (sendComplete n key opponent).run s = .done u s') :
    s' = { s with
      heap := s.heap + 1
      sess := Function.update s.sess n ((s.sess n).matched s.heap key opponent) } := by
  obtain ⟨-, rfl⟩ := Out.done.inj h
  simp only [Server.setSess, Function.update_self, Function.update_idem]
  rfl

/-- **One match.**  A key that was drawn, and that was absent from redis, is stored there and
told to both players. -/
lemma makeMatching_eq_done {u : Unit} (h : (makeMatchingAndSendComplete a b).run s = .done u s') :
    ∃ used uuid rest key sess, s.answers.uuids = used ++ uuid :: rest ∧ key = roomKeyOf uuid ∧
      s.redis key = none ∧
      sess = Function.update s.sess a ((s.sess a).matched s.heap key (s.sess b).info) ∧
      s' = { s with
        redis := Function.update s.redis key (some (lit "0"))
        answers := { s.answers with uuids := rest }
        log := .matchMade key a b :: s.log
        heap := s.heap + 2
        sess := Function.update sess b ((sess b).matched (s.heap + 1) key (s.sess a).info) } := by
  obtain ⟨key, s₁, h₁, h⟩ := Prog.run_bind_eq_done.1 h
  obtain ⟨k, s₀, h₀, h₁⟩ := Prog.run_bind_eq_done.1 h₁
  obtain ⟨-, rfl⟩ := Out.done.inj h₀
  obtain ⟨used, uuid, rest, hans, hkey, hnone, rfl⟩ := roomKeyLoop_eq_done h₁
  refine ⟨used, uuid, rest, key, _, hans, hkey, hnone, rfl, ?_⟩
  obtain ⟨_, s₂, h₂, h⟩ := Prog.run_bind_eq_done.1 h
  obtain ⟨-, rfl⟩ := Out.done.inj h₂
  obtain ⟨info₁, s₃, h₃, h⟩ := Prog.run_bind_eq_done.1 h
  obtain ⟨rfl, rfl⟩ := matchInfo_eq_done h₃
  obtain ⟨info₂, s₄, h₄, h⟩ := Prog.run_bind_eq_done.1 h
  obtain ⟨rfl, rfl⟩ := matchInfo_eq_done h₄
  obtain ⟨_, s₅, h₅, h⟩ := Prog.run_bind_eq_done.1 h
  rw [sendComplete_eq_done h, sendComplete_eq_done h₅]

end Match

/-! ### The keys of a run -/

/-- The room keys of the matches that were made. -/
def madeKeys (log : List Mark) : List Str :=
  log.filterMap fun
    | .matchMade key _ _ => some key
    | _ => none

lemma madeKeys_append (new old : List Mark) :
    madeKeys (new ++ old) = madeKeys new ++ madeKeys old :=
  List.filterMap_append

lemma mem_madeKeys {key : Str} {log : List Mark} :
    key ∈ madeKeys log ↔ ∃ a b, .matchMade key a b ∈ log := by
  simp only [madeKeys, List.mem_filterMap]
  constructor
  · rintro ⟨m, hm, h⟩
    cases m with
    | matchMade key' a b =>
      obtain rfl := Option.some.inj h
      exact ⟨a, b, hm⟩
    | _ => cases h
  · rintro ⟨a, b, hm⟩
    exact ⟨_, hm, rfl⟩

/-- What a handler does to the random numbers and to the log: the keys of the matches that it
makes are keys of random numbers that it had at the start. -/
structure Draws (s s' : Server) : Prop where
  uuids : ∀ u ∈ s'.answers.uuids, u ∈ s.answers.uuids
  made : ∃ new, s'.log = new ++ s.log ∧
    ∀ key ∈ madeKeys new, ∃ u ∈ s.answers.uuids, key = roomKeyOf u

lemma Draws.refl (s : Server) : Draws s s := ⟨fun _ h => h, [], rfl, by rintro key ⟨⟩⟩

lemma Draws.trans {s t u : Server} (h₁ : Draws s t) (h₂ : Draws t u) : Draws s u := by
  obtain ⟨new₁, hlog₁, hmade₁⟩ := h₁.made
  obtain ⟨new₂, hlog₂, hmade₂⟩ := h₂.made
  refine ⟨fun u hu => h₁.uuids u (h₂.uuids u hu), new₂ ++ new₁, ?_, fun key hkey => ?_⟩
  · rw [hlog₂, hlog₁, List.append_assoc]
  · rw [madeKeys_append, List.mem_append] at hkey
    rcases hkey with hkey | hkey
    · obtain ⟨v, hv, rfl⟩ := hmade₂ key hkey
      exact ⟨v, h₁.uuids v hv, rfl⟩
    · exact hmade₁ key hkey

/-- Handlers that add other entries to the log. -/
lemma Draws.of_log {s s' : Server} (hans : s'.answers.uuids = s.answers.uuids) (new : List Mark)
    (hlog : s'.log = new ++ s.log) (hnew : madeKeys new = []) : Draws s s' := by
  refine ⟨fun u hu => ?_, new, hlog, fun key hkey => ?_⟩
  · rwa [hans] at hu
  · rw [hnew] at hkey
    cases hkey

lemma drawsRules : Rules fun _ p => p.Along Draws := by
  refine .of_along Draws.refl (fun _ _ _ => Draws.trans) fun s s' h => ?_
  cases h with
  | aside hsess hlog hans => exact .of_log hans [] hlog rfl
  | member hsend hstat => exact .of_log rfl [] rfl rfl
  | waitSend => exact .of_log rfl [] rfl rfl
  | @note m hm =>
    refine .of_log rfl [m] rfl ?_
    cases m <;> first | rfl | cases hm

lemma draws_makeMatchingAndSendComplete (a b : SessionId) :
    (makeMatchingAndSendComplete a b).Along Draws := by
  intro s u s' h
  obtain ⟨used, uuid, rest, key, sess, hans, rfl, -, -, rfl⟩ := makeMatching_eq_done h
  refine ⟨fun v hv => ?_, [_], rfl, fun key hkey => ?_⟩
  · rw [hans]
    exact List.mem_append_right _ (List.mem_cons_of_mem _ hv)
  · obtain rfl : key = roomKeyOf uuid := by simpa [madeKeys] using hkey
    exact ⟨uuid, by simp [hans], rfl⟩

lemma draws_processPacket (n : SessionId) (packet : Packet) :
    (processPacket n packet).Along Draws :=
  acts_processPacket drawsRules
    (fun _ _ _ => acts_loginAs drawsRules.units _ _ _ (drawsRules.setFriendsCount _)
      (fun _ _ _ _ => drawsRules.setUserInfo _ _ _ _ _ _)
      (Prog.along_act fun s u s' h => by
        obtain ⟨-, rfl⟩ := Res.ok.inj h
        exact .of_log rfl [_] rfl rfl))
    draws_makeMatchingAndSendComplete n packet

/-- The random numbers that the handler of an event may draw for room keys. -/
def Event.uuids : Event → List Uuid
  | .packet answers => answers.uuids
  | .timer _ _ answers => answers.uuids
  | _ => []

/-- The random numbers of the event give no room key of an earlier match. -/
def Server.FreshKeys (s : Server) (e : Event) : Prop :=
  ∀ u ∈ e.uuids, roomKeyOf u ∉ madeKeys s.log

/-- The keys of the matches made by a packet or a timer are those of its random numbers. -/
lemma Step.made_drawn {s s' : Server} {e : Event} (h : Step s e s')
    (he : (∃ answers, e = .packet answers) ∨ ∃ n i answers, e = .timer n i answers) :
    ∃ new, s'.log = new ++ s.log ∧ ∀ key ∈ madeKeys new, ∃ u ∈ e.uuids, key = roomKeyOf u := by
  obtain ⟨t, hprep, hrun⟩ := step_iff.1 h
  rcases he with ⟨answers, rfl⟩ | ⟨n, i, answers, rfl⟩
  · simp only [prepare] at hprep
    split at hprep
    · rename_i n p rest hcur
      obtain rfl := Option.some.inj hprep
      simp only [handler, hcur] at hrun
      exact (draws_processPacket n p _ _ _ hrun).made
    · cases hprep
  · obtain ⟨-, ht⟩ := Option.ite_none_right_eq_some.1 hprep
    obtain rfl := Option.some.inj ht
    exact (acts_rematch drawsRules.units draws_makeMatchingAndSendComplete n _ _ _ hrun).made

/-- The keys of the matches made by a packet or a timer are new. -/
lemma Step.made_fresh {s s' : Server} {e : Event} (h : Step s e s') (hfresh : s.FreshKeys e)
    (he : (∃ answers, e = .packet answers) ∨ ∃ n i answers, e = .timer n i answers)
    {new : List Mark} (hlog : s'.log = new ++ s.log) {key : Str} (hkey : key ∈ madeKeys new) :
    key ∉ madeKeys s.log := by
  obtain ⟨new', hlog', hmade⟩ := h.made_drawn he
  obtain rfl := List.append_cancel_right (hlog.symm.trans hlog')
  obtain ⟨u, hu, rfl⟩ := hmade key hkey
  exact hfresh u hu

namespace View

variable {u v w : View} {n m a b : SessionId} {key : Str}

/-- The step makes no match: who has the status `MATCH_COMPLETE` had it before, with the same
room key. -/
structure SameRooms (v w : View) : Prop where
  complete : ∀ n, w.stat n = .matchComplete → v.stat n = .matchComplete ∧ w.roomKey n = v.roomKey n
  log : ∃ new, w.log = new ++ v.log ∧ madeKeys new = []

lemma SameRooms.refl (v : View) : v.SameRooms v := ⟨fun _ h => ⟨h, rfl⟩, [], rfl, rfl⟩

lemma SameRooms.trans (h₁ : u.SameRooms v) (h₂ : v.SameRooms w) : u.SameRooms w := by
  obtain ⟨new₁, hlog₁, hnew₁⟩ := h₁.log
  obtain ⟨new₂, hlog₂, hnew₂⟩ := h₂.log
  refine ⟨fun n hn => ?_, new₂ ++ new₁, ?_, ?_⟩
  · obtain ⟨hv, hkey⟩ := h₂.complete n hn
    obtain ⟨hu, hkey'⟩ := h₁.complete n hv
    exact ⟨hu, hkey.trans hkey'⟩
  · rw [hlog₂, hlog₁, List.append_assoc]
  · rw [madeKeys_append, hnew₁, hnew₂, List.append_nil]

/-- A change that leaves statuses and room keys alone. -/
lemma SameRooms.of_eq (hstat : w.stat = v.stat) (hkey : w.roomKey = v.roomKey) (new : List Mark)
    (hlog : w.log = new ++ v.log) (hnew : madeKeys new = []) : v.SameRooms w := by
  refine ⟨fun n hn => ?_, new, hlog, hnew⟩
  rw [hkey]
  rw [hstat] at hn
  exact ⟨hn, rfl⟩

lemma SameRooms.setStat (v : View) (n : SessionId) (st : Status) (hst : st ≠ .matchComplete) :
    v.SameRooms (v.setStat n st) := by
  refine ⟨fun k hk => ⟨?_, rfl⟩, [], rfl, rfl⟩
  rw [setStat_stat] at hk
  split at hk
  · exact absurd hk hst
  · exact hk

lemma SameRooms.waitAccept (v : View) : v.SameRooms v.waitAccept := by
  obtain ⟨flag, queue, accepts, new, hnew, h⟩ := v.waitAccept_eq
  rw [h]
  refine .of_eq rfl rfl new rfl (List.filterMap_eq_nil_iff.2 fun m hm => ?_)
  obtain ⟨n, b, rfl⟩ := hnew m hm
  rfl

lemma SameRooms.close (v : View) (n : SessionId) : v.SameRooms (v.close n) := by
  rcases v.close_cases n with ⟨-, h⟩ | ⟨-, redis, userIdMap, h⟩ <;> rw [h]
  · exact .refl v
  · have hreleased : v.SameRooms
        (View.release { v with redis := redis, userIdMap := userIdMap } n) :=
      (SameRooms.setStat v n .wait (by simp)).trans (.of_eq rfl rfl [] rfl rfl)
    exact finishClose_of_release (fun w hw => hw.trans (.waitAccept w)) hreleased

lemma SameRooms.accept (v : View) (n : SessionId) : v.SameRooms (v.accept n) := by
  have hstat : v.SameRooms { v with
      log := .accepted n :: v.log
      reads := v.reads ++ [⟨n, v.isOpen n⟩]
      stat := Function.update v.stat n .conn
      connections := v.connections + 1
      active := v.active ++ [n] } :=
    (SameRooms.setStat v n .conn (by simp)).trans (.of_eq rfl rfl [_] rfl rfl)
  exact hstat.trans (.waitAccept _)

/-- A step that makes one match. -/
def MakesMatch (v w : View) : Prop :=
  ∃ u key a b, v.SameRooms u ∧ (u.matched key a b).SameRooms w

lemma Served.rooms {r : QueId} {c : Bool} (h : v.Served r w c) :
    v.SameRooms w ∨ v.MakesMatch w := by
  cases h with
  | nobody _ => exact Or.inl (.of_eq rfl rfl [] rfl rfl)
  | pair _ _ => exact Or.inr ⟨(v.setQue r _).note _, _, _, _, .of_eq rfl rfl [_] rfl rfl, .refl _⟩

lemma SameRooms.then (h : u.SameRooms v) (hw : v.SameRooms w ∨ v.MakesMatch w) :
    u.SameRooms w ∨ u.MakesMatch w := by
  rcases hw with hw | ⟨x, key, a, b, hx, hw⟩
  · exact Or.inl (h.trans hw)
  · exact Or.inr ⟨x, key, a, b, h.trans hx, hw⟩

end View

/-- A packet makes at most one match. -/
lemma PacketStep.rooms {v w : View} {n : SessionId} {p : Packet} (h : PacketStep v n p w) :
    v.SameRooms w ∨ v.MakesMatch w := by
  cases h with
  | config _ | other _ | notJoined _ | notLoggedOut _ | notConfirmed _ => exact Or.inl (.refl v)
  | friends h => cases h <;> exact Or.inl (.of_eq rfl rfl [] rfl rfl)
  | refused _ _ => exact Or.inl (.setStat v n _ (by simp))
  | burnt _ _ _ => exact Or.inl (.of_eq rfl rfl [] rfl rfl)
  | joined _ _ _ =>
    exact Or.inl ((View.SameRooms.setStat v n .login (by simp)).trans
      (.of_eq rfl rfl [_] rfl rfl))
  | loggedOut _ =>
    exact Or.inl ((View.SameRooms.setStat v n .logout (by simp)).trans
      (.of_eq rfl rfl [_] rfl rfl))
  | confirmed _ =>
    exact Or.inl ((View.SameRooms.setStat v n .matchConfirm (by simp)).trans (.close _ n))
  | relayed h =>
    cases h with
    | refused => exact Or.inl (.refl v)
    | self _ => exact Or.inl (.setStat v n _ (by simp))
    | accept => exact Or.inr ⟨v, _, _, _, .refl v, .refl _⟩
    | @apply m _ _ _ _ =>
      exact Or.inl (((View.SameRooms.setStat v n .matchApply (by simp)).trans
        (.setStat _ m .matchRecver (by simp))).trans (.of_eq rfl rfl [_] rfl rfl))
    | @deny m _ _ _ _ =>
      exact Or.inl ((View.SameRooms.setStat v n .login (by simp)).trans
        (.setStat _ m _ (by simp)))
  | @ranked u b h =>
    have henter : v.SameRooms (v.enter n (checkRating (v.rating n)).que) :=
      (View.SameRooms.setStat v n .matchRequest (by simp)).trans
        (.of_eq rfl rfl [_] rfl rfl)
    have harm : u.SameRooms (u.armUnless n b) := by
      rcases u.armUnless_cases n b with h | h <;> rw [h]
      · exact .of_eq rfl rfl [] rfl rfl
      · exact .refl u
    rcases henter.then h.rooms with h | ⟨x, key, a, b, hx, h⟩
    · exact Or.inl (h.trans harm)
    · exact Or.inr ⟨x, key, a, b, hx, h.trans harm⟩

/-- A step makes at most one match, and then it is a packet or a timer. -/
lemma ViewStep.rooms {v w : View} {e : Event} (h : ViewStep v e w) :
    v.SameRooms w ∨ v.MakesMatch w ∧
      ((∃ answers, e = .packet answers) ∨ ∃ n i answers, e = .timer n i answers) := by
  cases h with
  | startAccept _ _ =>
    have hstart : v.SameRooms { v with starting := v.starting - 1 } := .of_eq rfl rfl [] rfl rfl
    exact Or.inl (hstart.trans (.waitAccept _))
  | @accepted n _ _ =>
    have hopen : v.SameRooms (View.setOpen { v with accepts := v.accepts.erase n } n true) :=
      .of_eq rfl rfl [] rfl rfl
    exact Or.inl (hopen.trans (.accept _ n))
  | acceptFailed _ _ | receive _ _ | receiveEnd _ | readFailed _ _ | timerIdle _ _ | world =>
    exact Or.inl (.of_eq rfl rfl [] rfl rfl)
  | writeDone _ => exact Or.inl (.refl v)
  | @packet n p rest answers _ _ hp =>
    have hnext : v.SameRooms { v with current := some (n, rest) } := .of_eq rfl rfl [] rfl rfl
    rcases hnext.then hp.rooms with h | h
    · exact Or.inl h
    · exact Or.inr ⟨h, Or.inl ⟨answers, rfl⟩⟩
  | @disconnected n error _ _ _ =>
    have hread : v.SameRooms { v with reads := v.reads.erase ⟨n, true⟩ } :=
      .of_eq rfl rfl [] rfl rfl
    exact Or.inl (hread.trans (.close _ n))
  | @timerWiden n i answers w c _ _ hserved =>
    have hwiden : v.SameRooms (View.widen { v with
        waits := Function.update v.waits n ((v.waits n).eraseIdx i) } n) :=
      .of_eq rfl rfl [_] rfl rfl
    rcases hwiden.then hserved.rooms with h | h
    · exact Or.inl h
    · exact Or.inr ⟨h, Or.inr ⟨n, i, answers, rfl⟩⟩

/-! ### Players of one match -/

/-- No key was used for two matches, and who has the status `MATCH_COMPLETE` was a player of
the match of its key. -/
structure View.RoomsOk (v : View) : Prop where
  nodup : (madeKeys v.log).Nodup
  player : ∀ n, v.stat n = .matchComplete →
    ∃ a b, .matchMade (v.roomKey n) a b ∈ v.log ∧ (n = a ∨ n = b)

lemma View.RoomsOk.of_sameRooms {v w : View} (hv : v.RoomsOk) (h : v.SameRooms w) : w.RoomsOk := by
  obtain ⟨new, hlog, hnew⟩ := h.log
  constructor
  · rw [hlog, madeKeys_append, hnew, List.nil_append]
    exact hv.nodup
  · intro n hn
    obtain ⟨hst, hkey⟩ := h.complete n hn
    obtain ⟨a, b, hmem, hab⟩ := hv.player n hst
    refine ⟨a, b, ?_, hab⟩
    rw [hlog, hkey]
    exact List.mem_append_right _ hmem

lemma View.RoomsOk.matched {v : View} (hv : v.RoomsOk) {key : Str} (a b : SessionId)
    (hkey : key ∉ madeKeys v.log) : (v.matched key a b).RoomsOk := by
  constructor
  · show (key :: madeKeys v.log).Nodup
    exact List.nodup_cons.2 ⟨hkey, hv.nodup⟩
  · intro n hn
    by_cases hnb : n = b
    · subst hnb
      exact ⟨a, n, by simp [View.matched], Or.inr rfl⟩
    · by_cases hna : n = a
      · subst hna
        exact ⟨n, b, by simp [View.matched, hnb], Or.inl rfl⟩
      · have hst : v.stat n = .matchComplete := by simpa [View.matched, hnb, hna] using hn
        obtain ⟨a', b', hmem, hab⟩ := hv.player n hst
        refine ⟨a', b', ?_, hab⟩
        simp only [View.matched, ne_eq, hnb, not_false_eq_true, Function.update_of_ne, hna]
        exact List.mem_cons_of_mem _ hmem

/-- In runs that never draw a key twice, the rooms are in order. -/
theorem ReachedBy.roomsOk {s : Server} (h : ReachedBy (fun s e => s.FreshKeys e) s) :
    s.view.RoomsOk := by
  refine Runs.Reached.invariant (I := fun s => s.view.RoomsOk) ?_ ?_ h
  · intro s hs
    obtain ⟨b, hv⟩ := hs.view_eq
    rw [hv]
    have hboot : (Boot.init b).view.RoomsOk := by
      refine ⟨List.nodup_nil, fun n hn => ?_⟩
      cases hn
    exact hboot.of_sameRooms (.waitAccept _)
  · intro s e s' _ hs hfresh hstep
    rcases (view_step hstep).rooms with hsame | ⟨⟨u, key, a, b, hu, hw⟩, he⟩
    · exact hs.of_sameRooms hsame
    · refine ((hs.of_sameRooms hu).matched a b ?_).of_sameRooms hw
      obtain ⟨new₁, hlog₁, hnew₁⟩ := hu.log
      obtain ⟨new₂, hlog₂, -⟩ := hw.log
      have hlog : s'.log = (new₂ ++ .matchMade key a b :: new₁) ++ s.log := by
        have hu' : u.log = new₁ ++ s.log := hlog₁
        rw [List.append_assoc, List.cons_append, ← hu']
        exact hlog₂
      have hmem : key ∈ madeKeys (new₂ ++ .matchMade key a b :: new₁) :=
        mem_madeKeys.2 ⟨a, b, by simp⟩
      rw [hlog₁, madeKeys_append, hnew₁, List.nil_append]
      exact hstep.made_fresh hfresh he hlog hmem

/-- **Match agreement.**  When two different sessions are matched, the key was absent from redis
and is present now, both sessions have the status `MATCH_COMPLETE` and this key, each was sent
one message with the key and the record of the other one, and no other session is touched.  In
runs that never draw a room key twice, two sessions that are in the status `MATCH_COMPLETE` with
one room key are the two players of the only match with this key. -/
theorem match_agreement :
    (∀ (s s' : Server) (a b : SessionId), a ≠ b →
      (makeMatchingAndSendComplete a b).run s = .done () s' →
      ∃ key addr₁ addr₂, s.redis key = none ∧ s'.redis key ≠ none ∧
        s'.sess a = { s.sess a with
          stat := .matchComplete
          roomKey := key
          send := (s.sess a).send.push ⟨addr₁, .matchComplete key
            ⟨⟨(s.sess b).ratingScore, (s.sess b).battleHistory, (s.sess b).win, (s.sess b).lose⟩,
              (s.sess b).userId⟩⟩ } ∧
        s'.sess b = { s.sess b with
          stat := .matchComplete
          roomKey := key
          send := (s.sess b).send.push ⟨addr₂, .matchComplete key
            ⟨⟨(s.sess a).ratingScore, (s.sess a).battleHistory, (s.sess a).win, (s.sess a).lose⟩,
              (s.sess a).userId⟩⟩ } ∧
        (s'.sess a).send.queue = (s.sess a).send.queue ++
          [⟨addr₁, .matchComplete key (s.sess b).info⟩] ∧
        (s'.sess b).send.queue = (s.sess b).send.queue ++
          [⟨addr₂, .matchComplete key (s.sess a).info⟩] ∧
        ∀ k, k ≠ a → k ≠ b → s'.sess k = s.sess k) ∧
    ∀ s : Server, ReachedBy (fun s e => s.FreshKeys e) s → ∀ n m, n ≠ m →
      (s.sess n).stat = .matchComplete → (s.sess m).stat = .matchComplete →
      (s.sess n).roomKey = (s.sess m).roomKey →
      ∃ new old a b, s.log = new ++ .matchMade (s.sess n).roomKey a b :: old ∧
        (n = a ∧ m = b ∨ n = b ∧ m = a) ∧
        (s.sess n).roomKey ∉ madeKeys new ∧ (s.sess n).roomKey ∉ madeKeys old := by
  constructor
  · intro s s' a b hab h
    obtain ⟨used, uuid, rest, key, sess, -, -, hnone, rfl, rfl⟩ := makeMatching_eq_done h
    refine ⟨key, s.heap, s.heap + 1, hnone, by simp, ?_, ?_, ?_, ?_, ?_⟩
    · dsimp only
      rw [Function.update_of_ne hab, Function.update_self]
      rfl
    · dsimp only
      rw [Function.update_self, Function.update_of_ne hab.symm]
      rfl
    · dsimp only
      rw [Function.update_of_ne hab, Function.update_self]
      exact SendQueue.queue_push _ _
    · dsimp only
      rw [Function.update_self, Function.update_of_ne hab.symm]
      exact SendQueue.queue_push _ _
    · intro k hka hkb
      dsimp only
      rw [Function.update_of_ne hkb, Function.update_of_ne hka]
  · intro s h n m hnm hn hm hkey
    have hok := h.roomsOk
    obtain ⟨a, b, hmem, hna⟩ := hok.player n hn
    obtain ⟨a', b', hmem', hma⟩ := hok.player m hm
    have hroom : s.view.roomKey n = s.view.roomKey m := hkey
    rw [← hroom] at hmem'
    obtain ⟨new, old, hlog⟩ := List.append_of_mem hmem
    have hnodup := hok.nodup
    rw [hlog, madeKeys_append] at hnodup
    obtain ⟨-, hcons, hdisjoint⟩ := List.nodup_append.1 hnodup
    have hnew : s.view.roomKey n ∉ madeKeys new := fun hc =>
      hdisjoint _ hc _ List.mem_cons_self rfl
    have hold : s.view.roomKey n ∉ madeKeys old := (List.nodup_cons.1 hcons).1
    -- the entry of the second session is the same one
    have hsame : a' = a ∧ b' = b := by
      rw [hlog, List.mem_append, List.mem_cons] at hmem'
      rcases hmem' with hc | hc | hc
      · exact absurd (mem_madeKeys.2 ⟨a', b', hc⟩) hnew
      · simpa using hc
      · exact absurd (mem_madeKeys.2 ⟨a', b', hc⟩) hold
    obtain ⟨rfl, rfl⟩ := hsame
    refine ⟨new, old, a', b', hlog, ?_, hnew, hold⟩
    rcases hna with rfl | rfl <;> rcases hma with rfl | rfl
    · exact absurd rfl hnm
    · exact Or.inl ⟨rfl, rfl⟩
    · exact Or.inr ⟨rfl, rfl⟩
    · exact absurd rfl hnm

/-- `FreshKeys` as a computation. -/
private def freshKeysTest (s : Server) (e : Event) : Bool :=
  e.uuids.all fun u => !decide (roomKeyOf u ∈ madeKeys s.log)

private lemma freshKeys_of_test {s : Server} {e : Event} (h : freshKeysTest s e = true) :
    s.FreshKeys e := by
  intro u hu
  simpa using List.all_eq_true.1 h u hu

/-- Two sessions of a server that starts are matched; and two clients ask for a match. -/
theorem match_agreement_two_players :
    (∃ s s', (makeMatchingAndSendComplete 0 1).run s = .done () s' ∧
      ∃ key addr₁ addr₂, s.redis key = none ∧ s'.redis key ≠ none ∧
        s'.sess 0 = { s.sess 0 with
          stat := .matchComplete
          roomKey := key
          send := (s.sess 0).send.push ⟨addr₁, .matchComplete key
            ⟨⟨(s.sess 1).ratingScore, (s.sess 1).battleHistory, (s.sess 1).win, (s.sess 1).lose⟩,
              (s.sess 1).userId⟩⟩ } ∧
        s'.sess 1 = { s.sess 1 with
          stat := .matchComplete
          roomKey := key
          send := (s.sess 1).send.push ⟨addr₂, .matchComplete key
            ⟨⟨(s.sess 0).ratingScore, (s.sess 0).battleHistory, (s.sess 0).win, (s.sess 0).lose⟩,
              (s.sess 0).userId⟩⟩ } ∧
        (s'.sess 0).send.queue = (s.sess 0).send.queue ++
          [⟨addr₁, .matchComplete key (s.sess 1).info⟩] ∧
        (s'.sess 1).send.queue = (s.sess 1).send.queue ++
          [⟨addr₂, .matchComplete key (s.sess 0).info⟩] ∧
        ∀ k, k ≠ 0 → k ≠ 1 → s'.sess k = s.sess k) ∧
    ∃ s, ReachedBy (fun s e => s.FreshKeys e) s ∧
      (s.sess 0).stat = .matchComplete ∧ (s.sess 1).stat = .matchComplete ∧
      ∃ new old a b, s.log = new ++ .matchMade (s.sess 0).roomKey a b :: old ∧
        (0 = a ∧ 1 = b ∨ 0 = b ∧ 1 = a) ∧
        (s.sess 0).roomKey ∉ madeKeys new ∧ (s.sess 0).roomKey ∉ madeKeys old := by
  constructor
  · let s : Server := { (Boot.plain 2 1 (fun _ => none) ⟨[], []⟩).init with
      answers := ⟨[List.replicate 16 7], [], 0⟩ }
    have hrun : ∃ s', (makeMatchingAndSendComplete 0 1).run s = .done () s' := ⟨_, rfl⟩
    obtain ⟨s', hs'⟩ := hrun
    exact ⟨s, s', hs', match_agreement.1 s s' 0 1 (by decide) hs'⟩
  · have hrun : (runIf freshKeysTest (Boot.plain 2 1 (fun _ => none) ⟨[], []⟩) twoPlayers).map
        (fun s => decide ((s.sess 0).stat = .matchComplete ∧ (s.sess 1).stat = .matchComplete ∧
          (s.sess 0).roomKey = (s.sess 1).roomKey)) = some true := by decide
    obtain ⟨s, hs, heq⟩ := Option.map_eq_some_iff.1 hrun
    obtain ⟨h₀, h₁, hkey⟩ := of_decide_eq_true heq
    have hreach := reachedBy_of_runIf (fun _ _ => freshKeys_of_test) hs
    exact ⟨s, hreach, h₀, h₁, match_agreement.2 s hreach 0 1 (by decide) h₀ h₁ hkey⟩

end ChannelServer
