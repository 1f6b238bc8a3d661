/-
The kinds of actions of which the handlers consist.

Most actions of the handlers are of one of the four kinds of `Act`.  A property of programs
that holds of these actions, and of a composition when it holds of its parts, holds of a handler
as soon as it holds of the few actions of it that are of no such kind: the entries of a login
and of a match in the log, the random numbers that are drawn for a room key, and what
`handle_accept` does to the session it has accepted.

So the handlers are gone through once, for an arbitrary property `P` that obeys `UnitRules`:
there the four functions of `db_connector`, and sending a message, count as single actions, and no
other action changes the pool of connections, the user of a session or its send queue.  A property
that obeys `Rules` holds of every action inside these functions, and so obeys `UnitRules`;
`Rules.of_within` is the case of a relation between the states before and after each action.
-/
import ChannelServer.ViewStep

namespace ChannelServer

open Resumption

/-- An entry of the log that reports neither a login nor a match. -/
def Mark.plain : Mark → Bool
  | .joined _ _ => false
  | .matchMade _ _ _ => false
  | _ => true

/-- The kinds of actions: the sessions, the log and the random numbers to come are left alone;
members of one session other than its send queue are replaced, without setting the status
`CONN`; a message is enqueued; a plain entry is added to the log. -/
inductive Act (s : Server) : Server → Prop
  | aside {s' : Server} (hsess : s'.sess = s.sess) (hlog : s'.log = s.log)
      (hans : s'.answers.uuids = s.answers.uuids) : Act s s'
  | member {n : SessionId} {x : Session} (hsend : x.send = (s.sess n).send)
      (hstat : x.stat = (s.sess n).stat ∨ x.stat ≠ .conn) : Act s (s.setSess n x)
  | waitSend {n : SessionId} {size : ℕ} {b : Buffer} :
      Act s (s.setSess n { s.sess n with send := (s.sess n).send.waitSend false size b })
  | note {m : Mark} (hm : m.plain = true) : Act s { s with log := m :: s.log }

/-- A property of programs that holds of the actions of the four kinds and of compositions. -/
structure Rules (P : ∀ α : Type, Handler α → Prop) : Prop where
  pure : ∀ {α : Type} (a : α), P α (pure a)
  bind : ∀ {α β : Type} {p : Handler α} {f : α → Handler β}, P α p → (∀ a, P β (f a)) →
    P β (p >>= f)
  act : ∀ {β : Type} {f : Server → Res Server Fault β},
    (∀ s b s', f s = .ok b s' → Act s s') → P β (.act f .ret)

/-- A relation that holds between the states before and after each action. -/
lemma Rules.of_within {R : Server → Server → Prop} (hR : ∀ s s', Act s s' → R s s') :
    Rules fun _ p => p.Within R :=
  ⟨Prog.within_pure, Prog.within_bind, fun h =>
    ⟨fun s b s' hs => hR s s' (h s b s' hs), fun _ => trivial⟩⟩

/-- A relation between the states before and after each execution. -/
lemma Rules.of_along {R : Server → Server → Prop} (hrefl : ∀ s, R s s)
    (htrans : ∀ a b c, R a b → R b c → R a c) (hR : ∀ s s', Act s s' → R s s') :
    Rules fun _ p => p.Along R :=
  ⟨Prog.along_pure hrefl, Prog.along_bind htrans, fun h =>
    Prog.along_act fun s b s' hs => hR s s' (h s b s' hs)⟩

/-! ### Actions and functions of the database -/

lemma acts_ite {P : ∀ α : Type, Handler α → Prop} {α : Type} {c : Prop} [Decidable c]
    {p q : Handler α} (hp : P α p) (hq : P α q) : P α (if c then p else q) := by
  split
  · exact hp
  · exact hq

/-- What most actions keep: the user of every session, with its numbers, and the connections that
are free, up to their order. -/
structure KeepsUsers (s s' : Server) : Prop where
  user : ∀ k, (s'.sess k).toUser = (s.sess k).toUser
  connectionQue : s'.connectionQue.Perm s.connectionQue
  connectionPool : s'.connectionPool = s.connectionPool

/-- What an action keeps that sends no message: the buffers that are allocated, and the send queue
of every session. -/
structure KeepsBuffers (s s' : Server) : Prop where
  heap : s'.heap = s.heap
  send : ∀ k, (s'.sess k).send = (s.sess k).send

/-- A property of programs that holds of the actions of the four kinds that keep the users and the
buffers, of sending a message, of the functions of `db_connector`, and of compositions. -/
structure UnitRules (P : ∀ α : Type, Handler α → Prop) : Prop where
  pure : ∀ {α : Type} (a : α), P α (pure a)
  bind : ∀ {α β : Type} {p : Handler α} {f : α → Handler β}, P α p → (∀ a, P β (f a)) →
    P β (p >>= f)
  act : ∀ {β : Type} {f : Server → Res Server Fault β},
    (∀ s b s', f s = .ok b s' → Act s s' ∧ KeepsUsers s s' ∧ KeepsBuffers s s') →
      P β (.act f .ret)
  sendMessage : ∀ n message, P _ (sendMessage n message)
  getQueryUserInfo : ∀ id, P _ (getQueryUserInfo id)
  getUserFriendsList : ∀ id, P _ (getUserFriendsList id)
  addUserFrinedsList : ∀ id target, P _ (addUserFrinedsList id target)
  delUserFrinedsList : ∀ id target, P _ (delUserFrinedsList id target)

lemma KeepsUsers.of_eq {s s' : Server} (hsess : s'.sess = s.sess)
    (hque : s'.connectionQue = s.connectionQue) (hpool : s'.connectionPool = s.connectionPool) :
    KeepsUsers s s' :=
  ⟨fun _ => by rw [hsess], by rw [hque], hpool⟩

lemma KeepsBuffers.of_eq {s s' : Server} (hsess : s'.sess = s.sess) (hheap : s'.heap = s.heap) :
    KeepsBuffers s s' := ⟨hheap, fun _ => by rw [hsess]⟩

/-- A session is replaced by one with the same queue. -/
lemma KeepsBuffers.setSess {s : Server} {n : SessionId} {x : Session}
    (hx : x.send = (s.sess n).send) : KeepsBuffers s (s.setSess n x) := by
  refine ⟨rfl, fun k => ?_⟩
  by_cases hk : k = n
  · subst hk
    simpa [Server.setSess] using hx
  · simp [Server.setSess, hk]

/-- A session is replaced by one with the same user. -/
lemma KeepsUsers.setSess {s : Server} {n : SessionId} {x : Session}
    (hx : x.toUser = (s.sess n).toUser) : KeepsUsers s (s.setSess n x) := by
  refine ⟨fun k => ?_, List.Perm.refl _, rfl⟩
  by_cases hk : k = n
  · subst hk
    simpa [Server.setSess] using hx
  · simp [Server.setSess, hk]

section Rules

variable {P : ∀ α : Type, Handler α → Prop} (hP : Rules P)
include hP

lemma Rules.atomic {β : Type} {f : Server → β × Server} (h : ∀ s, Act s (f s).2) :
    P β (Prog.atomic f) := by
  refine hP.act fun s b s' hs => ?_
  obtain ⟨-, rfl⟩ := Res.ok.inj hs
  exact h s

lemma Rules.read {β : Type} (f : Server → β) : P β (Prog.read f) :=
  hP.atomic fun _ => .aside rfl rfl rfl

lemma Rules.aside {f : Server → Server}
    (h : ∀ s, (f s).sess = s.sess ∧ (f s).log = s.log ∧ (f s).answers = s.answers) :
    P Unit (Prog.modify f) :=
  hP.atomic fun s => .aside (h s).1 (h s).2.1 (congrArg (·.uuids) (h s).2.2)

lemma Rules.lock (m : Mutex) : P Unit (lock m) := by
  refine hP.act fun s b s' hs => ?_
  split at hs
  · obtain ⟨-, rfl⟩ := Res.ok.inj hs
    exact .aside rfl rfl rfl
  · cases hs

lemma Rules.setFriendsCount (n : SessionId) (count : ℤ) : P Unit (setFriendsCount n count) :=
  hP.atomic fun _ => .member rfl (Or.inl rfl)

lemma Rules.setUserInfo (n : SessionId) (rating battleHistory win lose : ℤ) (userId : Str) :
    P Unit (setUserInfo n rating battleHistory win lose userId) :=
  hP.atomic fun _ => .member rfl (Or.inl rfl)

lemma Rules.mysqlQuery (query : Stmt) : P _ (mysqlQuery query) := by
  refine hP.atomic fun s => ?_
  dsimp only
  split <;> exact .aside rfl rfl rfl

lemma Rules.acquireConnection : P _ acquireConnection := by
  have hget : P _ getConnection := by
    refine hP.bind (hP.lock _) fun _ => hP.bind (hP.read _) fun que => ?_
    cases que with
    | nil => exact hP.bind (hP.aside fun _ => ⟨rfl, rfl, rfl⟩) fun _ => hP.pure _
    | cons index rest =>
      exact hP.bind (hP.aside fun _ => ⟨rfl, rfl, rfl⟩) fun _ =>
        hP.bind (hP.aside fun _ => ⟨rfl, rfl, rfl⟩) fun _ => hP.bind (hP.read _) fun _ =>
        acts_ite (hP.pure _) (hP.act fun _ _ _ h => nomatch h)
  refine hP.bind (hP.read _) fun k => ?_
  induction k with
  | zero => exact hP.act fun _ _ _ h => nomatch h
  | succ k ih =>
    refine hP.bind hget fun index => ?_
    cases index with
    | none => exact ih
    | some i => exact hP.pure _

lemma Rules.releaseConnection (index : ℕ) : P _ (releaseConnection index) :=
  hP.bind (hP.lock _) fun _ =>
    hP.bind (hP.aside fun _ => ⟨rfl, rfl, rfl⟩) fun _ => hP.aside fun _ => ⟨rfl, rfl, rfl⟩

/-- A property of all actions holds of the functions of the database. -/
lemma Rules.units : UnitRules P where
  pure := hP.pure
  bind := hP.bind
  act h := hP.act fun s b s' hs => (h s b s' hs).1
  sendMessage n message :=
    hP.bind (hP.atomic fun _ => .aside rfl rfl rfl) fun _ => hP.atomic fun _ => .waitSend
  getQueryUserInfo id := by
    refine hP.bind hP.acquireConnection fun _ => hP.bind (hP.mysqlQuery _) fun result => ?_
    cases result <;> exact hP.bind (hP.releaseConnection _) fun _ => hP.pure _
  getUserFriendsList id := by
    refine hP.bind hP.acquireConnection fun _ => hP.bind (hP.mysqlQuery _) fun result => ?_
    cases result <;> exact hP.bind (hP.releaseConnection _) fun _ => hP.pure _
  addUserFrinedsList id target := by
    have hcheck : P _ (checkRepetition id target) := by
      refine hP.bind (hP.mysqlQuery _) fun result => ?_
      cases result <;> exact hP.pure _
    exact hP.bind hP.acquireConnection fun _ => hP.bind hcheck fun _ => acts_ite
      (hP.bind (hP.mysqlQuery _) fun _ => hP.bind (hP.releaseConnection _) fun _ => hP.pure _)
      (hP.bind (hP.releaseConnection _) fun _ => hP.pure _)
  delUserFrinedsList id target := by
    refine hP.bind hP.acquireConnection fun _ => hP.bind (hP.mysqlQuery _) fun result =>
      hP.bind (hP.releaseConnection _) fun _ => ?_
    cases result <;> exact hP.pure _

end Rules

variable {P : ∀ α : Type, Handler α → Prop} (hP : UnitRules P)
include hP

/-! ### Single actions -/

lemma UnitRules.atomic {β : Type} {f : Server → β × Server} (h : ∀ s, Act s (f s).2)
    (husers : ∀ s, KeepsUsers s (f s).2) (hbuffers : ∀ s, KeepsBuffers s (f s).2) :
    P β (Prog.atomic f) := by
  refine hP.act fun s b s' hs => ?_
  obtain ⟨-, rfl⟩ := Res.ok.inj hs
  exact ⟨h s, husers s, hbuffers s⟩

lemma acts_read {β : Type} (f : Server → β) : P β (Prog.read f) :=
  hP.atomic (fun _ => .aside rfl rfl rfl) (fun _ => .of_eq rfl rfl rfl) fun _ => .of_eq rfl rfl

lemma acts_fail {α : Type} (e : Fault) : P α (Prog.fail e) := hP.act fun _ _ _ h => nomatch h

lemma acts_getSess {β : Type} (n : SessionId) (f : Session → β) : P β (getSess n f) :=
  acts_read hP _

/-- An action that leaves the sessions, the log, the random numbers, the connections and the
buffers alone. -/
lemma acts_aside {f : Server → Server}
    (h : ∀ s, (f s).sess = s.sess ∧ (f s).log = s.log ∧ (f s).answers = s.answers ∧
      (f s).connectionQue = s.connectionQue ∧ (f s).connectionPool = s.connectionPool ∧
      (f s).heap = s.heap) :
    P Unit (Prog.modify f) := by
  refine hP.atomic (fun s => ?_) (fun s => ?_) fun s => ?_
  · obtain ⟨hsess, hlog, hans, -, -, -⟩ := h s
    exact .aside hsess hlog (congrArg (·.uuids) hans)
  · obtain ⟨hsess, -, -, hque, hpool, -⟩ := h s
    exact .of_eq hsess hque hpool
  · obtain ⟨hsess, -, -, -, -, hheap⟩ := h s
    exact .of_eq hsess hheap

lemma acts_lock (m : Mutex) : P Unit (lock m) := by
  refine hP.act fun s b s' hs => ?_
  split at hs
  · obtain ⟨-, rfl⟩ := Res.ok.inj hs
    exact ⟨.aside rfl rfl rfl, .of_eq rfl rfl rfl, .of_eq rfl rfl⟩
  · cases hs

lemma acts_unlock (m : Mutex) : P Unit (unlock m) :=
  acts_aside hP fun _ => ⟨rfl, rfl, rfl, rfl, rfl, rfl⟩

lemma acts_mark {m : Server → Mark} (hm : ∀ s, (m s).plain = true) : P Unit (mark m) :=
  hP.atomic (fun s => .note (hm s)) (fun _ => .of_eq rfl rfl rfl) fun _ => .of_eq rfl rfl

lemma acts_modifySess (n : SessionId) {f : Session → Session}
    (h : ∀ x, (f x).send = x.send ∧ (f x).stat = x.stat ∧ (f x).toUser = x.toUser) :
    P Unit (modifySess n f) :=
  hP.atomic (fun _ => .member (h _).1 (Or.inl (h _).2.1)) (fun _ => .setSess (h _).2.2) fun _ =>
    .setSess (h _).1

lemma acts_setStatus (n : SessionId) {st : Status} (hst : st ≠ .conn) : P Unit (setStatus n st) :=
  hP.atomic (fun _ => .member rfl (Or.inr hst)) (fun _ => .setSess rfl) fun _ => .setSess rfl

lemma acts_sendMessage (n : SessionId) (message : Message) : P Unit (sendMessage n message) :=
  hP.sendMessage n message

lemma acts_delRedisKey (key : Str) : P Bool (delRedisKey key) :=
  hP.atomic (fun _ => .aside rfl rfl rfl) (fun _ => .of_eq rfl rfl rfl) fun _ => .of_eq rfl rfl

/-! ### The login map -/

lemma acts_findIdInUserMap (id : Str) : P _ (findIdInUserMap id) :=
  hP.bind (acts_lock hP _) fun _ => hP.bind (acts_read hP _) fun _ =>
    hP.bind (acts_unlock hP _) fun _ => hP.pure _

lemma acts_delIdInUserMap (id : Str) : P _ (delIdInUserMap id) := by
  refine hP.bind (acts_lock hP _) fun _ => hP.bind (acts_read hP _) fun iter => ?_
  refine acts_ite
      (hP.bind (acts_aside hP fun _ => ⟨rfl, rfl, rfl, rfl, rfl, rfl⟩) fun _ => ?_) ?_ <;>
    exact hP.bind (acts_unlock hP _) fun _ => hP.pure _

lemma acts_addIdInUserMap (n : SessionId) (id : Str) : P _ (addIdInUserMap n id) := by
  refine hP.bind (acts_lock hP _) fun _ => hP.bind (acts_read hP _) fun iter => ?_
  refine acts_ite
      (hP.bind (acts_aside hP fun _ => ⟨rfl, rfl, rfl, rfl, rfl, rfl⟩) fun _ => ?_) ?_ <;>
    exact hP.bind (acts_unlock hP _) fun _ => hP.pure _

/-! ### Login and logout -/

lemma acts_admittedId (token : Str) : P _ (admittedId token) := by
  refine hP.bind (acts_read hP _) fun kv => ?_
  cases kv with
  | none => exact hP.pure _
  | some id =>
    refine hP.bind (acts_findIdInUserMap hP _) fun found => ?_
    cases found <;> exact hP.pure _

/-- Of a login only the user and the entry in the log are missing. -/
lemma acts_loginAs (n : SessionId) (token id : Str)
    (hcount : ∀ count, P _ (setFriendsCount n count))
    (huser : ∀ rating battleHistory win lose, P _ (setUserInfo n rating battleHistory win lose id))
    (hjoined : P _ (mark fun _ => .joined n id)) : P _ (loginAs n token id) := by
  have hfail : P _ (do
      sendMessage n (.joinAns false (some none) [])
      pure false : Handler Bool) := hP.bind (acts_sendMessage hP _ _) fun _ => hP.pure _
  refine hP.bind (hP.getQueryUserInfo _) fun row => ?_
  cases row with
  | none => exact hP.bind (acts_delRedisKey hP _) fun _ => hfail
  | some row =>
    refine hP.bind (hP.getUserFriendsList _) fun friends => ?_
    cases friends with
    | none => exact hfail
    | some friends =>
      exact hP.bind (hcount _) fun _ => hP.bind (huser _ _ _ _) fun _ =>
        hP.bind (acts_modifySess hP _ fun _ => ⟨rfl, rfl, rfl⟩) fun _ =>
        hP.bind (acts_getSess hP _ _) fun _ => hP.bind (acts_addIdInUserMap hP _ _) fun _ =>
        hP.bind (acts_setStatus hP _ (by simp)) fun _ => hP.bind hjoined fun _ =>
        hP.bind (acts_sendMessage hP _ _) fun _ => hP.pure _

lemma acts_lobbyLoginProcess (n : SessionId) (message : JoinRequest)
    (hlogin : ∀ token id, P _ (loginAs n token id)) : P _ (lobbyLoginProcess n message) := by
  refine hP.bind (acts_getSess hP _ _) fun _ => acts_ite
    (hP.bind (acts_admittedId hP _) fun admitted => ?_) (hP.pure _)
  cases admitted with
  | none =>
    exact hP.bind (acts_setStatus hP _ (by simp)) fun _ =>
      hP.bind (acts_sendMessage hP _ _) fun _ => hP.pure _
  | some id => exact hlogin _ _

lemma acts_lobbyLogoutProcess (n : SessionId) :
    P _ (lobbyLogoutProcess n) := by
  refine hP.bind (acts_getSess hP _ _) fun _ => hP.bind (acts_read hP _) fun kv => ?_
  cases kv with
  | none => exact hP.pure _
  | some _ =>
    exact hP.bind (acts_getSess hP _ _) fun _ => hP.bind (acts_delRedisKey hP _) fun _ =>
      hP.bind (acts_getSess hP _ _) fun _ => hP.bind (acts_delIdInUserMap hP _) fun _ =>
      hP.bind (acts_setStatus hP _ (by simp)) fun _ => hP.bind (acts_mark hP fun _ => rfl) fun _ =>
      hP.bind (acts_sendMessage hP _ _) fun _ => hP.pure _

/-! ### The friend list -/

lemma acts_searchUser (n : SessionId) (target : Str) : P _ (searchUser n target) := by
  refine hP.bind (hP.bind (acts_findIdInUserMap hP _) fun found => ?_) fun _ =>
    hP.bind (acts_sendMessage hP _ _) fun _ => hP.pure _
  cases found with
  | none =>
    refine hP.bind (hP.getQueryUserInfo _) fun row => ?_
    cases row <;> exact hP.pure _
  | some k =>
    exact hP.bind (acts_getSess hP _ _) fun _ => hP.bind (acts_getSess hP _ _) fun _ =>
      hP.bind (acts_getSess hP _ _) fun _ => hP.bind (acts_getSess hP _ _) fun _ =>
        hP.bind (acts_getSess hP _ _) fun _ => hP.pure _

lemma acts_changeFriends {guard : ℤ → Bool} {change : Str → Str → Handler Bool}
    (hchange : ∀ id target, P _ (change id target)) (step : ℤ)
    (success failure : FriendsAnsType) (n : SessionId) (target : Str)
    (hcount : ∀ count, P _ (setFriendsCount n count)) :
    P _ (changeFriends guard change step success failure n target) := by
  have hfail : P _ (do
      sendMessage n (.friendsAns failure ⟨⟨0, 0, 0, 0⟩, target⟩ none)
      pure false : Handler Bool) := hP.bind (acts_sendMessage hP _ _) fun _ => hP.pure _
  exact hP.bind (acts_getSess hP _ _) fun _ => acts_ite
    (hP.bind (acts_getSess hP _ _) fun _ => hP.bind (hchange _ _) fun _ => acts_ite
      (hP.bind (hcount _) fun _ => hP.bind (acts_sendMessage hP _ _) fun _ => hP.pure _)
      hfail) hfail

/-- Of a friends request only the number of friends is missing. -/
lemma acts_processFriendsFunction (n : SessionId) (message : FriendsRequest)
    (hcount : message.type ≠ .search → ∀ count, P _ (setFriendsCount n count)) :
    P _ (processFriendsFunction n message) := by
  unfold processFriendsFunction
  cases htype : message.type with
  | add =>
    have hcount : ∀ count, P _ (setFriendsCount n count) := hcount (by simp [htype])
    exact hP.bind (acts_changeFriends hP hP.addUserFrinedsList _ _ _ _ _ hcount) fun _ => hP.pure _
  | del =>
    have hcount : ∀ count, P _ (setFriendsCount n count) := hcount (by simp [htype])
    exact hP.bind (acts_changeFriends hP hP.delUserFrinedsList _ _ _ _ _ hcount) fun _ => hP.pure _
  | search => exact hP.bind (acts_searchUser hP _ _) fun _ => hP.pure _

/-! ### Matches -/

lemma acts_chooseRoomKey (hdraw : P _ generateRoomKey) : P _ chooseRoomKey := by
  refine hP.bind (acts_read hP _) fun k => ?_
  induction k with
  | zero => exact acts_fail hP _
  | succ k ih =>
    refine hP.bind hdraw fun key => hP.bind (acts_read hP _) fun kv => ?_
    cases kv with
    | none =>
      exact hP.bind (acts_aside hP fun _ => ⟨rfl, rfl, rfl, rfl, rfl, rfl⟩) fun _ => hP.pure _
    | some _ => exact ih

lemma acts_matchInfo (n : SessionId) : P _ (matchInfo n) :=
  hP.bind (acts_getSess hP _ _) fun _ => hP.bind (acts_getSess hP _ _) fun _ =>
    hP.bind (acts_getSess hP _ _) fun _ => hP.bind (acts_getSess hP _ _) fun _ =>
      hP.bind (acts_getSess hP _ _) fun _ => hP.pure _

lemma acts_sendComplete (n : SessionId) (key : Str) (opponent : UserInfo) :
    P _ (sendComplete n key opponent) :=
  hP.bind (acts_setStatus hP _ (by simp)) fun _ =>
    hP.bind (acts_modifySess hP _ fun _ => ⟨rfl, rfl, rfl⟩) fun _ => acts_sendMessage hP _ _

/-- Of a match only the random numbers and the entry in the log are missing. -/
lemma acts_makeMatchingAndSendComplete (a b : SessionId) (hdraw : P _ generateRoomKey)
    (hmade : ∀ key, P _ (mark fun _ => .matchMade key a b)) :
    P _ (makeMatchingAndSendComplete a b) :=
  hP.bind (acts_chooseRoomKey hP hdraw) fun _ => hP.bind (hmade _) fun _ =>
    hP.bind (acts_matchInfo hP _) fun _ => hP.bind (acts_matchInfo hP _) fun _ =>
    hP.bind (acts_sendComplete hP _ _ _) fun _ => acts_sendComplete hP _ _ _

lemma acts_queFront (r : QueId) : P _ (queFront r) := by
  refine hP.act fun s b t hs => ?_
  split at hs
  · cases hs
  · obtain ⟨-, rfl⟩ := Res.ok.inj hs
    exact ⟨.aside rfl rfl rfl, .of_eq rfl rfl rfl, .of_eq rfl rfl⟩

lemma acts_quePopFront (r : QueId) : P _ (quePopFront r) := by
  refine hP.act fun s b t hs => ?_
  split at hs
  · cases hs
  · obtain ⟨-, rfl⟩ := Res.ok.inj hs
    exact ⟨.aside rfl rfl rfl, .of_eq rfl rfl rfl, .of_eq rfl rfl⟩

lemma acts_isWaiting (n : SessionId) : P _ (isWaiting n) :=
  hP.bind (acts_getSess hP _ _) fun _ => acts_ite
    (hP.bind (acts_getSess hP _ _) fun _ => hP.pure _) (hP.pure _)

lemma acts_getMatchingQue (hmatch : ∀ a b, P _ (makeMatchingAndSendComplete a b)) (r : QueId) :
    P _ (getMatchingQue r) := by
  have hselect : P _ (selectPlayers r) :=
    hP.bind (acts_read hP _) fun _ => acts_ite
      (hP.bind (acts_queFront hP _) fun _ => hP.bind (acts_quePopFront hP _) fun _ =>
        hP.bind (acts_isWaiting hP _) fun _ => acts_ite
          (hP.bind (acts_queFront hP _) fun _ => hP.bind (acts_quePopFront hP _) fun _ =>
            hP.bind (acts_isWaiting hP _) fun _ => acts_ite
              (hP.bind (acts_aside hP fun _ => ⟨rfl, rfl, rfl, rfl, rfl, rfl⟩) fun _ => hP.pure _)
              (hP.bind (acts_mark hP fun _ => rfl) fun _ => hP.pure _))
          (hP.pure _))
      (hP.pure _)
  refine hP.bind hselect fun pair => ?_
  match pair with
  | none => exact hP.pure _
  | some (a, b) =>
    exact hP.bind (hmatch a b) fun _ => hP.pure _

lemma acts_controlTimerRematch (n : SessionId) (sec : ℤ) (isSet : Bool) :
    P _ (controlTimerRematch n sec isSet) :=
  acts_ite (hP.bind (acts_modifySess hP _ fun _ => ⟨rfl, rfl, rfl⟩) fun _ =>
    hP.atomic (fun _ => .member rfl (Or.inl rfl)) (fun _ => .setSess rfl) fun _ => .setSess rfl)
    (hP.pure _)

lemma acts_processMatching (hmatch : ∀ a b, P _ (makeMatchingAndSendComplete a b))
    (n : SessionId) : P _ (processMatching n) := by
  refine hP.bind (acts_getSess hP _ _) fun rating =>
    hP.bind (acts_mark hP fun _ => rfl) fun _ => hP.bind (acts_lock hP _) fun _ =>
    hP.bind (acts_aside hP fun _ => ⟨rfl, rfl, rfl, rfl, rfl, rfl⟩) fun _ =>
    hP.bind (acts_setStatus hP _ (by simp)) fun _ => hP.bind (acts_getMatchingQue hP hmatch _)
      fun matched => acts_ite (acts_unlock hP _) ?_
  exact hP.bind (acts_read hP _) fun _ => acts_ite
    (hP.bind (acts_controlTimerRematch hP _ _ _) fun _ => acts_unlock hP _) (acts_unlock hP _)

lemma acts_rematch (hmatch : ∀ a b, P _ (makeMatchingAndSendComplete a b)) (n : SessionId) :
    P _ (rematch n) := by
  have hstart : P _ (rematchingStart n) :=
    hP.bind (acts_getSess hP _ _) fun _ => acts_ite
      (hP.bind (acts_lock hP _) fun _ => hP.bind (acts_mark hP fun _ => rfl) fun _ =>
        hP.bind (acts_aside hP fun _ => ⟨rfl, rfl, rfl, rfl, rfl, rfl⟩) fun _ =>
        hP.bind (acts_getMatchingQue hP hmatch _) fun _ => hP.bind (acts_unlock hP _) fun _ =>
        hP.pure _)
      (hP.pure _)
  exact hP.bind (acts_getSess hP _ _) fun _ => acts_ite
    (hP.bind hstart fun _ => hP.pure _) (hP.pure _)

lemma acts_bothHave (n : SessionId) (st st' : Status) (recv : Option SessionId) :
    P _ (bothHave n st recv st') := by
  cases recv with
  | none => exact hP.pure _
  | some m =>
    exact hP.bind (acts_getSess hP _ _) fun _ => acts_ite
      (hP.bind (acts_getSess hP _ _) fun _ => acts_ite (hP.pure _) (hP.pure _)) (hP.pure _)

lemma acts_processMatchingWithFriends
    (hmatch : ∀ a b, P _ (makeMatchingAndSendComplete a b)) (n : SessionId)
    (message : MatchWithFriendsRelay) :
    P _ (processMatchingWithFriends n message) := by
  refine hP.bind (acts_findIdInUserMap hP _) fun recv => acts_ite
    (hP.bind (acts_setStatus hP _ (by simp)) fun _ => acts_sendMessage hP _ _) ?_
  cases message.type with
  | accept =>
    refine hP.bind (acts_bothHave hP _ _ _ _) fun found => ?_
    cases found with
    | none => exact acts_sendMessage hP _ _
    | some m => exact hmatch _ _
  | apply =>
    refine hP.bind (acts_bothHave hP _ _ _ _) fun found => ?_
    cases found with
    | none => exact acts_sendMessage hP _ _
    | some m =>
      exact hP.bind (acts_getSess hP _ _) fun _ => hP.bind (acts_setStatus hP _ (by simp)) fun _ =>
        hP.bind (acts_setStatus hP _ (by simp)) fun _ =>
        hP.bind (acts_mark hP fun _ => rfl) fun _ => acts_sendMessage hP _ _
  | deny =>
    refine hP.bind (acts_bothHave hP _ _ _ _) fun found => ?_
    cases found with
    | none =>
      refine hP.bind (acts_sendMessage hP _ _) fun _ => hP.bind ?_ fun _ => hP.pure _
      cases recv with
      | none => exact acts_fail hP _
      | some m => exact acts_getSess hP m (·.userId)
    | some m =>
      exact hP.bind (acts_getSess hP _ _) fun _ => hP.bind (acts_setStatus hP _ (by simp)) fun _ =>
        hP.bind (acts_setStatus hP _ (by simp)) fun _ => acts_sendMessage hP _ _

/-! ### Accepting, closing and dispatching -/

lemma acts_waitAccept : P _ waitAccept := by
  refine hP.bind (acts_lock hP _) fun _ => hP.bind (acts_read hP _) fun que => ?_
  cases que with
  | nil =>
    exact hP.bind (acts_aside hP fun _ => ⟨rfl, rfl, rfl, rfl, rfl, rfl⟩) fun _ =>
      hP.bind (acts_unlock hP _) fun _ => hP.pure _
  | cons n rest =>
    exact hP.bind (acts_aside hP fun _ => ⟨rfl, rfl, rfl, rfl, rfl, rfl⟩) fun _ =>
      hP.bind (acts_aside hP fun _ => ⟨rfl, rfl, rfl, rfl, rfl, rfl⟩) fun _ =>
      hP.bind (acts_unlock hP _) fun _ =>
      hP.bind (hP.bind (acts_mark hP fun _ => rfl) fun _ =>
        acts_aside hP fun _ => ⟨rfl, rfl, rfl, rfl, rfl, rfl⟩) fun _ => hP.pure _

lemma acts_finishClose (n : SessionId) : P _ (finishClose n) :=
  hP.bind (acts_setStatus hP _ (by simp)) fun _ =>
    hP.bind (acts_modifySess hP _ fun _ => ⟨rfl, rfl, rfl⟩) fun _ =>
    hP.bind (acts_aside hP fun _ => ⟨rfl, rfl, rfl, rfl, rfl, rfl⟩) fun _ =>
    hP.bind (acts_lock hP _) fun _ =>
    hP.bind (acts_aside hP fun _ => ⟨rfl, rfl, rfl, rfl, rfl, rfl⟩) fun _ =>
    hP.bind (acts_read hP _) fun _ =>
    acts_ite (hP.bind (acts_waitAccept hP) fun _ => acts_unlock hP _) (acts_unlock hP _)

lemma acts_closeSession (n : SessionId) : P _ (closeSession n) := by
  have hforget : P _ (do forgetLogin n; finishClose n : Handler Unit) :=
    hP.bind (hP.bind (acts_getSess hP _ _) fun _ => hP.bind (acts_delRedisKey hP _) fun _ =>
      hP.bind (acts_getSess hP _ _) fun _ => hP.bind (acts_delIdInUserMap hP _) fun _ => hP.pure _)
      fun _ => acts_finishClose hP n
  refine hP.bind (acts_getSess hP _ _) fun st => ?_
  cases st with
  | wait | matchApply => exact hP.pure _
  | conn | logout => exact acts_finishClose hP n
  | login | matchRequest | matchRecver => exact hforget
  | matchConfirm =>
    exact hP.bind (acts_getSess hP _ _) fun _ => hP.bind (acts_delIdInUserMap hP _) fun _ =>
      acts_finishClose hP n
  | matchComplete =>
    exact hP.bind (acts_getSess hP _ _) fun _ => hP.bind (acts_delRedisKey hP _) fun _ =>
      hP.bind (acts_aside hP fun _ => ⟨rfl, rfl, rfl, rfl, rfl, rfl⟩) fun _ => hforget

lemma acts_handleReceiveError (n : SessionId) (error : RecvError) :
    P _ (handleReceiveError n error) := by
  cases error with
  | eof | connectionReset => exact acts_closeSession hP n
  | other => exact hP.pure _

lemma acts_waitReceive (n : SessionId) : P _ (waitReceive n) :=
  acts_aside hP fun _ => ⟨rfl, rfl, rfl, rfl, rfl, rfl⟩

/-- The dispatch of a packet, when the property holds of the requests that change users, and of
matches. -/
lemma acts_dispatch {n : SessionId} {packet : Packet}
    (hfriends : ∀ message, packet = .friendsReq message →
      P _ (processFriendsFunction n message))
    (hlogin : ∀ message, packet = .joinReq message → P _ (lobbyLoginProcess n message))
    (hmatch : ∀ a b, P _ (makeMatchingAndSendComplete a b)) : P _ (processPacket n packet) := by
  cases packet with
  | friendsReq message => exact hfriends message rfl
  | playFriendsRel message => exact acts_processMatchingWithFriends hP hmatch n message
  | playRankReq => exact acts_processMatching hP hmatch n
  | joinReq message => exact hP.bind (hlogin message rfl) fun _ => hP.pure _
  | logoutReq => exact hP.bind (acts_lobbyLogoutProcess hP n) fun _ => hP.pure _
  | matchConfirm =>
    refine hP.bind (hP.bind (acts_getSess hP _ _) fun _ => acts_ite
      (hP.bind (acts_setStatus hP _ (by simp)) fun _ => hP.pure _) (hP.pure _)) fun confirmed =>
      acts_ite (acts_closeSession hP n) (hP.pure _)
  | errorMsg message =>
    exact hP.bind (acts_read hP _) fun _ => hP.bind (acts_read hP _) fun _ =>
      acts_sendMessage hP _ _
  | other type => exact hP.pure _

omit hP in
/-- The dispatch of a packet, when the property holds of all actions, of logins and of matches. -/
lemma acts_processPacket (hP : Rules P) (hlogin : ∀ n token id, P _ (loginAs n token id))
    (hmatch : ∀ a b, P _ (makeMatchingAndSendComplete a b)) (n : SessionId) (packet : Packet) :
    P _ (processPacket n packet) :=
  acts_dispatch hP.units
    (fun message _ => acts_processFriendsFunction hP.units n message fun _ => hP.setFriendsCount n)
    (fun message _ => acts_lobbyLoginProcess hP.units n message (hlogin n)) hmatch

end ChannelServer
