/-
The friends requests, executed in one state.

A request to add or to delete a friend checks the number of friends that its session keeps, changes
the table `friend_info`, and then changes the number; the number and the table together are a list
with a counter (`Server.listed`), and the request is one step of `CappedSet.Counted`.  A request to
search for a user changes nothing.  Each request is answered with one message, and borrows a
connection only when it comes to a statement.

`Server.requested` is the state after a request; `processFriendsFunction_run` and
`serves_of_request` say that a request ends, with this state, exactly when it finds the connection
that it needs.
-/
import ChannelServer.Lib.CappedSet
import ChannelServer.Calls
import ChannelServer.Sending

namespace ChannelServer

open Resumption CappedSet

/-! ### What a request asks for, and how it is answered -/

/-- What a friends request asks for, when it is to change the list. -/
def FriendsRequest.op (message : FriendsRequest) : Option (Op Str) :=
  match message.type with
  | .add => some (.insert message.targetId)
  | .del => some (.erase message.targetId)
  | .search => none

/-- The statements of the request all succeed. -/
def Answers.allow (a : Answers) : Op Str → Bool
  | .insert _ => !a.fails && !a.next.fails
  | .erase _ => !a.fails

/-- The message by which a request is answered. -/
def answerTo (op : Op Str) (granted : Bool) : Message :=
  match op with
  | .insert target =>
      .friendsAns (if granted then .addSuccess else .addFail) ⟨⟨0, 0, 0, 0⟩, target⟩ none
  | .erase target =>
      .friendsAns (if granted then .delSuccess else .delFail) ⟨⟨0, 0, 0, 0⟩, target⟩ none

/-- The session is sent a message, and its number of friends is set. -/
def Server.answered (s : Server) (n : SessionId) (message : Message) (count : ℤ) : Server :=
  { s with
    heap := s.heap + 1
    sess := Function.update s.sess n
      { s.sess n with
        friendsCount := count
        send := (s.sess n).send.push ⟨s.heap, message⟩ } }

/-- What other clients are told about a user who is online. -/
def User.info (x : User) : UserInfo :=
  ⟨⟨x.ratingScore, x.battleHistory, x.win, x.lose⟩, x.userId⟩

/-- What other clients are told about a user who is not. -/
def UserRow.info (row : UserRow) (id : Str) : UserInfo :=
  ⟨⟨row.rating.toInt, row.totalGames.toInt, row.win.toInt, row.lose.toInt⟩, id⟩

/-- The message by which a search is answered. -/
def Server.searchAnswer (s : Server) (target : Str) : Message :=
  match s.userIdMap target with
  | some k => .friendsAns .searchSuccess (s.sess k).toUser.info (some true)
  | none =>
      match if s.answers.fails = true then none else s.tables.userRow target with
      | some row => .friendsAns .searchSuccess (row.info target) (some false)
      | none => .friendsAns .searchFail ⟨⟨0, 0, 0, 0⟩, target⟩ none

/-- The rows of `friend_info`, and the number of friends that the session keeps. -/
def Server.listed (s : Server) (n : SessionId) : Counted (Str × Str) :=
  ⟨s.tables.friendInfo, (s.sess n).friendsCount⟩

/-- The request of a session to change the table. -/
def Server.toTable (s : Server) (n : SessionId) (op : Op Str) : Request (Str × Str) :=
  ⟨op.map (Prod.mk (s.sess n).userId), s.answers.allow op⟩

/-- The request comes to a statement. -/
def Server.borrows (s : Server) (n : SessionId) (message : FriendsRequest) : Bool :=
  match message.op with
  | some (.insert _) => decide ((s.sess n).friendsCount < 20)
  | some (.erase _) => decide ((s.sess n).friendsCount > 0)
  | none => (s.userIdMap message.targetId).isNone

/-- The table and the number of friends after a request. -/
def Server.relisted (s : Server) (n : SessionId) (message : FriendsRequest) :
    Counted (Str × Str) :=
  match message.op with
  | some op => (s.listed n).step 20 (s.toTable n op)
  | none => s.listed n

/-- The answer to a request. -/
def Server.response (s : Server) (n : SessionId) (message : FriendsRequest) : Message :=
  match message.op with
  | some op => answerTo op ((s.listed n).granted 20 (s.toTable n op))
  | none => s.searchAnswer message.targetId

/-- The state after a request, with the answers of the outside that are left. -/
def Server.requested (s : Server) (n : SessionId) (message : FriendsRequest) (left : Answers) :
    Server :=
  (s.withDb (if s.borrows n message = true then s.connectionQue.rotate 1 else s.connectionQue) left
    { s.tables with friendInfo := (s.relisted n message).rows }).answered n
      (s.response n message) (s.relisted n message).count

/-! ### One request -/

section Requests

variable {s s' : Server} {n : SessionId} {target : Str}

lemma sendMessage_answered (message : Message) (s : Server) :
    (sendMessage n message).run s = .done () (s.answered n message (s.sess n).friendsCount) := rfl

lemma setFriendsCount_run (count : ℤ) (s : Server) :
    (setFriendsCount n count).run s =
      .done () (s.setSess n { s.sess n with friendsCount := count }) := rfl

/-- The number of friends is set before the message is sent. -/
lemma answered_setSess (message : Message) (count : ℤ) (s : Server) :
    (s.setSess n { s.sess n with friendsCount := count }).answered n message
      ((s.setSess n { s.sess n with friendsCount := count }).sess n).friendsCount =
      s.answered n message count := by
  simp [Server.answered, Server.setSess]

section Change

variable {guard : ℤ → Bool} {change : Str → Str → Handler Bool} {step : ℤ}
  {success failure : FriendsAnsType}

lemma changeFriends_refused (hguard : guard (s.sess n).friendsCount = false) :
    (changeFriends guard change step success failure n target).run s =
      .done false (s.answered n (.friendsAns failure ⟨⟨0, 0, 0, 0⟩, target⟩ none)
        (s.sess n).friendsCount) := by
  have hcount : (getFriendsCount n).run s = .done (s.sess n).friendsCount s := rfl
  unfold changeFriends
  rw [Prog.run_bind, hcount, Out.bind_done, if_neg (by simp [hguard])]
  rfl

lemma changeFriends_run {b : Bool} {t : Server} (hguard : guard (s.sess n).friendsCount = true)
    (hchange : (change (s.sess n).userId target).run s = .done b t) (hsess : t.sess = s.sess) :
    (changeFriends guard change step success failure n target).run s =
      .done b (t.answered n
        (.friendsAns (if b then success else failure) ⟨⟨0, 0, 0, 0⟩, target⟩ none)
        (if b then (s.sess n).friendsCount + step else (s.sess n).friendsCount)) := by
  have hcount : (getFriendsCount n).run s = .done (s.sess n).friendsCount s := rfl
  have huser : (getUserId n).run s = .done (s.sess n).userId s := rfl
  unfold changeFriends
  rw [Prog.run_bind, hcount, Out.bind_done, if_pos hguard, Prog.run_bind, huser, Out.bind_done,
    Prog.run_bind, hchange, Out.bind_done]
  cases b with
  | true =>
    rw [if_pos rfl, Prog.run_bind, setFriendsCount_run, Out.bind_done, Prog.run_bind,
      sendMessage_answered, Out.bind_done, answered_setSess]
    rfl
  | false =>
    rw [if_neg (by simp), Prog.run_bind, sendMessage_answered, Out.bind_done, hsess]
    rfl

/-- A request that passes the check of the number borrows a connection. -/
lemma serves_of_changeFriends {b : Bool}
    (hchange : ∀ id target, ∃ f, change id target = acquireConnection >>= f)
    (hguard : guard (s.sess n).friendsCount = true)
    (h : (changeFriends guard change step success failure n target).run s = .done b s') :
    s.Serves := by
  obtain ⟨count, s₁, h₁, h⟩ := Prog.run_bind_eq_done.1 h
  obtain ⟨rfl, rfl⟩ := getSess_eq_done h₁
  rw [if_pos hguard] at h
  obtain ⟨id, s₂, h₂, h⟩ := Prog.run_bind_eq_done.1 h
  obtain ⟨rfl, rfl⟩ := getSess_eq_done h₂
  obtain ⟨changed, s₃, h₃, -⟩ := Prog.run_bind_eq_done.1 h
  obtain ⟨f, hf⟩ := hchange (s.sess n).userId target
  rw [hf] at h₃
  exact serves_of_bind h₃

end Change

/-- The state after a request to change the list, by whether it is granted. -/
lemma requested_eq {message : FriendsRequest} {op : Op Str} {b : Bool} {left : Answers}
    (hop : message.op = some op) (hb : (s.listed n).granted 20 (s.toTable n op) = b) :
    s.requested n message left =
      (s.withDb (if s.borrows n message = true then s.connectionQue.rotate 1 else s.connectionQue)
        left { s.tables with
          friendInfo := (if b = true then (s.listed n).change (s.toTable n op).op
            else s.listed n).rows }).answered n (answerTo op b)
        (if b = true then (s.listed n).change (s.toTable n op).op else s.listed n).count := by
  subst hb
  simp only [Server.requested, Server.response, Server.relisted, hop, Counted.step]

lemma addFriends_run (target : Str) (hserves : s.borrows n ⟨.add, target⟩ = true → s.Serves) :
    ∃ b left, (addFriends n target).run s = .done b (s.requested n ⟨.add, target⟩ left) := by
  have hgranted : (s.listed n).granted 20 (s.toTable n (.insert target)) =
      decide ((s.sess n).friendsCount < 20 ∧ ((s.sess n).userId, target) ∉ s.tables.friendInfo ∧
        s.answers.fails = false ∧ s.answers.next.fails = false) := by
    rw [Bool.eq_iff_iff, Server.toTable, Op.map, Counted.granted_insert, decide_eq_true_eq]
    simp [Server.listed, Answers.allow]
  by_cases hguard : (s.sess n).friendsCount < 20
  · have hborrows : s.borrows n ⟨.add, target⟩ = true := decide_eq_true hguard
    obtain ⟨left, hrun⟩ := addUserFrinedsList_run (hserves hborrows) (s.sess n).userId target
    by_cases hadd : ((s.sess n).userId, target) ∉ s.tables.friendInfo ∧ s.answers.fails = false ∧
        s.answers.next.fails = false
    · rw [decide_eq_true ⟨hguard, hadd⟩] at hgranted
      rw [if_pos hadd] at hrun
      refine ⟨true, left, ?_⟩
      rw [requested_eq rfl hgranted, if_pos hborrows]
      exact changeFriends_run (decide_eq_true hguard) hrun rfl
    · rw [decide_eq_false fun h => hadd h.2] at hgranted
      rw [if_neg hadd] at hrun
      refine ⟨false, left, ?_⟩
      rw [requested_eq rfl hgranted, if_pos hborrows]
      exact changeFriends_run (decide_eq_true hguard) hrun rfl
  · have hborrows : ¬ s.borrows n ⟨.add, target⟩ = true := fun h => hguard (of_decide_eq_true h)
    rw [decide_eq_false fun h => hguard h.1] at hgranted
    refine ⟨false, s.answers, ?_⟩
    rw [requested_eq rfl hgranted, if_neg hborrows]
    exact changeFriends_refused (decide_eq_false hguard)

lemma delFriends_run (target : Str) (hserves : s.borrows n ⟨.del, target⟩ = true → s.Serves) :
    ∃ b left, (delFriends n target).run s = .done b (s.requested n ⟨.del, target⟩ left) := by
  have hgranted : (s.listed n).granted 20 (s.toTable n (.erase target)) =
      decide ((s.sess n).friendsCount > 0 ∧ ((s.sess n).userId, target) ∈ s.tables.friendInfo ∧
        s.answers.fails = false) := by
    rw [Bool.eq_iff_iff, Server.toTable, Op.map, Counted.granted_erase, decide_eq_true_eq]
    simp [Server.listed, Answers.allow]
  by_cases hguard : (s.sess n).friendsCount > 0
  · have hborrows : s.borrows n ⟨.del, target⟩ = true := decide_eq_true hguard
    have hrun := delUserFrinedsList_run (hserves hborrows) (s.sess n).userId target
    by_cases hdel : ((s.sess n).userId, target) ∈ s.tables.friendInfo ∧ s.answers.fails = false
    · rw [decide_eq_true ⟨hguard, hdel⟩] at hgranted
      rw [if_pos hdel] at hrun
      refine ⟨true, s.answers.next, ?_⟩
      rw [requested_eq rfl hgranted, if_pos hborrows]
      exact changeFriends_run (decide_eq_true hguard) hrun rfl
    · rw [decide_eq_false fun h => hdel h.2] at hgranted
      rw [if_neg hdel] at hrun
      refine ⟨false, s.answers.next, ?_⟩
      rw [requested_eq rfl hgranted, if_pos hborrows]
      exact changeFriends_run (decide_eq_true hguard) hrun rfl
  · have hborrows : ¬ s.borrows n ⟨.del, target⟩ = true := fun h => hguard (of_decide_eq_true h)
    rw [decide_eq_false fun h => hguard h.1] at hgranted
    refine ⟨false, s.answers, ?_⟩
    rw [requested_eq rfl hgranted, if_neg hborrows]
    exact changeFriends_refused (decide_eq_false hguard)

/-- The answer to a search, by where the user is found. -/
lemma searchResponse_run (target : Str) (hfree : s.mtx .userIdMapMtx = 0)
    (hserves : s.userIdMap target = none → s.Serves) :
    ∃ left, (searchResponse target).run s = .done (s.searchAnswer target)
      (s.withDb (if (s.userIdMap target).isNone = true then s.connectionQue.rotate 1
        else s.connectionQue) left s.tables) := by
  unfold searchResponse
  rw [Prog.run_bind, findIdInUserMap_run target hfree, Out.bind_done]
  cases hmap : s.userIdMap target with
  | some k =>
    refine ⟨s.answers, ?_⟩
    simp only [Server.searchAnswer, hmap]
    rfl
  | none =>
    refine ⟨s.answers.next, ?_⟩
    dsimp only
    rw [Prog.run_bind, getQueryUserInfo_run (hserves hmap), Out.bind_done]
    simp only [Server.searchAnswer, hmap]
    cases (if s.answers.fails = true then none else s.tables.userRow target) <;> rfl

/-- What a request needs to end. -/
structure Server.ServesRequest (s : Server) (n : SessionId) (message : FriendsRequest) : Prop where
  connection : s.borrows n message = true → s.Serves
  map : message.op = none → s.mtx .userIdMapMtx = 0

/-- The request is answered when its statements, if it comes to them, find a connection. -/
lemma processFriendsFunction_run {message : FriendsRequest} (h : s.ServesRequest n message) :
    ∃ left, (processFriendsFunction n message).run s = .done () (s.requested n message left) := by
  obtain ⟨type, target⟩ := message
  unfold processFriendsFunction
  cases type with
  | add =>
    obtain ⟨b, left, hrun⟩ := addFriends_run target h.connection
    exact ⟨left, Prog.run_bind_eq_done.2 ⟨b, _, hrun, rfl⟩⟩
  | del =>
    obtain ⟨b, left, hrun⟩ := delFriends_run target h.connection
    exact ⟨left, Prog.run_bind_eq_done.2 ⟨b, _, hrun, rfl⟩⟩
  | search =>
    obtain ⟨left, hrun⟩ := searchResponse_run target (h.map rfl) fun hmap =>
      h.connection (Option.isNone_iff_eq_none.2 hmap)
    have hsearch : (searchUser n target).run s =
        .done true (s.requested n ⟨.search, target⟩ left) :=
      Prog.run_bind_eq_done.2 ⟨_, _, hrun, rfl⟩
    exact ⟨left, Prog.run_bind_eq_done.2 ⟨true, _, hsearch, rfl⟩⟩

/-- A request that ends has found what it needs. -/
lemma servesRequest_of_done {message : FriendsRequest}
    (h : (processFriendsFunction n message).run s = .done () s') : s.ServesRequest n message := by
  obtain ⟨type, target⟩ := message
  unfold processFriendsFunction at h
  cases type with
  | add =>
    obtain ⟨b, s₁, h₁, -⟩ := Prog.run_bind_eq_done.1 h
    exact ⟨fun hborrows => serves_of_changeFriends (fun _ _ => ⟨_, rfl⟩) hborrows h₁,
      fun hop => by cases hop⟩
  | del =>
    obtain ⟨b, s₁, h₁, -⟩ := Prog.run_bind_eq_done.1 h
    exact ⟨fun hborrows => serves_of_changeFriends (fun _ _ => ⟨_, rfl⟩) hborrows h₁,
      fun hop => by cases hop⟩
  | search =>
    obtain ⟨b, s₁, h₁, -⟩ := Prog.run_bind_eq_done.1 h
    obtain ⟨answer, s₂, h₂, -⟩ := Prog.run_bind_eq_done.1 h₁
    obtain ⟨found, s₃, h₃, h₂⟩ := Prog.run_bind_eq_done.1 h₂
    refine ⟨fun hborrows => ?_, fun _ => mtx_eq_zero_of_lock (by simp) h₃⟩
    obtain ⟨rfl, rfl⟩ := findIdInUserMap_eq_done h₃
    have hmap : s.userIdMap target = none := Option.isNone_iff_eq_none.1 hborrows
    rw [hmap] at h₂
    obtain ⟨row, s₄, h₄, -⟩ := Prog.run_bind_eq_done.1 h₂
    exact serves_of_bind h₄

lemma processFriendsFunction_eq_done {message : FriendsRequest}
    (h : (processFriendsFunction n message).run s = .done () s') :
    ∃ left, s' = s.requested n message left := by
  obtain ⟨left, hrun⟩ := processFriendsFunction_run (servesRequest_of_done h)
  obtain ⟨-, rfl⟩ := Out.done.inj (h.symm.trans hrun)
  exact ⟨left, rfl⟩

/-! ### The sessions after a request -/

section Sessions

variable {message : FriendsRequest} {left : Answers}

lemma requested_sess_self : ((s.requested n message left).sess n) = { s.sess n with
    friendsCount := (s.relisted n message).count
    send := (s.sess n).send.push ⟨s.heap, s.response n message⟩ } := by
  simp [Server.requested, Server.answered, Server.withDb]

lemma requested_sess_of_ne {k : SessionId} (hk : k ≠ n) :
    (s.requested n message left).sess k = s.sess k := by
  simp [Server.requested, Server.answered, Server.withDb, hk]

/-- A request keeps what other clients are told about the users. -/
lemma requested_info (k : SessionId) :
    ((s.requested n message left).sess k).toUser.info = (s.sess k).toUser.info := by
  by_cases hk : k = n
  · subst hk
    rw [requested_sess_self]
    rfl
  · rw [requested_sess_of_ne hk]

end Sessions

end Requests

end ChannelServer
