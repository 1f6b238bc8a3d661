/-
Packets whose bodies cannot be parsed.

`decode_message` does not look at the result of `ParseFromArray`, so that a handler runs on
whatever fields were read before the parse failed, the others being at their defaults.  The parse
functions of the four messages are parameters here (`Parsers`), and so is the database, which is
sent texts that these fields are printed into as they are.  `Server.Ignores` says of each message
when the handler leaves the friend lists, the queues, the statuses and the login map alone:
`malformed_body_ignored_iff`.
-/
import ChannelServer.FriendList
import ChannelServer.Queries
import ChannelServer.Relays

namespace ChannelServer

open Quoting Resumption WaitingRoom

/-! ### Bodies -/

/-- What `ParseFromArray` returns, and the message that it leaves: the fields that were read, and
the defaults of the others. -/
structure Parsed (μ : Type) where
  ok : Bool
  message : μ

/-- `ParseFromArray` of the messages of the four requests. -/
structure Parsers where
  friendsReq : Str → Parsed FriendsRequest
  playFriendsRel : Str → Parsed MatchWithFriendsRelay
  playRankReq : Str → Parsed Unit
  joinReq : Str → Parsed JoinRequest

/-- The types of the four requests. -/
inductive RequestType
  | friendsReq
  | playFriendsRel
  | playRankReq
  | joinReq
deriving DecidableEq, Repr

/-- `packet_handler::decode_message`. -/
def decodeMessage {μ : Type} (parse : Str → Parsed μ) (decodingData : Str) : μ :=
  (parse decodingData).message

/-- The packet that is dispatched for a body. -/
def Parsers.packet (P : Parsers) (type : RequestType) (body : Str) : Packet :=
  match type with
  | .friendsReq => .friendsReq (decodeMessage P.friendsReq body)
  | .playFriendsRel => .playFriendsRel (decodeMessage P.playFriendsRel body)
  | .playRankReq => .playRankReq
  | .joinReq => .joinReq (decodeMessage P.joinReq body)

/-- The body is an encoding of the message of its type. -/
def Parsers.valid (P : Parsers) (type : RequestType) (body : Str) : Bool :=
  match type with
  | .friendsReq => (P.friendsReq body).ok
  | .playFriendsRel => (P.playFriendsRel body).ok
  | .playRankReq => (P.playRankReq body).ok
  | .joinReq => (P.joinReq body).ok

/-! ### The database -/

/-- A database, as far as its tables are concerned: a text that is read as one of the statements has
the effect of this statement, and the text of a SELECT changes nothing, whatever ids are in it. -/
structure Database where
  exec : Str → Tables → QueryResult × Tables
  faithful : ∀ q : Stmt, q.Faithful → ∀ t, exec q.query t = q.exec t
  reads : ∀ q : Stmt, Effect.Reads Stmt.exec q → q.query.length + 1 ≤ queryLength →
    ∀ t, (exec q.query t).2 = t

/-- What the database does with the text of a statement. -/
def Database.effect (D : Database) : Effect := fun t q => D.exec q.query t

/-- When the text of a DELETE is faithful, it changes nothing exactly if its row is not there. -/
lemma Database.deletes_nothing_iff (D : Database) {t : Tables} {id target : Str}
    (hq : (Stmt.deleteFriend id target).Faithful) :
    ((D.effect t (.deleteFriend id target)).1.affected = 0 ∧
        (D.effect t (.deleteFriend id target)).2.friendInfo = t.friendInfo) ↔
      (id, target) ∉ t.friendInfo := by
  have heffect : D.effect t (.deleteFriend id target) =
      (Stmt.deleteFriend id target).exec t := D.faithful _ hq t
  rw [heffect]
  constructor
  · rintro ⟨hzero, -⟩
    exact filter_eq_nil_iff_not_mem.1 (List.length_eq_zero_iff.1 hzero)
  · intro hmem
    rw [exec_deleteFriend_of_not_mem hmem]
    exact ⟨rfl, rfl⟩

/-! ### Packets without effect -/

/-- The friend lists and their lengths, the queues, the statuses and the login map are the same. -/
structure NoEffect (s s' : Server) : Prop where
  friendInfo : s'.tables.friendInfo = s.tables.friendInfo
  friendsCount : ∀ k, (s'.sess k).friendsCount = (s.sess k).friendsCount
  matchingQue : s'.matchingQue = s.matchingQue
  stat : ∀ k, (s'.sess k).stat = (s.sess k).stat
  userIdMap : s'.userIdMap = s.userIdMap

/-- A friends request that changes no list: the number of friends says no, or the database. -/
def Server.IgnoresFriends (s : Server) (exec : Effect) (n : SessionId) (message : FriendsRequest) :
    Prop :=
  let id := (s.sess n).userId
  match message.type with
  | .add => ¬ ((s.sess n).friendsCount < 20 ∧
      (exec s.tables (.selectFriend id message.targetId)).1.friendRows = [] ∧
      s.answers.fails = false ∧ s.answers.next.fails = false)
  | .del => 0 < (s.sess n).friendsCount → s.answers.fails = false →
      (exec s.tables (.deleteFriend id message.targetId)).1.affected = 0 ∧
        (exec s.tables (.deleteFriend id message.targetId)).2.friendInfo = s.tables.friendInfo
  | .search => True

/-- A relay that is not passed on, and that is not sent by a session to itself, unless this session
is in the status `LOGIN` already. -/
def View.IgnoresRelay (v : View) (n : SessionId) (message : MatchWithFriendsRelay) : Prop :=
  (v.userIdMap message.targetId = some n → v.stat n = .login) ∧
    ∀ m, v.userIdMap message.targetId = some m → m ≠ n → ¬ v.PassesOn message.type n m

/-- A rank request of a session that waits already and whose queue is the same after it. -/
def View.IgnoresRank (v : View) (n : SessionId) : Prop :=
  v.stat n = .matchRequest ∧ ∃ x rest, v.matchingQue (checkRating (v.rating n)).que = x :: rest ∧
    (∀ y ∈ rest, y = n) ∧ (x = n ∨ v.isOpen n = false ∧ v.waiting x = true)

/-- A login request on a closed socket, or one of a user who cannot be logged in, or one that is
refused in the status `LOGOUT`; `found` is the row that the database finds for a user. -/
def Server.IgnoresJoin (s : Server) (found : Str → Option UserRow) (n : SessionId)
    (message : JoinRequest) : Prop :=
  (s.sess n).isOpen = false ∨
    (∃ id, s.redis message.token = some id ∧ s.userIdMap id = none ∧
      (s.answers.fails = true ∨ found id = none ∨ s.answers.next.fails = true)) ∨
    (∀ id, s.redis message.token = some id → s.userIdMap id ≠ none) ∧ (s.sess n).stat = .logout

/-- The packet finds nothing to change. -/
def Server.Ignores (s : Server) (exec : Effect) (n : SessionId) : Packet → Prop
  | .friendsReq message => s.IgnoresFriends exec n message
  | .playFriendsRel message => s.view.IgnoresRelay n message
  | .playRankReq => s.view.IgnoresRank n
  | .joinReq message => s.IgnoresJoin (exec.userRow s.tables) n message
  | _ => True

/-- The part of `NoEffect` that the view shows. -/
structure View.Unmoved (v w : View) : Prop where
  friendInfo : w.friendInfo = v.friendInfo
  matchingQue : w.matchingQue = v.matchingQue
  stat : w.stat = v.stat
  userIdMap : w.userIdMap = v.userIdMap

section Packets

variable {s s' : Server} {v w : View} {n : SessionId}

lemma noEffect_iff_unmoved (h : KeepsUsers s s') : NoEffect s s' ↔ s.view.Unmoved s'.view := by
  constructor
  · intro hno
    exact ⟨hno.friendInfo, hno.matchingQue, funext hno.stat, hno.userIdMap⟩
  · intro hno
    exact ⟨hno.friendInfo, fun k => congrArg (·.friendsCount) (h.user k), hno.matchingQue,
      congrFun hno.stat, hno.userIdMap⟩

lemma View.Unmoved.refl (v : View) : v.Unmoved v := ⟨rfl, rfl, rfl, rfl⟩

/-! ### Friends requests -/

/-- An answer that sets the number of friends, after statements. -/
lemma noEffect_answered_iff {que : List ℕ} {answers : Answers} {tables : Tables} {message : Message}
    {count : ℤ} :
    NoEffect s ((s.withDb que answers tables).answered n message count) ↔
      tables.friendInfo = s.tables.friendInfo ∧ count = (s.sess n).friendsCount := by
  have hself : ((s.withDb que answers tables).answered n message count).sess n =
      { s.sess n with
        friendsCount := count
        send := (s.sess n).send.push ⟨s.heap, message⟩ } := by
    simp [Server.answered, Server.withDb]
  have hne : ∀ k, k ≠ n →
      ((s.withDb que answers tables).answered n message count).sess k = s.sess k := by
    intro k hk
    simp [Server.answered, Server.withDb, Function.update_of_ne hk]
  constructor
  · intro hno
    have hcount := hno.friendsCount n
    rw [hself] at hcount
    exact ⟨hno.friendInfo, hcount⟩
  · rintro ⟨hinfo, hcount⟩
    refine ⟨hinfo, fun k => ?_, rfl, fun k => ?_, rfl⟩
    · by_cases hk : k = n
      · rw [hk, hself, ← hcount]
      · rw [hne k hk]
    · by_cases hk : k = n
      · rw [hk, hself]
      · rw [hne k hk]

section Change

variable {guard : ℤ → Bool} {change : Str → Str → Handler Bool} {step : ℤ}
  {success failure : FriendsAnsType} {target : Str} {b c : Bool}

/-- A request to change the list has no effect when the number of friends does not allow it. -/
lemma noEffect_of_refused (hguard : guard (s.sess n).friendsCount = false)
    (h : (changeFriends guard change step success failure n target).run s = .done c s') :
    NoEffect s s' := by
  rw [changeFriends_refused hguard] at h
  obtain ⟨-, rfl⟩ := Out.done.inj h
  have hsame : NoEffect s ((s.withDb s.connectionQue s.answers s.tables).answered n
      (.friendsAns failure ⟨⟨0, 0, 0, 0⟩, target⟩ none) (s.sess n).friendsCount) :=
    noEffect_answered_iff.2 ⟨rfl, rfl⟩
  exact hsame

/-- Otherwise it has none when its statements say that they have changed nothing, and have not. -/
lemma noEffect_changed_iff {answers : Answers} {tables : Tables} (hstep : step ≠ 0)
    (hguard : guard (s.sess n).friendsCount = true)
    (hchange : (change (s.sess n).userId target).run s = .done b (s.afterQuery answers tables))
    (h : (changeFriends guard change step success failure n target).run s = .done c s') :
    NoEffect s s' ↔ b = false ∧ tables.friendInfo = s.tables.friendInfo := by
  rw [changeFriends_run hguard hchange rfl] at h
  obtain ⟨-, rfl⟩ := Out.done.inj h
  refine noEffect_answered_iff.trans (and_comm.trans (and_congr_left' ?_))
  cases b with
  | false => exact ⟨fun _ => rfl, fun _ => rfl⟩
  | true =>
    have hcount : (s.sess n).friendsCount + step ≠ (s.sess n).friendsCount := by omega
    exact ⟨fun heq => absurd heq hcount, fun hb => by cases hb⟩

end Change

/-- A search uses up a connection at most. -/
lemma searchResponse_eq_done {exec : Effect} {target : Str} {answer : Message}
    (hreads : s.userIdMap target = none → exec.Reads (.selectUserInfo target))
    (h : (searchResponse target exec).run s = .done answer s') :
    ∃ que answers, s' = s.withDb que answers s.tables := by
  obtain ⟨found, s₁, h₁, h⟩ := Prog.run_bind_eq_done.1 h
  obtain ⟨rfl, rfl⟩ := findIdInUserMap_eq_done h₁
  cases hmap : s.userIdMap target with
  | some k =>
    rw [hmap] at h
    obtain ⟨-, rfl⟩ := Out.done.inj h
    exact ⟨s.connectionQue, s.answers, rfl⟩
  | none =>
    rw [hmap] at h
    obtain ⟨row, s₂, h₂, h⟩ := Prog.run_bind_eq_done.1 h
    rw [getQueryUserInfo_run_of_reads (serves_of_bind h₂) (hreads hmap)] at h₂
    obtain ⟨-, rfl⟩ := Out.done.inj h₂
    cases row <;>
    · obtain ⟨-, rfl⟩ := Out.done.inj h
      exact ⟨_, _, rfl⟩

lemma noEffect_friends_iff {exec : Effect} {message : FriendsRequest} {u : Unit}
    (hreads : ∀ q ∈ s.statements n (.friendsReq message), Effect.Reads Stmt.exec q → exec.Reads q)
    (h : (processFriendsFunction n message exec).run s = .done u s') :
    NoEffect s s' ↔ s.IgnoresFriends exec n message := by
  obtain ⟨type, target⟩ := message
  unfold processFriendsFunction at h
  cases type with
  | add =>
    obtain ⟨c, s₁, h₁, hdone⟩ := Prog.run_bind_eq_done.1 h
    obtain ⟨-, rfl⟩ := Out.done.inj hdone
    by_cases hguard : (s.sess n).friendsCount < 20
    · have hserves := serves_of_changeFriends (fun _ _ => ⟨_, rfl⟩) (decide_eq_true hguard) h₁
      have hmem : Stmt.selectFriend (s.sess n).userId target ∈
          s.statements n (.friendsReq ⟨.add, target⟩) := by
        simp [Server.statements, hguard]
      obtain ⟨answers, hadd⟩ := addUserFrinedsList_run_of_reads hserves
        (hreads _ hmem fun _ => rfl)
      split at hadd
      · next hgranted =>
        rw [noEffect_changed_iff (by decide) (decide_eq_true hguard) hadd h₁]
        exact ⟨fun hno => absurd hno.1 (by simp), fun hno => absurd ⟨hguard, hgranted⟩ hno⟩
      · next hgranted =>
        rw [noEffect_changed_iff (by decide) (decide_eq_true hguard) hadd h₁]
        exact ⟨fun _ hall => hgranted hall.2, fun _ => ⟨rfl, rfl⟩⟩
    · exact ⟨fun _ hall => hguard hall.1, fun _ => noEffect_of_refused (decide_eq_false hguard) h₁⟩
  | del =>
    obtain ⟨c, s₁, h₁, hdone⟩ := Prog.run_bind_eq_done.1 h
    obtain ⟨-, rfl⟩ := Out.done.inj hdone
    by_cases hguard : (s.sess n).friendsCount > 0
    · have hserves := serves_of_changeFriends (fun _ _ => ⟨_, rfl⟩) (decide_eq_true hguard) h₁
      have hdel : (delUserFrinedsList (s.sess n).userId target exec).run s = _ :=
        delUserFrinedsList_run_of_effect hserves _ _
      split at hdel
      · next hfail =>
        rw [noEffect_changed_iff (by decide) (decide_eq_true hguard) hdel h₁]
        exact ⟨fun _ _ hok => absurd hfail (by simp [hok]), fun _ => ⟨rfl, rfl⟩⟩
      · next hok =>
        rw [noEffect_changed_iff (by decide) (decide_eq_true hguard) hdel h₁]
        rw [decide_eq_false_iff_not, not_not]
        exact ⟨fun hno _ _ => hno, fun hno => hno hguard (Bool.eq_false_iff.2 hok)⟩
    · exact ⟨fun _ hpos => absurd hpos hguard,
        fun _ => noEffect_of_refused (decide_eq_false hguard) h₁⟩
  | search =>
    obtain ⟨c, s₁, h₁, hdone⟩ := Prog.run_bind_eq_done.1 h
    obtain ⟨-, rfl⟩ := Out.done.inj hdone
    obtain ⟨answer, s₂, h₂, hsend⟩ := Prog.run_bind_eq_done.1 h₁
    obtain ⟨-, rfl⟩ := Out.done.inj hsend
    obtain ⟨que, answers, rfl⟩ := searchResponse_eq_done (fun hmap => hreads _
      (by simp [Server.statements, hmap]) fun _ => rfl) h₂
    exact ⟨fun _ => trivial, fun _ => noEffect_answered_iff.2 ⟨rfl, rfl⟩⟩

/-! ### Relays -/

lemma View.Relayed.unmoved_iff {message : MatchWithFriendsRelay} (h : v.Relayed n message w) :
    v.Unmoved w ↔ v.IgnoresRelay n message := by
  -- a relay that is passed on sets the status of the requester to one that it did not have
  have hpassed : ∀ {m}, v.userIdMap message.targetId = some m → m ≠ n →
      v.PassesOn message.type n m → w.stat n ≠ v.stat n →
      (v.Unmoved w ↔ v.IgnoresRelay n message) := by
    intro m hm hne hpass hstat
    exact ⟨fun hsame => absurd (congrFun hsame.stat n) hstat,
      fun hno => absurd hpass (hno.2 m hm hne)⟩
  cases h with
  | refused hself hno =>
    exact ⟨fun _ => ⟨fun heq => absurd heq hself, fun m hm _ => hno m hm⟩, fun _ => .refl v⟩
  | self hself =>
    constructor
    · intro hsame
      have hstat := congrFun hsame.stat n
      rw [View.setStat_stat, if_pos rfl] at hstat
      refine ⟨fun _ => hstat.symm, fun m hm hne => absurd ?_ hne⟩
      exact (Option.some.inj (hself.symm.trans hm)).symm
    · intro hno
      refine ⟨rfl, rfl, ?_, rfl⟩
      show Function.update v.stat n .login = v.stat
      rw [← hno.1 hself, Function.update_eq_self]
  | @accept m uuid htype htarget hne hn hm _ =>
    refine hpassed htarget hne (by rw [htype]; exact ⟨hn, hm⟩) ?_
    show Function.update (Function.update v.stat n .matchComplete) m .matchComplete n ≠ _
    rw [Function.update_of_ne hne.symm, Function.update_self, hn]
    simp
  | @apply m htype htarget hne hn hm =>
    refine hpassed htarget hne (by rw [htype]; exact ⟨hn, hm⟩) ?_
    show Function.update (Function.update v.stat n .matchApply) m .matchRecver n ≠ _
    rw [Function.update_of_ne hne.symm, Function.update_self, hn]
    simp
  | @deny m htype htarget hne hn hm =>
    refine hpassed htarget hne (by rw [htype]; exact ⟨hn, hm⟩) ?_
    show Function.update (Function.update v.stat n .login) m .login n ≠ _
    rw [Function.update_of_ne hne.symm, Function.update_self, hn]
    simp

/-! ### Rank requests -/

/-- A request of a session that waits already enters the queue only. -/
lemma View.enter_waiting {r : QueId} (hn : v.stat n = .matchRequest) :
    (v.enter n r).waiting = v.waiting := by
  have hstat : (v.enter n r).stat = v.stat := by
    show Function.update v.stat n .matchRequest = v.stat
    rw [← hn, Function.update_eq_self]
  unfold View.waiting
  rw [hstat]
  rfl

/-- Under the status of a session that waits, the condition is that the queue stays the same. -/
lemma View.serve_enter_iff {r : QueId} (hr : (checkRating (v.rating n)).que = r)
    (hn : v.stat n = .matchRequest) :
    serve (v.enter n r).waiting ((v.enter n r).matchingQue r) = (none, v.matchingQue r) ↔
      v.IgnoresRank n := by
  have hque : (v.enter n r).matchingQue r = v.matchingQue r ++ [n] := Function.update_self _ _ _
  have hwaiting : v.waiting n = false ↔ v.isOpen n = false := by simp [View.waiting, hn]
  rw [v.enter_waiting hn, hque, serve_append_eq_iff, View.IgnoresRank, hr, hwaiting]
  exact ⟨fun h => ⟨hn, h⟩, fun h => h.2⟩

lemma View.Served.unmoved_iff {b : Bool}
    (h : (v.enter n (checkRating (v.rating n)).que).Served (checkRating (v.rating n)).que w b) :
    v.Unmoved w ↔ v.IgnoresRank n := by
  generalize hr : (checkRating (v.rating n)).que = r at h
  have hstat : ∀ k, (v.enter n r).stat k = if k = n then .matchRequest else v.stat k :=
    fun k => Function.update_apply _ _ _ _
  cases h with
  | nobody hnone =>
    have hque : ∀ q, Function.update (v.enter n r).matchingQue r q = v.matchingQue ↔
        q = v.matchingQue r := by
      intro q
      show Function.update (Function.update v.matchingQue r _) r q = v.matchingQue ↔ _
      rw [Function.update_idem, Function.update_eq_iff]
      exact and_iff_left fun _ _ => rfl
    constructor
    · intro hsame
      have hn : v.stat n = .matchRequest := by
        rw [← congrFun hsame.stat n]
        exact (hstat n).trans (if_pos rfl)
      refine (v.serve_enter_iff hr hn).1 (Prod.ext hnone ?_)
      exact (hque _).1 hsame.matchingQue
    · intro hno
      have hserve := (v.serve_enter_iff hr hno.1).2 hno
      refine ⟨rfl, (hque _).2 (congrArg Prod.snd hserve), funext fun k => ?_, rfl⟩
      refine (hstat k).trans ?_
      by_cases hk : k = n
      · rw [if_pos hk, hk, hno.1]
      · rw [if_neg hk]
  | @pair a b uuid hpair hkey =>
    refine ⟨fun hsame => ?_, fun hno => ?_⟩
    · -- one of the two is not the requester, and has waited
      obtain ⟨ha, hb, hne, -⟩ := serve_pair hpair
      have hwas : ∀ k, k ≠ n → (v.enter n r).waiting k = true → v.stat k = .matchRequest := by
        intro k hk hwait
        simp only [View.waiting, Bool.and_eq_true, decide_eq_true_eq, hstat, if_neg hk] at hwait
        exact hwait.2
      have hnow : ∀ k, k = a ∨ k = b → v.stat k = .matchComplete := by
        intro k hk
        rw [← congrFun hsame.stat k]
        show Function.update (Function.update (v.enter n r).stat a .matchComplete) b
          .matchComplete k = _
        rw [Function.update_apply, Function.update_apply]
        rcases hk with rfl | rfl
        · rw [if_neg hne, if_pos rfl]
        · rw [if_pos rfl]
      by_cases han : a = n
      · have hbn : b ≠ n := fun hbn => hne (han.trans hbn.symm)
        exact absurd ((hnow b (Or.inr rfl)).symm.trans (hwas b hbn hb)) (by simp)
      · exact absurd ((hnow a (Or.inl rfl)).symm.trans (hwas a han ha)) (by simp)
    · have hserve := (v.serve_enter_iff hr hno.1).2 hno
      rw [hserve] at hpair
      cases hpair

/-- The timer is not part of what a rank request may leave alone. -/
lemma View.unmoved_armUnless {b : Bool} : v.Unmoved (w.armUnless n b) ↔ v.Unmoved w := by
  rcases w.armUnless_cases n b with h | h <;> rw [h]
  exact ⟨fun hs => ⟨hs.1, hs.2, hs.3, hs.4⟩, fun hs => ⟨hs.1, hs.2, hs.3, hs.4⟩⟩

/-! ### Login requests -/

section Logins

variable {token id : Str} {found : Option UserRow} {friends : List Str}

/-- A login that does not succeed has failed at the database. -/
lemma LoginEnd.fails (h : LoginEnd n token id found friends s false s') :
    s.answers.fails = true ∨ found = none ∨ s.answers.next.fails = true := by
  cases h with
  | noRow _ hnone => exact hnone.imp_right Or.inl
  | noList _ _ _ hfail => exact Or.inr (Or.inr hfail)

/-- A login that succeeds has found a row, with both statements. -/
lemma LoginEnd.found_of_true (h : LoginEnd n token id found friends s true s') :
    ¬ (s.answers.fails = true ∨ found = none ∨ s.answers.next.fails = true) := by
  cases h with
  | joined _ hok hok' hrow => simp [hok, hok', hrow]

end Logins

lemma LobbyEnd.noEffect_iff {message : JoinRequest} {found : Str → Option UserRow}
    {friends : Str → List Str} {b : Bool} (h : LobbyEnd n message.token found friends s b s') :
    NoEffect s s' ↔ s.IgnoresJoin found n message := by
  cases h with
  | closed hclosed =>
    exact ⟨fun _ => Or.inl hclosed, fun _ => (noEffect_iff_unmoved (.refl s)).2 (.refl _)⟩
  | refused hopen hnone =>
    have hset : KeepsUsers s (s.setSess n { s.sess n with stat := .logout }) := .setSess rfl
    have hsent := hset.trans (acts_sendMessage usersRules n _ _ _ _ (sendMessage_run
      (.joinAns false none []) _))
    rw [noEffect_iff_unmoved hsent, view_sent, (view_setStatus rfl :
      (s.setSess n { s.sess n with stat := .logout }).view = s.view.setStat n .logout)]
    constructor
    · intro hsame
      have hstat := congrFun hsame.stat n
      rw [View.setStat_stat, if_pos rfl] at hstat
      exact Or.inr (Or.inr ⟨hnone, hstat.symm⟩)
    · rintro (hclosed | ⟨id, hkv, hid, -⟩ | ⟨-, hstat⟩)
      · exact absurd hopen (by simp [hclosed])
      · exact absurd hid (hnone id hkv)
      · refine ⟨rfl, rfl, ?_, rfl⟩
        show Function.update s.view.stat n .logout = s.view.stat
        rw [← hstat]
        exact Function.update_eq_self _ _
  | @admitted id b _ hopen hkv hid hend =>
    cases b with
    | false =>
      have hno : NoEffect s s' := by
        have hview : s'.view = s.view.eraseKey message.token ∨ s'.view = s.view := by
          rcases hend.view hid with ⟨-, hv⟩ | ⟨-, hv⟩ | ⟨hb, -⟩
          · exact Or.inl hv
          · exact Or.inr hv
          · cases hb
        rw [noEffect_iff_unmoved hend.keepsUsers.1]
        rcases hview with hv | hv <;> rw [hv]
        · exact ⟨rfl, rfl, rfl, rfl⟩
        · exact .refl _
      exact ⟨fun _ => Or.inr (Or.inl ⟨id, hkv, hid, hend.fails⟩), fun _ => hno⟩
    | true =>
      refine ⟨fun hno => ?_, ?_⟩
      · obtain ⟨-, rating, hv⟩ := ((hend.view hid).resolve_left (by simp)).resolve_left (by simp)
        have hmap : s'.view.userIdMap id = some n := by
          rw [hv]
          exact Function.update_self _ _ _
        exact absurd (hmap.symm.trans ((congrFun hno.userIdMap id).trans hid)) (by simp)
      · rintro (hclosed | ⟨id', hkv', -, hfails⟩ | ⟨hnone, -⟩)
        · exact absurd hopen (by simp [hclosed])
        · obtain rfl := Option.some.inj (hkv.symm.trans hkv')
          exact absurd hfails hend.found_of_true
        · exact absurd hid (hnone id hkv)

/-- **Packets without effect.**  What a packet of one of the four types has to find for its handler
to change nothing, when its SELECTs read only. -/
lemma noEffect_iff_ignores {exec : Effect} {P : Parsers} {type : RequestType} {body : Str}
    {u : Unit}
    (hreads : ∀ q ∈ s.statements n (P.packet type body), Effect.Reads Stmt.exec q → exec.Reads q)
    (h : (processPacket n (P.packet type body) exec).run s = .done u s') :
    NoEffect s s' ↔ s.Ignores exec n (P.packet type body) := by
  cases type with
  | friendsReq => exact noEffect_friends_iff hreads h
  | playFriendsRel =>
    have hkeep : KeepsUsers s s' :=
      users_processPacket (p := .playFriendsRel _) (fun _ hp => by cases hp)
        (fun _ hp => by cases hp) _ _ _ h
    have hrelayed := (processMatchingWithFriends_eq_done h).view
    exact (noEffect_iff_unmoved hkeep).trans hrelayed.unmoved_iff
  | playRankReq =>
    have hkeep : KeepsUsers s s' :=
      users_processPacket (p := .playRankReq) (fun _ hp => by cases hp)
        (fun _ hp => by cases hp) _ _ _ h
    obtain ⟨w, b, hserved, hv⟩ := view_processMatching h
    rw [noEffect_iff_unmoved hkeep, hv, View.unmoved_armUnless]
    exact hserved.unmoved_iff
  | joinReq =>
    obtain ⟨b, s₁, h₁, h⟩ := Prog.run_bind_eq_done.1 h
    obtain ⟨-, rfl⟩ := Out.done.inj h
    refine (lobbyLoginProcess_eq_done_of_reads (fun id hopen hkv hid => ?_) h₁).noEffect_iff
    have hmem : ∀ q ∈ [Stmt.selectUserInfo id, .selectFriends id],
        q ∈ s.statements n (.joinReq (decodeMessage P.joinReq body)) := by
      simp [Server.statements, hopen, hkv, hid]
    exact ⟨hreads _ (hmem _ (by simp)) fun _ => rfl, hreads _ (hmem _ (by simp)) fun _ => rfl⟩

end Packets

/-- **Malformed bodies.**  A packet is handled as the message that the parse has left, whether its
body is an encoding of this message or not: when the texts of its statements fit into their buffers,
it changes no friend list, no queue, no status and no entry of the login map exactly when that
message finds nothing to change, whatever the database makes of the texts. -/
theorem malformed_body_ignored_iff (D : Database) (P : Parsers) {s s' : Server} {n : SessionId}
    {type : RequestType} {body : Str} {u : Unit}
    (hfits : ∀ q ∈ s.statements n (P.packet type body), q.query.length + 1 ≤ queryLength)
    (h : (processPacket n (P.packet type body) D.effect).run s = .done u s') :
    NoEffect s s' ↔ s.Ignores D.effect n (P.packet type body) :=
  noEffect_iff_ignores (fun q hq hreads => D.reads q hreads (hfits q hq)) h

/-- The parse of an empty body: no required field is there, and a rank request has none. -/
def emptyBodies : Parsers where
  friendsReq _ := ⟨false, ⟨.add, []⟩⟩
  playFriendsRel _ := ⟨false, ⟨none, none, []⟩⟩
  playRankReq _ := ⟨true, ()⟩
  joinReq _ := ⟨false, ⟨[], []⟩⟩

/-- A user logs in and sends a FRIENDS_REQ with an empty body: a friend without a name is added. -/
private def emptyRequest : List Event :=
  [.acceptDone 0 false,
    .receive 0 [.joinReq ⟨lit "ta", lit "a"⟩, emptyBodies.packet .friendsReq []],
    .packet ⟨[], [], 1⟩]

theorem malformed_body_adds_friend :
    ∃ s s', Reachable s ∧ emptyBodies.valid .friendsReq [] = false ∧
      s.current = some (0, [emptyBodies.packet .friendsReq []]) ∧
      Step s (.packet ⟨[], [], 1⟩) s' ∧ s.tables.friendInfo = [] ∧
      s'.tables.friendInfo = [(lit "a", [])] ∧ (s.sess 0).friendsCount = 0 ∧
      (s'.sess 0).friendsCount = 1 := by
  have hrun : ((run twoUsers emptyRequest).bind fun s =>
      (next s (.packet ⟨[], [], 1⟩)).map fun s' =>
      decide (s.current = some (0, [emptyBodies.packet .friendsReq []]) ∧
        (s.tables.friendInfo = [] ∧ s'.tables.friendInfo = [(lit "a", [])]) ∧
        (s.sess 0).friendsCount = 0 ∧ (s'.sess 0).friendsCount = 1)) = some true := by decide
  obtain ⟨s, hs, hrun⟩ := Option.bind_eq_some_iff.1 hrun
  obtain ⟨s', hs', heq⟩ := Option.map_eq_some_iff.1 hrun
  obtain ⟨hcur, ⟨hbefore, hafter⟩, hcount, hcount'⟩ := of_decide_eq_true heq
  exact ⟨s, s', reachable_of_run hs, rfl, hcur, step_of_next hs', hbefore, hafter, hcount,
    hcount'⟩

/-! ### A database that reads the texts -/

/-- The statements with these ids. -/
def Stmt.ofIds : List Str → List Stmt
  | [id] => [.selectUserInfo id, .selectFriends id]
  | [id₁, id₂] => [.selectFriend id₁ id₂, .insertFriend id₁ id₂, .deleteFriend id₁ id₂]
  | _ => []

/-- The values of the literals of a text. -/
def literals : List (Token UInt8) → List Str
  | [] => []
  | .literal w :: ts => w :: literals ts
  | .char _ :: ts => literals ts

/-- The statement that a text is read as. -/
def Stmt.ofText (text : Str) : Option Stmt :=
  (lex mysqlRules text).bind fun ts =>
    (Stmt.ofIds (literals ts)).find? fun q => tokens q.pieces q.last = ts

section Texts

variable {q : Stmt} {text : Str}

lemma literals_text (text : Str) (ts : List (Token UInt8)) :
    literals (text.map .char ++ ts) = literals ts := by
  induction text with
  | nil => rfl
  | cons c text ih => exact ih

lemma literals_tokens (ps : List (Str × Str)) (last : Str) :
    literals (tokens ps last) = ps.map Prod.snd := by
  induction ps with
  | nil =>
    have hlast := literals_text last []
    rw [List.append_nil] at hlast
    exact hlast
  | cons p ps ih =>
    rw [tokens, literals_text, literals, ih]
    rfl

lemma Stmt.ofText_eq (h : q.ReadAs text) : Stmt.ofText text = some q := by
  have hmem : q ∈ Stmt.ofIds (literals (tokens q.pieces q.last)) := by
    rw [literals_tokens, ← q.ids_eq]
    cases q <;> simp [Stmt.ids, Stmt.ofIds]
  rw [Stmt.ofText, h, Option.bind_some]
  cases hfind : (Stmt.ofIds (literals (tokens q.pieces q.last))).find?
      fun q' => tokens q'.pieces q'.last = tokens q.pieces q.last with
  | none => exact absurd (List.find?_eq_none.1 hfind q hmem) (by simp)
  | some q' =>
    have htokens : tokens q'.pieces q'.last = tokens q.pieces q.last := by
      simpa using List.find?_some hfind
    exact congrArg some (Stmt.pieces_inj (tokens_inj htokens).1)

/-- The first character of a text is that of its format. -/
lemma Stmt.head_query (q : Stmt) : q.query.head? = q.format.head? := by cases q <;> rfl

/-- The texts of the SELECTs begin with an `S`. -/
lemma Stmt.head_of_reads (h : Effect.Reads Stmt.exec q) : q.query.head? = some 83 := by
  rw [q.head_query]
  cases q with
  | insertFriend id₁ id₂ => exact absurd (h ⟨[], []⟩) (by simp [Stmt.exec])
  | deleteFriend id₁ id₂ => exact absurd (h ⟨[], [(id₁, id₂)]⟩) (by simp [Stmt.exec])
  | _ => rfl

end Texts

/-- A database that knows the five statements, and does nothing for other texts. -/
def Database.strict : Database where
  exec text t :=
    match Stmt.ofText text with
    | some q => if text.head? = some 83 then ((q.exec t).1, t) else q.exec t
    | none => (⟨[], [], 0⟩, t)
  faithful q hq t := by
    simp only [Stmt.ofText_eq hq.reads, q.head_query]
    cases q <;> rfl
  reads q hq _ t := by
    rw [Stmt.head_of_reads hq]
    cases Stmt.ofText q.query <;> rfl

/-- The parse of a body that only has the type DEL. -/
def onlyDel : Parsers := { emptyBodies with friendsReq := fun _ => ⟨false, ⟨.del, []⟩⟩ }

/-- A user with a friend sends such a body: there is no friend without a name to be removed. -/
theorem malformed_body_ignored_no_such_friend :
    ∃ (s s' : Server) (u : Unit), Reachable s ∧ (s.sess 0).friendsCount = 1 ∧
      onlyDel.valid .friendsReq [8, 2] = false ∧
      (processPacket 0 (onlyDel.packet .friendsReq [8, 2]) Database.strict.effect).run s =
        .done u s' ∧ NoEffect s s' := by
  have hrun : (run { twoUsers with tables := ⟨twoUsers.tables.userInfo, [(lit "a", lit "b")]⟩ }
      [.acceptDone 0 false, .receive 0 [.joinReq ⟨lit "ta", lit "a"⟩],
        .packet ⟨[], [], 1⟩]).map (fun s => decide ((s.sess 0).friendsCount = 1 ∧
          (s.sess 0).userId = lit "a" ∧ s.answers = ⟨[], [], 1⟩ ∧
          s.tables.friendInfo = [(lit "a", lit "b")] ∧ s.connectionQue = [0] ∧
          s.connectionPool = [0])) = some true := by decide
  obtain ⟨s, hs, heq⟩ := Option.map_eq_some_iff.1 hrun
  obtain ⟨hcount, huser, hanswers, hinfo, hque, hpool⟩ := of_decide_eq_true heq
  have hreach := reachable_of_run hs
  have hserves : s.Serves := ⟨congrFun hreach.mtx_free _, by rw [hanswers]; decide,
    0, [], hque, by rw [hpool]; decide⟩
  have hfaithful : (Stmt.deleteFriend (lit "a") []).Faithful := by decide +kernel
  have hdel : (delUserFrinedsList (s.sess 0).userId [] Database.strict.effect).run s = _ :=
    delUserFrinedsList_run_of_effect hserves _ _
  rw [if_neg (by rw [hanswers]; simp [Answers.fails])] at hdel
  have hchange : (delFriends 0 [] Database.strict.effect).run s = _ :=
    changeFriends_run (by rw [hcount]; decide) hdel rfl
  have hprocess : (processPacket 0 (onlyDel.packet .friendsReq [8, 2])
      Database.strict.effect).run s = .done () _ :=
    Prog.run_bind_eq_done.2 ⟨_, _, hchange, rfl⟩
  have hstatements : s.statements 0 (onlyDel.packet .friendsReq [8, 2]) =
      [.deleteFriend (lit "a") []] := by
    show (if (s.sess 0).friendsCount > 0 then [Stmt.deleteFriend (s.sess 0).userId []] else []) = _
    rw [huser, if_pos (by rw [hcount]; decide)]
  refine ⟨s, _, (), hreach, hcount, rfl, hprocess,
    (malformed_body_ignored_iff Database.strict onlyDel ?_ hprocess).2 fun _ _ => ?_⟩
  · rw [hstatements]
    exact List.forall_mem_singleton.2 hfaithful.fits
  · -- the text is that of a statement, which finds no row
    have hnone : (lit "a", ([] : Str)) ∉ s.tables.friendInfo := by
      rw [hinfo]
      decide
    rw [huser]
    exact (Database.strict.deletes_nothing_iff hfaithful).2 hnone

end ChannelServer
