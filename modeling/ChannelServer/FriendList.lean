/-
The friend list of a session is a capped set.

`add_friends` and `del_friends` check a number of friends that the session keeps for itself, then
change the table `friend_info`, then change the number; nothing compares the number with the table.
Both together are a list with a counter (`Server.friendList`), and each request is one step of
`CappedSet.Counted`: `Step.friendRequest`.

A login reads the list of its user and sets the number to its length (`Step.login`), and no other
step touches the number (`Step.keepsUser`).  `FriendRun` is a run from such a login on, in which
only the requests of the session change the rows of its user; `friend_list_capped_set` is the
refinement to a finite set over all these runs.
-/
import ChannelServer.Locks
import ChannelServer.LoginMap
import ChannelServer.Requests
import ChannelServer.Users

namespace ChannelServer

open Resumption CappedSet

/-- The rows of the user `u`, and the number of friends that the session `n` keeps. -/
def Server.friendList (s : Server) (n : SessionId) (u : Str) : Counted Str :=
  ⟨s.tables.friends u, (s.sess n).friendsCount⟩

section Rows

variable {t : Tables} {u target : Str}

lemma mem_friends : target ∈ t.friends u ↔ (u, target) ∈ t.friendInfo := by
  unfold Tables.friends
  simp only [List.mem_map, List.mem_filter, decide_eq_true_eq]
  constructor
  · rintro ⟨row, ⟨hrow, rfl⟩, rfl⟩
    exact hrow
  · intro hrow
    exact ⟨(u, target), ⟨hrow, rfl⟩, rfl⟩

lemma friends_append :
    ({ t with friendInfo := t.friendInfo ++ [(u, target)] } : Tables).friends u =
      t.friends u ++ [target] := by
  simp [Tables.friends, List.filter_append]

lemma friends_filter :
    ({ t with friendInfo := t.friendInfo.filter (· ≠ (u, target)) } : Tables).friends u =
      (t.friends u).filter (· ≠ target) := by
  unfold Tables.friends
  rw [List.filter_map, List.filter_filter, List.filter_filter]
  congr 1
  refine List.filter_congr fun row _ => ?_
  by_cases hrow : row.1 = u
  · subst hrow
    simp [Prod.ext_iff]
  · simp [hrow]

end Rows

/-! ### One request -/

section Requests

variable {s s' : Server} {n : SessionId}

/-- A request is answered as the list with its counter says, which changes accordingly. -/
structure Answered (n : SessionId) (op : Op Str) (s s' : Server) : Prop where
  eq : ∃ que answers tables, s' = (s.withDb que answers tables).answered n
    (answerTo op ((s.friendList n (s.sess n).userId).granted 20 ⟨op, s.answers.allow op⟩))
    ((s.friendList n (s.sess n).userId).step 20 ⟨op, s.answers.allow op⟩).count
  rows : s'.tables.friends (s.sess n).userId =
    ((s.friendList n (s.sess n).userId).step 20 ⟨op, s.answers.allow op⟩).rows

/-- The table grants what the rows of the user grant. -/
lemma granted_toTable (op : Op Str) :
    (s.listed n).granted 20 (s.toTable n op) =
      (s.friendList n (s.sess n).userId).granted 20 ⟨op, s.answers.allow op⟩ := by
  cases op with
  | insert target =>
    rw [Bool.eq_iff_iff, Server.toTable, Op.map, Counted.granted_insert, Counted.granted_insert,
      Server.friendList, mem_friends]
    rfl
  | erase target =>
    rw [Bool.eq_iff_iff, Server.toTable, Op.map, Counted.granted_erase, Counted.granted_erase,
      Server.friendList, mem_friends]
    rfl

/-- The rows of the user change as the table does. -/
lemma friends_change (op : Op Str) :
    ({ s.tables with
        friendInfo := ((s.listed n).change (s.toTable n op).op).rows } : Tables).friends
        (s.sess n).userId =
      ((s.friendList n (s.sess n).userId).change op).rows := by
  cases op with
  | insert target => exact friends_append
  | erase target => exact friends_filter

/-- A request to change the list. -/
lemma answered_requested {message : FriendsRequest} {op : Op Str} (hop : message.op = some op)
    (left : Answers) : Answered n op s (s.requested n message left) := by
  generalize hb : (s.friendList n (s.sess n).userId).granted 20 ⟨op, s.answers.allow op⟩ = b
  have hstep : (s.friendList n (s.sess n).userId).step 20 ⟨op, s.answers.allow op⟩ =
      if b = true then (s.friendList n (s.sess n).userId).change op
        else s.friendList n (s.sess n).userId := by
    rw [Counted.step, hb]
  have hcount : (if b = true then (s.listed n).change (s.toTable n op).op else s.listed n).count =
      ((s.friendList n (s.sess n).userId).step 20 ⟨op, s.answers.allow op⟩).count := by
    rw [hstep]
    cases b
    · rfl
    · cases op <;> rfl
  rw [requested_eq hop ((granted_toTable op).trans hb), hcount, ← hb]
  refine ⟨⟨_, _, _, rfl⟩, ?_⟩
  rw [hstep, hb]
  cases b with
  | true => exact friends_change op
  | false => rfl

lemma processFriendsFunction_answered {message : FriendsRequest} {op : Op Str}
    (hop : message.op = some op) (h : (processFriendsFunction n message).run s = .done () s') :
    Answered n op s s' := by
  obtain ⟨left, rfl⟩ := processFriendsFunction_eq_done h
  exact answered_requested hop left

end Requests

/-! ### Logins -/

/-- The session has logged in as `id`: its number of friends is the length of the list that was
read. -/
structure Joins (n : SessionId) (id : Str) (s s' : Server) : Prop where
  userId : (s'.sess n).userId = id
  friendsCount : (s'.sess n).friendsCount = (s.tables.friends id).length
  tables : s'.tables = s.tables
  log : s'.log = .joined n id :: s.log

section Logins

variable {s s' : Server} {n : SessionId}

/-- A login that fails leaves all users alone. -/
lemma LoginEnd.keepsUsers {token id : Str} {found : Option UserRow} {friends : List Str}
    (h : LoginEnd n token id found friends s false s') : KeepsUsers s s' ∧ s'.log = s.log := by
  have hsent : ∀ {t : Server} (message : Message), KeepsUsers t (t.sent n message) :=
    fun message => acts_sendMessage usersRules n message _ _ _ (sendMessage_run message _)
  have hqueried : ∀ {t : Server} (redis : Str → Option Str), s.Queried t →
      KeepsUsers s { t with redis := redis } ∧ t.log = s.log := by
    rintro t redis ⟨que, answers, hque, rfl⟩
    exact ⟨⟨fun _ => rfl, hque, rfl⟩, rfl⟩
  cases h with
  | noRow ht _ =>
    obtain ⟨hkeep, hlog⟩ := hqueried _ ht
    exact ⟨hkeep.trans (hsent _), hlog⟩
  | @noList t ht _ _ _ =>
    obtain ⟨hkeep, hlog⟩ := hqueried t.redis ht
    exact ⟨hkeep.trans (hsent _), hlog⟩

/-- A login succeeds, or it leaves all users alone. -/
lemma LoginEnd.joins {token id : Str} {found : Option UserRow} {b : Bool}
    (h : LoginEnd n token id found (s.tables.friends id) s b s') :
    KeepsUsers s s' ∧ s'.log = s.log ∨ Joins n id s s' := by
  cases b with
  | false => exact Or.inl h.keepsUsers
  | true =>
    cases h with
    | joined ht _ _ _ =>
      obtain ⟨que, answers, -, rfl⟩ := ht
      refine Or.inr ⟨?_, ?_, rfl, rfl⟩
      · simp [Server.sent, Server.loggedIn, Server.setSess]
      · simp [Server.sent, Server.loggedIn, Server.setSess]

lemma lobbyLoginProcess_cases {message : JoinRequest} {b : Bool}
    (h : (lobbyLoginProcess n message).run s = .done b s') :
    KeepsUsers s s' ∧ s'.log = s.log ∨ ∃ id, Joins n id s s' := by
  cases lobbyLoginProcess_eq_done h with
  | closed _ => exact Or.inl ⟨.refl s, rfl⟩
  | refused _ _ =>
    have hset : KeepsUsers s (s.setSess n { s.sess n with stat := .logout }) := .setSess rfl
    exact Or.inl ⟨hset.trans (acts_sendMessage usersRules n _ _ _ _ (sendMessage_run _ _)), rfl⟩
  | admitted _ _ _ hend =>
    rcases hend.joins with hkeep | hjoins
    · exact Or.inl hkeep
    · exact Or.inr ⟨_, hjoins⟩

/-- A login request logs the session in, or it leaves all users alone. -/
lemma Step.joinReq_cases {message : JoinRequest} {rest : List Packet} {answers : Answers}
    (h : Step s (.packet answers) s') (hcur : s.current = some (n, .joinReq message :: rest)) :
    KeepsUsers s s' ∧ s'.log = s.log ∨ ∃ id, Joins n id s s' := by
  obtain ⟨b, s₁, h₁, hdone⟩ := Prog.run_bind_eq_done.1 ((step_packet_iff hcur).1 h)
  obtain ⟨-, rfl⟩ := Out.done.inj hdone
  rcases lobbyLoginProcess_cases h₁ with ⟨hkeep, hlog⟩ | ⟨id, huser, hcount, htables, hlog⟩
  · exact Or.inl ⟨⟨hkeep.user, hkeep.connectionQue, hkeep.connectionPool⟩, hlog⟩
  · exact Or.inr ⟨id, huser, hcount, htables, hlog⟩

/-- **Login.**  The session carries the user's id and the number of the user's rows. -/
lemma Step.login {u : Str} {e : Event} (h : Step s e s')
    (hjoined : s'.log = .joined n u :: s.log) : Joins n u s s' := by
  obtain ⟨new, hlog, hnew⟩ := (view_step h).logGrows
  obtain rfl : new = [.joined n u] := List.append_cancel_right (hlog.symm.trans hjoined)
  obtain ⟨message, answers, rest, rfl, hcur⟩ := hnew _ List.mem_cons_self
  rcases h.joinReq_cases hcur with ⟨-, hsame⟩ | ⟨id, hjoins⟩
  · exact absurd (hsame.symm.trans hjoined) (List.cons_ne_self _ _).symm
  · have hid := hjoins.log.symm.trans hjoined
    obtain ⟨-, rfl⟩ := Mark.joined.inj (List.cons.inj hid).1
    exact hjoins

/-- The user of a session changes only in a login and in a request to change its friend list. -/
lemma Step.keepsUser {e : Event} (h : Step s e s')
    (hfriends : ∀ message, s.view.Handles e n (.friendsReq message) → message.op = none)
    (hlogin : ∀ id, s'.log ≠ .joined n id :: s.log) : (s'.sess n).toUser = (s.sess n).toUser := by
  by_cases he : ∃ answers, e = .packet answers
  · obtain ⟨answers, rfl⟩ := he
    obtain ⟨t, hprep, hrun⟩ := step_iff.1 h
    simp only [prepare] at hprep
    split at hprep
    · rename_i m p rest hcur
      by_cases hmn : m = n
      · subst hmn
        by_cases hjoin : ∃ message, p = .joinReq message
        · obtain ⟨message, rfl⟩ := hjoin
          rcases h.joinReq_cases hcur with ⟨hkeep, -⟩ | ⟨id, hjoins⟩
          · exact hkeep.user m
          · exact absurd hjoins.log (hlogin id)
        · have hkeep : (processPacket m p).Along KeepsUsers := by
            refine users_processPacket (fun message hp => ?_) fun message hp => hjoin ⟨_, hp⟩
            subst hp
            have hop := hfriends message ⟨answers, rest, rfl, hcur⟩
            unfold FriendsRequest.op at hop
            cases htype : message.type with
            | search => rfl
            | add => rw [htype] at hop; cases hop
            | del => rw [htype] at hop; cases hop
          exact (hkeep _ _ _ ((step_packet_iff hcur).1 h)).user m
      · exact (h.keepsOthers hcur).user n fun hnm => hmn hnm.symm
    · cases hprep
  · exact (h.keepsUsers fun answers heq => he ⟨answers, heq⟩).user n

end Logins

/-! ### Runs -/

section Runs

variable {b : Boot} {s s' : Server} {n : SessionId} {u : Str} {message : FriendsRequest}
  {op : Op Str} {rest : List Packet} {answers : Answers} {rows : List Str}
  {hist : List (Request Str)}

/-- **One request.**  It is answered as the list with its counter says, which changes
accordingly. -/
lemma Step.friendRequest (h : Step s (.packet answers) s')
    (hcur : s.current = some (n, .friendsReq message :: rest)) (hop : message.op = some op) :
    (s'.sess n).userId = (s.sess n).userId ∧
      s'.friendList n (s.sess n).userId =
        (s.friendList n (s.sess n).userId).step 20 ⟨op, answers.allow op⟩ ∧
      (s'.sess n).send = (s.sess n).send.push ⟨s.heap, answerTo op
        ((s.friendList n (s.sess n).userId).granted 20 ⟨op, answers.allow op⟩)⟩ := by
  obtain ⟨⟨que, left, tables, rfl⟩, hrows⟩ :=
    processFriendsFunction_answered hop ((step_packet_iff hcur).1 h)
  refine ⟨?_, ?_, ?_⟩
  · simp [Server.answered, Server.withDb]
  · rw [Server.friendList, hrows]
    simp only [Server.answered, Function.update_self]
    rfl
  · simp only [Server.answered, Function.update_self]
    rfl

/-- A run in which the session `n` logs in as `u`, while the rows of `u` are the given ones, and
then makes the requests of the list, in this order.  No other step changes the rows of `u`, and
the session does not log in again. -/
inductive FriendRun (b : Boot) (n : SessionId) (u : Str) (rows : List Str) :
    List (Request Str) → Server → Prop
  | login {s s' : Server} {e : Event} (h : b.Reached s) (hs : Step s e s')
      (hjoined : s'.log = .joined n u :: s.log) (hrows : s.tables.friends u = rows) :
      FriendRun b n u rows [] s'
  | request {s s' : Server} {hist : List (Request Str)} {message : FriendsRequest} {op : Op Str}
      {rest : List Packet} {answers : Answers} (h : FriendRun b n u rows hist s)
      (hcur : s.current = some (n, .friendsReq message :: rest)) (hop : message.op = some op)
      (hs : Step s (.packet answers) s') :
      FriendRun b n u rows (hist ++ [⟨op, answers.allow op⟩]) s'
  | other {s s' : Server} {hist : List (Request Str)} {e : Event} (h : FriendRun b n u rows hist s)
      (hs : Step s e s')
      (hfriends : ∀ message, s.view.Handles e n (.friendsReq message) → message.op = none)
      (hrows : s'.tables.friends u = s.tables.friends u)
      (hlogin : ∀ id, s'.log ≠ .joined n id :: s.log) : FriendRun b n u rows hist s'

/-- In such a run the list with its counter takes one step for each request. -/
lemma FriendRun.friendList (h : FriendRun b n u rows hist s) :
    (s.sess n).userId = u ∧
      s.friendList n u = Counted.after 20 ⟨rows, rows.length⟩ hist := by
  induction h with
  | login _ hs hjoined hrows =>
    obtain ⟨huser, hcount, htables, -⟩ := hs.login hjoined
    refine ⟨huser, ?_⟩
    rw [Server.friendList, htables, hcount, hrows]
    rfl
  | request _ hcur hop hs ih =>
    obtain ⟨rfl, hlist⟩ := ih
    obtain ⟨huser, hstep, -⟩ := hs.friendRequest hcur hop
    refine ⟨huser, ?_⟩
    rw [hstep, hlist, Counted.after, Counted.after, List.foldl_append]
    rfl
  | other _ hs hfriends hrows hlogin ih =>
    have hkeep := hs.keepsUser hfriends hlogin
    refine ⟨(congrArg (·.userId) hkeep).trans ih.1, ?_⟩
    rw [← ih.2, Server.friendList, Server.friendList, hrows]
    exact congrArg (Counted.mk _) (congrArg (·.friendsCount) hkeep)

/-- A step that handles no packet and keeps the tables and the log. -/
lemma FriendRun.aside {e : Event} (h : FriendRun b n u rows hist s) (hs : Step s e s')
    (he : ∀ answers, e ≠ .packet answers) (hsame : s'.tables = s.tables ∧ s'.log = s.log) :
    FriendRun b n u rows hist s' := by
  refine h.other hs ?_ (by rw [hsame.1]) fun id hlog => ?_
  · rintro message ⟨answers, rest, rfl, -⟩
    exact absurd rfl (he answers)
  · exact (List.cons_ne_self _ _).symm (hsame.2.symm.trans hlog)

lemma FriendRun.reached (h : FriendRun b n u rows hist s) : b.Reached s := by
  induction h with
  | login hreach hs _ _ => exact .step hreach trivial hs
  | request _ _ _ hs ih => exact .step ih trivial hs
  | other _ hs _ _ _ ih => exact .step ih trivial hs

/-- When every connection could be opened, the database stays up. -/
lemma Boot.Reached.databaseUp (h : b.Reached s) (hsize : 0 < b.poolSize)
    (hopened : ∀ i < b.poolSize, b.opened i = true) : s.DatabaseUp := by
  refine Runs.Reached.invariant (I := Server.DatabaseUp) ?_ ?_ h
  · rintro s ⟨r, hr⟩
    have hpool : (List.range b.poolSize).filter b.opened = List.range b.poolSize :=
      List.filter_eq_self.2 fun i hi => hopened i (List.mem_range.1 hi)
    have hkeep := acts_waitAccept usersRules _ _ _ hr
    refine Server.DatabaseUp.of_perm ?_ hkeep.connectionQue hkeep.connectionPool
    unfold Server.DatabaseUp
    rw [b.init_connectionQue, b.init_connectionPool, hpool, List.length_range]
    refine ⟨fun hnil => ?_, fun index hindex => List.mem_range.1 hindex⟩
    exact hsize.ne' (List.range_eq_nil.1 hnil)
  · intro s e s' _ hup _ hs
    by_cases he : ∃ answers, e = .packet answers
    · obtain ⟨answers, rfl⟩ := he
      obtain ⟨n, p, rest, hcur⟩ := hs.packet_current
      have hkeep := hs.keepsOthers hcur
      exact hup.of_perm hkeep.connectionQue hkeep.connectionPool
    · have hkeep := hs.keepsUsers fun answers heq => he ⟨answers, heq⟩
      exact hup.of_perm hkeep.connectionQue hkeep.connectionPool

/-- **The friend list is a capped set.**  In every run from a login on, the rows of the user are
the elements of a finite set, once each, and the session's number of friends is their number.  The
set starts from the rows at the login and takes one step for each request, and each request is
answered by the set: `ADD_SUCCESS` when the set has fewer than 20 elements, the target is none of
them and the statements succeed, `DEL_SUCCESS` when the target is an element and the statement
succeeds, and else a failure.  When the connections could be opened, a request is answered. -/
theorem friend_list_capped_set (hnodup : rows.Nodup) (h : FriendRun b n u rows hist s) :
    Represents (s.friendList n u) (after 20 rows.toFinset hist) ∧
      ∀ message op rest answers, s.current = some (n, .friendsReq message :: rest) →
        message.op = some op →
        (∀ s', Step s (.packet answers) s' →
          (s'.sess n).send = (s.sess n).send.push ⟨s.heap, answerTo op
            (decide (Granted 20 (after 20 rows.toFinset hist) ⟨op, answers.allow op⟩))⟩ ∧
          (s'.sess n).send.queue = (s.sess n).send.queue ++ [⟨s.heap, answerTo op
            (decide (Granted 20 (after 20 rows.toFinset hist) ⟨op, answers.allow op⟩))⟩]) ∧
        (0 < b.poolSize → (∀ i < b.poolSize, b.opened i = true) → 0 < answers.patience →
          ∃ s', Step s (.packet answers) s') := by
  obtain ⟨rfl, hlist⟩ := h.friendList
  have hrep : Represents (s.friendList n (s.sess n).userId) (after 20 rows.toFinset hist) := by
    rw [hlist]
    exact (represents_of_nodup hnodup).after 20 hist
  refine ⟨hrep, fun message op rest answers hcur hop => ⟨fun s' hs => ?_, ?_⟩⟩
  · obtain ⟨-, -, hsend⟩ := hs.friendRequest hcur hop
    have hanswer : (s.friendList n (s.sess n).userId).granted 20 ⟨op, answers.allow op⟩ =
        decide (Granted 20 (after 20 rows.toFinset hist) ⟨op, answers.allow op⟩) := by
      rw [Bool.eq_iff_iff, decide_eq_true_eq]
      exact hrep.granted_iff 20 _
    rw [hanswer] at hsend
    exact ⟨hsend, by rw [hsend, SendQueue.queue_push]⟩
  · intro hsize hopened hpatience
    have hup : s.DatabaseUp := h.reached.databaseUp hsize hopened
    have hfree : s.mtx .connectionMtx = 0 := congrFun h.reached.reachable.mtx_free _
    have hserves : Server.Serves { s with current := some (n, rest), answers := answers } :=
      Server.DatabaseUp.serves hup hfree hpatience
    have hrequest : Server.ServesRequest
        { s with current := some (n, rest), answers := answers } n message :=
      ⟨fun _ => hserves, fun hnone => by simp [hop] at hnone⟩
    obtain ⟨left, hrun⟩ := processFriendsFunction_run hrequest
    exact ⟨_, (step_packet_iff hcur).2 hrun⟩

end Runs

/-- The requests of the example. -/
def addThenDelete : List Packet :=
  [.friendsReq ⟨.add, lit "b"⟩, .friendsReq ⟨.del, lit "b"⟩]

/-- A user with an empty list adds a friend, and deletes it while the statement fails. -/
theorem friend_list_capped_set_two_requests :
    ∃ s s' answers, FriendRun twoUsers 0 (lit "a") [] [⟨.insert (lit "b"), true⟩] s ∧
      Represents (s.friendList 0 (lit "a")) {lit "b"} ∧
      answers.allow (.erase (lit "b")) = false ∧ Step s (.packet answers) s' ∧
      (s'.sess 0).send = (s.sess 0).send.push
        ⟨s.heap, .friendsAns .delFail ⟨⟨0, 0, 0, 0⟩, lit "b"⟩ none⟩ ∧
      (s'.sess 0).send.queue = (s.sess 0).send.queue ++
        [⟨s.heap, .friendsAns .delFail ⟨⟨0, 0, 0, 0⟩, lit "b"⟩ none⟩] := by
  have hrun : (run twoUsers [.acceptDone 0 false, .receive 0 [.joinReq ⟨lit "ta", lit "a"⟩]]).bind
      (fun s₀ => (next s₀ (.packet ⟨[], [], 1⟩)).bind fun s₁ => (next s₁ .receiveEnd).bind fun s₂ =>
        (next s₂ (.receive 0 addThenDelete)).bind fun s₃ =>
          (next s₃ (.packet ⟨[], [], 1⟩)).map fun s₄ =>
            decide (s₁.log = .joined 0 (lit "a") :: s₀.log ∧ s₀.tables.friends (lit "a") = [] ∧
              (s₂.tables = s₁.tables ∧ s₂.log = s₁.log) ∧
              (s₃.tables = s₂.tables ∧ s₃.log = s₂.log) ∧
              s₃.current = some (0, addThenDelete) ∧
              s₄.current = some (0, addThenDelete.tail))) = some true := by
    decide
  obtain ⟨s₀, h₀, hrun⟩ := Option.bind_eq_some_iff.1 hrun
  obtain ⟨s₁, h₁, hrun⟩ := Option.bind_eq_some_iff.1 hrun
  obtain ⟨s₂, h₂, hrun⟩ := Option.bind_eq_some_iff.1 hrun
  obtain ⟨s₃, h₃, hrun⟩ := Option.bind_eq_some_iff.1 hrun
  obtain ⟨s₄, h₄, hrun⟩ := Option.map_eq_some_iff.1 hrun
  obtain ⟨hjoined, hrows, hend, hreceive, hcur₃, hcur₄⟩ := of_decide_eq_true hrun
  have hlogin : FriendRun twoUsers 0 (lit "a") [] [] s₁ :=
    .login (Boot.reached_of_run h₀) (step_of_next h₁) hjoined hrows
  have hread : FriendRun twoUsers 0 (lit "a") [] [] s₃ :=
    (hlogin.aside (step_of_next h₂) (by simp) hend).aside (step_of_next h₃) (by simp) hreceive
  have hadd : FriendRun twoUsers 0 (lit "a") [] [⟨.insert (lit "b"), true⟩] s₄ :=
    hread.request hcur₃ rfl (step_of_next h₄)
  obtain ⟨hrep, hrequests⟩ := friend_list_capped_set List.nodup_nil hadd
  obtain ⟨hanswer, htotal⟩ := hrequests _ _ _ ⟨[], [true], 1⟩ hcur₄ rfl
  obtain ⟨s', hs'⟩ := htotal (by decide) (fun _ _ => rfl) (by decide)
  exact ⟨s₄, s', ⟨[], [true], 1⟩, hadd, hrep, rfl, hs', hanswer s' hs'⟩

end ChannelServer
