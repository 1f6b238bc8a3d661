/-
How handlers end.

A handler can take the front of an empty deque, read past the end of the pool, use a null session,
repeat a loop for ever, or print a statement past the end of its buffer; and it can wait for a
mutex that it holds itself.  `Server.fault` predicts the first five from the state in which the
event occurs.  After an overflow nothing can be said.  `handler_returns_iff` says that without one
the prediction is exact: in a reachable state a handler returns if and only if no fault is
predicted and it does not lock its own mutex.

A SELECT that succeeds returns a result set (`mysql_store_result`), without NULL in its rows.
-/
import ChannelServer.Calls
import ChannelServer.Queries
import ChannelServer.Race
import ChannelServer.Relays
import ChannelServer.Rooms
import ChannelServer.Sending

namespace ChannelServer

open Resumption WaitingRoom

/-! ### The prediction -/

/-- How borrowing a connection fails: the loop does not end when no connection is free, and the
index of the next one may be past the end of the pool. -/
def Server.borrowFault (s : Server) : Option Fault :=
  if s.answers.patience = 0 then some .spin
  else
    match s.connectionQue with
    | [] => some .spin
    | index :: _ => if index < s.connectionPool.length then none else some .outOfRange

/-- Printing a text that has no room in its buffer overflows the buffer. -/
def textFault (texts : List Stmt) : Option Fault :=
  if ∀ q ∈ texts, q.query.length + 1 ≤ queryLength then none else some .overflow

/-- The loop that draws room keys does not end when all keys are taken. -/
def Server.roomKeyFault (s : Server) : Option Fault :=
  if ∃ u ∈ s.answers.uuids, s.redis (roomKeyOf u) = none then none else some .spin

/-- The login of an admitted user prints a text and borrows a connection, and does both again when
the user was found. -/
def Server.loginFault (s : Server) (id : Str) : Option Fault :=
  (textFault [.selectUserInfo id]).or (s.borrowFault.or
    (if s.answers.fails = false ∧ (s.tables.userRow id).isSome then
      (textFault [.selectFriends id]).or (s.afterQuery s.answers.next s.tables).borrowFault
    else none))

/-- A pair is found when the queue is served. -/
def View.pairs (v : View) (r : QueId) : Bool := (serve v.waiting (v.matchingQue r)).1.isSome

/-- A friends request borrows a connection when the number of friends allows it, or when the user
searched for is not logged in; a search prints its text before, the others afterwards.  The INSERT
of an addition is shorter than the SELECT that was printed before it. -/
def Server.friendsFault (s : Server) (n : SessionId) (message : FriendsRequest) : Option Fault :=
  let id := (s.sess n).userId
  let target := message.targetId
  match message.type with
  | .add =>
      if (s.sess n).friendsCount < 20 then
        s.borrowFault.or (textFault [.selectFriend id target, .insertFriend id target])
      else none
  | .del =>
      if (s.sess n).friendsCount > 0 then s.borrowFault.or (textFault [.deleteFriend id target])
      else none
  | .search =>
      if s.userIdMap target = none then (textFault [.selectUserInfo target]).or s.borrowFault
      else none

/-- An invitation that is accepted opens a room, and the denial of an absent user uses the null
session. -/
def Server.relayFault (s : Server) (n : SessionId) (message : MatchWithFriendsRelay) :
    Option Fault :=
  match message.type, s.userIdMap message.targetId with
  | .accept, some m =>
      if m ≠ n ∧ (s.sess n).stat = .matchRecver ∧ (s.sess m).stat = .matchApply then s.roomKeyFault
      else none
  | .deny, none => some .nullDeref
  | _, _ => none

/-- A request for a match opens a room when the queue of its rating then has a pair. -/
def Server.rankFault (s : Server) (n : SessionId) : Option Fault :=
  let r := (checkRating (s.sess n).ratingScore).que
  if (s.view.enter n r).pairs r then s.roomKeyFault else none

/-- A login reads the database when the token admits a user on an open socket. -/
def Server.joinFault (s : Server) (n : SessionId) (message : JoinRequest) : Option Fault :=
  match s.redis message.token with
  | some id => if (s.sess n).isOpen ∧ s.userIdMap id = none then s.loginFault id else none
  | none => none

/-- How the handler of a packet fails. -/
def Server.packetFault (s : Server) (n : SessionId) : Packet → Option Fault
  | .friendsReq message => s.friendsFault n message
  | .playFriendsRel message => s.relayFault n message
  | .playRankReq => s.rankFault n
  | .joinReq message => s.joinFault n message
  | _ => none

/-- How the handler of an event fails. -/
def Server.fault (s : Server) : Event → Option Fault
  | .packet answers =>
      match s.current with
      | some (n, p :: _) => Server.packetFault { s with answers := answers } n p
      | _ => none
  | .timer n _ answers =>
      if (s.sess n).stat = .matchRequest ∧ (s.view.widen n).pairs sharedQue then
        Server.roomKeyFault { s with answers := answers }
      else none
  | .writeDone n _ => if (s.sess n).send.queue = [] then some .emptyDeque else none
  | _ => none

section Faults

variable {s s' : Server} {n : SessionId} {α : Type}

/-! ### Functions that do not fail -/

lemma unfailing_lock (m : Mutex) : (lock m).Unfailing := by
  intro e
  refine Prog.avoids_act fun s h => ?_
  split at h <;> cases h

lemma unfailing_sendMessage (n : SessionId) (message : Message) :
    (sendMessage n message).Unfailing :=
  Prog.unfailing_bind (Prog.unfailing_atomic _) fun _ => Prog.unfailing_atomic _

lemma unfailing_releaseConnection (index : ℕ) : (releaseConnection index).Unfailing :=
  Prog.unfailing_bind (unfailing_lock _) fun _ =>
    Prog.unfailing_bind (Prog.unfailing_atomic _) fun _ => Prog.unfailing_atomic _

lemma unfailing_delIdInUserMap (id : Str) : (delIdInUserMap id).Unfailing := by
  refine Prog.unfailing_bind (unfailing_lock _) fun _ =>
    Prog.unfailing_bind (Prog.unfailing_atomic _) fun _ => Prog.unfailing_ite
    (Prog.unfailing_bind (Prog.unfailing_atomic _) fun _ => ?_) ?_ <;>
  exact Prog.unfailing_bind (Prog.unfailing_atomic _) fun _ => Prog.unfailing_pure _

lemma unfailing_addIdInUserMap (n : SessionId) (id : Str) : (addIdInUserMap n id).Unfailing := by
  refine Prog.unfailing_bind (unfailing_lock _) fun _ =>
    Prog.unfailing_bind (Prog.unfailing_atomic _) fun _ => Prog.unfailing_ite
    (Prog.unfailing_bind (Prog.unfailing_atomic _) fun _ => ?_) ?_ <;>
  exact Prog.unfailing_bind (Prog.unfailing_atomic _) fun _ => Prog.unfailing_pure _

lemma unfailing_lobbyLogoutProcess (n : SessionId) : (lobbyLogoutProcess n).Unfailing := by
  refine Prog.unfailing_bind (Prog.unfailing_atomic _) fun _ =>
    Prog.unfailing_bind (Prog.unfailing_atomic _) fun kv => ?_
  cases kv with
  | none => exact Prog.unfailing_pure _
  | some _ =>
    exact Prog.unfailing_bind (Prog.unfailing_atomic _) fun _ =>
      Prog.unfailing_bind (Prog.unfailing_atomic _) fun _ =>
      Prog.unfailing_bind (Prog.unfailing_atomic _) fun _ =>
      Prog.unfailing_bind (unfailing_delIdInUserMap _) fun _ =>
      Prog.unfailing_bind (Prog.unfailing_atomic _) fun _ =>
      Prog.unfailing_bind (Prog.unfailing_atomic _) fun _ =>
      Prog.unfailing_bind (unfailing_sendMessage _ _) fun _ => Prog.unfailing_pure _

lemma unfailing_waitAccept : waitAccept.Unfailing := by
  refine Prog.unfailing_bind (unfailing_lock _) fun _ =>
    Prog.unfailing_bind (Prog.unfailing_atomic _) fun que => ?_
  cases que with
  | nil =>
    exact Prog.unfailing_bind (Prog.unfailing_atomic _) fun _ =>
      Prog.unfailing_bind (Prog.unfailing_atomic _) fun _ => Prog.unfailing_pure _
  | cons k rest =>
    exact Prog.unfailing_bind (Prog.unfailing_atomic _) fun _ =>
      Prog.unfailing_bind (Prog.unfailing_atomic _) fun _ =>
      Prog.unfailing_bind (Prog.unfailing_atomic _) fun _ =>
      Prog.unfailing_bind (Prog.unfailing_bind (Prog.unfailing_atomic _) fun _ =>
        Prog.unfailing_atomic _) fun _ => Prog.unfailing_pure _

lemma unfailing_finishClose (n : SessionId) : (finishClose n).Unfailing :=
  Prog.unfailing_bind (Prog.unfailing_atomic _) fun _ =>
    Prog.unfailing_bind (Prog.unfailing_atomic _) fun _ =>
    Prog.unfailing_bind (Prog.unfailing_atomic _) fun _ =>
    Prog.unfailing_bind (unfailing_lock _) fun _ =>
    Prog.unfailing_bind (Prog.unfailing_atomic _) fun _ =>
    Prog.unfailing_bind (Prog.unfailing_atomic _) fun _ => Prog.unfailing_ite
      (Prog.unfailing_bind unfailing_waitAccept fun _ => Prog.unfailing_atomic _)
      (Prog.unfailing_atomic _)

lemma unfailing_closeSession (n : SessionId) : (closeSession n).Unfailing := by
  have hforget : (do forgetLogin n; finishClose n : Handler Unit).Unfailing :=
    Prog.unfailing_bind (Prog.unfailing_bind (Prog.unfailing_atomic _) fun _ =>
      Prog.unfailing_bind (Prog.unfailing_atomic _) fun _ =>
      Prog.unfailing_bind (Prog.unfailing_atomic _) fun _ =>
      Prog.unfailing_bind (unfailing_delIdInUserMap _) fun _ => Prog.unfailing_pure _) fun _ =>
      unfailing_finishClose n
  refine Prog.unfailing_bind (Prog.unfailing_atomic _) fun st => ?_
  cases st with
  | wait | matchApply => exact Prog.unfailing_pure _
  | conn | logout => exact unfailing_finishClose n
  | login | matchRequest | matchRecver => exact hforget
  | matchConfirm =>
    exact Prog.unfailing_bind (Prog.unfailing_atomic _) fun _ =>
      Prog.unfailing_bind (unfailing_delIdInUserMap _) fun _ => unfailing_finishClose n
  | matchComplete =>
    exact Prog.unfailing_bind (Prog.unfailing_atomic _) fun _ =>
      Prog.unfailing_bind (Prog.unfailing_atomic _) fun _ =>
      Prog.unfailing_bind (Prog.unfailing_atomic _) fun _ => hforget

/-! ### The database -/

/-- Without an overflow the other fault decides, whichever comes first. -/
lemma textFault_or {texts : List Stmt} {fault : Option Fault}
    (hfits : (textFault texts).or fault ≠ some .overflow) : (textFault texts).or fault = fault := by
  unfold textFault at hfits ⊢
  split at hfits
  · next hall => rw [if_pos hall, Option.none_or]
  · exact absurd rfl hfits

lemma or_textFault {texts : List Stmt} {fault : Option Fault}
    (hfits : fault.or (textFault texts) ≠ some .overflow) : fault.or (textFault texts) = fault := by
  cases fault with
  | some fault => rfl
  | none =>
    unfold textFault at hfits ⊢
    split at hfits
    · next hall => rw [if_pos hall, Option.none_or]
    · exact absurd rfl hfits

lemma getConnection_nil (hfree : s.mtx .connectionMtx = 0) (hque : s.connectionQue = []) :
    getConnection.run s = .done none s := by
  unfold getConnection unlock
  rw [Prog.run_bind, run_lock hfree]
  simp only [Out.bind_done, Prog.run_bind, Prog.run_read, hque, Prog.run_modify, mtx_restored,
    Prog.run_pure]
  rw [← hque]

lemma getConnection_past {index : ℕ} {rest : List ℕ} (hfree : s.mtx .connectionMtx = 0)
    (hque : s.connectionQue = index :: rest) (hindex : ¬ index < s.connectionPool.length) :
    getConnection.run s = .failed .outOfRange := by
  unfold getConnection unlock
  rw [Prog.run_bind, run_lock hfree]
  simp only [Out.bind_done, Prog.run_bind, Prog.run_read, hque, Prog.run_modify, mtx_restored,
    if_neg hindex, Prog.run_fail]

lemma acquireConnection_failure (hfree : s.mtx .connectionMtx = 0) :
    (acquireConnection.run s).failure = s.borrowFault := by
  have hborrow : (acquireConnection.run s).failure =
      ((borrowConnection s.answers.patience).run s).failure := rfl
  unfold Server.borrowFault
  split
  · next hpatience =>
    rw [hborrow, hpatience]
    rfl
  · next hpatience =>
    obtain ⟨k, hk⟩ := Nat.exists_eq_succ_of_ne_zero hpatience
    split
    · next hque =>
      -- no connection is returned while the loop waits for one
      have hspin : ∀ k, ((borrowConnection k).run s).failure = some .spin := by
        intro k
        induction k with
        | zero => rfl
        | succ k ih =>
          rw [borrowConnection, Prog.failure_bind_of_done (getConnection_nil hfree hque)]
          exact ih
      rw [hborrow, hspin]
    · next index rest hque =>
      split
      · next hindex =>
        rw [acquireConnection_run hfree (Nat.pos_iff_ne_zero.2 hpatience) hque hindex]
        rfl
      · next hindex =>
        rw [hborrow, hk, borrowConnection, Prog.run_bind, getConnection_past hfree hque hindex]
        rfl

/-- A function that gives its connection back fails as borrowing it does. -/
lemma borrowed_failure (hfree : s.mtx .connectionMtx = 0) {f : ℕ → Handler α}
    (hf : ∀ index, (f index).Unfailing) :
    ((acquireConnection >>= f).run s).failure = s.borrowFault := by
  rw [Prog.failure_bind_left hf, acquireConnection_failure hfree]

lemma serves_of_borrowFault (hfree : s.mtx .connectionMtx = 0) (h : s.borrowFault = none) :
    s.Serves := by
  unfold Server.borrowFault at h
  split at h
  · cases h
  · next hpatience =>
    split at h
    · cases h
    · next index rest hque =>
      split at h
      · next hindex => exact ⟨hfree, Nat.pos_iff_ne_zero.2 hpatience, index, rest, hque, hindex⟩
      · cases h

lemma getQueryUserInfo_failure (hfree : s.mtx .connectionMtx = 0) (id : Str) :
    ((getQueryUserInfo id).run s).failure = s.borrowFault := by
  refine borrowed_failure hfree fun index =>
    Prog.unfailing_bind (Prog.unfailing_atomic _) fun result => ?_
  cases result <;>
    exact Prog.unfailing_bind (unfailing_releaseConnection _) fun _ => Prog.unfailing_pure _

lemma getUserFriendsList_failure (hfree : s.mtx .connectionMtx = 0) (id : Str) :
    ((getUserFriendsList id).run s).failure = s.borrowFault := by
  refine borrowed_failure hfree fun index =>
    Prog.unfailing_bind (Prog.unfailing_atomic _) fun result => ?_
  cases result <;>
    exact Prog.unfailing_bind (unfailing_releaseConnection _) fun _ => Prog.unfailing_pure _

lemma addUserFrinedsList_failure (hfree : s.mtx .connectionMtx = 0) (id target : Str) :
    ((addUserFrinedsList id target).run s).failure = s.borrowFault := by
  have hcheck : (checkRepetition id target).Unfailing := by
    refine Prog.unfailing_bind (Prog.unfailing_atomic _) fun result => ?_
    cases result <;> exact Prog.unfailing_pure _
  exact borrowed_failure hfree fun index => Prog.unfailing_bind hcheck fun _ => Prog.unfailing_ite
    (Prog.unfailing_bind (Prog.unfailing_atomic _) fun _ =>
      Prog.unfailing_bind (unfailing_releaseConnection _) fun _ => Prog.unfailing_pure _)
    (Prog.unfailing_bind (unfailing_releaseConnection _) fun _ => Prog.unfailing_pure _)

lemma delUserFrinedsList_failure (hfree : s.mtx .connectionMtx = 0) (id target : Str) :
    ((delUserFrinedsList id target).run s).failure = s.borrowFault := by
  refine borrowed_failure hfree fun index => Prog.unfailing_bind (Prog.unfailing_atomic _)
    fun result => Prog.unfailing_bind (unfailing_releaseConnection _) fun _ => ?_
  cases result <;> exact Prog.unfailing_pure _

/-! ### Login and friends -/

lemma loginAs_failure (hfree : s.mtx .connectionMtx = 0) (token : Str) {id : Str}
    (hfits : s.loginFault id ≠ some .overflow) :
    ((loginAs n token id).run s).failure = s.loginFault id := by
  have hanswer : (do
      sendMessage n (.joinAns false (some none) [])
      pure false : Handler Bool).Unfailing :=
    Prog.unfailing_bind (unfailing_sendMessage _ _) fun _ => Prog.unfailing_pure _
  unfold Server.loginFault at hfits ⊢
  have huser := textFault_or hfits
  rw [huser] at hfits ⊢
  cases hb : s.borrowFault with
  | some fault =>
    exact Prog.failure_bind_of_failure ((getQueryUserInfo_failure hfree id).trans hb)
  | none =>
    have hrun := getQueryUserInfo_run (serves_of_borrowFault hfree hb) id
    rw [hb, Option.none_or] at hfits
    rw [loginAs, Prog.failure_bind_of_done hrun, Option.none_or]
    by_cases hfail : s.answers.fails = true
    · rw [if_pos hfail, if_neg (by simp [hfail])]
      exact (Prog.unfailing_bind (Prog.unfailing_atomic _) fun _ => hanswer).failure _
    · rw [if_neg hfail]
      cases hrow : s.tables.userRow id with
      | none =>
        rw [if_neg (by simp)]
        exact (Prog.unfailing_bind (Prog.unfailing_atomic _) fun _ => hanswer).failure _
      | some row =>
        -- the friends are read from the next connection
        have hfound : s.answers.fails = false ∧ (s.tables.userRow id).isSome :=
          ⟨Bool.eq_false_iff.2 hfail, by rw [hrow]; rfl⟩
        rw [if_pos hfound] at hfits
        rw [if_pos ⟨Bool.eq_false_iff.2 hfail, rfl⟩, textFault_or hfits]
        refine (Prog.failure_bind_left fun friends => ?_).trans
          (getUserFriendsList_failure (by exact hfree) id)
        cases friends with
        | none => exact hanswer
        | some friends =>
          exact Prog.unfailing_bind (Prog.unfailing_atomic _) fun _ =>
            Prog.unfailing_bind (Prog.unfailing_atomic _) fun _ =>
            Prog.unfailing_bind (Prog.unfailing_atomic _) fun _ =>
            Prog.unfailing_bind (Prog.unfailing_atomic _) fun _ =>
            Prog.unfailing_bind (unfailing_addIdInUserMap _ _) fun _ =>
            Prog.unfailing_bind (Prog.unfailing_atomic _) fun _ =>
            Prog.unfailing_bind (Prog.unfailing_atomic _) fun _ =>
            Prog.unfailing_bind (unfailing_sendMessage _ _) fun _ => Prog.unfailing_pure _

/-- The token is looked up without touching the state. -/
lemma admittedId_returns (hmap : s.mtx .userIdMapMtx = 0) (token : Str) :
    ∃ r, (admittedId token).run s = .done r s := by
  cases hkv : s.redis token with
  | none => exact ⟨none, Prog.run_bind_eq_done.2 ⟨none, s, by rw [← hkv]; rfl, rfl⟩⟩
  | some id =>
    have hread : (getRedisKv token).run s = .done (some id) s := by
      rw [← hkv]
      rfl
    have hfind := findIdInUserMap_run id hmap
    cases hid : s.userIdMap id with
    | none =>
      rw [hid] at hfind
      exact ⟨some id, Prog.run_bind_eq_done.2 ⟨_, s, hread,
        Prog.run_bind_eq_done.2 ⟨_, s, hfind, rfl⟩⟩⟩
    | some k =>
      rw [hid] at hfind
      exact ⟨none, Prog.run_bind_eq_done.2 ⟨_, s, hread,
        Prog.run_bind_eq_done.2 ⟨_, s, hfind, rfl⟩⟩⟩

lemma lobbyLoginProcess_failure (hmtx : s.mtx = free) {message : JoinRequest}
    (hfits : s.joinFault n message ≠ some .overflow) :
    ((lobbyLoginProcess n message).run s).failure = s.joinFault n message := by
  have hopen : (socketIsOpen n).run s = .done (s.sess n).isOpen s := rfl
  have hrefuse : (do
      setStatus n .logout
      sendMessage n (.joinAns false none [])
      pure false : Handler Bool).Unfailing :=
    Prog.unfailing_bind (Prog.unfailing_atomic _) fun _ =>
      Prog.unfailing_bind (unfailing_sendMessage _ _) fun _ => Prog.unfailing_pure _
  rw [lobbyLoginProcess, Prog.failure_bind_of_done hopen]
  obtain ⟨r, hr⟩ := admittedId_returns (s := s) (by rw [hmtx]; rfl) message.token
  have hspec := (admittedId_eq_done hr).1
  unfold Server.joinFault at hfits ⊢
  by_cases hisOpen : (s.sess n).isOpen = true
  · rw [if_pos hisOpen, Prog.failure_bind_of_done hr]
    cases r with
    | none =>
      rw [hrefuse.failure]
      split
      · next id hkv =>
        rw [if_neg]
        rintro ⟨-, hid⟩
        exact absurd ((hspec id).2 ⟨hkv, hid⟩) (by simp)
      · rfl
    | some id =>
      obtain ⟨hkv, hid⟩ := (hspec id).1 rfl
      simp only [hkv] at hfits ⊢
      rw [if_pos ⟨hisOpen, hid⟩] at hfits ⊢
      exact loginAs_failure (by rw [hmtx]; rfl) _ hfits
  · rw [if_neg hisOpen]
    split
    · rw [if_neg fun h => hisOpen h.1]
      rfl
    · rfl

lemma changeFriends_failure {guard : ℤ → Bool} {change : Str → Str → Handler Bool} {step : ℤ}
    {success failure : FriendsAnsType}
    (hchange : ∀ id target, ((change id target).run s).failure = s.borrowFault) (target : Str) :
    ((changeFriends guard change step success failure n target).run s).failure =
      if guard (s.sess n).friendsCount = true then s.borrowFault else none := by
  have hcount : (getFriendsCount n).run s = .done (s.sess n).friendsCount s := rfl
  have huser : (getUserId n).run s = .done (s.sess n).userId s := rfl
  have hsend : ∀ (message : Message) (b : Bool), (do
      sendMessage n message
      pure b : Handler Bool).Unfailing := fun _ _ =>
    Prog.unfailing_bind (unfailing_sendMessage _ _) fun _ => Prog.unfailing_pure _
  rw [changeFriends, Prog.failure_bind_of_done hcount]
  by_cases hguard : guard (s.sess n).friendsCount = true
  · rw [if_pos hguard, if_pos hguard, Prog.failure_bind_of_done huser, Prog.failure_bind_left,
      hchange]
    exact fun changed => Prog.unfailing_ite
      (Prog.unfailing_bind (Prog.unfailing_atomic _) fun _ => hsend _ _) (hsend _ _)
  · rw [if_neg hguard, if_neg hguard]
    exact (hsend _ _).failure _

lemma searchUser_failure (hmtx : s.mtx = free) (target : Str) :
    ((searchUser n target).run s).failure =
      if s.userIdMap target = none then s.borrowFault else none := by
  have hfind := findIdInUserMap_run (s := s) target (by rw [hmtx]; rfl)
  have hsend : ∀ message, (do
      sendMessage n message
      pure true : Handler Bool).Unfailing := fun _ =>
    Prog.unfailing_bind (unfailing_sendMessage _ _) fun _ => Prog.unfailing_pure _
  rw [searchUser, Prog.failure_bind_left hsend, searchResponse, Prog.failure_bind_of_done hfind]
  cases htarget : s.userIdMap target with
  | none =>
    rw [if_pos rfl]
    refine (Prog.failure_bind_left fun row => ?_).trans
      (getQueryUserInfo_failure (by rw [hmtx]; rfl) target)
    cases row <;> exact Prog.unfailing_pure _
  | some k =>
    rw [if_neg (by simp)]
    exact (Prog.unfailing_bind (Prog.unfailing_atomic _) fun _ =>
      Prog.unfailing_bind (Prog.unfailing_atomic _) fun _ =>
      Prog.unfailing_bind (Prog.unfailing_atomic _) fun _ =>
      Prog.unfailing_bind (Prog.unfailing_atomic _) fun _ =>
      Prog.unfailing_bind (Prog.unfailing_atomic _) fun _ => Prog.unfailing_pure _).failure _

lemma processFriendsFunction_failure (hmtx : s.mtx = free) {message : FriendsRequest}
    (hfits : s.friendsFault n message ≠ some .overflow) :
    ((processFriendsFunction n message).run s).failure = s.friendsFault n message := by
  have hfree : s.mtx .connectionMtx = 0 := by
    rw [hmtx]
    rfl
  -- the fault is looked at only when the number of friends, or the user map, leads to a statement
  have hguard : ∀ {c : Prop} [Decidable c] {a b : Option Fault}, (a ≠ some .overflow → a = b) →
      (if c then a else none) ≠ some .overflow →
      (if c then b else none) = if c then a else none := by
    intro c _ a b hab h
    split
    · next hc => exact (hab (by rwa [if_pos hc] at h)).symm
    · rfl
  unfold processFriendsFunction
  unfold Server.friendsFault at hfits ⊢
  cases htype : message.type with
  | add =>
    rw [htype] at hfits
    refine (Prog.failure_bind_left fun _ => Prog.unfailing_pure _).trans
      ((changeFriends_failure (addUserFrinedsList_failure hfree) _).trans ?_)
    simp only [decide_eq_true_eq]
    exact hguard or_textFault hfits
  | del =>
    rw [htype] at hfits
    refine (Prog.failure_bind_left fun _ => Prog.unfailing_pure _).trans
      ((changeFriends_failure (delUserFrinedsList_failure hfree) _).trans ?_)
    simp only [decide_eq_true_eq]
    exact hguard or_textFault hfits
  | search =>
    rw [htype] at hfits
    exact ((Prog.failure_bind_left fun _ => Prog.unfailing_pure _).trans
      (searchUser_failure hmtx _)).trans (hguard textFault_or hfits)

/-! ### Matches -/

lemma roomKeyLoop_failure {k : ℕ} (hk : s.answers.uuids.length = k) :
    ((roomKeyLoop k).run s).failure = s.roomKeyFault := by
  induction k generalizing s with
  | zero =>
    rw [Server.roomKeyFault, List.length_eq_zero_iff.1 hk, if_neg (by simp)]
    rfl
  | succ k ih =>
    obtain ⟨u, rest, hu⟩ := List.exists_cons_of_length_eq_add_one hk
    have hdraw : generateRoomKey.run s =
        .done (roomKeyOf u) { s with answers := { s.answers with uuids := rest } } := by
      simp only [generateRoomKey, Prog.run, hu]
    have hread : (getRedisKv (roomKeyOf u)).run
        { s with answers := { s.answers with uuids := rest } } =
        .done (s.redis (roomKeyOf u)) { s with answers := { s.answers with uuids := rest } } := rfl
    rw [roomKeyLoop, Prog.failure_bind_of_done hdraw, Prog.failure_bind_of_done hread]
    cases hkey : s.redis (roomKeyOf u) with
    | none =>
      have hfresh : ∃ u ∈ s.answers.uuids, s.redis (roomKeyOf u) = none :=
        ⟨u, by rw [hu]; exact List.mem_cons_self, hkey⟩
      rw [Server.roomKeyFault, if_pos hfresh]
      exact (Prog.unfailing_bind (Prog.unfailing_atomic _) fun _ => Prog.unfailing_pure _).failure _
    | some val =>
      -- the key is taken, and the rest of the random numbers decides
      refine (ih ?_).trans ?_
      · rw [hu] at hk
        exact Nat.succ.inj hk
      · simp [Server.roomKeyFault, hu, hkey]

lemma makeMatchingAndSendComplete_failure (a b : SessionId) :
    ((makeMatchingAndSendComplete a b).run s).failure = s.roomKeyFault := by
  have hinfo : ∀ n, (matchInfo n).Unfailing := fun n =>
    Prog.unfailing_bind (Prog.unfailing_atomic _) fun _ =>
    Prog.unfailing_bind (Prog.unfailing_atomic _) fun _ =>
    Prog.unfailing_bind (Prog.unfailing_atomic _) fun _ =>
    Prog.unfailing_bind (Prog.unfailing_atomic _) fun _ =>
    Prog.unfailing_bind (Prog.unfailing_atomic _) fun _ => Prog.unfailing_pure _
  have hsend : ∀ n key opponent, (sendComplete n key opponent).Unfailing := fun _ _ _ =>
    Prog.unfailing_bind (Prog.unfailing_atomic _) fun _ =>
    Prog.unfailing_bind (Prog.unfailing_atomic _) fun _ => unfailing_sendMessage _ _
  refine (Prog.failure_bind_left fun key => ?_).trans (roomKeyLoop_failure (s := s) rfl)
  exact Prog.unfailing_bind (Prog.unfailing_atomic _) fun _ =>
    Prog.unfailing_bind (hinfo _) fun _ => Prog.unfailing_bind (hinfo _) fun _ =>
    Prog.unfailing_bind (hsend _ _ _) fun _ => hsend _ _ _

lemma isWaiting_returns (n : SessionId) : (isWaiting n).run s = .done (s.view.waiting n) s := by
  have hw : s.view.waiting n =
      ((s.sess n).isOpen && decide ((s.sess n).stat = .matchRequest)) := rfl
  rw [hw]
  refine Prog.run_bind_eq_done.2 ⟨(s.sess n).isOpen, s, rfl, ?_⟩
  cases (s.sess n).isOpen <;> rfl

/-- The checks of `get_matching_que` return, and use neither the random numbers nor redis. -/
lemma selectPlayers_returns (r : QueId) :
    ∃ t, (selectPlayers r).run s = .done (serve s.view.waiting (s.matchingQue r)).1 t ∧
      t.roomKeyFault = s.roomKeyFault := by
  have hreturns : ∃ pair t, (selectPlayers r).run s = .done pair t ∧ t.answers = s.answers := by
    have hsize : (queSize r).run s = .done (s.matchingQue r).length s := rfl
    refine Prog.returns_bind hsize ?_
    match hq : s.matchingQue r with
    | [] | [a] => exact ⟨none, s, by rw [if_neg (by simp)]; rfl, rfl⟩
    | a :: b :: rest =>
      have hq₁ : Function.update s.matchingQue r (b :: rest) r = b :: rest :=
        Function.update_self _ _ _
      rw [if_pos (by simp)]
      refine Prog.returns_bind (queFront_run hq) (Prog.returns_bind (quePopFront_run hq)
        (Prog.returns_bind (isWaiting_returns a) ?_))
      split
      · refine Prog.returns_bind (queFront_run hq₁) (Prog.returns_bind (quePopFront_run hq₁)
          (Prog.returns_bind (isWaiting_returns b) ?_))
        dsimp only
        split <;> exact ⟨_, _, rfl, rfl⟩
      · exact ⟨_, _, rfl, rfl⟩
  obtain ⟨pair, t, ht, hans⟩ := hreturns
  obtain ⟨hpair, hview⟩ := view_selectPlayers ht
  have hredis : t.redis = s.redis := by
    have h := congrArg View.redis hview
    cases pair <;> exact h
  refine ⟨t, by rw [ht, hpair]; rfl, ?_⟩
  unfold Server.roomKeyFault
  rw [hans, hredis]

lemma getMatchingQue_failure (r : QueId) :
    ((getMatchingQue r).run s).failure = if s.view.pairs r then s.roomKeyFault else none := by
  obtain ⟨t, ht, hfault⟩ := selectPlayers_returns (s := s) r
  rw [getMatchingQue, Prog.failure_bind_of_done ht]
  have hpairs : s.view.pairs r = (serve s.view.waiting (s.matchingQue r)).1.isSome := rfl
  rw [hpairs]
  cases (serve s.view.waiting (s.matchingQue r)).1 with
  | none => rfl
  | some pair =>
    rw [if_pos (by rfl), ← hfault]
    exact (Prog.failure_bind_left fun _ => Prog.unfailing_pure _).trans
      (makeMatchingAndSendComplete_failure _ _)

lemma unfailing_controlTimerRematch (n : SessionId) (sec : ℤ) (isSet : Bool) :
    (controlTimerRematch n sec isSet).Unfailing :=
  Prog.unfailing_ite (Prog.unfailing_bind (Prog.unfailing_atomic _) fun _ =>
    Prog.unfailing_atomic _) (Prog.unfailing_pure _)

lemma processMatching_failure (hmtx : s.mtx = free) (n : SessionId) :
    ((processMatching n).run s).failure = s.rankFault n := by
  let r := (checkRating (s.sess n).ratingScore).que
  have hrating : (getSess n (·.ratingScore)).run s = .done (s.sess n).ratingScore s := rfl
  have hmark : (mark fun _ => .setMatchingQue n r).run s =
      .done () { s with log := .setMatchingQue n r :: s.log } := rfl
  have hlock := run_lock (s := { s with log := .setMatchingQue n r :: s.log })
    (congrFun hmtx (.rankQueMtx r))
  obtain ⟨t, hset, hview, hkeys⟩ : ∃ t, (do quePushBack r n; setStatus n .matchRequest).run
      { s with
        log := .setMatchingQue n r :: s.log
        mtx := Function.update s.mtx (.rankQueMtx r) (s.mtx (.rankQueMtx r) + 1) } = .done () t ∧
      t.view = s.view.enter n r ∧ t.roomKeyFault = s.roomKeyFault :=
    ⟨_, rfl, (view_setStatus rfl).trans rfl, rfl⟩
  rw [processMatching, Prog.failure_bind_of_done hrating, setMatchingQue,
    Prog.failure_bind_of_done hmark, Prog.failure_bind_of_done hlock, ← bind_assoc,
    Prog.failure_bind_of_done hset, Prog.failure_bind_left, getMatchingQue_failure, hview, hkeys]
  · rfl
  · intro matched
    have hend : ∀ m, (unlock m).Unfailing := fun _ => Prog.unfailing_atomic _
    exact Prog.unfailing_ite (hend _) (Prog.unfailing_bind (Prog.unfailing_atomic _) fun _ =>
      Prog.unfailing_ite (Prog.unfailing_bind (unfailing_controlTimerRematch _ _ _) fun _ =>
        hend _) (hend _))

lemma rematch_failure (hmtx : s.mtx = free) (n : SessionId) :
    ((rematch n).run s).failure =
      if (s.sess n).stat = .matchRequest ∧ (s.view.widen n).pairs sharedQue then s.roomKeyFault
      else none := by
  have hstat : (getStatus n).run s = .done (s.sess n).stat s := rfl
  rw [rematch, Prog.failure_bind_of_done hstat]
  by_cases hst : (s.sess n).stat = .matchRequest
  · have hlock := run_lock (congrFun hmtx (.rankQueMtx sharedQue))
    obtain ⟨t, hpush, hview, hkeys⟩ : ∃ t,
        (do mark fun _ => .widened n; quePushBack sharedQue n).run
        { s with
          mtx := Function.update s.mtx (.rankQueMtx sharedQue) (s.mtx (.rankQueMtx sharedQue) + 1) }
          = .done () t ∧
        t.view = s.view.widen n ∧ t.roomKeyFault = s.roomKeyFault := ⟨_, rfl, rfl, rfl⟩
    rw [if_pos hst, Prog.failure_bind_left fun _ => Prog.unfailing_pure _, rematchingStart,
      Prog.failure_bind_of_done hstat, if_pos hst, Prog.failure_bind_of_done hlock, ← bind_assoc,
      Prog.failure_bind_of_done hpush, Prog.failure_bind_left, getMatchingQue_failure, hview, hkeys]
    · simp only [hst, true_and]
    · exact fun _ => Prog.unfailing_bind (Prog.unfailing_atomic _) fun _ => Prog.unfailing_pure _
  · rw [if_neg hst, if_neg fun h => hst h.1]
    rfl

lemma bothHave_returns (st st' : Status) (recv : Option SessionId) :
    (bothHave n st recv st').run s =
      .done (recv.filter fun m => (s.sess n).stat = st ∧ (s.sess m).stat = st') s := by
  cases recv with
  | none => rfl
  | some m =>
    have hstat : ∀ k, (getStatus k).run s = .done (s.sess k).stat s := fun _ => rfl
    refine Prog.run_bind_eq_done.2 ⟨_, s, hstat n, ?_⟩
    by_cases hn : (s.sess n).stat = st
    · rw [if_pos hn]
      refine Prog.run_bind_eq_done.2 ⟨_, s, hstat m, ?_⟩
      by_cases hm : (s.sess m).stat = st'
      · rw [if_pos hm, Option.filter_some_pos (by simp [hn, hm])]
        rfl
      · rw [if_neg hm, Option.filter_some_neg (by simp [hm])]
        rfl
    · rw [if_neg hn, Option.filter_some_neg (by simp [hn])]
      rfl

lemma processMatchingWithFriends_failure (hmtx : s.mtx = free) (message : MatchWithFriendsRelay) :
    ((processMatchingWithFriends n message).run s).failure = s.relayFault n message := by
  have hfind := findIdInUserMap_run (s := s) message.targetId (congrFun hmtx _)
  rw [processMatchingWithFriends, Prog.failure_bind_of_done hfind, Server.relayFault]
  by_cases hself : s.userIdMap message.targetId = some n
  · rw [if_pos hself, hself]
    cases message.type <;>
      exact ((Prog.unfailing_bind (Prog.unfailing_atomic _) fun _ =>
        unfailing_sendMessage _ _).failure _).trans (by simp)
  · rw [if_neg hself]
    cases message.type with
    | accept =>
      rw [Prog.failure_bind_of_done (bothHave_returns _ _ _)]
      cases htarget : s.userIdMap message.targetId with
      | none => exact (unfailing_sendMessage _ _).failure _
      | some m =>
        have hne : m ≠ n := fun h => hself (by rw [htarget, h])
        by_cases hboth : (s.sess n).stat = .matchRecver ∧ (s.sess m).stat = .matchApply
        · rw [Option.filter_some_pos (by simpa using hboth)]
          exact (makeMatchingAndSendComplete_failure _ _).trans (if_pos ⟨hne, hboth⟩).symm
        · rw [Option.filter_some_neg (by simpa using hboth)]
          exact ((unfailing_sendMessage _ _).failure _).trans (if_neg fun h => hboth h.2).symm
    | apply =>
      rw [Prog.failure_bind_left, bothHave_returns]
      · cases s.userIdMap message.targetId <;> rfl
      · intro found
        cases found with
        | none => exact unfailing_sendMessage _ _
        | some m =>
          exact Prog.unfailing_bind (Prog.unfailing_atomic _) fun _ =>
            Prog.unfailing_bind (Prog.unfailing_atomic _) fun _ =>
            Prog.unfailing_bind (Prog.unfailing_atomic _) fun _ =>
            Prog.unfailing_bind (Prog.unfailing_atomic _) fun _ => unfailing_sendMessage _ _
    | deny =>
      rw [Prog.failure_bind_of_done (bothHave_returns _ _ _)]
      cases s.userIdMap message.targetId with
      | none => rfl
      | some m =>
        generalize Option.filter _ (some m) = found
        cases found with
        | some m =>
          exact (Prog.unfailing_bind (Prog.unfailing_atomic _) fun _ =>
            Prog.unfailing_bind (Prog.unfailing_atomic _) fun _ =>
            Prog.unfailing_bind (Prog.unfailing_atomic _) fun _ =>
            unfailing_sendMessage _ _).failure s
        | none =>
          -- the log line reads the user id of a session that was found
          exact (Prog.unfailing_bind (unfailing_sendMessage _ _) fun _ =>
            Prog.unfailing_bind (Prog.unfailing_atomic _) fun _ => Prog.unfailing_pure _).failure s

/-! ### The events -/

lemma processPacket_failure (hmtx : s.mtx = free) {packet : Packet}
    (hfits : s.packetFault n packet ≠ some .overflow) :
    ((processPacket n packet).run s).failure = s.packetFault n packet := by
  cases packet with
  | friendsReq message => exact processFriendsFunction_failure hmtx hfits
  | playFriendsRel message => exact processMatchingWithFriends_failure hmtx message
  | playRankReq => exact processMatching_failure hmtx n
  | joinReq message =>
    exact (Prog.failure_bind_left fun _ => Prog.unfailing_pure _).trans
      (lobbyLoginProcess_failure hmtx hfits)
  | logoutReq =>
    exact (Prog.unfailing_bind (unfailing_lobbyLogoutProcess n) fun _ =>
      Prog.unfailing_pure _).failure s
  | matchConfirm =>
    have hconfirm : (processMatchConfirm n).Unfailing :=
      Prog.unfailing_bind (Prog.unfailing_atomic _) fun _ => Prog.unfailing_ite
        (Prog.unfailing_bind (Prog.unfailing_atomic _) fun _ => Prog.unfailing_pure _)
        (Prog.unfailing_pure _)
    exact (Prog.unfailing_bind hconfirm fun _ => Prog.unfailing_ite (unfailing_closeSession n)
      (Prog.unfailing_pure _)).failure s
  | errorMsg message =>
    exact (Prog.unfailing_bind (Prog.unfailing_atomic _) fun _ =>
      Prog.unfailing_bind (Prog.unfailing_atomic _) fun _ =>
      unfailing_sendMessage _ _).failure s
  | other type => rfl

lemma handleWrite_failure (n : SessionId) :
    ((handleWrite n).run s).failure =
      if (s.sess n).send.queue = [] then some .emptyDeque else none := by
  rw [run_handleWrite]
  by_cases hq : (s.sess n).send.queue = []
  · have hnone : (s.sess n).send.afterWrite (s.sess n).loggedOut = none := by
      simp only [SendQueue.afterWrite, SendQueue.popFront, hq, Option.map_none]
    rw [hnone, if_pos hq]
    rfl
  · obtain ⟨q, hq'⟩ := SendQueue.afterWrite_isSome (s.sess n).loggedOut hq
    rw [hq', if_neg hq]
    rfl

/-- The failure of an event is the one that was predicted, when that is not an overflow. -/
lemma outcome_failure (hmtx : s.mtx = free) {e : Event} {o : Out Server Fault Unit}
    (hfits : s.fault e ≠ some .overflow) (ho : outcome s e = some o) :
    o.failure = s.fault e := by
  obtain ⟨t, hprep, rfl⟩ := Option.map_eq_some_iff.1 ho
  have hwait : (do let _ ← waitAccept : Handler Unit).Unfailing :=
    Prog.unfailing_bind unfailing_waitAccept fun _ => Prog.unfailing_pure _
  cases e with
  | startAccept => exact hwait.failure t
  | acceptDone n error =>
    refine Prog.Unfailing.failure (Prog.unfailing_ite (Prog.unfailing_pure _) ?_) t
    exact Prog.unfailing_bind (Prog.unfailing_atomic _) fun _ =>
      Prog.unfailing_bind (Prog.unfailing_atomic _) fun _ =>
      Prog.unfailing_bind (Prog.unfailing_atomic _) fun _ =>
      Prog.unfailing_bind (Prog.unfailing_atomic _) fun _ =>
      Prog.unfailing_bind (Prog.unfailing_atomic _) fun _ => hwait
  | receive n packets => rfl
  | packet answers =>
    simp only [prepare] at hprep
    split at hprep
    · next n p rest hcur =>
      obtain rfl := Option.some.inj hprep
      simp only [handler, Server.fault, hcur] at hfits ⊢
      exact processPacket_failure (s := { s with current := some (n, rest), answers := answers })
        hmtx hfits
    · cases hprep
  | receiveEnd =>
    simp only [prepare] at hprep
    split at hprep
    · next n hcur =>
      simp only [handler, hcur]
      rfl
    · cases hprep
  | receiveError n live error =>
    cases error with
    | eof | connectionReset => exact (unfailing_closeSession n).failure t
    | other => rfl
  | timer n i answers =>
    obtain ⟨-, hprep⟩ := Option.ite_none_right_eq_some.1 hprep
    obtain rfl := Option.some.inj hprep
    -- the completed wait is in the view, but no test looks at it
    have hview : (Server.setSess { s with answers := answers } n
        { s.sess n with waits := (s.sess n).waits.eraseIdx i }).view =
        { s.view with waits := Function.update s.view.waits n ((s.sess n).waits.eraseIdx i) } := by
      rw [view_setSess]
      simp only [Server.view, Function.update_eq_self]
    refine (rematch_failure (s := Server.setSess { s with answers := answers } n
      { s.sess n with waits := (s.sess n).waits.eraseIdx i }) hmtx n).trans ?_
    rw [hview]
    simp only [Server.setSess, Function.update_self]
    rfl
  | writeDone n i =>
    obtain ⟨-, hprep⟩ := Option.ite_none_right_eq_some.1 hprep
    obtain rfl := Option.some.inj hprep
    refine (handleWrite_failure n).trans ?_
    simp only [Server.setSess, Function.update_self]
    rfl
  | world redis tables => rfl

/-- **How handlers end**: in a reachable state an event for which no overflow is predicted fails
as predicted, and its handler returns if and only if no failure is predicted and it does not close
a session while the server has stopped accepting. -/
theorem handler_returns_iff (h : Reachable s) {e : Event} {o : Out Server Fault Unit}
    (hfits : s.fault e ≠ some .overflow) (ho : outcome s e = some o) :
    o.failure = s.fault e ∧
      ((∃ s', Step s e s') ↔
        s.fault e = none ∧
          ¬ (s.view.Closes e ∧ s.acceptingFlag = false ∧ s.cfg.reentrant = false)) := by
  have hmtx := h.mtx_free
  have hfault := outcome_failure hmtx hfits ho
  refine ⟨hfault, ?_⟩
  constructor
  · rintro ⟨s', hstep⟩
    obtain rfl := Option.some.inj (ho.symm.trans hstep)
    refine ⟨hfault.symm, ?_⟩
    rintro ⟨hclose, hflag, hre⟩
    obtain ⟨t, ht⟩ := outcome_blocked ho hmtx hclose hflag hre
    cases ht
  · rintro ⟨hnone, hcond⟩
    obtain ⟨t, hprep, hrun⟩ := Option.map_eq_some_iff.1 ho
    have hfree := handler_free ⟨rfl, rfl, hmtx⟩ hprep fun hclose => by
      by_contra hboth
      simp only [not_or, Bool.not_eq_true] at hboth
      exact hcond ⟨hclose, hboth⟩
    cases o with
    | done a s' => exact ⟨s', ho⟩
    | blocked u => exact absurd hrun (hfree.not_blocked rfl)
    | failed fault =>
      rw [hnone] at hfault
      cases hfault

end Faults

/-- The second of two players asks for a match when there are no random numbers: no room key is
found. -/
theorem handler_returns_iff_without_keys :
    ∃ (s : Server) (o : Out Server Fault Unit), Reachable s ∧
      outcome s (.packet ⟨[], [], 0⟩) = some o ∧ o.failure = some .spin ∧
      ¬ ∃ s', Step s (.packet ⟨[], [], 0⟩) s' := by
  have hrun : (run (Boot.plain 2 1 (fun _ => none) ⟨[], []⟩) (twoPlayers.take 6)).map
      (fun s => (s.fault (.packet ⟨[], [], 0⟩), (outcome s (.packet ⟨[], [], 0⟩)).isSome)) =
      some (some .spin, true) := by decide
  obtain ⟨s, hs, heq⟩ := Option.map_eq_some_iff.1 hrun
  obtain ⟨hfault, hout⟩ := Prod.mk.inj heq
  obtain ⟨o, ho⟩ := Option.isSome_iff_exists.1 hout
  obtain ⟨hfail, hreturns⟩ :=
    handler_returns_iff (reachable_of_run hs) (by rw [hfault]; simp) ho
  refine ⟨s, o, reachable_of_run hs, ho, hfail.trans hfault, fun hstep => ?_⟩
  exact absurd (hfault.symm.trans (hreturns.1 hstep).1) (by simp)

end ChannelServer
