/-
What the handlers do to the view.

The changes of the view that the handlers make are functions on views, named after the
lines of the source that make them, and for every handler there is a lemma that reads the
view after the handler off the view before it.  Serving a queue and relaying a message
between friends have several outcomes; these are the relations `View.Served` and
`View.Relayed`.
-/
import ChannelServer.Calls
import ChannelServer.View
import ChannelServer.Lib.WaitingRoom

namespace ChannelServer

open Resumption WaitingRoom

/-- A status in which `close_session` does not return at once. -/
def Status.closes (st : Status) : Prop := st ≠ .wait ∧ st ≠ .matchApply

namespace View

/-! ### Changes of the view -/

def setStat (v : View) (n : SessionId) (st : Status) : View :=
  { v with stat := Function.update v.stat n st }

def setOpen (v : View) (n : SessionId) (b : Bool) : View :=
  { v with isOpen := Function.update v.isOpen n b }

def eraseUser (v : View) (id : Str) : View :=
  { v with userIdMap := Function.update v.userIdMap id none }

def eraseKey (v : View) (key : Str) : View := { v with redis := Function.update v.redis key none }

def insertKey (v : View) (key val : Str) : View :=
  { v with redis := Function.update v.redis key (some val) }

def setQue (v : View) (r : QueId) (q : List SessionId) : View :=
  { v with matchingQue := Function.update v.matchingQue r q }

def setFriends (v : View) (rows : List (Str × Str)) : View := { v with friendInfo := rows }

def note (v : View) (m : Mark) : View := { v with log := m :: v.log }

/-- The change that a successful login makes. -/
def login (v : View) (n : SessionId) (token id : Str) (rating : ℤ) : View :=
  { v with
    userId := Function.update v.userId n id
    token := Function.update v.token n token
    rating := Function.update v.rating n rating
    userIdMap := Function.update v.userIdMap id (some n)
    stat := Function.update v.stat n .login
    log := .joined n id :: v.log }

/-- The removal of a session's token and user id. -/
def forget (v : View) (n : SessionId) : View := (v.eraseKey (v.token n)).eraseUser (v.userId n)

/-- `wait_accept`. -/
def waitAccept (v : View) : View :=
  match v.sessionQueue with
  | [] => { v with acceptingFlag := false }
  | n :: rest =>
      { v with
        acceptingFlag := true
        sessionQueue := rest
        accepts := v.accepts ++ [n]
        log := .asyncAccept n (v.isOpen n) :: v.log }

lemma waitAccept_nil {v : View} (h : v.sessionQueue = []) :
    v.waitAccept = { v with acceptingFlag := false } := by
  unfold waitAccept
  split
  · rfl
  · rename_i hq
    rw [h] at hq
    cases hq

lemma waitAccept_cons {v : View} {n : SessionId} {rest : List SessionId}
    (h : v.sessionQueue = n :: rest) :
    v.waitAccept = { v with
      acceptingFlag := true
      sessionQueue := rest
      accepts := v.accepts ++ [n]
      log := .asyncAccept n (v.isOpen n) :: v.log } := by
  unfold waitAccept
  split
  · rename_i hq
    rw [h] at hq
    cases hq
  · rename_i hq
    obtain ⟨rfl, rfl⟩ := List.cons.inj (h.symm.trans hq)
    rfl

/-- `wait_accept` changes the pool only. -/
lemma waitAccept_eq (v : View) : ∃ flag queue accepts new,
    (∀ m ∈ new, ∃ n b, m = Mark.asyncAccept n b) ∧
      v.waitAccept = { v with
        acceptingFlag := flag
        sessionQueue := queue
        accepts := accepts
        log := new ++ v.log } := by
  cases hq : v.sessionQueue with
  | nil => exact ⟨false, v.sessionQueue, v.accepts, [], by simp, waitAccept_nil hq⟩
  | cons n rest =>
    refine ⟨true, rest, v.accepts ++ [n], [.asyncAccept n (v.isOpen n)], ?_, waitAccept_cons hq⟩
    intro m hm
    exact ⟨n, _, List.mem_singleton.1 hm⟩

lemma waitAccept_stat (v : View) :
    v.waitAccept.stat = v.stat ∧ v.waitAccept.current = v.current := by
  obtain ⟨flag, queue, accepts, new, -, h⟩ := v.waitAccept_eq
  rw [h]
  exact ⟨rfl, rfl⟩

/-- The lines of `close_session` after the cases of the status. -/
def finishClose (v : View) (n : SessionId) : View :=
  let w : View := { v with
    stat := Function.update v.stat n .wait
    isOpen := Function.update v.isOpen n false
    connections := v.connections - 1
    active := v.active.erase n
    sessionQueue := v.sessionQueue ++ [n] }
  if v.acceptingFlag = false then w.waitAccept else w

/-- `close_session`. -/
def close (v : View) (n : SessionId) : View :=
  match v.stat n with
  | .login => (v.forget n).finishClose n
  | .logout => v.finishClose n
  | .matchConfirm => (v.eraseUser (v.userId n)).finishClose n
  | .matchComplete => ((v.eraseKey (v.roomKey n)).forget n).finishClose n
  | .matchRecver => (v.forget n).finishClose n
  | .matchRequest => (v.forget n).finishClose n
  | .conn => v.finishClose n
  | .wait => v
  | .matchApply => v

/-- A session that is released, before `accepting_flag_` is read. -/
def release (v : View) (n : SessionId) : View :=
  { v with
    stat := Function.update v.stat n .wait
    isOpen := Function.update v.isOpen n false
    connections := v.connections - 1
    active := v.active.erase n
    sessionQueue := v.sessionQueue ++ [n] }

/-- Closing a session releases it, and waits for an accept if the server has stopped. -/
lemma finishClose_cases (v : View) (n : SessionId) :
    v.acceptingFlag = false ∧ v.finishClose n = (v.release n).waitAccept ∨
      v.acceptingFlag ≠ false ∧ v.finishClose n = v.release n := by
  by_cases hflag : v.acceptingFlag = false
  · exact Or.inl ⟨hflag, if_pos hflag⟩
  · exact Or.inr ⟨hflag, if_neg hflag⟩

/-- What a released session leaves and `wait_accept` keeps is left when the session is closed. -/
lemma finishClose_of_release {P : View → Prop} (hwait : ∀ w, P w → P w.waitAccept) {v : View}
    {n : SessionId} (h : P (v.release n)) : P (v.finishClose n) := by
  rcases v.finishClose_cases n with ⟨-, hc⟩ | ⟨-, hc⟩ <;> rw [hc]
  · exact hwait _ h
  · exact h

/-- Closing a session changes its status, its socket and the pool only. -/
lemma finishClose_eq (v : View) (n : SessionId) : ∃ flag queue accepts new,
    (∀ m ∈ new, ∃ n b, m = Mark.asyncAccept n b) ∧
      v.finishClose n = { v with
        stat := Function.update v.stat n .wait
        isOpen := Function.update v.isOpen n false
        connections := v.connections - 1
        active := v.active.erase n
        acceptingFlag := flag
        sessionQueue := queue
        accepts := accepts
        log := new ++ v.log } := by
  rcases v.finishClose_cases n with ⟨-, h⟩ | ⟨-, h⟩ <;> rw [h]
  · exact (v.release n).waitAccept_eq
  · exact ⟨v.acceptingFlag, v.sessionQueue ++ [n], v.accepts, [], by simp, rfl⟩

/-- `close_session` returns at once, or it removes keys and entries of the login map and then
closes the session. -/
lemma close_cases (v : View) (n : SessionId) :
    ¬ (v.stat n).closes ∧ v.close n = v ∨
      (v.stat n).closes ∧ ∃ redis userIdMap, v.close n =
        View.finishClose { v with redis := redis, userIdMap := userIdMap } n := by
  unfold close
  cases v.stat n with
  | wait | matchApply => exact Or.inl ⟨by simp [Status.closes], rfl⟩
  | conn | logout | login | matchRequest | matchRecver | matchComplete | matchConfirm =>
    exact Or.inr ⟨by simp [Status.closes], _, _, rfl⟩

/-- The end of `handle_accept` without an error, after the socket was opened. -/
def accept (v : View) (n : SessionId) : View :=
  View.waitAccept { v with
    log := .accepted n :: v.log
    reads := v.reads ++ [⟨n, v.isOpen n⟩]
    stat := Function.update v.stat n .conn
    connections := v.connections + 1
    active := v.active ++ [n] }

/-- A session that may be paired: its socket is open and its status is `MATCH_REQUEST`. -/
def waiting (v : View) (n : SessionId) : Bool := v.isOpen n && decide (v.stat n = .matchRequest)

/-- The change that `make_matching_and_send_complete` makes, for the key it has chosen. -/
def matched (v : View) (key : Str) (a b : SessionId) : View :=
  { v with
    redis := Function.update v.redis key (some (lit "0"))
    log := .matchMade key a b :: v.log
    stat := Function.update (Function.update v.stat a .matchComplete) b .matchComplete
    roomKey := Function.update (Function.update v.roomKey a key) b key }

/-- `control_timer_rematch`: the pending waits are cancelled and a new one is started. -/
def arm (v : View) (n : SessionId) : View :=
  { v with
    waits := Function.update v.waits n
      ((v.waits n).map ({ · with cancelled := true }) ++ [⟨false, v.log.length⟩]) }

/-- The log entry of a pair that leaves a queue. -/
def pairMark (v : View) (r : QueId) (a b : SessionId) : Mark :=
  .rankMatch r a b (v.stat a) (v.stat b) (v.isOpen a) (v.isOpen b)

/-- `get_matching_que`: the view and the result after a queue was served. -/
inductive Served (v : View) (r : QueId) : View → Bool → Prop
  | nobody (h : (serve v.waiting (v.matchingQue r)).1 = none) :
      Served v r (v.setQue r (serve v.waiting (v.matchingQue r)).2) false
  | pair {a b : SessionId} {uuid : Uuid}
      (h : (serve v.waiting (v.matchingQue r)).1 = some (a, b))
      (hkey : v.redis (roomKeyOf uuid) = none) :
      Served v r
        (((v.setQue r (serve v.waiting (v.matchingQue r)).2).note (v.pairMark r a b)).matched
          (roomKeyOf uuid) a b) true

/-- The two sessions have the statuses with which a relay of this type is passed on. -/
def PassesOn (v : View) (type : RelType) (n m : SessionId) : Prop :=
  match type with
  | .apply => v.stat n = .login ∧ v.stat m = .login
  | .accept => v.stat n = .matchRecver ∧ v.stat m = .matchApply
  | .deny => v.stat n = .matchRecver ∧ v.stat m = .matchApply

/-- `process_matching_with_friends`: the view after the packet `message` of `n`. -/
inductive Relayed (v : View) (n : SessionId) (message : MatchWithFriendsRelay) : View → Prop
  | refused (hself : v.userIdMap message.targetId ≠ some n)
      (hno : ∀ m, v.userIdMap message.targetId = some m → ¬ v.PassesOn message.type n m) :
      Relayed v n message v
  | self (hself : v.userIdMap message.targetId = some n) :
      Relayed v n message (v.setStat n .login)
  | accept {m : SessionId} {uuid : Uuid} (htype : message.type = .accept)
      (htarget : v.userIdMap message.targetId = some m) (hne : m ≠ n)
      (hn : v.stat n = .matchRecver) (hm : v.stat m = .matchApply)
      (hkey : v.redis (roomKeyOf uuid) = none) :
      Relayed v n message (v.matched (roomKeyOf uuid) n m)
  | apply {m : SessionId} (htype : message.type = .apply)
      (htarget : v.userIdMap message.targetId = some m) (hne : m ≠ n)
      (hn : v.stat n = .login) (hm : v.stat m = .login) :
      Relayed v n message
        (((v.setStat n .matchApply).setStat m .matchRecver).note (.applied n m))
  | deny {m : SessionId} (htype : message.type = .deny)
      (htarget : v.userIdMap message.targetId = some m) (hne : m ≠ n)
      (hn : v.stat n = .matchRecver) (hm : v.stat m = .matchApply) :
      Relayed v n message ((v.setStat n .login).setStat m .login)

/-- `add_friends` and `del_friends`: the view after the packet `message` of `n`. -/
inductive Befriended (v : View) (n : SessionId) (message : FriendsRequest) : View → Prop
  | same : Befriended v n message v
  | add (htype : message.type = .add) (h : (v.userId n, message.targetId) ∉ v.friendInfo) :
      Befriended v n message (v.setFriends (v.friendInfo ++ [(v.userId n, message.targetId)]))
  | del (htype : message.type = .del) (h : (v.userId n, message.targetId) ∈ v.friendInfo) :
      Befriended v n message
        (v.setFriends (v.friendInfo.filter (· ≠ (v.userId n, message.targetId))))

/-- The first lines of `set_matching_que`. -/
def enter (v : View) (n : SessionId) (r : QueId) : View :=
  { v with
    log := .setMatchingQue n r :: v.log
    matchingQue := Function.update v.matchingQue r (v.matchingQue r ++ [n])
    stat := Function.update v.stat n .matchRequest }

/-- The first lines of `rematching_start`, for a session that is waiting. -/
def widen (v : View) (n : SessionId) : View :=
  { v with
    log := .widened n :: v.log
    matchingQue := Function.update v.matchingQue sharedQue (v.matchingQue sharedQue ++ [n]) }

/-- The end of `set_matching_que`: a session that was not matched arms its timer. -/
def armUnless (v : View) (n : SessionId) (matched : Bool) : View :=
  if matched = false ∧ v.cfg.timerValue > 0 then v.arm n else v

lemma armUnless_cases (v : View) (n : SessionId) (matched : Bool) :
    v.armUnless n matched = v.arm n ∨ v.armUnless n matched = v :=
  ite_eq_or_eq _ _ _

end View

/-! ### The handlers -/

section Handlers

variable {s s' : Server} {n : SessionId}

lemma view_setStatus {st : Status} {u : Unit} (h : (setStatus n st).run s = .done u s') :
    s'.view = s.view.setStat n st := by
  obtain ⟨-, rfl⟩ := Out.done.inj h
  rw [view_setSess]
  simp only [View.setStat, Server.view, Function.update_eq_self]

lemma view_setRoomKey {key : Str} {u : Unit} (h : (setRoomKey n key).run s = .done u s') :
    s'.view = { s.view with roomKey := Function.update s.view.roomKey n key } := by
  obtain ⟨-, rfl⟩ := Out.done.inj h
  rw [view_setSess]
  simp only [Server.view, Function.update_eq_self]

lemma view_socketClose {u : Unit} (h : (socketClose n).run s = .done u s') :
    s'.view = s.view.setOpen n false := by
  obtain ⟨-, rfl⟩ := Out.done.inj h
  rw [view_setSess]
  simp only [View.setOpen, Server.view, Function.update_eq_self]

lemma view_delRedisKey {key : Str} {b : Bool} (h : (delRedisKey key).run s = .done b s') :
    s'.view = s.view.eraseKey key := by
  obtain ⟨-, rfl⟩ := Out.done.inj h
  rfl

lemma view_delIdInUserMap {id : Str} {b : Bool} (h : (delIdInUserMap id).run s = .done b s') :
    s'.view = s.view.eraseUser id := by
  rw [delIdInUserMap_run id (mtx_eq_zero_of_lock (by simp) h)] at h
  obtain ⟨-, rfl⟩ := Out.done.inj h
  rfl

/-! ### Login and logout -/

lemma view_sent (message : Message) : (s.sent n message).view = s.view :=
  (quiet_sendMessage n message).view_eq (sendMessage_run message s)

lemma view_loggedIn {token id : Str} {row : UserRow} {friends : List Str}
    (hid : s.userIdMap id = none) :
    (s.loggedIn n token row id friends).view = s.view.login n token id row.rating.toInt := by
  unfold Server.loggedIn
  rw [hid]
  show { (s.setSess n _).view with
    userIdMap := Function.update s.view.userIdMap id (some n)
    log := .joined n id :: s.view.log } = _
  rw [view_setSess]
  simp only [View.login, Server.view, Function.update_eq_self]

/-- The three ways in which the login of an admitted user ends. -/
lemma LoginEnd.view {token id : Str} {found : Option UserRow} {friends : List Str} {b : Bool}
    (h : LoginEnd n token id found friends s b s') (hid : s.userIdMap id = none) :
    (b = false ∧ s'.view = s.view.eraseKey token) ∨ (b = false ∧ s'.view = s.view) ∨
      (b = true ∧ ∃ rating, s'.view = s.view.login n token id rating) := by
  cases h with
  | noRow ht _ =>
    obtain ⟨que, answers, -, rfl⟩ := ht
    exact Or.inl ⟨rfl, view_sent _⟩
  | noList ht _ _ _ =>
    obtain ⟨que, answers, -, rfl⟩ := ht
    exact Or.inr (Or.inl ⟨rfl, view_sent _⟩)
  | @joined _ row ht _ _ _ =>
    obtain ⟨que, answers, -, rfl⟩ := ht
    refine Or.inr (Or.inr ⟨rfl, row.rating.toInt, ?_⟩)
    rw [view_sent]
    exact view_loggedIn hid

/-- The ways in which a login request ends. -/
lemma view_lobbyLoginProcess {message : JoinRequest} {b : Bool}
    (h : (lobbyLoginProcess n message).run s = .done b s') :
    s'.view = s.view ∨
    (s.view.isOpen n = true ∧ s'.view = s.view.setStat n .logout ∧
      ∀ id, s.view.redis message.token = some id → s.view.userIdMap id ≠ none) ∨
    (s.view.isOpen n = true ∧ ∃ id, s.view.redis message.token = some id ∧
      s.view.userIdMap id = none ∧ s'.view = s.view.eraseKey message.token) ∨
    (s.view.isOpen n = true ∧ ∃ id rating, s.view.redis message.token = some id ∧
      s.view.userIdMap id = none ∧ s'.view = s.view.login n message.token id rating) := by
  cases lobbyLoginProcess_eq_done h with
  | closed _ => exact Or.inl rfl
  | refused hopen hnone =>
    refine Or.inr (Or.inl ⟨hopen, ?_, hnone⟩)
    rw [view_sent]
    exact view_setStatus rfl
  | admitted hopen hkv hid hend =>
    rcases hend.view hid with ⟨-, hv⟩ | ⟨-, hv⟩ | ⟨-, rating, hv⟩
    · exact Or.inr (Or.inr (Or.inl ⟨hopen, _, hkv, hid, hv⟩))
    · exact Or.inl hv
    · exact Or.inr (Or.inr (Or.inr ⟨hopen, _, rating, hkv, hid, hv⟩))

/-- The ways in which a logout request ends. -/
lemma view_lobbyLogoutProcess {b : Bool} (h : (lobbyLogoutProcess n).run s = .done b s') :
    (s.view.redis (s.view.token n) = none ∧ s'.view = s.view) ∨
    ((∃ id, s.view.redis (s.view.token n) = some id) ∧
      s'.view = ((s.view.forget n).setStat n .logout).note (.loggedOut n)) := by
  obtain ⟨token, s₁, h₁, h⟩ := Prog.run_bind_eq_done.1 h
  obtain ⟨rfl, rfl⟩ := getSess_eq_done h₁
  obtain ⟨kv, s₂, h₂, h⟩ := Prog.run_bind_eq_done.1 h
  obtain ⟨rfl, rfl⟩ := getRedisKv_eq_done h₂
  cases hkv : s.redis (s.sess n).token with
  | none =>
    rw [hkv] at h
    obtain ⟨-, rfl⟩ := Out.done.inj h
    exact Or.inl ⟨hkv, rfl⟩
  | some id =>
    rw [hkv] at h
    obtain ⟨token, s₁, h₁, h⟩ := Prog.run_bind_eq_done.1 h
    obtain ⟨rfl, rfl⟩ := getSess_eq_done h₁
    obtain ⟨_, s₂, h₂, h⟩ := Prog.run_bind_eq_done.1 h
    have hv₂ := view_delRedisKey h₂
    obtain ⟨user, s₃, h₃, h⟩ := Prog.run_bind_eq_done.1 h
    obtain ⟨huser, rfl⟩ := getSess_eq_done h₃
    have huser' : user = s.view.userId n :=
      huser.trans (congrArg (fun v : View => v.userId n) hv₂)
    obtain ⟨_, s₄, h₄, h⟩ := Prog.run_bind_eq_done.1 h
    have hv₄ := view_delIdInUserMap h₄
    obtain ⟨_, s₅, h₅, h⟩ := Prog.run_bind_eq_done.1 h
    have hv₅ := view_setStatus h₅
    obtain ⟨_, s₆, h₆, h⟩ := Prog.run_bind_eq_done.1 h
    obtain ⟨-, rfl⟩ := Out.done.inj h₆
    obtain ⟨_, s₇, h₇, h⟩ := Prog.run_bind_eq_done.1 h
    obtain ⟨-, rfl⟩ := Out.done.inj h
    refine Or.inr ⟨⟨id, hkv⟩, ?_⟩
    rw [(quiet_sendMessage _ _).view_eq h₇]
    change s₅.view.note (.loggedOut n) = _
    rw [hv₅, hv₄, hv₂, huser']
    rfl

/-! ### Accepting and closing -/

lemma view_waitAccept {b : Bool} (h : waitAccept.run s = .done b s') :
    s'.view = s.view.waitAccept := by
  obtain ⟨_, s₁, h₁, h⟩ := Prog.run_bind_eq_done.1 h
  have hv₁ : s₁.view = s.view := (quiet_lock _).view_eq h₁
  rw [← hv₁]
  obtain ⟨que, s₂, h₂, h⟩ := Prog.run_bind_eq_done.1 h
  obtain ⟨rfl, rfl⟩ := Out.done.inj h₂
  dsimp only at h
  cases hq : s₁.sessionQueue with
  | nil =>
    have hq' : s₁.view.sessionQueue = [] := hq
    rw [hq] at h
    obtain ⟨_, s₃, h₃, h⟩ := Prog.run_bind_eq_done.1 h
    obtain ⟨-, rfl⟩ := Out.done.inj h₃
    obtain ⟨_, s₄, h₄, h⟩ := Prog.run_bind_eq_done.1 h
    obtain ⟨-, rfl⟩ := Out.done.inj h
    rw [(quiet_unlock _).view_eq h₄, View.waitAccept_nil hq']
    rfl
  | cons n rest =>
    have hq' : s₁.view.sessionQueue = n :: rest := hq
    rw [hq] at h
    obtain ⟨_, s₃, h₃, h⟩ := Prog.run_bind_eq_done.1 h
    obtain ⟨-, rfl⟩ := Out.done.inj h₃
    obtain ⟨_, s₄, h₄, h⟩ := Prog.run_bind_eq_done.1 h
    obtain ⟨-, rfl⟩ := Out.done.inj h₄
    obtain ⟨_, s₅, h₅, h⟩ := Prog.run_bind_eq_done.1 h
    have hv₅ := (quiet_unlock _).view_eq h₅
    obtain ⟨_, s₆, h₆, h⟩ := Prog.run_bind_eq_done.1 h
    obtain ⟨-, rfl⟩ := Out.done.inj h
    obtain ⟨_, s₇, h₇, h₆⟩ := Prog.run_bind_eq_done.1 h₆
    obtain ⟨-, rfl⟩ := Out.done.inj h₇
    obtain ⟨-, rfl⟩ := Out.done.inj h₆
    change ({ s₅.view with
      log := .asyncAccept n (s₅.view.isOpen n) :: s₅.view.log
      accepts := s₅.view.accepts ++ [n] } : View) = _
    rw [hv₅, View.waitAccept_cons hq']
    rfl

lemma view_handleAccept {u : Unit} (h : (handleAccept n false).run s = .done u s') :
    s'.view = s.view.accept n := by
  obtain ⟨_, s₁, h₁, h⟩ := Prog.run_bind_eq_done.1 h
  obtain ⟨-, rfl⟩ := Out.done.inj h₁
  obtain ⟨_, s₂, h₂, h⟩ := Prog.run_bind_eq_done.1 h
  have hv₂ := (quiet_sessionInit n).view_eq h₂
  obtain ⟨_, s₃, h₃, h⟩ := Prog.run_bind_eq_done.1 h
  obtain ⟨-, rfl⟩ := Out.done.inj h₃
  obtain ⟨_, s₄, h₄, h⟩ := Prog.run_bind_eq_done.1 h
  have hv₄ := view_setStatus h₄
  obtain ⟨_, s₅, h₅, h⟩ := Prog.run_bind_eq_done.1 h
  obtain ⟨-, rfl⟩ := Out.done.inj h₅
  obtain ⟨_, s₆, h₆, h⟩ := Prog.run_bind_eq_done.1 h
  obtain ⟨-, rfl⟩ := Out.done.inj h
  rw [view_waitAccept h₆]
  unfold View.accept
  congr 1
  change { s₄.view with
    connections := s₄.view.connections + 1, active := s₄.view.active ++ [n] } = _
  rw [hv₄]
  change ({ s₂.view with
    reads := s₂.view.reads ++ [⟨n, s₂.view.isOpen n⟩]
    stat := Function.update s₂.view.stat n .conn
    connections := s₂.view.connections + 1
    active := s₂.view.active ++ [n] } : View) = _
  rw [hv₂]
  rfl

lemma view_finishClose {u : Unit} (h : (finishClose n).run s = .done u s') :
    s'.view = s.view.finishClose n := by
  obtain ⟨_, s₁, h₁, h⟩ := Prog.run_bind_eq_done.1 h
  have hv₁ := view_setStatus h₁
  obtain ⟨_, s₂, h₂, h⟩ := Prog.run_bind_eq_done.1 h
  have hv₂ := view_socketClose h₂
  obtain ⟨_, s₃, h₃, h⟩ := Prog.run_bind_eq_done.1 h
  obtain ⟨-, rfl⟩ := Out.done.inj h₃
  obtain ⟨_, s₄, h₄, h⟩ := Prog.run_bind_eq_done.1 h
  have hv₄ := (quiet_lock _).view_eq h₄
  obtain ⟨_, s₅, h₅, h⟩ := Prog.run_bind_eq_done.1 h
  obtain ⟨-, rfl⟩ := Out.done.inj h₅
  obtain ⟨flag, s₆, h₆, h⟩ := Prog.run_bind_eq_done.1 h
  obtain ⟨hflag, rfl⟩ := Out.done.inj h₆
  -- the view when the flag is read
  have hview : ({ s₄ with sessionQueue := s₄.sessionQueue ++ [n] } : Server).view =
      { s.view with
        stat := Function.update s.view.stat n .wait
        isOpen := Function.update s.view.isOpen n false
        connections := s.view.connections - 1
        active := s.view.active.erase n
        sessionQueue := s.view.sessionQueue ++ [n] } := by
    change { s₄.view with sessionQueue := s₄.view.sessionQueue ++ [n] } = _
    rw [hv₄]
    change { s₂.view with
      connections := s₂.view.connections - 1
      active := s₂.view.active.erase n
      sessionQueue := s₂.view.sessionQueue ++ [n] } = _
    rw [hv₂, hv₁]
    rfl
  -- the lines before it do not touch the flag
  have hflag' : flag = s.view.acceptingFlag :=
    hflag.symm.trans (congrArg (fun v : View => v.acceptingFlag) hview)
  dsimp only at h
  unfold View.finishClose
  by_cases hf : s.view.acceptingFlag = false
  · rw [if_pos hf, ← hview]
    rw [if_pos (hflag'.trans hf)] at h
    obtain ⟨_, s₇, h₇, h⟩ := Prog.run_bind_eq_done.1 h
    rw [(quiet_unlock _).view_eq h, view_waitAccept h₇]
  · rw [if_neg hf, ← hview]
    rw [if_neg (fun hc => hf (hflag'.symm.trans hc))] at h
    exact (quiet_unlock _).view_eq h

lemma view_forgetLogin {u : Unit} (h : (forgetLogin n).run s = .done u s') :
    s'.view = s.view.forget n := by
  obtain ⟨token, s₁, h₁, h⟩ := Prog.run_bind_eq_done.1 h
  obtain ⟨rfl, rfl⟩ := getSess_eq_done h₁
  obtain ⟨_, s₂, h₂, h⟩ := Prog.run_bind_eq_done.1 h
  have hv₂ : s₂.view = _ := view_delRedisKey h₂
  obtain ⟨user, s₃, h₃, h⟩ := Prog.run_bind_eq_done.1 h
  obtain ⟨huser, rfl⟩ := getSess_eq_done h₃
  have huser' : user = s.view.userId n :=
    huser.trans (congrArg (fun v : View => v.userId n) hv₂)
  obtain ⟨_, s₄, h₄, h⟩ := Prog.run_bind_eq_done.1 h
  obtain ⟨-, rfl⟩ := Out.done.inj h
  rw [view_delIdInUserMap h₄, hv₂, huser']
  rfl

lemma view_closeSession {u : Unit} (h : (closeSession n).run s = .done u s') :
    s'.view = s.view.close n := by
  -- the branches that remove the token and the user id before the common lines
  have hforget : ∀ {t t' : Server} {u : Unit},
      (do forgetLogin n; finishClose n : Handler Unit).run t = .done u t' →
      t'.view = (t.view.forget n).finishClose n := by
    intro t t' u ht
    obtain ⟨_, t₁, h₁, ht⟩ := Prog.run_bind_eq_done.1 ht
    rw [view_finishClose ht, view_forgetLogin h₁]
  obtain ⟨st, s₁, h₁, h⟩ := Prog.run_bind_eq_done.1 h
  obtain ⟨rfl, rfl⟩ := getSess_eq_done h₁
  have hst : s.view.stat n = (s.sess n).stat := rfl
  unfold View.close
  rw [hst]
  cases hs : (s.sess n).stat with
  | wait | matchApply =>
    rw [hs] at h
    obtain ⟨-, rfl⟩ := Out.done.inj h
    rfl
  | conn | logout =>
    rw [hs] at h
    exact view_finishClose h
  | login | matchRequest | matchRecver =>
    rw [hs] at h
    exact hforget h
  | matchConfirm =>
    rw [hs] at h
    obtain ⟨user, s₂, h₂, h⟩ := Prog.run_bind_eq_done.1 h
    obtain ⟨rfl, rfl⟩ := getSess_eq_done h₂
    obtain ⟨_, s₃, h₃, h⟩ := Prog.run_bind_eq_done.1 h
    rw [view_finishClose h, view_delIdInUserMap h₃]
    rfl
  | matchComplete =>
    rw [hs] at h
    obtain ⟨key, s₂, h₂, h⟩ := Prog.run_bind_eq_done.1 h
    obtain ⟨rfl, rfl⟩ := getSess_eq_done h₂
    obtain ⟨_, s₃, h₃, h⟩ := Prog.run_bind_eq_done.1 h
    have hv₃ := view_delRedisKey h₃
    obtain ⟨_, s₄, h₄, h⟩ := Prog.run_bind_eq_done.1 h
    obtain ⟨-, rfl⟩ := Out.done.inj h₄
    have hv₄ : ({ s₃ with roomKeyDel := s₃.roomKeyDel + 1 } : Server).view = s₃.view := rfl
    rw [hforget h, hv₄, hv₃]
    rfl

/-! ### Rooms -/

lemma view_roomKeyLoop {k : ℕ} {key : Str} (h : (roomKeyLoop k).run s = .done key s') :
    ∃ uuid, key = roomKeyOf uuid ∧ s.view.redis (roomKeyOf uuid) = none ∧
      s'.view = s.view.insertKey (roomKeyOf uuid) (lit "0") := by
  induction k generalizing s with
  | zero => cases h
  | succ k ih =>
    obtain ⟨key', s₁, h₁, h⟩ := Prog.run_bind_eq_done.1 h
    have hdraw : ∃ uuid, key' = roomKeyOf uuid ∧ s₁.view = s.view := by
      cases hu : s.answers.uuids with
      | nil => simp [generateRoomKey, Prog.run, hu] at h₁
      | cons uuid rest =>
        simp only [generateRoomKey, Prog.run, hu, Out.done.injEq] at h₁
        obtain ⟨rfl, rfl⟩ := h₁
        exact ⟨uuid, rfl, rfl⟩
    obtain ⟨uuid, rfl, hv₁⟩ := hdraw
    obtain ⟨val, s₂, h₂, h⟩ := Prog.run_bind_eq_done.1 h
    obtain ⟨rfl, rfl⟩ := getRedisKv_eq_done h₂
    have hredis : s₁.redis = s.redis := congrArg (fun v : View => v.redis) hv₁
    cases hval : s₁.redis (roomKeyOf uuid) with
    | none =>
      rw [hval] at h
      obtain ⟨_, s₃, h₃, h⟩ := Prog.run_bind_eq_done.1 h
      obtain ⟨-, rfl⟩ := Out.done.inj h₃
      obtain ⟨rfl, rfl⟩ := Out.done.inj h
      refine ⟨uuid, rfl, ?_, ?_⟩
      · exact (congrFun hredis _).symm.trans hval
      · change s₁.view.insertKey (roomKeyOf uuid) (lit "0") = _
        rw [hv₁]
    | some v =>
      -- the key is taken, and the next one is tried
      rw [hval] at h
      obtain ⟨uuid', hkey, hfresh, hv⟩ := ih h
      rw [hv₁] at hfresh hv
      exact ⟨uuid', hkey, hfresh, hv⟩

lemma quiet_matchInfo (n : SessionId) : Quiet (matchInfo n) :=
  quiet_bind (quiet_getSess _ _) fun _ => quiet_bind (quiet_getSess _ _) fun _ =>
    quiet_bind (quiet_getSess _ _) fun _ => quiet_bind (quiet_getSess _ _) fun _ =>
      quiet_bind (quiet_getSess _ _) fun _ => quiet_pure _

lemma view_sendComplete {key : Str} {opponent : UserInfo} {u : Unit}
    (h : (sendComplete n key opponent).run s = .done u s') :
    s'.view = { s.view with
      stat := Function.update s.view.stat n .matchComplete
      roomKey := Function.update s.view.roomKey n key } := by
  obtain ⟨_, s₁, h₁, h⟩ := Prog.run_bind_eq_done.1 h
  obtain ⟨_, s₂, h₂, h⟩ := Prog.run_bind_eq_done.1 h
  rw [(quiet_sendMessage _ _).view_eq h, view_setRoomKey h₂, view_setStatus h₁]
  rfl

lemma view_makeMatching {a b : SessionId} {u : Unit}
    (h : (makeMatchingAndSendComplete a b).run s = .done u s') :
    ∃ uuid, s.view.redis (roomKeyOf uuid) = none ∧
      s'.view = s.view.matched (roomKeyOf uuid) a b := by
  obtain ⟨key, s₁, h₁, h⟩ := Prog.run_bind_eq_done.1 h
  obtain ⟨len, s₀, h₀, h₁⟩ := Prog.run_bind_eq_done.1 h₁
  obtain ⟨rfl, rfl⟩ := Out.done.inj h₀
  obtain ⟨uuid, rfl, hfresh, hv₁⟩ := view_roomKeyLoop h₁
  obtain ⟨_, s₂, h₂, h⟩ := Prog.run_bind_eq_done.1 h
  obtain ⟨-, rfl⟩ := Out.done.inj h₂
  obtain ⟨info₁, s₃, h₃, h⟩ := Prog.run_bind_eq_done.1 h
  have hv₃ := (quiet_matchInfo _).view_eq h₃
  obtain ⟨info₂, s₄, h₄, h⟩ := Prog.run_bind_eq_done.1 h
  have hv₄ := (quiet_matchInfo _).view_eq h₄
  obtain ⟨_, s₅, h₅, h⟩ := Prog.run_bind_eq_done.1 h
  refine ⟨uuid, hfresh, ?_⟩
  rw [view_sendComplete h, view_sendComplete h₅, hv₄, hv₃]
  change ({ s₁.view with
    log := .matchMade (roomKeyOf uuid) a b :: s₁.view.log
    stat := Function.update (Function.update s₁.view.stat a .matchComplete) b .matchComplete
    roomKey := Function.update (Function.update s₁.view.roomKey a (roomKeyOf uuid)) b
      (roomKeyOf uuid) } : View) = _
  rw [hv₁]
  rfl

/-! ### The matching queues -/

lemma isWaiting_eq_done {b : Bool} (h : (isWaiting n).run s = .done b s') :
    b = s.view.waiting n ∧ s = s' := by
  obtain ⟨isOpen, s₁, h₁, h⟩ := Prog.run_bind_eq_done.1 h
  obtain ⟨rfl, rfl⟩ := getSess_eq_done h₁
  have hw : s.view.waiting n =
      ((s.sess n).isOpen && decide ((s.sess n).stat = .matchRequest)) := rfl
  rw [hw]
  by_cases hopen : (s.sess n).isOpen = true
  · rw [if_pos hopen] at h
    obtain ⟨st, s₂, h₂, h⟩ := Prog.run_bind_eq_done.1 h
    obtain ⟨rfl, rfl⟩ := getSess_eq_done h₂
    obtain ⟨rfl, rfl⟩ := Out.done.inj h
    simp [hopen]
  · rw [if_neg hopen] at h
    obtain ⟨rfl, rfl⟩ := Out.done.inj h
    simp [hopen]

/-- Take the front entry off a queue. -/
lemma view_takeFront {r : QueId} {a c : SessionId} {rest : List SessionId} {u : Unit}
    {s₁ : Server} (hq : s.view.matchingQue r = a :: rest)
    (h₁ : (queFront r).run s = .done c s₁) (h : (quePopFront r).run s₁ = .done u s') :
    c = a ∧ s'.view = s.view.setQue r rest := by
  have hque : s.matchingQue r = a :: rest := hq
  simp only [queFront, Prog.run, hque, Out.done.injEq] at h₁
  obtain ⟨rfl, rfl⟩ := h₁
  simp only [quePopFront, Prog.run, hque, Out.done.injEq] at h
  obtain ⟨-, rfl⟩ := h
  exact ⟨rfl, rfl⟩

lemma setQue_waiting (v : View) (r : QueId) (q : List SessionId) :
    (v.setQue r q).waiting = v.waiting := rfl

lemma setQue_setQue (v : View) (r : QueId) (q q' : List SessionId) :
    (v.setQue r q).setQue r q' = v.setQue r q' := by
  simp only [View.setQue, Function.update_idem]

lemma setQue_same (v : View) (r : QueId) : v.setQue r (v.matchingQue r) = v := by
  simp only [View.setQue, Function.update_eq_self]

/-- The view after the checks of `get_matching_que`, for the pair that they find. -/
def View.selected (v : View) (r : QueId) (q : List SessionId) :
    Option (SessionId × SessionId) → View
  | none => v.setQue r q
  | some (a, b) => (v.setQue r q).note (v.pairMark r a b)

/-- The checks of `get_matching_que` serve the queue. -/
lemma view_selectPlayers {r : QueId} {pair : Option (SessionId × SessionId)}
    (h : (selectPlayers r).run s = .done pair s') :
    pair = (serve s.view.waiting (s.view.matchingQue r)).1 ∧
      s'.view = s.view.selected r (serve s.view.waiting (s.view.matchingQue r)).2 pair := by
  obtain ⟨size, s₁, h₁, h⟩ := Prog.run_bind_eq_done.1 h
  obtain ⟨hsize, rfl⟩ := Out.done.inj h₁
  have hlen : (s.view.matchingQue r).length = size := hsize
  match hq : s.view.matchingQue r with
  | [] | [a] =>
    -- one player is left alone
    have hle : ¬ size > 1 := by simp [← hlen, hq]
    rw [if_neg hle] at h
    obtain ⟨rfl, rfl⟩ := Out.done.inj h
    refine ⟨rfl, ?_⟩
    simp only [View.selected, serve, ← hq, setQue_same]
  | a :: b :: rest =>
    have hgt : size > 1 := by simp [← hlen, hq]
    rw [if_pos hgt] at h
    obtain ⟨player₀, s₂, h₂, h⟩ := Prog.run_bind_eq_done.1 h
    obtain ⟨_, s₃, h₃, h⟩ := Prog.run_bind_eq_done.1 h
    obtain ⟨rfl, hv₃⟩ := view_takeFront hq h₂ h₃
    obtain ⟨w₀, s₄, h₄, h⟩ := Prog.run_bind_eq_done.1 h
    obtain ⟨hw₀, rfl⟩ := isWaiting_eq_done h₄
    rw [hv₃, setQue_waiting] at hw₀
    by_cases hfirst : w₀ = true
    · have hwait₀ : s.view.waiting player₀ = true := hw₀.symm.trans hfirst
      rw [if_pos hfirst] at h
      obtain ⟨player₁, s₅, h₅, h⟩ := Prog.run_bind_eq_done.1 h
      obtain ⟨_, s₆, h₆, h⟩ := Prog.run_bind_eq_done.1 h
      have hq₃ : s₃.view.matchingQue r = b :: rest := by simp [hv₃, View.setQue]
      obtain ⟨rfl, hv₆⟩ := view_takeFront hq₃ h₅ h₆
      rw [hv₃, setQue_setQue] at hv₆
      obtain ⟨w₁, s₇, h₇, h⟩ := Prog.run_bind_eq_done.1 h
      obtain ⟨hw₁, rfl⟩ := isWaiting_eq_done h₇
      rw [hv₆, setQue_waiting] at hw₁
      by_cases hfit : w₁ = false ∨ player₀ = player₁
      · -- the second player is dropped, and the first one goes back to the front
        have hno : ¬ (s.view.waiting player₁ = true ∧ player₀ ≠ player₁) := by
          rintro ⟨hy, hne⟩
          rcases hfit with hf | hf
          · exact absurd (hw₁.symm.trans hf) (by simp [hy])
          · exact hne hf
        rw [if_pos hfit] at h
        obtain ⟨_, s₈, h₈, h⟩ := Prog.run_bind_eq_done.1 h
        obtain ⟨-, rfl⟩ := Out.done.inj h₈
        obtain ⟨rfl, rfl⟩ := Out.done.inj h
        have hserve : serve s.view.waiting (player₀ :: player₁ :: rest) =
            (none, player₀ :: rest) := by
          rw [serve, if_pos hwait₀, if_neg hno]
        rw [hserve]
        refine ⟨rfl, ?_⟩
        change s₆.view.setQue r (player₀ :: s₆.view.matchingQue r) = _
        have hq₆ : s₆.view.matchingQue r = rest := by simp [hv₆, View.setQue]
        rw [hq₆, hv₆, setQue_setQue]
        rfl
      · have hyes : s.view.waiting player₁ = true ∧ player₀ ≠ player₁ := by
          rw [not_or, Bool.not_eq_false] at hfit
          exact ⟨hw₁.symm.trans hfit.1, hfit.2⟩
        rw [if_neg hfit] at h
        obtain ⟨_, s₈, h₈, h⟩ := Prog.run_bind_eq_done.1 h
        obtain ⟨-, rfl⟩ := Out.done.inj h₈
        obtain ⟨rfl, rfl⟩ := Out.done.inj h
        have hserve : serve s.view.waiting (player₀ :: player₁ :: rest) =
            (some (player₀, player₁), rest) := by
          rw [serve, if_pos hwait₀, if_pos hyes]
        rw [hserve]
        refine ⟨rfl, ?_⟩
        change s₆.view.note (s₆.view.pairMark r player₀ player₁) = _
        rw [hv₆]
        rfl
    · -- the first player is dropped, and the second one is not looked at
      have hwait₀ : ¬ s.view.waiting player₀ = true := fun hc => hfirst (hw₀.trans hc)
      rw [if_neg hfirst] at h
      obtain ⟨rfl, rfl⟩ := Out.done.inj h
      have hserve : serve s.view.waiting (player₀ :: b :: rest) = (none, b :: rest) := by
        rw [serve, if_neg hwait₀]
      rw [hserve]
      exact ⟨rfl, hv₃⟩

lemma view_getMatchingQue {r : QueId} {b : Bool} (h : (getMatchingQue r).run s = .done b s') :
    s.view.Served r s'.view b := by
  obtain ⟨pair, s₁, h₁, h⟩ := Prog.run_bind_eq_done.1 h
  obtain ⟨hpair, hv₁⟩ := view_selectPlayers h₁
  match pair, hpair with
  | none, hpair =>
    obtain ⟨rfl, rfl⟩ := Out.done.inj h
    rw [hv₁]
    exact .nobody hpair.symm
  | some (a, b), hpair =>
    obtain ⟨_, s₂, h₂, h⟩ := Prog.run_bind_eq_done.1 h
    obtain ⟨rfl, rfl⟩ := Out.done.inj h
    obtain ⟨uuid, hkey, hv₂⟩ := view_makeMatching h₂
    rw [hv₁] at hkey hv₂
    rw [hv₂]
    exact .pair hpair.symm hkey

lemma view_controlTimerRematch {sec : ℤ} {u : Unit} (hsec : sec > 0)
    (h : (controlTimerRematch n sec true).run s = .done u s') : s'.view = s.view.arm n := by
  unfold controlTimerRematch at h
  rw [if_pos ⟨rfl, hsec⟩] at h
  obtain ⟨_, s₁, h₁, h⟩ := Prog.run_bind_eq_done.1 h
  obtain ⟨-, rfl⟩ := Out.done.inj h₁
  obtain ⟨-, rfl⟩ := Out.done.inj h
  dsimp only
  rw [view_setSess, view_setSess]
  simp only [View.arm, Server.view, Function.update_eq_self, Function.update_idem,
    Server.setSess, Function.update_self]

lemma view_setMatchingQue {rating : Rating} {u : Unit}
    (h : (setMatchingQue n rating).run s = .done u s') :
    ∃ w b, (s.view.enter n rating.que).Served rating.que w b ∧ s'.view = w.armUnless n b := by
  obtain ⟨_, s₁, h₁, h⟩ := Prog.run_bind_eq_done.1 h
  obtain ⟨-, rfl⟩ := Out.done.inj h₁
  obtain ⟨_, s₂, h₂, h⟩ := Prog.run_bind_eq_done.1 h
  have hv₂ := (quiet_lock _).view_eq h₂
  obtain ⟨_, s₃, h₃, h⟩ := Prog.run_bind_eq_done.1 h
  obtain ⟨-, rfl⟩ := Out.done.inj h₃
  obtain ⟨_, s₄, h₄, h⟩ := Prog.run_bind_eq_done.1 h
  have hv₄ : s₄.view = s.view.enter n rating.que := by
    rw [view_setStatus h₄]
    change ({ s₂.view with
      matchingQue := Function.update s₂.view.matchingQue rating.que
        (s₂.view.matchingQue rating.que ++ [n])
      stat := Function.update s₂.view.stat n .matchRequest } : View) = _
    rw [hv₂]
    rfl
  obtain ⟨b, s₅, h₅, h⟩ := Prog.run_bind_eq_done.1 h
  have hserved := view_getMatchingQue h₅
  rw [hv₄] at hserved
  refine ⟨s₅.view, b, hserved, ?_⟩
  unfold View.armUnless
  cases b with
  | true =>
    rw [if_pos rfl] at h
    rw [if_neg (by simp)]
    exact (quiet_unlock _).view_eq h
  | false =>
    rw [if_neg (by simp)] at h
    obtain ⟨timerValue, s₆, h₆, h⟩ := Prog.run_bind_eq_done.1 h
    obtain ⟨htimer, rfl⟩ := Out.done.inj h₆
    have htimer' : s₅.view.cfg.timerValue = timerValue := htimer
    by_cases hpos : timerValue > 0
    · rw [if_pos hpos] at h
      rw [if_pos ⟨rfl, by rw [htimer']; exact hpos⟩]
      obtain ⟨_, s₇, h₇, h⟩ := Prog.run_bind_eq_done.1 h
      rw [(quiet_unlock _).view_eq h, view_controlTimerRematch hpos h₇]
    · rw [if_neg hpos] at h
      rw [if_neg (by rw [htimer']; exact fun hc => hpos hc.2)]
      exact (quiet_unlock _).view_eq h

lemma view_processMatching {u : Unit} (h : (processMatching n).run s = .done u s') :
    ∃ w b, (s.view.enter n (checkRating (s.view.rating n)).que).Served
        (checkRating (s.view.rating n)).que w b ∧ s'.view = w.armUnless n b := by
  obtain ⟨rating, s₁, h₁, h⟩ := Prog.run_bind_eq_done.1 h
  obtain ⟨rfl, rfl⟩ := getSess_eq_done h₁
  exact view_setMatchingQue h

lemma view_rematchingStart {b : Bool} (hst : s.view.stat n = .matchRequest)
    (h : (rematchingStart n).run s = .done b s') :
    ∃ c, (s.view.widen n).Served sharedQue s'.view c := by
  obtain ⟨st, s₁, h₁, h⟩ := Prog.run_bind_eq_done.1 h
  obtain ⟨rfl, rfl⟩ := getSess_eq_done h₁
  rw [if_pos (show (s.sess n).stat = .matchRequest from hst)] at h
  obtain ⟨_, s₂, h₂, h⟩ := Prog.run_bind_eq_done.1 h
  have hv₂ := (quiet_lock _).view_eq h₂
  obtain ⟨_, s₃, h₃, h⟩ := Prog.run_bind_eq_done.1 h
  have hv₃ : s₃.view = s₂.view.note (.widened n) := by
    obtain ⟨-, rfl⟩ := Out.done.inj h₃
    rfl
  obtain ⟨_, s₄, h₄, h⟩ := Prog.run_bind_eq_done.1 h
  have hv₄ : s₄.view = s₃.view.setQue sharedQue (s₃.view.matchingQue sharedQue ++ [n]) := by
    obtain ⟨-, rfl⟩ := Out.done.inj h₄
    rfl
  obtain ⟨c, s₅, h₅, h⟩ := Prog.run_bind_eq_done.1 h
  have hserved := view_getMatchingQue h₅
  obtain ⟨_, s₆, h₆, h⟩ := Prog.run_bind_eq_done.1 h
  obtain ⟨-, rfl⟩ := Out.done.inj h
  refine ⟨c, ?_⟩
  rw [(quiet_unlock _).view_eq h₆]
  rw [hv₄, hv₃, hv₂] at hserved
  exact hserved

lemma view_processMatchConfirm {b : Bool} (h : (processMatchConfirm n).run s = .done b s') :
    (s.view.stat n = .matchComplete ∧ b = true ∧ s'.view = s.view.setStat n .matchConfirm) ∨
      (s.view.stat n ≠ .matchComplete ∧ b = false ∧ s'.view = s.view) := by
  obtain ⟨st, s₁, h₁, h⟩ := Prog.run_bind_eq_done.1 h
  obtain ⟨rfl, rfl⟩ := getSess_eq_done h₁
  by_cases hst : (s.sess n).stat = .matchComplete
  · rw [if_pos hst] at h
    obtain ⟨_, s₂, h₂, h⟩ := Prog.run_bind_eq_done.1 h
    obtain ⟨rfl, rfl⟩ := Out.done.inj h
    exact Or.inl ⟨hst, rfl, view_setStatus h₂⟩
  · rw [if_neg hst] at h
    obtain ⟨rfl, rfl⟩ := Out.done.inj h
    exact Or.inr ⟨hst, rfl, rfl⟩

/-! ### Matches between friends -/

lemma bothHave_eq_done {st st' : Status} {recv r : Option SessionId}
    (h : (bothHave n st recv st').run s = .done r s') :
    s = s' ∧ ∀ m, r = some m ↔ recv = some m ∧ s.view.stat n = st ∧ s.view.stat m = st' := by
  cases recv with
  | none =>
    obtain ⟨rfl, rfl⟩ := Out.done.inj h
    exact ⟨rfl, by simp⟩
  | some k =>
    obtain ⟨x, s₁, h₁, h⟩ := Prog.run_bind_eq_done.1 h
    obtain ⟨rfl, rfl⟩ := getSess_eq_done h₁
    by_cases hst : (s.sess n).stat = st
    · rw [if_pos hst] at h
      obtain ⟨y, s₂, h₂, h⟩ := Prog.run_bind_eq_done.1 h
      obtain ⟨rfl, rfl⟩ := getSess_eq_done h₂
      by_cases hst' : (s.sess k).stat = st'
      · rw [if_pos hst'] at h
        obtain ⟨rfl, rfl⟩ := Out.done.inj h
        refine ⟨rfl, fun m => ⟨?_, fun hm => hm.1⟩⟩
        rintro hm
        obtain rfl := Option.some.inj hm
        exact ⟨rfl, hst, hst'⟩
      · rw [if_neg hst'] at h
        obtain ⟨rfl, rfl⟩ := Out.done.inj h
        refine ⟨rfl, fun m => ⟨by simp, ?_⟩⟩
        rintro ⟨hm, -, hstm⟩
        obtain rfl := Option.some.inj hm
        exact absurd hstm hst'
    · rw [if_neg hst] at h
      obtain ⟨rfl, rfl⟩ := Out.done.inj h
      exact ⟨rfl, fun m => ⟨by simp, fun hm => absurd hm.2.1 hst⟩⟩

/-- A session with another status. -/
def Server.setStat (s : Server) (n : SessionId) (st : Status) : Server :=
  s.setSess n { s.sess n with stat := st }

lemma view_setStat (s : Server) (n : SessionId) (st : Status) :
    (s.setStat n st).view = s.view.setStat n st :=
  view_setStatus rfl

/-- The ways in which a relay ends. -/
inductive RelayEnd (n : SessionId) (message : MatchWithFriendsRelay) (s : Server) : Server → Prop
  | self (hself : s.userIdMap message.targetId = some n) :
      RelayEnd n message s
        ((s.setStat n .login).sent n (.playFriendsRel (message.setType .deny)))
  | refused {answer : Message} (hself : s.userIdMap message.targetId ≠ some n)
      (hno : ∀ m, s.userIdMap message.targetId = some m → ¬ s.view.PassesOn message.type n m)
      (hanswer : answer = .playFriendsRel (message.setType .deny) ∨
        ∃ report, answer = .errorMsg report) :
      RelayEnd n message s (s.sent n answer)
  | accept {m : SessionId} {s' : Server} (htype : message.type = .accept)
      (htarget : s.userIdMap message.targetId = some m) (hne : m ≠ n)
      (hn : s.view.stat n = .matchRecver) (hm : s.view.stat m = .matchApply)
      (hmatch : (makeMatchingAndSendComplete n m).run s = .done () s') : RelayEnd n message s s'
  | apply {m : SessionId} (htype : message.type = .apply)
      (htarget : s.userIdMap message.targetId = some m) (hne : m ≠ n)
      (hn : s.view.stat n = .login) (hm : s.view.stat m = .login) :
      RelayEnd n message s (Server.sent
        { (s.setStat n .matchApply).setStat m .matchRecver with log := .applied n m :: s.log } m
        (.playFriendsRel (message.setTargetId (s.sess n).userId)))
  | deny {m : SessionId} (htype : message.type = .deny)
      (htarget : s.userIdMap message.targetId = some m) (hne : m ≠ n)
      (hn : s.view.stat n = .matchRecver) (hm : s.view.stat m = .matchApply) :
      RelayEnd n message s (((s.setStat n .login).setStat m .login).sent m
        (.playFriendsRel (message.setTargetId (s.sess n).userId)))

/-- The log line of a DENY reads through the pointer, which changes nothing. -/
lemma derefUserId_eq_done {recv : Option SessionId} {id : Str}
    (h : (derefUserId recv).run s = .done id s') : s = s' := by
  cases recv with
  | none => cases h
  | some m =>
    obtain ⟨-, rfl⟩ := Out.done.inj h
    rfl

lemma processMatchingWithFriends_eq_done {message : MatchWithFriendsRelay} {u : Unit}
    (h : (processMatchingWithFriends n message).run s = .done u s') :
    RelayEnd n message s s' := by
  obtain ⟨recv, s₁, h₁, h⟩ := Prog.run_bind_eq_done.1 h
  obtain ⟨rfl, rfl⟩ := findIdInUserMap_eq_done h₁
  by_cases hself : s.userIdMap message.targetId = some n
  · rw [if_pos hself] at h
    obtain ⟨-, rfl⟩ := Out.done.inj h
    exact .self hself
  · rw [if_neg hself] at h
    -- a target found by the guards of the branches is another session
    have hother : ∀ m, s.userIdMap message.targetId = some m → m ≠ n := by
      rintro m hm rfl
      exact hself hm
    -- and one that they do not find has another status
    have hnone : ∀ {st st' : Status}, (∀ m, none = some m ↔ s.userIdMap message.targetId = some m ∧
        s.view.stat n = st ∧ s.view.stat m = st') → ∀ m, s.userIdMap message.targetId = some m →
          ¬ (s.view.stat n = st ∧ s.view.stat m = st') := by
      intro st st' hfound m hm hpass
      cases (hfound m).2 ⟨hm, hpass⟩
    cases htype : message.type with
    | accept =>
      rw [htype] at h
      obtain ⟨found, s₂, h₂, h⟩ := Prog.run_bind_eq_done.1 h
      obtain ⟨rfl, hfound⟩ := bothHave_eq_done h₂
      cases found with
      | none =>
        obtain ⟨-, rfl⟩ := Out.done.inj h
        exact .refused hself (by rw [htype]; exact hnone hfound) (Or.inl rfl)
      | some m =>
        obtain ⟨htarget, hn, hm⟩ := (hfound m).1 rfl
        exact .accept htype htarget (hother m htarget) hn hm h
    | apply =>
      rw [htype] at h
      obtain ⟨found, s₂, h₂, h⟩ := Prog.run_bind_eq_done.1 h
      obtain ⟨rfl, hfound⟩ := bothHave_eq_done h₂
      cases found with
      | none =>
        obtain ⟨-, rfl⟩ := Out.done.inj h
        exact .refused hself (by rw [htype]; exact hnone hfound) (Or.inl rfl)
      | some m =>
        obtain ⟨htarget, hn, hm⟩ := (hfound m).1 rfl
        obtain ⟨-, rfl⟩ := Out.done.inj h
        exact .apply htype htarget (hother m htarget) hn hm
    | deny =>
      rw [htype] at h
      obtain ⟨found, s₂, h₂, h⟩ := Prog.run_bind_eq_done.1 h
      obtain ⟨rfl, hfound⟩ := bothHave_eq_done h₂
      cases found with
      | none =>
        obtain ⟨_, s₃, h₃, h⟩ := Prog.run_bind_eq_done.1 h
        obtain ⟨id, s₄, h₄, h⟩ := Prog.run_bind_eq_done.1 h
        obtain ⟨-, rfl⟩ := Out.done.inj h
        obtain rfl := derefUserId_eq_done h₄
        obtain ⟨-, rfl⟩ := Out.done.inj h₃
        exact .refused hself (by rw [htype]; exact hnone hfound) (Or.inr ⟨_, rfl⟩)
      | some m =>
        obtain ⟨htarget, hn, hm⟩ := (hfound m).1 rfl
        obtain ⟨-, rfl⟩ := Out.done.inj h
        exact .deny htype htarget (hother m htarget) hn hm

lemma RelayEnd.view {message : MatchWithFriendsRelay} (h : RelayEnd n message s s') :
    s.view.Relayed n message s'.view := by
  cases h with
  | self hself =>
    rw [view_sent, view_setStat]
    exact .self hself
  | refused hself hno _ =>
    rw [view_sent]
    exact .refused hself hno
  | accept htype htarget hne hn hm hmatch =>
    obtain ⟨uuid, hkey, hv⟩ := view_makeMatching hmatch
    rw [hv]
    exact .accept htype htarget hne hn hm hkey
  | @apply m htype htarget hne hn hm =>
    rw [view_sent]
    show s.view.Relayed n message
      (((s.setStat n .matchApply).setStat m .matchRecver).view.note (.applied n m))
    rw [view_setStat, view_setStat]
    exact .apply htype htarget hne hn hm
  | deny htype htarget hne hn hm =>
    rw [view_sent, view_setStat, view_setStat]
    exact .deny htype htarget hne hn hm

/-! ### The statements of a login -/

/-- One of the two statements of a login fails, or the user has no row. -/
def LoginFails (s : Server) (answers : Answers) (id : Str) : Prop :=
  answers.queryFails.headD false = true ∨ (∀ row ∈ s.tables.userInfo, row.id ≠ id) ∨
    answers.queryFails.tail.headD false = true

/-- A login that succeeds has found the row of its user, with both statements. -/
lemma LoginEnd.succeeds {token id : Str} {friends : List Str}
    (h : LoginEnd n token id (s.tables.userRow id) friends s true s') :
    ¬ LoginFails s s.answers id := by
  cases h with
  | joined _ hok hok' hrow =>
    obtain ⟨hmem, hid⟩ := mem_of_userRow hrow
    rintro (hfail | hnone | hfail)
    · exact absurd hfail (Bool.eq_false_iff.1 hok)
    · exact hnone _ hmem hid
    · exact absurd hfail (Bool.eq_false_iff.1 hok')

/-- A login request whose statements fail changes at most the token in redis. -/
lemma view_lobbyLoginProcess_fails {message : JoinRequest} {id : Str} {b : Bool}
    (hkv : s.redis message.token = some id) (hid : s.userIdMap id = none)
    (hfails : LoginFails s s.answers id) (h : (lobbyLoginProcess n message).run s = .done b s') :
    s'.view = s.view ∨ s'.view = s.view.eraseKey message.token := by
  cases lobbyLoginProcess_eq_done h with
  | closed _ => exact Or.inl rfl
  | refused _ hnone => exact absurd hid (hnone id hkv)
  | admitted _ hkv' hid' hend =>
    obtain rfl := Option.some.inj (hkv.symm.trans hkv')
    rcases hend.view hid with ⟨-, hv⟩ | ⟨-, hv⟩ | ⟨rfl, -⟩
    · exact Or.inr hv
    · exact Or.inl hv
    · exact absurd hfails hend.succeeds

/-! ### The friend list -/

lemma view_addUserFrinedsList {id target : Str} {b : Bool}
    (h : (addUserFrinedsList id target).run s = .done b s') :
    b = false ∧ s'.view = s.view ∨
      b = true ∧ (id, target) ∉ s.view.friendInfo ∧
        s'.view = s.view.setFriends (s.view.friendInfo ++ [(id, target)]) := by
  obtain ⟨answers, hrun⟩ := addUserFrinedsList_run (serves_of_bind h) id target
  rw [hrun] at h
  split at h
  · rename_i hadd
    obtain ⟨rfl, rfl⟩ := Out.done.inj h
    exact Or.inr ⟨rfl, hadd.1, rfl⟩
  · obtain ⟨rfl, rfl⟩ := Out.done.inj h
    exact Or.inl ⟨rfl, rfl⟩

lemma view_delUserFrinedsList {id target : Str} {b : Bool}
    (h : (delUserFrinedsList id target).run s = .done b s') :
    b = false ∧ s'.view = s.view ∨
      b = true ∧ (id, target) ∈ s.view.friendInfo ∧
        s'.view = s.view.setFriends (s.view.friendInfo.filter (· ≠ (id, target))) := by
  rw [delUserFrinedsList_run (serves_of_bind h)] at h
  split at h
  · rename_i hdel
    obtain ⟨rfl, rfl⟩ := Out.done.inj h
    exact Or.inr ⟨rfl, hdel.1, rfl⟩
  · obtain ⟨rfl, rfl⟩ := Out.done.inj h
    exact Or.inl ⟨rfl, rfl⟩

/-- The view after `add_friends` or `del_friends`, from the view after its statements. -/
lemma view_changeFriends {guard : ℤ → Bool} {change : Str → Str → Handler Bool} {step : ℤ}
    {success failure : FriendsAnsType} {target : Str} {b : Bool}
    (h : (changeFriends guard change step success failure n target).run s = .done b s') :
    s'.view = s.view ∨
      ∃ t t' c, t.view = s.view ∧ (change (s.view.userId n) target).run t = .done c t' ∧
        s'.view = t'.view := by
  have hfail : ∀ {t : Server}, (do
      sendMessage n (.friendsAns failure ⟨⟨0, 0, 0, 0⟩, target⟩ none)
      pure false : Handler Bool).run t = .done b s' → s'.view = t.view := by
    intro t ht
    obtain ⟨_, t', ht', ht⟩ := Prog.run_bind_eq_done.1 ht
    obtain ⟨-, rfl⟩ := Out.done.inj ht
    exact (quiet_sendMessage _ _).view_eq ht'
  obtain ⟨count, s₁, h₁, h⟩ := Prog.run_bind_eq_done.1 h
  obtain ⟨rfl, rfl⟩ := getSess_eq_done h₁
  by_cases hguard : guard (s.sess n).friendsCount = true
  · rw [if_pos hguard] at h
    obtain ⟨user, s₂, h₂, h⟩ := Prog.run_bind_eq_done.1 h
    obtain ⟨rfl, rfl⟩ := getSess_eq_done h₂
    obtain ⟨changed, s₃, h₃, h⟩ := Prog.run_bind_eq_done.1 h
    refine Or.inr ⟨s, s₃, changed, rfl, h₃, ?_⟩
    cases changed with
    | true =>
      obtain ⟨_, s₄, h₄, h⟩ := Prog.run_bind_eq_done.1 h
      obtain ⟨_, s₅, h₅, h⟩ := Prog.run_bind_eq_done.1 h
      obtain ⟨-, rfl⟩ := Out.done.inj h
      rw [(quiet_sendMessage _ _).view_eq h₅, (quiet_setFriendsCount _ _).view_eq h₄]
    | false => exact hfail h
  · rw [if_neg hguard] at h
    exact Or.inl (hfail h)

/-- The view after a friend request. -/
lemma view_processFriendsFunction {message : FriendsRequest} {u : Unit}
    (h : (processFriendsFunction n message).run s = .done u s') :
    s.view.Befriended n message s'.view := by
  unfold processFriendsFunction at h
  cases htype : message.type with
  | add =>
    rw [htype] at h
    obtain ⟨b, s₁, h₁, h⟩ := Prog.run_bind_eq_done.1 h
    obtain ⟨-, rfl⟩ := Out.done.inj h
    rcases view_changeFriends h₁ with hv | ⟨t, t', c, ht, hrun, hv⟩
    · rw [hv]
      exact .same
    · rcases view_addUserFrinedsList hrun with ⟨-, hv'⟩ | ⟨-, hmem, hv'⟩
      · rw [hv, hv', ht]
        exact .same
      · rw [hv, hv', ht]
        rw [ht] at hmem
        exact .add htype hmem
  | del =>
    rw [htype] at h
    obtain ⟨b, s₁, h₁, h⟩ := Prog.run_bind_eq_done.1 h
    obtain ⟨-, rfl⟩ := Out.done.inj h
    rcases view_changeFriends h₁ with hv | ⟨t, t', c, ht, hrun, hv⟩
    · rw [hv]
      exact .same
    · rcases view_delUserFrinedsList hrun with ⟨-, hv'⟩ | ⟨-, hmem, hv'⟩
      · rw [hv, hv', ht]
        exact .same
      · rw [hv, hv', ht]
        rw [ht] at hmem
        exact .del htype hmem
  | search =>
    rw [htype] at h
    obtain ⟨b, s₁, h₁, h⟩ := Prog.run_bind_eq_done.1 h
    obtain ⟨-, rfl⟩ := Out.done.inj h
    rw [(quiet_searchUser _ _).view_eq h₁]
    exact .same

end Handlers

end ChannelServer
