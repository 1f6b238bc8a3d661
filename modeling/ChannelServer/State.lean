/-
The state of the server and the atomic actions on it.

`Server` gathers the data members of the five classes of the source (`tcp_server`,
`session`, `friends_manager`, `match_manager`, `db_connector`), the two stores outside the
process (redis and the database tables), and the asynchronous operations that the server
has started and whose completion handlers have not run yet.

A handler is a program (`ChannelServer/Lib/Resumption.lean`) over this state.  Its atomic
actions are the ones below: a lock or an unlock of one mutex, one read or write of a
member, one operation on a deque, one call of redis, one statement of the database, one
start of an asynchronous operation.

Four members have no counterpart in the source and only serve statements about whole runs:
`active`, `log`, and the histories kept in a `SendQueue` and in a `Wait`.
-/
import Mathlib.Logic.Function.Basic
import ChannelServer.Lib.Resumption
import ChannelServer.Protocol

namespace ChannelServer

open Resumption

/-! ### The members of a session -/

/-- A buffer returned by `incode_message`: its address and the message encoded in it. -/
structure Buffer where
  addr : ℕ
  message : Message
deriving DecidableEq, Repr

/-- The `size` of the packet header at the front of a buffer. -/
def Buffer.size (b : Buffer) : ℕ := b.message.byteSize

/-- An `async_write` whose completion handler has not run yet. -/
structure Write where
  buffer : Buffer
  length : ℕ
deriving DecidableEq, Repr

/-- The sending half of a session: `send_data_queue_`, the outstanding writes, and the
addresses of the buffers enqueued, started and freed so far, in this order. -/
structure SendQueue where
  queue : List Buffer
  writes : List Write
  enqueued : List ℕ
  started : List ℕ
  freed : List ℕ
deriving DecidableEq, Repr

/-- A pending wait on `match_timer_`; `armed` is the length of the log when it was started. -/
structure Wait where
  cancelled : Bool
  armed : ℕ
deriving DecidableEq, Repr

/-- The members of the class `user`. -/
structure User where
  ratingScore : ℤ
  battleHistory : ℤ
  win : ℤ
  lose : ℤ
  friendsCount : ℤ
  userId : Str
deriving DecidableEq, Repr

/-- The members of the class `session` that the handlers of this model use; `isOpen` is
`socket_.is_open()`. -/
structure Session extends User where
  token : Str
  roomKey : Str
  stat : Status
  isOpen : Bool
  waits : List Wait
  send : SendQueue
deriving DecidableEq, Repr

/-! ### The database -/

/-- A row of the table `user_info`; the numbers are the values that `atoi` has for its
columns. -/
structure UserRow where
  id : Str
  win : Int32
  lose : Int32
  rating : Int32
deriving DecidableEq, Repr

/-- `total_games`, the sum of the two numbers in the type `int`. -/
def UserRow.totalGames (row : UserRow) : Int32 := row.win + row.lose

/-- The number of games is the sum of the wins and the losses unless it overflows. -/
lemma UserRow.totalGames_eq_iff (row : UserRow) :
    row.totalGames.toInt = row.win.toInt + row.lose.toInt ↔
      IsInt32 (row.win.toInt + row.lose.toInt) := by
  constructor
  · intro h
    rw [← h]
    exact ⟨row.totalGames.le_toInt, row.totalGames.toInt_lt⟩
  · rintro ⟨hlo, hhi⟩
    rw [totalGames, Int32.toInt_add]
    exact Int.bmod_eq_of_le (by omega) (by omega)

/-- The two tables; a row of `friend_info` is the pair of `id_1` and `id_2`. -/
structure Tables where
  userInfo : List UserRow
  friendInfo : List (Str × Str)
deriving DecidableEq, Repr

/-- The five statements that `db_connector` builds, each with the ids it is built from. -/
inductive Stmt
  | selectUserInfo (id : Str)
  | selectFriends (id₁ : Str)
  | selectFriend (id₁ id₂ : Str)
  | insertFriend (id₁ id₂ : Str)
  | deleteFriend (id₁ id₂ : Str)
deriving DecidableEq, Repr

/-- The result of a statement that succeeded: the rows of its result set and
`mysql_affected_rows`. -/
structure QueryResult where
  userRows : List UserRow
  friendRows : List (Str × Str)
  affected : ℕ
deriving DecidableEq, Repr

/-- The effect of a statement that succeeds. -/
def Stmt.exec (t : Tables) : Stmt → QueryResult × Tables
  | selectUserInfo id => (⟨t.userInfo.filter (·.id = id), [], 0⟩, t)
  | selectFriends id₁ => (⟨[], t.friendInfo.filter (·.1 = id₁), 0⟩, t)
  | selectFriend id₁ id₂ => (⟨[], t.friendInfo.filter (· = (id₁, id₂)), 0⟩, t)
  | insertFriend id₁ id₂ => (⟨[], [], 1⟩, { t with friendInfo := t.friendInfo ++ [(id₁, id₂)] })
  | deleteFriend id₁ id₂ =>
      (⟨[], [], (t.friendInfo.filter (· = (id₁, id₂))).length⟩,
        { t with friendInfo := t.friendInfo.filter (· ≠ (id₁, id₂)) })

/-- What a database does with a statement that succeeds. -/
abbrev Effect := Tables → Stmt → QueryResult × Tables

/-! ### The server -/

/-- The settings read from `config.json`, and whether a thread that owns
`session_queue_mtx` may lock it again (`boost::mutex` does not allow it). -/
structure Config where
  maxSessionCount : ℤ
  maxThread : ℤ
  timerValue : ℤ
  reentrant : Bool
deriving DecidableEq, Repr

/-- The mutexes of the server. -/
inductive Mutex
  | sessionQueueMtx
  | userIdMapMtx
  | rankQueMtx (r : QueId)
  | connectionMtx
deriving DecidableEq, Repr

/-- Sixteen random bytes, as `random_generator` draws them. -/
abbrev Uuid := List UInt8

/-- What the outside answers to the handler that runs: the random numbers it draws, which
of its statements fail, and how often it repeats an attempt to borrow a connection. -/
structure Answers where
  uuids : List Uuid
  queryFails : List Bool
  patience : ℕ
deriving DecidableEq, Repr

/-- An `async_read_some` whose completion handler has not run yet; `live` tells whether the
socket was open when the read was started. -/
structure Read where
  session : SessionId
  live : Bool
deriving DecidableEq, Repr

/-- The entries of the log: what a run has done so far. -/
inductive Mark
  | asyncAccept (n : SessionId) (wasOpen : Bool)
  | accepted (n : SessionId)
  | joined (n : SessionId) (userId : Str)
  | loggedOut (n : SessionId)
  | setMatchingQue (n : SessionId) (r : QueId)
  | widened (n : SessionId)
  | rankMatch (r : QueId) (a b : SessionId) (statA statB : Status) (openA openB : Bool)
  | applied (n m : SessionId)
  | matchMade (key : Str) (a b : SessionId)
deriving DecidableEq, Repr

/-- Ways in which a handler does not return: it dereferences a null session, it reads past
the end of a vector, it takes the front of an empty deque, it repeats a loop for ever, or it prints
past the end of a buffer.  The handlers of the model do not fail in the last way: the texts that
they print are those of `Stmt.query`. -/
inductive Fault
  | nullDeref
  | outOfRange
  | emptyDeque
  | spin
  | overflow
deriving DecidableEq, Repr

/-- The state of the server. -/
structure Server where
  cfg : Config
  /-- `session_list_` -/
  sess : SessionId → Session
  /-- `accepting_flag_` -/
  acceptingFlag : Bool
  /-- `session_queue_` -/
  sessionQueue : List SessionId
  /-- `connections` -/
  connections : ℤ
  /-- `room_key_del` -/
  roomKeyDel : ℤ
  /-- `user_id_map_` -/
  userIdMap : Str → Option SessionId
  /-- `matching_que` -/
  matchingQue : QueId → List SessionId
  /-- How often each mutex is locked. -/
  mtx : Mutex → ℕ
  /-- `connection_que` -/
  connectionQue : List ℕ
  /-- `connection_pool`, each connection named by the index it was opened for. -/
  connectionPool : List ℕ
  redis : Str → Option Str
  tables : Tables
  answers : Answers
  /-- The calls of `wait_accept` that `tcp_server::start` has still to make. -/
  starting : ℕ
  /-- The sessions with an outstanding `async_accept`. -/
  accepts : List SessionId
  reads : List Read
  /-- The session whose packet loop runs, with the packets still to be dispatched. -/
  current : Option (SessionId × List Packet)
  /-- The next free address for a message buffer. -/
  heap : ℕ
  /-- The sessions that were accepted and not yet closed. -/
  active : List SessionId
  /-- What happened so far, the latest first. -/
  log : List Mark

/-- Replace one session. -/
def Server.setSess (s : Server) (n : SessionId) (x : Session) : Server :=
  { s with sess := Function.update s.sess n x }

/-- A handler, or a part of one. -/
abbrev Handler (α : Type) := Prog Server Fault α

/-! ### Mutexes and the log -/

/-- `lock()`: possible when the mutex is free. -/
def lock (m : Mutex) : Handler Unit :=
  .act (fun s =>
    if s.mtx m = 0 ∨ (s.cfg.reentrant ∧ m = .sessionQueueMtx) then
      .ok () { s with mtx := Function.update s.mtx m (s.mtx m + 1) }
    else .wait) .ret

/-- `unlock()`. -/
def unlock (m : Mutex) : Handler Unit :=
  .modify fun s => { s with mtx := Function.update s.mtx m (s.mtx m - 1) }

/-- Record what the handler does. -/
def mark (m : Server → Mark) : Handler Unit :=
  .modify fun s => { s with log := m s :: s.log }

/-! ### The members of one session -/

/-- The getters of a session. -/
def getSess {β : Type} (n : SessionId) (f : Session → β) : Handler β := .read fun s => f (s.sess n)

/-- The setters of a session. -/
def modifySess (n : SessionId) (f : Session → Session) : Handler Unit :=
  .modify fun s => s.setSess n (f (s.sess n))

def getStatus (n : SessionId) : Handler Status := getSess n (·.stat)

def setStatus (n : SessionId) (st : Status) : Handler Unit := modifySess n ({ · with stat := st })

/-- `get_socket().is_open()`. -/
def socketIsOpen (n : SessionId) : Handler Bool := getSess n (·.isOpen)

/-- `get_socket().close()`. -/
def socketClose (n : SessionId) : Handler Unit := modifySess n ({ · with isOpen := false })

def getUserId (n : SessionId) : Handler Str := getSess n (·.userId)

def getToken (n : SessionId) : Handler Str := getSess n (·.token)

def setToken (n : SessionId) (token : Str) : Handler Unit :=
  modifySess n ({ · with token := token })

def getRoomKey (n : SessionId) : Handler Str := getSess n (·.roomKey)

def setRoomKey (n : SessionId) (key : Str) : Handler Unit :=
  modifySess n ({ · with roomKey := key })

def getFriendsCount (n : SessionId) : Handler ℤ := getSess n (·.friendsCount)

def setFriendsCount (n : SessionId) (count : ℤ) : Handler Unit :=
  modifySess n ({ · with friendsCount := count })

def setUserInfo (n : SessionId) (rating battleHistory win lose : ℤ) (userId : Str) : Handler Unit :=
  modifySess n fun x =>
    { x with
      ratingScore := rating
      battleHistory := battleHistory
      win := win
      lose := lose
      userId := userId }

/-! ### redis -/

def getRedisKv (key : Str) : Handler (Option Str) := .read (·.redis key)

def setReidsKv (key val : Str) : Handler Unit :=
  .modify fun s => { s with redis := Function.update s.redis key (some val) }

def delRedisKey (key : Str) : Handler Bool :=
  .atomic fun s => ((s.redis key).isSome, { s with redis := Function.update s.redis key none })

/-! ### The deques of sessions -/

def quePushBack (r : QueId) (n : SessionId) : Handler Unit :=
  .modify fun s =>
    { s with matchingQue := Function.update s.matchingQue r (s.matchingQue r ++ [n]) }

def quePushFront (r : QueId) (n : SessionId) : Handler Unit :=
  .modify fun s => { s with matchingQue := Function.update s.matchingQue r (n :: s.matchingQue r) }

def queSize (r : QueId) : Handler ℕ := .read fun s => (s.matchingQue r).length

/-- `front()`, undefined for an empty deque. -/
def queFront (r : QueId) : Handler SessionId :=
  .act (fun s =>
    match s.matchingQue r with
    | [] => .fail .emptyDeque
    | n :: _ => .ok n s) .ret

/-- `pop_front()`, undefined for an empty deque. -/
def quePopFront (r : QueId) : Handler Unit :=
  .act (fun s =>
    match s.matchingQue r with
    | [] => .fail .emptyDeque
    | _ :: rest => .ok () { s with matchingQue := Function.update s.matchingQue r rest }) .ret

end ChannelServer
