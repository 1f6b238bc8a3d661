/-
The handlers of `db_connector.cpp`.

The pool of connections is `connectionQue`, the indices that are free, together with
`connectionPool`, the connections that were opened at the start.  Whether a statement
fails is an answer of the outside; a statement that fails changes nothing.  What one that succeeds
does is a parameter of the functions, by default `Stmt.exec`, the effect that is meant.
-/
import ChannelServer.State

namespace ChannelServer

open Resumption

/-! ### The pool of connections -/

/-- `connection_pool` and `connection_que` while they are filled. -/
structure FillingPool where
  connectionPool : List ℕ
  connectionQue : List ℕ
deriving DecidableEq, Repr

/-- One round of the loop of `db_connector::init`; a connection is named by the index that it was
opened for, and `opened` tells whether `mysql_real_connect` returns it. -/
def connectRound (opened : ℕ → Bool) (p : FillingPool) (i : ℕ) : FillingPool :=
  if opened i then ⟨p.connectionPool ++ [i], p.connectionQue ++ [i]⟩ else p

/-- `db_connector::init`. -/
def dbConnectorInit (poolSize : ℕ) (opened : ℕ → Bool) : FillingPool :=
  (List.range poolSize).foldl (connectRound opened) ⟨[], []⟩

/-- Each round keeps the two containers equal to the indices that could be opened so far. -/
lemma dbConnectorInit_eq (poolSize : ℕ) (opened : ℕ → Bool) :
    dbConnectorInit poolSize opened =
      ⟨(List.range poolSize).filter opened, (List.range poolSize).filter opened⟩ := by
  induction poolSize with
  | zero => rfl
  | succ k ih =>
    unfold dbConnectorInit at ih ⊢
    rw [List.range_succ, List.foldl_append, ih, List.filter_append]
    cases hk : opened k with
    | true => simp [connectRound, hk]
    | false => simp [connectRound, hk]

/-! ### Statements -/

/-- `mysql_query`, together with `mysql_store_result`, which has a result set for a SELECT that
succeeds, and `mysql_affected_rows`; `none` for a non-zero return value. -/
def mysqlQuery (query : Stmt) (exec : Effect := Stmt.exec) : Handler (Option QueryResult) :=
  .atomic fun s =>
    let t := { s with answers := { s.answers with queryFails := s.answers.queryFails.tail } }
    if s.answers.queryFails.headD false then (none, t)
    else (some (exec s.tables query).1, { t with tables := (exec s.tables query).2 })

/-- `db_connector::get_connection`; `none` for `nullptr`. -/
def getConnection : Handler (Option ℕ) := do
  lock .connectionMtx
  match ← .read (·.connectionQue) with
  | [] =>
    unlock .connectionMtx
    pure none
  | index :: rest =>
    Prog.modify fun s => { s with connectionQue := rest }
    unlock .connectionMtx
    if index < (← .read (·.connectionPool)).length then pure (some index)
    else .fail .outOfRange

/-- `db_connector::release_connection`. -/
def releaseConnection (index : ℕ) : Handler Unit := do
  lock .connectionMtx
  Prog.modify fun s => { s with connectionQue := s.connectionQue ++ [index] }
  unlock .connectionMtx

/-- The loop `while ((mysql_connection = get_connection(index)) == nullptr);`, repeated at
most `k` times. -/
def borrowConnection : ℕ → Handler ℕ
  | 0 => .fail .spin
  | k + 1 => do
    match ← getConnection with
    | some index => pure index
    | none => borrowConnection k

/-- The loop that every database function starts with. -/
def acquireConnection : Handler ℕ := do
  borrowConnection (← .read (·.answers.patience))

/-- `db_connector::get_query_user_info`; the last row of the result set is the one whose
values remain. -/
def getQueryUserInfo (requestId : Str) (exec : Effect := Stmt.exec) :
    Handler (Option UserRow) := do
  let index ← acquireConnection
  match ← mysqlQuery (.selectUserInfo requestId) exec with
  | none =>
    releaseConnection index
    pure none
  | some result =>
    releaseConnection index
    pure result.userRows.getLast?

/-- `db_connector::get_user_friends_list`. -/
def getUserFriendsList (requestId : Str) (exec : Effect := Stmt.exec) :
    Handler (Option (List Str)) := do
  let index ← acquireConnection
  match ← mysqlQuery (.selectFriends requestId) exec with
  | none =>
    releaseConnection index
    pure none
  | some result =>
    releaseConnection index
    pure (some (result.friendRows.map (·.2)))

/-- `db_connector::check_repetition`: true when the row is known to be absent. -/
def checkRepetition (requestId targetId : Str) (exec : Effect := Stmt.exec) : Handler Bool := do
  match ← mysqlQuery (.selectFriend requestId targetId) exec with
  | none => pure false
  | some result => pure result.friendRows.isEmpty

/-- `db_connector::add_user_frineds_list`. -/
def addUserFrinedsList (requestId targetId : Str) (exec : Effect := Stmt.exec) :
    Handler Bool := do
  let index ← acquireConnection
  if ← checkRepetition requestId targetId exec then
    let queryState ← mysqlQuery (.insertFriend requestId targetId) exec
    releaseConnection index
    pure queryState.isSome
  else
    releaseConnection index
    pure false

/-- `db_connector::del_user_frineds_list`. -/
def delUserFrinedsList (requestId targetId : Str) (exec : Effect := Stmt.exec) :
    Handler Bool := do
  let index ← acquireConnection
  let queryState ← mysqlQuery (.deleteFriend requestId targetId) exec
  releaseConnection index
  match queryState with
  | none => pure false
  | some result => pure (result.affected ≠ 0)

end ChannelServer
