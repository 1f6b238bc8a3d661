/-
The handlers of `friends_manager.cpp`: the map of the users that are online, login,
logout, and the friend list.
-/
import ChannelServer.Handlers.Session
import ChannelServer.Handlers.Db

namespace ChannelServer

open Resumption

/-! ### The map of online users -/

/-- `friends_manager::find_id_in_user_map`; `none` for `nullptr`. -/
def findIdInUserMap (targetId : Str) : Handler (Option SessionId) := do
  lock .userIdMapMtx
  let iter ← Prog.read fun s => s.userIdMap targetId
  unlock .userIdMapMtx
  pure iter

/-- `friends_manager::del_id_in_user_map`. -/
def delIdInUserMap (targetId : Str) : Handler Bool := do
  lock .userIdMapMtx
  let iter ← Prog.read fun s => s.userIdMap targetId
  if iter.isSome then
    Prog.modify fun s => { s with userIdMap := Function.update s.userIdMap targetId none }
  unlock .userIdMapMtx
  pure iter.isSome

/-- `friends_manager::add_id_in_user_map`. -/
def addIdInUserMap (n : SessionId) (requestId : Str) : Handler Bool := do
  lock .userIdMapMtx
  let iter ← Prog.read fun s => s.userIdMap requestId
  if iter.isNone then
    Prog.modify fun s => { s with userIdMap := Function.update s.userIdMap requestId (some n) }
  unlock .userIdMapMtx
  pure iter.isNone

/-! ### Login and logout -/

/-- The condition of `lobby_login_process`: the user id stored under the token, when there
is one and that user is not online. -/
def admittedId (token : Str) : Handler (Option Str) := do
  match ← getRedisKv token with
  | none => pure none
  | some id =>
    match ← findIdInUserMap id with
    | none => pure (some id)
    | some _ => pure none

/-- The branch of `lobby_login_process` for an admitted user. -/
def loginAs (n : SessionId) (token id : Str) (exec : Effect := Stmt.exec) : Handler Bool := do
  match ← getQueryUserInfo id exec with
  | none =>
    let _ ← delRedisKey token
    sendMessage n (.joinAns false (some none) [])
    pure false
  | some row =>
    match ← getUserFriendsList id exec with
    | none =>
      sendMessage n (.joinAns false (some none) [])
      pure false
    | some friendsList =>
      let totalGames := row.totalGames.toInt
      setFriendsCount n friendsList.length
      setUserInfo n row.rating.toInt totalGames row.win.toInt row.lose.toInt id
      setToken n token
      let _ ← addIdInUserMap n (← getUserId n)
      setStatus n .login
      mark fun _ => .joined n id
      sendMessage n
        (.joinAns true
          (some (some ⟨row.rating.toInt, totalGames, row.win.toInt, row.lose.toInt⟩)) friendsList)
      pure true

/-- `friends_manager::lobby_login_process`. -/
def lobbyLoginProcess (n : SessionId) (message : JoinRequest) (exec : Effect := Stmt.exec) :
    Handler Bool := do
  if ← socketIsOpen n then
    match ← admittedId message.token with
    | some id => loginAs n message.token id exec
    | none =>
      setStatus n .logout
      sendMessage n (.joinAns false none [])
      pure false
  else pure false

/-- `friends_manager::del_redis_token`. -/
def delRedisToken (token : Str) : Handler Bool := delRedisKey token

/-- `friends_manager::lobby_logout_process`. -/
def lobbyLogoutProcess (n : SessionId) : Handler Bool := do
  match ← getRedisKv (← getToken n) with
  | some _ =>
    let _ ← delRedisKey (← getToken n)
    let _ ← delIdInUserMap (← getUserId n)
    setStatus n .logout
    mark fun _ => .loggedOut n
    sendMessage n .logoutAns
    pure true
  | none => pure false

/-! ### The friend list -/

/-- The response of `friends_manager::search_user`. -/
def searchResponse (targetId : Str) (exec : Effect := Stmt.exec) : Handler Message := do
  match ← findIdInUserMap targetId with
  | none =>
    match ← getQueryUserInfo targetId exec with
    | some row =>
      pure (.friendsAns .searchSuccess
        ⟨⟨row.rating.toInt, row.totalGames.toInt, row.win.toInt, row.lose.toInt⟩, targetId⟩
        (some false))
    | none => pure (.friendsAns .searchFail ⟨⟨0, 0, 0, 0⟩, targetId⟩ none)
  | some target =>
    let totalGames ← getSess target (·.battleHistory)
    let lose ← getSess target (·.lose)
    let win ← getSess target (·.win)
    let rating ← getSess target (·.ratingScore)
    let id ← getUserId target
    pure (.friendsAns .searchSuccess ⟨⟨rating, totalGames, win, lose⟩, id⟩ (some true))

/-- `friends_manager::search_user`. -/
def searchUser (n : SessionId) (targetId : Str) (exec : Effect := Stmt.exec) :
    Handler Bool := do
  sendMessage n (← searchResponse targetId exec)
  pure true

/-- The body that `add_friends` and `del_friends` share: `change` is attempted when `guard`
holds of the cached number of friends, and `step` is added to that number on success. -/
def changeFriends (guard : ℤ → Bool) (change : Str → Str → Handler Bool) (step : ℤ)
    (success failure : FriendsAnsType) (n : SessionId) (targetId : Str) : Handler Bool := do
  let info : UserInfo := ⟨⟨0, 0, 0, 0⟩, targetId⟩
  let friendsCount ← getFriendsCount n
  if guard friendsCount then
    if ← change (← getUserId n) targetId then
      setFriendsCount n (friendsCount + step)
      sendMessage n (.friendsAns success info none)
      pure true
    else
      sendMessage n (.friendsAns failure info none)
      pure false
  else
    sendMessage n (.friendsAns failure info none)
    pure false

/-- `friends_manager::add_friends`. -/
def addFriends (n : SessionId) (targetId : Str) (exec : Effect := Stmt.exec) : Handler Bool :=
  changeFriends (· < 20) (addUserFrinedsList · · exec) 1 .addSuccess .addFail n targetId

/-- `friends_manager::del_friends`. -/
def delFriends (n : SessionId) (targetId : Str) (exec : Effect := Stmt.exec) : Handler Bool :=
  changeFriends (· > 0) (delUserFrinedsList · · exec) (-1) .delSuccess .delFail n targetId

/-- `friends_manager::process_friends_function`. -/
def processFriendsFunction (n : SessionId) (message : FriendsRequest)
    (exec : Effect := Stmt.exec) : Handler Unit := do
  match message.type with
  | .add => let _ ← addFriends n message.targetId exec
  | .del => let _ ← delFriends n message.targetId exec
  | .search => let _ ← searchUser n message.targetId exec

end ChannelServer
