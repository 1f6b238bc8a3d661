/-
The handlers of `match_manager.cpp`: the rating queues, the shared queue that the rematch
timers fill, matches between friends, and the creation of a room for two players.
-/
import ChannelServer.Handlers.Friends

namespace ChannelServer

open Resumption

/-! ### Rooms -/

/-- A digit printed by `%x`. -/
def hexDigit (n : ℕ) : UInt8 := UInt8.ofNat (if n < 10 then 48 + n else 87 + n)

/-- A byte printed by `%02x`. -/
def hexByte (b : UInt8) : Str := [hexDigit (b.toNat / 16), hexDigit (b.toNat % 16)]

/-- The room key printed for a random number. -/
def roomKeyOf (randomUuid : Uuid) : Str := lit "Room:" ++ randomUuid.flatMap hexByte

/-- `match_manager::generate_room_key`, with the next random number of the outside. -/
def generateRoomKey : Handler Str :=
  .act (fun s =>
    match s.answers.uuids with
    | [] => .fail .spin
    | u :: rest => .ok (roomKeyOf u) { s with answers := { s.answers with uuids := rest } }) .ret

/-- The loop of `make_matching_and_send_complete`, repeated at most `k` times: draw keys
until one is not in redis, and store that one. -/
def roomKeyLoop : ℕ → Handler Str
  | 0 => .fail .spin
  | k + 1 => do
    let redisRoomKey ← generateRoomKey
    match ← getRedisKv redisRoomKey with
    | none =>
      setReidsKv redisRoomKey (lit "0")
      pure redisRoomKey
    | some _ => roomKeyLoop k

/-- The loop of `make_matching_and_send_complete`, for as many random numbers as there are. -/
def chooseRoomKey : Handler Str := do
  roomKeyLoop (← Prog.read fun s => s.answers.uuids.length)

/-- The description of a player that is sent to the opponent. -/
def matchInfo (n : SessionId) : Handler UserInfo := do
  let totalGames ← getSess n (·.battleHistory)
  let lose ← getSess n (·.lose)
  let win ← getSess n (·.win)
  let rating ← getSess n (·.ratingScore)
  let id ← getUserId n
  pure ⟨⟨rating, totalGames, win, lose⟩, id⟩

/-- One round of the last loop of `make_matching_and_send_complete`. -/
def sendComplete (n : SessionId) (redisRoomKey : Str) (opponent : UserInfo) : Handler Unit := do
  setStatus n .matchComplete
  setRoomKey n redisRoomKey
  sendMessage n (.matchComplete redisRoomKey opponent)

/-- `match_manager::make_matching_and_send_complete`. -/
def makeMatchingAndSendComplete (player₁ player₂ : SessionId) : Handler Unit := do
  let redisRoomKey ← chooseRoomKey
  mark fun _ => .matchMade redisRoomKey player₁ player₂
  let info₁ ← matchInfo player₁
  let info₂ ← matchInfo player₂
  sendComplete player₁ redisRoomKey info₂
  sendComplete player₂ redisRoomKey info₁

/-! ### The matching queues -/

/-- `match_manager::check_rating`. -/
def checkRating (rating : ℤ) : Rating :=
  if rating < 300 then .bronze
  else if rating < 400 then .silver
  else if rating < 500 then .gold
  else if rating < 600 then .platinum
  else if rating < 700 then .diamond
  else if rating < 900 then .master
  else .challenger

/-- The test of a queue entry: an open socket and the status `MATCH_REQUEST`. -/
def isWaiting (n : SessionId) : Handler Bool := do
  if ← socketIsOpen n then
    let st ← getStatus n
    pure (decide (st = .matchRequest))
  else pure false

/-- The part of `get_matching_que` before the call of `make_matching_and_send_complete`:
take two entries off the queue and check them. -/
def selectPlayers (r : QueId) : Handler (Option (SessionId × SessionId)) := do
  if (← queSize r) > 1 then
    let player₀ ← queFront r
    quePopFront r
    if ← isWaiting player₀ then
      let player₁ ← queFront r
      quePopFront r
      let waiting ← isWaiting player₁
      if waiting = false ∨ player₀ = player₁ then
        quePushFront r player₀
        pure none
      else
        mark fun s => .rankMatch r player₀ player₁ (s.sess player₀).stat (s.sess player₁).stat
          (s.sess player₀).isOpen (s.sess player₁).isOpen
        pure (some (player₀, player₁))
    else pure none
  else pure none

/-- `match_manager::get_matching_que`. -/
def getMatchingQue (r : QueId) : Handler Bool := do
  match ← selectPlayers r with
  | some (player₀, player₁) =>
    makeMatchingAndSendComplete player₀ player₁
    pure true
  | none => pure false

/-- `match_manager::set_matching_que`. -/
def setMatchingQue (n : SessionId) (requestRating : Rating) : Handler Unit := do
  let r := requestRating.que
  mark fun _ => .setMatchingQue n r
  lock (.rankQueMtx r)
  quePushBack r n
  setStatus n .matchRequest
  if ← getMatchingQue r then
    pure ()
  else
    let timerValue ← Prog.read fun s => s.cfg.timerValue
    if timerValue > 0 then controlTimerRematch n timerValue true
  unlock (.rankQueMtx r)

/-- `match_manager::rematching_start`. -/
def rematchingStart (n : SessionId) : Handler Bool := do
  if (← getStatus n) = .matchRequest then
    lock (.rankQueMtx sharedQue)
    mark fun _ => .widened n
    quePushBack sharedQue n
    let _ ← getMatchingQue sharedQue
    unlock (.rankQueMtx sharedQue)
    pure true
  else pure true

/-- `match_manager::process_matching`. -/
def processMatching (n : SessionId) : Handler Unit := do
  let rating ← getSess n (·.ratingScore)
  setMatchingQue n (checkRating rating)

/-- `match_manager::process_match_confirm`. -/
def processMatchConfirm (n : SessionId) : Handler Bool := do
  if (← getStatus n) = .matchComplete then
    setStatus n .matchConfirm
    pure true
  else pure false

/-! ### Matches between friends -/

/-- The guard of the three relay branches: the target is online, and the two sessions have
the given statuses. -/
def bothHave (n : SessionId) (st : Status) (recvSession : Option SessionId) (st' : Status) :
    Handler (Option SessionId) := do
  match recvSession with
  | none => pure none
  | some m =>
    if (← getStatus n) = st then
      if (← getStatus m) = st' then pure (some m) else pure none
    else pure none

/-- The member call `recv_session->get_user_id()` on a pointer that may be null. -/
def derefUserId (recvSession : Option SessionId) : Handler Str :=
  match recvSession with
  | none => .fail .nullDeref
  | some m => getUserId m

/-- `match_manager::process_matching_with_friends`. -/
def processMatchingWithFriends (n : SessionId) (relayMessage : MatchWithFriendsRelay) :
    Handler Unit := do
  let recvSession ← findIdInUserMap relayMessage.targetId
  if recvSession = some n then
    setStatus n .login
    sendMessage n (.playFriendsRel (relayMessage.setType .deny))
  else
    match relayMessage.type with
    | .accept =>
      match ← bothHave n .matchRecver recvSession .matchApply with
      | some m => makeMatchingAndSendComplete n m
      | none => sendMessage n (.playFriendsRel (relayMessage.setType .deny))
    | .apply =>
      match ← bothHave n .login recvSession .login with
      | some m =>
        let relayMessage := relayMessage.setTargetId (← getUserId n)
        setStatus n .matchApply
        setStatus m .matchRecver
        mark fun _ => .applied n m
        sendMessage m (.playFriendsRel relayMessage)
      | none => sendMessage n (.playFriendsRel (relayMessage.setType .deny))
    | .deny =>
      match ← bothHave n .matchRecver recvSession .matchApply with
      | some m =>
        let relayMessage := relayMessage.setTargetId (← getUserId n)
        setStatus n .login
        setStatus m .login
        sendMessage m (.playFriendsRel relayMessage)
      | none =>
        sendMessage n (.errorMsg ⟨lit "Not Found or You do not have permission", []⟩)
        -- the log line of this branch reads the user id of the target
        let _ ← derefUserId recvSession

end ChannelServer
