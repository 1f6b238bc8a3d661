/-
The handlers of `channel_server.cpp`: accepting connections, closing sessions, and the
dispatch of packets; and the two handlers of `server_session.cpp` that call into them.
-/
import ChannelServer.Handlers.Match

namespace ChannelServer

open Resumption

/-- `acceptor_.async_accept`. -/
def asyncAccept (n : SessionId) : Handler Unit := do
  mark fun s => .asyncAccept n (s.sess n).isOpen
  Prog.modify fun s => { s with accepts := s.accepts ++ [n] }

def setAcceptingFlag (b : Bool) : Handler Unit := .modify fun s => { s with acceptingFlag := b }

/-- `tcp_server::wait_accept`. -/
def waitAccept : Handler Bool := do
  lock .sessionQueueMtx
  match ← Prog.read fun s => s.sessionQueue with
  | [] =>
    setAcceptingFlag false
    unlock .sessionQueueMtx
    pure false
  | n :: rest =>
    setAcceptingFlag true
    Prog.modify fun s => { s with sessionQueue := rest }
    unlock .sessionQueueMtx
    asyncAccept n
    pure true

/-- `++connections`; the connection counts as active from here on. -/
def connectionOpened (n : SessionId) : Handler Unit :=
  .modify fun s => { s with connections := s.connections + 1, active := s.active ++ [n] }

/-- `--connections`; the connection no longer counts as active. -/
def connectionClosed (n : SessionId) : Handler Unit :=
  .modify fun s => { s with connections := s.connections - 1, active := s.active.erase n }

/-- `tcp_server::handle_accept`. -/
def handleAccept (n : SessionId) (error : Bool) : Handler Unit := do
  if error then pure ()
  else
    mark fun _ => .accepted n
    sessionInit n
    waitReceive n
    setStatus n .conn
    connectionOpened n
    let _ ← waitAccept

/-- The lines of `close_session` after the cases of the status. -/
def finishClose (n : SessionId) : Handler Unit := do
  setStatus n .wait
  socketClose n
  connectionClosed n
  lock .sessionQueueMtx
  Prog.modify fun s => { s with sessionQueue := s.sessionQueue ++ [n] }
  if (← Prog.read fun s => s.acceptingFlag) = false then
    let _ ← waitAccept
  unlock .sessionQueueMtx

/-- The two calls that remove the token and the user id of a session. -/
def forgetLogin (n : SessionId) : Handler Unit := do
  let _ ← delRedisToken (← getToken n)
  let _ ← delIdInUserMap (← getUserId n)

/-- `tcp_server::close_session`. -/
def closeSession (n : SessionId) : Handler Unit := do
  match ← getStatus n with
  | .login =>
    forgetLogin n
    finishClose n
  | .logout => finishClose n
  | .matchConfirm =>
    let _ ← delIdInUserMap (← getUserId n)
    finishClose n
  | .matchComplete =>
    let _ ← delRedisToken (← getRoomKey n)
    Prog.modify fun s => { s with roomKeyDel := s.roomKeyDel + 1 }
    forgetLogin n
    finishClose n
  | .matchRecver =>
    forgetLogin n
    finishClose n
  | .matchRequest =>
    forgetLogin n
    finishClose n
  | .conn => finishClose n
  | .wait => pure ()
  | .matchApply => pure ()

/-- `tcp_server::process_config`. -/
def processConfig (n : SessionId) (message : ErrorReport) : Handler Unit := do
  let connections ← Prog.read fun s => s.connections
  let roomKeyDel ← Prog.read fun s => s.roomKeyDel
  let answer : Str :=
    if message.errorString = lit "get session count" then
      lit "session count : " ++ lit (toString connections)
    else if message.errorString = lit "alive" then lit "yes"
    else if message.errorString = lit "get room key del" then
      lit "room key del : " ++ lit (toString roomKeyDel)
    else lit "Not Found Command"
  sendMessage n (.errorMsg (message.setErrorString answer))

/-- `tcp_server::process_packet`. -/
def processPacket (n : SessionId) (packet : Packet) (exec : Effect := Stmt.exec) :
    Handler Unit := do
  match packet with
  | .friendsReq message => processFriendsFunction n message exec
  | .playFriendsRel message => processMatchingWithFriends n message
  | .playRankReq => processMatching n
  | .joinReq message => let _ ← lobbyLoginProcess n message exec
  | .logoutReq => let _ ← lobbyLogoutProcess n
  | .matchConfirm =>
    if ← processMatchConfirm n then closeSession n
  | .errorMsg message => processConfig n message
  | .other _ => pure ()

/-- The error codes that `handle_receive` tells apart. -/
inductive RecvError
  | eof
  | connectionReset
  | other
deriving DecidableEq, Repr

/-- The error branch of `session::handle_receive`. -/
def handleReceiveError (n : SessionId) (error : RecvError) : Handler Unit :=
  match error with
  | .eof => closeSession n
  | .connectionReset => closeSession n
  | .other => pure ()

/-- `session::rematch`, which ignores the error code of the timer. -/
def rematch (n : SessionId) : Handler Unit := do
  if (← getStatus n) = .matchRequest then
    let _ ← rematchingStart n

end ChannelServer
