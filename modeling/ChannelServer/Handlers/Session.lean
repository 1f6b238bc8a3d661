/-
The handlers of `server_session.cpp` that do not call back into the server: starting a
read, enqueueing and writing messages, arming the rematch timer.

`async_write`, `async_read_some` and `async_wait` only record the operation; its completion
is a later event of the run.
-/
import ChannelServer.State

namespace ChannelServer

open Resumption

namespace SendQueue

/-- `session::wait_send`: enqueue the buffer unless `immediately`, and start a write unless
another message was waiting already. -/
def waitSend (immediately : Bool) (sendDataSize : ℕ) (sendData : Buffer) (q : SendQueue) :
    SendQueue :=
  let q := if immediately = false then
      { q with queue := q.queue ++ [sendData], enqueued := q.enqueued ++ [sendData.addr] }
    else q
  if immediately = false ∧ q.queue.length > 1 then q
  else
    { q with
      writes := q.writes ++ [⟨sendData, sendDataSize⟩]
      started := q.started ++ [sendData.addr] }

/-- Free and remove the front buffer; undefined for an empty queue. -/
def popFront (q : SendQueue) : Option SendQueue :=
  match q.queue with
  | [] => none
  | b :: rest => some { q with queue := rest, freed := q.freed ++ [b.addr] }

/-- Free and remove all buffers. -/
def clear (q : SendQueue) : SendQueue :=
  { q with queue := [], freed := q.freed ++ q.queue.map (·.addr) }

/-- The queue of a connection that starts: the leftovers of the previous connection are
freed, and the histories start afresh. -/
def restart (q : SendQueue) : SendQueue := { q.clear with enqueued := [], started := [] }

end SendQueue

/-- `session::init`. -/
def sessionInit (n : SessionId) : Handler Unit :=
  modifySess n fun x => { x with send := x.send.restart }

/-- `session::wait_receive`. -/
def waitReceive (n : SessionId) : Handler Unit :=
  .modify fun s => { s with reads := s.reads ++ [⟨n, (s.sess n).isOpen⟩] }

/-- `session::wait_send`. -/
def waitSend (n : SessionId) (immediately : Bool) (sendDataSize : ℕ) (sendData : Buffer) :
    Handler Unit :=
  modifySess n fun x => { x with send := x.send.waitSend immediately sendDataSize sendData }

/-- `packet_handler::incode_message`. -/
def incodeMessage (message : Message) : Handler Buffer :=
  .atomic fun s => (⟨s.heap, message⟩, { s with heap := s.heap + 1 })

/-- The call by which all handlers send a message. -/
def sendMessage (n : SessionId) (message : Message) : Handler Unit := do
  let sendData ← incodeMessage message
  waitSend n false (message.byteSize + packetHeaderSize) sendData

/-- `session::control_timer_rematch`: `expires_from_now` cancels the pending waits. -/
def controlTimerRematch (n : SessionId) (sec : ℤ) (isSet : Bool) : Handler Unit :=
  if isSet ∧ sec > 0 then do
    modifySess n fun x => { x with waits := x.waits.map ({ · with cancelled := true }) }
    .modify fun s =>
      s.setSess n { s.sess n with waits := (s.sess n).waits ++ [⟨false, s.log.length⟩] }
  else pure ()

/-- The first two lines of `handle_write`. -/
def sendPopFront (n : SessionId) : Handler Unit :=
  .act (fun s =>
    match (s.sess n).send.popFront with
    | none => .fail .emptyDeque
    | some q => .ok () (s.setSess n { s.sess n with send := q })) .ret

/-- `session::handle_write`. -/
def handleWrite (n : SessionId) : Handler Unit := do
  sendPopFront n
  if (← getStatus n) = .logout then
    modifySess n fun x => { x with send := x.send.clear }
  else
    match ← getSess n (·.send.queue.head?) with
    | some data => waitSend n true (data.size + packetHeaderSize) data
    | none => pure ()

end ChannelServer
