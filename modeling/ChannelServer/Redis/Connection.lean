/-
The connection to redis and the objects for its replies (`redispp.cpp`, `redispp.h`).

A call sends its command at once and returns an object for the reply, which is read when its
value is asked for.  The objects whose replies have not been read form a list, in the order of the
commands; whoever reads a reply reads the ones in front of it first.  An object can be moved to
another address, and takes its place in the list along.

Objects are named by their addresses.  The functions that read other replies first take the
function `readResult` for these as an argument; `readResult` ties the knot, with the nesting of
the calls as its depth.  A call reads only replies that are in front of its own, so that the
nesting is at most the length of the list.
-/
import ChannelServer.Redis.Requests

namespace ChannelServer.Redis

open Scanning Throwing

/-! ### The state -/

/-- What an object stores, by its class. -/
inductive Body
  | void (storedResult : Bool)
  | bool (storedResult : Bool)
  | int (storedResult : ℤ)
  | string (storedResult : Option Str)
  | multiBulk (headerDone : Bool) (count : ℤ) (pending : List (Option Str))
deriving DecidableEq, Repr

def Body.kind : Body → Kind
  | void _ => .void
  | bool _ => .bool
  | int _ => .int
  | string _ => .string
  | multiBulk _ _ _ => .multiBulk

/-- What the constructors store. -/
def Kind.initial : Kind → Body
  | .void => .void false
  | .bool => .bool false
  | .int => .int 0
  | .string => .string none
  | .multiBulk => .multiBulk false 0 []

/-- An object for a reply; `conn` tells whether its pointer to the connection is set. -/
structure ReplyObject where
  conn : Bool
  body : Body
deriving DecidableEq, Repr

/-- `Connection`, with the bytes that it has sent and those that arrive, and the objects for its
replies. -/
structure Connection where
  buffer : Buffer
  sent : Str
  stream : Stream
  outstandingReplies : List ℕ
  replies : ℕ → ReplyObject

/-- A call on the connection. -/
abbrev Action (α : Type) := Call Connection Str α

def reply (a : ℕ) : Action ReplyObject := look fun c => c.replies a

def setReply (a : ℕ) (o : ReplyObject) : Action Unit :=
  change fun c => { c with replies := Function.update c.replies a o }

def setConn (a : ℕ) (conn : Bool) : Action Unit :=
  change fun c =>
    { c with replies := Function.update c.replies a { c.replies a with conn := conn } }

def setBody (a : ℕ) (body : Body) : Action Unit :=
  change fun c =>
    { c with replies := Function.update c.replies a { c.replies a with body := body } }

/-- `unlink`. -/
def unlink (a : ℕ) : Action Unit :=
  change fun c => { c with outstandingReplies := c.outstandingReplies.erase a }

/-- Read from the stream of the connection. -/
def input {α : Type} (p : Input α) : Action α :=
  zoom (fun c => c.stream) (fun stream c => { c with stream := stream }) p

/-! ### Reading a reply -/

/-- What is in front of an object in the list. -/
def Connection.inFront (c : Connection) (a : ℕ) : List ℕ :=
  c.outstandingReplies.takeWhile (· ≠ a)

/-- `BaseReply::clearPendingResults`. -/
def clearPendingResults (readResult : ℕ → Action Unit) (a : ℕ) : Action Unit := do
  let earlier ← look fun c => c.inFront a
  earlier.forM readResult

/-- The value that `result` reads from the stream. -/
def readStored : Kind → Input Body
  | .void => do
    let _ ← readStatusCodeReply
    pure (.void true)
  | .bool => do
    let number ← readIntegerReply
    pure (.bool (decide (number > 0)))
  | .int => do
    let number ← readIntegerReply
    pure (.int number)
  | .string => do
    let data ← readBulkReply
    pure (.string data)
  | .multiBulk => pure (.multiBulk false 0 [])

/-- The part of `result` for the own reply. -/
def readOwn (a : ℕ) (kind : Kind) : Action Unit := do
  -- the pointer is cleared before the read: an answer that throws is not read twice
  setConn a false
  let stored ← input (readStored kind)
  setBody a stored
  unlink a

/-- `result` of `VoidReply`, `BoolReply`, `IntReply` and `StringReply`. -/
def resultWith (readResult : ℕ → Action Unit) (a : ℕ) : Action Unit := do
  let o ← reply a
  if o.conn then
    clearPendingResults readResult a
    readOwn a o.body.kind

/-- The part of `MultiBulkEnumerator::nextOptional` for the head of the list. -/
def readHeader (readResult : ℕ → Action Unit) (a : ℕ) (headerDone : Bool) (count : ℤ) :
    Action ℤ :=
  if headerDone then pure count
  else do
    clearPendingResults readResult a
    -- `headerDone` is set before the head is read, and stays set when the read throws
    setBody a (.multiBulk true count [])
    let (code, count) ← input (readMultiBulkHeader count)
    setBody a (.multiBulk true count [])
    input (checkMultiBulkHeader code count)
    pure count

/-- The part of `MultiBulkEnumerator::nextOptional` for an element. -/
def readItem (a : ℕ) (count : ℤ) : Action (Option (Option Str)) :=
  if count ≤ 0 then do
    setConn a false
    unlink a
    pure none
  else do
    -- the element counts as read before it is
    setBody a (.multiBulk true (count - 1) [])
    let out ← input readBulkReply
    pure (some out)

/-- `MultiBulkEnumerator::nextOptional`; `none` when it returns `false`. -/
def nextOptionalWith (readResult : ℕ → Action Unit) (a : ℕ) : Action (Option (Option Str)) := do
  let o ← reply a
  match o.body with
  | .multiBulk headerDone count (out :: pending) =>
    setBody a (.multiBulk headerDone count pending)
    pure (some out)
  | .multiBulk headerDone count [] =>
    if o.conn then
      let count ← readHeader readResult a headerDone count
      readItem a count
    else pure none
  | _ => pure none

/-- The calls that a loop over an enumerator makes at most from here on. -/
def ReplyObject.remaining (o : ReplyObject) : ℕ :=
  match o.body with
  | .multiBulk _ count pending => pending.length + count.toNat + 1
  | _ => 1

/-- A loop over what a function returns, until it returns nothing. -/
def collect {β : Type} (next : Action (Option β)) : ℕ → Action (List β)
  | 0 => pure []
  | k + 1 => do
    match ← next with
    | none => pure []
    | some x =>
      let rest ← collect next k
      pure (x :: rest)

/-- The loop of `MultiBulkEnumerator::readResult`; the number of its rounds is known after the
first one. -/
def readPendingWith (readResult : ℕ → Action Unit) (a : ℕ) : Action (List (Option Str)) := do
  match ← nextOptionalWith readResult a with
  | none => pure []
  | some x =>
    let o ← reply a
    let rest ← collect (nextOptionalWith readResult a) o.remaining
    pure (x :: rest)

/-- `readResult` of the classes. -/
def readResultWith (readResult : ℕ → Action Unit) (a : ℕ) : Action Unit := do
  let o ← reply a
  match o.body with
  | .multiBulk headerDone count _ =>
    if o.conn ∧ (headerDone = false ∨ count > 0) then
      let readPending ← readPendingWith readResult a
      -- what was pending before stays in front
      let o ← reply a
      match o.body with
      | .multiBulk headerDone count pending =>
        setBody a (.multiBulk headerDone count (pending ++ readPending))
      | _ => pure ()
  | _ => resultWith readResult a

/-- `readResult` for the replies in front, with the calls nested at most as deep as given. -/
def readResult : ℕ → ℕ → Action Unit
  | 0, _ => pure ()
  | depth + 1, a => readResultWith (readResult depth) a

/-! ### What a program does with a connection -/

/-- `result`. -/
def result (a : ℕ) : Action Unit := do
  let depth ← look fun c => c.outstandingReplies.length
  resultWith (readResult depth) a

/-- `MultiBulkEnumerator::nextOptional`. -/
def nextOptional (a : ℕ) : Action (Option (Option Str)) := do
  let depth ← look fun c => c.outstandingReplies.length
  nextOptionalWith (readResult depth) a

/-- `MultiBulkEnumerator::next`; `none` when it returns `false`. -/
def next (a : ℕ) : Action (Option Str) := do
  match ← nextOptional a with
  | none => pure none
  | some none => throw (lit "Casting null bulk reply to string")
  | some (some out) => pure (some out)

/-- The loop that skips the rest of an enumerator. -/
def skipRest (a : ℕ) : Action Unit := do
  let o ← reply a
  let _ ← collect (next a) o.remaining

/-- `EXECUTE_COMMAND_SYNC`.  A command for which the buffer is too small is not sent, and `write`
does nothing when the stream has failed. -/
def executeCommandSync (r : Request) : Action Unit := fun c =>
  match r.command.1.execute r.command.2 c.buffer.resetToMark with
  | .ok buffer => some (.ok (), { c with
      buffer := buffer
      sent := if c.stream.fail then c.sent else c.sent ++ buffer.data })
  | .error what => some (.error what, c)

/-- A call of `Connection`, which constructs its reply at the address `a`. -/
def request (a : ℕ) (r : Request) : Action Unit := do
  executeCommandSync r
  setReply a ⟨true, r.kind.initial⟩
  change fun c => { c with outstandingReplies := c.outstandingReplies ++ [a] }

/-- The list after an address was inserted in front of another one. -/
def insertBefore (a b : ℕ) (l : List ℕ) : List ℕ :=
  l.takeWhile (· ≠ b) ++ a :: l.dropWhile (· ≠ b)

/-- The common part of the copy constructor and of the assignment: `a` takes the place of `b`. -/
def takePlace (a b : ℕ) : Action Unit := do
  let other ← reply b
  setConn a other.conn
  -- a reply that has been read is not in the list
  if other.conn then
    change fun c => { c with outstandingReplies := insertBefore a b c.outstandingReplies }
  setConn b false
  unlink b

/-- The copy constructor, which moves the reply from `b` to `a`, with what is pending. -/
def copy (a b : ℕ) : Action Unit := do
  takePlace a b
  let other ← reply b
  setBody a other.body
  match other.body with
  | .multiBulk headerDone count _ => setBody b (.multiBulk headerDone count [])
  | _ => pure ()

/-- What the destructors and the assignments read of a reply. -/
def readRest (a : ℕ) : Action Unit := do
  let o ← reply a
  match o.body with
  | .multiBulk _ count _ => if o.conn ∧ count > 0 then skipRest a
  | _ => result a

/-- The assignment of `VoidReply`, `BoolReply`, `IntReply` and `StringReply`, which moves the reply
from `b` to `a`. -/
def assign (a b : ℕ) : Action Unit := do
  readRest a
  unlink a
  takePlace a b
  let other ← reply b
  setBody a other.body

/-- The assignment of `MultiBulkEnumerator`, which moves the reply from `b` to `a` without what is
pending. -/
def assignEnumerator (a b : ℕ) : Action Unit := do
  readRest a
  unlink a
  takePlace a b
  let other ← reply b
  match other.body with
  | .multiBulk headerDone count _ => setBody a (.multiBulk headerDone count [])
  | _ => pure ()

/-- The destructors, which catch what is thrown; the object is gone then. -/
def destroy (a : ℕ) : Action Unit := do
  attempt (readRest a)
  unlink a
  setConn a false

end ChannelServer.Redis
