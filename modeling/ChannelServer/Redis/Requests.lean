/-
The commands of redis, and how `redispp.cpp` writes them.

A command is written into a buffer of fixed size and sent as a whole.  The buffer is checked before
each part, for more bytes than the part takes; `execute_eq` says for which sizes a command
fits, and that the buffer then holds the bytes of the command and nothing was written behind its
end.
-/
import ChannelServer.Redis.Replies
import Mathlib.Data.List.Induction

namespace ChannelServer.Redis

open Scanning Throwing

/-! ### The buffer -/

/-- An argument of a command, by the overload of `writeArg` that writes it. -/
inductive Arg
  | str (arg : Str)
  | cstr (arg : Str)
  | int (arg : ℤ)
deriving DecidableEq, Repr

/-- The bytes of an argument; a C string ends with its first zero. -/
def Arg.text : Arg → Str
  | str arg => arg
  | cstr arg => arg.takeWhile (· ≠ 0)
  | int arg => decimal arg

/-- `Buffer`: the number of its bytes, and those up to `spot`. -/
structure Buffer where
  size : ℕ
  data : Str
deriving DecidableEq, Repr

/-- What `checkSpace` throws. -/
def bufferIsFull : Str := lit "buffer is full: spot + needed >= end"

namespace Buffer

/-- `Buffer::checkSpace`. -/
def checkSpace (b : Buffer) (needed : ℕ) : Except Str Unit :=
  if b.data.length + needed ≥ b.size then throw bufferIsFull else pure ()

/-- Copy bytes to `spot` and move it, without a check. -/
def put (b : Buffer) (bytes : Str) : Buffer := { b with data := b.data ++ bytes }

/-- `Buffer::resetToMark`, where the mark is the start of the buffer. -/
def resetToMark (b : Buffer) : Buffer := { b with data := [] }

/-- `Buffer::write`. -/
def write (b : Buffer) (str : Str) : Except Str Buffer := do
  b.checkSpace str.length
  pure (b.put str)

/-- `Buffer::writeArgLen`, for an `unsigned int`. -/
def writeArgLen (b : Buffer) (len : ℕ) : Buffer :=
  ((b.put (lit "$")).put (decimal ((len % 2 ^ 32 : ℕ) : ℤ))).put crlf

/-- `Buffer::writeArg`. -/
def writeArg (b : Buffer) (arg : Arg) : Except Str Buffer := do
  let len := arg.text.length
  b.checkSpace (len + 1 + 11 + 4)
  pure (((b.writeArgLen len).put arg.text).put crlf)

end Buffer

/-! ### Commands -/

/-- `Command`: a name, and the number of arguments that the header announces. -/
structure Command where
  cmdName : Str
  numArgs : ℕ
deriving DecidableEq, Repr

/-- `Command::Command`. -/
def Command.header (c : Command) : Str :=
  lit "*" ++ decimal (c.numArgs + 1) ++ crlf ++ lit "$" ++ decimal c.cmdName.length ++ crlf ++
    c.cmdName ++ crlf

/-- `Command::execute`, for any number of arguments. -/
def Command.execute (c : Command) (args : List Arg) (dest : Buffer) : Except Str Buffer := do
  args.foldlM Buffer.writeArg (← dest.write c.header)

/-- The classes of replies. -/
inductive Kind
  | void
  | bool
  | int
  | string
  | multiBulk
deriving DecidableEq, Repr

/-- The calls of `Connection` that return a reply, with their arguments. -/
inductive Request
  | authenticate (password : Str)
  | exists_ (name : Str)
  | del (name : Str)
  | keys (pattern : Str)
  | randomKey
  | rename (oldName newName : Str)
  | renameNX (oldName newName : Str)
  | dbSize
  | expire (name : Str) (seconds : ℤ)
  | expireAt (name : Str) (timestamp : ℤ)
  | ttl (name : Str)
  | select (db : ℤ)
  | move (name : Str) (db : ℤ)
  | flushDb
  | flushAll
  | set (name value : Str)
  | get (name : Str)
  | getSet (name value : Str)
  | setNX (name value : Str)
  | setEx (name : Str) (time : ℤ) (value : Str)
  | incr (name : Str)
  | incrBy (name : Str) (value : ℤ)
  | decr (name : Str)
  | decrBy (name : Str) (value : ℤ)
  | append (name value : Str)
  | subStr (name : Str) (start stop : ℤ)
  | rpush (key value : Str)
  | lpush (key value : Str)
  | llen (key : Str)
  | lrange (key : Str) (start stop : ℤ)
  | ltrim (key : Str) (start stop : ℤ)
  | lindex (key : Str) (index : ℤ)
  | lset (key : Str) (index : ℤ) (value : Str)
  | lrem (key : Str) (count : ℤ) (value : Str)
  | lpop (key : Str)
  | rpop (key : Str)
  | rpopLpush (src dest : Str)
  | sadd (key member : Str)
  | srem (key member : Str)
  | spop (key : Str)
  | smove (src dest member : Str)
  | scard (key : Str)
  | sisMember (key member : Str)
  | smembers (key : Str)
  | srandMember (key : Str)
  | hset (key field value : Str)
  | hget (key field : Str)
  | hsetNX (key field value : Str)
  | hincrBy (key field : Str) (value : ℤ)
  | hexists (key field : Str)
  | hdel (key field : Str)
  | hlen (key : Str)
  | hkeys (key : Str)
  | hvals (key : Str)
  | hgetAll (key : Str)
  | save
  | bgSave
  | bgReWriteAOF
  | lastSave
  | info
  | publish (channel message : Str)

/-- The command that a call executes, and the arguments that it passes. -/
def Request.command : Request → Command × List Arg
  | .authenticate password => (⟨lit "Auth", 1⟩, [.cstr password])
  | .exists_ name => (⟨lit "Exists", 1⟩, [.str name])
  | .del name => (⟨lit "Del", 1⟩, [.str name])
  | .keys pattern => (⟨lit "Keys", 1⟩, [.str pattern])
  | .randomKey => (⟨lit "RandomKey", 0⟩, [])
  | .rename oldName newName => (⟨lit "Rename", 2⟩, [.str oldName, .str newName])
  | .renameNX oldName newName => (⟨lit "RenameNX", 2⟩, [.str oldName, .str newName])
  | .dbSize => (⟨lit "DbSize", 0⟩, [])
  | .expire name seconds => (⟨lit "Expire", 2⟩, [.str name, .int seconds])
  | .expireAt name timestamp => (⟨lit "ExpireAt", 2⟩, [.str name, .int timestamp])
  | .ttl name => (⟨lit "Ttl", 1⟩, [.str name])
  | .select db => (⟨lit "Select", 1⟩, [.int db])
  | .move name db => (⟨lit "Move", 2⟩, [.str name, .int db])
  | .flushDb => (⟨lit "FlushDb", 0⟩, [])
  | .flushAll => (⟨lit "FlushAll", 0⟩, [])
  | .set name value => (⟨lit "Set", 2⟩, [.str name, .str value])
  | .get name => (⟨lit "Get", 1⟩, [.str name])
  | .getSet name value => (⟨lit "GetSet", 2⟩, [.str name, .str value])
  | .setNX name value => (⟨lit "SetNX", 2⟩, [.str name, .str value])
  | .setEx name time value => (⟨lit "SetEx", 3⟩, [.str name, .int time, .str value])
  | .incr name => (⟨lit "Incr", 1⟩, [.str name])
  | .incrBy name value => (⟨lit "IncrBy", 2⟩, [.str name, .int value])
  | .decr name => (⟨lit "Decr", 1⟩, [.str name])
  | .decrBy name value => (⟨lit "DecrBy", 2⟩, [.str name, .int value])
  | .append name value => (⟨lit "Append", 2⟩, [.str name, .str value])
  | .subStr name start stop => (⟨lit "SubStr", 3⟩, [.str name, .int start, .int stop])
  | .rpush key value => (⟨lit "RPush", 2⟩, [.str key, .str value])
  | .lpush key value => (⟨lit "LPush", 2⟩, [.str key, .str value])
  | .llen key => (⟨lit "LLen", 1⟩, [.str key])
  | .lrange key start stop => (⟨lit "LRange", 3⟩, [.str key, .int start, .int stop])
  | .ltrim key start stop => (⟨lit "LTrim", 3⟩, [.str key, .int start, .int stop])
  | .lindex key index => (⟨lit "LIndex", 2⟩, [.str key, .int index])
  | .lset key index value => (⟨lit "LSet", 3⟩, [.str key, .int index, .str value])
  | .lrem key count value => (⟨lit "LRem", 3⟩, [.str key, .int count, .str value])
  | .lpop key => (⟨lit "LPop", 1⟩, [.str key])
  | .rpop key => (⟨lit "RPop", 1⟩, [.str key])
  | .rpopLpush src dest => (⟨lit "RPopLPush", 2⟩, [.str src, .str dest])
  | .sadd key member => (⟨lit "SAdd", 2⟩, [.str key, .str member])
  | .srem key member => (⟨lit "SRem", 2⟩, [.str key, .str member])
  | .spop key => (⟨lit "SPop", 1⟩, [.str key])
  | .smove src dest member => (⟨lit "SMove", 3⟩, [.str src, .str dest, .str member])
  | .scard key => (⟨lit "SCard", 1⟩, [.str key])
  | .sisMember key member => (⟨lit "SIsMember", 2⟩, [.str key, .str member])
  | .smembers key => (⟨lit "SMembers", 1⟩, [.str key])
  | .srandMember key => (⟨lit "SRandMember", 1⟩, [.str key])
  | .hset key field value => (⟨lit "HSet", 3⟩, [.str key, .str field, .str value])
  | .hget key field => (⟨lit "HGet", 2⟩, [.str key, .str field])
  | .hsetNX key field value => (⟨lit "HSetNX", 3⟩, [.str key, .str field, .str value])
  | .hincrBy key field value => (⟨lit "HIncrBy", 3⟩, [.str key, .str field, .int value])
  | .hexists key field => (⟨lit "HExists", 2⟩, [.str key, .str field])
  | .hdel key field => (⟨lit "HDel", 2⟩, [.str key, .str field])
  | .hlen key => (⟨lit "HLen", 1⟩, [.str key])
  | .hkeys key => (⟨lit "HKeys", 1⟩, [.str key])
  | .hvals key => (⟨lit "HVals", 1⟩, [.str key])
  | .hgetAll key => (⟨lit "HGetAll", 1⟩, [.str key])
  | .save => (⟨lit "Save", 0⟩, [])
  | .bgSave => (⟨lit "BgSave", 0⟩, [])
  | .bgReWriteAOF => (⟨lit "BgReWriteAOF", 0⟩, [])
  | .lastSave => (⟨lit "LastSave", 0⟩, [])
  | .info => (⟨lit "Info", 0⟩, [])
  | .publish channel message => (⟨lit "Publish", 2⟩, [.str channel, .str message])

/-- The class of the reply that a call returns. -/
def Request.kind : Request → Kind
  | .authenticate _ | .rename _ _ | .select _ | .flushDb | .flushAll | .set _ _
  | .setEx _ _ _ | .ltrim _ _ _ | .lset _ _ _ | .save | .bgSave | .bgReWriteAOF => .void
  | .exists_ _ | .del _ | .renameNX _ _ | .expire _ _ | .expireAt _ _ | .move _ _
  | .setNX _ _ | .sadd _ _ | .srem _ _ | .smove _ _ _ | .sisMember _ _ | .hset _ _ _
  | .hsetNX _ _ _ | .hexists _ _ | .hdel _ _ => .bool
  | .dbSize | .ttl _ | .incr _ | .incrBy _ _ | .decr _ | .decrBy _ _ | .append _ _
  | .rpush _ _ | .lpush _ _ | .llen _ | .lrem _ _ _ | .scard _ | .hincrBy _ _ _ | .hlen _
  | .lastSave | .publish _ _ => .int
  | .randomKey | .get _ | .getSet _ _ | .subStr _ _ _ | .lindex _ _ | .lpop _ | .rpop _
  | .rpopLpush _ _ | .spop _ | .srandMember _ | .hget _ _ | .info => .string
  | .keys _ | .lrange _ _ _ | .smembers _ | .hkeys _ | .hvals _ | .hgetAll _ => .multiBulk

/-- The words of a command, as redis sees them. -/
def Request.words (r : Request) : List Str := r.command.1.cmdName :: r.command.2.map Arg.text

/-- A command as it is sent. -/
def Command.bytes (c : Command) (args : List Arg) : Str :=
  c.header ++ (args.map fun a => some a.text).flatMap bulkBytes

def Request.bytes (r : Request) : Str := r.command.1.bytes r.command.2

/-- The room that a command needs in a buffer: the checks of the last part are the ones that count,
and of an argument they ask for sixteen bytes more than it has. -/
def Command.needed (c : Command) (args : List Arg) : ℕ :=
  match args.getLast? with
  | none => c.header.length
  | some a => (c.bytes args.dropLast).length + a.text.length + 16

def Request.needed (r : Request) : ℕ := r.command.1.needed r.command.2

/-! ### The room in the buffer -/

section Room

variable {b : Buffer} {c : Command} {args : List Arg} {a : Arg}

lemma put_put (b : Buffer) (s t : Str) : (b.put s).put t = b.put (s ++ t) := by
  simp only [Buffer.put, List.append_assoc]

lemma write_eq (b : Buffer) (str : Str) :
    b.write str =
      if b.data.length + str.length < b.size then .ok (b.put str) else .error bufferIsFull := by
  by_cases h : b.data.length + str.length < b.size
  · rw [if_pos h, Buffer.write, Buffer.checkSpace, if_neg (by omega)]
    rfl
  · rw [if_neg h, Buffer.write, Buffer.checkSpace, if_pos (by omega)]
    rfl

/-- An argument is written as a string that is announced by its length. -/
lemma writeArg_eq (hsize : b.size ≤ 2 ^ 32) (a : Arg) :
    b.writeArg a =
      if b.data.length + a.text.length + 16 < b.size then .ok (b.put (bulkBytes (some a.text)))
      else .error bufferIsFull := by
  by_cases h : b.data.length + a.text.length + 16 < b.size
  · have hlen : a.text.length % 2 ^ 32 = a.text.length := Nat.mod_eq_of_lt (by omega)
    rw [if_pos h, Buffer.writeArg, Buffer.checkSpace, if_neg (by omega), Buffer.writeArgLen, hlen]
    simp only [put_put, bulkBytes, List.append_assoc]
    rfl
  · rw [if_neg h, Buffer.writeArg, Buffer.checkSpace, if_pos (by omega)]
    rfl

lemma bytes_concat (c : Command) (args : List Arg) (a : Arg) :
    c.bytes (args ++ [a]) = c.bytes args ++ bulkBytes (some a.text) := by
  simp [Command.bytes]

lemma needed_concat (c : Command) (args : List Arg) (a : Arg) :
    c.needed (args ++ [a]) = (c.bytes args).length + a.text.length + 16 := by
  simp [Command.needed]

/-- The room that is asked for is more than what the command takes. -/
lemma length_bytes_le (hsize : c.needed args < 2 ^ 32) : (c.bytes args).length ≤ c.needed args := by
  rcases args.eq_nil_or_concat' with rfl | ⟨args, a, rfl⟩
  · simp [Command.bytes, Command.needed]
  · rw [needed_concat] at hsize ⊢
    have hdigits := length_digits_le (n := a.text.length) (k := 10) (by decide) (by omega)
    have hbulk : (bulkBytes (some a.text)).length =
        (digits a.text.length).length + a.text.length + 5 := by
      have hdecimal : decimal (a.text.length : ℤ) = digits a.text.length := by
        rw [decimal, if_neg (by omega), Int.natAbs_natCast]
      simp only [bulkBytes, hdecimal, List.length_append, crlf, lit]
      simp
      omega
    rw [bytes_concat, List.length_append, hbulk]
    omega

lemma needed_le_concat (c : Command) (args : List Arg) (a : Arg) :
    c.needed args ≤ c.needed (args ++ [a]) := by
  rcases args.eq_nil_or_concat' with rfl | ⟨args, a', rfl⟩
  · rw [needed_concat]
    simp only [Command.needed, Command.bytes, List.getLast?_nil, List.map_nil, List.flatMap_nil,
      List.append_nil]
    omega
  · rw [needed_concat, needed_concat, bytes_concat, List.length_append]
    have hlong : a'.text.length ≤ (bulkBytes (some a'.text)).length := by
      simp only [bulkBytes, List.length_append]
      omega
    omega

/-- **A command is written if and only if there is room for it**, and then the buffer holds the
bytes of the command. -/
theorem execute_eq (hsize : b.size ≤ 2 ^ 32) (c : Command) (args : List Arg) :
    c.execute args b.resetToMark =
      if c.needed args < b.size then .ok { b with data := c.bytes args }
      else .error bufferIsFull := by
  induction args using List.reverseRecOn with
  | nil =>
    rw [Command.execute, write_eq]
    by_cases h : c.header.length < b.size
    · rw [if_pos (by simpa [Buffer.resetToMark] using h), if_pos (by exact h)]
      simp [Command.bytes, Buffer.put, Buffer.resetToMark]
    · rw [if_neg (by simpa [Buffer.resetToMark] using h), if_neg (by exact h)]
      rfl
  | append_singleton args a ih =>
    -- the arguments in front of the last one have been written
    have hfold : c.execute (args ++ [a]) b.resetToMark =
        (c.execute args b.resetToMark).bind fun b' => b'.writeArg a := by
      simp only [Command.execute, List.foldlM_append, List.foldlM_cons, List.foldlM_nil, bind_pure]
      cases b.resetToMark.write c.header <;> rfl
    have hle := needed_le_concat c args a
    rw [hfold, ih]
    by_cases h : c.needed (args ++ [a]) < b.size
    · have hroom : (c.bytes args).length + a.text.length + 16 < b.size := by
        rwa [needed_concat] at h
      rw [if_pos h, if_pos (by omega), Except.bind, writeArg_eq (by exact hsize),
        if_pos (by exact hroom), bytes_concat]
      rfl
    · rw [if_neg h]
      by_cases h' : c.needed args < b.size
      · rw [if_pos h', Except.bind, writeArg_eq (by exact hsize), if_neg]
        rw [needed_concat] at h
        exact h
      · rw [if_neg h']
        rfl

end Room

/-- The header of a command announces the arguments that the call passes. -/
lemma Request.numArgs_eq (r : Request) : r.command.2.length = r.command.1.numArgs := by
  cases r <;> rfl

/-! ### Reading commands back -/

/-- A command has the form of a list of strings. -/
lemma Request.bytes_eq (r : Request) : r.bytes = (Reply.multiBulk (r.words.map some)).bytes := by
  have hlength : ((r.words.map some).length : ℤ) = r.command.1.numArgs + 1 := by
    rw [List.length_map, Request.words, List.length_cons, List.length_map, r.numArgs_eq]
    norm_cast
  rw [Reply.bytes, hlength]
  simp only [Request.bytes, Command.bytes, Command.header, Request.words, List.map_cons,
    List.flatMap_cons, bulkBytes, List.append_assoc, List.map_map]
  rfl

lemma mem_words_length_le {r : Request} {w : Str} (h : w ∈ r.words) :
    w.length ≤ r.bytes.length := by
  have hmem : some w ∈ r.words.map some := List.mem_map_of_mem h
  obtain ⟨front, back, hsplit⟩ := List.append_of_mem hmem
  rw [r.bytes_eq, hsplit]
  simp only [Reply.bytes, bulkBytes, List.flatMap_append, List.flatMap_cons, List.length_append]
  omega

lemma length_words_le (r : Request) : r.words.length ≤ r.bytes.length := by
  have hflat : ∀ items : List (Option Str), items.length ≤ (items.flatMap bulkBytes).length := by
    intro items
    induction items with
    | nil => simp
    | cons d items ih =>
      have hd : 1 ≤ (bulkBytes d).length := by
        cases d with
        | none => decide
        | some data => simp [bulkBytes, lit, crlf]
      rw [List.flatMap_cons, List.length_append, List.length_cons]
      omega
  have := hflat (r.words.map some)
  rw [r.bytes_eq, Reply.bytes, List.length_append]
  rw [List.length_map] at this
  omega

/-- A command that was written is read as its words. -/
lemma readMultiBulk_bytes {r : Request} (hr : r.bytes.length < 2 ^ 31) {ws : Str} (hws : Blank ws)
    (rest : Str) : ∃ ws', Blank ws' ∧
      Returns readMultiBulk ⟨ws ++ (r.bytes ++ rest), false⟩ (r.words.map some)
        ⟨ws' ++ rest, false⟩ := by
  have hfits : ∀ d ∈ r.words.map some, BulkFits d := by
    intro d hd
    obtain ⟨w, hw, rfl⟩ := List.mem_map.1 hd
    exact Nat.lt_of_le_of_lt (mem_words_length_le hw) hr
  have hlength : (r.words.map some).length < 2 ^ 31 := by
    rw [List.length_map]
    exact Nat.lt_of_le_of_lt (length_words_le r) hr
  rw [r.bytes_eq]
  exact readMultiBulk_append hlength hfits hws

end ChannelServer.Redis
