/-
The replies of redis, and the functions of `redispp.cpp` that read them.

A reply starts with a character for its type and ends with a line break.  The functions read a
reply up to the line break or into it, and skip what is left of it before the next one: they leave a
stream that is blank up to the next reply, and this is where they start.
-/
import ChannelServer.Lib.Scanning
import ChannelServer.Lib.Throwing
import ChannelServer.Protocol

namespace ChannelServer.Redis

open Scanning Throwing

/-! ### The replies -/

/-- The line break of the protocol. -/
def crlf : Str := [13, 10]

/-- A reply of redis. -/
inductive Reply
  | status (line : Str)
  | error (line : Str)
  | integer (number : ℤ)
  | bulk (data : Option Str)
  | multiBulk (items : List (Option Str))
deriving DecidableEq, Repr

/-- A string that may be null. -/
def bulkBytes : Option Str → Str
  | none => lit "$-1" ++ crlf
  | some data => lit "$" ++ decimal data.length ++ crlf ++ data ++ crlf

/-- A reply as redis sends it. -/
def Reply.bytes : Reply → Str
  | status line => lit "+" ++ line ++ crlf
  | error line => lit "-" ++ line ++ crlf
  | integer number => lit ":" ++ decimal number ++ crlf
  | bulk data => bulkBytes data
  | multiBulk items => lit "*" ++ decimal items.length ++ crlf ++ items.flatMap bulkBytes

/-! ### Reading -/

/-- A call that reads from the stream of the connection; exceptions carry their text. -/
abbrev Input (α : Type) := Call Stream Str α

/-- The test of the stream behind an extraction. -/
def failed : Input Bool := look (·.fail)

/-- The bounds of an `int`. -/
def extractInt32 (number : ℤ) : Reader ℤ := extractInt (-2 ^ 31) (2 ^ 31 - 1) number

/-- The bounds of an `int64_t`. -/
def extractInt64 (number : ℤ) : Reader ℤ := extractInt (-2 ^ 63) (2 ^ 63 - 1) number

/-- `Connection::readStatusCodeReply`. -/
def readStatusCodeReply : Input Str := do
  let code ← await (extractChar 0)
  if ← failed then throw (lit "error reading status response")
  let out ← await (getLine 13 [])
  if ← failed then throw (lit "error reading status response")
  if code ≠ 43 then throw (lit "read error response: " ++ out)
  pure out

/-- `Connection::readIntegerReply`, which ignores the first character. -/
def readIntegerReply : Input ℤ := do
  let _ ← await (extractChar 0)
  let ret ← await (extractInt64 0)
  if ← failed then throw (lit "error reading integer response")
  pure ret

/-- `Connection::readBulkReply`. -/
def readBulkReply : Input (Option Str) := do
  let code ← await (extractChar 0)
  let count ← await (extractInt32 0)
  if ← failed then throw (lit "error reading bulk response header")
  if code ≠ 36 then throw (lit "bad bulk header code: " ++ [code])
  if count < 0 then pure none
  else
    await get
    await get
    let out ← await (read (List.replicate count.toNat 0))
    pure (some out)

/-- The two extractions at the head of a list, for the first character and the `count` of the
enumerator. -/
def readMultiBulkHeader (count : ℤ) : Input (UInt8 × ℤ) := do
  let code ← await (extractChar 0)
  let count ← await (extractInt32 count)
  pure (code, count)

/-- What `MultiBulkEnumerator::nextOptional` checks then. -/
def checkMultiBulkHeader (code : UInt8) (count : ℤ) : Input Unit := do
  if ← failed then throw (lit "error reading bulk response header")
  if code ≠ 42 then throw (lit "bad bulk header code: " ++ [code])
  if count < 0 then throw (lit "multi bulk reply: -1")

/-- Several strings one behind the other. -/
def readItems : ℕ → Input (List (Option Str))
  | 0 => pure []
  | k + 1 => do
    let item ← readBulkReply
    let items ← readItems k
    pure (item :: items)

/-- A list from its head to its end. -/
def readMultiBulk : Input (List (Option Str)) := do
  let (code, count) ← readMultiBulkHeader 0
  checkMultiBulkHeader code count
  readItems count.toNat

/-! ### What is read of a reply -/

section Reading

variable {ws rest line : Str} {c : UInt8}

lemma blank_crlf : Blank crlf := by
  intro c hc
  rcases List.mem_pair.1 hc with rfl | rfl <;> rfl

lemma blank_lf : Blank [10] := by
  intro c hc
  rw [List.mem_singleton.1 hc]
  rfl

/-- The length of a string that was announced is within the bounds of an `int`. -/
def BulkFits : Option Str → Prop
  | none => True
  | some data => data.length < 2 ^ 31

instance : DecidablePred BulkFits
  | none => .isTrue trivial
  | some data => inferInstanceAs (Decidable (data.length < 2 ^ 31))

/-- A status is read with the carriage return behind it. -/
lemma readStatusCodeReply_status (hws : Blank ws) (hline : (13 : UInt8) ∉ line) :
    Returns readStatusCodeReply ⟨ws ++ ((Reply.status line).bytes ++ rest), false⟩ line
      ⟨[10] ++ rest, false⟩ := by
  have hbytes : ws ++ ((Reply.status line).bytes ++ rest) =
      ws ++ 43 :: (line ++ 13 :: 10 :: rest) := by
    simp [Reply.bytes, lit, crlf]
  rw [hbytes]
  refine (returns_await (extractChar_append hws rfl)).bind ?_
  refine (returns_look Stream.fail _).bind ?_
  refine (returns_await (getLine_append hline)).bind ?_
  refine (returns_look Stream.fail _).bind ?_
  exact returns_pure line _

/-- An error that is read as a status is thrown, and the carriage return behind it is read. -/
lemma readStatusCodeReply_error (hws : Blank ws) (hline : (13 : UInt8) ∉ line) :
    Throws readStatusCodeReply ⟨ws ++ ((Reply.error line).bytes ++ rest), false⟩
      (lit "read error response: " ++ line) ⟨[10] ++ rest, false⟩ := by
  have hbytes : ws ++ ((Reply.error line).bytes ++ rest) =
      ws ++ 45 :: (line ++ 13 :: 10 :: rest) := by
    simp [Reply.bytes, lit, crlf]
  rw [hbytes]
  refine (returns_await (extractChar_append hws rfl)).throws ?_
  refine (returns_look Stream.fail _).throws ?_
  refine (returns_await (getLine_append hline)).throws ?_
  refine (returns_look Stream.fail _).throws ?_
  exact (throws_throw _ _).bind

/-- A number is read up to the line break. -/
lemma readIntegerReply_integer (hws : Blank ws) {z : ℤ} (hmin : -2 ^ 63 ≤ z) (hmax : z < 2 ^ 63) :
    Returns readIntegerReply ⟨ws ++ ((Reply.integer z).bytes ++ rest), false⟩ z
      ⟨crlf ++ rest, false⟩ := by
  have hbytes : ws ++ ((Reply.integer z).bytes ++ rest) =
      ws ++ 58 :: (decimal z ++ 13 :: 10 :: rest) := by
    simp [Reply.bytes, lit, crlf]
  rw [hbytes]
  refine (returns_await (extractChar_append hws rfl)).bind ?_
  refine (returns_await (extractInt_decimal hmin (by omega) rfl)).bind ?_
  refine (returns_look Stream.fail _).bind ?_
  exact returns_pure z _

/-- A string is read whatever its bytes are, without the line break behind it. -/
lemma readBulkReply_bulk (hws : Blank ws) {data : Option Str} (hdata : BulkFits data) :
    Returns readBulkReply ⟨ws ++ (bulkBytes data ++ rest), false⟩ data ⟨crlf ++ rest, false⟩ := by
  cases data with
  | none =>
    have hbytes : ws ++ (bulkBytes none ++ rest) =
        ws ++ 36 :: (decimal (-1) ++ 13 :: 10 :: rest) := by
      rfl
    rw [hbytes]
    refine (returns_await (extractChar_append hws rfl)).bind ?_
    refine (returns_await (extractInt_decimal (by decide) (by decide) rfl)).bind ?_
    refine (returns_look Stream.fail _).bind ?_
    exact returns_pure none _
  | some data =>
    have hbytes : ws ++ (bulkBytes (some data) ++ rest) =
        ws ++ 36 :: (decimal data.length ++ 13 :: 10 :: (data ++ (crlf ++ rest))) := by
      simp [bulkBytes, lit, crlf]
    have hlength : (data.length : ℤ) < 2 ^ 31 := by
      have : data.length < 2 ^ 31 := hdata
      omega
    rw [hbytes]
    refine (returns_await (extractChar_append hws rfl)).bind ?_
    refine (returns_await (extractInt_decimal (by omega) (by omega) rfl)).bind ?_
    refine (returns_look Stream.fail _).bind ?_
    simp only [Bool.false_eq_true, if_false, ne_eq, not_true_eq_false]
    rw [if_neg (by omega)]
    refine Returns.bind (a := ()) rfl (Returns.bind (a := ()) rfl ?_)
    refine (returns_await (read_append ?_)).bind (returns_pure (some data) _)
    simp

lemma readMultiBulkHeader_append (hws : Blank ws) {n : ℕ} (hn : n < 2 ^ 31) (count : ℤ) :
    Returns (readMultiBulkHeader count) ⟨ws ++ (lit "*" ++ decimal n ++ crlf ++ rest), false⟩
      (42, (n : ℤ)) ⟨crlf ++ rest, false⟩ := by
  have hbytes : ws ++ (lit "*" ++ decimal n ++ crlf ++ rest) =
      ws ++ 42 :: (decimal n ++ 13 :: 10 :: rest) := by
    simp [lit, crlf]
  rw [hbytes]
  refine (returns_await (extractChar_append hws rfl)).bind ?_
  refine (returns_await (extractInt_decimal (by omega) (by omega) rfl)).bind ?_
  exact returns_pure _ _

lemma checkMultiBulkHeader_returns (n : ℕ) (rest : Str) :
    Returns (checkMultiBulkHeader 42 n) ⟨rest, false⟩ () ⟨rest, false⟩ := by
  refine (returns_look Stream.fail _).bind ?_
  simp only [Bool.false_eq_true, if_false, ne_eq, not_true_eq_false]
  rw [if_neg (by omega)]
  exact returns_pure _ _

/-- Strings that were written one behind the other are read as they were written. -/
lemma readItems_append {items : List (Option Str)} (hitems : ∀ d ∈ items, BulkFits d)
    (hws : Blank ws) : ∃ ws', Blank ws' ∧
      Returns (readItems items.length) ⟨ws ++ (items.flatMap bulkBytes ++ rest), false⟩ items
        ⟨ws' ++ rest, false⟩ := by
  induction items generalizing ws with
  | nil => exact ⟨ws, hws, returns_pure _ _⟩
  | cons d items ih =>
    obtain ⟨hd, hitems⟩ := List.forall_mem_cons.1 hitems
    obtain ⟨ws', hws', hread⟩ := ih hitems blank_crlf
    refine ⟨ws', hws', ?_⟩
    rw [List.flatMap_cons, List.append_assoc]
    exact (readBulkReply_bulk hws hd).bind (hread.bind (returns_pure _ _))

/-- A list is read from its head to its end. -/
lemma readMultiBulk_append {items : List (Option Str)} (hlength : items.length < 2 ^ 31)
    (hitems : ∀ d ∈ items, BulkFits d) (hws : Blank ws) : ∃ ws', Blank ws' ∧
      Returns readMultiBulk ⟨ws ++ ((Reply.multiBulk items).bytes ++ rest), false⟩ items
        ⟨ws' ++ rest, false⟩ := by
  obtain ⟨ws', hws', hread⟩ := @readItems_append crlf rest items hitems blank_crlf
  refine ⟨ws', hws', ?_⟩
  rw [Reply.bytes, List.append_assoc]
  refine (readMultiBulkHeader_append hws hlength 0).bind ?_
  refine (checkMultiBulkHeader_returns items.length _).bind ?_
  rw [Int.toNat_natCast]
  exact hread

end Reading

end ChannelServer.Redis
