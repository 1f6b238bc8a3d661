/-
The wire vocabulary of the server (`protocol.h` and the generated `channel_protobuf`):
session statuses, rating brackets, the messages that clients send and the messages that
the server sends back.

A string of the source is a `std::string`, that is, a sequence of bytes.  The packets are
described after `packet_handler::decode_message`: the generated parser is not part of the
model, its result is.  The fields of a parsed message that were absent have the default
values of the protocol description.  Two messages are sent on or sent back: a relay remembers
which of its fields were present, and both it and an error report keep the fields
that the parser did not know.
-/
import Mathlib.Data.Int.Notation
import Mathlib.Data.List.Basic

namespace ChannelServer

/-- A `std::string`. -/
abbrev Str := List UInt8

/-- The values of an `int32`. -/
def IsInt32 (z : ℤ) : Prop := -2147483648 ≤ z ∧ z < 2147483648

instance (z : ℤ) : Decidable (IsInt32 z) := inferInstanceAs (Decidable (_ ∧ _))

/-- A string literal of the source. -/
def lit (s : String) : Str := s.toList.map fun c => UInt8.ofNat c.toNat

/-- A `session *`.  The pointers are never freed while the server runs, so a session is
named by its position in `session_list_`, which is also its `session_id_`. -/
abbrev SessionId := ℕ

/-- `session_status`. -/
inductive Status
  | wait
  | conn
  | login
  | logout
  | matchRequest
  | matchApply
  | matchRecver
  | matchComplete
  | matchConfirm
deriving DecidableEq, Repr

/-! ### Ratings and queues -/

/-- `MAX_RATING`. -/
abbrev maxRating : ℕ := 8

/-- The index of a matching queue and of its mutex. -/
abbrev QueId := Fin maxRating

/-- `shared_que`. -/
def sharedQue : QueId := 7

/-- The brackets of the generated enumeration `rating`. -/
inductive Rating
  | bronze
  | silver
  | gold
  | platinum
  | diamond
  | master
  | challenger
deriving DecidableEq, Repr

/-- The value of a bracket, used as an index of `matching_que` and `rank_que_mtx`. -/
def Rating.que : Rating → QueId
  | .bronze => 0
  | .silver => 1
  | .gold => 2
  | .platinum => 3
  | .diamond => 4
  | .master => 5
  | .challenger => 6

/-! ### Messages of the clients -/

/-- `packet_join_req`. -/
structure JoinRequest where
  token : Str
  id : Str
deriving DecidableEq, Repr

/-- `packet_friends_req::req_type`. -/
inductive FriendsReqType
  | add
  | del
  | search
deriving DecidableEq, Repr

/-- `packet_friends_req`, with the target's `basic_info` reduced to its only field. -/
structure FriendsRequest where
  type : FriendsReqType
  targetId : Str
deriving DecidableEq, Repr

/-- A field of an `UnknownFieldSet`: its tag, and its content as it will be written again. -/
structure UnknownField where
  tag : ℕ
  content : Str
deriving DecidableEq, Repr

/-- `packet_play_friends_game_rel::req_type`. -/
inductive RelType
  | apply
  | accept
  | deny
deriving DecidableEq, Repr

/-- `packet_play_friends_game_rel`. -/
structure MatchWithFriendsRelay where
  type? : Option RelType
  targetId? : Option Str
  unknownFields : List UnknownField
deriving DecidableEq, Repr

/-- The accessor `type()`: the first value of the enumeration when the field is absent. -/
def MatchWithFriendsRelay.type (m : MatchWithFriendsRelay) : RelType := m.type?.getD .apply

/-- The accessor `target_id()`: empty when the field is absent. -/
def MatchWithFriendsRelay.targetId (m : MatchWithFriendsRelay) : Str := m.targetId?.getD []

/-- The setter `set_type`. -/
def MatchWithFriendsRelay.setType (m : MatchWithFriendsRelay) (t : RelType) :
    MatchWithFriendsRelay := { m with type? := some t }

/-- The setter `set_target_id`. -/
def MatchWithFriendsRelay.setTargetId (m : MatchWithFriendsRelay) (id : Str) :
    MatchWithFriendsRelay := { m with targetId? := some id }

/-- `packet_error_message`; the field is present in every report that is sent. -/
structure ErrorReport where
  errorString : Str
  unknownFields : List UnknownField
deriving DecidableEq, Repr

/-- The setter `set_error_string`. -/
def ErrorReport.setErrorString (m : ErrorReport) (text : Str) : ErrorReport :=
  { m with errorString := text }

/-- A packet of a client, by its header's `type`, with its parsed body.  `other` stands for
the types that `process_packet` ignores, whatever their value. -/
inductive Packet
  | friendsReq (message : FriendsRequest)
  | playFriendsRel (message : MatchWithFriendsRelay)
  | playRankReq
  | joinReq (message : JoinRequest)
  | logoutReq
  | matchConfirm
  | errorMsg (message : ErrorReport)
  | other (type : ℕ)
deriving DecidableEq, Repr

/-! ### Messages of the server -/

/-- `game_history`. -/
structure GameHistory where
  ratingScore : ℤ
  totalGames : ℤ
  win : ℤ
  lose : ℤ
deriving DecidableEq, Repr

/-- `user_info`, with its `basic_info` reduced to its only field. -/
structure UserInfo where
  history : GameHistory
  id : Str
deriving DecidableEq, Repr

/-- `packet_friends_ans::ans_type`. -/
inductive FriendsAnsType
  | addSuccess
  | addFail
  | delSuccess
  | delFail
  | searchSuccess
  | searchFail
deriving DecidableEq, Repr

/-- The messages that the handlers send.  In `joinAns` the history is absent, present with
no field set, or complete. -/
inductive Message
  | joinAns (success : Bool) (history : Option (Option GameHistory)) (friendsList : List Str)
  | logoutAns
  | friendsAns (type : FriendsAnsType) (info : UserInfo) (online : Option Bool)
  | playFriendsRel (relay : MatchWithFriendsRelay)
  | matchComplete (roomKey : Str) (opponent : UserInfo)
  | errorMsg (report : ErrorReport)
deriving DecidableEq, Repr

/-! ### Sizes -/

/-- `packet_header_size`: a `uint32` and an enumeration value. -/
def packetHeaderSize : ℕ := 8

/-- The length of the variable-length encoding of a number: seven bits in each byte. -/
def varintSize (n : ℕ) : ℕ := n.log2 / 7 + 1

/-- `WireFormatLite::Int32Size`: negative numbers are sign-extended to ten bytes. -/
def int32Size (z : ℤ) : ℕ := if z < 0 then 10 else varintSize z.toNat

/-- The size of a length-delimited field of the given content size; all field numbers are
below 16, so the tag takes one byte. -/
def delimitedSize (n : ℕ) : ℕ := 1 + (varintSize n + n)

/-- `game_history::ByteSizeLong`. -/
def GameHistory.byteSize (h : GameHistory) : ℕ :=
  (1 + int32Size h.ratingScore) + (1 + int32Size h.totalGames) + (1 + int32Size h.win) +
    (1 + int32Size h.lose)

/-- `basic_info::ByteSizeLong`. -/
def basicInfoSize (id : Str) : ℕ := delimitedSize id.length

/-- `user_info::ByteSizeLong`. -/
def UserInfo.byteSize (u : UserInfo) : ℕ :=
  delimitedSize u.history.byteSize + delimitedSize (basicInfoSize u.id)

/-- `WireFormat::ComputeUnknownFieldsSize`. -/
def computeUnknownFieldsSize (us : List UnknownField) : ℕ :=
  us.foldr (fun u size => varintSize u.tag + u.content.length + size) 0

/-- `ByteSize` of the messages that the server sends. -/
def Message.byteSize : Message → ℕ
  | .joinAns _ history friends =>
      2 + (match history with
        | none => 0
        | some none => delimitedSize 0
        | some (some h) => delimitedSize h.byteSize) +
      (friends.foldr (fun id size => delimitedSize (basicInfoSize id) + size) 0)
  | .logoutAns => 0
  | .friendsAns _ info online => 2 + delimitedSize info.byteSize + (if online.isSome then 2 else 0)
  | .playFriendsRel relay =>
      (if relay.type?.isSome then 2 else 0) +
      (match relay.targetId? with
        | none => 0
        | some id => delimitedSize id.length) + computeUnknownFieldsSize relay.unknownFields
  | .matchComplete roomKey opponent =>
      delimitedSize roomKey.length + delimitedSize opponent.byteSize
  | .errorMsg report =>
      delimitedSize report.errorString.length + computeUnknownFieldsSize report.unknownFields

end ChannelServer
