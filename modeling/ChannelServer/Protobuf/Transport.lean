/-
Packets with messages in them.

`packet_handler` puts a header in front of a serialized message, and `process_packet` finds the
handler by the header and parses the rest.  `incodeMessage` is the sender on the level of the block
that it allocates; `processedPacket` is what a handler gets to see.  `packet_round_trip` connects
the two, for the classes of `channel_protobuf` with any runtime.

The handlers of this development send a `Message`; `Message.toTyped` is the object that the source
builds for it.
-/
import ChannelServer.Malformed
import ChannelServer.Protobuf.Codec
import ChannelServer.Receive

namespace ChannelServer.Protobuf

open Memory Streams Streams.Framing

/-! ### Types of packets -/

/-- `message_type`. -/
inductive MessageType
  | friendsReq
  | friendsAns
  | playRankReq
  | playRankAns
  | playFriendsRel
  | matchComplete
  | matchConfirm
  | errorMsg
  | joinReq
  | joinAns
  | logoutReq
  | logoutAns
deriving DecidableEq, Repr

namespace MessageType

/-- The value of a type in a header. -/
def number : MessageType → ℕ
  | friendsReq => 0
  | friendsAns => 1
  | playRankReq => 2
  | playRankAns => 3
  | playFriendsRel => 4
  | matchComplete => 5
  | matchConfirm => 6
  | errorMsg => 7
  | joinReq => 8
  | joinAns => 9
  | logoutReq => 10
  | logoutAns => 11

/-- The class for which an overload of `incode_message` writes the type. -/
def messageClass : MessageType → MessageClass
  | friendsReq => .packetFriendsReq
  | friendsAns => .packetFriendsAns
  | playRankReq => .packetPlayRankGameReq
  | playRankAns => .packetPlayRankGameAns
  | playFriendsRel => .packetPlayFriendsGameRel
  | matchComplete => .packetMatchingCompleteAns
  | matchConfirm => .packetMatchingConfirm
  | errorMsg => .packetErrorMessage
  | joinReq => .packetJoinReq
  | joinAns => .packetJoinAns
  | logoutReq => .packetLogoutReq
  | logoutAns => .packetLogoutAns

lemma number_lt (t : MessageType) : t.number < 2 ^ 32 := by
  cases t <;> decide

/-- The type with a value, if there is one. -/
def ofNumber? : ℕ → Option MessageType
  | 0 => some friendsReq
  | 1 => some friendsAns
  | 2 => some playRankReq
  | 3 => some playRankAns
  | 4 => some playFriendsRel
  | 5 => some matchComplete
  | 6 => some matchConfirm
  | 7 => some errorMsg
  | 8 => some joinReq
  | 9 => some joinAns
  | 10 => some logoutReq
  | 11 => some logoutAns
  | _ => none

lemma ofNumber?_number (t : MessageType) : ofNumber? t.number = some t := by
  cases t <;> rfl

end MessageType

/-- A message and the type under which it is sent. -/
structure TypedMessage where
  type : MessageType
  object : type.messageClass.Object

/-! ### Sending -/

namespace TypedMessage

variable (W : WireFormatLite) (m : TypedMessage)

/-- `ByteSize`. -/
def byteSize : ℕ := (m.type.messageClass.type W).byteSize m.object

/-- The bytes of the message. -/
def serialize : Str := (m.type.messageClass.type W).serialize m.object

/-- The message can be written. -/
def Valid : Prop := (m.type.messageClass.type W).Valid m.object ∧ m.byteSize W < 2 ^ 31

/-- The bytes of the packet. -/
def encode : List UInt8 := incoding ⟨m.type.number, m.serialize W⟩

/-- `packet_handler::incode_message`, in a block with the contents `memory`; it fails when the size
of the block, a sum in the type `int`, overflows, and when a write leaves the block. -/
def incodeMessage (memory : ℕ → UInt8) : Option (List UInt8) := do
  guard (packetHeaderSize + m.byteSize W < 2 ^ 31)
  let incodingData := block memory (packetHeaderSize + m.byteSize W)
  let incodingData ← writeRange incodingData 4 (le32 m.type.number)
  let incodingData ← writeRange incodingData 0 (le32 (m.byteSize W))
  let incodingData ← writeRange incodingData packetHeaderSize (m.serialize W)
  some incodingData.toList

variable {W m}

lemma length_serialize (hm : m.Valid W) : (m.serialize W).length = m.byteSize W :=
  Descriptor.length_serialize hm.1 hm.2

lemma length_encode (hm : m.Valid W) : (m.encode W).length = m.byteSize W + packetHeaderSize := by
  rw [encode, length_incoding, length_serialize hm]

lemma isFrame_encode (hm : m.Valid W) : packetFraming.IsFrame (m.encode W) := by
  have h8 : packetHeaderSize = 8 := rfl
  have hlen := length_encode hm
  have hsize := hm.2
  refine isFrame_incoding ?_
  rw [encode] at hlen
  omega

end TypedMessage

/-- A range inside the block can be written. -/
lemma exists_writeRange {n : ℕ} (b : List.Vector UInt8 n) (i : ℕ) (xs : List UInt8)
    (h : i + xs.length ≤ n) : ∃ b', writeRange b i xs = some b' ∧
      b'.toList = b.toList.take i ++ xs ++ b.toList.drop (i + xs.length) := by
  unfold writeRange
  rw [dif_pos (by omega)]
  exact ⟨_, rfl, rfl⟩

/-- The sender stays inside its block, and fills it. -/
lemma TypedMessage.incodeMessage_eq {W : WireFormatLite} {m : TypedMessage} (hm : m.Valid W)
    (hsize : packetHeaderSize + m.byteSize W < 2 ^ 31) (memory : ℕ → UInt8) :
    m.incodeMessage W memory = some (m.encode W) := by
  have h8 : packetHeaderSize = 8 := rfl
  have hlen := m.length_serialize hm
  unfold incodeMessage
  have hb := (block memory (packetHeaderSize + m.byteSize W)).toList_length
  generalize block memory (packetHeaderSize + m.byteSize W) = b₀ at hb
  obtain ⟨b₁, h₁, hb₁⟩ := exists_writeRange b₀ 4 (le32 m.type.number)
    (by rw [length_le32]; omega)
  obtain ⟨b₂, h₂, hb₂⟩ := exists_writeRange b₁ 0 (le32 (m.byteSize W))
    (by rw [length_le32]; omega)
  obtain ⟨b₃, h₃, hb₃⟩ := exists_writeRange b₂ packetHeaderSize (m.serialize W) (by omega)
  -- the header is complete before the message is written behind it
  have hheader : b₂.toList = le32 (m.byteSize W) ++ le32 m.type.number ++ b₀.toList.drop 8 := by
    have hdrop : (b₀.toList.take 4 ++ le32 m.type.number ++ b₀.toList.drop 8).drop 4 =
        le32 m.type.number ++ b₀.toList.drop 8 := by
      rw [List.append_assoc]
      exact List.drop_left' (by rw [List.length_take]; omega)
    rw [hb₂, hb₁, length_le32, length_le32, List.take_zero, List.nil_append, Nat.zero_add, hdrop,
      List.append_assoc]
  have htake : b₂.toList.take 8 = le32 (m.byteSize W) ++ le32 m.type.number := by
    rw [hheader]
    exact List.take_left' rfl
  have hend : b₂.toList.drop (8 + (m.serialize W).length) = [] :=
    List.drop_eq_nil_of_le (by rw [b₂.toList_length]; omega)
  have hfull : b₃.toList = m.encode W := by
    have hparts : b₃.toList = b₂.toList.take 8 ++ m.serialize W ++
        b₂.toList.drop (8 + (m.serialize W).length) := hb₃
    rw [hparts, htake, hend, List.append_nil, encode, incoding, hlen]
  rw [Nat.cast_ofNat] at h₁
  rw [Nat.cast_zero] at h₂
  have hguard : (guard (packetHeaderSize + m.byteSize W < 2 ^ 31) : Option Unit) = some () :=
    if_pos hsize
  simp only [hguard, h₁, h₂, h₃, Option.bind_eq_bind, Option.bind_some, hfull]

/-! ### Receiving -/

section Accessors

/-- `type()` and `target_info().id()`. -/
def PacketFriendsReq.toRequest (m : PacketFriendsReq) : FriendsRequest :=
  ⟨m.type?.getD .add, (m.targetInfo?.bind (·.id?)).getD []⟩

/-- A relay, which is sent on as it is. -/
def PacketPlayFriendsGameRel.toRelay (m : PacketPlayFriendsGameRel) : MatchWithFriendsRelay :=
  ⟨m.type?, m.targetId?, m.unknownFields⟩

/-- `token()` and `id()`. -/
def PacketJoinReq.toRequest (m : PacketJoinReq) : JoinRequest := ⟨m.token?.getD [], m.id?.getD []⟩

/-- `error_string()`. -/
def PacketErrorMessage.toReport (m : PacketErrorMessage) : ErrorReport :=
  ⟨m.errorString?.getD [], m.unknownFields⟩

end Accessors

section Receiving

variable (W : WireFormatLite)

/-- `ParseFromArray` with the accessors that the handlers use. -/
def parsed {M μ : Type} (D : Descriptor W M) (view : M → μ) (body : Str) : Parsed μ :=
  ⟨(D.parseFromArray body).2, view (D.parseFromArray body).1⟩

/-- The parse functions of the generated classes. -/
def parsers : Parsers where
  friendsReq := parsed W (PacketFriendsReq.type W) PacketFriendsReq.toRequest
  playFriendsRel := parsed W (PacketPlayFriendsGameRel.type W) PacketPlayFriendsGameRel.toRelay
  playRankReq := parsed W (PacketPlayRankGameReq.type W) fun _ => ()
  joinReq := parsed W (PacketJoinReq.type W) PacketJoinReq.toRequest

/-- The packet that `process_packet` dispatches for the bytes at `p_data`.  A size below `2 ^ 31`
is the number of bytes that are parsed. -/
def processedPacket (pData : List UInt8) : Packet :=
  let size := ofLe32 (pData.take 4)
  let type := ofLe32 ((pData.drop 4).take 4)
  let body := (pData.drop packetHeaderSize).take size
  match MessageType.ofNumber? type with
  | some .friendsReq => (parsers W).packet .friendsReq body
  | some .playFriendsRel => (parsers W).packet .playFriendsRel body
  | some .playRankReq => (parsers W).packet .playRankReq body
  | some .joinReq => (parsers W).packet .joinReq body
  | some .logoutReq => .logoutReq
  | some .matchConfirm => .matchConfirm
  | some .errorMsg =>
      .errorMsg
        (decodeMessage (parsed W (PacketErrorMessage.type W) PacketErrorMessage.toReport) body)
  | _ => .other type

end Receiving

/-- The packet that the handlers are to see. -/
def TypedMessage.packet : TypedMessage → Packet
  | ⟨.friendsReq, m⟩ => .friendsReq (PacketFriendsReq.toRequest m)
  | ⟨.playFriendsRel, m⟩ => .playFriendsRel (PacketPlayFriendsGameRel.toRelay m)
  | ⟨.playRankReq, _⟩ => .playRankReq
  | ⟨.joinReq, m⟩ => .joinReq (PacketJoinReq.toRequest m)
  | ⟨.logoutReq, _⟩ => .logoutReq
  | ⟨.matchConfirm, _⟩ => .matchConfirm
  | ⟨.errorMsg, m⟩ => .errorMsg (PacketErrorMessage.toReport m)
  | ⟨t, _⟩ => .other t.number

/-- The three parts of a packet. -/
lemma encode_parts {W : WireFormatLite} {m : TypedMessage} (hm : m.Valid W) :
    ofLe32 ((m.encode W).take 4) = (m.serialize W).length ∧
      ofLe32 (((m.encode W).drop 4).take 4) = m.type.number ∧
      (m.encode W).drop packetHeaderSize = m.serialize W := by
  have hsize : (m.serialize W).length < 2 ^ 32 := by
    have hlen := m.length_serialize hm
    have hlt := hm.2
    omega
  exact ⟨ofLe32_le32 hsize, ofLe32_le32 m.type.number_lt, rfl⟩

lemma decodeMessage_parsed {W : WireFormatLite} {M μ : Type} {D : Descriptor W M} {m : M}
    (hm : D.Valid m) (hs : D.byteSize m < 2 ^ 31) (view : M → μ) :
    decodeMessage (parsed W D view) (D.serialize m) = view m := by
  simp [decodeMessage, parsed, Descriptor.parseFromArray, Descriptor.dispatch_serialize hm hs,
    Descriptor.mergeFrom_new]

/-- A handler gets to see the fields of the message that was sent. -/
lemma processedPacket_encode {W : WireFormatLite} {m : TypedMessage} (hm : m.Valid W) :
    processedPacket W (m.encode W) = m.packet := by
  obtain ⟨hsize, htype, hbody⟩ := encode_parts hm
  unfold processedPacket
  simp only [hsize, htype, hbody, List.take_length, MessageType.ofNumber?_number]
  obtain ⟨t, m⟩ := m
  cases t with
  | friendsReq => exact congrArg Packet.friendsReq (decodeMessage_parsed hm.1 hm.2 _)
  | playFriendsRel => exact congrArg Packet.playFriendsRel (decodeMessage_parsed hm.1 hm.2 _)
  | joinReq => exact congrArg Packet.joinReq (decodeMessage_parsed hm.1 hm.2 _)
  | errorMsg => exact congrArg Packet.errorMsg (decodeMessage_parsed hm.1 hm.2 _)
  | playRankReq | logoutReq | matchConfirm | friendsAns | playRankAns | matchComplete | joinAns
  | logoutAns => rfl

/-- **Round trip of packets.**  For a message that is, with its header, smaller than `2 ^ 31` bytes,
`incode_message` stays inside the block that it allocates and fills it, whatever was in it, with as
many bytes as its callers pass to `wait_send`; these are one packet, and `process_packet` calls the
handler with the fields of the message. -/
theorem packet_round_trip {W : WireFormatLite} {m : TypedMessage} (hm : m.Valid W)
    (hsize : packetHeaderSize + m.byteSize W < 2 ^ 31) (memory : ℕ → UInt8) :
    m.incodeMessage W memory = some (m.encode W) ∧
      (m.encode W).length = m.byteSize W + packetHeaderSize ∧
      packetFraming.IsFrame (m.encode W) ∧ processedPacket W (m.encode W) = m.packet :=
  ⟨m.incodeMessage_eq hm hsize memory, m.length_encode hm, m.isFrame_encode hm,
    processedPacket_encode hm⟩

/-- A login request. -/
def loginRequest : TypedMessage := ⟨.joinReq, ⟨some (lit "token"), some (lit "a"), []⟩⟩

lemma valid_loginRequest : loginRequest.Valid .standard :=
  ⟨joinReq_valid _ _, by decide +kernel⟩

theorem packet_round_trip_login :
    loginRequest.incodeMessage .standard (fun _ => 205) = some (loginRequest.encode .standard) ∧
      (loginRequest.encode .standard).length =
        loginRequest.byteSize .standard + packetHeaderSize ∧
      packetFraming.IsFrame (loginRequest.encode .standard) ∧
      processedPacket .standard (loginRequest.encode .standard) = loginRequest.packet :=
  packet_round_trip valid_loginRequest (by decide +kernel) _

/-! ### The messages of the server -/

/-- A `game_history` with all four fields. -/
def historyObject (h : ChannelServer.GameHistory) : GameHistory :=
  ⟨some h.ratingScore, some h.totalGames, some h.win, some h.lose, []⟩

/-- A `basic_info`. -/
def basicInfoObject (id : Str) : BasicInfo := ⟨some id, []⟩

/-- A `user_info`. -/
def userInfoObject (u : ChannelServer.UserInfo) : UserInfo :=
  ⟨some (historyObject u.history), some (basicInfoObject u.id), []⟩

/-- The object that a handler builds for a message, with its type. -/
def toTyped : Message → TypedMessage
  | .joinAns success history friendsList =>
      ⟨.joinAns, ⟨some success,
        history.map fun h => h.elim ⟨none, none, none, none, []⟩ historyObject,
        friendsList.map basicInfoObject, []⟩⟩
  | .logoutAns => ⟨.logoutAns, ⟨none, []⟩⟩
  | .friendsAns type info online =>
      ⟨.friendsAns, ⟨some type, some (userInfoObject info), online, []⟩⟩
  | .playFriendsRel relay => ⟨.playFriendsRel, ⟨relay.type?, relay.targetId?, relay.unknownFields⟩⟩
  | .matchComplete roomKey opponent =>
      ⟨.matchComplete, ⟨some roomKey, some (userInfoObject opponent), []⟩⟩
  | .errorMsg report => ⟨.errorMsg, ⟨some report.errorString, report.unknownFields⟩⟩

/-- The numbers are values of an `int`. -/
def HistoryFits (h : ChannelServer.GameHistory) : Prop :=
  IsInt32 h.ratingScore ∧ IsInt32 h.totalGames ∧ IsInt32 h.win ∧ IsInt32 h.lose

/-- The numbers in a message are values of an `int`, and the unknown fields of a message that is
sent on come from a parse, as they do in the source. -/
def MessageFits (W : WireFormatLite) : Message → Prop
  | .joinAns _ (some (some h)) _ => HistoryFits h
  | .friendsAns _ info _ => HistoryFits info.history
  | .matchComplete _ opponent => HistoryFits opponent.history
  | .playFriendsRel relay => (PacketPlayFriendsGameRel.type W).Leaves relay.unknownFields
  | .errorMsg report => (PacketErrorMessage.type W).Leaves report.unknownFields
  | _ => True

/-- A relay as a parse that did not fail has left it can be sent on. -/
lemma fits_relay {W : WireFormatLite} {m : PacketPlayFriendsGameRel} {body : Str} {b : Bool}
    (h : (PacketPlayFriendsGameRel.type W).mergePartialFromCodedStream
      (PacketPlayFriendsGameRel.type W).new body = (m, .stopped b)) :
    MessageFits W (.playFriendsRel m.toRelay) :=
  Descriptor.leaves_of_dispatch h

section Sizes

variable (W : WireFormatLite)

lemma byteSize_history (h : ChannelServer.GameHistory) :
    (GameHistory.type W).byteSize (historyObject h) = h.byteSize := by
  show 1 + int32Size h.ratingScore + (1 + int32Size h.totalGames + (1 + int32Size h.win +
    (1 + int32Size h.lose))) = h.byteSize
  unfold ChannelServer.GameHistory.byteSize
  omega

lemma byteSize_userInfo (u : ChannelServer.UserInfo) :
    (UserInfo.type W).byteSize (userInfoObject u) = u.byteSize := by
  show 1 + messageSize (GameHistory.type W) (historyObject u.history) +
    (1 + messageSize (BasicInfo.type W) (basicInfoObject u.id)) = u.byteSize
  rw [messageSize, byteSize_history]
  rfl

variable {W} in
/-- Unknown fields are written with the size that is computed for them. -/
lemma length_serializeUnknownFields (hW : W.TagSizes) {us : List UnknownField}
    (hus : ∀ u ∈ us, 0 < u.tag ∧ u.tag < 2 ^ 32) :
    (W.serializeUnknownFields us).length = computeUnknownFieldsSize us := by
  induction us with
  | nil => rfl
  | cons u us ih =>
    obtain ⟨hu, hus⟩ := List.forall_mem_cons.1 hus
    have hrest : (us.flatMap fun u => W.writeTag u.tag ++ u.content).length =
        computeUnknownFieldsSize us := ih hus
    rw [WireFormatLite.serializeUnknownFields, List.flatMap_cons, List.length_append,
      List.length_append, hrest, hW hu.1 hu.2]
    rfl

variable {W} in
/-- The size that the handlers compute is that of the object. -/
lemma byteSize_toTyped (hW : W.TagSizes) {message : Message} (hfits : MessageFits W message) :
    (toTyped message).byteSize W = message.byteSize := by
  cases message with
  | logoutAns => rfl
  | errorMsg report =>
    have hunknown := length_serializeUnknownFields hW fun u hu => (hfits u hu).1
    show delimitedSize report.errorString.length +
      (W.serializeUnknownFields report.unknownFields).length = _
    rw [hunknown]
    rfl
  | joinAns success history friendsList =>
    have hfriends : (friendsList.map basicInfoObject).foldr
        (fun m n => 1 + messageSize (BasicInfo.type W) m + n) 0 =
        friendsList.foldr (fun id size => delimitedSize (basicInfoSize id) + size) 0 := by
      rw [List.foldr_map]
      rfl
    obtain _ | _ | h := history
    · show 2 + (0 + ((friendsList.map basicInfoObject).foldr
        (fun m n => 1 + messageSize (BasicInfo.type W) m + n) 0 + 0)) = 2 + 0 + _
      rw [hfriends]
      omega
    · have hnew : (GameHistory.type W).byteSize ⟨none, none, none, none, []⟩ = 0 := rfl
      show 2 + (1 + messageSize (GameHistory.type W) ⟨none, none, none, none, []⟩ +
        ((friendsList.map basicInfoObject).foldr
          (fun m n => 1 + messageSize (BasicInfo.type W) m + n) 0 + 0)) = 2 + delimitedSize 0 + _
      rw [hfriends, messageSize, hnew, delimitedSize]
      omega
    · show 2 + (1 + messageSize (GameHistory.type W) (historyObject h) +
        ((friendsList.map basicInfoObject).foldr
          (fun m n => 1 + messageSize (BasicInfo.type W) m + n) 0 + 0)) =
        2 + delimitedSize h.byteSize + _
      rw [hfriends, messageSize, byteSize_history, delimitedSize]
      omega
  | friendsAns type info online =>
    have htype : int32Size (friendsAnsTypes.number type) = 1 := by cases type <;> rfl
    have hinfo : messageSize (UserInfo.type W) (userInfoObject info) =
        varintSize info.byteSize + info.byteSize := by rw [messageSize, byteSize_userInfo]
    have honline : online.toList.foldr (fun _ n => 1 + 1 + n) 0 =
        if online.isSome then 2 else 0 := by cases online <;> rfl
    show 1 + int32Size (friendsAnsTypes.number type) +
      (1 + messageSize (UserInfo.type W) (userInfoObject info) +
        (online.toList.foldr (fun _ n => 1 + 1 + n) 0)) = 2 + delimitedSize info.byteSize + _
    rw [htype, hinfo, honline, delimitedSize]
    omega
  | playFriendsRel relay =>
    have hunknown := length_serializeUnknownFields hW fun u hu => (hfits u hu).1
    have htype : relay.type?.toList.foldr (fun type n => 1 + int32Size (relTypes.number type) + n) 0
        = if relay.type?.isSome then 2 else 0 := by
      obtain _ | _ | _ | _ := relay.type? <;> rfl
    have htarget : relay.targetId?.toList.foldr
        (fun id n => 1 + (varintSize id.length + id.length) + n) 0 =
          relay.targetId?.elim 0 fun id => delimitedSize id.length := by
      cases relay.targetId? <;> rfl
    show relay.type?.toList.foldr (fun type n => 1 + int32Size (relTypes.number type) + n) 0 +
      (relay.targetId?.toList.foldr (fun id n => 1 + (varintSize id.length + id.length) + n) 0 +
        0) +
      (W.serializeUnknownFields relay.unknownFields).length = _
    rw [htype, htarget, hunknown, Message.byteSize]
    cases relay.targetId? <;> rfl
  | matchComplete roomKey opponent =>
    show delimitedSize roomKey.length +
      (1 + messageSize (UserInfo.type W) (userInfoObject opponent)) = _
    rw [messageSize, byteSize_userInfo]
    rfl

/-! ### Messages that can be written -/

variable {W}

lemma valid_basicInfo (id : Str) : (BasicInfo.type W).Valid (basicInfoObject id) :=
  ⟨List.forall_mem_singleton.2 fun _ _ => trivial, fun _ hu => absurd hu List.not_mem_nil⟩

lemma valid_history {h : ChannelServer.GameHistory} (hh : HistoryFits h) :
    (GameHistory.type W).Valid (historyObject h) := by
  obtain ⟨hrating, htotal, hwin, hlose⟩ := hh
  refine ⟨List.forall_mem_cons.2 ⟨?_, List.forall_mem_cons.2 ⟨?_, List.forall_mem_cons.2 ⟨?_,
    List.forall_mem_singleton.2 ?_⟩⟩⟩, fun _ hu => absurd hu List.not_mem_nil⟩
  · exact List.forall_mem_singleton.2 hrating
  · exact List.forall_mem_singleton.2 htotal
  · exact List.forall_mem_singleton.2 hwin
  · exact List.forall_mem_singleton.2 hlose

lemma valid_userInfo {u : ChannelServer.UserInfo} (hu : HistoryFits u.history) :
    (UserInfo.type W).Valid (userInfoObject u) :=
  ⟨List.forall_mem_cons.2 ⟨List.forall_mem_singleton.2 (valid_history hu),
    List.forall_mem_singleton.2 (List.forall_mem_singleton.2 (valid_basicInfo u.id))⟩,
    fun _ hu => absurd hu List.not_mem_nil⟩

/-- The object of a message can be written. -/
lemma valid_toTyped (hW : W.TagSizes) {message : Message} (h : MessageFits W message)
    (hs : message.byteSize < 2 ^ 31) : (toTyped message).Valid W := by
  have hunknown : ∀ {p : UnknownField → Prop}, ∀ u ∈ ([] : List UnknownField), p u :=
    fun _ hu => absurd hu List.not_mem_nil
  refine ⟨?_, by rwa [byteSize_toTyped hW h]⟩
  cases message with
  | logoutAns => exact ⟨List.forall_mem_singleton.2 fun _ _ => trivial, hunknown⟩
  | errorMsg _ => exact ⟨List.forall_mem_singleton.2 fun _ _ => trivial, fun u hu => (h u hu).2⟩
  | playFriendsRel _ =>
    exact ⟨List.forall_mem_cons.2 ⟨fun _ _ => trivial,
      List.forall_mem_singleton.2 fun _ _ => trivial⟩, fun u hu => (h u hu).2⟩
  | joinAns success history friendsList =>
    refine ⟨List.forall_mem_cons.2 ⟨fun _ _ => trivial, List.forall_mem_cons.2 ⟨?_,
      List.forall_mem_singleton.2 ?_⟩⟩, hunknown⟩
    · obtain _ | _ | history := history
      · exact fun _ hv => absurd hv List.not_mem_nil
      · exact List.forall_mem_singleton.2 Descriptor.valid_new
      · exact List.forall_mem_singleton.2 (valid_history h)
    · exact List.forall_mem_map.2 fun id _ => valid_basicInfo id
  | friendsAns type info online =>
    refine ⟨List.forall_mem_cons.2 ⟨fun _ _ => trivial, List.forall_mem_cons.2 ⟨?_,
      List.forall_mem_singleton.2 fun _ _ => trivial⟩⟩, hunknown⟩
    exact List.forall_mem_singleton.2 (valid_userInfo h)
  | matchComplete roomKey opponent =>
    refine ⟨List.forall_mem_cons.2 ⟨fun _ _ => trivial, List.forall_mem_singleton.2 ?_⟩, hunknown⟩
    exact List.forall_mem_singleton.2 (valid_userInfo h)

end Sizes

end ChannelServer.Protobuf
