/-
The messages of `channel_protobuf`.

One structure for each generated class, with the members that the class has (`id?` is `id_` with its
bit in `_has_bits_`), and its fields as a `Descriptor`: tags, types, which of them are required, and
what the parser expects behind each of them.  `MessageClass` names all of them.
-/
import ChannelServer.Protobuf.Fields

namespace ChannelServer.Protobuf

/-! ### Enumerations -/

/-- `packet_friends_req_req_type`. -/
def friendsReqTypes : Enumeration FriendsReqType where
  number
    | .add => 1
    | .del => 2
    | .search => 3
  ofNumber? z := if z = 1 then some .add else if z = 2 then some .del
    else if z = 3 then some .search else none
  isInt32_number := by rintro (_ | _ | _) <;> decide
  ofNumber?_number := by rintro (_ | _ | _) <;> rfl

/-- `packet_friends_ans_ans_type`. -/
def friendsAnsTypes : Enumeration FriendsAnsType where
  number
    | .addSuccess => 1
    | .addFail => 2
    | .delSuccess => 3
    | .delFail => 4
    | .searchSuccess => 5
    | .searchFail => 6
  ofNumber? z := if z = 1 then some .addSuccess else if z = 2 then some .addFail
    else if z = 3 then some .delSuccess else if z = 4 then some .delFail
    else if z = 5 then some .searchSuccess else if z = 6 then some .searchFail else none
  isInt32_number := by rintro (_ | _ | _ | _ | _ | _) <;> decide
  ofNumber?_number := by rintro (_ | _ | _ | _ | _ | _) <;> rfl

/-- `packet_play_friends_game_rel_req_type`. -/
def relTypes : Enumeration RelType where
  number
    | .apply => 0
    | .accept => 1
    | .deny => 2
  ofNumber? z := if z = 0 then some .apply else if z = 1 then some .accept
    else if z = 2 then some .deny else none
  isInt32_number := by rintro (_ | _ | _) <;> decide
  ofNumber?_number := by rintro (_ | _ | _) <;> rfl

/-! ### Classes with one field -/

variable (W : WireFormatLite)

/-- `basic_info`. -/
structure BasicInfo where
  id? : Option Str
  unknownFields : List UnknownField
deriving DecidableEq, Repr

/-- The fields of `basic_info`. -/
def BasicInfo.type : Descriptor W BasicInfo :=
  .one ⟨none, []⟩ ⟨(·.unknownFields), fun us m => { m with unknownFields := us }, fun _ _ => rfl⟩
    (codecField (.string W) 10 ⟨(·.id?), fun c m => { m with id? := c }, fun _ _ => rfl⟩
      true [] true)
    rfl rfl ⟨fun _ _ => rfl, fun _ _ => rfl⟩ (by rintro ⟨_, _⟩ ⟨_, _⟩ rfl rfl; rfl)

/-- `packet_logout_req`. -/
structure PacketLogoutReq where
  none? : Option Bool
  unknownFields : List UnknownField
deriving DecidableEq, Repr

/-- The fields of `packet_logout_req`. -/
def PacketLogoutReq.type : Descriptor W PacketLogoutReq :=
  .one ⟨none, []⟩ ⟨(·.unknownFields), fun us m => { m with unknownFields := us }, fun _ _ => rfl⟩
    (codecField (.bool W true) 8 ⟨(·.none?), fun c m => { m with none? := c }, fun _ _ => rfl⟩
      false [] true)
    rfl rfl ⟨fun _ _ => rfl, fun _ _ => rfl⟩ (by rintro ⟨_, _⟩ ⟨_, _⟩ rfl rfl; rfl)

/-- `packet_logout_ans`. -/
structure PacketLogoutAns where
  none? : Option Bool
  unknownFields : List UnknownField
deriving DecidableEq, Repr

/-- The fields of `packet_logout_ans`. -/
def PacketLogoutAns.type : Descriptor W PacketLogoutAns :=
  .one ⟨none, []⟩ ⟨(·.unknownFields), fun us m => { m with unknownFields := us }, fun _ _ => rfl⟩
    (codecField (.bool W true) 8 ⟨(·.none?), fun c m => { m with none? := c }, fun _ _ => rfl⟩
      false [] true)
    rfl rfl ⟨fun _ _ => rfl, fun _ _ => rfl⟩ (by rintro ⟨_, _⟩ ⟨_, _⟩ rfl rfl; rfl)

/-- `packet_play_rank_game_req`. -/
structure PacketPlayRankGameReq where
  none? : Option Bool
  unknownFields : List UnknownField
deriving DecidableEq, Repr

/-- The fields of `packet_play_rank_game_req`. -/
def PacketPlayRankGameReq.type : Descriptor W PacketPlayRankGameReq :=
  .one ⟨none, []⟩ ⟨(·.unknownFields), fun us m => { m with unknownFields := us }, fun _ _ => rfl⟩
    (codecField (.bool W true) 8 ⟨(·.none?), fun c m => { m with none? := c }, fun _ _ => rfl⟩
      false [] true)
    rfl rfl ⟨fun _ _ => rfl, fun _ _ => rfl⟩ (by rintro ⟨_, _⟩ ⟨_, _⟩ rfl rfl; rfl)

/-- `packet_play_rank_game_ans`. -/
structure PacketPlayRankGameAns where
  success? : Option Bool
  unknownFields : List UnknownField
deriving DecidableEq, Repr

/-- The fields of `packet_play_rank_game_ans`. -/
def PacketPlayRankGameAns.type : Descriptor W PacketPlayRankGameAns :=
  .one ⟨none, []⟩ ⟨(·.unknownFields), fun us m => { m with unknownFields := us }, fun _ _ => rfl⟩
    (codecField (.bool W false) 8
      ⟨(·.success?), fun c m => { m with success? := c }, fun _ _ => rfl⟩ true [] true)
    rfl rfl ⟨fun _ _ => rfl, fun _ _ => rfl⟩ (by rintro ⟨_, _⟩ ⟨_, _⟩ rfl rfl; rfl)

/-- `packet_matching_confirm`. -/
structure PacketMatchingConfirm where
  none? : Option Bool
  unknownFields : List UnknownField
deriving DecidableEq, Repr

/-- The fields of `packet_matching_confirm`. -/
def PacketMatchingConfirm.type : Descriptor W PacketMatchingConfirm :=
  .one ⟨none, []⟩ ⟨(·.unknownFields), fun us m => { m with unknownFields := us }, fun _ _ => rfl⟩
    (codecField (.bool W true) 8 ⟨(·.none?), fun c m => { m with none? := c }, fun _ _ => rfl⟩
      false [] true)
    rfl rfl ⟨fun _ _ => rfl, fun _ _ => rfl⟩ (by rintro ⟨_, _⟩ ⟨_, _⟩ rfl rfl; rfl)

/-- `packet_error_message`. -/
structure PacketErrorMessage where
  errorString? : Option Str
  unknownFields : List UnknownField
deriving DecidableEq, Repr

/-- The fields of `packet_error_message`. -/
def PacketErrorMessage.type : Descriptor W PacketErrorMessage :=
  .one ⟨none, []⟩ ⟨(·.unknownFields), fun us m => { m with unknownFields := us }, fun _ _ => rfl⟩
    (codecField (.string W) 10
      ⟨(·.errorString?), fun c m => { m with errorString? := c }, fun _ _ => rfl⟩ true [] true)
    rfl rfl ⟨fun _ _ => rfl, fun _ _ => rfl⟩ (by rintro ⟨_, _⟩ ⟨_, _⟩ rfl rfl; rfl)

/-! ### Classes with more fields -/

/-- `game_history`. -/
structure GameHistory where
  ratingScore? : Option ℤ
  totalGames? : Option ℤ
  win? : Option ℤ
  lose? : Option ℤ
  unknownFields : List UnknownField
deriving DecidableEq, Repr

/-- The fields of `game_history`. -/
def GameHistory.type : Descriptor W GameHistory where
  new := ⟨none, none, none, none, []⟩
  unknown := ⟨(·.unknownFields), fun us m => { m with unknownFields := us }, fun _ _ => rfl⟩
  fields := [
    codecField (.int32 W) 8
      ⟨(·.ratingScore?), fun c m => { m with ratingScore? := c }, fun _ _ => rfl⟩ true [16] false,
    codecField (.int32 W) 16
      ⟨(·.totalGames?), fun c m => { m with totalGames? := c }, fun _ _ => rfl⟩ true [24] false,
    codecField (.int32 W) 24
      ⟨(·.win?), fun c m => { m with win? := c }, fun _ _ => rfl⟩ true [32] false,
    codecField (.int32 W) 32
      ⟨(·.lose?), fun c m => { m with lose? := c }, fun _ _ => rfl⟩ true [] true]
  nodup := by simp
  get_new := by
    simp only [List.forall_mem_cons]
    exact ⟨rfl, rfl, rfl, rfl, by simp⟩
  unknown_new := rfl
  apart := by
    simp only [List.pairwise_cons, List.forall_mem_cons, List.not_mem_nil]
    refine ⟨⟨?_, ?_, ?_, by simp⟩, ⟨?_, ?_, by simp⟩, ⟨?_, by simp⟩, by simp, .nil⟩
    all_goals exact ⟨fun _ _ => rfl, fun _ _ => rfl⟩
  apart_unknown := by
    simp only [List.forall_mem_cons]
    refine ⟨?_, ?_, ?_, ?_, by simp⟩
    all_goals exact ⟨fun _ _ => rfl, fun _ _ => rfl⟩
  ext := by
    rintro ⟨_, _, _, _, _⟩ ⟨_, _, _, _, _⟩ h rfl
    simp only [List.forall_mem_cons] at h
    obtain ⟨rfl, rfl, rfl, rfl, -⟩ := h
    rfl

/-- `user_info`. -/
structure UserInfo where
  gameHistory? : Option GameHistory
  basicInfo? : Option BasicInfo
  unknownFields : List UnknownField
deriving DecidableEq, Repr

/-- The fields of `user_info`. -/
def UserInfo.type : Descriptor W UserInfo :=
  .two ⟨none, none, []⟩
    ⟨(·.unknownFields), fun us m => { m with unknownFields := us }, fun _ _ => rfl⟩
    (codecField (.message (GameHistory.type W)) 10
      ⟨(·.gameHistory?), fun c m => { m with gameHistory? := c }, fun _ _ => rfl⟩ true [18] false)
    (codecField (.message (BasicInfo.type W)) 18
      ⟨(·.basicInfo?), fun c m => { m with basicInfo? := c }, fun _ _ => rfl⟩ true [] true)
    (by simp) ⟨rfl, rfl⟩ rfl ⟨fun _ _ => rfl, fun _ _ => rfl⟩
    ⟨⟨fun _ _ => rfl, fun _ _ => rfl⟩, fun _ _ => rfl, fun _ _ => rfl⟩
    (by rintro ⟨_, _, _⟩ ⟨_, _, _⟩ rfl rfl rfl; rfl)

/-- `packet_join_req`. -/
structure PacketJoinReq where
  token? : Option Str
  id? : Option Str
  unknownFields : List UnknownField
deriving DecidableEq, Repr

/-- The fields of `packet_join_req`. -/
def PacketJoinReq.type : Descriptor W PacketJoinReq :=
  .two ⟨none, none, []⟩
    ⟨(·.unknownFields), fun us m => { m with unknownFields := us }, fun _ _ => rfl⟩
    (codecField (.string W) 10 ⟨(·.token?), fun c m => { m with token? := c }, fun _ _ => rfl⟩
      true [18] false)
    (codecField (.string W) 18 ⟨(·.id?), fun c m => { m with id? := c }, fun _ _ => rfl⟩
      true [] true)
    (by simp) ⟨rfl, rfl⟩ rfl ⟨fun _ _ => rfl, fun _ _ => rfl⟩
    ⟨⟨fun _ _ => rfl, fun _ _ => rfl⟩, fun _ _ => rfl, fun _ _ => rfl⟩
    (by rintro ⟨_, _, _⟩ ⟨_, _, _⟩ rfl rfl rfl; rfl)

/-- `packet_join_ans`. -/
structure PacketJoinAns where
  success? : Option Bool
  history? : Option GameHistory
  friendsList : List BasicInfo
  unknownFields : List UnknownField
deriving DecidableEq, Repr

/-- The fields of `packet_join_ans`. -/
def PacketJoinAns.type : Descriptor W PacketJoinAns where
  new := ⟨none, none, [], []⟩
  unknown := ⟨(·.unknownFields), fun us m => { m with unknownFields := us }, fun _ _ => rfl⟩
  fields := [
    codecField (.bool W false) 8
      ⟨(·.success?), fun c m => { m with success? := c }, fun _ _ => rfl⟩ true [18] false,
    codecField (.message (GameHistory.type W)) 18
      ⟨(·.history?), fun c m => { m with history? := c }, fun _ _ => rfl⟩ false [26] false,
    codecField (.messages (BasicInfo.type W)) 26
      ⟨(·.friendsList), fun c m => { m with friendsList := c }, fun _ _ => rfl⟩ false [26] true]
  nodup := by simp
  get_new := by
    simp only [List.forall_mem_cons]
    exact ⟨rfl, rfl, rfl, by simp⟩
  unknown_new := rfl
  apart := by
    simp only [List.pairwise_cons, List.forall_mem_cons, List.not_mem_nil]
    refine ⟨⟨?_, ?_, by simp⟩, ⟨?_, by simp⟩, by simp, .nil⟩
    all_goals exact ⟨fun _ _ => rfl, fun _ _ => rfl⟩
  apart_unknown := by
    simp only [List.forall_mem_cons]
    refine ⟨?_, ?_, ?_, by simp⟩
    all_goals exact ⟨fun _ _ => rfl, fun _ _ => rfl⟩
  ext := by
    rintro ⟨_, _, _, _⟩ ⟨_, _, _, _⟩ h rfl
    simp only [List.forall_mem_cons] at h
    obtain ⟨rfl, rfl, rfl, -⟩ := h
    rfl

/-- `packet_friends_req`. -/
structure PacketFriendsReq where
  type? : Option FriendsReqType
  targetInfo? : Option BasicInfo
  unknownFields : List UnknownField
deriving DecidableEq, Repr

/-- The fields of `packet_friends_req`. -/
def PacketFriendsReq.type : Descriptor W PacketFriendsReq :=
  .two ⟨none, none, []⟩
    ⟨(·.unknownFields), fun us m => { m with unknownFields := us }, fun _ _ => rfl⟩
    (enumField friendsReqTypes .add 8 ⟨(·.type?), fun c m => { m with type? := c }, fun _ _ => rfl⟩
      true [18] false)
    (codecField (.message (BasicInfo.type W)) 18
      ⟨(·.targetInfo?), fun c m => { m with targetInfo? := c }, fun _ _ => rfl⟩ true [] true)
    (by simp) ⟨rfl, rfl⟩ rfl ⟨fun _ _ => rfl, fun _ _ => rfl⟩
    ⟨⟨fun _ _ => rfl, fun _ _ => rfl⟩, fun _ _ => rfl, fun _ _ => rfl⟩
    (by rintro ⟨_, _, _⟩ ⟨_, _, _⟩ rfl rfl rfl; rfl)

/-- `packet_friends_ans`. -/
structure PacketFriendsAns where
  type? : Option FriendsAnsType
  friendsInfo? : Option UserInfo
  online? : Option Bool
  unknownFields : List UnknownField
deriving DecidableEq, Repr

/-- The fields of `packet_friends_ans`. -/
def PacketFriendsAns.type : Descriptor W PacketFriendsAns where
  new := ⟨none, none, none, []⟩
  unknown := ⟨(·.unknownFields), fun us m => { m with unknownFields := us }, fun _ _ => rfl⟩
  fields := [
    enumField friendsAnsTypes .addSuccess 8
      ⟨(·.type?), fun c m => { m with type? := c }, fun _ _ => rfl⟩ true [18] false,
    codecField (.message (UserInfo.type W)) 18
      ⟨(·.friendsInfo?), fun c m => { m with friendsInfo? := c }, fun _ _ => rfl⟩ false [24] false,
    codecField (.bool W false) 24
      ⟨(·.online?), fun c m => { m with online? := c }, fun _ _ => rfl⟩ false [] true]
  nodup := by simp
  get_new := by
    simp only [List.forall_mem_cons]
    exact ⟨rfl, rfl, rfl, by simp⟩
  unknown_new := rfl
  apart := by
    simp only [List.pairwise_cons, List.forall_mem_cons, List.not_mem_nil]
    refine ⟨⟨?_, ?_, by simp⟩, ⟨?_, by simp⟩, by simp, .nil⟩
    all_goals exact ⟨fun _ _ => rfl, fun _ _ => rfl⟩
  apart_unknown := by
    simp only [List.forall_mem_cons]
    refine ⟨?_, ?_, ?_, by simp⟩
    all_goals exact ⟨fun _ _ => rfl, fun _ _ => rfl⟩
  ext := by
    rintro ⟨_, _, _, _⟩ ⟨_, _, _, _⟩ h rfl
    simp only [List.forall_mem_cons] at h
    obtain ⟨rfl, rfl, rfl, -⟩ := h
    rfl

/-- `packet_play_friends_game_rel`. -/
structure PacketPlayFriendsGameRel where
  type? : Option RelType
  targetId? : Option Str
  unknownFields : List UnknownField
deriving DecidableEq, Repr

/-- The fields of `packet_play_friends_game_rel`. -/
def PacketPlayFriendsGameRel.type : Descriptor W PacketPlayFriendsGameRel :=
  .two ⟨none, none, []⟩
    ⟨(·.unknownFields), fun us m => { m with unknownFields := us }, fun _ _ => rfl⟩
    (enumField relTypes .apply 8 ⟨(·.type?), fun c m => { m with type? := c }, fun _ _ => rfl⟩
      true [26] false)
    (codecField (.string W) 26 ⟨(·.targetId?), fun c m => { m with targetId? := c }, fun _ _ => rfl⟩
      true [] true)
    (by simp) ⟨rfl, rfl⟩ rfl ⟨fun _ _ => rfl, fun _ _ => rfl⟩
    ⟨⟨fun _ _ => rfl, fun _ _ => rfl⟩, fun _ _ => rfl, fun _ _ => rfl⟩
    (by rintro ⟨_, _, _⟩ ⟨_, _, _⟩ rfl rfl rfl; rfl)

/-- `packet_matching_complete_ans`. -/
structure PacketMatchingCompleteAns where
  roomKey? : Option Str
  opponentPlayer? : Option UserInfo
  unknownFields : List UnknownField
deriving DecidableEq, Repr

/-- The fields of `packet_matching_complete_ans`. -/
def PacketMatchingCompleteAns.type : Descriptor W PacketMatchingCompleteAns :=
  .two ⟨none, none, []⟩
    ⟨(·.unknownFields), fun us m => { m with unknownFields := us }, fun _ _ => rfl⟩
    (codecField (.string W) 10 ⟨(·.roomKey?), fun c m => { m with roomKey? := c }, fun _ _ => rfl⟩
      true [18] false)
    (codecField (.message (UserInfo.type W)) 18
      ⟨(·.opponentPlayer?), fun c m => { m with opponentPlayer? := c }, fun _ _ => rfl⟩
      true [] true)
    (by simp) ⟨rfl, rfl⟩ rfl ⟨fun _ _ => rfl, fun _ _ => rfl⟩
    ⟨⟨fun _ _ => rfl, fun _ _ => rfl⟩, fun _ _ => rfl, fun _ _ => rfl⟩
    (by rintro ⟨_, _, _⟩ ⟨_, _, _⟩ rfl rfl rfl; rfl)

/-! ### All classes -/

/-- The classes of `channel_protobuf`. -/
inductive MessageClass
  | basicInfo
  | gameHistory
  | userInfo
  | packetJoinAns
  | packetJoinReq
  | packetLogoutReq
  | packetLogoutAns
  | packetFriendsReq
  | packetFriendsAns
  | packetPlayRankGameReq
  | packetPlayRankGameAns
  | packetPlayFriendsGameRel
  | packetMatchingCompleteAns
  | packetMatchingConfirm
  | packetErrorMessage
deriving DecidableEq, Repr

/-- The objects of a class. -/
@[reducible] def MessageClass.Object : MessageClass → Type
  | .basicInfo => BasicInfo
  | .gameHistory => GameHistory
  | .userInfo => UserInfo
  | .packetJoinAns => PacketJoinAns
  | .packetJoinReq => PacketJoinReq
  | .packetLogoutReq => PacketLogoutReq
  | .packetLogoutAns => PacketLogoutAns
  | .packetFriendsReq => PacketFriendsReq
  | .packetFriendsAns => PacketFriendsAns
  | .packetPlayRankGameReq => PacketPlayRankGameReq
  | .packetPlayRankGameAns => PacketPlayRankGameAns
  | .packetPlayFriendsGameRel => PacketPlayFriendsGameRel
  | .packetMatchingCompleteAns => PacketMatchingCompleteAns
  | .packetMatchingConfirm => PacketMatchingConfirm
  | .packetErrorMessage => PacketErrorMessage

/-- The fields of a class. -/
def MessageClass.type : (c : MessageClass) → Descriptor W c.Object
  | .basicInfo => BasicInfo.type W
  | .gameHistory => GameHistory.type W
  | .userInfo => UserInfo.type W
  | .packetJoinAns => PacketJoinAns.type W
  | .packetJoinReq => PacketJoinReq.type W
  | .packetLogoutReq => PacketLogoutReq.type W
  | .packetLogoutAns => PacketLogoutAns.type W
  | .packetFriendsReq => PacketFriendsReq.type W
  | .packetFriendsAns => PacketFriendsAns.type W
  | .packetPlayRankGameReq => PacketPlayRankGameReq.type W
  | .packetPlayRankGameAns => PacketPlayRankGameAns.type W
  | .packetPlayFriendsGameRel => PacketPlayFriendsGameRel.type W
  | .packetMatchingCompleteAns => PacketMatchingCompleteAns.type W
  | .packetMatchingConfirm => PacketMatchingConfirm.type W
  | .packetErrorMessage => PacketErrorMessage.type W

end ChannelServer.Protobuf
