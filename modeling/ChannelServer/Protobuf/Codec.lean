/-
The wire format of the messages.

What holds of the generated code of every class, whatever the runtime does beyond its
documentation: the shortcuts of the parser cannot be observed (`shortcuts_invisible`), what is
written is read back (`round_trip`), also when it is what an earlier parse has left
(`parsed_again`), and fields may come in any order (`field_order`).
-/
import ChannelServer.Protobuf.Messages

namespace ChannelServer.Protobuf

open Records (Input Parser Outcome Reader)

/-! ### The shortcuts of the parser -/

/-- A runtime with other answers of `ExpectTag` and `ExpectAtEnd`. -/
def WireFormatLite.withInput (W : WireFormatLite) (input : Input UInt8 ℕ)
    (h : ∀ l, input.readTag l = W.input.readTag l) : WireFormatLite :=
  { W with
    input := input
    readTag_writeTag := fun hpos hlt rest => (h _).trans (W.readTag_writeTag hpos hlt rest)
    readTag_range := fun ht => W.readTag_range ((h _).symm.trans ht) }

section Shortcuts

variable {W : WireFormatLite} {input : Input UInt8 ℕ}
  {h : ∀ l, input.readTag l = W.input.readTag l} {M N : Type}

/-- The fields are read in the same way. -/
lemma dispatch_withInput {T' : Descriptor (W.withInput input h) M} {T : Descriptor W M}
    (hunknown : T'.unknown = T.unknown) (hfields : T'.parser.fields = T.parser.fields) (m : M)
    (l : Str) : T'.mergePartialFromCodedStream m l = T.mergePartialFromCodedStream m l := by
  simp only [Descriptor.mergePartialFromCodedStream, Parser.dispatch_eq_loop]
  refine Parser.loop_congr h (fun t => ?_) m l
  have hskip : T'.parser.skip = T.parser.skip := by
    funext t
    ext1
    show (fun m l => (pushUnknown T'.unknown (W.skipField t l).1 m, (W.skipField t l).2)) = _
    rw [hunknown]
    rfl
  rw [Parser.lookup?, Parser.lookup?, hfields, hskip]
  rfl

variable {T' : Descriptor (W.withInput input h) N} {T : Descriptor W N}

lemma readMessage_withInput
    (hparse : ∀ m l, T'.mergePartialFromCodedStream m l = T.mergePartialFromCodedStream m l) :
    readMessage T' = readMessage T := by
  funext old l
  simp only [readMessage, hparse]
  rfl

variable {unknown : Slot M (List UnknownField)} {tag : ℕ} {required : Bool} {next : List ℕ}
  {last : Bool} {htag : 0 < tag ∧ tag < 2 ^ 7}

/-- A field with a message is read in the same way when the message is. -/
lemma message_record (hnew : T'.new = T.new)
    (hparse : ∀ m l, T'.mergePartialFromCodedStream m l = T.mergePartialFromCodedStream m l)
    (slot : Slot M (Option N)) :
    (codecField (.message T') tag slot required next last htag :
        Field (W.withInput input h) M unknown).record =
      (codecField (.message T) tag slot required next last htag : Field W M unknown).record := by
  refine congrArg (fun r => (⟨tag, r, next, last⟩ : Records.Field UInt8 ℕ M)) ?_
  ext1
  show (fun m l => (slot.set (some (readMessage T' ((slot.get m).getD T'.new) l).1) m,
    (readMessage T' ((slot.get m).getD T'.new) l).2)) = _
  rw [readMessage_withInput hparse, hnew]
  rfl

lemma messages_record (hnew : T'.new = T.new)
    (hparse : ∀ m l, T'.mergePartialFromCodedStream m l = T.mergePartialFromCodedStream m l)
    (slot : Slot M (List N)) :
    (codecField (.messages T') tag slot required next last htag :
        Field (W.withInput input h) M unknown).record =
      (codecField (.messages T) tag slot required next last htag : Field W M unknown).record := by
  refine congrArg (fun r => (⟨tag, r, next, last⟩ : Records.Field UInt8 ℕ M)) ?_
  ext1
  show (fun m l => (slot.set (slot.get m ++ [(readMessage T' T'.new l).1]) m,
    (readMessage T' T'.new l).2)) = _
  rw [readMessage_withInput hparse, hnew]
  rfl

end Shortcuts

/-- **The shortcuts cannot be observed**: the object and the outcome of a parse do not depend on
what `ExpectTag` and `ExpectAtEnd` answer behind the fields, in the message or in the messages
inside it. -/
theorem shortcuts_invisible (W : WireFormatLite) (input : Input UInt8 ℕ)
    (h : ∀ l, input.readTag l = W.input.readTag l) (c : MessageClass) (m : c.Object) (l : Str) :
    (c.type (W.withInput input h)).mergePartialFromCodedStream m l =
      (c.type W).mergePartialFromCodedStream m l := by
  have hbasic : ∀ m l, (BasicInfo.type (W.withInput input h)).mergePartialFromCodedStream m l =
      (BasicInfo.type W).mergePartialFromCodedStream m l := dispatch_withInput rfl rfl
  have hhistory : ∀ m l, (GameHistory.type (W.withInput input h)).mergePartialFromCodedStream m l =
      (GameHistory.type W).mergePartialFromCodedStream m l := dispatch_withInput rfl rfl
  have huser : ∀ m l, (UserInfo.type (W.withInput input h)).mergePartialFromCodedStream m l =
      (UserInfo.type W).mergePartialFromCodedStream m l :=
    dispatch_withInput rfl (congrArg₂ (fun f g => [f, g]) (message_record rfl hhistory _)
      (message_record rfl hbasic _))
  cases c with
  | basicInfo => exact hbasic m l
  | gameHistory => exact hhistory m l
  | userInfo => exact huser m l
  | packetJoinAns =>
    refine dispatch_withInput rfl ?_ m l
    exact congrArg₂ (fun f g => [_, f, g]) (message_record rfl hhistory _)
      (messages_record rfl hbasic _)
  | packetFriendsReq =>
    refine dispatch_withInput rfl ?_ m l
    exact congrArg (fun f => [_, f]) (message_record rfl hbasic _)
  | packetFriendsAns =>
    refine dispatch_withInput rfl ?_ m l
    exact congrArg (fun f => [_, f, _]) (message_record rfl huser _)
  | packetMatchingCompleteAns =>
    refine dispatch_withInput rfl ?_ m l
    exact congrArg (fun f => [_, f]) (message_record rfl huser _)
  | packetJoinReq | packetLogoutReq | packetLogoutAns | packetPlayRankGameReq
  | packetPlayRankGameAns | packetPlayFriendsGameRel | packetMatchingConfirm
  | packetErrorMessage => exact dispatch_withInput rfl rfl m l

/-- The answers of a runtime that never looks ahead. -/
def WireFormatLite.plainInput (W : WireFormatLite) : Input UInt8 ℕ where
  readTag := W.input.readTag
  expectTag _ _ := none
  expectAtEnd _ := false
  length_of_readTag := W.input.length_of_readTag
  readTag_of_expectTag h := nomatch h
  nil_of_expectAtEnd h := nomatch h

theorem shortcuts_invisible_plain :
    (MessageClass.packetJoinAns.type (WireFormatLite.standard.withInput
        WireFormatLite.standard.plainInput fun _ => rfl)).mergePartialFromCodedStream
      ⟨none, none, [], []⟩ [8, 1, 26, 3, 10, 1, 65, 26, 0] =
    (MessageClass.packetJoinAns.type .standard).mergePartialFromCodedStream
      ⟨none, none, [], []⟩ [8, 1, 26, 3, 10, 1, 65, 26, 0] :=
  shortcuts_invisible .standard WireFormatLite.standard.plainInput (fun _ => rfl) .packetJoinAns _ _

/-! ### Round trips -/

variable {W : WireFormatLite} {c : MessageClass}

/-- **Round trip**: a message that was serialized is parsed as itself, and `ParseFromArray` accepts
it when it is initialized; messages that are serialized one behind the other are merged. -/
theorem round_trip {ms : List c.Object}
    (hms : ∀ m ∈ ms, (c.type W).Valid m ∧ (c.type W).byteSize m < 2 ^ 31) :
    (∀ m ∈ ms, (c.type W).parseFromArray ((c.type W).serialize m) =
      (m, (c.type W).isInitialized m)) ∧
    ∀ a, (c.type W).mergePartialFromCodedStream a (ms.flatMap (c.type W).serialize) =
      (ms.foldl (c.type W).mergeFrom a, .stopped true) := by
  constructor
  · intro m hm
    obtain ⟨hvalid, hsize⟩ := hms m hm
    simp [Descriptor.parseFromArray, Descriptor.dispatch_serialize hvalid hsize,
      Descriptor.mergeFrom_new]
  · intro a
    have hreads : (c.type W).parser.Reads (ms.flatMap (c.type W).serialize) fun a =>
        ms.foldl (c.type W).mergeFrom a :=
      .flatten (fun m a => (c.type W).mergeFrom a m) fun m hm =>
        Descriptor.reads_serialize (hms m hm).1 (hms m hm).2
    rw [Descriptor.mergePartialFromCodedStream, Parser.dispatch_eq_loop]
    exact hreads.loop_eq a

/-- Login requests without unknown fields can be written. -/
lemma joinReq_valid (token? id? : Option Str) :
    (MessageClass.packetJoinReq.type W).Valid ⟨token?, id?, []⟩ := by
  refine ⟨List.forall_mem_cons.2 ⟨fun _ _ => trivial, List.forall_mem_singleton.2 ?_⟩, ?_⟩
  · exact fun _ _ => trivial
  · exact fun u hu => absurd hu List.not_mem_nil

theorem round_trip_two_requests :
    (∀ m ∈ [(⟨some [1], none, []⟩ : PacketJoinReq), ⟨some [2], some [3], []⟩],
      (MessageClass.packetJoinReq.type .standard).parseFromArray
          ((MessageClass.packetJoinReq.type .standard).serialize m) =
        (m, (MessageClass.packetJoinReq.type .standard).isInitialized m)) ∧
    ∀ a, (MessageClass.packetJoinReq.type .standard).mergePartialFromCodedStream a
        ([(⟨some [1], none, []⟩ : PacketJoinReq), ⟨some [2], some [3], []⟩].flatMap
          (MessageClass.packetJoinReq.type .standard).serialize) =
      ([(⟨some [1], none, []⟩ : PacketJoinReq), ⟨some [2], some [3], []⟩].foldl
        (MessageClass.packetJoinReq.type .standard).mergeFrom a, .stopped true) :=
  round_trip (c := .packetJoinReq) (by
    simp only [List.forall_mem_cons]
    exact ⟨⟨joinReq_valid _ _, by decide +kernel⟩, ⟨joinReq_valid _ _, by decide +kernel⟩, by simp⟩)

/-! ### Messages that come from a parse -/

/-- A relay with a field that the class does not know, and a type that it does not know. -/
def strangeRelay : PacketPlayFriendsGameRel :=
  ⟨none, some [65], [⟨34, [1, 7]⟩, ⟨8, [9]⟩]⟩

section Strange

open Descriptor (Piece)

lemma passes_field :
    (MessageClass.packetPlayFriendsGameRel.type .standard).Passes ⟨34, [1, 7]⟩ := by
  refine Descriptor.passes_of_skip (by decide) (by decide) ?_ (by decide) fun rest => ?_
  · simp [MessageClass.type, PacketPlayFriendsGameRel.type, Descriptor.two]
  · show WireFormatLite.Standard.skipField 34 ([1, 7] ++ rest) = ([⟨34, [1, 7]⟩], some rest)
    simp [WireFormatLite.Standard.skipField, WireFormatLite.Standard.readSized,
      WireFormatLite.Standard.readVarint, Varint.decode, Varint.encode_of_lt]

lemma passes_type :
    (MessageClass.packetPlayFriendsGameRel.type .standard).Passes ⟨8, [9]⟩ := by
  have hwrite : WireFormatLite.standard.writeInt32 9 = [9] := by
    have hsign : WireFormatLite.Standard.signExtend 9 = 9 := rfl
    show Varint.encode (WireFormatLite.Standard.signExtend 9) = [9]
    rw [hsign, Varint.encode_of_lt (by decide)]
    rfl
  have hpasses := passes_enum relTypes
    (D := MessageClass.packetPlayFriendsGameRel.type .standard) (z := 9) List.mem_cons_self
    (by decide) rfl
  rwa [hwrite] at hpasses

/-- The pieces of this relay, with the target in front or behind. -/
def strangePieces (front : Bool) :
    List (MessageClass.packetPlayFriendsGameRel.type .standard).Piece :=
  let target := Piece.known _ (List.mem_cons_of_mem _ List.mem_cons_self) ([65] : Str) trivial
    (by decide +kernel)
  let unknown := [Piece.unknown _ passes_field, Piece.unknown _ passes_type]
  if front then target :: unknown else unknown ++ [target]

lemma strangePieces_key (k : Option ℕ) :
    (strangePieces true).filter (·.key = k) = (strangePieces false).filter (·.key = k) := by
  obtain _ | k := k
  · rfl
  · by_cases hk : 26 = k
    · subst hk
      rfl
    · simp [strangePieces, Piece.key, hk]

/-- Reading the pieces gives the relay. -/
lemma strangePieces_parsed (front : Bool) :
    (MessageClass.packetPlayFriendsGameRel.type .standard).mergePartialFromCodedStream
        (MessageClass.packetPlayFriendsGameRel.type .standard).new
        ((strangePieces front).flatMap Piece.encode) = (strangeRelay, .stopped true) := by
  have hreads : (MessageClass.packetPlayFriendsGameRel.type .standard).parser.Reads
      ((strangePieces front).flatMap Piece.encode) fun a =>
        (strangePieces front).foldl (fun a p => p.update a) a :=
    .flatten Piece.update fun p _ => p.reads
  rw [Descriptor.mergePartialFromCodedStream, Parser.dispatch_eq_loop, hreads.loop_eq]
  cases front <;> rfl

end Strange

/-- **A parsed message is written as it was parsed**, with the fields and the values of enumerations
that the class does not know: when a parse of any bytes does not fail, its message is read back
from its own serialization, and parsing the bytes into another object merges it there. -/
theorem parsed_again {l : Str} {m : c.Object} {b : Bool}
    (h : (c.type W).mergePartialFromCodedStream (c.type W).new l = (m, .stopped b))
    (hs : (c.type W).byteSize m < 2 ^ 31) :
    (c.type W).parseFromArray ((c.type W).serialize m) = (m, (c.type W).isInitialized m) ∧
      ∀ a, (c.type W).mergePartialFromCodedStream a l =
        ((c.type W).mergeFrom a m, .stopped b) := by
  obtain ⟨m', hvalid, -, hmerge⟩ := Descriptor.exists_of_dispatch h
  have hm : m' = m := by
    have hnew := hmerge (c.type W).new
    rw [h, Descriptor.mergeFrom_new] at hnew
    exact (Prod.mk.inj hnew).1.symm
  subst hm
  refine ⟨?_, hmerge⟩
  simp [Descriptor.parseFromArray, Descriptor.dispatch_serialize hvalid hs,
    Descriptor.mergeFrom_new]

theorem parsed_again_strange_relay :
    (MessageClass.packetPlayFriendsGameRel.type .standard).parseFromArray
        ((MessageClass.packetPlayFriendsGameRel.type .standard).serialize strangeRelay) =
      (strangeRelay, (MessageClass.packetPlayFriendsGameRel.type .standard).isInitialized
        strangeRelay) ∧
    ∀ a, (MessageClass.packetPlayFriendsGameRel.type .standard).mergePartialFromCodedStream a
        ((strangePieces false).flatMap Descriptor.Piece.encode) =
      ((MessageClass.packetPlayFriendsGameRel.type .standard).mergeFrom a strangeRelay,
        .stopped true) :=
  parsed_again (c := .packetPlayFriendsGameRel) (strangePieces_parsed false) (by decide +kernel)

/-! ### The order of the fields -/

/-- **Fields in any order**: the occurrences of fields and the unknown fields may be interleaved in
any way; as long as the occurrences of each field, and the unknown fields, keep their order, the
parse ends at the end of the input with the same object. -/
theorem field_order {ps qs : List (c.type W).Piece}
    (h : ∀ k, ps.filter (·.key = k) = qs.filter (·.key = k)) (a : c.Object) :
    ∃ m, (c.type W).mergePartialFromCodedStream a (ps.flatMap Descriptor.Piece.encode) =
        (m, .stopped true) ∧
      (c.type W).mergePartialFromCodedStream a (qs.flatMap Descriptor.Piece.encode) =
        (m, .stopped true) := by
  have hreads : (c.type W).parser.Reads (qs.flatMap Descriptor.Piece.encode) fun a =>
      qs.foldl (fun a p => p.update a) a :=
    .flatten Descriptor.Piece.update fun p _ => p.reads
  have hq : (c.type W).mergePartialFromCodedStream a (qs.flatMap Descriptor.Piece.encode) =
      (qs.foldl (fun a p => p.update a) a, .stopped true) := by
    rw [Descriptor.mergePartialFromCodedStream, Parser.dispatch_eq_loop]
    exact hreads.loop_eq a
  exact ⟨_, (Descriptor.dispatch_reorder h a).trans hq, hq⟩

theorem field_order_strange_relay :
    ∃ m, (MessageClass.packetPlayFriendsGameRel.type .standard).mergePartialFromCodedStream
          (MessageClass.packetPlayFriendsGameRel.type .standard).new
          ((strangePieces true).flatMap Descriptor.Piece.encode) = (m, .stopped true) ∧
      (MessageClass.packetPlayFriendsGameRel.type .standard).mergePartialFromCodedStream
          (MessageClass.packetPlayFriendsGameRel.type .standard).new
          ((strangePieces false).flatMap Descriptor.Piece.encode) = (m, .stopped true) :=
  field_order (c := .packetPlayFriendsGameRel) strangePieces_key _

end ChannelServer.Protobuf
