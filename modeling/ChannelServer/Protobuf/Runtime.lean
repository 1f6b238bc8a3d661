/-
The runtime of the generated messages.

`channel_protobuf.pb.cc` reads and writes through the protobuf runtime (`CodedInputStream`,
`WireFormatLite`, `WireFormat`), which is not part of the repository.  It is a parameter of the
model, with what its documentation promises: what is written is read back, with any input behind
it, and has the documented length; reading consumes input; and a field that is skipped is written
again as it was.  Nothing is said about what a read leaves behind when it fails.

An input is the sequence of the bytes up to the current limit.  The limit on nested messages
(`IncrementRecursionDepth`) is left out: the messages of the repository nest three deep.

`WireFormatLite.standard` is a runtime that works as the documentation of the format describes.
-/
import Mathlib.Algebra.Ring.Int.Defs
import ChannelServer.Lib.Records
import ChannelServer.Lib.Varint
import ChannelServer.Protocol

namespace ChannelServer.Protobuf

open Records

/-- The functions of the runtime that the generated code calls.  The functions that read get the
value that is there before the call. -/
structure WireFormatLite where
  /-- `ReadTagWithCutoff`, `ExpectTag` and `ExpectAtEnd`. -/
  input : Input UInt8 ℕ
  /-- `WriteTagToArray`. -/
  writeTag : ℕ → Str
  /-- `CodedOutputStream::WriteVarint32ToArray`. -/
  writeVarint32 : ℕ → Str
  /-- `WriteInt32NoTagToArray` and `WriteEnumNoTagToArray`. -/
  writeInt32 : ℤ → Str
  /-- `WriteBoolNoTagToArray`. -/
  writeBool : Bool → Str
  /-- `ReadString`. -/
  readString : Str → Str → Str × Option Str
  /-- `ReadPrimitive` of `TYPE_INT32`. -/
  readInt32 : ℤ → Str → ℤ × Option Str
  /-- `ReadPrimitive` of `TYPE_BOOL`. -/
  readBool : Bool → Str → Bool × Option Str
  /-- `ReadPrimitive` of `TYPE_ENUM`, into a local variable. -/
  readEnum : Str → Option (ℤ × Str)
  /-- `ReadVarintSizeAsInt` and `PushLimit`: the input up to the new limit, and the input that is
  there when the limit is popped. -/
  pushLimit : Str → Option (Str × Str)
  /-- `SkipField`: the unknown fields that it adds. -/
  skipField : ℕ → Str → List UnknownField × Option Str
  readTag_writeTag : ∀ {t : ℕ} (_ : 0 < t) (_ : t < 2 ^ 32) (rest : Str),
    input.readTag (writeTag t ++ rest) = some (t, rest)
  readTag_range : ∀ {l : Str} {t : ℕ} {rest : Str},
    input.readTag l = some (t, rest) → 0 < t ∧ t < 2 ^ 32
  length_writeTag : ∀ {t : ℕ}, 0 < t → t < 2 ^ 7 → (writeTag t).length = 1
  length_writeVarint32 : ∀ {n : ℕ}, n < 2 ^ 31 → (writeVarint32 n).length = varintSize n
  length_writeInt32 : ∀ {z : ℤ}, IsInt32 z → (writeInt32 z).length = int32Size z
  length_writeBool : ∀ b : Bool, (writeBool b).length = 1
  readString_write : ∀ {s : Str} (_ : s.length < 2 ^ 31) (old rest : Str),
    readString old (writeVarint32 s.length ++ s ++ rest) = (s, some rest)
  readString_some : ∀ {old l s rest : Str}, readString old l = (s, some rest) →
    rest.length ≤ l.length ∧ ∀ old', readString old' l = (s, some rest)
  readInt32_write : ∀ {z : ℤ} (_ : IsInt32 z) (old : ℤ) (rest : Str),
    readInt32 old (writeInt32 z ++ rest) = (z, some rest)
  readInt32_some : ∀ {old z : ℤ} {l rest : Str}, readInt32 old l = (z, some rest) →
    rest.length ≤ l.length ∧ IsInt32 z ∧ ∀ old', readInt32 old' l = (z, some rest)
  readBool_write : ∀ (b old : Bool) (rest : Str),
    readBool old (writeBool b ++ rest) = (b, some rest)
  readBool_some : ∀ {old b : Bool} {l rest : Str}, readBool old l = (b, some rest) →
    rest.length ≤ l.length ∧ ∀ old', readBool old' l = (b, some rest)
  readEnum_write : ∀ {z : ℤ} (_ : IsInt32 z) (rest : Str),
    readEnum (writeInt32 z ++ rest) = some (z, rest)
  readEnum_some : ∀ {l : Str} {z : ℤ} {rest : Str}, readEnum l = some (z, rest) →
    rest.length ≤ l.length ∧ IsInt32 z
  pushLimit_write : ∀ {content : Str} (_ : content.length < 2 ^ 31) (rest : Str),
    pushLimit (writeVarint32 content.length ++ content ++ rest) = some (content, rest)
  pushLimit_some : ∀ {l content rest : Str}, pushLimit l = some (content, rest) →
    rest.length ≤ l.length
  skipField_some : ∀ {t : ℕ} {l : Str} {us : List UnknownField} {rest : Str},
    skipField t l = (us, some rest) → rest.length ≤ l.length ∧
      ∃ u, us = [u] ∧ u.tag = t ∧ ∀ more, skipField t (u.content ++ more) = ([u], some more)

namespace WireFormatLite

/-- `WriteTagToArray` writes a tag with as many bytes as `TagSize` says. -/
def TagSizes (W : WireFormatLite) : Prop :=
  ∀ {t : ℕ}, 0 < t → t < 2 ^ 32 → (W.writeTag t).length = varintSize t

/-! ### The documented format -/

namespace Standard

/-- `ReadVarint64`: at most ten bytes, of whose value 64 bits count. -/
def readVarint (l : Str) : Option (ℕ × Str) :=
  (Varint.decode 10 l).map fun p => (p.1 % 2 ^ 64, p.2)

/-- The number that is stored in 64 bits, with its sign. -/
def signExtend (z : ℤ) : ℕ := (z % 2 ^ 64).toNat

lemma readVarint_encode {n : ℕ} (h : n < 2 ^ 64) (rest : Str) :
    readVarint (Varint.encode n ++ rest) = some (n, rest) := by
  have h10 : n < 128 ^ (9 + 1) := lt_trans h (by decide)
  rw [readVarint, Varint.decode_encode h10, Option.map_some, Nat.mod_eq_of_lt h]

lemma readVarint_some {l rest : Str} {n : ℕ} (h : readVarint l = some (n, rest)) :
    rest.length < l.length ∧ n < 2 ^ 64 := by
  obtain ⟨p, hp, heq⟩ := Option.map_eq_some_iff.1 h
  obtain ⟨rfl, rfl⟩ := Prod.mk.inj heq
  exact ⟨Varint.length_of_decode hp, Nat.mod_lt _ (by decide)⟩

/-- A tag of 32 bits; zero is no tag. -/
def readTag (l : Str) : Option (ℕ × Str) :=
  (readVarint l).bind fun p => if p.1 % 2 ^ 32 = 0 then none else some (p.1 % 2 ^ 32, p.2)

/-- A tag of one byte is recognised. -/
def expectTag (t : ℕ) : Str → Option Str
  | [] => none
  | b :: rest => if b.toNat = t ∧ 0 < t ∧ t < 128 then some rest else none

lemma readTag_some {l rest : Str} {t : ℕ} (h : readTag l = some (t, rest)) :
    rest.length < l.length ∧ 0 < t ∧ t < 2 ^ 32 := by
  obtain ⟨⟨n, r⟩, hp, heq⟩ := Option.bind_eq_some_iff.1 h
  dsimp only at heq
  split at heq
  · cases heq
  · obtain ⟨rfl, rfl⟩ := Prod.mk.inj (Option.some.inj heq)
    refine ⟨(readVarint_some hp).1, by omega, Nat.mod_lt _ (by decide)⟩

lemma readTag_of_expectTag {l rest : Str} {t : ℕ} (h : expectTag t l = some rest) :
    readTag l = some (t, rest) := by
  cases l with
  | nil => cases h
  | cons b l =>
    rw [expectTag] at h
    split at h
    · rename_i hb
      obtain rfl := Option.some.inj h
      have hlt : b.toNat < 128 := by omega
      have hmod : b.toNat % 2 ^ 64 % 2 ^ 32 = t := by omega
      rw [readTag, readVarint, Varint.decode, if_pos hlt, Option.map_some, Option.bind_some]
      dsimp only
      rw [hmod, if_neg (by omega)]
    · cases h

/-- What a read of a number assigns, when there is a number. -/
def assign {β : Type} (value : ℕ → β) (old : β) (l : Str) : β × Option Str :=
  match readVarint l with
  | some (n, rest) => (value n, some rest)
  | none => (old, none)

lemma assign_some {β : Type} {value : ℕ → β} {old b : β} {l rest : Str}
    (h : assign value old l = (b, some rest)) :
    rest.length ≤ l.length ∧ (∃ n, b = value n) ∧
      ∀ old', assign value old' l = (b, some rest) := by
  unfold assign at h ⊢
  cases hn : readVarint l with
  | none => simp [hn] at h
  | some p =>
    rw [hn] at h
    obtain ⟨rfl, hrest⟩ := Prod.mk.inj h
    obtain rfl := Option.some.inj hrest
    exact ⟨(readVarint_some hn).1.le, ⟨_, rfl⟩, fun _ => rfl⟩

lemma assign_encode {β : Type} (value : ℕ → β) (old : β) {n : ℕ} (h : n < 2 ^ 64) (rest : Str) :
    assign value old (Varint.encode n ++ rest) = (value n, some rest) := by
  rw [assign, readVarint_encode h]

/-- The lower 32 bits, as an `int32`. -/
def int32Of (n : ℕ) : ℤ := (n + 2 ^ 31) % 2 ^ 32 - 2 ^ 31

lemma isInt32_int32Of (n : ℕ) : IsInt32 (int32Of n) := by
  unfold IsInt32 int32Of
  omega

lemma signExtend_lt (z : ℤ) : signExtend z < 2 ^ 64 := by
  unfold signExtend
  omega

lemma int32Of_signExtend {z : ℤ} (h : IsInt32 z) : int32Of (signExtend z) = z := by
  unfold IsInt32 at h
  unfold int32Of signExtend
  omega

/-- A length that is an `int`, and as much of the input as there is of this length. -/
def readSized (l : Str) : Option (ℕ × Str) :=
  (readVarint l).bind fun p => if p.1 % 2 ^ 32 < 2 ^ 31 then some (p.1 % 2 ^ 32, p.2) else none

lemma readSized_encode {n : ℕ} (h : n < 2 ^ 31) (rest : Str) :
    readSized (Varint.encode n ++ rest) = some (n, rest) := by
  rw [readSized, readVarint_encode (by omega), Option.bind_some]
  dsimp only
  rw [Nat.mod_eq_of_lt (by omega), if_pos h]

lemma readSized_some {l rest : Str} {n : ℕ} (h : readSized l = some (n, rest)) :
    rest.length < l.length := by
  obtain ⟨⟨m, r⟩, hp, heq⟩ := Option.bind_eq_some_iff.1 h
  dsimp only at heq
  split at heq
  · obtain ⟨-, rfl⟩ := Prod.mk.inj (Option.some.inj heq)
    exact (readVarint_some hp).1
  · cases heq

/-- A string is read as far as it is there. -/
def readString (old l : Str) : Str × Option Str :=
  match readSized l with
  | some (n, rest) => if n ≤ rest.length then (rest.take n, some (rest.drop n)) else (rest, none)
  | none => (old, none)

/-- A limit beyond the current one is the current one. -/
def pushLimit (l : Str) : Option (Str × Str) :=
  (readSized l).map fun p => (p.2.take p.1, p.2.drop p.1)

/-- A content of a fixed length. -/
def readFixed (k : ℕ) (t : ℕ) (l : Str) : List UnknownField × Option Str :=
  if k ≤ l.length then ([⟨t, l.take k⟩], some (l.drop k)) else ([], none)

/-- The wire types of numbers, of fixed lengths and of strings.  Groups, which no party of the
protocol sends, are not read. -/
def skipField (t : ℕ) (l : Str) : List UnknownField × Option Str :=
  match t % 8 with
  | 0 =>
      match readVarint l with
      | some (n, rest) => ([⟨t, Varint.encode n⟩], some rest)
      | none => ([], none)
  | 1 => readFixed 8 t l
  | 2 =>
      match readSized l with
      | some (n, rest) =>
          if n ≤ rest.length then
            ([⟨t, Varint.encode n ++ rest.take n⟩], some (rest.drop n))
          else ([], none)
      | none => ([], none)
  | 5 => readFixed 4 t l
  | _ => ([], none)

lemma readFixed_some {k t : ℕ} {l rest : Str} {us : List UnknownField}
    (h : readFixed k t l = (us, some rest)) : rest.length ≤ l.length ∧
      ∃ u, us = [u] ∧ u.tag = t ∧ ∀ more, readFixed k t (u.content ++ more) = ([u], some more) := by
  rw [readFixed] at h
  split at h
  · rename_i hk
    obtain ⟨rfl, hrest⟩ := Prod.mk.inj h
    obtain rfl := Option.some.inj hrest
    have hlen : (l.take k).length = k := List.length_take_of_le hk
    refine ⟨by simp, _, rfl, rfl, fun more => ?_⟩
    rw [readFixed, if_pos (by rw [List.length_append, hlen]; omega), List.take_left' hlen,
      List.drop_left' hlen]
  · cases h

lemma skipField_some {t : ℕ} {l rest : Str} {us : List UnknownField}
    (h : skipField t l = (us, some rest)) : rest.length ≤ l.length ∧
      ∃ u, us = [u] ∧ u.tag = t ∧ ∀ more, skipField t (u.content ++ more) = ([u], some more) := by
  unfold skipField at h ⊢
  split at h
  · -- a number
    split at h
    · rename_i n r hn
      obtain ⟨rfl, hrest⟩ := Prod.mk.inj h
      obtain rfl := Option.some.inj hrest
      obtain ⟨hlt, hn64⟩ := readVarint_some hn
      refine ⟨hlt.le, _, rfl, rfl, fun more => ?_⟩
      rw [readVarint_encode hn64]
    · cases h
  · exact readFixed_some h
  · -- a string
    split at h
    · rename_i n r hn
      split at h
      · rename_i hle
        obtain ⟨rfl, hrest⟩ := Prod.mk.inj h
        obtain rfl := Option.some.inj hrest
        have hlt := readSized_some hn
        have hlen : (r.take n).length = n := List.length_take_of_le hle
        have hn31 : n < 2 ^ 31 := by
          obtain ⟨⟨m, q⟩, -, heq⟩ := Option.bind_eq_some_iff.1 hn
          dsimp only at heq
          split at heq
          · rename_i hm
            obtain ⟨rfl, -⟩ := Prod.mk.inj (Option.some.inj heq)
            exact hm
          · cases heq
        refine ⟨by rw [List.length_drop]; omega, _, rfl, rfl, fun more => ?_⟩
        dsimp only
        rw [List.append_assoc, readSized_encode hn31]
        dsimp only
        rw [if_pos (by rw [List.length_append, hlen]; omega), List.take_left' hlen,
          List.drop_left' hlen]
      · cases h
    · cases h
  · exact readFixed_some h
  · cases h

end Standard

open Standard in
/-- The runtime that the documentation of the format describes. -/
def standard : WireFormatLite where
  input := {
    readTag := readTag
    expectTag := expectTag
    expectAtEnd := List.isEmpty
    length_of_readTag := fun h => (readTag_some h).1
    readTag_of_expectTag := readTag_of_expectTag
    nil_of_expectAtEnd := List.isEmpty_iff.1 }
  writeTag := Varint.encode
  writeVarint32 := Varint.encode
  writeInt32 := fun z => Varint.encode (signExtend z)
  writeBool := fun b => Varint.encode b.toNat
  readString := Standard.readString
  readInt32 := assign int32Of
  readBool := assign (· != 0)
  readEnum := fun l => (readVarint l).map fun p => (int32Of p.1, p.2)
  pushLimit := Standard.pushLimit
  skipField := Standard.skipField
  readTag_writeTag := by
    intro t hpos hlt rest
    have hmod : t % 2 ^ 32 = t := Nat.mod_eq_of_lt hlt
    show Standard.readTag _ = _
    rw [Standard.readTag, readVarint_encode (by omega), Option.bind_some]
    dsimp only
    rw [hmod, if_neg (by omega)]
  readTag_range := fun h => (readTag_some h).2
  length_writeTag := by
    intro t _ hlt
    rw [Varint.encode_of_lt hlt, List.length_singleton]
  length_writeVarint32 := fun _ => Varint.length_encode _
  length_writeInt32 := by
    intro z hz
    unfold IsInt32 at hz
    rw [Varint.length_encode, int32Size]
    split
    · -- the sign fills the upper bits, so that there are 64 of them
      have hlog : (signExtend z).log2 = 63 := by
        rw [Nat.log2_eq_iff (by unfold signExtend; omega)]
        unfold signExtend
        omega
      rw [hlog]
    · have hnat : signExtend z = z.toNat := by
        unfold signExtend
        omega
      rw [hnat, varintSize]
  length_writeBool := by
    intro b
    have hle : b.toNat ≤ 1 := Bool.toNat_le b
    rw [Varint.encode_of_lt (by omega), List.length_singleton]
  readString_write := by
    intro s hs old rest
    rw [List.append_assoc, Standard.readString, readSized_encode hs]
    dsimp only
    rw [if_pos (by rw [List.length_append]; omega), List.take_left, List.drop_left]
  readString_some := by
    intro old l s rest h
    unfold Standard.readString at h ⊢
    split at h
    · rename_i n r hn
      have hlt := readSized_some hn
      split at h
      · obtain ⟨rfl, hrest⟩ := Prod.mk.inj h
        obtain rfl := Option.some.inj hrest
        exact ⟨by rw [List.length_drop]; omega, fun _ => by simp [*]⟩
      · cases h
    · cases h
  readInt32_write := by
    intro z hz old rest
    rw [assign_encode _ _ (signExtend_lt z), int32Of_signExtend hz]
  readInt32_some := by
    intro old z l rest h
    obtain ⟨hle, hvalue, hold⟩ := assign_some h
    refine ⟨hle, ?_, hold⟩
    obtain ⟨n, hn⟩ := hvalue
    rw [hn]
    exact isInt32_int32Of n
  readBool_write := by
    intro b old rest
    have hle : b.toNat ≤ 1 := Bool.toNat_le b
    rw [assign_encode _ _ (by omega)]
    cases b <;> rfl
  readBool_some := by
    intro old b l rest h
    obtain ⟨hle, -, hold⟩ := assign_some h
    exact ⟨hle, hold⟩
  readEnum_write := by
    intro z hz rest
    rw [readVarint_encode (signExtend_lt z), Option.map_some]
    dsimp only
    rw [int32Of_signExtend hz]
  readEnum_some := by
    intro l z rest h
    obtain ⟨p, hp, heq⟩ := Option.map_eq_some_iff.1 h
    obtain ⟨rfl, rfl⟩ := Prod.mk.inj heq
    exact ⟨(readVarint_some hp).1.le, isInt32_int32Of _⟩
  pushLimit_write := by
    intro content hlt rest
    rw [List.append_assoc, Standard.pushLimit, readSized_encode hlt, Option.map_some]
    dsimp only
    rw [List.take_left, List.drop_left]
  pushLimit_some := by
    intro l content rest h
    obtain ⟨p, hp, heq⟩ := Option.map_eq_some_iff.1 h
    obtain ⟨-, rfl⟩ := Prod.mk.inj heq
    have hlt := readSized_some hp
    rw [List.length_drop]
    omega
  skipField_some := Standard.skipField_some

lemma tagSizes_standard : standard.TagSizes := fun _ _ => Varint.length_encode _

end WireFormatLite

end ChannelServer.Protobuf
