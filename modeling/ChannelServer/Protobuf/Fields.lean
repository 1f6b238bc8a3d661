/-
The kinds of fields.

The generated code reads and writes a field according to its type: strings and numbers, messages,
which are merged into what is there, repeated messages, and enumerations, whose unknown values
become unknown fields.  A `Codec` says how a type is read and written; `codecField` makes a field
of it, and `enumField` is the one kind that does something else.
-/
import ChannelServer.Protobuf.Schema

namespace ChannelServer.Protobuf

open Records (Outcome)

/-! ### Cells -/

/-- A field that is there or not; a second occurrence is joined to the first one. -/
@[reducible] def Cell.optional {β : Type} (join : β → β → β) (new : β)
    (unit : ∀ b, join new b = b) (assoc : ∀ a b c, join (join a b) c = join a (join b c)) :
    Cell β where
  Carrier := Option β
  empty := none
  values := Option.toList
  push b c := some (join (c.getD new) b)
  values_empty := rfl
  foldl_values := by
    rintro (_ | b)
    · rfl
    · exact congrArg some (unit b)
  foldl_push := by
    rintro b c (_ | d)
    · exact congrArg (fun b => some (join (c.getD new) b)) (unit b)
    · exact congrArg some (assoc (c.getD new) d b).symm

/-- The last occurrence counts. -/
@[reducible] def Cell.latest (β : Type) (new : β) : Cell β :=
  .optional (fun _ b => b) new (fun _ => rfl) fun _ _ _ => rfl

/-- A repeated field. -/
@[reducible] def Cell.repeated (β : Type) : Cell β where
  Carrier := List β
  empty := []
  values c := c
  push b c := c ++ [b]
  values_empty := rfl
  foldl_values := by
    intro c
    induction c using List.reverseRecOn with
    | nil => rfl
    | append_singleton c b ih =>
      rw [List.foldl_append, ih]
      rfl
  foldl_push _ _ _ := List.foldl_append

/-! ### Codecs -/

/-- How the values of a type are written, and read into the member of a field. -/
structure Codec (β : Type) where
  cell : Cell β
  read : cell.Carrier → Str → cell.Carrier × Option Str
  write : β → Str
  size : β → ℕ
  valid : β → Prop
  initialized : β → Bool
  length_write : ∀ {v}, valid v → size v < 2 ^ 31 → (write v).length = size v
  read_write : ∀ {v}, valid v → size v < 2 ^ 31 → ∀ c rest,
    read c (write v ++ rest) = (cell.push v c, some rest)
  valid_push : ∀ {v c}, valid v → (∀ w ∈ cell.values c, valid w) →
    ∀ w ∈ cell.values (cell.push v c), valid w
  read_some : ∀ {c l c' rest}, read c l = (c', some rest) →
    rest.length ≤ l.length ∧ ∃ v, valid v ∧ ∀ d, read d l = (cell.push v d, some rest)

variable {M N β : Type} {unknown : Slot M (List UnknownField)}

/-- A field that is read into its member. -/
def codecField {W : WireFormatLite} (S : Codec β) (tag : ℕ) (slot : Slot M S.cell.Carrier)
    (required : Bool) (next : List ℕ) (last : Bool)
    (htag : 0 < tag ∧ tag < 2 ^ 7 := by decide) : Field W M unknown where
  tag := tag
  Value := β
  cell := S.cell
  slot := slot
  write := S.write
  size := S.size
  valid := S.valid
  required := required
  initialized := S.initialized
  reader := {
    run := fun m l => (slot.set (S.read (slot.get m) l).1 m, (S.read (slot.get m) l).2)
    length_le := fun h => (S.read_some (Prod.ext rfl (Prod.mk.inj h).2)).1 }
  next := next
  last := last
  tag_pos := htag.1
  tag_lt := htag.2
  length_write := S.length_write
  read_write := by
    intro v hv hs m rest
    dsimp only
    rw [S.read_write hv hs]
  valid_push := S.valid_push
  read_some := by
    intro m l m' rest h
    obtain ⟨-, v, hv, hread⟩ := S.read_some (Prod.ext rfl (Prod.mk.inj h).2)
    refine Or.inl ⟨v, hv, fun a => ?_⟩
    dsimp only
    rw [hread]

@[simp] lemma codecField_tag {W : WireFormatLite} (S : Codec β) (tag : ℕ)
    (slot : Slot M S.cell.Carrier) (required : Bool) (next : List ℕ) (last : Bool)
    (htag : 0 < tag ∧ tag < 2 ^ 7) :
    (codecField S tag slot required next last htag : Field W M unknown).tag = tag := rfl

/-! ### Strings and numbers -/

/-- A type whose values are read as a whole.  The constructor of a class gives the member the value
`new`. -/
def Codec.scalar (new : β) (read : β → Str → β × Option Str) (write : β → Str) (size : β → ℕ)
    (valid : β → Prop)
    (length_write : ∀ {v}, valid v → size v < 2 ^ 31 → (write v).length = size v)
    (read_write : ∀ {v}, valid v → size v < 2 ^ 31 → ∀ old rest,
      read old (write v ++ rest) = (v, some rest))
    (read_some : ∀ {old v l rest}, read old l = (v, some rest) →
      rest.length ≤ l.length ∧ valid v ∧ ∀ old', read old' l = (v, some rest)) : Codec β where
  cell := .latest β new
  read c l := (some (read (c.getD new) l).1, (read (c.getD new) l).2)
  write := write
  size := size
  valid := valid
  initialized _ := true
  length_write := length_write
  read_write := by
    intro v hv hs c rest
    rw [read_write hv hs]
  valid_push := by
    intro v c hv _ w hw
    obtain rfl := List.mem_singleton.1 hw
    exact hv
  read_some := by
    intro c l c' rest h
    obtain ⟨hle, hv, hread⟩ := read_some (Prod.ext rfl (Prod.mk.inj h).2)
    refine ⟨hle, _, hv, fun d => ?_⟩
    rw [hread]

section Codecs

variable (W : WireFormatLite)

/-- `TYPE_STRING`. -/
def Codec.string : Codec Str :=
  .scalar [] W.readString (fun s => W.writeVarint32 s.length ++ s)
    (fun s => varintSize s.length + s.length) (fun _ => True)
    (fun _ hs => by rw [List.length_append, W.length_writeVarint32 (by omega)])
    (fun _ hs => W.readString_write (by omega))
    fun h => ⟨(W.readString_some h).1, trivial, (W.readString_some h).2⟩

/-- `TYPE_INT32`. -/
def Codec.int32 : Codec ℤ :=
  .scalar 0 W.readInt32 W.writeInt32 int32Size IsInt32 (fun hz _ => W.length_writeInt32 hz)
    (fun hz _ => W.readInt32_write hz) W.readInt32_some

/-- `TYPE_BOOL`. -/
def Codec.bool (new : Bool) : Codec Bool :=
  .scalar new W.readBool W.writeBool (fun _ => 1) (fun _ => True)
    (fun _ _ => W.length_writeBool _) (fun _ _ => W.readBool_write _)
    fun h => ⟨(W.readBool_some h).1, trivial, (W.readBool_some h).2⟩

end Codecs

/-! ### Messages -/

section Messages

variable {W : WireFormatLite} (T : Descriptor W N)

/-- `ReadMessageNoVirtual`: the message is parsed into the object that is there, up to the limit. -/
def readMessage (old : N) (l : Str) : N × Option Str :=
  match W.pushLimit l with
  | none => (old, none)
  | some (content, rest) =>
      let (value, outcome) := T.mergePartialFromCodedStream old content
      (value, if outcome = .stopped true then some rest else none)

/-- `InternalWriteMessageNoVirtualToArray` behind the tag: the size that `ByteSizeLong` has cached,
and the message. -/
def writeMessage (m : N) : Str := W.writeVarint32 (T.byteSize m) ++ T.serialize m

/-- `MessageSizeNoVirtual`. -/
def messageSize (m : N) : ℕ := varintSize (T.byteSize m) + T.byteSize m

variable {T}

lemma length_writeMessage {m : N} (hm : T.Valid m) (hs : messageSize T m < 2 ^ 31) :
    (writeMessage T m).length = messageSize T m := by
  have hlt : T.byteSize m < 2 ^ 31 := lt_of_le_of_lt (Nat.le_add_left _ _) hs
  rw [writeMessage, List.length_append, W.length_writeVarint32 hlt,
    Descriptor.length_serialize hm hlt]
  rfl

lemma readMessage_write {m : N} (hm : T.Valid m) (hs : messageSize T m < 2 ^ 31) (old : N)
    (rest : Str) :
    readMessage T old (writeMessage T m ++ rest) = (T.mergeFrom old m, some rest) := by
  have hlt : T.byteSize m < 2 ^ 31 := lt_of_le_of_lt (Nat.le_add_left _ _) hs
  have hlen := Descriptor.length_serialize hm hlt
  have hlimit : W.pushLimit (writeMessage T m ++ rest) = some (T.serialize m, rest) := by
    rw [writeMessage, ← hlen]
    exact W.pushLimit_write (by omega) rest
  rw [readMessage, hlimit]
  dsimp only
  rw [Descriptor.dispatch_serialize hm hlt]
  rfl

lemma readMessage_some {old v : N} {l rest : Str} (h : readMessage T old l = (v, some rest)) :
    rest.length ≤ l.length ∧ ∃ m, T.Valid m ∧
      ∀ old', readMessage T old' l = (T.mergeFrom old' m, some rest) := by
  unfold readMessage at h ⊢
  cases hlimit : W.pushLimit l with
  | none =>
    rw [hlimit] at h
    cases h
  | some p =>
    obtain ⟨content, r⟩ := p
    rw [hlimit] at h
    rcases hparse : T.mergePartialFromCodedStream old content with ⟨v', outcome⟩
    dsimp only at h ⊢
    rw [hparse] at h
    dsimp only at h
    split at h
    · rename_i hend
      subst hend
      obtain rfl := Option.some.inj (Prod.mk.inj h).2
      obtain ⟨m, hm, -, hmerge⟩ := Descriptor.exists_of_dispatch hparse
      refine ⟨W.pushLimit_some hlimit, m, hm, fun old' => ?_⟩
      rw [hmerge]
      rfl
    · cases (Prod.mk.inj h).2

variable (T)

/-- A message, which is merged into the one that is there. -/
def Codec.message : Codec N where
  cell := .optional T.mergeFrom T.new Descriptor.mergeFrom_new Descriptor.mergeFrom_assoc
  read c l := (some (readMessage T (c.getD T.new) l).1, (readMessage T (c.getD T.new) l).2)
  write := writeMessage T
  size := messageSize T
  valid := T.Valid
  initialized := T.isInitialized
  length_write := length_writeMessage
  read_write := by
    intro v hv hs c rest
    rw [readMessage_write hv hs]
  valid_push := by
    intro v c hv hc w hw
    obtain rfl := List.mem_singleton.1 hw
    cases c with
    | none => exact Descriptor.valid_mergeFrom Descriptor.valid_new hv
    | some c => exact Descriptor.valid_mergeFrom (hc c List.mem_cons_self) hv
  read_some := by
    intro c l c' rest h
    obtain ⟨hle, v, hv, hread⟩ := readMessage_some (Prod.ext rfl (Prod.mk.inj h).2)
    refine ⟨hle, v, hv, fun d => ?_⟩
    rw [hread]

/-- Messages of a repeated field: each occurrence is a new object. -/
def Codec.messages : Codec N where
  cell := .repeated N
  read c l := (c ++ [(readMessage T T.new l).1], (readMessage T T.new l).2)
  write := writeMessage T
  size := messageSize T
  valid := T.Valid
  initialized := T.isInitialized
  length_write := length_writeMessage
  read_write := by
    intro v hv hs c rest
    rw [readMessage_write hv hs, Descriptor.mergeFrom_new]
  valid_push := by
    intro v c hv hc w hw
    rcases List.mem_append.1 hw with hw | hw
    · exact hc w hw
    · obtain rfl := List.mem_singleton.1 hw
      exact hv
  read_some := by
    intro c l c' rest h
    obtain ⟨hle, v, hv, hread⟩ := readMessage_some (Prod.ext rfl (Prod.mk.inj h).2)
    refine ⟨hle, v, hv, fun d => ?_⟩
    rw [hread, Descriptor.mergeFrom_new]

end Messages

/-! ### Enumerations -/

/-- An enumeration of the generated code: the numbers of its values, and `IsValid`. -/
structure Enumeration (β : Type) where
  number : β → ℤ
  ofNumber? : ℤ → Option β
  isInt32_number : ∀ b, IsInt32 (number b)
  ofNumber?_number : ∀ b, ofNumber? (number b) = some b

section EnumField

variable {W : WireFormatLite} (E : Enumeration β)

/-- `ReadPrimitive` of an enumeration: the value is set when it is valid, otherwise `AddVarint` adds
it to the unknown fields. -/
def readEnumInto (unknown : Slot M (List UnknownField)) (tag : ℕ) (slot : Slot M (Option β))
    (m : M) (l : Str) : M × Option Str :=
  match W.readEnum l with
  | none => (m, none)
  | some (z, rest) =>
      match E.ofNumber? z with
      | some b => (slot.set (some b) m, some rest)
      | none => (pushUnknown unknown [⟨tag, W.writeInt32 z⟩] m, some rest)

variable {E} {tag : ℕ} {slot : Slot M (Option β)}

lemma readEnumInto_valid {l rest : Str} {z : ℤ} {b : β} (hread : W.readEnum l = some (z, rest))
    (hz : E.ofNumber? z = some b) (m : M) :
    readEnumInto (W := W) E unknown tag slot m l = (slot.set (some b) m, some rest) := by
  simp only [readEnumInto, hread, hz]

lemma readEnumInto_unknown {l rest : Str} {z : ℤ} (hread : W.readEnum l = some (z, rest))
    (hz : E.ofNumber? z = none) (m : M) :
    readEnumInto (W := W) E unknown tag slot m l =
      (pushUnknown unknown [⟨tag, W.writeInt32 z⟩] m, some rest) := by
  simp only [readEnumInto, hread, hz]

lemma readEnum_of_readEnumInto {m m' : M} {l rest : Str}
    (h : readEnumInto (W := W) E unknown tag slot m l = (m', some rest)) :
    ∃ z, W.readEnum l = some (z, rest) := by
  unfold readEnumInto at h
  cases hread : W.readEnum l with
  | none =>
    rw [hread] at h
    cases h
  | some p =>
    rw [hread] at h
    dsimp only at h
    have hrest : p.2 = rest := by
      split at h <;> exact Option.some.inj (Prod.mk.inj h).2
    exact ⟨p.1, by rw [← hrest]⟩

variable (E)

/-- A field with a value of an enumeration. -/
def enumField (new : β) (tag : ℕ) (slot : Slot M (Option β)) (required : Bool) (next : List ℕ)
    (last : Bool) (htag : 0 < tag ∧ tag < 2 ^ 7 := by decide) : Field W M unknown where
  tag := tag
  Value := β
  cell := .latest β new
  slot := slot
  write b := W.writeInt32 (E.number b)
  size b := int32Size (E.number b)
  valid _ := True
  required := required
  initialized _ := true
  reader := {
    run := readEnumInto (W := W) E unknown tag slot
    length_le := by
      intro m l m' rest h
      obtain ⟨z, hread⟩ := readEnum_of_readEnumInto h
      exact (W.readEnum_some hread).1 }
  next := next
  last := last
  tag_pos := htag.1
  tag_lt := htag.2
  length_write _ _ := W.length_writeInt32 (E.isInt32_number _)
  read_write := by
    intro b _ _ m rest
    exact readEnumInto_valid (W.readEnum_write (E.isInt32_number b) rest) (E.ofNumber?_number b) m
  valid_push _ _ _ _ := trivial
  read_some := by
    intro m l m' rest h
    obtain ⟨z, hread⟩ := readEnum_of_readEnumInto h
    cases hz : E.ofNumber? z with
    | some b => exact Or.inl ⟨b, trivial, fun a => readEnumInto_valid hread hz a⟩
    | none =>
      -- an unknown value is written again as it was, and is unknown again
      have hwrite := fun more => W.readEnum_write (W.readEnum_some hread).2 more
      exact Or.inr ⟨⟨tag, W.writeInt32 z⟩, rfl, fun a => readEnumInto_unknown hread hz a,
        fun a more => readEnumInto_unknown (hwrite more) hz a⟩

@[simp] lemma enumField_tag (new : β) (required : Bool) (next : List ℕ) (last : Bool)
    (htag : 0 < tag ∧ tag < 2 ^ 7) :
    (enumField E new tag slot required next last htag : Field W M unknown).tag = tag := rfl

/-- An unknown value of an enumeration is read back as an unknown field. -/
lemma passes_enum {D : Descriptor W M} {new : β} {slot : Slot M (Option β)} {required last : Bool}
    {next : List ℕ} {htag : 0 < tag ∧ tag < 2 ^ 7}
    (hf : (enumField E new tag slot required next last htag : Field W M D.unknown) ∈ D.fields)
    {z : ℤ} (hz : IsInt32 z) (hnone : E.ofNumber? z = none) :
    D.Passes ⟨tag, W.writeInt32 z⟩ := by
  have hlt : tag < 2 ^ 32 := by omega
  exact Descriptor.passes_of_run htag.1 hlt (Descriptor.lookup?_tag hf) fun a more =>
    readEnumInto_unknown (W.readEnum_write hz more) hnone a

end EnumField

end ChannelServer.Protobuf
