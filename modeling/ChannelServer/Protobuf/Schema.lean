/-
Generated messages.

The class that the compiler generates for a message has a member for each field and one for the
unknown fields, and functions that go through the fields: `MergePartialFromCodedStream`,
`SerializeWithCachedSizesToArray`, `ByteSizeLong`, `UnsafeMergeFrom` and `IsInitialized`.  These
functions are defined here once, for any list of fields (`Descriptor`); a class of the repository
is given by its members and its fields.

What a field holds is a `Cell`: the occurrences that are written, and what one more occurrence that
is read does to it.  Reading an occurrence is the only thing that a parse does to a message, except
that it collects unknown fields (`Descriptor.Effect`), and from this the main results follow.

* `dispatch_serialize`: parsing what was serialized merges it into the object.
* `length_serialize`: `ByteSizeLong` is the length.
* `exists_of_dispatch`: any parse that does not fail merges a message into the object, which does
  not depend on the object and can be serialized and parsed again.
* `dispatch_reorder`: only the occurrences of one field have to stay in their order.
-/
import Mathlib.Data.List.Induction
import Mathlib.Data.List.Nodup
import Mathlib.Data.List.Pairwise
import ChannelServer.Protobuf.Runtime

namespace ChannelServer.Protobuf

open Records (Reader Parser Outcome)

/-! ### Members -/

/-- A member of an object. -/
structure Slot (M β : Type) where
  get : M → β
  set : β → M → M
  get_set : ∀ b m, get (set b m) = b

/-- Two different members. -/
def Slot.Apart {M β γ : Type} (s : Slot M β) (t : Slot M γ) : Prop :=
  (∀ c m, s.get (t.set c m) = s.get m) ∧ ∀ b m, t.get (s.set b m) = t.get m

/-- What a field holds: the occurrences to be written, and the effect of reading one. -/
structure Cell (β : Type) where
  Carrier : Type
  empty : Carrier
  values : Carrier → List β
  push : β → Carrier → Carrier
  values_empty : values empty = []
  foldl_values : ∀ c, (values c).foldl (fun c b => push b c) empty = c
  foldl_push : ∀ b c d, (values (push b d)).foldl (fun c b => push b c) c =
    push b ((values d).foldl (fun c b => push b c) c)

namespace Cell

variable {β : Type} (C : Cell β)

/-- The occurrences of `d` are read into `c`. -/
def merge (c d : C.Carrier) : C.Carrier := (C.values d).foldl (fun c b => C.push b c) c

lemma merge_empty_left (c : C.Carrier) : C.merge C.empty c = c := C.foldl_values c

lemma merge_empty_right (c : C.Carrier) : C.merge c C.empty = c := by
  rw [merge, C.values_empty]
  rfl

lemma merge_push (b : β) (c d : C.Carrier) : C.merge c (C.push b d) = C.push b (C.merge c d) :=
  C.foldl_push b c d

lemma merge_foldl (c d : C.Carrier) (bs : List β) :
    C.merge c (bs.foldl (fun c b => C.push b c) d) =
      bs.foldl (fun c b => C.push b c) (C.merge c d) := by
  induction bs generalizing d with
  | nil => rfl
  | cons b bs ih => rw [List.foldl_cons, List.foldl_cons, ih, merge_push]

lemma merge_assoc (c d e : C.Carrier) : C.merge (C.merge c d) e = C.merge c (C.merge d e) :=
  (C.merge_foldl c d (C.values e)).symm

end Cell

variable {W : WireFormatLite} {M : Type}

/-! ### Fields -/

/-- Add an unknown field. -/
def pushUnknown (unknown : Slot M (List UnknownField)) (us : List UnknownField) (m : M) : M :=
  unknown.set (unknown.get m ++ us) m

/-- A field of a generated class.  A read that succeeds has the effect of one more occurrence, or it
adds an unknown field, which is written in the same way. -/
structure Field (W : WireFormatLite) (M : Type) (unknown : Slot M (List UnknownField)) where
  tag : ℕ
  Value : Type
  cell : Cell Value
  slot : Slot M cell.Carrier
  write : Value → Str
  size : Value → ℕ
  valid : Value → Prop
  required : Bool
  initialized : Value → Bool
  reader : Reader UInt8 M
  /-- The tags that the parser expects behind the field. -/
  next : List ℕ
  /-- The parser asks for the end of the input behind the field. -/
  last : Bool
  tag_pos : 0 < tag
  tag_lt : tag < 2 ^ 7
  length_write : ∀ {v}, valid v → size v < 2 ^ 31 → (write v).length = size v
  read_write : ∀ {v}, valid v → size v < 2 ^ 31 → ∀ m rest,
    reader.run m (write v ++ rest) = (slot.set (cell.push v (slot.get m)) m, some rest)
  valid_push : ∀ {v c}, valid v → (∀ w ∈ cell.values c, valid w) →
    ∀ w ∈ cell.values (cell.push v c), valid w
  read_some : ∀ {m l m' rest}, reader.run m l = (m', some rest) →
    (∃ v, valid v ∧ ∀ a, reader.run a l = (slot.set (cell.push v (slot.get a)) a, some rest)) ∨
    ∃ u : UnknownField, u.tag = tag ∧
      (∀ a, reader.run a l = (pushUnknown unknown [u] a, some rest)) ∧
      ∀ a more, reader.run a (u.content ++ more) = (pushUnknown unknown [u] a, some more)

namespace Field

variable {unknown : Slot M (List UnknownField)} (f : Field W M unknown)

/-- The occurrences of a field in an object. -/
def values (m : M) : List f.Value := f.cell.values (f.slot.get m)

/-- One more occurrence. -/
def add (v : f.Value) (m : M) : M := f.slot.set (f.cell.push v (f.slot.get m)) m

/-- What the parser needs to know of a field. -/
def record : Records.Field UInt8 ℕ M := ⟨f.tag, f.reader, f.next, f.last⟩

/-- An occurrence on the wire. -/
def encode (v : f.Value) : Str := W.writeTag f.tag ++ f.write v

/-- The occurrences of a field in `m` are added to `a`. -/
def put (m a : M) : M := (f.values m).foldl (fun a v => f.add v a) a

lemma get_foldl_add (vs : List f.Value) (a : M) :
    f.slot.get (vs.foldl (fun a v => f.add v a) a) =
      vs.foldl (fun c v => f.cell.push v c) (f.slot.get a) := by
  induction vs generalizing a with
  | nil => rfl
  | cons v vs ih =>
    rw [List.foldl_cons, List.foldl_cons, ih, add, f.slot.get_set]

lemma get_put (m a : M) :
    f.slot.get (f.put m a) = f.cell.merge (f.slot.get a) (f.slot.get m) :=
  f.get_foldl_add _ a

/-- A member that the occurrences of a field do not change, the whole field does not change. -/
lemma put_frame {β : Type} (get : M → β) (h : ∀ v a, get (f.add v a) = get a) (m a : M) :
    get (f.put m a) = get a := by
  unfold put
  induction f.values m generalizing a with
  | nil => rfl
  | cons v vs ih => rw [List.foldl_cons, ih, h]

lemma length_encode {v : f.Value} (hv : f.valid v) (hs : f.size v < 2 ^ 31) :
    (f.encode v).length = 1 + f.size v := by
  rw [encode, List.length_append, W.length_writeTag f.tag_pos f.tag_lt, f.length_write hv hs]

end Field

/-! ### Messages -/

/-- A generated class. -/
structure Descriptor (W : WireFormatLite) (M : Type) where
  new : M
  unknown : Slot M (List UnknownField)
  fields : List (Field W M unknown)
  nodup : (fields.map (·.tag)).Nodup
  get_new : ∀ f ∈ fields, f.slot.get new = f.cell.empty
  unknown_new : unknown.get new = []
  apart : fields.Pairwise fun f g => f.slot.Apart g.slot
  apart_unknown : ∀ f ∈ fields, f.slot.Apart unknown
  ext : ∀ {m m'}, (∀ f ∈ fields, f.slot.get m = f.slot.get m') →
    unknown.get m = unknown.get m' → m = m'

/-- A class with one field. -/
def Descriptor.one (new : M) (unknown : Slot M (List UnknownField)) (f : Field W M unknown)
    (get_new : f.slot.get new = f.cell.empty) (unknown_new : unknown.get new = [])
    (apart_unknown : f.slot.Apart unknown)
    (ext : ∀ {m m'}, f.slot.get m = f.slot.get m' → unknown.get m = unknown.get m' → m = m') :
    Descriptor W M where
  new := new
  unknown := unknown
  fields := [f]
  nodup := List.nodup_singleton _
  get_new := List.forall_mem_singleton.2 get_new
  unknown_new := unknown_new
  apart := List.pairwise_singleton _ _
  apart_unknown := List.forall_mem_singleton.2 apart_unknown
  ext h := ext (h f List.mem_cons_self)

/-- A class with two fields. -/
def Descriptor.two (new : M) (unknown : Slot M (List UnknownField)) (f g : Field W M unknown)
    (hne : f.tag ≠ g.tag)
    (get_new : f.slot.get new = f.cell.empty ∧ g.slot.get new = g.cell.empty)
    (unknown_new : unknown.get new = []) (apart : f.slot.Apart g.slot)
    (apart_unknown : f.slot.Apart unknown ∧ g.slot.Apart unknown)
    (ext : ∀ {m m'}, f.slot.get m = f.slot.get m' → g.slot.get m = g.slot.get m' →
      unknown.get m = unknown.get m' → m = m') : Descriptor W M where
  new := new
  unknown := unknown
  fields := [f, g]
  nodup := by simpa using hne
  get_new := List.forall_mem_cons.2 ⟨get_new.1, List.forall_mem_singleton.2 get_new.2⟩
  unknown_new := unknown_new
  apart := List.pairwise_pair.2 apart
  apart_unknown :=
    List.forall_mem_cons.2 ⟨apart_unknown.1, List.forall_mem_singleton.2 apart_unknown.2⟩
  ext h := ext (h f List.mem_cons_self) (h g (List.mem_cons_of_mem f List.mem_cons_self))

/-- `WireFormat::SerializeUnknownFieldsToArray`. -/
def WireFormatLite.serializeUnknownFields (W : WireFormatLite) (us : List UnknownField) : Str :=
  us.flatMap fun u => W.writeTag u.tag ++ u.content

namespace Descriptor

variable (D : Descriptor W M)

/-- The parser of a generated class.  A tag with the wire type of an end of a group ends the
message. -/
def parser : Parser UInt8 ℕ M where
  input := W.input
  fields := D.fields.map Field.record
  stops t := t % 8 = 4
  skip t := {
    run := fun m l => (pushUnknown D.unknown (W.skipField t l).1 m, (W.skipField t l).2)
    length_le := fun h => (W.skipField_some (Prod.ext rfl (Prod.mk.inj h).2)).1 }

/-- `MergePartialFromCodedStream`. -/
def mergePartialFromCodedStream (m : M) (l : Str) : M × Outcome := D.parser.dispatch m l

/-- `SerializeWithCachedSizesToArray`. -/
def serialize (m : M) : Str :=
  (D.fields.flatMap fun f => (f.values m).flatMap f.encode) ++
    W.serializeUnknownFields (D.unknown.get m)

/-- `ByteSizeLong`. -/
def byteSize (m : M) : ℕ :=
  D.fields.foldr (fun f total => (f.values m).foldr (fun v n => 1 + f.size v + n) 0 + total) 0 +
    (W.serializeUnknownFields (D.unknown.get m)).length

/-- `UnsafeMergeFrom`. -/
def mergeFrom (a m : M) : M :=
  pushUnknown D.unknown (D.unknown.get m) (D.fields.foldl (fun a f => f.put m a) a)

/-- `IsInitialized`: the required fields are there, and all the messages are initialized. -/
def isInitialized (m : M) : Bool :=
  D.fields.all fun f => (!f.required || !(f.values m).isEmpty) && (f.values m).all f.initialized

/-- `ParseFromArray`: the message, and whether it was read completely and is initialized. -/
def parseFromArray (l : Str) : M × Bool :=
  let (m, outcome) := D.mergePartialFromCodedStream D.new l
  (m, outcome = .stopped true && D.isInitialized m)

/-! ### Merging -/

variable {D} {f : Field W M D.unknown}

lemma eq_of_tag {g : Field W M D.unknown} (hf : f ∈ D.fields) (hg : g ∈ D.fields)
    (h : f.tag = g.tag) : f = g := List.inj_on_of_nodup_map D.nodup hf hg h

lemma get_pushUnknown (hf : f ∈ D.fields) (us : List UnknownField) (m : M) :
    f.slot.get (pushUnknown D.unknown us m) = f.slot.get m := (D.apart_unknown f hf).1 _ m

lemma unknown_pushUnknown (us : List UnknownField) (m : M) :
    D.unknown.get (pushUnknown D.unknown us m) = D.unknown.get m ++ us := D.unknown.get_set _ m

lemma unknown_add (hf : f ∈ D.fields) (v : f.Value) (m : M) :
    D.unknown.get (f.add v m) = D.unknown.get m := (D.apart_unknown f hf).2 _ m

lemma get_add_self (v : f.Value) (m : M) :
    f.slot.get (f.add v m) = f.cell.push v (f.slot.get m) := f.slot.get_set _ m

lemma get_add_of_ne {g : Field W M D.unknown} (hf : f ∈ D.fields) (hg : g ∈ D.fields)
    (h : f.tag ≠ g.tag) (v : g.Value) (m : M) : f.slot.get (g.add v m) = f.slot.get m := by
  have hne : f ≠ g := fun heq => h (congrArg (·.tag) heq)
  have hsymm : Std.Symm fun f g : Field W M D.unknown => f.slot.Apart g.slot :=
    ⟨fun _ _ hfg => ⟨hfg.2, hfg.1⟩⟩
  exact (D.apart.forall hf hg hne).1 _ m

section Merge

variable {fs : List (Field W M D.unknown)}

private lemma get_puts_of_notMem (hf : f ∈ D.fields) (hfs : ∀ g ∈ fs, g ∈ D.fields)
    (hne : f.tag ∉ fs.map (·.tag)) (m a : M) :
    f.slot.get (fs.foldl (fun a f => f.put m a) a) = f.slot.get a := by
  induction fs generalizing a with
  | nil => rfl
  | cons g fs ih =>
    rw [List.map_cons, List.mem_cons, not_or] at hne
    rw [List.foldl_cons, ih (fun h hh => hfs h (List.mem_cons_of_mem g hh)) hne.2]
    exact g.put_frame f.slot.get
      (fun v a => get_add_of_ne hf (hfs g List.mem_cons_self) hne.1 v a) m a

private lemma get_puts (hfs : ∀ g ∈ fs, g ∈ D.fields) (hnodup : (fs.map (·.tag)).Nodup)
    (hf : f ∈ fs) (m a : M) :
    f.slot.get (fs.foldl (fun a f => f.put m a) a) =
      f.cell.merge (f.slot.get a) (f.slot.get m) := by
  induction fs generalizing a with
  | nil => cases hf
  | cons g fs ih =>
    rw [List.map_cons, List.nodup_cons] at hnodup
    have hrest : ∀ h ∈ fs, h ∈ D.fields := fun h hh => hfs h (List.mem_cons_of_mem g hh)
    rw [List.foldl_cons]
    rcases List.mem_cons.1 hf with rfl | hmem
    · rw [get_puts_of_notMem (hfs f List.mem_cons_self) hrest hnodup.1, f.get_put]
    · have hne : f.tag ≠ g.tag := fun h => hnodup.1 (h ▸ List.mem_map_of_mem hmem)
      rw [ih hrest hnodup.2 hmem, g.put_frame f.slot.get]
      exact fun v a => get_add_of_ne (hfs f hf) (hfs g List.mem_cons_self) hne v a

end Merge

lemma get_mergeFrom (hf : f ∈ D.fields) (a m : M) :
    f.slot.get (D.mergeFrom a m) = f.cell.merge (f.slot.get a) (f.slot.get m) := by
  rw [mergeFrom, get_pushUnknown hf, get_puts (fun _ hg => hg) D.nodup hf]

lemma unknown_mergeFrom (a m : M) :
    D.unknown.get (D.mergeFrom a m) = D.unknown.get a ++ D.unknown.get m := by
  have hputs : ∀ fs : List (Field W M D.unknown), (∀ f ∈ fs, f ∈ D.fields) → ∀ a,
      D.unknown.get (fs.foldl (fun a f => f.put m a) a) = D.unknown.get a := by
    intro fs hfs
    induction fs with
    | nil => exact fun _ => rfl
    | cons f fs ih =>
      intro a
      rw [List.foldl_cons, ih (fun g hg => hfs g (List.mem_cons_of_mem f hg))]
      exact f.put_frame D.unknown.get (fun v a => unknown_add (hfs f List.mem_cons_self) v a) m a
  rw [mergeFrom, unknown_pushUnknown, hputs D.fields fun _ hf => hf]

/-- A new object is a unit of `MergeFrom`. -/
theorem mergeFrom_new (m : M) : D.mergeFrom D.new m = m := by
  refine D.ext (fun f hf => ?_) ?_
  · rw [get_mergeFrom hf, D.get_new f hf, f.cell.merge_empty_left]
  · rw [unknown_mergeFrom, D.unknown_new, List.nil_append]

theorem mergeFrom_assoc (a b m : M) :
    D.mergeFrom (D.mergeFrom a b) m = D.mergeFrom a (D.mergeFrom b m) := by
  refine D.ext (fun f hf => ?_) ?_
  · simp only [get_mergeFrom hf, f.cell.merge_assoc]
  · simp only [unknown_mergeFrom, List.append_assoc]

lemma mergeFrom_add (hf : f ∈ D.fields) (v : f.Value) (a m : M) :
    D.mergeFrom a (f.add v m) = f.add v (D.mergeFrom a m) := by
  refine D.ext (fun g hg => ?_) ?_
  · by_cases hgf : g.tag = f.tag
    · obtain rfl := eq_of_tag hg hf hgf
      rw [get_mergeFrom hg, get_add_self, get_add_self, get_mergeFrom hg, g.cell.merge_push]
    · rw [get_mergeFrom hg, get_add_of_ne hg hf hgf, get_add_of_ne hg hf hgf, get_mergeFrom hg]
  · rw [unknown_mergeFrom, unknown_add hf, unknown_add hf, unknown_mergeFrom]

lemma mergeFrom_pushUnknown (us : List UnknownField) (a m : M) :
    D.mergeFrom a (pushUnknown D.unknown us m) =
      pushUnknown D.unknown us (D.mergeFrom a m) := by
  refine D.ext (fun g hg => ?_) ?_
  · rw [get_mergeFrom hg, get_pushUnknown hg, get_pushUnknown hg, get_mergeFrom hg]
  · simp only [unknown_mergeFrom, unknown_pushUnknown, List.append_assoc]

/-! ### What is serialized is parsed -/

variable (D) in
/-- The field is read back as an unknown field. -/
def Passes (u : UnknownField) : Prop :=
  D.parser.Reads (W.writeTag u.tag ++ u.content) (pushUnknown D.unknown [u])

variable (D) in
/-- All values can be written, and the unknown fields are unknown. -/
def Valid (m : M) : Prop :=
  (∀ f ∈ D.fields, ∀ v ∈ f.values m, f.valid v) ∧ ∀ u ∈ D.unknown.get m, D.Passes u

variable (D) in
/-- The unknown fields are such as a parse leaves behind: their tags are tags, and they are read
back. -/
def Leaves (us : List UnknownField) : Prop :=
  ∀ u ∈ us, (0 < u.tag ∧ u.tag < 2 ^ 32) ∧ D.Passes u

lemma lookup?_tag (hf : f ∈ D.fields) : D.parser.lookup? f.tag = some f.record := by
  have hmem : f.record ∈ D.parser.fields := List.mem_map_of_mem hf
  refine Parser.lookup?_of_mem ?_ hmem
  simp only [parser, List.map_map]
  exact D.nodup

/-- An occurrence of a field is read. -/
lemma reads_encode (hf : f ∈ D.fields) {v : f.Value} (hv : f.valid v) (hs : f.size v < 2 ^ 31) :
    D.parser.Reads (f.encode v) (f.add v) := by
  have hlt := f.tag_lt
  refine .of_lookup (t := f.tag) (fun rest => ?_) (lookup?_tag hf) (f.read_write hv hs)
  rw [Field.encode, List.append_assoc]
  exact W.readTag_writeTag f.tag_pos (by omega) _

lemma size_le_byteSize (hf : f ∈ D.fields) {m : M} {v : f.Value} (hv : v ∈ f.values m) :
    f.size v < D.byteSize m := by
  have hvalues : ∀ vs : List f.Value, v ∈ vs →
      f.size v < vs.foldr (fun v n => 1 + f.size v + n) 0 := by
    intro vs hmem
    induction vs with
    | nil => cases hmem
    | cons w vs ih =>
      rw [List.foldr_cons]
      rcases List.mem_cons.1 hmem with rfl | hmem
      · omega
      · have := ih hmem
        omega
  have hfields : ∀ fs : List (Field W M D.unknown), f ∈ fs → f.size v < fs.foldr
      (fun f total => (f.values m).foldr (fun v n => 1 + f.size v + n) 0 + total) 0 := by
    intro fs hmem
    induction fs with
    | nil => cases hmem
    | cons g fs ih =>
      rw [List.foldr_cons]
      rcases List.mem_cons.1 hmem with rfl | hmem
      · have := hvalues _ hv
        omega
      · have := ih hmem
        omega
  exact Nat.lt_add_right _ (hfields _ hf)

lemma foldl_pushUnknown (us : List UnknownField) (m : M) :
    us.foldl (fun m u => pushUnknown D.unknown [u] m) m = pushUnknown D.unknown us m := by
  induction us generalizing m with
  | nil =>
    refine D.ext (fun f hf => (get_pushUnknown hf _ m).symm) ?_
    rw [unknown_pushUnknown, List.append_nil, List.foldl_nil]
  | cons u us ih =>
    refine D.ext (fun f hf => ?_) ?_
    · rw [List.foldl_cons, ih, get_pushUnknown hf, get_pushUnknown hf, get_pushUnknown hf]
    · rw [List.foldl_cons, ih, unknown_pushUnknown, unknown_pushUnknown, unknown_pushUnknown,
        List.append_assoc, List.singleton_append]

/-- A serialized message is read as its occurrences. -/
lemma reads_serialize {m : M} (hm : D.Valid m) (hs : D.byteSize m < 2 ^ 31) :
    D.parser.Reads (D.serialize m) (D.mergeFrom · m) := by
  have hknown : D.parser.Reads (D.fields.flatMap fun f => (f.values m).flatMap f.encode)
      fun a => D.fields.foldl (fun a f => f.put m a) a := by
    refine .flatten (fun (f : Field W M D.unknown) a => f.put m a) fun f hf => ?_
    refine .flatten (fun v a => f.add v a) fun v hv => ?_
    exact reads_encode hf (hm.1 f hf v hv) (lt_trans (size_le_byteSize hf hv) hs)
  have hunknown : D.parser.Reads (W.serializeUnknownFields (D.unknown.get m))
      (pushUnknown D.unknown (D.unknown.get m)) := by
    intro a rest
    rw [← foldl_pushUnknown]
    exact Parser.Reads.flatten (fun u a => pushUnknown D.unknown [u] a) hm.2 a rest
  exact hknown.append hunknown

/-- **Parsing what was serialized** merges it into the object. -/
theorem dispatch_serialize {m : M} (hm : D.Valid m) (hs : D.byteSize m < 2 ^ 31) (a : M) :
    D.mergePartialFromCodedStream a (D.serialize m) = (D.mergeFrom a m, .stopped true) := by
  rw [mergePartialFromCodedStream, Parser.dispatch_eq_loop]
  exact (reads_serialize hm hs).loop_eq a

/-- **The size of a message** is the length of its serialization. -/
theorem length_serialize {m : M} (hm : D.Valid m) (hs : D.byteSize m < 2 ^ 31) :
    (D.serialize m).length = D.byteSize m := by
  have hvalues : ∀ f ∈ D.fields, ∀ vs : List f.Value, (∀ v ∈ vs, v ∈ f.values m) →
      (vs.flatMap f.encode).length = vs.foldr (fun v n => 1 + f.size v + n) 0 := by
    intro f hf vs hvs
    induction vs with
    | nil => rfl
    | cons v vs ih =>
      have hv := hvs v List.mem_cons_self
      have hsize := lt_trans (size_le_byteSize hf hv) hs
      rw [List.flatMap_cons, List.length_append, f.length_encode (hm.1 f hf v hv) hsize,
        ih fun w hw => hvs w (List.mem_cons_of_mem v hw)]
      rfl
  have hfields : ∀ fs : List (Field W M D.unknown), (∀ f ∈ fs, f ∈ D.fields) →
      (fs.flatMap fun f => (f.values m).flatMap f.encode).length = fs.foldr
        (fun f total => (f.values m).foldr (fun v n => 1 + f.size v + n) 0 + total) 0 := by
    intro fs hfs
    induction fs with
    | nil => rfl
    | cons f fs ih =>
      rw [List.flatMap_cons, List.length_append,
        hvalues f (hfs f List.mem_cons_self) _ (fun _ hv => hv),
        ih fun g hg => hfs g (List.mem_cons_of_mem f hg)]
      rfl
  rw [serialize, List.length_append, hfields D.fields fun _ hf => hf]
  rfl

/-! ### What is parsed can be serialized -/

variable (D) in
/-- What one round of the parser does to the message. -/
inductive Effect : (M → M) → Prop
  | known {f : Field W M D.unknown} (hf : f ∈ D.fields) {v : f.Value} (hv : f.valid v) :
      Effect (f.add v)
  | unknown {u : UnknownField} (htag : 0 < u.tag ∧ u.tag < 2 ^ 32) (hu : D.Passes u) :
      Effect (pushUnknown D.unknown [u])

/-- An unknown field passes when the reader of its tag adds it. -/
lemma passes_of_run {u : UnknownField} (hpos : 0 < u.tag) (hlt : u.tag < 2 ^ 32)
    {r : Records.Field UInt8 ℕ M} (hr : D.parser.lookup? u.tag = some r)
    (hread : ∀ a more, r.reader.run a (u.content ++ more) =
      (pushUnknown D.unknown [u] a, some more)) : D.Passes u := by
  refine .of_lookup (fun more => ?_) hr hread
  rw [List.append_assoc]
  exact W.readTag_writeTag hpos hlt _

/-- A field passes that no field of the class has the tag of. -/
lemma passes_of_skip {u : UnknownField} (hpos : 0 < u.tag) (hlt : u.tag < 2 ^ 32)
    (hnone : u.tag ∉ D.fields.map (·.tag)) (hstops : u.tag % 8 ≠ 4)
    (hskip : ∀ more, W.skipField u.tag (u.content ++ more) = ([u], some more)) : D.Passes u := by
  have hfind : D.parser.fields.find? (·.tag = u.tag) = none := by
    rw [List.find?_eq_none]
    intro r hr
    obtain ⟨f, hf, rfl⟩ := List.mem_map.1 hr
    have hne : f.tag ≠ u.tag := fun h => hnone (h ▸ List.mem_map_of_mem hf)
    exact fun h => hne (of_decide_eq_true h)
  have hlookup : D.parser.lookup? u.tag = some ⟨u.tag, D.parser.skip u.tag, [], false⟩ := by
    rw [Parser.lookup?, hfind]
    exact if_neg fun h => hstops (of_decide_eq_true h)
  refine passes_of_run hpos hlt hlookup fun a more => ?_
  show (pushUnknown D.unknown (W.skipField u.tag (u.content ++ more)).1 a,
    (W.skipField u.tag (u.content ++ more)).2) = _
  rw [hskip]

/-- A read that succeeds has an effect, which does not depend on the object. -/
lemma effect_of_run {m m' : M} {l content rest : Str} {t : ℕ} {r : Records.Field UInt8 ℕ M}
    (ht : W.input.readTag l = some (t, content)) (hr : D.parser.lookup? t = some r)
    (h : r.reader.run m content = (m', some rest)) :
    ∃ e, D.Effect e ∧ ∀ a, r.reader.run a content = (e a, some rest) := by
  obtain ⟨hpos, hlt⟩ := W.readTag_range ht
  have hunknown : ∀ {u : UnknownField}, u.tag = t →
      (∀ a more, r.reader.run a (u.content ++ more) =
        (pushUnknown D.unknown [u] a, some more)) → D.Effect (pushUnknown D.unknown [u]) := by
    rintro u rfl hread
    exact .unknown ⟨hpos, hlt⟩ (passes_of_run hpos hlt hr hread)
  cases hfind : D.parser.fields.find? (·.tag = t) with
  | some q =>
    rw [Parser.lookup?, hfind] at hr
    obtain rfl := Option.some.inj hr
    obtain ⟨f, hf, rfl⟩ := List.mem_map.1 (List.mem_of_find?_eq_some hfind)
    have hrecord : f.record.tag = t := by simpa using List.find?_some hfind
    have htag : f.tag = t := hrecord
    rcases f.read_some h with ⟨v, hv, hrun⟩ | ⟨u, hu, hrun, hread⟩
    · exact ⟨_, .known hf hv, hrun⟩
    · exact ⟨_, hunknown (hu.trans htag) hread, hrun⟩
  | none =>
    rw [Parser.lookup?, hfind] at hr
    dsimp only at hr
    split at hr
    · cases hr
    · obtain rfl := Option.some.inj hr
      rcases hskip : W.skipField t content with ⟨us, more⟩
      have hmore : more = some rest := by
        have hsnd : (W.skipField t content).2 = some rest := (Prod.mk.inj h).2
        rwa [hskip] at hsnd
      subst hmore
      obtain ⟨-, u, rfl, hu, hagain⟩ := W.skipField_some hskip
      refine ⟨_, hunknown hu fun a more => ?_, fun a => ?_⟩
      · show (pushUnknown _ (W.skipField t (u.content ++ more)).1 a,
          (W.skipField t (u.content ++ more)).2) = _
        rw [hagain]
      · show (pushUnknown _ (W.skipField t content).1 a, (W.skipField t content).2) = _
        rw [hskip]

/-- A parse that ends without a failure is a sequence of effects. -/
lemma effects_of_loop {m m' : M} {l : Str} {b : Bool}
    (h : D.parser.loop m l = (m', .stopped b)) :
    ∃ es : List (M → M), (∀ e ∈ es, D.Effect e) ∧
      ∀ a, D.parser.loop a l = (es.foldl (fun a e => e a) a, .stopped b) := by
  induction hk : l.length using Nat.strongRecOn generalizing l m with
  | _ k ih =>
    cases ht : D.parser.input.readTag l with
    | none =>
      rw [Parser.loop_of_none ht] at h
      refine ⟨[], by simp, fun a => ?_⟩
      rw [Parser.loop_of_none ht, (Prod.mk.inj h).2]
      rfl
    | some p =>
      obtain ⟨t, content⟩ := p
      have hcontent := D.parser.input.length_of_readTag ht
      rw [Parser.loop_of_tag ht] at h
      cases hr : D.parser.lookup? t with
      | none =>
        rw [hr] at h
        refine ⟨[], by simp, fun a => ?_⟩
        rw [Parser.loop_of_tag ht, hr]
        exact Prod.ext rfl (Prod.mk.inj h).2
      | some r =>
        rw [hr] at h
        dsimp only at h
        rcases hrun : r.reader.run m content with ⟨m₁, rest⟩
        rw [hrun] at h
        cases rest with
        | none => cases (Prod.mk.inj h).2
        | some rest =>
          obtain ⟨e, he, heffect⟩ := effect_of_run ht hr hrun
          have hrest := r.reader.length_le hrun
          obtain ⟨es, hes, hloop⟩ := ih rest.length (by omega) h rfl
          refine ⟨e :: es, List.forall_mem_cons.2 ⟨he, hes⟩, fun a => ?_⟩
          rw [Parser.loop_of_tag ht, hr]
          dsimp only
          rw [heffect a]
          exact hloop (e a)

lemma Effect.mergeFrom {e : M → M} (he : D.Effect e) (a m : M) :
    D.mergeFrom a (e m) = e (D.mergeFrom a m) := by
  cases he with
  | known hf _ => exact mergeFrom_add hf _ a m
  | unknown _ _ => exact mergeFrom_pushUnknown _ a m

lemma valid_add (hf : f ∈ D.fields) {v : f.Value} (hv : f.valid v) {m : M} (hm : D.Valid m) :
    D.Valid (f.add v m) := by
  constructor
  · intro g hg w hw
    by_cases hgf : g.tag = f.tag
    · obtain rfl := eq_of_tag hg hf hgf
      rw [Field.values, get_add_self] at hw
      exact g.valid_push hv (hm.1 g hg) w hw
    · rw [Field.values, get_add_of_ne hg hf hgf] at hw
      exact hm.1 g hg w hw
  · rw [unknown_add hf]
    exact hm.2

lemma valid_pushUnknown {us : List UnknownField} (hus : ∀ u ∈ us, D.Passes u) {m : M}
    (hm : D.Valid m) : D.Valid (pushUnknown D.unknown us m) := by
  constructor
  · intro g hg w hw
    rw [Field.values, get_pushUnknown hg] at hw
    exact hm.1 g hg w hw
  · rw [unknown_pushUnknown]
    intro u hu
    rcases List.mem_append.1 hu with hu | hu
    · exact hm.2 u hu
    · exact hus u hu

lemma Effect.valid {e : M → M} (he : D.Effect e) {m : M} (hm : D.Valid m) : D.Valid (e m) := by
  cases he with
  | known hf hv => exact valid_add hf hv hm
  | unknown _ hu => exact valid_pushUnknown (by simpa using hu) hm

lemma Effect.leaves {e : M → M} (he : D.Effect e) {m : M} (hm : D.Leaves (D.unknown.get m)) :
    D.Leaves (D.unknown.get (e m)) := by
  cases he with
  | known hf _ => rwa [unknown_add hf]
  | unknown htag hu =>
    rw [unknown_pushUnknown]
    exact List.forall_mem_append.2 ⟨hm, List.forall_mem_singleton.2 ⟨htag, hu⟩⟩

lemma valid_new : D.Valid D.new := by
  constructor
  · intro f hf v hv
    rw [Field.values, D.get_new f hf, f.cell.values_empty] at hv
    cases hv
  · rw [D.unknown_new]
    exact fun u hu => absurd hu List.not_mem_nil

lemma valid_mergeFrom {a m : M} (ha : D.Valid a) (hm : D.Valid m) : D.Valid (D.mergeFrom a m) := by
  constructor
  · intro f hf
    have hpush : ∀ (vs : List f.Value) (c : f.cell.Carrier), (∀ v ∈ vs, f.valid v) →
        (∀ v ∈ f.cell.values c, f.valid v) →
        ∀ v ∈ f.cell.values (vs.foldl (fun c v => f.cell.push v c) c), f.valid v := by
      intro vs
      induction vs with
      | nil => exact fun c _ hc => hc
      | cons v vs ih =>
        intro c hvs hc
        exact ih _ (fun w hw => hvs w (List.mem_cons_of_mem v hw))
          (f.valid_push (hvs v List.mem_cons_self) hc)
    rw [Field.values, get_mergeFrom hf]
    exact hpush _ _ (hm.1 f hf) (ha.1 f hf)
  · rw [unknown_mergeFrom]
    intro u hu
    rcases List.mem_append.1 hu with hu | hu
    · exact ha.2 u hu
    · exact hm.2 u hu

lemma mergeFrom_new_right (a : M) : D.mergeFrom a D.new = a := by
  refine D.ext (fun f hf => ?_) ?_
  · rw [get_mergeFrom hf, D.get_new f hf, f.cell.merge_empty_right]
  · rw [unknown_mergeFrom, D.unknown_new, List.append_nil]

/-- **A parse that does not fail** merges a message into the object, the same one for all objects;
this message, with its unknown fields, can be serialized and parsed again. -/
theorem exists_of_dispatch {a a' : M} {l : Str} {b : Bool}
    (h : D.mergePartialFromCodedStream a l = (a', .stopped b)) :
    ∃ m, D.Valid m ∧ D.Leaves (D.unknown.get m) ∧
      ∀ c, D.mergePartialFromCodedStream c l = (D.mergeFrom c m, .stopped b) := by
  simp only [mergePartialFromCodedStream, Parser.dispatch_eq_loop] at h ⊢
  obtain ⟨es, hes, hloop⟩ := effects_of_loop h
  have hfold : ∃ m, D.Valid m ∧ D.Leaves (D.unknown.get m) ∧
      ∀ c, es.foldl (fun a e => e a) c = D.mergeFrom c m := by
    clear hloop
    induction es using List.reverseRecOn with
    | nil =>
      refine ⟨D.new, valid_new, ?_, fun c => (mergeFrom_new_right c).symm⟩
      rw [D.unknown_new]
      exact fun u hu => absurd hu List.not_mem_nil
    | append_singleton es e ih =>
      obtain ⟨m, hm, hleaves, hfold⟩ := ih fun e he => hes e (List.mem_append_left _ he)
      have he : D.Effect e := hes e (List.mem_append_right _ List.mem_cons_self)
      refine ⟨e m, he.valid hm, he.leaves hleaves, fun c => ?_⟩
      rw [List.foldl_append, hfold, he.mergeFrom]
      rfl
  obtain ⟨m, hm, hleaves, hfold⟩ := hfold
  exact ⟨m, hm, hleaves, fun c => by rw [hloop, hfold]⟩

/-- The unknown fields that a parse leaves in a new object. -/
lemma leaves_of_dispatch {m : M} {l : Str} {b : Bool}
    (h : D.mergePartialFromCodedStream D.new l = (m, .stopped b)) :
    D.Leaves (D.unknown.get m) := by
  obtain ⟨m', -, hleaves, hmerge⟩ := exists_of_dispatch h
  have hnew := hmerge D.new
  rw [h, mergeFrom_new] at hnew
  rwa [(Prod.mk.inj hnew).1]

/-! ### The order of the fields -/

variable (D) in
/-- A piece of a message: an occurrence of a field, or an unknown field. -/
inductive Piece
  | known (f : Field W M D.unknown) (hf : f ∈ D.fields) (v : f.Value) (hv : f.valid v)
      (hs : f.size v < 2 ^ 31)
  | unknown (u : UnknownField) (hu : D.Passes u)

namespace Piece

/-- The bytes of a piece. -/
def encode : D.Piece → Str
  | known f _ v _ _ => f.encode v
  | unknown u _ => W.writeTag u.tag ++ u.content

/-- The tag of the field; the unknown fields are kept together. -/
def key : D.Piece → Option ℕ
  | known f _ _ _ _ => some f.tag
  | unknown _ _ => none

/-- What a piece does to a message. -/
def update : D.Piece → M → M
  | known f _ v _ _ => f.add v
  | unknown u _ => pushUnknown D.unknown [u]

lemma reads (p : D.Piece) : D.parser.Reads p.encode p.update := by
  cases p with
  | known f hf v hv hs => exact reads_encode hf hv hs
  | unknown u hu => exact hu

private lemma comm_unknown (hf : f ∈ D.fields) (v : f.Value) (us : List UnknownField) (m : M) :
    f.add v (pushUnknown D.unknown us m) = pushUnknown D.unknown us (f.add v m) := by
  refine D.ext (fun g hg => ?_) ?_
  · by_cases hgf : g.tag = f.tag
    · obtain rfl := eq_of_tag hg hf hgf
      rw [get_add_self, get_pushUnknown hg, get_pushUnknown hg, get_add_self]
    · rw [get_add_of_ne hg hf hgf, get_pushUnknown hg, get_pushUnknown hg,
        get_add_of_ne hg hf hgf]
  · rw [unknown_add hf, unknown_pushUnknown, unknown_pushUnknown, unknown_add hf]

private lemma comm_known {g : Field W M D.unknown} (hf : f ∈ D.fields) (hg : g ∈ D.fields)
    (hne : f.tag ≠ g.tag) (v : f.Value) (w : g.Value) (m : M) :
    f.add v (g.add w m) = g.add w (f.add v m) := by
  refine D.ext (fun h hh => ?_) ?_
  · by_cases hhf : h.tag = f.tag
    · obtain rfl := eq_of_tag hh hf hhf
      rw [get_add_self, get_add_of_ne hh hg hne, get_add_of_ne hh hg hne, get_add_self]
    · by_cases hhg : h.tag = g.tag
      · obtain rfl := eq_of_tag hh hg hhg
        rw [get_add_of_ne hh hf hhf, get_add_self, get_add_self, get_add_of_ne hh hf hhf]
      · rw [get_add_of_ne hh hf hhf, get_add_of_ne hh hg hhg, get_add_of_ne hh hg hhg,
          get_add_of_ne hh hf hhf]
  · rw [unknown_add hf, unknown_add hg, unknown_add hg, unknown_add hf]

lemma comm (p q : D.Piece) (h : p.key ≠ q.key) (m : M) :
    p.update (q.update m) = q.update (p.update m) := by
  cases p with
  | known f hf v hv hs =>
    cases q with
    | known g hg w hw ht => exact comm_known hf hg (fun heq => h (congrArg some heq)) v w m
    | unknown u hu => exact comm_unknown hf v [u] m
  | unknown u hu =>
    cases q with
    | known g hg w hw ht => exact (comm_unknown hg w [u] m).symm
    | unknown u' hu' => exact absurd rfl h

end Piece

/-- **The order of the fields** does not matter, as long as the occurrences of each field, and the
unknown fields, stay in their order. -/
theorem dispatch_reorder {ps qs : List D.Piece}
    (h : ∀ k, ps.filter (·.key = k) = qs.filter (·.key = k)) (a : M) :
    D.mergePartialFromCodedStream a (ps.flatMap Piece.encode) =
      D.mergePartialFromCodedStream a (qs.flatMap Piece.encode) := by
  simp only [mergePartialFromCodedStream, Parser.dispatch_eq_loop]
  exact Records.Parser.loop_reorder Piece.reads Piece.comm h a

end Descriptor

end ChannelServer.Protobuf
