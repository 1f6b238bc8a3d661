/-
Reading a connection.

`session::handle_receive` is modelled on the level of bytes: the three buffers that the
constructor allocates, the header in front of each packet, and the counters of the packet
loop with the arithmetic of the types that they have in the source.  A step that leaves a
buffer fails.

The purpose of the loop is to cut a stream into packets, which `packetFraming` describes.
`receiveLoop_eq` shows that the loop does this, and `reassembly` that the packets which
are dispatched do not depend on the reads in which a stream of packets arrives.
-/
import ChannelServer.Lib.Block
import ChannelServer.Lib.Framing
import ChannelServer.Protocol

namespace ChannelServer

open Memory Streams Streams.Framing

/-! ### Packets on the wire -/

/-- A packet before it is sent: the value of `packet_header::type` and the serialized
message. -/
structure WirePacket where
  type : ℕ
  body : List UInt8
deriving DecidableEq, Repr

/-- `packet_handler::incoding`. -/
def incoding (packet : WirePacket) : List UInt8 :=
  le32 packet.body.length ++ le32 packet.type ++ packet.body

/-! ### The buffers of a session -/

/-- The members of `session` that a read uses.  The size of the packet buffer fits into an
`int`, since the constructor computes it in this type. -/
structure Receiver where
  maxBufferLen : ℕ
  maxBufferLen_lt : maxBufferLen * 2 < 2 ^ 31
  receiveBuffer : List.Vector UInt8 maxBufferLen
  tempBuffer : List.Vector UInt8 maxBufferLen
  packetBuffer : List.Vector UInt8 (maxBufferLen * 2)
  packetBufferMark : ℤ

/-- The buffers that `session::session` allocates, with undefined contents.  It fails when
the size of a buffer is negative or overflows. -/
def Receiver.new (maxBufferLen : ℤ) (memory : Fin 3 → ℕ → UInt8) (mark : ℤ) : Option Receiver :=
  if h : 0 ≤ maxBufferLen ∧ maxBufferLen * 2 < 2 ^ 31 then
    some {
      maxBufferLen := maxBufferLen.toNat
      maxBufferLen_lt := by omega
      receiveBuffer := block (memory 0) _
      tempBuffer := block (memory 1) _
      packetBuffer := block (memory 2) _
      packetBufferMark := mark }
  else none

/-- The line of `session::init` that concerns the buffers. -/
def Receiver.init (r : Receiver) : Receiver := { r with packetBufferMark := 0 }

/-- Why a read does not return: an access outside of a buffer, or a loop that is still
running after the given number of rounds. -/
inductive ReceiveFault
  | outOfBounds
  | outOfFuel
deriving DecidableEq, Repr

/-- An access to a buffer. -/
def access {α : Type} : Option α → Except ReceiveFault α
  | some a => .ok a
  | none => .error .outOfBounds

/-- A call of `process_packet`: the size in the header, the number of bytes that were not
consumed yet, and the bytes of the packet as far as the buffer holds them. -/
structure Dispatch where
  size : ℕ
  unread : ℤ
  data : List UInt8
deriving DecidableEq, Repr

/-- The value of an integer that is stored in an `int`. -/
def toInt (x : ℤ) : ℤ := x.bmod (2 ^ 32)

/-- The packet loop of `handle_receive`: the calls of `process_packet`, and the final values
of `n_packet_data` and `n_read_data`. -/
def receiveLoop {n : ℕ} (packetBuffer : List.Vector UInt8 n) :
    ℕ → ℤ → ℤ → Except ReceiveFault (List Dispatch × ℤ × ℤ)
  | 0, _, _ => .error .outOfFuel
  | fuel + 1, nPacketData, nReadData =>
      if nPacketData > 0 then
        if nPacketData < packetHeaderSize then .ok ([], nPacketData, nReadData)
        else do
          let size := ofLe32 (← access (readRange packetBuffer nReadData 4))
          -- the sum and the comparison are made in `unsigned int`
          let total : ℤ := (size + packetHeaderSize) % 2 ^ 32
          if total ≤ nPacketData % 2 ^ 32 then
            let data := (packetBuffer.toList.drop nReadData.toNat).take (packetHeaderSize + size)
            let (dispatched, counters) ←
              receiveLoop packetBuffer fuel (toInt (nPacketData - total))
                (toInt (nReadData + total))
            .ok (⟨size, nPacketData, data⟩ :: dispatched, counters)
          else .ok ([], nPacketData, nReadData)
      else .ok ([], nPacketData, nReadData)

/-- `session::handle_receive`, called without an error; `fuel` bounds the rounds of the
packet loop. -/
def handleReceive (fuel : ℕ) (r : Receiver) (bytesTransferred : ℕ) :
    Except ReceiveFault (Receiver × List Dispatch) := do
  let received ← access (readRange r.receiveBuffer 0 bytesTransferred)
  let packetBuffer ← access (writeRange r.packetBuffer r.packetBufferMark received)
  let (dispatched, nPacketData, nReadData) ←
    receiveLoop packetBuffer fuel (toInt (r.packetBufferMark + bytesTransferred)) 0
  if nPacketData > 0 then
    let tempBuffer ← access (writeRange r.tempBuffer 0 (List.replicate r.maxBufferLen 0))
    let tail ← access (readRange packetBuffer nReadData nPacketData)
    let tempBuffer ← access (writeRange tempBuffer 0 tail)
    let tail ← access (readRange tempBuffer 0 nPacketData)
    let packetBuffer ← access (writeRange packetBuffer 0 tail)
    .ok ({ r with
      tempBuffer := tempBuffer
      packetBuffer := packetBuffer
      packetBufferMark := nPacketData }, dispatched)
  else
    .ok ({ r with packetBuffer := packetBuffer, packetBufferMark := nPacketData }, dispatched)

/-- A read completes: the bytes are put into the receive buffer, and the handler is called. -/
def receiveBytes (fuel : ℕ) (r : Receiver) (bytes : List UInt8) :
    Except ReceiveFault (Receiver × List Dispatch) := do
  let receiveBuffer ← access (writeRange r.receiveBuffer 0 bytes)
  handleReceive fuel { r with receiveBuffer := receiveBuffer } bytes.length

/-- Reads complete one after the other. -/
def receiveAll (fuel : ℕ) (r : Receiver) :
    List (List UInt8) → Except ReceiveFault (Receiver × List Dispatch)
  | [] => .ok (r, [])
  | bytes :: reads => do
      let (r, dispatched) ← receiveBytes fuel r bytes
      let (r, more) ← receiveAll fuel r reads
      .ok (r, dispatched ++ more)

lemma bind_eq_ok {ε α β : Type} {x : Except ε α} {f : α → Except ε β} {b : β}
    (h : x >>= f = .ok b) : ∃ a, x = .ok a ∧ f a = .ok b := by
  cases x with
  | error _ => cases h
  | ok a => exact ⟨a, rfl, h⟩

/-- A read keeps the sizes of the buffers. -/
lemma maxBufferLen_of_receiveBytes {fuel : ℕ} {r r' : Receiver} {bytes : List UInt8}
    {dispatched : List Dispatch} (h : receiveBytes fuel r bytes = .ok (r', dispatched)) :
    r'.maxBufferLen = r.maxBufferLen := by
  obtain ⟨receiveBuffer, -, h⟩ := bind_eq_ok h
  obtain ⟨received, -, h⟩ := bind_eq_ok h
  obtain ⟨packetBuffer, -, h⟩ := bind_eq_ok h
  obtain ⟨⟨loop, nPacketData, nReadData⟩, -, h⟩ := bind_eq_ok h
  dsimp only at h
  split at h
  · obtain ⟨_, -, h⟩ := bind_eq_ok h
    obtain ⟨_, -, h⟩ := bind_eq_ok h
    obtain ⟨_, -, h⟩ := bind_eq_ok h
    obtain ⟨_, -, h⟩ := bind_eq_ok h
    obtain ⟨_, -, h⟩ := bind_eq_ok h
    obtain ⟨rfl, -⟩ := Prod.mk.inj (Except.ok.inj h)
    rfl
  · obtain ⟨rfl, -⟩ := Prod.mk.inj (Except.ok.inj h)
    rfl

/-! ### The packet loop cuts a stream into packets -/

/-- The length that a packet announces in its header. -/
def packetFraming : Framing UInt8 where
  length? buf :=
    if packetHeaderSize ≤ buf.length then some (ofLe32 (buf.take 4) + packetHeaderSize) else none
  length_pos := by
    intro buf n h
    split at h
    · obtain rfl := Option.some.inj h
      exact Nat.lt_add_left _ (by decide)
    · cases h
  length_append := by
    intro buf n more h
    split at h
    · rename_i hle
      have h4 : 4 ≤ buf.length := le_trans (by decide) hle
      rw [if_pos (by rw [List.length_append]; omega), List.take_append_of_le_length h4]
      exact h
    · cases h

lemma length?_of_le {buf : List UInt8} (h : packetHeaderSize ≤ buf.length) :
    packetFraming.length? buf = some (ofLe32 (buf.take 4) + packetHeaderSize) := if_pos h

/-- The header has arrived when a length is announced. -/
lemma header_of_length? {buf : List UInt8} {m : ℕ} (h : packetFraming.length? buf = some m) :
    packetHeaderSize ≤ buf.length ∧ ofLe32 (buf.take 4) + packetHeaderSize = m := by
  have h8 : packetHeaderSize ≤ buf.length := by
    by_contra hlt
    rw [show packetFraming.length? buf = none from if_neg hlt] at h
    cases h
  exact ⟨h8, Option.some.inj ((length?_of_le h8).symm.trans h)⟩

lemma incomplete_of_lt {buf : List UInt8} (h : buf.length < packetHeaderSize) :
    packetFraming.Incomplete buf := by
  intro n hn
  have hnone : packetFraming.length? buf = none := if_neg (by omega)
  rw [hnone] at hn
  cases hn

lemma length_incoding (packet : WirePacket) :
    (incoding packet).length = packet.body.length + packetHeaderSize := by
  simp only [incoding, List.length_append, length_le32]
  unfold packetHeaderSize
  omega

lemma isFrame_incoding {packet : WirePacket} (h : (incoding packet).length < 2 ^ 32) :
    packetFraming.IsFrame (incoding packet) := by
  rw [length_incoding] at h
  have hsize : ofLe32 ((incoding packet).take 4) = packet.body.length := by
    rw [incoding, List.append_assoc]
    exact ofLe32_le32 (by omega)
  unfold Framing.IsFrame
  rw [length?_of_le (by rw [length_incoding]; omega), hsize, length_incoding]

lemma toInt_of_lt {x : ℕ} (h : x < 2 ^ 31) : toInt x = x := by
  unfold toInt
  rw [Int.bmod_eq_of_le] <;> omega

/-- The length that the loop computes for the packet at the front of a buffer; the sum is made in
`unsigned int`. -/
def announcedLength (buf : List UInt8) : ℕ := (ofLe32 (buf.take 4) + packetHeaderSize) % 2 ^ 32

section Loop

variable {n : ℕ} {b : List.Vector UInt8 n} {fuel : ℕ} {front buf : List UInt8}

/-- The bounds of a part of the packet buffer. -/
lemma length_le_of_cells (hb : front ++ buf <+: b.toList) : front.length + buf.length ≤ n := by
  rw [← b.toList_length, ← List.length_append]
  exact hb.length_le

/-- The loop reads the size of the packet at the front. -/
lemma readRange_size (hb : front ++ buf <+: b.toList) (h8 : packetHeaderSize ≤ buf.length) :
    readRange b front.length 4 = some (buf.take 4) := by
  have h := readRange_of_prefix hb front.length 4 (by
    rw [List.length_append]
    have : packetHeaderSize = 8 := rfl
    omega)
  rwa [List.drop_left] at h

/-- The loop ends when the header, or the packet that it announces, has not arrived. -/
lemma receiveLoop_stop (hn : n < 2 ^ 31) (hb : front ++ buf <+: b.toList)
    (h : buf.length < packetHeaderSize ∨ buf.length < announcedLength buf) :
    receiveLoop b (fuel + 1) buf.length front.length =
      .ok ([], (buf.length : ℤ), (front.length : ℤ)) := by
  have h8 : packetHeaderSize = 8 := rfl
  have hbound := length_le_of_cells hb
  rw [receiveLoop]
  by_cases hpos : buf.length = 0
  · rw [if_neg (by omega)]
  · rw [if_pos (by omega)]
    by_cases hshort : buf.length < packetHeaderSize
    · rw [if_pos (by omega)]
    · have hlt : buf.length < announcedLength buf := h.resolve_left hshort
      have htotal : ((ofLe32 (buf.take 4) : ℤ) + packetHeaderSize) % 2 ^ 32 =
          announcedLength buf := by
        unfold announcedLength
        omega
      rw [if_neg (by omega), readRange_size hb (Nat.le_of_not_lt hshort)]
      simp only [access, bind, Except.bind, htotal]
      rw [if_neg (by omega)]

/-- The loop dispatches the packet at the front, and goes on behind it. -/
lemma receiveLoop_next (hn : n < 2 ^ 31) (hb : front ++ buf <+: b.toList)
    (h8 : packetHeaderSize ≤ buf.length) {k : ℕ} (hk : announcedLength buf = k)
    (hle : k ≤ buf.length) :
    receiveLoop b (fuel + 1) buf.length front.length =
      (receiveLoop b fuel (buf.drop k).length (front ++ buf.take k).length).map fun rest =>
        (⟨ofLe32 (buf.take 4), buf.length,
          (b.toList.drop front.length).take (packetHeaderSize + ofLe32 (buf.take 4))⟩ :: rest.1,
          rest.2) := by
  have height : packetHeaderSize = 8 := rfl
  have hbound := length_le_of_cells hb
  have htotal : ((ofLe32 (buf.take 4) : ℤ) + packetHeaderSize) % 2 ^ 32 = k := by
    rw [← hk]
    unfold announcedLength
    omega
  have hunsigned : (buf.length : ℤ) % 2 ^ 32 = buf.length := by omega
  have hleft : toInt (buf.length - k) = ((buf.drop k).length : ℤ) := by
    rw [List.length_drop, ← Int.ofNat_sub hle]
    exact toInt_of_lt (by omega)
  have hfront : toInt (front.length + k) = ((front ++ buf.take k).length : ℤ) := by
    rw [List.length_append, List.length_take_of_le hle, ← Int.natCast_add]
    exact toInt_of_lt (by omega)
  rw [receiveLoop, if_pos (by omega), if_neg (by omega), readRange_size hb h8]
  simp only [access, bind, Except.bind, htotal, hunsigned]
  rw [if_pos (by omega), hleft, hfront, Int.toNat_natCast]
  cases receiveLoop b fuel (buf.drop k).length (front ++ buf.take k).length <;> rfl

/-- The announced length, when the sum does not wrap. -/
lemma announcedLength_of_length? {m : ℕ} (h : packetFraming.length? buf = some m)
    (hm : m < 2 ^ 32) : packetHeaderSize ≤ buf.length ∧ announcedLength buf = m := by
  obtain ⟨h8, rfl⟩ := header_of_length? h
  exact ⟨h8, Nat.mod_eq_of_lt hm⟩

/-- **The packet loop** dispatches the complete packets of a buffer and leaves the rest, when the
header of the rest does not announce a length of `2 ^ 32` or more. -/
lemma receiveLoop_eq (hn : n < 2 ^ 31) (hb : front ++ buf <+: b.toList)
    (hwrap : ∀ m, packetFraming.length? (packetFraming.split buf).2 = some m → m < 2 ^ 32)
    (hfuel : buf.length < fuel) :
    ∃ dispatched,
      receiveLoop b fuel buf.length front.length =
        .ok (dispatched, ((packetFraming.split buf).2.length : ℤ),
          ((front ++ (packetFraming.split buf).1.flatten).length : ℤ)) ∧
      dispatched.map (·.data) = (packetFraming.split buf).1 ∧
      ∀ d ∈ dispatched, (packetHeaderSize + d.size : ℤ) ≤ d.unread := by
  induction buf using split_induction (F := packetFraming) generalizing fuel front with
  | incomplete buf h =>
    obtain ⟨fuel, rfl⟩ := Nat.exists_eq_succ_of_ne_zero (by omega : fuel ≠ 0)
    rw [split_of_incomplete h] at hwrap ⊢
    rw [List.flatten_nil, List.append_nil]
    refine ⟨[], receiveLoop_stop hn hb ?_, rfl, by simp⟩
    by_cases h8 : packetHeaderSize ≤ buf.length
    · have hlen := length?_of_le h8
      rw [(announcedLength_of_length? hlen (hwrap _ hlen)).2]
      exact Or.inr (h _ hlen)
    · exact Or.inl (Nat.lt_of_not_le h8)
  | frame buf m hm hle ih =>
    obtain ⟨fuel, rfl⟩ := Nat.exists_eq_succ_of_ne_zero (by omega : fuel ≠ 0)
    have hbound := length_le_of_cells hb
    have hpos := packetFraming.length_pos hm
    obtain ⟨h8, hannounced⟩ := announcedLength_of_length? hm (by omega)
    have hsize := (header_of_length? hm).2
    have hdata : (b.toList.drop front.length).take (packetHeaderSize + ofLe32 (buf.take 4)) =
        buf.take m := by
      obtain ⟨back, hback⟩ := hb
      rw [← hback, List.append_assoc, List.drop_left, Nat.add_comm, hsize,
        List.take_append_of_le_length hle]
    have hb' : (front ++ buf.take m) ++ buf.drop m <+: b.toList := by
      rwa [List.append_assoc, List.take_append_drop]
    have hfuel' : (buf.drop m).length < fuel := by
      rw [List.length_drop]
      omega
    rw [split_of_length hm hle] at hwrap ⊢
    obtain ⟨dispatched, hloop, hmap, hinside⟩ := ih hb' hwrap hfuel'
    rw [receiveLoop_next hn hb h8 hannounced hle, hloop, hdata]
    refine ⟨⟨ofLe32 (buf.take 4), buf.length, buf.take m⟩ :: dispatched, ?_, ?_, ?_⟩
    · rw [List.flatten_cons, ← List.append_assoc]
      rfl
    · rw [List.map_cons, hmap]
    · rintro d hd
      rcases List.mem_cons.1 hd with rfl | hd
      · dsimp only
        omega
      · exact hinside d hd

end Loop

/-! ### One read, and all reads -/

/-- The receiver has kept the beginning `tail` of a packet. -/
structure Receiver.Holds (r : Receiver) (tail : List UInt8) : Prop where
  mark : r.packetBufferMark = tail.length
  front : tail <+: r.packetBuffer.toList
  length_le : tail.length ≤ r.maxBufferLen

/-- Packets that a receiver has room for. -/
def Receiver.Fits (r : Receiver) (fs : List (List UInt8)) : Prop :=
  ∀ f ∈ fs, packetFraming.IsFrame f ∧ f.length ≤ r.maxBufferLen

/-- What is left of a stream of such packets fits into the temporary buffer, and so does the
packet that it begins. -/
lemma Receiver.Fits.length_rest_le {r : Receiver} {fs : List (List UInt8)} {buf : List UInt8}
    (hfs : r.Fits fs) (hbuf : buf <+: fs.flatten) :
    (packetFraming.split buf).2.length ≤ r.maxBufferLen ∧
      ∀ m, packetFraming.length? (packetFraming.split buf).2 = some m → m ≤ r.maxBufferLen := by
  have hbuf' : buf ++ [] <+: fs.flatten := by rwa [List.append_nil]
  obtain ⟨fs', hsuffix, hrest, hshort⟩ := exists_remaining (fun f hf => (hfs f hf).1) hbuf'
  rw [List.append_nil] at hrest
  constructor
  · rcases hshort with hnil | ⟨f, hf, hlt⟩
    · rw [hnil]
      exact Nat.zero_le _
    · exact le_trans hlt.le (hfs f (hsuffix.subset hf)).2
  · intro m hm
    cases fs' with
    | nil =>
      rw [List.prefix_nil.1 hrest] at hm
      cases hm
    | cons f fs' =>
      obtain ⟨hf, hle⟩ := hfs f (hsuffix.subset List.mem_cons_self)
      rw [hf.eq_length hrest hm]
      exact hle

/-- Copying the rest of the packet buffer to its front. -/
lemma compact {m n : ℕ} {packetBuffer : List.Vector UInt8 n} (tempBuffer : List.Vector UInt8 m)
    {front rest : List UInt8} (h : front ++ rest <+: packetBuffer.toList)
    (hrest : rest.length ≤ m) :
    ∃ temp₁ temp₂ packetBuffer', writeRange tempBuffer 0 (List.replicate m 0) = some temp₁ ∧
      readRange packetBuffer front.length rest.length = some rest ∧
      writeRange temp₁ 0 rest = some temp₂ ∧ readRange temp₂ 0 rest.length = some rest ∧
      writeRange packetBuffer 0 rest = some packetBuffer' ∧ rest <+: packetBuffer'.toList := by
  have hle := h.length_le
  rw [packetBuffer.toList_length, List.length_append] at hle
  obtain ⟨temp₁, htemp₁, -⟩ := writeRange_zero tempBuffer (List.replicate m 0) (by simp)
  obtain ⟨temp₂, htemp₂, hfront₂⟩ := writeRange_zero temp₁ rest hrest
  obtain ⟨packetBuffer', hpacket, hfront'⟩ :=
    writeRange_zero packetBuffer rest (by omega)
  refine ⟨temp₁, temp₂, packetBuffer', htemp₁, ?_, htemp₂, ?_, hpacket, hfront'⟩
  · have hread := readRange_of_prefix h front.length rest.length (by simp)
    rwa [List.drop_left, List.take_length] at hread
  · exact readRange_front hfront₂

section Read

variable {fuel : ℕ} {r : Receiver} {tail bytes : List UInt8}
  {packetBuffer : List.Vector UInt8 (r.maxBufferLen * 2)}

/-- The bytes of a read are copied behind what the receiver holds. -/
lemma Receiver.Holds.copy (hr : r.Holds tail) (hbytes : bytes.length ≤ r.maxBufferLen) :
    ∃ packetBuffer, writeRange r.packetBuffer r.packetBufferMark bytes = some packetBuffer ∧
      tail ++ bytes <+: packetBuffer.toList := by
  have htail := hr.length_le
  rw [hr.mark]
  exact writeRange_of_prefix hr.front bytes (by omega)

/-- The number of bytes with which the packet loop starts. -/
lemma Receiver.Holds.count (hr : r.Holds tail) (hbytes : bytes.length ≤ r.maxBufferLen) :
    toInt (r.packetBufferMark + bytes.length) = ((tail ++ bytes).length : ℤ) := by
  have hmax := r.maxBufferLen_lt
  have htail := hr.length_le
  rw [hr.mark, List.length_append, ← Int.natCast_add]
  exact toInt_of_lt (by omega)

/-- A read whose packet loop does not end. -/
lemma receiveBytes_of_error (hr : r.Holds tail) (hbytes : bytes.length ≤ r.maxBufferLen)
    (hpacket : writeRange r.packetBuffer r.packetBufferMark bytes = some packetBuffer)
    {e : ReceiveFault}
    (hloop : receiveLoop packetBuffer fuel (tail ++ bytes).length 0 = .error e) :
    receiveBytes fuel r bytes = .error e := by
  obtain ⟨receiveBuffer, hreceive, hreceived⟩ := writeRange_zero r.receiveBuffer bytes hbytes
  have hread := readRange_front hreceived
  unfold receiveBytes handleReceive
  simp only [hreceive, access, bind, Except.bind, hread, hr.count hbytes]
  rw [hpacket]
  simp only [hloop]

/-- What the packet loop leaves is copied to the front, when the temporary buffer has room. -/
lemma receiveBytes_of_le (hr : r.Holds tail) (hbytes : bytes.length ≤ r.maxBufferLen)
    (hpacket : writeRange r.packetBuffer r.packetBufferMark bytes = some packetBuffer)
    {dispatched : List Dispatch} {front rest : List UInt8}
    (hloop : receiveLoop packetBuffer fuel (tail ++ bytes).length 0 =
      .ok (dispatched, (rest.length : ℤ), (front.length : ℤ)))
    (hcells : front ++ rest <+: packetBuffer.toList) (hrest : rest.length ≤ r.maxBufferLen) :
    ∃ r', receiveBytes fuel r bytes = .ok (r', dispatched) ∧
      r'.maxBufferLen = r.maxBufferLen ∧ r'.Holds rest := by
  obtain ⟨receiveBuffer, hreceive, hreceived⟩ := writeRange_zero r.receiveBuffer bytes hbytes
  have hread := readRange_front hreceived
  obtain ⟨temp₁, temp₂, packetBuffer', h₁, h₂, h₃, h₄, h₅, hfront₅⟩ :=
    compact r.tempBuffer hcells hrest
  unfold receiveBytes handleReceive
  simp only [hreceive, access, bind, Except.bind, hread, hr.count hbytes]
  rw [hpacket]
  simp only [hloop]
  by_cases hpos : 0 < rest.length
  · -- the rest is copied to the front, through the temporary buffer
    rw [if_pos (by omega)]
    simp only [h₁, h₂, h₃, h₄, h₅]
    exact ⟨_, rfl, rfl, ⟨rfl, hfront₅, hrest⟩⟩
  · obtain rfl : rest = [] := List.length_eq_zero_iff.1 (by omega)
    rw [if_neg (by simp)]
    exact ⟨_, rfl, rfl, ⟨rfl, List.nil_prefix, hrest⟩⟩

/-- When it has no room, the copy leaves the temporary buffer. -/
lemma receiveBytes_of_gt (hr : r.Holds tail) (hbytes : bytes.length ≤ r.maxBufferLen)
    (hpacket : writeRange r.packetBuffer r.packetBufferMark bytes = some packetBuffer)
    {dispatched : List Dispatch} {front rest : List UInt8}
    (hloop : receiveLoop packetBuffer fuel (tail ++ bytes).length 0 =
      .ok (dispatched, (rest.length : ℤ), (front.length : ℤ)))
    (hcells : front ++ rest <+: packetBuffer.toList) (hrest : r.maxBufferLen < rest.length) :
    receiveBytes fuel r bytes = .error .outOfBounds := by
  obtain ⟨receiveBuffer, hreceive, hreceived⟩ := writeRange_zero r.receiveBuffer bytes hbytes
  have hread := readRange_front hreceived
  obtain ⟨temp, htemp, -⟩ :=
    writeRange_zero r.tempBuffer (List.replicate r.maxBufferLen 0) (by simp)
  have htail := readRange_of_prefix hcells front.length rest.length (by simp)
  rw [List.drop_left, List.take_length] at htail
  have hlong : writeRange temp 0 rest = none := by
    unfold writeRange
    rw [dif_neg (by omega)]
  unfold receiveBytes handleReceive
  simp only [hreceive, access, bind, Except.bind, hread, hr.count hbytes]
  rw [hpacket]
  simp only [hloop]
  rw [if_pos (by omega)]
  simp only [htemp, htail, hlong]

/-- **One read** appends its bytes to what the receiver holds and dispatches the packets that
are complete then. -/
lemma receiveBytes_eq (hr : r.Holds tail) (hbytes : bytes.length ≤ r.maxBufferLen)
    (hwrap : ∀ m, packetFraming.length? (packetFraming.split (tail ++ bytes)).2 = some m →
      m < 2 ^ 32)
    (hrest : (packetFraming.split (tail ++ bytes)).2.length ≤ r.maxBufferLen)
    (hfuel : r.maxBufferLen * 2 < fuel) :
    ∃ r' dispatched, receiveBytes fuel r bytes = .ok (r', dispatched) ∧
      r'.maxBufferLen = r.maxBufferLen ∧ r'.Holds (packetFraming.split (tail ++ bytes)).2 ∧
      dispatched.map (·.data) = (packetFraming.split (tail ++ bytes)).1 := by
  have htail := hr.length_le
  obtain ⟨packetBuffer, hpacket, hfront⟩ := hr.copy hbytes
  have hfront' : [] ++ (tail ++ bytes) <+: packetBuffer.toList := hfront
  obtain ⟨dispatched, hloop, hdata, -⟩ := receiveLoop_eq r.maxBufferLen_lt hfront' hwrap
    (show (tail ++ bytes).length < fuel by rw [List.length_append]; omega)
  rw [List.nil_append] at hloop
  obtain ⟨r', hrun, hmax, hr'⟩ := receiveBytes_of_le hr hbytes hpacket hloop
    (by rw [split_flatten]; exact hfront) hrest
  exact ⟨r', dispatched, hrun, hmax, hr', hdata⟩

end Read

/-- **All reads**: the receiver does what `Framing.feed` describes. -/
theorem receiveAll_eq {fuel : ℕ} {r : Receiver} {tail : List UInt8} {reads fs : List (List UInt8)}
    (hr : r.Holds tail) (hreads : ∀ bytes ∈ reads, bytes.length ≤ r.maxBufferLen)
    (hfs : r.Fits fs) (hstream : tail ++ reads.flatten <+: fs.flatten)
    (hfuel : r.maxBufferLen * 2 < fuel) :
    ∃ r' dispatched, receiveAll fuel r reads = .ok (r', dispatched) ∧
      r'.Holds (packetFraming.feed tail reads).2 ∧
      dispatched.map (·.data) = (packetFraming.feed tail reads).1 := by
  induction reads generalizing r tail fs with
  | nil => exact ⟨r, [], rfl, hr, rfl⟩
  | cons bytes reads ih =>
    rw [List.flatten_cons, ← List.append_assoc] at hstream
    obtain ⟨hrest, hannounced⟩ := hfs.length_rest_le ((List.prefix_append _ _).trans hstream)
    have hmax := r.maxBufferLen_lt
    obtain ⟨r₁, dispatched₁, hrun₁, hmax₁, hr₁, hdata₁⟩ :=
      receiveBytes_eq hr (hreads bytes List.mem_cons_self)
        (fun m hm => by have := hannounced m hm; omega) hrest hfuel
    obtain ⟨fs', hsuffix, hstream₁, -⟩ := exists_remaining (fun f hf => (hfs f hf).1) hstream
    have hreads₁ : ∀ bytes ∈ reads, bytes.length ≤ r₁.maxBufferLen := by
      intro bytes' hbytes'
      rw [hmax₁]
      exact hreads bytes' (List.mem_cons_of_mem _ hbytes')
    have hfs₁ : r₁.Fits fs' := by
      intro f hf
      rw [hmax₁]
      exact hfs f (hsuffix.subset hf)
    obtain ⟨r₂, dispatched₂, hrun₂, hr₂, hdata₂⟩ :=
      ih hr₁ hreads₁ hfs₁ hstream₁ (by rw [hmax₁]; exact hfuel)
    rw [feed_cons, receiveAll, hrun₁]
    simp only [bind, Except.bind, hrun₂]
    refine ⟨_, _, rfl, hr₂, ?_⟩
    rw [List.map_append, hdata₁, hdata₂]

/-- **Reassembly does not depend on the reads.**  A stream of packets, each of which fits
into the receive buffer, arrives in reads of any sizes.  No access leaves a buffer, the loop
ends in each read, and after each read the packets that were dispatched are those that have
arrived as a whole, each once and in order, with the whole body; the beginning of the next
packet lies at the front of the packet buffer, and `packet_buffer_mark_` is its length. -/
theorem reassembly (r : Receiver) {packets : List WirePacket} {reads : List (List UInt8)}
    (hpackets : ∀ packet ∈ packets, (incoding packet).length ≤ r.maxBufferLen)
    (hreads : ∀ bytes ∈ reads, bytes.length ≤ r.maxBufferLen)
    (hstream : reads.flatten <+: (packets.map incoding).flatten) {fuel : ℕ}
    (hfuel : r.maxBufferLen * 2 < fuel) :
    ∃ r' dispatched tail, receiveAll fuel r.init reads = .ok (r', dispatched) ∧
      dispatched.map (·.data) = arrived (packets.map incoding) reads.flatten.length ∧
      (arrived (packets.map incoding) reads.flatten.length).flatten ++ tail = reads.flatten ∧
      r'.packetBufferMark = tail.length ∧ r'.packetBuffer.toList.take tail.length = tail := by
  have hmax := r.maxBufferLen_lt
  have hfs : ∀ f ∈ packets.map incoding, packetFraming.IsFrame f ∧ f.length ≤ r.maxBufferLen := by
    intro f hf
    obtain ⟨packet, hpacket, rfl⟩ := List.mem_map.1 hf
    have hlen := hpackets packet hpacket
    exact ⟨isFrame_incoding (by omega), hlen⟩
  have hr : r.init.Holds [] := ⟨rfl, List.nil_prefix, Nat.zero_le _⟩
  obtain ⟨r', dispatched, hrun, hr', hdata⟩ :=
    receiveAll_eq (r := r.init) hr hreads hfs hstream hfuel
  have hnil : packetFraming.Incomplete [] := incomplete_of_lt (by decide)
  have hfeed := feed_eq_split hnil reads
  rw [List.nil_append] at hfeed
  have hsplit := split_of_prefix (fun f hf => (hfs f hf).1) hstream
  rw [hfeed] at hr' hdata
  refine ⟨r', dispatched, _, hrun, ?_, ?_, hr'.mark, ?_⟩
  · rw [hdata, hsplit]
  · have hall := split_flatten (F := packetFraming) reads.flatten
    rwa [hsplit] at hall ⊢
  · exact List.prefix_iff_eq_take.1 hr'.front |>.symm

/-- Two packets, in reads that end inside a header and inside a body. -/
def twoPackets : List WirePacket := [⟨4, [10, 11, 12]⟩, ⟨5, [13, 14]⟩]

def threeReads : List (List UInt8) := [[3, 0, 0], [0, 4, 0, 0, 0, 10, 11], [12, 2, 0, 0, 0, 5, 0]]

theorem reassembly_two_packets :
    ∃ r, Receiver.new 16 (fun _ _ => 7) 3 = some r ∧
      ∃ r' dispatched tail, receiveAll 33 r.init threeReads = .ok (r', dispatched) ∧
        dispatched.map (·.data) = arrived (twoPackets.map incoding) threeReads.flatten.length ∧
        (arrived (twoPackets.map incoding) threeReads.flatten.length).flatten ++ tail =
          threeReads.flatten ∧
        r'.packetBufferMark = tail.length ∧ r'.packetBuffer.toList.take tail.length = tail := by
  have hnew : (Receiver.new 16 (fun _ _ => 7) 3).map (·.maxBufferLen) = some 16 := rfl
  obtain ⟨r, hr, hmax⟩ := Option.map_eq_some_iff.1 hnew
  refine ⟨r, hr, reassembly r ?_ ?_ (by decide) ?_⟩
  · rw [hmax]
    decide
  · rw [hmax]
    decide
  · rw [hmax]
    decide

end ChannelServer
