/-
Reads of arbitrary bytes.

`Receive` follows the packet loop along streams of packets that a client has built.  Here a
read brings any bytes.  The size in a header is then any number below `2 ^ 32`, and the sum
with the length of the header wraps around for the largest ones.

* `packet_loop_sound_iff`: the loop ends, and hands on packets that have arrived, exactly when
  no header that it comes to announces a length of `2 ^ 32` or more;
* `copies_in_bounds_iff`: the copies of a read stay inside the buffers exactly when no more
  than `max_buffer_len` bytes of a packet have arrived at the end of a read, except where the
  loop does not end.

For the first result the stream is cut by `packetFraming`, where a packet has the length that
its header announces, and for the second by `wireFraming`, where it has the length that the
loop computes.
-/
import ChannelServer.Receive

namespace ChannelServer

open Memory Streams Streams.Framing

lemma ofLe32_lt {bytes : List UInt8} (h : bytes.length ≤ 4) : ofLe32 bytes < 2 ^ 32 := by
  have hdigits : ∀ k (bytes : List UInt8), bytes.length ≤ k → ofLe32 bytes < 2 ^ (8 * k) := by
    intro k
    induction k with
    | zero =>
      intro bytes hk
      obtain rfl := List.length_eq_zero_iff.1 (Nat.le_zero.1 hk)
      exact Nat.one_pos
    | succ k ih =>
      rintro (_ | ⟨b, bytes⟩) hk
      · exact Nat.two_pow_pos _
      · have hb := b.toNat_lt
        have hbytes := ih bytes (Nat.le_of_succ_le_succ hk)
        rw [ofLe32, Nat.mul_succ, Nat.add_comm (8 * k) 8, pow_add]
        omega
  exact hdigits 4 bytes h

lemma Receiver.init_holds (r : Receiver) : r.init.Holds [] :=
  ⟨rfl, List.nil_prefix, Nat.zero_le _⟩

/-! ### Packets that have arrived -/

/-- The packet loop of a read ends, and each packet that it hands to `process_packet` has
arrived as a whole. -/
def Receiver.LoopSound (r : Receiver) (bytes : List UInt8) : Prop :=
  ∀ packetBuffer, writeRange r.packetBuffer r.packetBufferMark bytes = some packetBuffer →
    ∃ fuel dispatched counters,
      receiveLoop packetBuffer fuel (toInt (r.packetBufferMark + bytes.length)) 0 =
        .ok (dispatched, counters) ∧
      ∀ d ∈ dispatched, packetHeaderSize + d.size ≤ d.unread

/-- The same for one read after the other.  After a copy that leaves its buffer there is no
further read. -/
def Receiver.Sound (fuel : ℕ) : Receiver → List (List UInt8) → Prop
  | _, [] => True
  | r, bytes :: reads =>
      r.LoopSound bytes ∧
        ∀ r' dispatched, receiveBytes fuel r bytes = .ok (r', dispatched) → Sound fuel r' reads

/-- Each header that is at the front after a read, when `tail` is what was left before, announces
a length below `2 ^ 32`.  When more than `maxBufferLen` bytes are left there is no further
read. -/
def HeadersFit (maxBufferLen : ℕ) : List UInt8 → List (List UInt8) → Prop
  | _, [] => True
  | tail, bytes :: reads =>
      (∀ m, packetFraming.length? (packetFraming.split (tail ++ bytes)).2 = some m → m < 2 ^ 32) ∧
        ((packetFraming.split (tail ++ bytes)).2.length ≤ maxBufferLen →
          HeadersFit maxBufferLen (packetFraming.split (tail ++ bytes)).2 reads)

/-- The header at the front makes the loop go on without reading further. -/
def Stuck (buf : List UInt8) : Prop := packetHeaderSize ≤ buf.length ∧ announcedLength buf = 0

instance (buf : List UInt8) : Decidable (Stuck buf) := inferInstanceAs (Decidable (_ ∧ _))

lemma Stuck.append {buf : List UInt8} (h : Stuck buf) (more : List UInt8) :
    Stuck (buf ++ more) := by
  have h4 : 4 ≤ buf.length := le_trans (by decide) h.1
  refine ⟨le_trans h.1 (by rw [List.length_append]; omega), ?_⟩
  unfold announcedLength
  rw [List.take_append_of_le_length h4]
  exact h.2

section Loop

variable {n : ℕ} {b : List.Vector UInt8 n} {fuel : ℕ} {front buf : List UInt8}

/-- A header that announces `2 ^ 32` bytes or more makes the loop hand on a packet that has not
arrived. -/
lemma receiveLoop_wrapped (hn : n < 2 ^ 31) (hb : front ++ buf <+: b.toList) {m : ℕ}
    (hm : packetFraming.length? (packetFraming.split buf).2 = some m) (hwrap : 2 ^ 32 ≤ m)
    {dispatched : List Dispatch} {counters : ℤ × ℤ}
    (hloop : receiveLoop b fuel buf.length front.length = .ok (dispatched, counters)) :
    ∃ d ∈ dispatched, d.unread < packetHeaderSize + d.size := by
  have hbound := length_le_of_cells hb
  induction buf using split_induction (F := packetFraming) generalizing fuel front dispatched with
  | incomplete buf h =>
    rw [split_of_incomplete h] at hm
    dsimp only at hm
    obtain _ | fuel := fuel
    · cases hloop
    obtain ⟨h8, hsize⟩ := header_of_length? hm
    have hlt : ofLe32 (buf.take 4) < 2 ^ 32 := ofLe32_lt (List.length_take_le 4 buf)
    -- the sum has wrapped around, and is less than the length of a header
    have hle : announcedLength buf ≤ buf.length := by
      unfold announcedLength
      omega
    rw [receiveLoop_next hn hb h8 rfl hle] at hloop
    cases hnext : receiveLoop b fuel (buf.drop (announcedLength buf)).length
        (front ++ buf.take (announcedLength buf)).length with
    | error e =>
      rw [hnext] at hloop
      cases hloop
    | ok rest =>
      rw [hnext] at hloop
      cases hloop
      refine ⟨_, List.mem_cons_self, ?_⟩
      dsimp only
      omega
  | frame buf k hk hle ih =>
    rw [split_of_length hk hle] at hm
    obtain _ | fuel := fuel
    · cases hloop
    have hb' : (front ++ buf.take k) ++ buf.drop k <+: b.toList := by
      rwa [List.append_assoc, List.take_append_drop]
    obtain ⟨h8, hannounced⟩ := announcedLength_of_length? hk (by omega)
    rw [receiveLoop_next hn hb h8 hannounced hle] at hloop
    cases hnext : receiveLoop b fuel (buf.drop k).length (front ++ buf.take k).length with
    | error e =>
      rw [hnext] at hloop
      cases hloop
    | ok rest =>
      rw [hnext] at hloop
      cases hloop
      obtain ⟨d, hd, hlt⟩ := ih hb' hm hnext (length_le_of_cells hb')
      exact ⟨d, List.mem_cons_of_mem _ hd, hlt⟩

/-- The loop comes back to a header that announces no bytes. -/
lemma receiveLoop_stuck (hn : n < 2 ^ 31) (hb : front ++ buf <+: b.toList) (h : Stuck buf) :
    receiveLoop b fuel buf.length front.length = .error .outOfFuel := by
  induction fuel with
  | zero => rfl
  | succ fuel ih =>
    rw [receiveLoop_next hn hb h.1 h.2 (Nat.zero_le _), List.drop_zero, List.take_zero,
      List.append_nil, ih]
    rfl

end Loop

/-- **One read**: the packet loop is sound exactly when the header that it stops at announces a
length below `2 ^ 32`. -/
lemma Receiver.Holds.loopSound_iff {r : Receiver} {tail bytes : List UInt8} (hr : r.Holds tail)
    (hbytes : bytes.length ≤ r.maxBufferLen) :
    r.LoopSound bytes ↔
      ∀ m, packetFraming.length? (packetFraming.split (tail ++ bytes)).2 = some m → m < 2 ^ 32 := by
  obtain ⟨packetBuffer, hpacket, hfront⟩ := hr.copy hbytes
  have hfront' : [] ++ (tail ++ bytes) <+: packetBuffer.toList := hfront
  constructor
  · intro hsound m hm
    by_contra hle
    obtain ⟨fuel, dispatched, counters, hloop, hinside⟩ := hsound packetBuffer hpacket
    rw [hr.count hbytes] at hloop
    obtain ⟨d, hd, hlt⟩ :=
      receiveLoop_wrapped r.maxBufferLen_lt hfront' hm (Nat.le_of_not_lt hle) hloop
    exact absurd (hinside d hd) (not_le.2 hlt)
  · intro hwrap packetBuffer' hpacket'
    obtain rfl : packetBuffer = packetBuffer' := Option.some.inj (hpacket.symm.trans hpacket')
    obtain ⟨dispatched, hloop, -, hinside⟩ :=
      receiveLoop_eq r.maxBufferLen_lt hfront' hwrap (Nat.lt_succ_self _)
    rw [hr.count hbytes]
    exact ⟨_, dispatched, _, hloop, hinside⟩

/-- The receivers after a read that the packet loop survives. -/
lemma Receiver.Holds.sound_iff {fuel : ℕ} {r : Receiver} {tail : List UInt8}
    {reads : List (List UInt8)} (hr : r.Holds tail)
    (hreads : ∀ bytes ∈ reads, bytes.length ≤ r.maxBufferLen) (hfuel : r.maxBufferLen * 2 < fuel) :
    r.Sound fuel reads ↔ HeadersFit r.maxBufferLen tail reads := by
  induction reads generalizing r tail with
  | nil => exact Iff.rfl
  | cons bytes reads ih =>
    have hbytes := hreads bytes List.mem_cons_self
    rw [Receiver.Sound, HeadersFit, hr.loopSound_iff hbytes]
    refine and_congr_right fun hwrap => ?_
    by_cases hrest : (packetFraming.split (tail ++ bytes)).2.length ≤ r.maxBufferLen
    · obtain ⟨r₁, dispatched₁, hrun, hmax, hr₁, -⟩ := receiveBytes_eq hr hbytes hwrap hrest hfuel
      have hreads₁ : ∀ bytes ∈ reads, bytes.length ≤ r₁.maxBufferLen := by
        intro bytes' hbytes'
        rw [hmax]
        exact hreads bytes' (List.mem_cons_of_mem _ hbytes')
      have hnext := ih hr₁ hreads₁ (by rw [hmax]; exact hfuel)
      rw [hmax] at hnext
      constructor
      · intro hsound _
        exact hnext.1 (hsound r₁ dispatched₁ hrun)
      · intro hheaders r' dispatched hrun'
        obtain ⟨rfl, rfl⟩ := Prod.mk.inj (Except.ok.inj (hrun.symm.trans hrun'))
        exact hnext.2 (hheaders hrest)
    · -- the copy of what is left leaves its buffer
      have htail := hr.length_le
      obtain ⟨packetBuffer, hpacket, hfront⟩ := hr.copy hbytes
      have hfront' : [] ++ (tail ++ bytes) <+: packetBuffer.toList := hfront
      obtain ⟨dispatched, hloop, -⟩ := receiveLoop_eq r.maxBufferLen_lt hfront' hwrap
        (show (tail ++ bytes).length < fuel by rw [List.length_append]; omega)
      have hrun := receiveBytes_of_gt hr hbytes hpacket hloop
        (by rw [List.nil_append, split_flatten]; exact hfront) (Nat.lt_of_not_le hrest)
      refine iff_of_true ?_ fun hle => absurd hle hrest
      intro r' dispatched' hrun'
      rw [hrun] at hrun'
      cases hrun'

/-- **Robustness of the packet loop.**  On reads of arbitrary bytes, the loop of each read ends
and hands on packets that have arrived as a whole, exactly when each header that a read ends
behind announces a packet, header included, of less than `2 ^ 32` bytes. -/
theorem packet_loop_sound_iff (r : Receiver) {reads : List (List UInt8)} {fuel : ℕ}
    (hreads : ∀ bytes ∈ reads, bytes.length ≤ r.maxBufferLen) (hfuel : r.maxBufferLen * 2 < fuel) :
    r.init.Sound fuel reads ↔ HeadersFit r.maxBufferLen [] reads :=
  r.init_holds.sound_iff hreads hfuel

theorem packet_loop_sound_iff_three_reads :
    ∃ r, Receiver.new 16 (fun _ _ => 7) 3 = some r ∧
      (r.init.Sound 33 threeReads ↔ HeadersFit r.maxBufferLen [] threeReads) := by
  have hnew : (Receiver.new 16 (fun _ _ => 7) 3).map (·.maxBufferLen) = some 16 := rfl
  obtain ⟨r, hr, hmax⟩ := Option.map_eq_some_iff.1 hnew
  refine ⟨r, hr, packet_loop_sound_iff r ?_ ?_⟩
  · rw [hmax]
    decide
  · rw [hmax]
    decide

/-- The header of a packet of `2 ^ 32 - 8` bytes, for which the sum is zero. -/
def endlessRead : List UInt8 := [248, 255, 255, 255, 0, 0, 0, 0]

/-- The header of a packet of `2 ^ 32 - 1` bytes, for which the sum is seven. -/
def hugeRead : List UInt8 := [255, 255, 255, 255, 0, 0, 0, 0]

lemma not_sound_of_header {r : Receiver} {bytes : List UInt8} {fuel : ℕ}
    (hbytes : bytes.length ≤ r.maxBufferLen) (h8 : packetHeaderSize ≤ bytes.length)
    (hsize : bytes.length < 2 ^ 32) (hwrap : 2 ^ 32 ≤ ofLe32 (bytes.take 4) + packetHeaderSize) :
    ¬ r.init.Sound fuel [bytes] := by
  have hlen := length?_of_le h8
  have hincomplete : packetFraming.Incomplete bytes := by
    intro m hm
    obtain rfl := Option.some.inj (hlen.symm.trans hm)
    omega
  rintro ⟨hsound, -⟩
  have hfits := (r.init_holds.loopSound_iff hbytes).1 hsound
  rw [List.nil_append, split_of_incomplete hincomplete] at hfits
  exact absurd (hfits _ hlen) (not_lt.2 hwrap)

/-- The loop comes back to the first of these headers for ever.  With the second it hands a
packet to `process_packet` of which eight bytes have arrived. -/
theorem packet_loop_unsound :
    ∃ r, Receiver.new 8 (fun _ _ => 0) 0 = some r ∧
      (∀ bytes ∈ [endlessRead, hugeRead], bytes.length ≤ r.maxBufferLen) ∧
      (∀ fuel, receiveBytes fuel r.init endlessRead = .error .outOfFuel) ∧
      (∃ r' d, receiveBytes 17 r.init hugeRead = .ok (r', [d]) ∧
        d.unread < packetHeaderSize + d.size) ∧
      ¬ r.init.Sound 17 [endlessRead] ∧ ¬ r.init.Sound 17 [hugeRead] := by
  have hnew : (Receiver.new 8 (fun _ _ => 0) 0).map (fun r =>
      (r.maxBufferLen, (receiveBytes 17 r.init hugeRead).toOption.map (·.2))) =
      some (8, some [⟨2 ^ 32 - 1, 8, hugeRead ++ List.replicate 8 0⟩]) := by decide
  obtain ⟨r, hr, hrun⟩ := Option.map_eq_some_iff.1 hnew
  obtain ⟨hmax, hrun⟩ := Prod.mk.inj hrun
  have hbytes : ∀ bytes ∈ [endlessRead, hugeRead], bytes.length ≤ r.maxBufferLen := by
    rw [hmax]
    decide
  have hendless := hbytes endlessRead (by decide)
  have hhuge := hbytes hugeRead (by decide)
  refine ⟨r, hr, hbytes, ?_, ?_, not_sound_of_header hendless (by decide) (by decide) (by decide),
    not_sound_of_header hhuge (by decide) (by decide) (by decide)⟩
  · intro fuel
    obtain ⟨packetBuffer, hpacket, hfront⟩ := r.init_holds.copy hendless
    have hfront' : [] ++ endlessRead <+: packetBuffer.toList := hfront
    exact receiveBytes_of_error r.init_holds hendless hpacket
      (receiveLoop_stuck r.maxBufferLen_lt hfront' (by decide))
  · cases hread : receiveBytes 17 r.init hugeRead with
    | error e =>
      rw [hread] at hrun
      cases hrun
    | ok read =>
      rw [hread] at hrun
      obtain ⟨r', dispatched⟩ := read
      obtain rfl := Option.some.inj hrun
      exact ⟨r', _, rfl, by decide⟩

/-! ### Copies between the buffers -/

/-- A packet has the length that the packet loop computes; a header for which this is zero has
no end. -/
def wireFraming : Framing UInt8 where
  length? buf :=
    if packetHeaderSize ≤ buf.length ∧ announcedLength buf ≠ 0 then some (announcedLength buf)
    else none
  length_pos := by
    intro buf n h
    split at h
    · rename_i hne
      obtain rfl := Option.some.inj h
      exact Nat.pos_of_ne_zero hne.2
    · cases h
  length_append := by
    intro buf n more h
    split at h
    · rename_i hne
      have h4 : 4 ≤ buf.length := le_trans (by decide) hne.1
      have hannounced : announcedLength (buf ++ more) = announcedLength buf := by
        unfold announcedLength
        rw [List.take_append_of_le_length h4]
      rw [hannounced, if_pos ⟨by rw [List.length_append]; omega, hne.2⟩]
      exact h
    · cases h

lemma Stuck.incomplete {buf : List UInt8} (h : Stuck buf) : wireFraming.Incomplete buf := by
  intro n hn
  rw [show wireFraming.length? buf = none from if_neg fun hne => hne.2 h.2] at hn
  cases hn

/-- A buffer at which the loop neither stops nor goes on with a later packet. -/
lemma stuck_or_of_incomplete {buf : List UInt8} (h : wireFraming.Incomplete buf) :
    Stuck buf ∨ buf.length < packetHeaderSize ∨ buf.length < announcedLength buf := by
  by_cases h8 : packetHeaderSize ≤ buf.length
  · by_cases hzero : announcedLength buf = 0
    · exact Or.inl ⟨h8, hzero⟩
    · exact Or.inr (Or.inr (h _ (if_pos ⟨h8, hzero⟩)))
  · exact Or.inr (Or.inl (Nat.lt_of_not_le h8))

section WireLoop

variable {n : ℕ} {b : List.Vector UInt8 n} {fuel : ℕ} {front buf : List UInt8}

/-- One round of the loop, for a packet that is complete. -/
lemma receiveLoop_frame (hn : n < 2 ^ 31) (hb : front ++ buf <+: b.toList) {m : ℕ}
    (hm : wireFraming.length? buf = some m) (hle : m ≤ buf.length) :
    ∃ d, receiveLoop b (fuel + 1) buf.length front.length =
      (receiveLoop b fuel (buf.drop m).length (front ++ buf.take m).length).map fun rest =>
        (d :: rest.1, rest.2) := by
  have hframe : packetHeaderSize ≤ buf.length ∧ announcedLength buf ≠ 0 := by
    by_contra hne
    rw [show wireFraming.length? buf = none from if_neg hne] at hm
    cases hm
  have hannounced : announcedLength buf = m := by
    rw [show wireFraming.length? buf = some (announcedLength buf) from if_pos hframe] at hm
    exact Option.some.inj hm
  exact ⟨_, receiveLoop_next hn hb hframe.1 hannounced hle⟩

/-- **The packet loop on arbitrary bytes** stops where the stream is cut, or does not end. -/
lemma receiveLoop_wire (hn : n < 2 ^ 31) (hb : front ++ buf <+: b.toList)
    (hfuel : buf.length < fuel) :
    if Stuck (wireFraming.split buf).2 then
      receiveLoop b fuel buf.length front.length = .error .outOfFuel
    else ∃ dispatched, receiveLoop b fuel buf.length front.length =
      .ok (dispatched, ((wireFraming.split buf).2.length : ℤ),
        ((front ++ (wireFraming.split buf).1.flatten).length : ℤ)) := by
  induction buf using split_induction (F := wireFraming) generalizing fuel front with
  | incomplete buf h =>
    rw [split_of_incomplete h, List.flatten_nil, List.append_nil]
    split
    · rename_i hstuck
      exact receiveLoop_stuck hn hb hstuck
    · rename_i hstuck
      obtain ⟨fuel, rfl⟩ := Nat.exists_eq_succ_of_ne_zero (by omega : fuel ≠ 0)
      exact ⟨[], receiveLoop_stop hn hb ((stuck_or_of_incomplete h).resolve_left hstuck)⟩
  | frame buf m hm hle ih =>
    obtain ⟨fuel, rfl⟩ := Nat.exists_eq_succ_of_ne_zero (by omega : fuel ≠ 0)
    have hpos := wireFraming.length_pos hm
    have hb' : (front ++ buf.take m) ++ buf.drop m <+: b.toList := by
      rwa [List.append_assoc, List.take_append_drop]
    have hfuel' : (buf.drop m).length < fuel := by
      rw [List.length_drop]
      omega
    have hframe : ∃ d, receiveLoop b (fuel + 1) buf.length front.length =
        (receiveLoop b fuel (buf.drop m).length (front ++ buf.take m).length).map fun rest =>
          (d :: rest.1, rest.2) := receiveLoop_frame hn hb hm hle
    obtain ⟨d, hnext⟩ := hframe
    have hrest := ih hb' hfuel'
    rw [split_of_length hm hle, hnext, List.flatten_cons, ← List.append_assoc]
    split
    · rename_i hstuck
      rw [if_pos hstuck] at hrest
      rw [hrest]
      rfl
    · rename_i hstuck
      rw [if_neg hstuck] at hrest
      obtain ⟨dispatched, hloop⟩ := hrest
      rw [hloop]
      exact ⟨d :: dispatched, rfl⟩

end WireLoop

/-- No access of the reads leaves a buffer, and after each read the beginning of a packet that is
left fits into the temporary buffer. -/
def Receiver.InBounds (fuel : ℕ) (r : Receiver) (reads : List (List UInt8)) : Prop :=
  receiveAll fuel r reads ≠ .error .outOfBounds ∧
    ∀ done, done <+: reads → ∀ r' dispatched, receiveAll fuel r done = .ok (r', dispatched) →
      0 ≤ r'.packetBufferMark ∧ r'.packetBufferMark ≤ r'.maxBufferLen

/-- Whenever a read ends inside a packet, at most `maxBufferLen` bytes of this packet have
arrived; `tail` is what was left before.  A read that ends behind a header for which the loop
does not end is an exception, since nothing is copied then. -/
def RestsFit (maxBufferLen : ℕ) (tail : List UInt8) (reads : List (List UInt8)) : Prop :=
  ∀ done, done <+: reads → Stuck (wireFraming.split (tail ++ done.flatten)).2 ∨
    (wireFraming.split (tail ++ done.flatten)).2.length ≤ maxBufferLen

section Reads

variable {fuel : ℕ} {r : Receiver} {tail bytes : List UInt8} {reads : List (List UInt8)}

/-- **One read** of arbitrary bytes. -/
lemma receiveBytes_wire (hr : r.Holds tail) (hbytes : bytes.length ≤ r.maxBufferLen)
    (hfuel : r.maxBufferLen * 2 < fuel) :
    if Stuck (wireFraming.split (tail ++ bytes)).2 then
      receiveBytes fuel r bytes = .error .outOfFuel
    else if (wireFraming.split (tail ++ bytes)).2.length ≤ r.maxBufferLen then
      ∃ r' dispatched, receiveBytes fuel r bytes = .ok (r', dispatched) ∧
        r'.maxBufferLen = r.maxBufferLen ∧ r'.Holds (wireFraming.split (tail ++ bytes)).2
    else receiveBytes fuel r bytes = .error .outOfBounds := by
  have htail := hr.length_le
  obtain ⟨packetBuffer, hpacket, hfront⟩ := hr.copy hbytes
  have hfront' : [] ++ (tail ++ bytes) <+: packetBuffer.toList := hfront
  have hcells : [] ++ (wireFraming.split (tail ++ bytes)).1.flatten ++
      (wireFraming.split (tail ++ bytes)).2 <+: packetBuffer.toList := by
    rw [List.nil_append, split_flatten]
    exact hfront
  have hloop := receiveLoop_wire r.maxBufferLen_lt hfront'
    (show (tail ++ bytes).length < fuel by rw [List.length_append]; omega)
  split
  · rename_i hstuck
    rw [if_pos hstuck] at hloop
    exact receiveBytes_of_error hr hbytes hpacket hloop
  · rename_i hstuck
    rw [if_neg hstuck] at hloop
    obtain ⟨dispatched, hloop⟩ := hloop
    split
    · rename_i hrest
      obtain ⟨r', hrun, hmax, hr'⟩ := receiveBytes_of_le hr hbytes hpacket hloop hcells hrest
      exact ⟨r', dispatched, hrun, hmax, hr'⟩
    · rename_i hrest
      exact receiveBytes_of_gt hr hbytes hpacket hloop hcells (Nat.lt_of_not_le hrest)

lemma restsFit_cons (htail : wireFraming.Incomplete tail) {maxBufferLen : ℕ}
    (hle : tail.length ≤ maxBufferLen) :
    RestsFit maxBufferLen tail (bytes :: reads) ↔
      RestsFit maxBufferLen (wireFraming.split (tail ++ bytes)).2 reads := by
  have hcut : ∀ done : List (List UInt8),
      (wireFraming.split (tail ++ (bytes :: done).flatten)).2 =
        (wireFraming.split ((wireFraming.split (tail ++ bytes)).2 ++ done.flatten)).2 := by
    intro done
    rw [List.flatten_cons, ← List.append_assoc, split_append]
  constructor
  · intro h done hdone
    rw [← hcut]
    exact h _ (List.prefix_cons_inj bytes |>.2 hdone)
  · intro h done hdone
    rcases List.prefix_cons_iff.1 hdone with rfl | ⟨later, rfl, hlater⟩
    · rw [List.flatten_nil, List.append_nil, split_of_incomplete htail]
      exact Or.inr hle
    · rw [hcut]
      exact h later hlater

/-- What a receiver holds after reads that return. -/
lemma Receiver.Holds.after_reads (hr : r.Holds tail)
    (hreads : ∀ bytes ∈ reads, bytes.length ≤ r.maxBufferLen) (hfuel : r.maxBufferLen * 2 < fuel)
    {r' : Receiver} {dispatched : List Dispatch}
    (hrun : receiveAll fuel r reads = .ok (r', dispatched)) : ∃ tail', r'.Holds tail' := by
  induction reads generalizing r tail dispatched with
  | nil =>
    cases hrun
    exact ⟨tail, hr⟩
  | cons bytes reads ih =>
    have hone := receiveBytes_wire hr (hreads bytes List.mem_cons_self) hfuel
    rw [receiveAll] at hrun
    split at hone
    · rw [hone] at hrun
      cases hrun
    split at hone
    · obtain ⟨r₁, dispatched₁, hone, hmax, hr₁⟩ := hone
      rw [hone] at hrun
      simp only [bind, Except.bind] at hrun
      cases hmore : receiveAll fuel r₁ reads with
      | error e =>
        rw [hmore] at hrun
        cases hrun
      | ok rest =>
        rw [hmore] at hrun
        cases hrun
        refine ih hr₁ ?_ (by rw [hmax]; exact hfuel) hmore
        intro bytes' hbytes'
        rw [hmax]
        exact hreads bytes' (List.mem_cons_of_mem _ hbytes')
    · rw [hone] at hrun
      cases hrun

/-- **All reads** of arbitrary bytes. -/
lemma Receiver.Holds.inside_iff (hr : r.Holds tail) (htail : wireFraming.Incomplete tail)
    (hreads : ∀ bytes ∈ reads, bytes.length ≤ r.maxBufferLen)
    (hfuel : r.maxBufferLen * 2 < fuel) :
    receiveAll fuel r reads ≠ .error .outOfBounds ↔
      RestsFit r.maxBufferLen tail reads := by
  induction reads generalizing r tail with
  | nil =>
    refine iff_of_true (fun h => by cases h) ?_
    intro done hdone
    obtain rfl := List.prefix_nil.1 hdone
    rw [List.flatten_nil, List.append_nil, split_of_incomplete htail]
    exact Or.inr hr.length_le
  | cons bytes reads ih =>
    have hone := receiveBytes_wire hr (hreads bytes List.mem_cons_self) hfuel
    have hincomplete : wireFraming.Incomplete (wireFraming.split (tail ++ bytes)).2 :=
      split_incomplete _
    rw [restsFit_cons htail hr.length_le, receiveAll]
    split at hone
    · -- the loop does not end, and no copy is made
      rename_i hstuck
      rw [hone]
      refine iff_of_true (fun h => by cases h) ?_
      intro done _
      have hstuck' := hstuck.append done.flatten
      rw [split_of_incomplete hstuck'.incomplete]
      exact Or.inl hstuck'
    rename_i hstuck
    split at hone
    · obtain ⟨r₁, dispatched₁, hone, hmax, hr₁⟩ := hone
      have hreads₁ : ∀ bytes ∈ reads, bytes.length ≤ r₁.maxBufferLen := by
        intro bytes' hbytes'
        rw [hmax]
        exact hreads bytes' (List.mem_cons_of_mem _ hbytes')
      have hnext := ih hr₁ hincomplete hreads₁ (by rw [hmax]; exact hfuel)
      rw [hmax] at hnext
      rw [hone, ← hnext]
      simp only [bind, Except.bind]
      cases receiveAll fuel r₁ reads with
      | error e => exact Iff.rfl
      | ok rest => exact iff_of_true (fun h => by cases h) (fun h => by cases h)
    · rename_i hrest
      rw [hone]
      refine iff_of_false (fun h => h rfl) fun h => ?_
      have hfit := h [] List.nil_prefix
      rw [List.flatten_nil, List.append_nil, split_of_incomplete hincomplete] at hfit
      exact hfit.elim hstuck hrest

end Reads

/-- **The copies of a read stay inside the buffers** exactly when, whenever a read ends inside a
packet, at most `max_buffer_len` bytes of this packet have arrived, or the packet loop of this
read does not end. -/
theorem copies_in_bounds_iff (r : Receiver) {reads : List (List UInt8)} {fuel : ℕ}
    (hreads : ∀ bytes ∈ reads, bytes.length ≤ r.maxBufferLen) (hfuel : r.maxBufferLen * 2 < fuel) :
    r.init.InBounds fuel reads ↔ RestsFit r.maxBufferLen [] reads := by
  have hnil : wireFraming.Incomplete [] := fun n hn => wireFraming.length_pos hn
  have hinside := r.init_holds.inside_iff hnil hreads hfuel
  refine Iff.trans (and_iff_left_of_imp fun _ => ?_) hinside
  intro done hdone r' dispatched hrun
  obtain ⟨tail, hr'⟩ := r.init_holds.after_reads
    (fun bytes hbytes => hreads bytes (hdone.subset hbytes)) hfuel hrun
  have htail := hr'.length_le
  rw [hr'.mark]
  omega

theorem copies_in_bounds_iff_three_reads :
    ∃ r, Receiver.new 16 (fun _ _ => 7) 3 = some r ∧
      (r.init.InBounds 33 threeReads ↔ RestsFit r.maxBufferLen [] threeReads) := by
  have hnew : (Receiver.new 16 (fun _ _ => 7) 3).map (·.maxBufferLen) = some 16 := rfl
  obtain ⟨r, hr, hmax⟩ := Option.map_eq_some_iff.1 hnew
  refine ⟨r, hr, copies_in_bounds_iff r ?_ ?_⟩
  · rw [hmax]
    decide
  · rw [hmax]
    decide

/-- A packet that is longer than the receive buffer, in two reads: the copy of the nine bytes
that are left then leaves the temporary buffer. -/
def longPacketReads : List (List UInt8) := [[255, 0, 0, 0, 0, 0, 0, 0], [1]]

theorem copy_leaves_temp_buffer :
    ∃ r, Receiver.new 8 (fun _ _ => 0) 0 = some r ∧
      (∀ bytes ∈ longPacketReads, bytes.length ≤ r.maxBufferLen) ∧
      receiveAll 17 r.init longPacketReads = .error .outOfBounds ∧
      ¬ r.init.InBounds 17 longPacketReads := by
  have hnew : (Receiver.new 8 (fun _ _ => 0) 0).map (fun r =>
      (r.maxBufferLen, (receiveAll 17 r.init longPacketReads).map (·.2))) =
      some (8, .error .outOfBounds) := by decide
  obtain ⟨r, hr, hrun⟩ := Option.map_eq_some_iff.1 hnew
  obtain ⟨hmax, hrun⟩ := Prod.mk.inj hrun
  have hread : receiveAll 17 r.init longPacketReads = .error .outOfBounds := by
    cases hread : receiveAll 17 r.init longPacketReads with
    | error e =>
      rw [hread] at hrun
      exact congrArg Except.error (Except.error.inj hrun)
    | ok rest =>
      rw [hread] at hrun
      cases hrun
  refine ⟨r, hr, ?_, hread, fun h => h.1 hread⟩
  rw [hmax]
  decide

end ChannelServer
