/-
The server on the level of bytes.

In a run of `Step` a read completes with packets.  Here it completes with bytes: they go through
`handle_receive` and its buffers, `process_packet` parses what comes out, and `session::init` starts
the buffers of a session afresh for each connection.  `Wired` keeps the buffers beside the server,
and two histories of each session that only serve statements: the bytes of its connection, and the
packets that were handled.

The main results are `WiredReached.reachable`, by which these runs are runs of the server, and
`delivered_in_order`: what a client sends is handled once and in its order, whatever the other
clients do and however the bytes arrive.
-/
import ChannelServer.Authority
import ChannelServer.Pool
import ChannelServer.Protobuf.Transport

namespace ChannelServer

open Memory Streams Streams.Framing

/-! ### Packets between a read and their handlers -/

/-- The packets of a session that its packet loop has still to dispatch. -/
def View.pending (v : View) (n : SessionId) : List Packet :=
  match v.current with
  | some (k, packets) => if k = n then packets else []
  | none => []

/-- The packets of a session that arrive in an event. -/
def Event.arrivals (n : SessionId) : Event → List Packet
  | .receive k packets => if k = n then packets else []
  | _ => []

/-- The packets of a session that are handled in an event. -/
def View.handled (v : View) (n : SessionId) : Event → List Packet
  | .packet _ => (v.pending n).take 1
  | _ => []

/-- The event starts a connection of the session. -/
def Event.accepts (n : SessionId) : Event → Bool
  | .acceptDone k false => decide (k = n)
  | _ => false

section Pending

variable {v w : View} {n : SessionId} {e : Event}

lemma View.pending_of_none (h : v.current = none) : v.pending n = [] := by
  rw [View.pending, h]

lemma View.pending_congr (h : w.current = v.current) : w.pending n = v.pending n := by
  rw [View.pending, View.pending, h]

lemma PacketStep.current {p : Packet} (h : PacketStep v n p w) : w.current = v.current := by
  by_cases hconf : v.Confirms n p
  · rw [h.of_confirms hconf]
    exact (View.close_logins (v.setStat n .matchConfirm) n).2.1
  · exact (h.samePool hconf).current

lemma View.waitAccept_reads (v : View) : v.waitAccept.reads = v.reads := by
  obtain ⟨flag, queue, accepts, new, -, h⟩ := v.waitAccept_eq
  rw [h]

lemma View.close_reads (v : View) (n : SessionId) : (v.close n).reads = v.reads := by
  rcases v.close_cases n with ⟨-, h⟩ | ⟨-, redis, userIdMap, h⟩ <;> rw [h]
  exact View.finishClose_of_release (P := fun w => w.reads = v.reads)
    (fun w hw => w.waitAccept_reads.trans hw) rfl

lemma PacketStep.reads {p : Packet} (h : PacketStep v n p w) : w.reads = v.reads := by
  by_cases hconf : v.Confirms n p
  · rw [h.of_confirms hconf]
    exact View.close_reads _ n
  · exact (h.samePool hconf).reads

/-- **No packet is lost or handled twice**: what was pending and what arrives is handled or pending
afterwards. -/
lemma ViewStep.pending (h : ViewStep v e w) (n : SessionId) :
    v.pending n ++ e.arrivals n = v.handled n e ++ w.pending n := by
  -- most events leave the packet loop alone
  have hsame : w.current = v.current → e.arrivals n = [] → v.handled n e = [] →
      v.pending n ++ e.arrivals n = v.handled n e ++ w.pending n := by
    intro hcur harrivals hhandled
    rw [View.pending_congr hcur, harrivals, hhandled, List.append_nil, List.nil_append]
  cases h with
  | startAccept _ _ | accepted _ _ => exact hsame (View.waitAccept_stat _).2 rfl rfl
  | acceptFailed _ _ | readFailed _ _ | timerIdle _ _ | writeDone _ | world =>
    exact hsame rfl rfl rfl
  | disconnected _ _ _ => exact hsame (View.close_logins _ _).2.1 rfl rfl
  | timerWiden _ _ hserved => exact hsame hserved.samePool.current rfl rfl
  | receive hcur _ =>
    rw [View.pending_of_none hcur]
    rfl
  | @packet k p rest _ _ hcur hpacket =>
    rw [View.pending_congr (v := { v with current := some (k, rest) }) hpacket.current]
    by_cases hk : k = n
    · simp [View.handled, View.pending, Event.arrivals, hcur, hk]
    · simp [View.handled, View.pending, Event.arrivals, hcur, hk]
  | receiveEnd hcur => simp [View.handled, View.pending, Event.arrivals, hcur]

/-- A session that is read was read before, or its connection starts. -/
lemma ViewStep.beingRead (h : ViewStep v e w) (hn : w.BeingRead n) :
    v.BeingRead n ∨ e.accepts n = true := by
  have hsame : (∀ r ∈ w.reads, r ∈ v.reads) → w.current = v.current → v.BeingRead n := by
    intro hreads hcur
    exact hn.imp (hreads _) fun ⟨ps, hps⟩ => ⟨ps, hcur.symm.trans hps⟩
  cases h with
  | startAccept _ _ =>
    refine Or.inl (hsame ?_ (View.waitAccept_stat _).2)
    rw [View.waitAccept_reads]
    exact fun _ hr => hr
  | @accepted k _ _ =>
    rcases hn with hmem | ⟨ps, hps⟩
    · rw [View.accept, View.waitAccept_reads, List.mem_append, List.mem_singleton] at hmem
      rcases hmem with hmem | heq
      · exact Or.inl (Or.inl hmem)
      · exact Or.inr (decide_eq_true (Read.mk.inj heq).1.symm)
    · rw [View.accept, (View.waitAccept_stat _).2] at hps
      exact Or.inl (Or.inr ⟨ps, hps⟩)
  | acceptFailed _ _ | timerIdle _ _ | writeDone _ | world =>
    exact Or.inl (hsame (fun _ hr => hr) rfl)
  | readFailed _ _ => exact Or.inl (hsame (fun _ hr => List.mem_of_mem_erase hr) rfl)
  | disconnected _ _ _ =>
    refine Or.inl (hsame ?_ (View.close_logins _ _).2.1)
    rw [View.close_reads]
    exact fun _ hr => List.mem_of_mem_erase hr
  | timerWiden _ _ hserved =>
    refine Or.inl (hsame ?_ hserved.samePool.current)
    rw [hserved.samePool.reads]
    exact fun _ hr => hr
  | receive hcur hread => exact Or.inl ((View.beingRead_receive hcur hread n).1 hn)
  | @packet k p rest _ _ hcur hpacket =>
    rcases hn with hmem | ⟨ps, hps⟩
    · rw [hpacket.reads] at hmem
      exact Or.inl (Or.inl hmem)
    · obtain ⟨rfl, rfl⟩ := Prod.mk.inj (Option.some.inj (hpacket.current.symm.trans hps))
      exact Or.inl (Or.inr ⟨_, hcur⟩)
  | @receiveEnd k hcur =>
    rcases hn with hmem | ⟨ps, hps⟩
    · rcases List.mem_append.1 hmem with hmem | hmem
      · exact Or.inl (Or.inl hmem)
      · obtain ⟨rfl, -⟩ := Read.mk.inj (List.mem_singleton.1 hmem)
        exact Or.inl (Or.inr ⟨_, hcur⟩)
    · cases hps

end Pending

/-! ### The server with its buffers -/

/-- The server, the buffers of its sessions, and the histories of their connections. -/
structure Wired where
  server : Server
  receiver : SessionId → Receiver
  /-- The bytes that have arrived on the connection of a session, when it has had one. -/
  received : SessionId → Option (List UInt8)
  /-- The packets of the connection that were handled. -/
  served : SessionId → List Packet

/-- A read of a session completes with bytes, or something else happens. -/
inductive WiredEvent
  | bytes (n : SessionId) (bytes : List UInt8)
  | other (e : Event)

/-- What an event that is no read does to the buffers and the histories; `handle_accept` calls
`session::init`. -/
def Wired.after (w : Wired) (e : Event) (s' : Server) : Wired where
  server := s'
  receiver n := if e.accepts n then (w.receiver n).init else w.receiver n
  received n := if e.accepts n then some [] else w.received n
  served n := if e.accepts n then [] else w.served n ++ w.server.view.handled n e

variable (W : Protobuf.WireFormatLite)

/-- The steps of the server on the level of bytes.  A read gets at most as many bytes as the receive
buffer holds, and `handle_receive` dispatches what is complete then.  A round of its loop that is
not the last one consumes a byte at least, or the loop does not end. -/
inductive WiredStep (w : Wired) : WiredEvent → Wired → Prop
  | bytes {n : SessionId} {bytes : List UInt8} {r : Receiver} {dispatched : List Dispatch}
      {s' : Server} (hbytes : bytes.length ≤ (w.receiver n).maxBufferLen)
      (hread : receiveBytes ((w.receiver n).maxBufferLen * 2 + 1) (w.receiver n) bytes =
        .ok (r, dispatched))
      (hstep : Step w.server
        (.receive n (dispatched.map fun d => Protobuf.processedPacket W d.data)) s') :
      WiredStep w (.bytes n bytes)
        { w with
          server := s'
          receiver := Function.update w.receiver n r
          received := Function.update w.received n ((w.received n).map (· ++ bytes)) }
  | other {e : Event} {s' : Server} (hother : ∀ n packets, e ≠ .receive n packets)
      (hstep : Step w.server e s') : WiredStep w (.other e) (w.after e s')

/-- The server after its start; the buffers hold whatever was in memory. -/
def WiredInitial (w : Wired) : Prop :=
  Initial w.server ∧ w.received = (fun _ => none) ∧ w.served = fun _ => []

/-- The states reached by runs on the level of bytes. -/
abbrev WiredReached (ok : Wired → WiredEvent → Prop) : Wired → Prop :=
  Runs.Reached WiredInitial (WiredStep W) ok

variable {W}

lemma WiredStep.step {w w' : Wired} {e : WiredEvent} (h : WiredStep W w e w') :
    ∃ e', Step w.server e' w'.server := by
  cases h with
  | bytes _ _ hstep => exact ⟨_, hstep⟩
  | other _ hstep => exact ⟨_, hstep⟩

/-- **Runs on the level of bytes are runs of the server.** -/
theorem WiredReached.reachable {ok : Wired → WiredEvent → Prop} {w : Wired}
    (h : WiredReached W ok w) : Reachable w.server := by
  refine Runs.Reached.invariant (I := fun w => Reachable w.server) ?_ ?_ h
  · exact fun w hw => .start hw.1
  · intro w e w' _ hw _ hstep
    obtain ⟨e', hstep'⟩ := hstep.step
    exact .step hw trivial hstep'

/-! ### Clients -/

/-- The bytes of messages that are sent one behind the other. -/
def stream (W : Protobuf.WireFormatLite) (ms : List Protobuf.TypedMessage) : List UInt8 :=
  (ms.map (·.encode W)).flatten

/-- Messages whose packets the buffers of a session have room for. -/
def Receiver.Admits (W : Protobuf.WireFormatLite) (r : Receiver)
    (ms : List Protobuf.TypedMessage) : Prop :=
  ∀ m ∈ ms, m.Valid W ∧ (m.encode W).length ≤ r.maxBufferLen

lemma Receiver.Admits.fits {r : Receiver} {ms : List Protobuf.TypedMessage}
    (h : r.Admits W ms) : r.Fits (ms.map (·.encode W)) := by
  intro f hf
  obtain ⟨m, hm, rfl⟩ := List.mem_map.1 hf
  exact ⟨m.isFrame_encode (h m hm).1, (h m hm).2⟩

/-- The bytes of the connection are the beginning of a stream of messages. -/
def Wired.Streams (W : Protobuf.WireFormatLite) (n : SessionId) (w : Wired) (bytes : List UInt8)
    (ms : List Protobuf.TypedMessage) : Prop :=
  w.received n = some bytes ∧ (w.receiver n).Admits W ms ∧ bytes <+: stream W ms

/-- The invariant of one session.  As long as the bytes of its connection are the beginning of a
stream of messages, its buffer holds what is incomplete of them, and the packets before it were
handled or are pending. -/
structure Wired.Delivers (W : Protobuf.WireFormatLite) (n : SessionId) (w : Wired) : Prop where
  connected : w.server.view.BeingRead n → ∃ bytes, w.received n = some bytes
  holds : ∀ bytes ms, w.Streams W n bytes ms →
    (w.receiver n).Holds (packetFraming.split bytes).2
  handed : ∀ bytes ms, w.Streams W n bytes ms →
    w.served n ++ w.server.view.pending n =
      (packetFraming.split bytes).1.map (Protobuf.processedPacket W)

section Delivery

variable {w w' : Wired} {n : SessionId}

/-- A read whose bytes continue the stream of the client returns, with the packets that are complete
then. -/
lemma Wired.Delivers.read (hw : w.Delivers W n) {b bytes : List UInt8}
    (hb : w.received n = some b) (hbytes : bytes.length ≤ (w.receiver n).maxBufferLen)
    {ms : List Protobuf.TypedMessage} (hms : (w.receiver n).Admits W ms)
    (hstream : b ++ bytes <+: stream W ms) :
    ∃ r dispatched, receiveBytes ((w.receiver n).maxBufferLen * 2 + 1) (w.receiver n) bytes =
        .ok (r, dispatched) ∧ r.maxBufferLen = (w.receiver n).maxBufferLen ∧
      r.Holds (packetFraming.split (b ++ bytes)).2 ∧
      (packetFraming.split (b ++ bytes)).1 =
        (packetFraming.split b).1 ++ dispatched.map (·.data) := by
  have hsplit := split_append (F := packetFraming) b bytes
  obtain ⟨hrest, hannounced⟩ := hms.fits.length_rest_le hstream
  rw [hsplit] at hrest hannounced ⊢
  have hmax := (w.receiver n).maxBufferLen_lt
  have hold : w.Streams W n b ms := ⟨hb, hms, (List.prefix_append b bytes).trans hstream⟩
  obtain ⟨r, dispatched, hread, hmax', hr, hdata⟩ := receiveBytes_eq (hw.holds b ms hold) hbytes
    (fun m hm => by have := hannounced m hm; omega) hrest (Nat.lt_succ_self _)
  exact ⟨r, dispatched, hread, hmax', hr, by rw [hdata]⟩

/-- A connection that starts. -/
lemma ViewStep.current_of_accepts {v v' : View} {e : Event} (h : ViewStep v e v')
    (he : e.accepts n = true) : v.current = none := by
  cases h with
  | accepted hcur _ => exact hcur
  | acceptFailed hcur _ => exact hcur
  | _ => cases he

/-- A read that completes was outstanding. -/
lemma ViewStep.mem_reads {v v' : View} {packets : List Packet}
    (h : ViewStep v (.receive n packets) v') : ⟨n, true⟩ ∈ v.reads := by
  cases h with
  | receive _ hmem => exact hmem

/-- **One step on the level of bytes.** -/
lemma Wired.Delivers.step (hw : w.Delivers W n) {e : WiredEvent} (h : WiredStep W w e w') :
    w'.Delivers W n := by
  cases h with
  | @other e s' hother hstep =>
    have hview := view_step hstep
    have hpending := hview.pending n
    by_cases haccept : e.accepts n = true
    · have hnil : s'.view.pending n = [] := by
        have hhandled : w.server.view.handled n e = [] := by
          cases e <;> first | rfl | cases haccept
        have harrivals : e.arrivals n = [] := by
          cases e <;> first | rfl | cases haccept
        rw [View.pending_of_none (hview.current_of_accepts haccept), hhandled, harrivals]
          at hpending
        simpa using hpending.symm
      have hsplit : packetFraming.split [] = ([], []) :=
        split_of_incomplete (incomplete_of_lt (by decide))
      refine ⟨fun _ => ⟨[], if_pos haccept⟩, fun bytes ms hb => ?_, fun bytes ms hb => ?_⟩
      all_goals
        obtain rfl : bytes = [] := (Option.some.inj ((if_pos haccept).symm.trans hb.1)).symm
        rw [hsplit]
      · show Receiver.Holds (if e.accepts n then (w.receiver n).init else w.receiver n) []
        rw [if_pos haccept]
        exact ⟨rfl, List.nil_prefix, Nat.zero_le _⟩
      · show (if e.accepts n then [] else _) ++ s'.view.pending n = []
        rw [if_pos haccept, hnil]
        rfl
    · have harrivals : e.arrivals n = [] := by
        cases e with
        | receive k packets => exact absurd rfl (hother k packets)
        | _ => rfl
      rw [harrivals, List.append_nil] at hpending
      have hreceived : (w.after e s').received n = w.received n := if_neg haccept
      have hreceiver : (w.after e s').receiver n = w.receiver n := if_neg haccept
      have hserved : (w.after e s').served n = w.served n ++ w.server.view.handled n e :=
        if_neg haccept
      have hstreams : ∀ bytes ms, (w.after e s').Streams W n bytes ms → w.Streams W n bytes ms := by
        rintro bytes ms ⟨hb, hms, hstream⟩
        rw [hreceiver] at hms
        exact ⟨hreceived.symm.trans hb, hms, hstream⟩
      refine ⟨fun hread => ?_, fun bytes ms hb => ?_, fun bytes ms hb => ?_⟩
      · rw [hreceived]
        exact hw.connected ((hview.beingRead hread).resolve_right haccept)
      · rw [hreceiver]
        exact hw.holds bytes ms (hstreams bytes ms hb)
      · show _ ++ s'.view.pending n = _
        rw [hserved, List.append_assoc, ← hpending]
        exact hw.handed bytes ms (hstreams bytes ms hb)
  | @bytes k bytes r dispatched s' hbytes hread hstep =>
    have hview := view_step hstep
    have hpending : w.server.view.pending n ++ (Event.receive k _).arrivals n =
        s'.view.pending n := hview.pending n
    have hconnected : s'.view.BeingRead n → w.server.view.BeingRead n := fun hn =>
      (hview.beingRead hn).resolve_right (by simp [Event.accepts])
    by_cases hk : k = n
    · subst hk
      rw [Event.arrivals, if_pos rfl] at hpending
      obtain ⟨b, hb⟩ := hw.connected (Or.inl hview.mem_reads)
      have hreceived : Function.update w.received k ((w.received k).map (· ++ bytes)) k =
          some (b ++ bytes) := by rw [Function.update_self, hb, Option.map_some]
      have hreceiver : Function.update w.receiver k r k = r := Function.update_self _ _ _
      -- the read of a client whose bytes are the beginning of a stream
      have hreads : ∀ b' ms, Wired.Streams W k { w with
            server := s'
            receiver := Function.update w.receiver k r
            received := Function.update w.received k ((w.received k).map (· ++ bytes)) } b' ms →
          b' = b ++ bytes ∧ w.Streams W k b ms ∧ r.Holds (packetFraming.split (b ++ bytes)).2 ∧
            (packetFraming.split (b ++ bytes)).1 =
              (packetFraming.split b).1 ++ dispatched.map (·.data) := by
        rintro b' ms ⟨hb', hms, hstream⟩
        obtain rfl := Option.some.inj (hreceived.symm.trans hb')
        have hms' : (w.receiver k).Admits W ms := by
          intro m hm
          have hm' := hms m hm
          dsimp only at hm'
          rwa [hreceiver, maxBufferLen_of_receiveBytes hread] at hm'
        obtain ⟨r', dispatched', hread', -, hr, hsplit⟩ := hw.read hb hbytes hms' hstream
        obtain ⟨rfl, rfl⟩ := Prod.mk.inj (Except.ok.inj (hread.symm.trans hread'))
        exact ⟨rfl, ⟨hb, hms', (List.prefix_append b bytes).trans hstream⟩, hr, hsplit⟩
      refine ⟨fun _ => ⟨_, hreceived⟩, fun b' ms hb' => ?_, fun b' ms hb' => ?_⟩
      all_goals obtain ⟨rfl, hold, hr, hsplit⟩ := hreads b' ms hb'
      · show Receiver.Holds (Function.update w.receiver k r k) _
        rw [hreceiver]
        exact hr
      · show w.served k ++ s'.view.pending k = _
        rw [← hpending, ← List.append_assoc, hw.handed b ms hold, hsplit, List.map_append,
          List.map_map]
        rfl
    · rw [Event.arrivals, if_neg hk, List.append_nil] at hpending
      have hne : n ≠ k := fun h => hk h.symm
      have hreceived : Function.update w.received k ((w.received k).map (· ++ bytes)) n =
          w.received n := Function.update_of_ne hne _ _
      have hreceiver : Function.update w.receiver k r n = w.receiver n :=
        Function.update_of_ne hne _ _
      have hstreams : ∀ b ms, Wired.Streams W n { w with
            server := s'
            receiver := Function.update w.receiver k r
            received := Function.update w.received k ((w.received k).map (· ++ bytes)) } b ms →
          w.Streams W n b ms := by
        rintro b ms ⟨hb, hms, hstream⟩
        dsimp only at hms
        rw [hreceiver] at hms
        exact ⟨hreceived.symm.trans hb, hms, hstream⟩
      refine ⟨fun hread => ?_, fun b ms hb => ?_, fun b ms hb => ?_⟩
      · show ∃ bytes, Function.update w.received k _ n = some bytes
        rw [hreceived]
        exact hw.connected (hconnected hread)
      · show Receiver.Holds (Function.update w.receiver k r n) _
        rw [hreceiver]
        exact hw.holds b ms (hstreams b ms hb)
      · show w.served n ++ s'.view.pending n = _
        rw [← hpending]
        exact hw.handed b ms (hstreams b ms hb)

lemma WiredReached.delivers (h : WiredReached W (fun _ _ => True) w) : w.Delivers W n := by
  refine Runs.Reached.invariant (I := fun w => w.Delivers W n) ?_ ?_ h
  · rintro w ⟨hinit, hreceived, -⟩
    have hnone : ∀ bytes, w.received n ≠ some bytes := by
      intro bytes hb
      rw [hreceived] at hb
      cases hb
    refine ⟨fun hread => ?_, fun bytes _ hb => absurd hb.1 (hnone bytes), fun bytes _ hb =>
      absurd hb.1 (hnone bytes)⟩
    obtain ⟨b, hv⟩ := hinit.view_eq
    rw [hv] at hread
    rcases hread with hmem | ⟨ps, hps⟩
    · rw [View.waitAccept_reads] at hmem
      cases hmem
    · rw [(View.waitAccept_stat _).2] at hps
      cases hps
  · exact fun w e w' _ hw _ hstep => hw.step hstep

lemma Wired.Delivers.exists_step (hw : w.Delivers W n) {b bytes : List UInt8}
    (hread : ⟨n, true⟩ ∈ w.server.reads) (hcur : w.server.current = none)
    (hb : w.received n = some b) (hbytes : bytes.length ≤ (w.receiver n).maxBufferLen)
    {ms : List Protobuf.TypedMessage} (hms : (w.receiver n).Admits W ms)
    (hstream : b ++ bytes <+: stream W ms) :
    ∃ w', WiredStep W w (.bytes n bytes) w' ∧ w'.received n = some (b ++ bytes) ∧
      (w'.receiver n).maxBufferLen = (w.receiver n).maxBufferLen := by
  obtain ⟨r, dispatched, hrun, hmax, -, -⟩ := hw.read hb hbytes hms hstream
  have hstep : Step w.server
      (.receive n (dispatched.map fun d => Protobuf.processedPacket W d.data))
      { w.server with
        reads := w.server.reads.erase ⟨n, true⟩
        current := some (n, dispatched.map fun d => Protobuf.processedPacket W d.data) } :=
    step_iff.2 ⟨_, if_pos ⟨hcur, hread⟩, rfl⟩
  refine ⟨_, .bytes hbytes hrun hstep, ?_, ?_⟩
  · show Function.update w.received n ((w.received n).map (· ++ bytes)) n = _
    rw [Function.update_self, hb, Option.map_some]
  · show (Function.update w.receiver n r n).maxBufferLen = _
    rw [Function.update_self, hmax]

/-- **Messages are handled once and in their order.**  A client sends messages, each of which fits
into the receive buffer.  Whatever the other clients and the earlier clients of the session send,
and in whatever reads the bytes arrive, those messages of the connection that have arrived as a
whole are handled, or pending in the packet loop that runs, each once, in their order and with their
fields. -/
theorem delivered_in_order (h : WiredReached W (fun _ _ => True) w)
    {bytes : List UInt8} {ms : List Protobuf.TypedMessage} (hb : w.received n = some bytes)
    (hms : (w.receiver n).Admits W ms) (hstream : bytes <+: stream W ms) :
    ∃ k, w.served n ++ w.server.view.pending n = (ms.take k).map (·.packet) ∧
      stream W (ms.take k) <+: bytes ∧
      (k < ms.length → bytes.length < (stream W (ms.take (k + 1))).length) := by
  have hsplit := split_of_prefix (fun f hf => (hms.fits f hf).1) hstream
  obtain ⟨k, hk, hnext⟩ := exists_arrived (ms.map (·.encode W)) bytes.length
  have hpackets : ((ms.take k).map (·.encode W)).map (Protobuf.processedPacket W) =
      (ms.take k).map (·.packet) := by
    rw [List.map_map]
    exact List.map_congr_left fun m hm =>
      Protobuf.processedPacket_encode (hms m (List.mem_of_mem_take hm)).1
  refine ⟨k, ?_, ?_, fun hlt => ?_⟩
  · rw [h.delivers.handed bytes ms ⟨hb, hms, hstream⟩, hsplit, hk, ← List.map_take, hpackets]
  · have hall := split_flatten (F := packetFraming) bytes
    rw [hsplit, hk, ← List.map_take] at hall
    exact ⟨_, hall⟩
  · have := hnext (by rwa [List.length_map])
    rwa [← List.map_take] at this

/-- Two messages, and a first read that ends inside the second one. -/
def twoMessages : List Protobuf.TypedMessage := [⟨.matchConfirm, ⟨none, []⟩⟩, Protobuf.loginRequest]

def firstRead : List UInt8 := (stream .standard twoMessages).take 12

lemma admits_twoMessages {r : Receiver} (hr : r.maxBufferLen = 32) :
    r.Admits .standard twoMessages := by
  have hconfirm : (⟨.matchConfirm, ⟨none, []⟩⟩ : Protobuf.TypedMessage).Valid .standard :=
    ⟨⟨List.forall_mem_singleton.2 fun _ _ => trivial, fun _ hu => absurd hu List.not_mem_nil⟩,
      by decide +kernel⟩
  refine List.forall_mem_cons.2 ⟨⟨hconfirm, ?_⟩, List.forall_mem_singleton.2
    ⟨Protobuf.valid_loginRequest, ?_⟩⟩
  · rw [hr, Protobuf.TypedMessage.length_encode hconfirm]
    decide +kernel
  · rw [hr, Protobuf.TypedMessage.length_encode Protobuf.valid_loginRequest]
    decide +kernel

/-- A client has connected to a server with buffers of 32 bytes. -/
lemma exists_connected :
    ∃ w, WiredReached .standard (fun _ _ => True) w ∧
      ⟨0, true⟩ ∈ w.server.reads ∧ w.server.current = none ∧ w.received 0 = some [] ∧
      (w.receiver 0).maxBufferLen = 32 := by
  obtain ⟨r, hr⟩ := Option.isSome_iff_exists.1
    (show (Receiver.new 32 (fun _ _ => 7) 3).isSome from rfl)
  have hmax : r.maxBufferLen = 32 := by
    have hnew : (Receiver.new 32 (fun _ _ => 7) 3).map (·.maxBufferLen) = some 32 := rfl
    rw [hr] at hnew
    exact Option.some.inj hnew
  have hrun : ((Boot.plain 1 1 (fun _ => none) ⟨[], []⟩).start.bind fun s =>
      (next s (.acceptDone 0 false)).map fun s' =>
        decide (s'.reads = [⟨0, true⟩] ∧ s'.current = none)) = some true := by decide
  obtain ⟨s, hs, hrun⟩ := Option.bind_eq_some_iff.1 hrun
  obtain ⟨s', hs', heq⟩ := Option.map_eq_some_iff.1 hrun
  obtain ⟨hreads, hcur⟩ := of_decide_eq_true heq
  obtain ⟨r', hstart⟩ := Boot.run_of_start hs
  have h₀ : WiredReached .standard (fun _ _ => True)
      ⟨s, fun _ => r, fun _ => none, fun _ => []⟩ := .start ⟨⟨_, r', hstart⟩, rfl, rfl⟩
  have haccept : ∀ n packets, Event.acceptDone 0 false ≠ .receive n packets := by simp
  have h₁ := h₀.step (e := .other (.acceptDone 0 false)) (by trivial)
    (.other haccept (step_of_next hs'))
  exact ⟨_, h₁, by simp [Wired.after, hreads], hcur, rfl, hmax⟩

lemma length_firstRead : firstRead.length ≤ 32 :=
  (List.length_take_le _ _).trans (by decide)

theorem delivered_in_order_two_messages :
    ∃ w, WiredReached .standard (fun _ _ => True) w ∧
      w.received 0 = some firstRead ∧
      ∃ k, w.served 0 ++ w.server.view.pending 0 = (twoMessages.take k).map (·.packet) ∧
        stream .standard (twoMessages.take k) <+: firstRead ∧
        (k < twoMessages.length →
          firstRead.length < (stream .standard (twoMessages.take (k + 1))).length) := by
  obtain ⟨w, hw, hread, hcur, hb, hr⟩ := exists_connected
  obtain ⟨w', hstep, hb', hr'⟩ := hw.delivers.exists_step hread hcur hb
    (by rw [hr]; exact length_firstRead) (admits_twoMessages hr) (List.take_prefix _ _)
  have hw' := hw.step trivial hstep
  exact ⟨w', hw', hb', delivered_in_order hw' hb' (admits_twoMessages (hr'.trans hr))
    (List.take_prefix _ _)⟩

/-- **No read of such a client fails**: when a read of its connection completes, whose bytes
continue a stream of such messages, all accesses stay inside the buffers and the packet loop
ends. -/
theorem reads_return (h : WiredReached W (fun _ _ => True) w) {bytes : List UInt8}
    {ms : List Protobuf.TypedMessage} (hread : ⟨n, true⟩ ∈ w.server.reads)
    (hcur : w.server.current = none) (hbytes : bytes.length ≤ (w.receiver n).maxBufferLen)
    (hms : (w.receiver n).Admits W ms)
    (hstream : (w.received n).getD [] ++ bytes <+: stream W ms) :
    ∃ w', WiredStep W w (.bytes n bytes) w' := by
  obtain ⟨b, hb⟩ := h.delivers.connected (Or.inl hread)
  rw [hb, Option.getD_some] at hstream
  obtain ⟨w', hstep, -⟩ := h.delivers.exists_step hread hcur hb hbytes hms hstream
  exact ⟨w', hstep⟩

theorem reads_return_first_read :
    ∃ w, WiredReached .standard (fun _ _ => True) w ∧
      ∃ w', WiredStep .standard w (.bytes 0 firstRead) w' := by
  obtain ⟨w, hw, hread, hcur, hb, hr⟩ := exists_connected
  exact ⟨w, hw, reads_return hw hread hcur (by rw [hr]; exact length_firstRead)
    (admits_twoMessages hr) (by rw [hb]; exact List.take_prefix _ _)⟩

end Delivery

end ChannelServer
