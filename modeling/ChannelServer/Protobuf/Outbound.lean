/-
What the server puts on a connection.

`Outbound` keeps two histories beside the server: the messages that the handlers have sent on the
connection of a session, and the writes of the connection that have completed.  The bytes of these
writes are what the client receives.

The main results are `messages_arrive_in_order` and `messages_arrive`, for connections that start
while no write of the session is outstanding: the client finds whole packets, one for each completed
write, with the messages that were sent, in their order; and when the session is never logged out
with messages waiting, those that are not there yet are in the queue.
-/
import ChannelServer.Buffers
import ChannelServer.Protobuf.Delivery

namespace ChannelServer

open Memory Streams Streams.Framing Protobuf

/-! ### Reading a packet -/

namespace Protobuf.TypedMessage

variable (W : WireFormatLite)

/-- What a receiver with the generated classes makes of a packet: the type in the header tells which
class parses the rest. -/
def decode? (packet : List UInt8) : Option TypedMessage :=
  (MessageType.ofNumber? (ofLe32 ((packet.drop 4).take 4))).map fun type =>
    ⟨type, ((type.messageClass.type W).parseFromArray (packet.drop packetHeaderSize)).1⟩

variable {W}

lemma decode?_encode {m : TypedMessage} (hm : m.Valid W) : decode? W (m.encode W) = some m := by
  obtain ⟨-, htype, hbody⟩ := encode_parts hm
  have hparse : (m.type.messageClass.type W).parseFromArray (m.serialize W) = (m.object, true) ∨
      (m.type.messageClass.type W).parseFromArray (m.serialize W) = (m.object, false) := by
    rw [serialize, Descriptor.parseFromArray, Descriptor.dispatch_serialize hm.1 hm.2,
      Descriptor.mergeFrom_new]
    cases (m.type.messageClass.type W).isInitialized m.object <;> simp
  rw [decode?, htype, hbody, MessageType.ofNumber?_number, Option.map_some]
  rcases hparse with hparse | hparse <;> rw [hparse]

end Protobuf.TypedMessage

/-! ### Histories of the connections -/

/-- The write of a session that completes in an event. -/
def Server.completed (s : Server) (n : SessionId) : Event → List Write
  | .writeDone k i => if k = n then ((s.sess n).send.writes[i]?).toList else []
  | _ => []

/-- The messages for a session that are sent between two states: those of its queue whose buffers
were not yet allocated in the first one. -/
def Server.sentSince (s s' : Server) (n : SessionId) : List Message :=
  ((s'.sess n).send.queue.filter fun b => s.heap ≤ b.addr).map (·.message)

/-- The messages that wait in the queue of a session, or are being written. -/
def Server.waiting (s : Server) (n : SessionId) : List Message :=
  (s.sess n).send.queue.map (·.message)

/-- The server, and for the connection of each session the messages that were sent on it and the
writes that have completed. -/
structure Outbound where
  server : Server
  sent : SessionId → List Message
  written : SessionId → List Write

/-- What an event does to the histories. -/
def Outbound.after (o : Outbound) (e : Event) (s' : Server) : Outbound where
  server := s'
  sent n := (if e.accepts n then [] else o.sent n) ++ o.server.sentSince s' n
  written n := if e.accepts n then [] else o.written n ++ o.server.completed n e

/-- The steps of the server, with the histories. -/
inductive OutboundStep (o : Outbound) (e : Event) : Outbound → Prop
  | step {s' : Server} (h : Step o.server e s') : OutboundStep o e (o.after e s')

def OutboundInitial (o : Outbound) : Prop :=
  Initial o.server ∧ o.sent = (fun _ => []) ∧ o.written = fun _ => []

/-- The states reached by runs with their histories. -/
abbrev OutboundReached (ok : Outbound → Event → Prop) : Outbound → Prop :=
  Runs.Reached OutboundInitial OutboundStep ok

/-- A connection of the session only starts while no write of it is outstanding. -/
def Outbound.StartsIdle (n : SessionId) (o : Outbound) (e : Event) : Prop :=
  e.accepts n = true → (o.server.sess n).send.writes = []

/-- No message of the session waits behind the one whose write completes in the status `LOGOUT`. -/
def Outbound.DropsNothing (n : SessionId) (o : Outbound) (e : Event) : Prop :=
  ∀ i, e = .writeDone n i → (o.server.sess n).stat = .logout →
    (o.server.sess n).send.queue.length ≤ 1

section Histories

variable {o o' : Outbound} {n : SessionId} {ok : Outbound → Event → Prop}

lemma OutboundReached.reachable (h : OutboundReached ok o) : Reachable o.server := by
  refine Runs.Reached.invariant (I := fun o => Reachable o.server) (fun _ h0 => .start h0.1) ?_ h
  rintro o e _ _ hr _ ⟨hstep⟩
  exact hr.step trivial hstep

/-- The messages of a connection that are written or waiting. -/
def Outbound.flow (o : Outbound) (n : SessionId) : List Message :=
  (o.written n).map (·.buffer.message) ++ o.server.waiting n

/-- The messages that a step adds are those that it posts. -/
lemma sentSince_eq {s s' : Server} {e : Event} {q : SendQueue}
    {posts : List (SessionId × Buffer)} (hr : Reachable s) (hposts : Allocates posts s s')
    (hq : QueueStep n s e q) (hsend : (s'.sess n).send = q.pushAll (postsTo n posts)) :
    s.sentSince s' n = (postsTo n posts).map (·.message) := by
  have hold : ∀ b ∈ q.queue, b.addr < s.heap := by
    intro b hb
    refine (hr.accounted.allocated _).2 ⟨n, ?_⟩
    rw [← hq.owned_eq]
    exact List.mem_append_right _ (List.mem_map_of_mem hb)
  have hnew : ∀ b ∈ postsTo n posts, s.heap ≤ b.addr := fun b hb =>
    (hposts.mem_addrs.1 ⟨_, mem_postsTo.1 hb, rfl⟩).1
  have hnone : q.queue.filter (fun b => s.heap ≤ b.addr) = [] :=
    List.filter_eq_nil_iff.2 fun b hb => by simpa using hold b hb
  have hall : (postsTo n posts).filter (fun b => s.heap ≤ b.addr) = postsTo n posts :=
    List.filter_eq_self.2 fun b hb => decide_eq_true (hnew b hb)
  rw [Server.sentSince, hsend, SendQueue.queue_pushAll, List.filter_append, hnone, hall,
    List.nil_append]

/-- **One step of a connection**: it starts, or messages are added to those that were sent and to
those that are waiting, of which some may be dropped. -/
lemma OutboundStep.flow {e : Event} (h : OutboundStep o e o') (hr : Reachable o.server)
    (hsingle : (o.server.sess n).send.SingleWrite) (hidle : o.StartsIdle n e) :
    (o'.server.sess n).send.SingleWrite ∧ (o'.flow n = o'.sent n ∨
      ∃ kept new, o'.sent n = o.sent n ++ new ∧ o'.flow n = kept ++ new ∧
        List.Sublist kept (o.flow n) ∧ (o.DropsNothing n e → kept = o.flow n)) := by
  obtain ⟨hstep⟩ := h
  rename_i s'
  obtain ⟨posts, hposts, hqueues⟩ := hstep.queues
  obtain ⟨q, hq, hsend⟩ := hqueues n
  have hnew := sentSince_eq hr hposts hq hsend
  have hwaiting : s'.waiting n = q.queue.map (·.message) ++ (postsTo n posts).map (·.message) := by
    rw [Server.waiting, hsend, SendQueue.queue_pushAll, List.map_append]
  have hpush : q.SingleWrite → (s'.sess n).send.SingleWrite := fun h => by
    rw [hsend]
    exact SendQueue.pushAll_induction (fun q b h => h.push b) h _
  cases hq with
  | accepted =>
    have haccepts : Event.accepts n (.acceptDone n false) = true := by simp [Event.accepts]
    refine ⟨hpush (.restart (hidle haccepts)), Or.inl ?_⟩
    simp only [Outbound.flow, Outbound.after, if_pos haccepts, hnew, hwaiting]
    rfl
  | @written i q hi hafter =>
    obtain ⟨c, rest, hqueue, hwrites, rfl⟩ := hsingle.front hi
    refine ⟨hpush (hsingle.afterWrite hi hafter), Or.inr ?_⟩
    have hcompleted : o.server.completed n (.writeDone n 0) = [SendQueue.writeOf c] := by
      simp [Server.completed, hwrites]
    have hflow : o.flow n =
        (o.written n).map (·.buffer.message) ++ c.message :: rest.map (·.message) := by
      rw [Outbound.flow, Server.waiting, hqueue, List.map_cons]
    refine ⟨(o.written n).map (·.buffer.message) ++ c.message :: q.queue.map (·.message),
      (postsTo n posts).map (·.message), ?_, ?_, ?_, fun hdrops => ?_⟩
    · simp [Outbound.after, Event.accepts, hnew]
    · simp [Outbound.flow, Outbound.after, Event.accepts, hcompleted, hwaiting, SendQueue.writeOf]
    all_goals
      rw [hflow]
      obtain ⟨c', rest', hqueue', hcases⟩ := SendQueue.afterWrite_cases hafter
      obtain ⟨rfl, rfl⟩ := List.cons.inj (hqueue.symm.trans hqueue')
    · refine (List.Sublist.refl _).append (List.Sublist.cons_cons _ ?_)
      rcases hcases with ⟨-, rfl⟩ | ⟨-, d, rest', rfl, rfl⟩
      · exact List.nil_sublist _
      · exact List.Sublist.refl _
    · rcases hcases with ⟨hnone, rfl⟩ | ⟨-, d, rest', rfl, rfl⟩
      · obtain rfl : rest = [] := by
          rcases hnone with hnone | hlogout
          · exact hnone
          · have := hdrops 0 rfl (of_decide_eq_true hlogout)
            rw [hqueue] at this
            simpa using this
        rfl
      · rfl
  | kept haccept hwrite =>
    have haccepts : e.accepts n = false := by
      cases e with
      | acceptDone k error =>
        cases error with
        | false => simpa [Event.accepts] using fun hk : k = n => haccept (by rw [hk])
        | true => rfl
      | _ => rfl
    have hcompleted : o.server.completed n e = [] := by
      cases e with
      | writeDone k i =>
        have hk : k ≠ n := by
          rintro rfl
          exact hwrite i rfl
        simp [Server.completed, hk]
      | _ => rfl
    refine ⟨hpush hsingle, Or.inr ⟨o.flow n, (postsTo n posts).map (·.message), ?_, ?_,
      List.Sublist.refl _, fun _ => rfl⟩⟩
    · simp [Outbound.after, haccepts, hnew]
    · have hold : (o.server.sess n).send.queue.map (·.message) = o.server.waiting n := rfl
      simp [Outbound.flow, Outbound.after, haccepts, hcompleted, hwaiting, hold]

/-- The completed writes were those of whole buffers. -/
lemma OutboundStep.whole {e : Event} (h : OutboundStep o e o') (hr : Reachable o.server)
    (hwhole : ∀ w ∈ o.written n, w = SendQueue.writeOf w.buffer) :
    ∀ w ∈ o'.written n, w = SendQueue.writeOf w.buffer := by
  obtain ⟨-⟩ := h
  intro w hw
  simp only [Outbound.after] at hw
  split at hw
  · exact absurd hw List.not_mem_nil
  · rcases List.mem_append.1 hw with hw | hw
    · exact hwhole w hw
    · cases e with
      | writeDone k i =>
        simp only [Server.completed] at hw
        split at hw
        · exact hr.whole n w (List.mem_of_getElem? (Option.mem_toList.1 hw))
        · exact absurd hw List.not_mem_nil
      | _ => exact absurd hw List.not_mem_nil

lemma OutboundReached.whole (h : OutboundReached ok o) (n : SessionId) :
    ∀ w ∈ o.written n, w = SendQueue.writeOf w.buffer := by
  refine Runs.Reached.invariant (I := fun o => ∀ w ∈ o.written n, w = SendQueue.writeOf w.buffer)
    ?_ (fun _ _ _ hr hw _ hstep => hstep.whole (OutboundReached.reachable hr) hw) h
  rintro o ⟨-, -, hwritten⟩
  rw [hwritten]
  exact fun _ hw => absurd hw List.not_mem_nil

lemma OutboundInitial.singleWrite (h : OutboundInitial o) :
    (o.server.sess n).send.SingleWrite := by
  rw [h.1.queues.2]
  rfl

lemma OutboundInitial.flow_eq (h : OutboundInitial o) : o.flow n = o.sent n := by
  obtain ⟨hinit, hsent, hwritten⟩ := h
  rw [Outbound.flow, Server.waiting, hwritten, hsent, hinit.queues.2]
  rfl

/-- The connection in a run whose connections start with no write outstanding: what was written and
what is waiting are messages that were sent, in their order. -/
lemma OutboundReached.flow (h : OutboundReached (fun o e => o.StartsIdle n e) o) :
    (o.server.sess n).send.SingleWrite ∧ List.Sublist (o.flow n) (o.sent n) := by
  refine Runs.Reached.invariant (I := fun o => (o.server.sess n).send.SingleWrite ∧
    List.Sublist (o.flow n) (o.sent n)) ?_ ?_ h
  · exact fun o h => ⟨h.singleWrite, by rw [h.flow_eq]⟩
  · intro o e o' hr ⟨hsingle, hflow⟩ hidle hstep
    obtain ⟨hsingle', hstart | ⟨kept, new, hsent, hflow', hkept, -⟩⟩ :=
      hstep.flow (OutboundReached.reachable hr) hsingle hidle
    · exact ⟨hsingle', by rw [hstart]⟩
    · refine ⟨hsingle', ?_⟩
      rw [hsent, hflow']
      exact (hkept.trans hflow).append_right new

/-- The same, when the session drops nothing. -/
lemma OutboundReached.flow_eq
    (h : OutboundReached (fun o e => o.StartsIdle n e ∧ o.DropsNothing n e) o) :
    (o.server.sess n).send.SingleWrite ∧ o.flow n = o.sent n := by
  refine Runs.Reached.invariant (I := fun o => (o.server.sess n).send.SingleWrite ∧
    o.flow n = o.sent n) ?_ ?_ h
  · exact fun o h => ⟨h.singleWrite, h.flow_eq⟩
  · intro o e o' hr ⟨hsingle, hflow⟩ ⟨hidle, hdrops⟩ hstep
    obtain ⟨hsingle', hstart | ⟨kept, new, hsent, hflow', -, hkept⟩⟩ :=
      hstep.flow (OutboundReached.reachable hr) hsingle hidle
    · exact ⟨hsingle', hstart⟩
    · refine ⟨hsingle', ?_⟩
      rw [hsent, hflow', hkept hdrops, hflow]

/-! ### The bytes -/

variable (W : WireFormatLite)

/-- The message can be sent: what it carries can be written, and the size of its packet is an
`int`. -/
def Message.Sendable (message : Message) : Prop :=
  MessageFits W message ∧ packetHeaderSize + message.byteSize < 2 ^ 31

/-- The bytes that a completed write has put on the connection. -/
def Write.bytes (w : Write) : List UInt8 := ((toTyped w.buffer.message).encode W).take w.length

/-- The bytes are whole packets, and a receiver with the generated classes finds the messages. -/
def Receives (bytes : List UInt8) (messages : List Message) : Prop :=
  ∃ packets, packetFraming.split bytes = (packets, []) ∧
    packets.map (TypedMessage.decode? W) = messages.map fun message => some (toTyped message)

variable {W}

lemma receives_written (hW : W.TagSizes) {writes : List Write}
    (hwhole : ∀ w ∈ writes, w = SendQueue.writeOf w.buffer)
    (hfits : ∀ w ∈ writes, w.buffer.message.Sendable W) :
    Receives W (writes.flatMap (·.bytes W)) (writes.map (·.buffer.message)) := by
  have hvalid : ∀ w ∈ writes, (toTyped w.buffer.message).Valid W := by
    intro w hw
    obtain ⟨hfit, hsize⟩ := hfits w hw
    exact valid_toTyped hW hfit (by omega)
  have hbytes : ∀ w ∈ writes, w.bytes W = (toTyped w.buffer.message).encode W := by
    intro w hw
    have hlength : w.length = w.buffer.message.byteSize + packetHeaderSize :=
      congrArg Write.length (hwhole w hw)
    refine List.take_of_length_le ?_
    rw [TypedMessage.length_encode (hvalid w hw), byteSize_toTyped hW (hfits w hw).1, hlength]
  refine ⟨writes.map (·.bytes W), split_frames fun f hf => ?_, ?_⟩
  · obtain ⟨w, hw, rfl⟩ := List.mem_map.1 hf
    rw [hbytes w hw]
    exact TypedMessage.isFrame_encode (hvalid w hw)
  · rw [List.map_map, List.map_map]
    refine List.map_congr_left fun w hw => ?_
    rw [Function.comp_apply, hbytes w hw, TypedMessage.decode?_encode (hvalid w hw)]
    rfl

/-- **What a client receives.**  On a connection that started while no write of the session was
outstanding, the bytes that the server has written are whole packets; the messages in them, and
those that wait in the queue, are messages that handlers have sent on this connection, each at most
once and in their order.  Relays and error reports arrive with the unknown fields of the packet that
they answer. -/
theorem messages_arrive_in_order (hW : W.TagSizes)
    (h : OutboundReached (fun o e => o.StartsIdle n e) o)
    (hfits : ∀ message ∈ o.sent n, message.Sendable W) :
    ∃ messages, Receives W ((o.written n).flatMap (·.bytes W)) messages ∧
      List.Sublist (messages ++ o.server.waiting n) (o.sent n) :=
  ⟨_, receives_written hW (OutboundReached.whole h n) fun _ hw =>
    hfits _ (h.flow.2.subset (List.mem_append_left _ (List.mem_map_of_mem hw))), h.flow.2⟩

/-- A relay with fields that the class does not know, for a user who is not online. -/
def strangeApply : MatchWithFriendsRelay := strangeRelay.toRelay

/-- A client asks whether the server is alive and sends this relay, and the first answer is
written. -/
def askedTwice : List Event :=
  [.acceptDone 0 false, .receive 0 [.errorMsg ⟨lit "alive", []⟩, .playFriendsRel strangeApply],
    .packet ⟨[], [], 0⟩, .packet ⟨[], [], 0⟩, .receiveEnd, .writeDone 0 0]

/-- What the client is sent. -/
def answersToAsked : List Message :=
  [.errorMsg ⟨lit "yes", []⟩, .playFriendsRel (strangeApply.setType .deny)]

/-- A step whose conditions can be evaluated. -/
private def outboundNext (o : Outbound) (e : Event) : Option Outbound :=
  if (e.accepts 0 = true → (o.server.sess 0).send.writes = []) ∧ (o.server.sess 0).stat ≠ .logout
  then (next o.server e).map (o.after e) else none

private lemma exists_askedTwice (ok : Outbound → Event → Prop)
    (hok : ∀ o e, o.StartsIdle 0 e → o.DropsNothing 0 e → ok o e) :
    ∃ o, OutboundReached ok o ∧ o.sent 0 = answersToAsked ∧
      o.server.waiting 0 = [.playFriendsRel (strangeApply.setType .deny)] := by
  have hrun : ((Boot.plain 1 1 (fun _ => none) ⟨[], []⟩).start.bind fun s =>
      (Runs.exec outboundNext ⟨s, fun _ => [], fun _ => []⟩ askedTwice).map fun o =>
        (o.sent 0, o.server.waiting 0)) =
      some (answersToAsked, [.playFriendsRel (strangeApply.setType .deny)]) := by
    decide
  obtain ⟨s, hs, hrun⟩ := Option.bind_eq_some_iff.1 hrun
  obtain ⟨o, ho, heq⟩ := Option.map_eq_some_iff.1 hrun
  obtain ⟨r, hstart⟩ := Boot.run_of_start hs
  refine ⟨o, .of_exec (fun o e o' hnext => ?_) (.start ⟨⟨_, r, hstart⟩, rfl, rfl⟩) ho,
    Prod.mk.inj heq⟩
  obtain ⟨⟨hidle, hstat⟩, hnext⟩ := Option.ite_none_right_eq_some.1 hnext
  obtain ⟨s', hs', rfl⟩ := Option.map_eq_some_iff.1 hnext
  exact ⟨hok o e hidle fun i _ hout => absurd hout hstat, .step (step_of_next hs')⟩

private lemma fits_askedTwice : ∀ message ∈ answersToAsked, message.Sendable .standard :=
  List.forall_mem_cons.2 ⟨⟨fun _ hu => absurd hu List.not_mem_nil, by decide +kernel⟩,
    List.forall_mem_singleton.2 ⟨fits_relay (strangePieces_parsed false), by decide +kernel⟩⟩

theorem messages_arrive_in_order_asked :
    ∃ (o : Outbound) (messages : List Message),
      Receives .standard ((o.written 0).flatMap (·.bytes .standard)) messages ∧
      List.Sublist (messages ++ [.playFriendsRel (strangeApply.setType .deny)])
        answersToAsked := by
  obtain ⟨o, ho, hsent, hwaiting⟩ := exists_askedTwice (fun o e => o.StartsIdle 0 e)
    fun _ _ hidle _ => hidle
  obtain ⟨messages, hreceives, hsub⟩ := messages_arrive_in_order
    WireFormatLite.tagSizes_standard ho (by rw [hsent]; exact fits_askedTwice)
  rw [hsent, hwaiting] at hsub
  exact ⟨o, messages, hreceives, hsub⟩

/-- **No message to a client is lost**, when moreover no write of the session completes in the
status `LOGOUT` while messages wait behind it: what the client has not received is in the queue. -/
theorem messages_arrive (hW : W.TagSizes)
    (h : OutboundReached (fun o e => o.StartsIdle n e ∧ o.DropsNothing n e) o)
    (hfits : ∀ message ∈ o.sent n, message.Sendable W) :
    ∃ messages, Receives W ((o.written n).flatMap (·.bytes W)) messages ∧
      messages ++ o.server.waiting n = o.sent n :=
  ⟨_, receives_written hW (OutboundReached.whole h n) fun _ hw =>
    hfits _ (h.flow_eq.2 ▸ List.mem_append_left _ (List.mem_map_of_mem hw)), h.flow_eq.2⟩

theorem messages_arrive_asked :
    ∃ (o : Outbound) (messages : List Message),
      Receives .standard ((o.written 0).flatMap (·.bytes .standard)) messages ∧
      messages ++ [.playFriendsRel (strangeApply.setType .deny)] = answersToAsked := by
  obtain ⟨o, ho, hsent, hwaiting⟩ := exists_askedTwice
    (fun o e => o.StartsIdle 0 e ∧ o.DropsNothing 0 e) fun _ _ hidle hdrops => ⟨hidle, hdrops⟩
  obtain ⟨messages, hreceives, heq⟩ := messages_arrive WireFormatLite.tagSizes_standard ho
    (by rw [hsent]; exact fits_askedTwice)
  rw [hsent, hwaiting] at heq
  exact ⟨o, messages, hreceives, heq⟩

end Histories

end ChannelServer
