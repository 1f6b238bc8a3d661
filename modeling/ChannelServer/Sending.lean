/-
The send queue of one session.

Seen from one session, a run of the server is a sequence of enqueued messages, of completed
writes and of calls of `session::init`, with arbitrary actions in between that leave its send
queue alone: `SendStep`.  The functions of the source are read off as functions on the
queue, and two invariants are proved of every step:

* `SendQueue.SingleWrite`: the only outstanding write is that of the front message; it
  survives every step but a call of `session::init` while a write is outstanding;
* `SendQueue.Orderly`: the addresses enqueued, started and freed, for one connection.
-/
import Mathlib.Data.List.Nodup
import ChannelServer.ViewStep

namespace ChannelServer

open Resumption

/-! ### The functions of the source on the queue -/

namespace SendQueue

variable {q q' : SendQueue} {b : Buffer}

/-- The write that `wait_send` starts for a message. -/
def writeOf (b : Buffer) : Write := ⟨b, b.size + packetHeaderSize⟩

/-- `wait_send(false, ..)` with the size that all callers pass. -/
def push (b : Buffer) (q : SendQueue) : SendQueue := q.waitSend false (b.size + packetHeaderSize) b

/-- `handle_write` on the queue; undefined for an empty queue. -/
def afterWrite (logout : Bool) (q : SendQueue) : Option SendQueue :=
  q.popFront.map fun q =>
    if logout = true then q.clear
    else
      match q.queue.head? with
      | some data => q.waitSend true (data.size + packetHeaderSize) data
      | none => q

lemma waitSend_of_nil {size : ℕ} (h : q.queue = []) :
    q.waitSend false size b = { q with
      queue := [b]
      enqueued := q.enqueued ++ [b.addr]
      writes := q.writes ++ [⟨b, size⟩]
      started := q.started ++ [b.addr] } := by
  simp [waitSend, h]

lemma waitSend_of_ne_nil {size : ℕ} (h : q.queue ≠ []) :
    q.waitSend false size b =
      { q with queue := q.queue ++ [b], enqueued := q.enqueued ++ [b.addr] } := by
  simp [waitSend, List.length_pos_iff.2 h]

@[simp] lemma queue_push (q : SendQueue) (b : Buffer) : (q.push b).queue = q.queue ++ [b] := by
  by_cases hq : q.queue = []
  · rw [push, waitSend_of_nil hq, hq]
    rfl
  · rw [push, waitSend_of_ne_nil hq]

/-- What `handle_write` does to a queue: the front message leaves it, with all the others in
the status `LOGOUT`, and else the write of the next message is started. -/
lemma afterWrite_cases {logout : Bool} (h : q.afterWrite logout = some q') :
    ∃ c rest, q.queue = c :: rest ∧
      ((rest = [] ∨ logout = true) ∧
          q' = { q with queue := [], freed := q.freed ++ c.addr :: rest.map (·.addr) } ∨
        logout = false ∧ ∃ d rest', rest = d :: rest' ∧
          q' = { q with
            queue := rest
            freed := q.freed ++ [c.addr]
            writes := q.writes ++ [writeOf d]
            started := q.started ++ [d.addr] }) := by
  cases hq : q.queue with
  | nil => simp [afterWrite, popFront, hq] at h
  | cons c rest =>
    refine ⟨c, rest, rfl, ?_⟩
    cases logout with
    | true =>
      refine Or.inl ⟨Or.inr rfl, ?_⟩
      obtain rfl : _ = q' := by simpa [afterWrite, popFront, hq, clear] using h
      rfl
    | false =>
      cases rest with
      | nil =>
        refine Or.inl ⟨Or.inl rfl, ?_⟩
        obtain rfl : _ = q' := by simpa [afterWrite, popFront, hq] using h
        rfl
      | cons d rest =>
        refine Or.inr ⟨rfl, d, rest, rfl, ?_⟩
        obtain rfl : _ = q' := by simpa [afterWrite, popFront, hq, waitSend] using h
        rfl

/-- `handle_write` only fails on an empty queue. -/
lemma afterWrite_isSome (logout : Bool) (h : q.queue ≠ []) :
    ∃ q', q.afterWrite logout = some q' := by
  obtain ⟨c, rest, hq⟩ := List.exists_cons_of_ne_nil h
  simp [afterWrite, popFront, hq]

/-- The write `i` completes: it is no longer outstanding. -/
def removeWrite (i : ℕ) (q : SendQueue) : SendQueue := { q with writes := q.writes.eraseIdx i }

end SendQueue

/-! ### The handlers -/

section Handlers

variable {s s' : Server} {n : SessionId}

/-- The status in which `handle_write` empties the queue. -/
def Session.loggedOut (x : Session) : Bool := decide (x.stat = .logout)

lemma sendMessage_eq_done {message : Message} {u : Unit}
    (h : (sendMessage n message).run s = .done u s') :
    s'.heap = s.heap + 1 ∧ s'.sess = Function.update s.sess n
      { s.sess n with send := (s.sess n).send.push ⟨s.heap, message⟩ } := by
  obtain ⟨-, rfl⟩ := Out.done.inj h
  exact ⟨rfl, rfl⟩

/-- `handle_write` fails on an empty queue, and else changes nothing but the queue. -/
lemma run_handleWrite (n : SessionId) (s : Server) :
    (handleWrite n).run s =
      match (s.sess n).send.afterWrite (s.sess n).loggedOut with
      | none => .failed .emptyDeque
      | some q => .done () (s.setSess n { s.sess n with send := q }) := by
  unfold handleWrite
  cases hq : (s.sess n).send.popFront with
  | none =>
    have hafter : (s.sess n).send.afterWrite (s.sess n).loggedOut = none := by
      simp [SendQueue.afterWrite, hq]
    rw [hafter, Prog.run_bind]
    simp [sendPopFront, Prog.run, hq]
  | some q =>
    have hpop : (sendPopFront n).run s =
        .done () (s.setSess n { s.sess n with send := q }) := by
      simp [sendPopFront, Prog.run, hq]
    rw [Prog.run_bind, hpop, Out.bind_done, Prog.run_bind]
    by_cases hout : (s.sess n).stat = .logout
    · simp [SendQueue.afterWrite, hq, Session.loggedOut, hout, getStatus, getSess, modifySess,
        Server.setSess]
    · -- the front of the queue that is left, if any, is written next
      cases hhead : q.queue.head? <;>
        simp [SendQueue.afterWrite, hq, Session.loggedOut, hout, getStatus, getSess, modifySess,
          waitSend, Server.setSess, hhead]

lemma handleWrite_eq_done {u : Unit} (h : (handleWrite n).run s = .done u s') :
    ∃ q, (s.sess n).send.afterWrite (s.sess n).loggedOut = some q ∧
      s' = s.setSess n { s.sess n with send := q } := by
  rw [run_handleWrite] at h
  cases hq : (s.sess n).send.afterWrite (s.sess n).loggedOut with
  | none =>
    rw [hq] at h
    cases h
  | some q =>
    rw [hq] at h
    obtain ⟨-, rfl⟩ := Out.done.inj h
    exact ⟨q, rfl, rfl⟩

end Handlers

/-! ### The steps of one session -/

/-- The write `i` of the session completes: it is no longer outstanding. -/
def Server.completeWrite (s : Server) (n : SessionId) (i : ℕ) : Server :=
  s.setSess n { s.sess n with send := (s.sess n).send.removeWrite i }

/-- What happens to the send queue of a session: `wait_send` is called with a new message, a
write completes with any result, `session::init` is called, or something else is done. -/
inductive SendEvent
  | send (message : Message)
  | writeDone (i : ℕ)
  | init
  | elsewhere
deriving DecidableEq, Repr

/-- The steps of the server, as one session sees them.  An action elsewhere may set the status
of the session, close its socket, or send a message on another session. -/
inductive SendStep (n : SessionId) (s : Server) : SendEvent → Server → Prop
  | send {message : Message} {s' : Server} (h : (sendMessage n message).run s = .done () s') :
      SendStep n s (.send message) s'
  | writeDone {i : ℕ} {s' : Server} (hi : i < (s.sess n).send.writes.length)
      (h : (handleWrite n).run (s.completeWrite n i) = .done () s') :
      SendStep n s (.writeDone i) s'
  | init {s' : Server} (h : (sessionInit n).run s = .done () s') : SendStep n s .init s'
  | elsewhere {s' : Server} (hsend : (s'.sess n).send = (s.sess n).send)
      (hheap : s.heap ≤ s'.heap) : SendStep n s .elsewhere s'

/-- A step, seen on the queue alone. -/
lemma SendStep.send_cases {n : SessionId} {s s' : Server} {e : SendEvent}
    (h : SendStep n s e s') :
    (∃ message, e = .send message ∧ s'.heap = s.heap + 1 ∧
      (s'.sess n).send = (s.sess n).send.push ⟨s.heap, message⟩) ∨
    (∃ i, e = .writeDone i ∧ i < (s.sess n).send.writes.length ∧ s'.heap = s.heap ∧
      ((s.sess n).send.removeWrite i).afterWrite (s.sess n).loggedOut = some (s'.sess n).send) ∨
    (e = .init ∧ s'.heap = s.heap ∧ (s'.sess n).send = (s.sess n).send.restart) ∨
    (e = .elsewhere ∧ s.heap ≤ s'.heap ∧ (s'.sess n).send = (s.sess n).send) := by
  cases h with
  | @send message s' h =>
    obtain ⟨hheap, hsess⟩ := sendMessage_eq_done h
    refine Or.inl ⟨message, rfl, hheap, ?_⟩
    rw [hsess, Function.update_self]
  | @writeDone i s' hi h =>
    refine Or.inr (Or.inl ⟨i, rfl, hi, ?_⟩)
    obtain ⟨q, hq, rfl⟩ := handleWrite_eq_done h
    have hsess : (s.completeWrite n i).sess n =
        { s.sess n with send := (s.sess n).send.removeWrite i } := by
      simp [Server.completeWrite, Server.setSess]
    rw [hsess] at hq
    refine ⟨rfl, ?_⟩
    simp only [Server.setSess, Function.update_self]
    exact hq
  | init h =>
    obtain ⟨-, rfl⟩ := Out.done.inj h
    exact Or.inr (Or.inr (Or.inl ⟨rfl, rfl, by simp [Server.setSess]⟩))
  | elsewhere hsend hheap => exact Or.inr (Or.inr (Or.inr ⟨rfl, hheap, hsend⟩))

/-! ### The outstanding write -/

namespace SendQueue

variable {q q' : SendQueue} {b : Buffer} {logout : Bool} {i : ℕ}

/-- The only outstanding write is that of the front message. -/
def SingleWrite (q : SendQueue) : Prop := q.writes = (q.queue.head?.map writeOf).toList

lemma SingleWrite.push (h : q.SingleWrite) (b : Buffer) : (q.push b).SingleWrite := by
  unfold SingleWrite at h ⊢
  by_cases hq : q.queue = []
  · rw [SendQueue.push, waitSend_of_nil hq]
    simp [h, hq, writeOf]
  · rw [SendQueue.push, waitSend_of_ne_nil hq]
    obtain ⟨c, rest, hc⟩ := List.exists_cons_of_ne_nil hq
    simp [h, hc]

/-- The write that completes is the one of the front message, and the queue is not empty. -/
lemma SingleWrite.front (h : q.SingleWrite) (hi : i < q.writes.length) :
    ∃ c rest, q.queue = c :: rest ∧ q.writes = [writeOf c] ∧ i = 0 := by
  unfold SingleWrite at h
  cases hq : q.queue with
  | nil =>
    rw [h, hq] at hi
    simp at hi
  | cons c rest =>
    rw [hq] at h
    rw [h] at hi
    simp only [List.head?_cons, Option.map_some, Option.toList_some, List.length_singleton] at hi
    exact ⟨c, rest, rfl, h, by omega⟩

/-- After a completed write, either nothing is left, or the next message is written. -/
lemma SingleWrite.afterWrite (h : q.SingleWrite) (hi : i < q.writes.length)
    (ha : (q.removeWrite i).afterWrite logout = some q') : q'.SingleWrite := by
  obtain ⟨c, rest, hq, hw, rfl⟩ := h.front hi
  obtain ⟨c', rest', hq', ⟨-, rfl⟩ | ⟨-, d, rest'', rfl, rfl⟩⟩ := afterWrite_cases ha
  · simp [SingleWrite, removeWrite, hw]
  · simp [SingleWrite, removeWrite, hw]

/-- With no write outstanding, a queue that starts afresh has none either. -/
lemma SingleWrite.restart (h : q.writes = []) : q.restart.SingleWrite := by
  simp [SingleWrite, SendQueue.restart, clear, h]

/-! ### The histories of one connection -/

/-- The addresses of the messages in the queue. -/
def addrs (q : SendQueue) : List ℕ := q.queue.map (·.addr)

/-- The messages of one connection: those that have left the queue are freed, some of these
were written, and of the messages in the queue only the first one.  No address is used twice. -/
structure Orderly (heap : ℕ) (q : SendQueue) : Prop where
  single : q.SingleWrite
  order : ∃ left sent, q.enqueued = left ++ q.addrs ∧ List.Sublist sent left ∧
    q.started = sent ++ q.addrs.head?.toList ∧ ∀ a ∈ left, a ∈ q.freed
  nodup : (q.freed ++ q.addrs).Nodup
  nodup_enqueued : q.enqueued.Nodup
  below : ∀ a ∈ q.freed ++ q.addrs, a < heap

variable {heap heap' : ℕ}

lemma Orderly.enqueued_subset (h : q.Orderly heap) {a : ℕ} (ha : a ∈ q.enqueued) :
    a ∈ q.freed ++ q.addrs := by
  obtain ⟨left, sent, henq, -, -, hfreed⟩ := h.order
  rw [henq, List.mem_append] at ha
  rcases ha with ha | ha
  · exact List.mem_append_left _ (hfreed a ha)
  · exact List.mem_append_right _ ha

/-- Addresses handed out to other sessions are of no concern. -/
lemma Orderly.mono (h : q.Orderly heap) (hheap : heap ≤ heap') : q.Orderly heap' :=
  ⟨h.single, h.order, h.nodup, h.nodup_enqueued,
    fun a ha => Nat.lt_of_lt_of_le (h.below a ha) hheap⟩

/-- The next free address is new to the queue. -/
lemma Orderly.push (h : q.Orderly heap) (hb : b.addr = heap) : (q.push b).Orderly (heap + 1) := by
  have hnew : b.addr ∉ q.freed ++ q.addrs := fun hmem => by
    have := h.below _ hmem
    omega
  have hnew' : b.addr ∉ q.enqueued := fun hmem => hnew (h.enqueued_subset hmem)
  obtain ⟨left, sent, henq, hsent, hstarted, hfreed⟩ := h.order
  have hfields : (q.push b).freed = q.freed ∧ (q.push b).enqueued = q.enqueued ++ [b.addr] ∧
      (q.push b).addrs = q.addrs ++ [b.addr] := by
    by_cases hq : q.queue = []
    · rw [SendQueue.push, waitSend_of_nil hq]
      simp [addrs, hq]
    · rw [SendQueue.push, waitSend_of_ne_nil hq]
      simp [addrs]
  obtain ⟨hf, he, ha⟩ := hfields
  refine ⟨h.single.push b, ⟨left, sent, ?_, hsent, ?_, ?_⟩, ?_, ?_, ?_⟩
  · rw [he, ha, henq, List.append_assoc]
  · rw [ha]
    by_cases hq : q.queue = []
    · rw [SendQueue.push, waitSend_of_nil hq]
      simp [hstarted, addrs, hq]
    · rw [SendQueue.push, waitSend_of_ne_nil hq]
      obtain ⟨c, rest, hc⟩ := List.exists_cons_of_ne_nil hq
      simp [hstarted, addrs, hc]
  · rw [hf]
    exact hfreed
  · rw [hf, ha, ← List.append_assoc]
    exact List.nodup_append.2 ⟨h.nodup, List.nodup_singleton _, by
      rintro a ha' c hc rfl
      obtain rfl := List.mem_singleton.1 hc
      exact hnew ha'⟩
  · rw [he]
    exact List.nodup_append.2 ⟨h.nodup_enqueued, List.nodup_singleton _, by
      rintro a ha' c hc rfl
      obtain rfl := List.mem_singleton.1 hc
      exact hnew' ha'⟩
  · intro a hmem
    rw [hf, ha, ← List.append_assoc, List.mem_append, List.mem_singleton] at hmem
    rcases hmem with hmem | rfl
    · have := h.below a hmem
      omega
    · omega

/-- What leaves the queue is freed, and only the next message is written. -/
lemma Orderly.afterWrite (h : q.Orderly heap) (hi : i < q.writes.length)
    (ha : (q.removeWrite i).afterWrite logout = some q') : q'.Orderly heap := by
  have hsingle := h.single.afterWrite hi ha
  obtain ⟨left, sent, henq, hsent, hstarted, hfreed⟩ := h.order
  obtain ⟨c, rest, hq, hcases⟩ := afterWrite_cases ha
  have hq : q.queue = c :: rest := hq
  have haddrs : q.addrs = c.addr :: rest.map (·.addr) := by simp [addrs, hq]
  have hnodup := h.nodup
  have hbelow := h.below
  rw [haddrs] at henq hstarted hnodup hbelow
  have hfreed' : ∀ gone, ∀ a ∈ left ++ gone, a ∈ q.freed ++ gone := by
    intro gone a hmem
    rcases List.mem_append.1 hmem with hmem | hmem
    · exact List.mem_append_left _ (hfreed a hmem)
    · exact List.mem_append_right _ hmem
  rcases hcases with ⟨-, rfl⟩ | ⟨-, d, rest', rfl, rfl⟩
  · refine ⟨hsingle, ⟨left ++ c.addr :: rest.map (·.addr), sent ++ [c.addr], ?_, ?_, ?_, ?_⟩,
      ?_, h.nodup_enqueued, ?_⟩
    · simpa [addrs, removeWrite] using henq
    · exact hsent.append (List.singleton_sublist.2 List.mem_cons_self)
    · simpa [addrs, removeWrite] using hstarted
    · exact hfreed' _
    · simpa [addrs, removeWrite] using hnodup
    · simpa [addrs, removeWrite] using hbelow
  · refine ⟨hsingle, ⟨left ++ [c.addr], sent ++ [c.addr], ?_, ?_, ?_, ?_⟩,
      ?_, h.nodup_enqueued, ?_⟩
    · simpa [addrs, removeWrite] using henq
    · exact hsent.append (List.Sublist.refl _)
    · simp [addrs, removeWrite, hstarted]
    · exact hfreed' _
    · simpa [addrs, removeWrite] using hnodup
    · simpa [addrs, removeWrite] using hbelow

end SendQueue

/-! ### Runs -/

section Runs

variable {n : SessionId} {s : Server}

/-- A connection that was just initialised: nothing is enqueued, no write is outstanding, and
the buffers of the connections before it are freed. -/
structure FreshConnection (n : SessionId) (s : Server) : Prop where
  queue : (s.sess n).send.queue = []
  writes : (s.sess n).send.writes = []
  enqueued : (s.sess n).send.enqueued = []
  started : (s.sess n).send.started = []
  nodup_freed : (s.sess n).send.freed.Nodup
  freed_below : ∀ a ∈ (s.sess n).send.freed, a < s.heap

/-- The states reached from a fresh connection, by steps that meet a condition. -/
abbrev SendReached (n : SessionId) (ok : Server → SendEvent → Prop) : Server → Prop :=
  Runs.Reached (FreshConnection n) (SendStep n) ok

/-- While one connection lasts, its queue stays orderly. -/
theorem SendReached.orderly (h : SendReached n (fun _ e => e ≠ .init) s) :
    (s.sess n).send.Orderly s.heap := by
  refine Runs.Reached.invariant (I := fun s => (s.sess n).send.Orderly s.heap) ?_ ?_ h
  · intro s h
    refine ⟨?_, ⟨[], [], ?_, List.Sublist.refl _, ?_, by simp⟩, ?_, ?_, ?_⟩
    · simp [SendQueue.SingleWrite, h.queue, h.writes]
    · simp [SendQueue.addrs, h.queue, h.enqueued]
    · simp [SendQueue.addrs, h.queue, h.started]
    · simpa [SendQueue.addrs, h.queue] using h.nodup_freed
    · simp [h.enqueued]
    · simpa [SendQueue.addrs, h.queue] using h.freed_below
  · intro s e s' _ hs hinit hstep
    rcases hstep.send_cases with ⟨message, -, hheap, hsend⟩ | ⟨i, -, hi, hheap, hsend⟩ |
      ⟨rfl, -, -⟩ | ⟨-, hheap, hsend⟩
    · rw [hheap, hsend]
      exact hs.push rfl
    · rw [hheap]
      exact hs.afterWrite hi hsend
    · exact absurd rfl hinit
    · rw [hsend]
      exact hs.mono hheap

/-- When a session is only accepted while none of its writes is outstanding, the outstanding
write is always that of the front message. -/
theorem SendReached.singleWrite
    (h : SendReached n (fun s e => e = .init → (s.sess n).send.writes = []) s) :
    (s.sess n).send.SingleWrite := by
  refine Runs.Reached.invariant (I := fun s => (s.sess n).send.SingleWrite) ?_ ?_ h
  · intro s h
    simp [SendQueue.SingleWrite, h.queue, h.writes]
  · intro s e s' _ hs hinit hstep
    rcases hstep.send_cases with ⟨message, -, -, hsend⟩ | ⟨i, -, hi, -, hsend⟩ |
      ⟨he, -, hsend⟩ | ⟨-, -, hsend⟩
    · rw [hsend]
      exact hs.push _
    · exact hs.afterWrite hi hsend
    · rw [hsend]
      exact SendQueue.SingleWrite.restart (hinit he)
    · rw [hsend]
      exact hs

/-- What the queue of one connection looks like from outside. -/
structure SendQueue.InOrder (q : SendQueue) : Prop where
  nonempty_iff : q.queue ≠ [] ↔ q.writes.length = 1
  at_most_one : q.writes.length ≤ 1
  front : ∀ w ∈ q.writes, ∃ b rest, q.queue = b :: rest ∧ w = ⟨b, b.size + packetHeaderSize⟩
  started_sublist : List.Sublist q.started q.enqueued
  started_once : q.started.Nodup
  freed_once : q.freed.Nodup
  queued : ∀ b ∈ q.queue, b.addr ∉ q.freed
  outstanding : ∀ w ∈ q.writes, w.buffer.addr ∉ q.freed
  left : ∀ a ∈ q.enqueued, a ∉ q.queue.map (·.addr) → a ∈ q.freed

lemma SendQueue.Orderly.inOrder {q : SendQueue} {heap : ℕ} (h : q.Orderly heap) : q.InOrder := by
  obtain ⟨left, sent, henq, hsent, hstarted, -⟩ := h.order
  obtain ⟨hfreed, -, hdisjoint⟩ := List.nodup_append.1 h.nodup
  have hsub : List.Sublist q.started q.enqueued := by
    rw [hstarted, henq]
    refine hsent.append ?_
    cases q.addrs with
    | nil => exact List.Sublist.refl _
    | cons a rest => exact List.singleton_sublist.2 List.mem_cons_self
  have hqueued : ∀ b ∈ q.queue, b.addr ∉ q.freed := fun b hb hmem =>
    hdisjoint _ hmem _ (List.mem_map_of_mem hb) rfl
  have hwrites : q.writes = (q.queue.head?.map SendQueue.writeOf).toList := h.single
  have hfront : ∀ w ∈ q.writes,
      ∃ b rest, q.queue = b :: rest ∧ w = ⟨b, b.size + packetHeaderSize⟩ := by
    intro w hw
    obtain ⟨i, hi, rfl⟩ := List.mem_iff_getElem.1 hw
    obtain ⟨b, rest, hq, hb, rfl⟩ := h.single.front hi
    exact ⟨b, rest, hq, by simp [hb, SendQueue.writeOf]⟩
  refine ⟨?_, ?_, hfront, hsub, h.nodup_enqueued.sublist hsub, hfreed, hqueued, ?_, ?_⟩
  · rw [hwrites]
    cases q.queue <;> simp
  · rw [hwrites]
    cases q.queue <;> simp
  · intro w hw
    obtain ⟨b, rest, hq, rfl⟩ := hfront w hw
    exact hqueued b (by simp [hq])
  · intro a ha hleft
    exact (List.mem_append.1 (h.enqueued_subset ha)).resolve_right hleft

/-- **Order and single write.**  On one connection a write is outstanding exactly when the
queue is not empty, namely that of the front message; the messages are written in the order
in which they were enqueued, and each of them is freed once, when it has left the queue. -/
theorem send_queue_in_order (h : SendReached n (fun _ e => e ≠ .init) s) :
    (s.sess n).send.InOrder := h.orderly.inOrder

/-- The sessions that the server creates have fresh connections. -/
lemma FreshConnection.boot (b : Boot) (n : SessionId) : FreshConnection n b.init :=
  ⟨rfl, rfl, rfl, rfl, List.nodup_nil, by rintro a ⟨⟩⟩

/-- Two messages are sent, the first write completes, and the second one is started. -/
theorem send_queue_in_order_two :
    ∃ s, SendReached 0 (fun _ e => e ≠ .init) s ∧ (s.sess 0).send.enqueued = [0, 1] ∧
      (s.sess 0).send.started = [0, 1] ∧ (s.sess 0).send.freed = [0] ∧
      (s.sess 0).send.InOrder := by
  have h₀ : SendReached 0 (fun _ e => e ≠ .init) (Boot.plain 1 1 (fun _ => none) ⟨[], []⟩).init :=
    .start (FreshConnection.boot _ _)
  have h₁ := h₀.step (e := .send .logoutAns) (by simp) (.send rfl)
  have h₂ := h₁.step (e := .send .logoutAns) (by simp) (.send rfl)
  have h₃ := h₂.step (e := .writeDone 0) (by simp) (.writeDone (by decide) rfl)
  exact ⟨_, h₃, by decide, by decide, by decide, send_queue_in_order h₃⟩

/-- **A completed write removes its own message**, in runs that only initialise a session while
none of its writes is outstanding: the queue is not empty, its front message is the one that
was written, and `handle_write` returns; unless the session is logged out with more messages
waiting, it removes this message and no other. -/
theorem completed_write_removes_front
    (h : SendReached n (fun s e => e = .init → (s.sess n).send.writes = []) s) {i : ℕ} {w : Write}
    (hw : (s.sess n).send.writes[i]? = some w) :
    ∃ rest s', (s.sess n).send.queue = w.buffer :: rest ∧ SendStep n s (.writeDone i) s' ∧
      ((s.sess n).stat ≠ .logout ∨ rest = [] →
        (s'.sess n).send.queue = rest ∧
          (s'.sess n).send.freed = (s.sess n).send.freed ++ [w.buffer.addr]) := by
  obtain ⟨hi, hget⟩ := List.getElem?_eq_some_iff.1 hw
  obtain ⟨c, rest, hq, hwrites, rfl⟩ := h.singleWrite.front hi
  have hwc : w = SendQueue.writeOf c := by
    simpa [hwrites] using hget.symm
  have hne : ((s.sess n).send.removeWrite 0).queue ≠ [] := by simp [SendQueue.removeWrite, hq]
  obtain ⟨q', hafter⟩ := SendQueue.afterWrite_isSome (s.sess n).loggedOut hne
  have hstep : SendStep n s (.writeDone 0)
      ((s.completeWrite n 0).setSess n { (s.completeWrite n 0).sess n with send := q' }) := by
    refine .writeDone hi ?_
    have hafter' : ((s.completeWrite n 0).sess n).send.afterWrite
        ((s.completeWrite n 0).sess n).loggedOut = some q' := by
      simpa [Server.completeWrite, Server.setSess, Session.loggedOut] using hafter
    rw [run_handleWrite, hafter']
  refine ⟨rest, _, by rw [hwc]; exact hq, hstep, fun hcase => ?_⟩
  have hsend : (((s.completeWrite n 0).setSess n
      { (s.completeWrite n 0).sess n with send := q' }).sess n).send = q' := by
    simp [Server.setSess]
  rw [hsend, hwc]
  obtain ⟨c', rest', hq', ⟨hnone, rfl⟩ | ⟨-, d, rest'', rfl, rfl⟩⟩ :=
    SendQueue.afterWrite_cases hafter
  · obtain ⟨rfl, rfl⟩ := List.cons.inj (hq.symm.trans hq')
    obtain rfl : rest = [] := by
      rcases hnone with hnone | hlogout
      · exact hnone
      · exact hcase.resolve_left (not_not.2 (of_decide_eq_true hlogout))
    exact ⟨rfl, rfl⟩
  · obtain ⟨rfl, rfl⟩ := List.cons.inj (hq.symm.trans hq')
    exact ⟨rfl, rfl⟩

/-- A message is sent, its write completes, the session is accepted again, and another message
is sent: its write removes it. -/
theorem completed_write_removes_front_after_init :
    ∃ s, SendReached 0 (fun s e => e = .init → (s.sess 0).send.writes = []) s ∧
      (s.sess 0).stat ≠ .logout ∧
      ∃ w, (s.sess 0).send.writes[0]? = some w ∧
      ∃ rest s', (s.sess 0).send.queue = w.buffer :: rest ∧ SendStep 0 s (.writeDone 0) s' ∧
        ((s.sess 0).stat ≠ .logout ∨ rest = [] →
          (s'.sess 0).send.queue = rest ∧
            (s'.sess 0).send.freed = (s.sess 0).send.freed ++ [w.buffer.addr]) := by
  have h₀ : SendReached 0 (fun s e => e = .init → (s.sess 0).send.writes = [])
      (Boot.plain 1 1 (fun _ => none) ⟨[], []⟩).init := .start (FreshConnection.boot _ _)
  have h₁ := h₀.step (e := .send .logoutAns) (by simp) (.send rfl)
  have h₂ := h₁.step (e := .writeDone 0) (by simp) (.writeDone (by decide) rfl)
  have h₃ := h₂.step (e := .init) (fun _ => by decide) (.init rfl)
  have h₄ := h₃.step (e := .send .logoutAns) (by simp) (.send rfl)
  exact ⟨_, h₄, by decide, _, rfl, completed_write_removes_front h₄ rfl⟩

end Runs

/-! ### A session that is accepted again -/

/-- The client of session 0 is refused and disconnects before the answer is written, and the
session is accepted again. -/
def acceptedAgain : List Event :=
  [.acceptDone 0 false, .receive 0 [.joinReq ⟨[], []⟩], .packet ⟨[], [], 1⟩, .receiveEnd,
    .receiveError 0 true .eof, .acceptDone 1 false, .acceptDone 0 false]

/-- The write of the previous connection completes on the empty queue of the next one; or it
removes a message of the next one, whose own write is outstanding. -/
theorem stale_write_on_new_connection :
    (∃ s, Reachable s ∧ outcome s (.writeDone 0 0) = some (.failed .emptyDeque)) ∧
    ∃ s s' w, Reachable s ∧ (s.sess 0).send.writes[0]? = some w ∧ Step s (.writeDone 0 0) s' ∧
      w.buffer.addr ∉ (s.sess 0).send.queue.map (·.addr) ∧
      ∃ w' ∈ (s'.sess 0).send.writes, w'.buffer.addr ∈ (s'.sess 0).send.freed := by
  have hempty : ((run (Boot.plain 2 1 (fun _ => none) ⟨[], []⟩) acceptedAgain).map fun s =>
      (outcome s (.writeDone 0 0)).bind Out.failure) = some (some .emptyDeque) := by decide
  have hother : ((run (Boot.plain 2 1 (fun _ => none) ⟨[], []⟩) (acceptedAgain ++
      [.receive 0 [.errorMsg ⟨lit "alive", []⟩], .packet ⟨[], [], 1⟩, .receiveEnd])).map fun s =>
      ((s.sess 0).send.writes.map (·.buffer.addr), (s.sess 0).send.queue.map (·.addr),
        (next s (.writeDone 0 0)).map fun s' =>
          ((s'.sess 0).send.writes.map (·.buffer.addr), (s'.sess 0).send.freed))) =
      some ([0, 1], [1], some ([1], [0, 1])) := by decide
  constructor
  · obtain ⟨s, hs, heq⟩ := Option.map_eq_some_iff.1 hempty
    obtain ⟨o, ho, hfailure⟩ := Option.bind_eq_some_iff.1 heq
    exact ⟨s, reachable_of_run hs, by rw [ho, Out.failure_eq_some.1 hfailure]⟩
  · obtain ⟨s, hs, heq⟩ := Option.map_eq_some_iff.1 hother
    simp only [Prod.mk.injEq] at heq
    obtain ⟨hwrites, hqueue, hnext⟩ := heq
    obtain ⟨s', hs', heq'⟩ := Option.map_eq_some_iff.1 hnext
    obtain ⟨hwrites', hfreed⟩ := Prod.mk.inj heq'
    have hlen : 0 < (s.sess 0).send.writes.length := by
      rw [← List.length_map (f := (·.buffer.addr)), hwrites]
      decide
    have haddr : ((s.sess 0).send.writes[0]).buffer.addr = 0 := by
      have := congrArg (·[0]?) hwrites
      simpa [List.getElem?_map, hlen] using this
    have hmem : 1 ∈ (s'.sess 0).send.writes.map (·.buffer.addr) := by simp [hwrites']
    obtain ⟨w', hw', haddr'⟩ := List.mem_map.1 hmem
    refine ⟨s, s', _, reachable_of_run hs, List.getElem?_eq_getElem hlen, step_of_next hs', ?_,
      w', hw', ?_⟩
    · rw [haddr, hqueue]
      decide
    · rw [haddr', hfreed]
      decide

end ChannelServer
