/-
The message buffers over whole runs.

`incode_message` allocates a buffer for each message, `wait_send` puts it into the queue of a
session, and what leaves a queue is freed.  `ChannelServer/Sending.lean` follows one queue; here a
step of the server is seen on all queues at once.  `Step.queues` says it all: a step first does to
each queue what its event does to it, a `QueueStep`, and then pushes the buffers that it allocates,
each to one queue.

The main result is `buffers_accounted`: every buffer is in one queue, or was freed once.
-/
import Mathlib.Data.List.Range
import ChannelServer.Responses
import ChannelServer.Users

namespace ChannelServer

open Resumption

/-! ### Buffers of one queue -/

namespace SendQueue

variable {q q' : SendQueue} {b : Buffer}

/-- The addresses for which a session answers: those it has freed, and those in its queue. -/
def owned (q : SendQueue) : List ℕ := q.freed ++ q.addrs

/-- The buffers are enqueued one after the other. -/
def pushAll (q : SendQueue) (bs : List Buffer) : SendQueue := bs.foldl (fun q b => q.push b) q

/-- Every outstanding write is that of a buffer as a whole. -/
def Whole (q : SendQueue) : Prop := ∀ w ∈ q.writes, w = writeOf w.buffer

@[simp] lemma pushAll_nil (q : SendQueue) : q.pushAll [] = q := rfl

@[simp] lemma pushAll_cons (q : SendQueue) (b : Buffer) (bs : List Buffer) :
    q.pushAll (b :: bs) = (q.push b).pushAll bs := rfl

lemma pushAll_append (q : SendQueue) (bs cs : List Buffer) :
    q.pushAll (bs ++ cs) = (q.pushAll bs).pushAll cs := List.foldl_append

/-- What every push preserves, also a sequence of them does. -/
lemma pushAll_induction {P : SendQueue → Prop} (hpush : ∀ q b, P q → P (q.push b)) (hq : P q)
    (bs : List Buffer) : P (q.pushAll bs) := by
  induction bs generalizing q with
  | nil => exact hq
  | cons b bs ih => exact ih (hpush q b hq)

lemma queue_pushAll (q : SendQueue) (bs : List Buffer) : (q.pushAll bs).queue = q.queue ++ bs := by
  induction bs generalizing q with
  | nil => simp
  | cons b bs ih => rw [pushAll_cons, ih, queue_push, List.append_assoc, List.singleton_append]

@[simp] lemma freed_push (q : SendQueue) (b : Buffer) : (q.push b).freed = q.freed := by
  by_cases hq : q.queue = []
  · rw [push, waitSend_of_nil hq]
  · rw [push, waitSend_of_ne_nil hq]

lemma owned_pushAll (q : SendQueue) (bs : List Buffer) :
    (q.pushAll bs).owned = q.owned ++ bs.map (·.addr) := by
  have hfreed : (q.pushAll bs).freed = q.freed :=
    pushAll_induction (P := fun p => p.freed = q.freed)
      (fun p b hp => (freed_push p b).trans hp) rfl bs
  rw [owned, owned, addrs, addrs, hfreed, queue_pushAll, List.map_append, List.append_assoc]

/-- A buffer that leaves the queue is freed. -/
lemma owned_afterWrite {logout : Bool} (h : q.afterWrite logout = some q') :
    q'.owned = q.owned := by
  obtain ⟨c, rest, hq, ⟨-, rfl⟩ | ⟨-, d, rest', rfl, rfl⟩⟩ := afterWrite_cases h
  · simp [owned, addrs, hq]
  · simp [owned, addrs, hq]

lemma owned_restart (q : SendQueue) : q.restart.owned = q.owned := by
  simp [owned, addrs, restart, clear]

lemma Whole.push (h : q.Whole) (b : Buffer) : (q.push b).Whole := by
  by_cases hq : q.queue = []
  · rw [SendQueue.push, waitSend_of_nil hq]
    intro w hw
    rcases List.mem_append.1 hw with hw | hw
    · exact h w hw
    · rw [List.mem_singleton.1 hw]
      rfl
  · rw [SendQueue.push, waitSend_of_ne_nil hq]
    exact h

lemma Whole.removeWrite (h : q.Whole) (i : ℕ) : (q.removeWrite i).Whole :=
  fun w hw => h w (List.mem_of_mem_eraseIdx hw)

lemma Whole.afterWrite {logout : Bool} (h : q.Whole) (ha : q.afterWrite logout = some q') :
    q'.Whole := by
  obtain ⟨c, rest, hq, ⟨-, rfl⟩ | ⟨-, d, rest', rfl, rfl⟩⟩ := afterWrite_cases ha
  · exact h
  · intro w hw
    rcases List.mem_append.1 hw with hw | hw
    · exact h w hw
    · rw [List.mem_singleton.1 hw]
      rfl

end SendQueue

/-! ### Messages that are posted -/

/-- The buffers for one session. -/
def postsTo (n : SessionId) (posts : List (SessionId × Buffer)) : List Buffer :=
  (posts.filter (·.1 = n)).map (·.2)

lemma postsTo_append (n : SessionId) (posts posts' : List (SessionId × Buffer)) :
    postsTo n (posts ++ posts') = postsTo n posts ++ postsTo n posts' := by
  simp [postsTo]

lemma mem_postsTo {n : SessionId} {posts : List (SessionId × Buffer)} {b : Buffer} :
    b ∈ postsTo n posts ↔ (n, b) ∈ posts := by
  simp [postsTo]

/-- The buffers are the next ones to be allocated. -/
structure Allocates (posts : List (SessionId × Buffer)) (s s' : Server) : Prop where
  addrs : posts.map (·.2.addr) = List.range' s.heap posts.length
  heap : s'.heap = s.heap + posts.length

/-- The next buffers are allocated, and enqueued. -/
structure Posts (posts : List (SessionId × Buffer)) (s s' : Server) : Prop
    extends Allocates posts s s' where
  send : ∀ n, (s'.sess n).send = (s.sess n).send.pushAll (postsTo n posts)

/-- Nothing happens to the queues but that messages are enqueued. -/
def Posted (s s' : Server) : Prop := ∃ posts, Posts posts s s'

section Posts

variable {s s' t : Server} {posts posts' : List (SessionId × Buffer)}

lemma Allocates.mem_addrs (h : Allocates posts s s') {a : ℕ} :
    (∃ p ∈ posts, p.2.addr = a) ↔ s.heap ≤ a ∧ a < s'.heap := by
  rw [h.heap, ← List.mem_range'_1, ← h.addrs, List.mem_map]

lemma Allocates.nodup (h : Allocates posts s s') : (posts.map (·.2.addr)).Nodup := by
  rw [h.addrs]
  exact List.nodup_range'

lemma Posts.of_keeps (h : KeepsBuffers s s') : Posts [] s s' := ⟨⟨rfl, h.heap⟩, h.send⟩

lemma Posts.trans (h : Posts posts s t) (h' : Posts posts' t s') :
    Posts (posts ++ posts') s s' := by
  refine ⟨⟨?_, ?_⟩, fun n => ?_⟩
  · rw [List.map_append, h.addrs, h'.addrs, h.heap, List.length_append, List.range'_append_1]
  · rw [h'.heap, h.heap, List.length_append, Nat.add_assoc]
  · rw [h'.send, h.send, postsTo_append, SendQueue.pushAll_append]

lemma Posts.sent (s : Server) (n : SessionId) (message : Message) :
    Posts [(n, ⟨s.heap, message⟩)] s (s.sent n message) := by
  refine ⟨⟨rfl, rfl⟩, fun k => ?_⟩
  by_cases hk : k = n
  · subst hk
    have hpush : postsTo k [(k, ⟨s.heap, message⟩)] = [⟨s.heap, message⟩] := by simp [postsTo]
    rw [hpush]
    simp [Server.sent, Server.setSess, SendQueue.push, Buffer.size]
  · have hnone : postsTo k [(n, ⟨s.heap, message⟩)] = [] := by simp [postsTo, Ne.symm hk]
    rw [hnone]
    simp [Server.sent, Server.setSess, hk]

/-! ### The handlers -/

lemma postedRules : UnitRules fun _ p => p.Along Posted :=
  .of_kept (fun _ _ _ ⟨_, h⟩ ⟨_, h'⟩ => ⟨_, h.trans h'⟩) (fun _ _ _ h => ⟨_, .of_keeps h⟩)
    fun s n message => ⟨_, .sent s n message⟩

lemma posted_modify {f : Server → Server} (h : ∀ s, KeepsBuffers s (f s)) :
    (Prog.modify f : Handler Unit).Along Posted := by
  intro s u s' hs
  obtain ⟨-, rfl⟩ := Out.done.inj hs
  exact ⟨_, .of_keeps (h s)⟩

lemma posted_modifySess (n : SessionId) {f : Session → Session} (h : ∀ x, (f x).send = x.send) :
    (modifySess n f).Along Posted := posted_modify fun _ => .setSess (h _)

lemma posted_mark (m : Server → Mark) : (mark m).Along Posted :=
  posted_modify fun _ => .of_eq rfl rfl

lemma posted_makeMatchingAndSendComplete (a b : SessionId) :
    (makeMatchingAndSendComplete a b).Along Posted := by
  refine acts_makeMatchingAndSendComplete postedRules a b (Prog.along_act fun s u t h => ?_)
    fun key => posted_mark _
  split at h
  · cases h
  · obtain ⟨-, rfl⟩ := Res.ok.inj h
    exact ⟨_, .of_keeps (.of_eq rfl rfl)⟩

lemma posted_processPacket (n : SessionId) (p : Packet) : (processPacket n p).Along Posted :=
  acts_dispatch postedRules
    (fun message _ => acts_processFriendsFunction postedRules n message fun _ _ =>
      posted_modifySess n fun _ => rfl)
    (fun message _ => acts_lobbyLoginProcess postedRules n message fun token id =>
      acts_loginAs postedRules n token id (fun _ => posted_modifySess n fun _ => rfl)
        (fun _ _ _ _ => posted_modifySess n fun _ => rfl) (posted_mark _))
    posted_makeMatchingAndSendComplete

/-- `handle_accept` frees what the connection before has left behind. -/
lemma posted_handleAccept {n : SessionId} {u : Unit}
    (h : (handleAccept n false).run s = .done u s') :
    ∃ t, t.heap = s.heap ∧ (t.sess n).send = (s.sess n).send.restart ∧
      (∀ k, k ≠ n → (t.sess k).send = (s.sess k).send) ∧ Posted t s' := by
  have hrest : (do
      waitReceive n
      setStatus n .conn
      connectionOpened n
      let _ ← waitAccept : Handler Unit).Along Posted :=
    postedRules.bind (acts_waitReceive postedRules n) fun _ =>
    postedRules.bind (posted_modifySess n fun _ => rfl) fun _ =>
    postedRules.bind (posted_modify fun _ => .of_eq rfl rfl) fun _ =>
    postedRules.bind (acts_waitAccept postedRules) fun _ => postedRules.pure _
  obtain ⟨_, s₁, h₁, h⟩ := Prog.run_bind_eq_done.1 h
  obtain ⟨-, rfl⟩ := Out.done.inj h₁
  obtain ⟨_, s₂, h₂, h⟩ := Prog.run_bind_eq_done.1 h
  obtain ⟨-, rfl⟩ := Out.done.inj h₂
  refine ⟨_, ?_, ?_, fun k hk => ?_, hrest _ _ _ h⟩
  · rfl
  · simp [Server.setSess]
  · simp [Server.setSess, hk]

end Posts

/-! ### One step -/

/-- What an event does to the queue of a session, before messages are enqueued. -/
inductive QueueStep (n : SessionId) (s : Server) : Event → SendQueue → Prop
  | accepted : QueueStep n s (.acceptDone n false) (s.sess n).send.restart
  | written {i : ℕ} {q : SendQueue} (hi : i < (s.sess n).send.writes.length)
      (h : ((s.sess n).send.removeWrite i).afterWrite (s.sess n).loggedOut = some q) :
      QueueStep n s (.writeDone n i) q
  | kept {e : Event} (haccept : e ≠ .acceptDone n false) (hwrite : ∀ i, e ≠ .writeDone n i) :
      QueueStep n s e (s.sess n).send

lemma heap_of_prepare {s t : Server} {e : Event} (h : prepare s e = some t) : t.heap = s.heap := by
  cases e with
  | startAccept | receive _ _ | receiveError _ _ _ | acceptDone _ _ | timer _ _ _ | writeDone _ _ =>
    obtain ⟨-, ht⟩ := Option.ite_none_right_eq_some.1 h
    obtain rfl := Option.some.inj ht
    rfl
  | packet _ | receiveEnd =>
    simp only [prepare] at h
    split at h
    · obtain rfl := Option.some.inj h
      rfl
    · cases h
  | world _ _ =>
    obtain rfl := Option.some.inj h
    rfl

/-- The handlers of the other events only enqueue messages. -/
lemma posted_handler (s : Server) {e : Event} (haccept : ∀ n, e ≠ .acceptDone n false)
    (hwrite : ∀ n i, e ≠ .writeDone n i) : (handler s e).Along Posted := by
  cases e with
  | startAccept => exact postedRules.bind (acts_waitAccept postedRules) fun _ => postedRules.pure _
  | acceptDone n error =>
    cases error with
    | false => exact absurd rfl (haccept n)
    | true => exact postedRules.pure _
  | receive _ _ | world _ _ => exact postedRules.pure _
  | packet _ =>
    simp only [handler]
    split
    · exact posted_processPacket _ _
    · exact postedRules.pure _
  | receiveEnd =>
    simp only [handler]
    split
    · exact acts_waitReceive postedRules _
    · exact postedRules.pure _
  | receiveError n _ error => exact acts_handleReceiveError postedRules n error
  | timer n _ _ => exact acts_rematch postedRules posted_makeMatchingAndSendComplete n
  | writeDone n i => exact absurd rfl (hwrite n i)

/-- **The queues after a step**: the step allocates the next buffers, and each of them goes to one
queue, behind what the event left there. -/
theorem Step.queues {s s' : Server} {e : Event} (h : Step s e s') :
    ∃ posts, Allocates posts s s' ∧
      ∀ n, ∃ q, QueueStep n s e q ∧ (s'.sess n).send = q.pushAll (postsTo n posts) := by
  obtain ⟨t, hprep, hrun⟩ := step_iff.1 h
  have hheap := heap_of_prepare hprep
  by_cases hwrite : ∀ n i, e ≠ .writeDone n i
  · have hsend := send_of_prepare hprep hwrite
    by_cases haccept : ∀ n, e ≠ .acceptDone n false
    · obtain ⟨posts, hposts⟩ := posted_handler s haccept hwrite _ _ _ hrun
      refine ⟨posts, ⟨hheap ▸ hposts.addrs, hheap ▸ hposts.heap⟩, fun n =>
        ⟨_, .kept (haccept n) (hwrite n), ?_⟩⟩
      rw [hposts.send, hsend]
    · simp only [not_forall, not_not] at haccept
      obtain ⟨k, rfl⟩ := haccept
      obtain ⟨u, hheap', hk, hothers, posts, hposts⟩ := posted_handleAccept hrun
      have hheap := hheap'.trans hheap
      refine ⟨posts, ⟨hheap ▸ hposts.addrs, hheap ▸ hposts.heap⟩, fun n => ?_⟩
      by_cases hn : n = k
      · subst hn
        refine ⟨_, .accepted, ?_⟩
        rw [hposts.send, hk, hsend]
      · refine ⟨_, .kept (by simp [Ne.symm hn]) (hwrite n), ?_⟩
        rw [hposts.send, hothers n hn, hsend]
  · simp only [not_forall, not_not] at hwrite
    obtain ⟨k, i, rfl⟩ := hwrite
    obtain ⟨⟨-, hi⟩, ht⟩ := Option.ite_none_right_eq_some.1 hprep
    obtain rfl := Option.some.inj ht
    have hstep : SendStep k s (.writeDone i) s' := .writeDone hi hrun
    obtain ⟨q, -, rfl⟩ := handleWrite_eq_done hrun
    refine ⟨[], ⟨rfl, rfl⟩, fun n => ?_⟩
    by_cases hn : n = k
    · subst hn
      rcases hstep.send_cases with ⟨_, he, -⟩ | ⟨j, he, -, -, hsend⟩ | ⟨he, -⟩ | ⟨he, -⟩ <;>
        cases he
      exact ⟨_, .written hi hsend, rfl⟩
    · refine ⟨_, .kept (by simp) (by simp [Ne.symm hn]), ?_⟩
      simp [Server.setSess, hn, postsTo]

lemma QueueStep.owned_eq {n : SessionId} {s : Server} {e : Event} {q : SendQueue}
    (h : QueueStep n s e q) : q.owned = (s.sess n).send.owned := by
  cases h with
  | accepted => exact SendQueue.owned_restart _
  | @written i _ _ h => exact (SendQueue.owned_afterWrite h).trans rfl
  | kept _ _ => rfl

lemma QueueStep.whole {n : SessionId} {s : Server} {e : Event} {q : SendQueue}
    (h : QueueStep n s e q) (hs : (s.sess n).send.Whole) : q.Whole := by
  cases h with
  | accepted => exact hs
  | @written i _ _ h => exact (hs.removeWrite i).afterWrite h
  | kept _ _ => exact hs

/-! ### Runs -/

/-- Every buffer that was allocated belongs to one session, and to that one once. -/
structure Server.Accounted (s : Server) : Prop where
  nodup : ∀ n, (s.sess n).send.owned.Nodup
  allocated : ∀ a, a < s.heap ↔ ∃ n, a ∈ (s.sess n).send.owned
  unique : ∀ m n a, a ∈ (s.sess m).send.owned → a ∈ (s.sess n).send.owned → m = n

variable {s s' : Server}

/-- When a session answers for what it answered for, and for the buffers that are posted to it. -/
lemma Allocates.accounted {posts : List (SessionId × Buffer)} (h : Allocates posts s s')
    (howned : ∀ n, (s'.sess n).send.owned =
      (s.sess n).send.owned ++ (postsTo n posts).map (·.addr)) (hs : s.Accounted) :
    s'.Accounted := by
  have hnew : ∀ n a, a ∈ (postsTo n posts).map (·.addr) ↔ ∃ b, (n, b) ∈ posts ∧ b.addr = a := by
    intro n a
    simp only [List.mem_map, mem_postsTo]
  have hold : ∀ n, ∀ a ∈ (s.sess n).send.owned, a < s.heap := fun n a ha =>
    (hs.allocated a).2 ⟨n, ha⟩
  have hfresh : ∀ n, ∀ a ∈ (postsTo n posts).map (·.addr), s.heap ≤ a := by
    intro n a ha
    obtain ⟨b, hb, rfl⟩ := (hnew n a).1 ha
    exact (h.mem_addrs.1 ⟨_, hb, rfl⟩).1
  refine ⟨fun n => ?_, fun a => ?_, fun m n a hm hn => ?_⟩
  · rw [howned]
    refine List.nodup_append.2 ⟨hs.nodup n, ?_, fun a ha c hc hac => ?_⟩
    · rw [postsTo, List.map_map]
      exact h.nodup.sublist (List.filter_sublist.map _)
    · have := hold n a ha
      have := hfresh n c hc
      omega
  · constructor
    · intro ha
      by_cases hlt : a < s.heap
      · obtain ⟨n, hn⟩ := (hs.allocated a).1 hlt
        exact ⟨n, by rw [howned]; exact List.mem_append_left _ hn⟩
      · obtain ⟨⟨n, b⟩, hb, rfl⟩ := h.mem_addrs.2 ⟨Nat.le_of_not_lt hlt, ha⟩
        exact ⟨n, by rw [howned]; exact List.mem_append_right _ ((hnew n _).2 ⟨b, hb, rfl⟩)⟩
    · rintro ⟨n, hn⟩
      rw [howned] at hn
      rcases List.mem_append.1 hn with hn | hn
      · have := hold n a hn
        have := h.heap
        omega
      · obtain ⟨b, hb, rfl⟩ := (hnew n a).1 hn
        exact (h.mem_addrs.1 ⟨_, hb, rfl⟩).2
  · rw [howned, List.mem_append] at hm hn
    rcases hm with hm | hm <;> rcases hn with hn | hn
    · exact hs.unique m n a hm hn
    · have := hold m a hm
      have := hfresh n a hn
      omega
    · have := hfresh m a hm
      have := hold n a hn
      omega
    · obtain ⟨b, hb, hba⟩ := (hnew m a).1 hm
      obtain ⟨c, hc, hca⟩ := (hnew n a).1 hn
      have hpost := List.inj_on_of_nodup_map h.nodup hb hc (hba.trans hca.symm)
      exact congrArg Prod.fst hpost

lemma Step.accounted {e : Event} (h : Step s e s') (hs : s.Accounted) : s'.Accounted := by
  obtain ⟨posts, hposts, hqueues⟩ := h.queues
  refine hposts.accounted (fun n => ?_) hs
  obtain ⟨q, hq, hsend⟩ := hqueues n
  rw [hsend, SendQueue.owned_pushAll, hq.owned_eq]

lemma Step.whole {e : Event} (h : Step s e s') (hs : ∀ n, (s.sess n).send.Whole) (n : SessionId) :
    (s'.sess n).send.Whole := by
  obtain ⟨posts, -, hqueues⟩ := h.queues
  obtain ⟨q, hq, hsend⟩ := hqueues n
  rw [hsend]
  exact SendQueue.pushAll_induction (fun q b h => h.push b) (hq.whole (hs n)) _

/-- `wait_accept` sends no message. -/
lemma keepsBuffers_waitAccept : waitAccept.Along KeepsBuffers := by
  have hrefl : ∀ s, KeepsBuffers s s := fun s => .of_eq rfl rfl
  have hmodify : ∀ {f : Server → Server}, (∀ s, (f s).sess = s.sess ∧ (f s).heap = s.heap) →
      (Prog.modify f : Handler Unit).Within KeepsBuffers := fun h =>
    Prog.within_modify fun s => .of_eq (h s).1 (h s).2
  have hlock : (lock .sessionQueueMtx).Within KeepsBuffers := by
    refine ⟨fun s b s' hs => ?_, fun _ => trivial⟩
    dsimp only at hs
    split at hs
    · obtain ⟨-, rfl⟩ := Res.ok.inj hs
      exact .of_eq rfl rfl
    · cases hs
  intro s b s' h
  refine Prog.Within.run hrefl (fun _ _ _ h₁ h₂ => ⟨h₂.heap.trans h₁.heap, fun k =>
    (h₂.send k).trans (h₁.send k)⟩) (Prog.within_bind hlock fun _ =>
    Prog.within_bind (Prog.within_read hrefl _) fun que => ?_) h
  cases que with
  | nil =>
    exact Prog.within_bind (hmodify fun _ => ⟨rfl, rfl⟩) fun _ =>
      Prog.within_bind (hmodify fun _ => ⟨rfl, rfl⟩) fun _ => Prog.within_pure _
  | cons n rest =>
    exact Prog.within_bind (hmodify fun _ => ⟨rfl, rfl⟩) fun _ =>
      Prog.within_bind (hmodify fun _ => ⟨rfl, rfl⟩) fun _ =>
      Prog.within_bind (hmodify fun _ => ⟨rfl, rfl⟩) fun _ =>
      Prog.within_bind (Prog.within_bind (hmodify fun _ => ⟨rfl, rfl⟩) fun _ =>
        hmodify fun _ => ⟨rfl, rfl⟩) fun _ => Prog.within_pure _

/-- The sessions that the server creates have sent nothing. -/
lemma Initial.queues (h : Initial s) :
    s.heap = 0 ∧ ∀ n, (s.sess n).send = ⟨[], [], [], [], []⟩ := by
  obtain ⟨b, r, hrun⟩ := h
  have hkeeps := keepsBuffers_waitAccept _ _ _ hrun
  exact ⟨hkeeps.heap, hkeeps.send⟩

lemma Reachable.accounted (h : Reachable s) : s.Accounted := by
  refine Runs.Reached.invariant (I := Server.Accounted) (fun s h => ?_)
    (fun _ _ _ _ hs _ hstep => hstep.accounted hs) h
  obtain ⟨hheap, hsend⟩ := h.queues
  have hnone : ∀ n a, a ∉ (s.sess n).send.owned := by
    intro n a ha
    rw [hsend] at ha
    cases ha
  refine ⟨fun n => ?_, fun a => ⟨fun ha => ?_, fun ⟨n, hn⟩ => absurd hn (hnone n a)⟩,
    fun m n a hm _ => absurd hm (hnone m a)⟩
  · rw [hsend]
    exact List.nodup_nil
  · omega

lemma Reachable.whole (h : Reachable s) (n : SessionId) : (s.sess n).send.Whole := by
  refine Runs.Reached.invariant (I := fun s => ∀ n, (s.sess n).send.Whole) (fun s h n => ?_)
    (fun _ _ _ _ hs _ hstep => hstep.whole hs) h n
  rw [h.queues.2]
  exact fun _ hw => absurd hw List.not_mem_nil

/-- **Buffers are accounted for.**  In every reachable state, a buffer that was allocated is in the
queue of one session, once, or one session has freed it, once; and an outstanding write is one of as
many bytes as its buffer was allocated with, though the buffer may have been freed since. -/
theorem buffers_accounted (h : Reachable s) :
    (∀ n, (s.sess n).send.owned.Nodup) ∧ (∀ a, a < s.heap ↔ ∃ n, a ∈ (s.sess n).send.owned) ∧
      (∀ m n a, a ∈ (s.sess m).send.owned → a ∈ (s.sess n).send.owned → m = n) ∧
      ∀ n, ∀ w ∈ (s.sess n).send.writes, w.length = w.buffer.size + packetHeaderSize :=
  ⟨h.accounted.nodup, h.accounted.allocated, h.accounted.unique, fun n w hw =>
    congrArg Write.length (h.whole n w hw)⟩

/-- A client is refused and disconnects before the answer is written: the next connection of its
session frees the answer. -/
theorem buffers_accounted_accepted_again :
    ∃ s, run (Boot.plain 2 1 (fun _ => none) ⟨[], []⟩) acceptedAgain = some s ∧ s.heap = 1 ∧
      (s.sess 0).send.freed = [0] ∧ (∀ n, (s.sess n).send.owned.Nodup) ∧
      (∀ a, a < s.heap ↔ ∃ n, a ∈ (s.sess n).send.owned) ∧
      (∀ m n a, a ∈ (s.sess m).send.owned → a ∈ (s.sess n).send.owned → m = n) ∧
      ∀ n, ∀ w ∈ (s.sess n).send.writes, w.length = w.buffer.size + packetHeaderSize := by
  have hrun : (run (Boot.plain 2 1 (fun _ => none) ⟨[], []⟩) acceptedAgain).map
      (fun s => (s.heap, (s.sess 0).send.freed)) = some (1, [0]) := by decide
  obtain ⟨s, hs, heq⟩ := Option.map_eq_some_iff.1 hrun
  obtain ⟨hheap, hfreed⟩ := Prod.mk.inj heq
  exact ⟨s, hs, hheap, hfreed, buffers_accounted (reachable_of_run hs)⟩

end ChannelServer
