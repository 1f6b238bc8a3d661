/-
No response is dropped.

A message that is handed to `wait_send` is written when the messages before it are.  The
exception is `handle_write` in the status `LOGOUT`, which frees whatever is waiting: the answer
of `lobby_logout_process` and that of a refused login are enqueued after the status is set, so
that they are lost when another message is still being written.  In runs in which no write
completes in this situation, every message is written: `responses_written`.
-/
import ChannelServer.Actions
import ChannelServer.LoginMap
import ChannelServer.Sending

namespace ChannelServer

open Resumption

/-! ### Messages that are kept -/

namespace SendQueue

variable {q q' : SendQueue} {b : Buffer}

/-- Every message that was enqueued was written, or it waits behind the front message, and
while there are messages a write is outstanding. -/
structure Kept (q : SendQueue) : Prop where
  written : ∀ a ∈ q.enqueued, a ∈ q.started ∨ a ∈ q.addrs.tail
  busy : q.queue ≠ [] → q.writes ≠ []

lemma Kept.waitSend (h : q.Kept) (size : ℕ) (b : Buffer) : (q.waitSend false size b).Kept := by
  by_cases hq : q.queue = []
  · rw [waitSend_of_nil hq]
    refine ⟨fun a ha => Or.inl ?_, fun _ => by simp⟩
    rcases List.mem_append.1 ha with ha | ha
    · have := h.written a ha
      simp only [addrs, hq, List.map_nil, List.tail_nil, List.not_mem_nil, or_false] at this
      exact List.mem_append_left _ this
    · exact List.mem_append_right _ ha
  · rw [waitSend_of_ne_nil hq]
    obtain ⟨c, rest, hc⟩ := List.exists_cons_of_ne_nil hq
    refine ⟨fun a ha => ?_, fun _ => h.busy hq⟩
    have htail : q.addrs.tail = rest.map (·.addr) := by simp [addrs, hc]
    simp only [addrs, hc, List.cons_append, List.map_cons, List.tail_cons, List.map_append,
      List.mem_append, List.map_nil]
    rcases List.mem_append.1 ha with ha | ha
    · have := h.written a ha
      rw [htail] at this
      exact this.imp_right Or.inl
    · exact Or.inr (Or.inr ha)

/-- A completed write keeps the messages, unless it empties the queue while some are waiting. -/
lemma Kept.afterWrite {logout : Bool} {i : ℕ} (h : q.Kept)
    (hdrop : logout = true → q.queue.length ≤ 1)
    (ha : (q.removeWrite i).afterWrite logout = some q') : q'.Kept := by
  obtain ⟨c, rest, hq, hcases⟩ := afterWrite_cases ha
  have hq : q.queue = c :: rest := hq
  have htail : q.addrs.tail = rest.map (·.addr) := by simp [addrs, hq]
  rcases hcases with ⟨hnone, rfl⟩ | ⟨-, d, rest', rfl, rfl⟩
  · obtain rfl : rest = [] := by
      rcases hnone with hnone | hlogout
      · exact hnone
      · have := hdrop hlogout
        rw [hq] at this
        simpa using this
    refine ⟨fun a ha => Or.inl ?_, fun hne => absurd rfl hne⟩
    have hwritten : a ∈ q.started ∨ a ∈ q.addrs.tail := h.written a ha
    rw [htail] at hwritten
    exact hwritten.resolve_right (by simp)
  · refine ⟨fun a ha => ?_, fun _ => by simp⟩
    have hwritten : a ∈ q.started ∨ a ∈ q.addrs.tail := h.written a ha
    rw [htail, List.map_cons, List.mem_cons, ← or_assoc] at hwritten
    exact hwritten.imp_left fun ha => by simpa [removeWrite] using ha

lemma Kept.restart (q : SendQueue) : q.restart.Kept :=
  ⟨by rintro a ⟨⟩, fun hne => absurd rfl hne⟩

end SendQueue

/-- Every session keeps its messages. -/
def Server.Kept (s : Server) : Prop := ∀ n, (s.sess n).send.Kept

variable {s s' : Server}

lemma Server.Kept.setSess (h : s.Kept) {n : SessionId} {x : Session} (hx : x.send.Kept) :
    (s.setSess n x).Kept := by
  intro k
  by_cases hk : k = n
  · subst hk
    simpa [Server.setSess] using hx
  · simpa [Server.setSess, hk] using h k

lemma Server.Kept.of_sess (h : s.Kept) (hsess : s'.sess = s.sess) : s'.Kept := by
  intro n
  rw [hsess]
  exact h n

/-- The actions of the four kinds keep the messages. -/
lemma Act.kept (h : Act s s') (hs : s.Kept) : s'.Kept := by
  cases h with
  | aside hsess hlog hans => exact hs.of_sess hsess
  | @member n x hsend hstat =>
    refine hs.setSess ?_
    rw [hsend]
    exact hs n
  | @waitSend n size b => exact hs.setSess ((hs n).waitSend size b)
  | note hm => exact hs.of_sess rfl

/-! ### The steps of the server -/

/-- Every action of the program keeps the messages. -/
abbrev Keeps {α : Type} (p : Handler α) : Prop := p.Within fun s s' => s.Kept → s'.Kept

lemma keepsRules : Rules fun _ p => Keeps p := .of_within fun _ _ h => h.kept

lemma Keeps.run {α : Type} {p : Handler α} (h : Keeps p) (hs : s.Kept) {a : α}
    (hr : p.run s = .done a s') : s'.Kept :=
  Prog.Within.run (R := fun s s' : Server => s.Kept → s'.Kept) (fun _ h => h)
    (fun _ _ _ h₁ h₂ h => h₂ (h₁ h)) h hr hs

lemma keeps_mark (m : Server → Mark) : Keeps (mark m) :=
  Prog.within_modify fun _ hs => hs.of_sess rfl

lemma keeps_makeMatchingAndSendComplete (a b : SessionId) :
    Keeps (makeMatchingAndSendComplete a b) := by
  refine acts_makeMatchingAndSendComplete keepsRules.units a b ⟨fun s u t h => ?_, fun _ => trivial⟩
    fun _ => keeps_mark _
  dsimp only at h
  split at h
  · cases h
  · obtain ⟨-, rfl⟩ := Res.ok.inj h
    exact fun hs => hs.of_sess rfl

lemma keeps_processPacket (n : SessionId) (packet : Packet) : Keeps (processPacket n packet) :=
  acts_processPacket keepsRules
    (fun _ _ _ =>
      acts_loginAs keepsRules.units _ _ _ (keepsRules.setFriendsCount _)
        (fun _ _ _ _ => keepsRules.setUserInfo _ _ _ _ _ _) (keeps_mark _))
    keeps_makeMatchingAndSendComplete n packet

lemma keeps_handleAccept (n : SessionId) (error : Bool) : Keeps (handleAccept n error) := by
  refine Prog.within_ite (Prog.within_pure _) ?_
  refine Prog.within_bind (keeps_mark _) fun _ =>
    Prog.within_bind (Prog.within_modify fun s hs => hs.setSess (.restart _)) fun _ =>
    Prog.within_bind (acts_waitReceive keepsRules.units n) fun _ =>
    Prog.within_bind (Prog.within_modify fun s hs => hs.setSess (hs n)) fun _ =>
    Prog.within_bind (Prog.within_modify fun s hs => hs.of_sess rfl) fun _ =>
    Prog.within_bind (acts_waitAccept keepsRules.units) fun _ => Prog.within_pure _

/-- No message is waiting behind the one whose write completes in the status `LOGOUT`. -/
def Server.DropsNothing (s : Server) (e : Event) : Prop :=
  ∀ n i, e = .writeDone n i → (s.sess n).stat = .logout → (s.sess n).send.queue.length ≤ 1

/-- The outside does not touch the queues, except that it completes writes. -/
lemma send_of_prepare {t : Server} {e : Event} (hprep : prepare s e = some t)
    (he : ∀ n i, e ≠ .writeDone n i) (k : SessionId) : (t.sess k).send = (s.sess k).send := by
  -- a session that gets a new socket, or whose timer fires, keeps its queue
  have hupdate : ∀ n (x : Session), x.send = (s.sess n).send →
      (Function.update s.sess n x k).send = (s.sess k).send := by
    intro n x hx
    by_cases hk : k = n
    · subst hk
      simpa using hx
    · simp [hk]
  cases e with
  | startAccept | receive _ _ | receiveError _ _ _ =>
    obtain ⟨-, ht⟩ := Option.ite_none_right_eq_some.1 hprep
    obtain rfl := Option.some.inj ht
    rfl
  | acceptDone n error =>
    obtain ⟨-, ht⟩ := Option.ite_none_right_eq_some.1 hprep
    obtain rfl := Option.some.inj ht
    exact hupdate n _ rfl
  | timer n i answers =>
    obtain ⟨-, ht⟩ := Option.ite_none_right_eq_some.1 hprep
    obtain rfl := Option.some.inj ht
    exact hupdate n _ rfl
  | packet _ | receiveEnd =>
    simp only [prepare] at hprep
    split at hprep
    · obtain rfl := Option.some.inj hprep
      rfl
    · cases hprep
  | writeDone n i => exact absurd rfl (he n i)
  | world redis tables =>
    obtain rfl := Option.some.inj hprep
    rfl

/-- The handlers keep the messages, except that of a completed write. -/
lemma keeps_handler (s : Server) {e : Event} (he : ∀ n i, e ≠ .writeDone n i) :
    Keeps (handler s e) := by
  cases e with
  | startAccept =>
    exact keepsRules.bind (acts_waitAccept keepsRules.units) fun _ => keepsRules.pure _
  | acceptDone n error => exact keeps_handleAccept n error
  | receive _ _ | world _ _ => exact Prog.within_pure _
  | packet _ =>
    simp only [handler]
    split
    · exact keeps_processPacket _ _
    · exact Prog.within_pure _
  | receiveEnd =>
    simp only [handler]
    split
    · exact acts_waitReceive keepsRules.units _
    · exact Prog.within_pure _
  | receiveError n _ error => exact acts_handleReceiveError keepsRules.units n error
  | timer n _ _ => exact acts_rematch keepsRules.units keeps_makeMatchingAndSendComplete n
  | writeDone n i => exact absurd rfl (he n i)

/-- A step that drops nothing keeps the messages. -/
lemma Step.kept {e : Event} (h : Step s e s') (hs : s.Kept) (hdrop : s.DropsNothing e) :
    s'.Kept := by
  obtain ⟨t, hprep, hrun⟩ := step_iff.1 h
  by_cases he : ∀ n i, e ≠ .writeDone n i
  · refine (keeps_handler s he).run (fun n => ?_) hrun
    rw [send_of_prepare hprep he n]
    exact hs n
  · simp only [not_forall, not_not] at he
    obtain ⟨n, i, rfl⟩ := he
    obtain ⟨⟨-, hi⟩, ht⟩ := Option.ite_none_right_eq_some.1 hprep
    obtain rfl := Option.some.inj ht
    have hstep : SendStep n s (.writeDone i) s' := .writeDone hi hrun
    obtain ⟨q, -, rfl⟩ := handleWrite_eq_done hrun
    intro k
    by_cases hk : k = n
    · subst hk
      rcases hstep.send_cases with ⟨_, he, -⟩ | ⟨j, he, -, -, hsend⟩ | ⟨he, -⟩ | ⟨he, -⟩ <;>
        cases he
      exact (hs k).afterWrite (fun hout => hdrop k i rfl (of_decide_eq_true hout)) hsend
    · simpa [Server.setSess, hk] using hs k

/-- **No response is dropped**, in runs in which no write completes on a session that is logged
out while other messages are waiting there: when a session has no outstanding write, every
message that was handed to its `wait_send` since it was accepted was written. -/
theorem responses_written (h : ReachedBy (fun s e => s.DropsNothing e) s) {n : SessionId}
    (hw : (s.sess n).send.writes = []) :
    ∀ a ∈ (s.sess n).send.enqueued, a ∈ (s.sess n).send.started := by
  have hkept : s.Kept := by
    refine Runs.Reached.invariant (I := Server.Kept) ?_ ?_ h
    · rintro s ⟨b, r, hrun⟩
      refine Keeps.run (acts_waitAccept keepsRules.units) (s := b.init) (fun n => ⟨?_, ?_⟩) hrun
      · rintro a ⟨⟩
      · exact fun hne => absurd rfl hne
    · exact fun s e s' _ hs hdrop hstep => hstep.kept hs hdrop
  have hnil : (s.sess n).send.queue = [] := by
    by_contra hne
    exact (hkept n).busy hne hw
  intro a ha
  refine ((hkept n).written a ha).resolve_right ?_
  simp [SendQueue.addrs, hnil]

/-- `DropsNothing` as a computation. -/
private def dropsNothingTest (s : Server) : Event → Bool
  | .writeDone n _ => !decide ((s.sess n).stat = .logout) ||
      decide ((s.sess n).send.queue.length ≤ 1)
  | _ => true

private lemma dropsNothing_of_test {e : Event} (h : dropsNothingTest s e = true) :
    s.DropsNothing e := by
  rintro n i rfl hout
  simpa [dropsNothingTest, hout] using h

/-- A client whose login is refused is answered. -/
theorem responses_written_refused :
    ∃ s, ReachedBy (fun s e => s.DropsNothing e) s ∧ (s.sess 0).stat = .logout ∧
      (s.sess 0).send.enqueued = [0] ∧ (s.sess 0).send.writes = [] ∧
      ∀ a ∈ (s.sess 0).send.enqueued, a ∈ (s.sess 0).send.started := by
  have hrun : (runIf dropsNothingTest twoUsers [.acceptDone 0 false, .receive 0 [.joinReq ⟨[], []⟩],
      .packet ⟨[], [], 1⟩, .receiveEnd, .writeDone 0 0]).map
      (fun s => ((s.sess 0).stat, (s.sess 0).send.enqueued, (s.sess 0).send.writes)) =
      some (.logout, [0], []) := by decide
  obtain ⟨s, hs, heq⟩ := Option.map_eq_some_iff.1 hrun
  simp only [Prod.mk.injEq] at heq
  obtain ⟨hst, henq, hw⟩ := heq
  have hreach := reachedBy_of_runIf (fun _ _ => dropsNothing_of_test) hs
  exact ⟨s, hreach, hst, henq, hw, responses_written hreach hw⟩

/-- A client logs in and out in one read: the answer to the logout waits behind the answer to
the login, and it is freed without being written. -/
theorem logout_response_dropped :
    ∃ s s', Reachable s ∧ ⟨1, .logoutAns⟩ ∈ (s.sess 0).send.queue ∧ Step s (.writeDone 0 0) s' ∧
      0 ∈ s'.active ∧ (s'.sess 0).send.writes = [] ∧
      1 ∈ (s'.sess 0).send.enqueued ∧ 1 ∉ (s'.sess 0).send.started := by
  have hrun : ((run twoUsers [.acceptDone 0 false,
      .receive 0 [.joinReq ⟨lit "ta", lit "a"⟩, .logoutReq], .packet ⟨[], [], 1⟩,
      .packet ⟨[], [], 1⟩, .receiveEnd]).map fun s =>
      (decide (⟨1, .logoutAns⟩ ∈ (s.sess 0).send.queue), (next s (.writeDone 0 0)).map fun s' =>
        decide (s'.active = [0] ∧ (s'.sess 0).send.writes = [] ∧
          (s'.sess 0).send.enqueued = [0, 1] ∧ (s'.sess 0).send.started = [0]))) =
      some (true, some true) := by decide
  obtain ⟨s, hs, heq⟩ := Option.map_eq_some_iff.1 hrun
  obtain ⟨hmem, hnext⟩ := Prod.mk.inj heq
  obtain ⟨s', hs', hcheck⟩ := Option.map_eq_some_iff.1 hnext
  obtain ⟨hact, hw, henq, hstarted⟩ := of_decide_eq_true hcheck
  refine ⟨s, s', reachable_of_run hs, of_decide_eq_true hmem, step_of_next hs', ?_, hw, ?_, ?_⟩
  · simp [hact]
  · simp [henq]
  · simp [hstarted]

end ChannelServer
