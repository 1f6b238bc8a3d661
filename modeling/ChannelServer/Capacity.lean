/-
The capacity of the session pool.

`ChannelServer/Pool.lean` shows that an id is never in two places.  Here the question is
whether it is always in one.  `View.Recycles` is the condition on the steps under which it
is: an accept that fails loses its id and ends its chain of accepts, a read error that is
neither end-of-file nor connection reset loses the session, and so does a disconnection in
the status `MATCH_APPLY`.  A session that is closed while the server has stopped accepting
does not come back either, since its handler blocks (`ChannelServer/Locks.lean`).
-/
import ChannelServer.Locks
import ChannelServer.Pool

namespace ChannelServer

open Resumption WaitingRoom

namespace View

/-- The event does not lose the id of a session. -/
def KeepsId (v : View) : Event → Prop
  | .acceptDone _ error => error = false
  | .receiveError n live error =>
      (live = true → error ≠ .other) ∧ (error ≠ .other → v.stat n ≠ .matchApply)
  | _ => True

/-- The event returns the id of a session that it closes. -/
def Recycles (v : View) (e : Event) : Prop :=
  v.KeepsId e ∧ (v.Closes e → v.acceptingFlag = true ∨ v.cfg.reentrant = true)

/-- Every id is in one of its places, and the server keeps accepting. -/
structure PoolFull (v : View) : Prop where
  mem_places : ∀ n : SessionId, (n : ℤ) < v.cfg.maxSessionCount → n ∈ v.places
  active_read : ∀ n ∈ v.active, v.BeingRead n
  accepts_ne_nil : v.acceptingFlag = true → v.accepts ≠ []
  queue_eq_nil : v.acceptingFlag = false → v.sessionQueue = []

variable {v w : View} {n : SessionId}

lemma PoolFull.of_samePool (hv : v.PoolFull) (h : v.SamePool w) : w.PoolFull where
  mem_places := by
    unfold places
    rw [h.cfg, h.sessionQueue, h.accepts, h.active]
    exact hv.mem_places
  active_read := by
    unfold BeingRead
    rw [h.reads, h.active, h.current]
    exact hv.active_read
  accepts_ne_nil := by
    rw [h.acceptingFlag, h.accepts]
    exact hv.accepts_ne_nil
  queue_eq_nil := by
    rw [h.acceptingFlag, h.sessionQueue]
    exact hv.queue_eq_nil

/-- `wait_accept` restores the two facts about `accepting_flag_`. -/
lemma PoolFull.waitAccept
    (hplaces : ∀ n : SessionId, (n : ℤ) < v.cfg.maxSessionCount → n ∈ v.places)
    (hread : ∀ n ∈ v.active, v.BeingRead n) : v.waitAccept.PoolFull := by
  cases hq : v.sessionQueue with
  | nil =>
    rw [waitAccept_nil hq]
    exact ⟨hplaces, hread, by simp, fun _ => hq⟩
  | cons n rest =>
    rw [waitAccept_cons hq]
    refine ⟨fun k hk => ?_, hread, by simp, by simp⟩
    have hk' := hplaces k hk
    simp only [places, hq, List.mem_append, List.mem_cons] at hk'
    show k ∈ rest ++ (v.accepts ++ [n]) ++ v.active
    simp only [List.mem_append, List.mem_singleton]
    tauto

lemma PoolFull.init (b : Boot) : (Boot.init b).view.waitAccept.PoolFull := by
  refine PoolFull.waitAccept ?_ ?_
  · intro n hn
    have hn' : (n : ℤ) < b.cfg.maxSessionCount := hn
    show n ∈ List.range b.cfg.maxSessionCount.toNat ++ [] ++ []
    simp only [List.append_nil, List.mem_range]
    omega
  · intro n hn
    cases hn

/-- A connection that is accepted. -/
lemma PoolFull.accept (hv : v.PoolFull) :
    (View.accept ({ v with accepts := v.accepts.erase n }.setOpen n true) n).PoolFull := by
  refine PoolFull.waitAccept ?_ ?_
  · intro k hk
    have hk' := hv.mem_places k hk
    show k ∈ v.sessionQueue ++ v.accepts.erase n ++ (v.active ++ [n])
    simp only [places, List.mem_append, List.mem_singleton] at hk' ⊢
    by_cases hkn : k = n
    · exact Or.inr (Or.inr hkn)
    · rw [List.mem_erase_of_ne hkn]
      tauto
  · intro k hk
    rcases List.mem_append.1 hk with hk | hk
    · rcases hv.active_read k hk with hk | hk
      · exact Or.inl (List.mem_append_left _ hk)
      · exact Or.inr hk
    · obtain rfl := List.mem_singleton.1 hk
      refine Or.inl (List.mem_append_right _ ?_)
      simp [setOpen]

/-- A connection that is closed; only its own read has ended. -/
lemma PoolFull.finishClose (hp : v.PoolOk)
    (hplaces : ∀ k : SessionId, (k : ℤ) < v.cfg.maxSessionCount → k ∈ v.places)
    (hread : ∀ k ∈ v.active, k ≠ n → v.BeingRead k)
    (haccepts : v.acceptingFlag = true → v.accepts ≠ []) : (v.finishClose n).PoolFull := by
  have hnodup : v.active.Nodup := (List.nodup_append.1 hp.nodup).2.1
  have herase : ∀ k, k ∈ v.active.erase n ↔ k ≠ n ∧ k ∈ v.active := fun k => hnodup.mem_erase_iff
  have hplaces' : ∀ k : SessionId, (k : ℤ) < v.cfg.maxSessionCount →
      k ∈ v.sessionQueue ++ [n] ++ v.accepts ++ v.active.erase n := by
    intro k hk
    have hk' := hplaces k hk
    simp only [places, List.mem_append, List.mem_singleton] at hk' ⊢
    rw [herase]
    tauto
  have hread' : ∀ k ∈ v.active.erase n, v.BeingRead k := by
    intro k hk
    rw [herase] at hk
    exact hread k hk.2 hk.1
  rcases v.finishClose_cases n with ⟨-, h⟩ | ⟨hflag, h⟩ <;> rw [h]
  · exact PoolFull.waitAccept hplaces' hread'
  · exact ⟨hplaces', hread', haccepts, fun h => absurd h hflag⟩

/-- A session that is closed in a status in which `close_session` does not return at once. -/
lemma PoolFull.close (hp : v.PoolOk)
    (hplaces : ∀ k : SessionId, (k : ℤ) < v.cfg.maxSessionCount → k ∈ v.places)
    (hread : ∀ k ∈ v.active, k ≠ n → v.BeingRead k)
    (haccepts : v.acceptingFlag = true → v.accepts ≠ []) (hcloses : (v.stat n).closes) :
    (v.close n).PoolFull := by
  rcases v.close_cases n with ⟨hreturn, -⟩ | ⟨-, redis, userIdMap, h⟩
  · exact absurd hcloses hreturn
  · rw [h]
    exact PoolFull.finishClose hp.of_keys hplaces hread haccepts

end View

/-- **No id is lost**, one step. -/
theorem ViewStep.poolFull {v w : View} {e : Event} (h : ViewStep v e w) (hp : v.PoolOk)
    (hv : v.PoolFull) (hkeep : v.KeepsId e) : w.PoolFull := by
  cases h with
  | startAccept _ _ => exact View.PoolFull.waitAccept hv.mem_places hv.active_read
  | accepted _ _ => exact hv.accept
  | acceptFailed _ _ => cases hkeep
  | @receive n packets hcur hread =>
    refine ⟨hv.mem_places, fun k hk => ?_, hv.accepts_ne_nil, hv.queue_eq_nil⟩
    exact (View.beingRead_receive hcur hread k).2 (hv.active_read k hk)
  | @packet n p rest answers _ hcur hpacket =>
    have hrest : View.PoolFull { v with current := some (n, rest) } := by
      refine ⟨hv.mem_places, fun k hk => ?_, hv.accepts_ne_nil, hv.queue_eq_nil⟩
      exact (View.beingRead_nextPacket hcur k).2 (hv.active_read k hk)
    by_cases hconf : v.Confirms n p
    · have hprest : View.PoolOk { v with current := some (n, rest) } := hp.nextPacket hcur
      rw [hpacket.of_confirms hconf]
      refine View.PoolFull.close (hprest.setConfirm rfl hconf.2) hrest.mem_places
        (fun k hk _ => hrest.active_read k hk) hrest.accepts_ne_nil ?_
      simp [View.setStat, Status.closes]
    · exact hrest.of_samePool (hpacket.samePool hconf)
  | @receiveEnd n hcur =>
    refine ⟨hv.mem_places, fun k hk => ?_, hv.accepts_ne_nil, hv.queue_eq_nil⟩
    exact (hp.beingRead_receiveEnd hcur hk).2 (hv.active_read k hk)
  | @readFailed n live hcur hread =>
    have hlive : live = false := by
      cases live with
      | false => rfl
      | true => exact absurd rfl (hkeep.1 rfl)
    refine ⟨hv.mem_places, fun k hk => ?_, hv.accepts_ne_nil, hv.queue_eq_nil⟩
    rcases hv.active_read k hk with hk | hk
    · refine Or.inl ((List.mem_erase_of_ne ?_).2 hk)
      simp [hlive]
    · exact Or.inr hk
  | @disconnected n error hcur hread herror =>
    refine View.PoolFull.close (hp.eraseRead ⟨n, true⟩) hv.mem_places ?_ hv.accepts_ne_nil ?_
    · intro k hk hkn
      rcases hv.active_read k hk with hk | hk
      · refine Or.inl ((List.mem_erase_of_ne ?_).2 hk)
        simp [hkn]
      · exact Or.inr hk
    · exact ⟨hp.active_stat n (hp.read_active n hread), hkeep.2 herror⟩
  | timerIdle _ _ | world =>
    exact ⟨hv.mem_places, hv.active_read, hv.accepts_ne_nil, hv.queue_eq_nil⟩
  | @timerWiden n i answers _ b hcur hst hserved =>
    refine hv.of_samePool (View.SamePool.trans ?_ hserved.samePool)
    refine View.SamePool.trans ?_ (View.widen_samePool _ _)
    exact View.SamePool.of_data fun _ _ hm => hm
  | writeDone _ => exact hv

/-- Both invariants of the pool hold in runs that lose no id. -/
lemma poolFull_of_recycles {s : Server} (h : ReachedBy (fun s e => s.view.Recycles e) s) :
    s.view.PoolOk ∧ s.view.PoolFull := by
  refine ReachedBy.view_invariant View.Recycles (P := fun v => v.PoolOk ∧ v.PoolFull) ?_ ?_ h
  · intro b
    exact ⟨View.PoolOk.init b, View.PoolFull.init b⟩
  · intro v e w hv hok hstep
    exact ⟨hstep.poolOk hv.1, hstep.poolFull hv.1 hv.2 hok.1⟩

/-- **No session capacity is lost** in runs whose steps all return the id they use: every id
is in the queue, with an outstanding accept or with a connection that is being read; while
ids wait in the queue an accept is outstanding; and the handlers of such steps do not block. -/
theorem capacity_kept {s : Server} (h : ReachedBy (fun s e => s.view.Recycles e) s) :
    (∀ n : SessionId, (n : ℤ) < s.cfg.maxSessionCount →
      n ∈ s.sessionQueue ∨ n ∈ s.accepts ∨
        n ∈ s.active ∧ (⟨n, true⟩ ∈ s.reads ∨ ∃ ps, s.current = some (n, ps))) ∧
    (s.sessionQueue ≠ [] → s.accepts ≠ []) ∧
    ∀ e o, s.view.Recycles e → outcome s e = some o → ∀ t, o ≠ .blocked t := by
  obtain ⟨-, hfull⟩ := poolFull_of_recycles h
  refine ⟨fun n hn => ?_, fun hq => ?_, fun e o hok ho t => ?_⟩
  · have hplaces : n ∈ s.sessionQueue ++ s.accepts ++ s.active := hfull.mem_places n hn
    rcases List.mem_append.1 hplaces with hplaces | hact
    · rcases List.mem_append.1 hplaces with hq | hacc
      · exact Or.inl hq
      · exact Or.inr (Or.inl hacc)
    · exact Or.inr (Or.inr ⟨hact, hfull.active_read n hact⟩)
  · -- `accepting_flag_` is cleared only when the queue has run empty
    refine hfull.accepts_ne_nil ?_
    by_contra hflag
    exact hq (hfull.queue_eq_nil (by simpa using hflag))
  · obtain ⟨u, hprep, rfl⟩ := Option.map_eq_some_iff.1 ho
    have hmtx := Reachable.mtx_free h.unconditional
    exact (handler_free ⟨rfl, rfl, hmtx⟩ hprep hok.2).not_blocked rfl

/-- Two sessions: after a read error such as a timeout the id 0 is in none of its places, and
after an accept that fails the id 1 waits while nothing accepts. -/
theorem capacity_lost :
    (∃ s, Reachable s ∧ (0 : ℤ) < s.cfg.maxSessionCount ∧
      ¬ (0 ∈ s.sessionQueue ∨ 0 ∈ s.accepts ∨
        0 ∈ s.active ∧ (⟨0, true⟩ ∈ s.reads ∨ ∃ ps, s.current = some (0, ps)))) ∧
    ∃ s, Reachable s ∧ s.sessionQueue ≠ [] ∧ s.accepts = [] := by
  constructor
  · have hrun : (run (Boot.plain 2 1 (fun _ => none) ⟨[], []⟩)
        [.acceptDone 0 false, .receiveError 0 true .other]).map
        (fun s => (s.cfg.maxSessionCount, s.sessionQueue, s.accepts, s.reads, s.current.isNone)) =
          some (2, [], [1], [], true) := by decide
    obtain ⟨s, hs, heq⟩ := Option.map_eq_some_iff.1 hrun
    simp only [Prod.mk.injEq] at heq
    obtain ⟨hcfg, hq, hacc, hreads, hcur⟩ := heq
    refine ⟨s, reachable_of_run hs, ?_, ?_⟩
    · rw [hcfg]
      decide
    · simp [hq, hacc, hreads, Option.isNone_iff_eq_none.1 hcur]
  · have hrun : (run (Boot.plain 2 1 (fun _ => none) ⟨[], []⟩) [.acceptDone 0 true]).map
        (fun s => (s.sessionQueue, s.accepts)) = some ([1], []) := by decide
    obtain ⟨s, hs, heq⟩ := Option.map_eq_some_iff.1 hrun
    obtain ⟨hq, hacc⟩ := Prod.mk.inj heq
    exact ⟨s, reachable_of_run hs, by simp [hq], hacc⟩

/-- `Recycles` as a computation, for the events of an example. -/
private def recyclesTest (s : Server) : Event → Bool
  | .acceptDone _ error => !error
  | .receiveError n _ error =>
      error ≠ .other && decide ((s.sess n).stat ≠ .matchApply) && s.acceptingFlag
  | _ => false

/-- Two sessions: a client connects and leaves again. -/
theorem capacity_kept_after_close :
    ∃ s, runIf recyclesTest (Boot.plain 2 1 (fun _ => none) ⟨[], []⟩)
        [.acceptDone 0 false, .receiveError 0 true .eof] = some s ∧
      (∀ n : SessionId, (n : ℤ) < s.cfg.maxSessionCount →
        n ∈ s.sessionQueue ∨ n ∈ s.accepts ∨
          n ∈ s.active ∧ (⟨n, true⟩ ∈ s.reads ∨ ∃ ps, s.current = some (n, ps))) ∧
      (s.sessionQueue ≠ [] → s.accepts ≠ []) ∧
      ∀ e o, s.view.Recycles e → outcome s e = some o → ∀ t, o ≠ .blocked t := by
  have htest : ∀ s e, recyclesTest s e = true → s.view.Recycles e := by
    intro s e h
    cases e with
    | acceptDone n error =>
      exact ⟨by simpa [recyclesTest, View.KeepsId] using h, by simp [View.Closes]⟩
    | receiveError n live error =>
      simp only [recyclesTest, Bool.and_eq_true, decide_eq_true_eq] at h
      obtain ⟨⟨herror, hst⟩, hflag⟩ := h
      exact ⟨⟨fun _ => herror, fun _ => hst⟩, fun _ => Or.inl hflag⟩
    | startAccept | receive _ _ | packet _ | receiveEnd | timer _ _ _ | writeDone _ _
    | world _ _ => cases h
  obtain ⟨s, hs⟩ := Option.isSome_iff_exists.1 (show (runIf recyclesTest
    (Boot.plain 2 1 (fun _ => none) ⟨[], []⟩)
    [.acceptDone 0 false, .receiveError 0 true .eof]).isSome by decide)
  exact ⟨s, hs, capacity_kept (reachedBy_of_runIf htest hs)⟩

end ChannelServer
