/-
Closed sessions.

`close_session` may run in the packet loop of the session that it closes, when the session
confirms a match, and the loop goes on with the bytes that are left.  In runs in which the
confirmation is the last packet of its read, no packet of a session is dispatched after it was
closed, and a session that waits in the pool has the status `WAIT`: `closed_means_closed`.
-/
import ChannelServer.Matching
import ChannelServer.Pool

namespace ChannelServer

open Resumption WaitingRoom

namespace View

/-- A session that belongs to no connection has the status `WAIT`, and nothing is left of its
packet loop. -/
structure ClosedOk (v : View) : Prop where
  stat : ∀ n, n ∉ v.active → v.stat n = .wait
  current : ∀ n ps, v.current = some (n, ps) → n ∉ v.active → ps = []

/-- A confirmation that closes its session is the last packet of its read. -/
def ConfirmsLast (v : View) (e : Event) : Prop :=
  ∀ answers n rest, e = .packet answers → v.current = some (n, .matchConfirm :: rest) →
    v.stat n = .matchComplete → rest = []

variable {v w : View} {n k : SessionId}

lemma ClosedOk.waitAccept (hv : v.ClosedOk) : v.waitAccept.ClosedOk := by
  obtain ⟨flag, queue, accepts, new, -, h⟩ := v.waitAccept_eq
  rw [h]
  exact ⟨hv.stat, hv.current⟩

/-- A session that is closed, with nothing left of its packet loop. -/
lemma ClosedOk.close (hv : v.ClosedOk) (hnodup : v.active.Nodup)
    (hcur : ∀ ps, v.current = some (n, ps) → ps = []) : (v.close n).ClosedOk := by
  rcases v.close_cases n with ⟨-, h⟩ | ⟨-, redis, userIdMap, h⟩ <;> rw [h]
  · exact hv
  · have hreleased :
        ClosedOk (View.release { v with redis := redis, userIdMap := userIdMap } n) := by
      constructor
      · intro k hk
        show Function.update v.stat n .wait k = .wait
        by_cases hkn : k = n
        · subst hkn
          simp
        · rw [Function.update_of_ne hkn]
          exact hv.stat k fun hmem => hk (hnodup.mem_erase_iff.2 ⟨hkn, hmem⟩)
      · intro k ps hps hk
        by_cases hkn : k = n
        · subst hkn
          exact hcur ps hps
        · exact hv.current k ps hps fun hmem => hk (hnodup.mem_erase_iff.2 ⟨hkn, hmem⟩)
    exact finishClose_of_release (fun w hw => hw.waitAccept) hreleased

/-- A change that opens and closes no connection, and sets no status of a closed session. -/
lemma ClosedOk.of_samePool (hv : v.ClosedOk) (h : v.SamePool w)
    (hstat : ∀ k, v.stat k = .wait → k ∉ v.active → w.stat k = .wait) : w.ClosedOk := by
  constructor
  · rw [h.active]
    exact fun k hk => hstat k (hv.stat k hk) hk
  · rw [h.current, h.active]
    exact hv.current

end View

/-- A packet does not touch another session in the status `WAIT`. -/
lemma PacketStep.stat_wait {v w : View} {n k : SessionId} {p : Packet} (h : PacketStep v n p w)
    (hk : v.stat k = .wait) (hkn : k ≠ n) : w.stat k = .wait := by
  have hset : ∀ (u : View) (m : SessionId) (st : Status), k ≠ m → u.stat k = .wait →
      (u.setStat m st).stat k = .wait := by
    intro u m st hkm hu
    rw [View.setStat_stat, if_neg hkm, hu]
  -- the other session of a relay has another status
  have hother : ∀ {m : SessionId} {st : Status}, v.stat m = st → st ≠ .wait → k ≠ m := by
    rintro m st hm hst rfl
    exact hst (hm.symm.trans hk)
  cases h with
  | config _ | other _ | notJoined _ | notLoggedOut _ | notConfirmed _ | burnt _ _ _ => exact hk
  | friends h => cases h <;> exact hk
  | refused _ _ | joined _ _ _ | loggedOut _ => exact hset v n _ hkn hk
  | confirmed _ =>
    have hconf := hset v n .matchConfirm hkn hk
    rcases (v.setStat n .matchConfirm).close_cases n with ⟨-, h⟩ | ⟨-, redis, userIdMap, h⟩ <;>
      rw [h]
    · exact hconf
    · obtain ⟨flag, queue, accepts, new, -, h⟩ := View.finishClose_eq
        { v.setStat n .matchConfirm with redis := redis, userIdMap := userIdMap } n
      rw [h]
      exact hset (v.setStat n .matchConfirm) n .wait hkn hconf
  | relayed h =>
    cases h with
    | refused => exact hk
    | self _ => exact hset v n _ hkn hk
    | accept _ _ _ _ hm _ =>
      exact hset (v.setStat n _) _ _ (hother hm (by simp)) (hset v n _ hkn hk)
    | apply _ _ _ _ hm =>
      exact hset (v.setStat n _) _ _ (hother hm (by simp)) (hset v n _ hkn hk)
    | deny _ _ _ _ hm =>
      exact hset (v.setStat n _) _ _ (hother hm (by simp)) (hset v n _ hkn hk)
  | @ranked u b h =>
    rw [View.armUnless_stat]
    have henter : (v.enter n (checkRating (v.rating n)).que).stat k = .wait :=
      hset v n .matchRequest hkn hk
    rcases h.stat k with hst | ⟨-, hwaiting⟩
    · exact hst.trans henter
    · simp [View.waiting, henter] at hwaiting

/-- **Closed sessions**, one step. -/
theorem ViewStep.closedOk {v w : View} {e : Event} (h : ViewStep v e w) (hv : v.ClosedOk)
    (hpool : v.PoolOk) (hlast : v.ConfirmsLast e) : w.ClosedOk := by
  have hnodup : v.active.Nodup := (List.nodup_append.1 hpool.nodup).2.1
  cases h with
  | startAccept _ _ =>
    exact View.ClosedOk.waitAccept ⟨hv.stat, hv.current⟩
  | @accepted n hcur hn =>
    refine View.ClosedOk.waitAccept ⟨fun k hk => ?_, fun k ps hps => ?_⟩
    · have hk' : k ∉ v.active ∧ k ≠ n := by simpa [View.setOpen] using hk
      show Function.update v.stat n .conn k = .wait
      rw [Function.update_of_ne hk'.2]
      exact hv.stat k hk'.1
    · exact absurd (hps.symm.trans hcur) (by simp)
  | acceptFailed _ _ | timerIdle _ _ | world | readFailed _ _ => exact ⟨hv.stat, hv.current⟩
  | @receive n packets _ hread =>
    refine ⟨hv.stat, fun k ps hps hk => ?_⟩
    obtain ⟨rfl, -⟩ := Prod.mk.inj (Option.some.inj hps)
    exact absurd (hpool.read_active _ hread) hk
  | @packet n p rest answers _ hcur hpacket =>
    -- the session of a packet that is left is connected
    have hact : n ∈ v.active := by
      by_contra hn
      cases hv.current n _ hcur hn
    have hnext : View.ClosedOk { v with current := some (n, rest) } := by
      refine ⟨hv.stat, fun k ps hps hk => ?_⟩
      obtain ⟨rfl, -⟩ := Prod.mk.inj (Option.some.inj hps)
      exact absurd hact hk
    by_cases hconf : v.Confirms n p
    · rw [hpacket.of_confirms hconf]
      obtain ⟨rfl, hst⟩ := hconf
      have hset :
          View.ClosedOk (View.setStat { v with current := some (n, rest) } n .matchConfirm) :=
        hnext.of_samePool (View.SamePool.of_data fun _ _ hm => hm) fun k hk hkact => by
          have hkn : k ≠ n := by
            rintro rfl
            exact hkact hact
          rw [View.setStat_stat, if_neg hkn, hk]
      refine hset.close hnodup fun ps hps => ?_
      obtain ⟨-, rfl⟩ := Prod.mk.inj (Option.some.inj hps)
      exact hlast answers n rest rfl hcur hst
    · refine hnext.of_samePool (hpacket.samePool hconf) fun k hk hkact => ?_
      refine hpacket.stat_wait hk ?_
      rintro rfl
      exact hkact hact
  | receiveEnd _ => exact ⟨hv.stat, by rintro k ps ⟨⟩⟩
  | @disconnected n error hcur _ _ =>
    refine View.ClosedOk.close ⟨hv.stat, hv.current⟩ hnodup fun ps hps => ?_
    exact absurd (hps.symm.trans hcur) (by simp)
  | @timerWiden n i answers w b hcur _ hserved =>
    have hwiden : View.ClosedOk (View.widen { v with
        waits := Function.update v.waits n ((v.waits n).eraseIdx i) } n) := ⟨hv.stat, hv.current⟩
    refine hwiden.of_samePool hserved.samePool fun k hk _ => ?_
    rcases hserved.stat k with hst | ⟨-, hwaiting⟩
    · exact hst.trans hk
    · simp [View.waiting, hk] at hwaiting
  | writeDone _ => exact hv

/-- A timer that fires in another status than `MATCH_REQUEST` does nothing. -/
lemma Step.timer_idle {s s' : Server} {n : SessionId} {i : ℕ} {answers : Answers}
    (h : Step s (.timer n i answers) s') (hst : (s.sess n).stat ≠ .matchRequest) :
    s'.view = { s.view with
      waits := Function.update s.view.waits n ((s.view.waits n).eraseIdx i) } := by
  have hv := view_step h
  generalize hw : s'.view = w at hv
  cases hv with
  | timerIdle _ _ => rfl
  | timerWiden _ hst' _ => exact absurd hst' hst

/-- **Closed means closed**, in runs in which a confirmation that closes its session is the last
packet of its read: a session that is in the queue or waits in an outstanding accept has the
status `WAIT`, no packet of it is dispatched or can still be read, and its timers do nothing. -/
theorem closed_means_closed {s : Server} (h : ReachedBy (fun s e => s.view.ConfirmsLast e) s)
    {n : SessionId} (hn : n ∈ s.sessionQueue ∨ n ∈ s.accepts) :
    (s.sess n).stat = .wait ∧ (∀ p rest, s.current ≠ some (n, p :: rest)) ∧
      ⟨n, true⟩ ∉ s.reads ∧
      ∀ i answers s', Step s (.timer n i answers) s' →
        s'.view = { s.view with
          waits := Function.update s.view.waits n ((s.view.waits n).eraseIdx i) } := by
  have hok : s.view.ClosedOk := by
    refine Runs.Reached.invariant (I := fun s => s.view.ClosedOk) ?_ ?_ h
    · intro s hs
      obtain ⟨b, hv⟩ := hs.view_eq
      rw [hv]
      exact View.ClosedOk.waitAccept ⟨fun _ _ => rfl, by rintro n ps ⟨⟩⟩
    · intro s e s' hr hs hlast hstep
      exact (view_step hstep).closedOk hs (Reachable.poolOk hr.unconditional) hlast
  have hnact : n ∉ s.active := by
    intro hact
    have hdisjoint := (List.nodup_append.1 (Reachable.poolOk h.unconditional).nodup).2.2
    exact hdisjoint n (List.mem_append.2 hn) n hact rfl
  have hwait : (s.sess n).stat = .wait := hok.stat n hnact
  refine ⟨hwait, fun p rest hcur => ?_, fun hread => ?_, fun i answers s' hstep => ?_⟩
  · cases hok.current n _ hcur hnact
  · exact hnact ((Reachable.poolOk h.unconditional).read_active n hread)
  · exact hstep.timer_idle (by simp [hwait])

/-- `ConfirmsLast` as a computation. -/
private def confirmsLastTest (s : Server) : Event → Bool
  | .packet _ =>
      match s.current with
      | some (n, .matchConfirm :: rest) =>
          rest.isEmpty || !decide ((s.sess n).stat = .matchComplete)
      | _ => true
  | _ => true

private lemma confirmsLast_of_test {s : Server} {e : Event} (h : confirmsLastTest s e = true) :
    s.view.ConfirmsLast e := by
  rintro answers n rest rfl hcur hst
  have hcur' : s.current = some (n, .matchConfirm :: rest) := hcur
  have hst' : (s.sess n).stat = .matchComplete := hst
  simpa [confirmsLastTest, hcur', hst'] using h

/-- Two players are matched, and the first one confirms. -/
theorem closed_means_closed_confirmed :
    ∃ s, ReachedBy (fun s e => s.view.ConfirmsLast e) s ∧ 0 ∈ s.sessionQueue ∧
      (s.sess 0).stat = .wait ∧ (∀ p rest, s.current ≠ some (0, p :: rest)) ∧
      ⟨0, true⟩ ∉ s.reads ∧
      ∀ i answers s', Step s (.timer 0 i answers) s' →
        s'.view = { s.view with
          waits := Function.update s.view.waits 0 ((s.view.waits 0).eraseIdx i) } := by
  have hrun : (runIf confirmsLastTest (Boot.plain 3 1 (fun _ => none) ⟨[], []⟩)
      (twoPlayers ++ [.receive 0 [.matchConfirm], .packet ⟨[], [], 0⟩])).map
      (fun s => s.sessionQueue) = some [0] := by decide
  obtain ⟨s, hs, hque⟩ := Option.map_eq_some_iff.1 hrun
  have hreach := reachedBy_of_runIf (fun _ _ => confirmsLast_of_test) hs
  have hn : 0 ∈ s.sessionQueue := by simp [hque]
  exact ⟨s, hreach, hn, closed_means_closed hreach (Or.inl hn)⟩

/-- The first of two matched players confirms and asks for a rank match in one read: its session
waits in the pool, and it has the status `MATCH_REQUEST` and is an entry of a matching queue. -/
theorem closed_session_requests_match :
    ∃ s, Reachable s ∧ 0 ∈ s.sessionQueue ∧ (s.sess 0).stat = .matchRequest ∧
      0 ∈ s.matchingQue Rating.bronze.que ∧ (s.sess 0).waits ≠ [] := by
  have hrun : (run (Boot.plain 3 1 (fun _ => none) ⟨[], []⟩)
      (twoPlayers ++ [.receive 0 [.matchConfirm, .playRankReq], .packet ⟨[], [], 0⟩,
        .packet ⟨[], [], 0⟩])).map
      (fun s => decide (s.sessionQueue = [0] ∧ (s.sess 0).stat = .matchRequest ∧
        0 ∈ s.matchingQue Rating.bronze.que ∧ (s.sess 0).waits ≠ [])) = some true := by decide
  obtain ⟨s, hs, heq⟩ := Option.map_eq_some_iff.1 hrun
  obtain ⟨hque, hst, hmem, hwaits⟩ := of_decide_eq_true heq
  exact ⟨s, reachable_of_run hs, by simp [hque], hst, hmem, hwaits⟩

end ChannelServer
