/-
The search for an opponent.

A rank request puts the session into the queue of its rating bracket and arms its rematch
timer; when the timer has expired, the session is put into the shared queue as well.  The
queues hold bare pointers, and an entry of an earlier request becomes valid again as soon as
the session waits for a match once more, whoever uses it then.

* `brackets_respected`: two players that are matched from the queue of a bracket both belong
  to this bracket, in runs in which no request revives an entry in the queue of another one;
* `widened_by_current_timer`: only the timer of the latest request puts a session into the
  shared queue, in runs in which no request cancels a timer that is pending.
-/
import ChannelServer.LoginMap
import ChannelServer.Matching

namespace ChannelServer

open Resumption WaitingRoom

/-! ### Ratings -/

namespace View

variable {v w : View} {n : SessionId}

lemma waitAccept_rating (v : View) : v.waitAccept.rating = v.rating := by
  obtain ⟨flag, queue, accepts, new, -, h⟩ := v.waitAccept_eq
  rw [h]

lemma close_rating (v : View) (n : SessionId) : (v.close n).rating = v.rating := by
  rcases v.close_cases n with ⟨-, h⟩ | ⟨-, redis, userIdMap, h⟩ <;> rw [h]
  obtain ⟨flag, queue, accepts, new, -, h⟩ :=
    View.finishClose_eq { v with redis := redis, userIdMap := userIdMap } n
  rw [h]

lemma Served.rating {r : QueId} {b : Bool} (h : v.Served r w b) : w.rating = v.rating := by
  cases h <;> rfl

lemma armUnless_rating (v : View) (n : SessionId) (b : Bool) :
    (v.armUnless n b).rating = v.rating := by
  rcases v.armUnless_cases n b with h | h <;> rw [h]
  rfl

end View

/-- Only a login changes a rating. -/
lemma PacketStep.rating {v w : View} {n : SessionId} {p : Packet} (h : PacketStep v n p w) :
    w.rating = v.rating ∨ ∃ token id rating, w = v.login n token id rating := by
  cases h with
  | config _ | other _ | notJoined _ | notLoggedOut _ | notConfirmed _ | refused _ _
  | burnt _ _ _ | loggedOut _ => exact Or.inl rfl
  | friends h => exact Or.inl (by cases h <;> rfl)
  | relayed h => exact Or.inl (by cases h <;> rfl)
  | joined _ _ _ => exact Or.inr ⟨_, _, _, rfl⟩
  | ranked h =>
    refine Or.inl ?_
    rw [View.armUnless_rating, h.rating]
    rfl
  | confirmed _ =>
    refine Or.inl ?_
    rw [View.close_rating]
    rfl

/-- The rating of a session that waits for a match is the same as before the step. -/
lemma ViewStep.rating_eq {v w : View} {e : Event} (h : ViewStep v e w) {k : SessionId}
    (hk : w.stat k = .matchRequest) : w.rating k = v.rating k := by
  cases h with
  | startAccept _ _ => rw [View.waitAccept_rating]
  | accepted _ _ =>
    unfold View.accept
    rw [View.waitAccept_rating]
    rfl
  | acceptFailed _ _ | receive _ _ | receiveEnd _ | readFailed _ _ | timerIdle _ _ | writeDone _
  | world => rfl
  | disconnected _ _ _ => rw [View.close_rating]
  | timerWiden _ _ h =>
    rw [h.rating]
    rfl
  | packet _ h =>
    rcases h.rating with hrating | ⟨token, id, rating, rfl⟩
    · rw [hrating]
    · -- who has just logged in has the status `LOGIN`
      refine Function.update_of_ne ?_ _ _
      rintro rfl
      have hlogin : Function.update v.stat _ Status.login _ = _ := hk
      rw [Function.update_self] at hlogin
      cases hlogin

/-! ### Brackets -/

namespace View

/-- The queue of the bracket to which the rating of a session belongs. -/
def bracket (v : View) (n : SessionId) : QueId := (checkRating (v.rating n)).que

/-- The entries of the queue of a bracket that are valid belong to this bracket. -/
def BracketsOk (v : View) : Prop :=
  ∀ k r, v.waiting k = true → r ≠ sharedQue → k ∈ v.matchingQue r → v.bracket k = r

/-- A connected session finds an opponent who waits in the queue of its bracket. -/
def MeetsOpponent (v : View) (n : SessionId) : Prop :=
  v.isOpen n = true ∧ ∃ m, v.matchingQue (v.bracket n) = [m] ∧ m ≠ n ∧ v.waiting m = true

/-- A rank request of `n` revives no entry in the queue of another bracket: there is none, or
the request is answered at once. -/
def EntersBracket (v : View) (n : SessionId) : Prop :=
  (∀ r, r ≠ sharedQue → n ∈ v.matchingQue r → v.bracket n = r) ∨ v.MeetsOpponent n

/-- A rank request of a connected session revives no entry in the queue of another bracket. -/
def KeepsBrackets (v : View) (e : Event) : Prop :=
  ∀ n, v.Handles e n .playRankReq → v.isOpen n = true → v.EntersBracket n

variable {v w : View} {n : SessionId} {r : QueId}

/-- The call of a rank request goes to the bracket of the session, and the call of a timer is
made for a session that waits already. -/
lemma call_eq_some {e : Event} (h : v.call e = some (n, r)) :
    v.Handles e n .playRankReq ∧ r = v.bracket n ∨ r = sharedQue ∧ v.stat n = .matchRequest := by
  cases e with
  | packet answers =>
    simp only [call] at h
    split at h
    · rename_i m rest hcur
      obtain ⟨rfl, rfl⟩ := Prod.mk.inj (Option.some.inj h)
      exact Or.inl ⟨⟨answers, rest, rfl, hcur⟩, rfl⟩
    · cases h
  | timer m i answers =>
    obtain ⟨hst, h⟩ := Option.ite_none_right_eq_some.1 h
    obtain ⟨rfl, rfl⟩ := Prod.mk.inj (Option.some.inj h)
    exact Or.inr ⟨rfl, hst⟩
  | startAccept | acceptDone _ _ | receive _ _ | receiveEnd | receiveError _ _ _
  | writeDone _ _ | world _ _ => cases h

lemma call_of_handles {e : Event} (h : v.Handles e n .playRankReq) :
    v.call e = some (n, v.bracket n) := by
  obtain ⟨answers, rest, rfl, hcur⟩ := h
  simp [call, hcur, bracket]

/-- A request that meets an opponent is answered at once. -/
lemma Arrival.answered (h : v.Arrival n r w) (hr : r = v.bracket n) (hmeets : v.MeetsOpponent n) :
    w.stat n ≠ .matchRequest := by
  intro hst
  obtain ⟨hopen, m, hque, hne, hm⟩ := hmeets
  simp only [waiting, Bool.and_eq_true, decide_eq_true_eq] at hm
  have hwait : v.waitingWith n m = true ∧ v.waitingWith n n = true := by
    simp only [waitingWith, Bool.and_eq_true, decide_eq_true_eq]
    rw [Function.update_of_ne hne, Function.update_self]
    exact ⟨hm, hopen, rfl⟩
  have hserve : (serve (v.waitingWith n) (v.matchingQue r ++ [n])).1 = some (m, n) := by
    rw [hr, hque]
    simp [serve, hwait, hne]
  exact ((h.request hst).2 m n hserve).2 rfl

end View

/-- **Valid entries belong to their bracket**, one step. -/
theorem ViewStep.bracketsOk {v w : View} {e : Event} (h : ViewStep v e w) (hv : v.BracketsOk)
    (hkeeps : v.KeepsBrackets e) : w.BracketsOk := by
  intro k r' hk hr' hmem
  have hst : w.stat k = .matchRequest := by
    simp only [View.waiting, Bool.and_eq_true, decide_eq_true_eq] at hk
    exact hk.2
  have hbracket : w.bracket k = v.bracket k := by
    unfold View.bracket
    rw [h.rating_eq hst]
  rw [hbracket]
  rcases h.call_cases with ⟨n, r, hcall, harr⟩ | ⟨-, hsame⟩
  · have hopen : v.isOpen k = true := by
      simp only [View.waiting, Bool.and_eq_true] at hk
      rw [← harr.isOpen]
      exact hk.1
    -- the entry was there before the call, or it is the new one
    have hentry : k ∈ v.matchingQue r' ∨ k = n ∧ r' = r := by
      rw [harr.matchingQue] at hmem
      by_cases hrr : r' = r
      · subst hrr
        rw [Function.update_self] at hmem
        rcases List.mem_append.1 (serve_subset hmem) with hold | hnew
        · exact Or.inl hold
        · exact Or.inr ⟨List.mem_singleton.1 hnew, rfl⟩
      · rw [Function.update_of_ne hrr] at hmem
        exact Or.inl hmem
    by_cases hwait : v.stat k = .matchRequest
    · have hwaiting : v.waiting k = true := by simp [View.waiting, hopen, hwait]
      rcases hentry with hold | ⟨rfl, rfl⟩
      · exact hv k r' hwaiting hr' hold
      · rcases View.call_eq_some hcall with ⟨-, hr⟩ | ⟨hr, -⟩
        · exact hr.symm
        · exact absurd hr hr'
    · -- a session that did not wait before is the one that makes the request
      obtain rfl : k = n := by
        by_contra hkn
        have hreq := (harr.request hst).1
        rw [Function.update_of_ne hkn] at hreq
        exact hwait hreq
      rcases View.call_eq_some hcall with ⟨hthis, hr⟩ | ⟨-, hst'⟩
      · rcases hentry with hold | ⟨-, rfl⟩
        · rcases hkeeps k hthis hopen with hown | hmeets
          · exact hown r' hr' hold
          · exact absurd hst (harr.answered hr hmeets)
        · exact hr.symm
      · exact absurd hst' hwait
  · rw [hsame.matchingQue] at hmem
    exact hv k r' (hsame.waiting k hk) hr' hmem

/-- A step forms at most one pair, of two entries of the queue that a call serves. -/
lemma ViewStep.rankMatches_cases {v w : View} {e : Event} (h : ViewStep v e w) :
    rankMatches w.log = rankMatches v.log ∨ ∃ n r a b, v.call e = some (n, r) ∧
      (serve (v.waitingWith n) (v.matchingQue r ++ [n])).1 = some (a, b) ∧
      rankMatches w.log = (r, a, b) :: rankMatches v.log := by
  rcases h.call_cases with ⟨n, r, hcall, harr⟩ | ⟨-, hsame⟩
  · cases hserve : (serve (v.waitingWith n) (v.matchingQue r ++ [n])).1 with
    | none => exact Or.inl (harr.nobody hserve).2.rankMatches_eq
    | some p =>
      obtain ⟨a, b⟩ := p
      obtain ⟨-, key, log, hlog, heq⟩ := harr.pair a b hserve
      refine Or.inr ⟨n, r, a, b, hcall, hserve, ?_⟩
      rw [heq, ← hlog.rankMatches_eq]
      rfl
  · obtain ⟨new, hlog, hnew⟩ := hsame.log
    rw [hlog, rankMatches_append hnew]
    exact Or.inl rfl

/-- The pair of a step belongs to the bracket of its queue. -/
lemma ViewStep.pair_brackets {v w : View} {e : Event} (h : ViewStep v e w) (hv : v.BracketsOk)
    {new : List Mark} (hlog : w.log = new ++ v.log) {r : QueId} {a b : SessionId}
    (hm : (r, a, b) ∈ rankMatches new) (hr : r ≠ sharedQue) :
    v.bracket a = r ∧ v.bracket b = r := by
  have hmatches : rankMatches w.log = rankMatches new ++ rankMatches v.log := by
    rw [hlog]
    exact List.filterMap_append
  rcases h.rankMatches_cases with heq | ⟨n, r', a', b', hcall, hserve, heq⟩
  · rw [List.self_eq_append_left.1 (heq.symm.trans hmatches)] at hm
    cases hm
  · have hone : rankMatches new = [(r', a', b')] :=
      List.append_cancel_right (hmatches.symm.trans heq)
    rw [hone] at hm
    obtain ⟨rfl, rfl, rfl⟩ : r = r' ∧ a = a' ∧ b = b' := by simpa using hm
    obtain ⟨ha, hb, -, hque⟩ := serve_pair hserve
    -- the partners are entries of the queue, or the session that has just asked
    have hentry : ∀ k ∈ v.matchingQue r ++ [n], v.waitingWith n k = true → v.bracket k = r := by
      intro k hk hwait
      simp only [View.waitingWith, Bool.and_eq_true, decide_eq_true_eq] at hwait
      rcases View.call_eq_some hcall with ⟨-, hown⟩ | ⟨hshared, -⟩
      · by_cases hkn : k = n
        · rw [hkn]
          exact hown.symm
        · rw [Function.update_of_ne hkn] at hwait
          refine hv k r (by simp [View.waiting, hwait]) hr ?_
          simpa [hkn] using hk
      · exact absurd hshared hr
    rw [hque] at hentry
    exact ⟨hentry a List.mem_cons_self ha,
      hentry b (List.mem_cons_of_mem _ List.mem_cons_self) hb⟩

/-- **Brackets are respected.**  In a run in which no rank request revives an entry in the queue
of another bracket, a pair that is matched from the queue of a bracket consists of two sessions
whose ratings belong to this bracket. -/
theorem brackets_respected {s : Server} (h : ReachedBy (fun s e => s.view.KeepsBrackets e) s)
    {e : Event} {s' : Server} (hstep : Step s e s') {new : List Mark}
    (hlog : s'.log = new ++ s.log) {r : QueId} {a b : SessionId} {statA statB : Status}
    {openA openB : Bool} (hm : Mark.rankMatch r a b statA statB openA openB ∈ new)
    (hr : r ≠ sharedQue) :
    (checkRating (s.sess a).ratingScore).que = r ∧
      (checkRating (s.sess b).ratingScore).que = r := by
  have hv : s.view.BracketsOk := by
    refine ReachedBy.view_invariant View.KeepsBrackets (P := View.BracketsOk) ?_
      (fun _ _ _ hv hkeeps hstep => hstep.bracketsOk hv hkeeps) h
    intro b k r hk
    have hk' := (View.SameQueues.waitAccept (Boot.init b).view).waiting k hk
    simp [View.waiting, Server.view, Boot.init, Boot.session] at hk'
  exact (view_step hstep).pair_brackets hv hlog (mem_rankMatches hm rfl) hr

/-- `KeepsBrackets` as a computation. -/
private def keepsBracketsTest (s : Server) : Event → Bool
  | .packet _ =>
      match s.current with
      | some (n, .playRankReq :: _) =>
          decide (∀ r, r ≠ sharedQue → n ∈ s.matchingQue r → s.view.bracket n = r)
      | _ => true
  | _ => true

private lemma keepsBrackets_of_test {s : Server} {e : Event} (h : keepsBracketsTest s e = true) :
    s.view.KeepsBrackets e := by
  rintro n ⟨answers, rest, rfl, hcur⟩ -
  have hcur' : s.current = some (n, .playRankReq :: rest) := hcur
  simp only [keepsBracketsTest, hcur'] at h
  exact Or.inl (of_decide_eq_true h)

/-- The users `a` and `b` with ratings of the same bracket. -/
def twoRivals : Boot :=
  { twoUsers with tables := ⟨[⟨lit "a", 3, 1, 350⟩, ⟨lit "b", 0, 2, 320⟩], []⟩ }

/-- Both users have logged in, and the first one waits for a match. -/
private def rivalsLogIn : List Event :=
  [.acceptDone 0 false, .acceptDone 1 false,
    .receive 0 [.joinReq ⟨lit "ta", lit "a"⟩, .playRankReq], .packet ⟨[], [], 1⟩,
    .packet ⟨[], [], 0⟩, .receiveEnd,
    .receive 1 [.joinReq ⟨lit "tb", lit "b"⟩, .playRankReq], .packet ⟨[], [], 1⟩]

/-- Two logged-in users of a bracket are matched. -/
theorem brackets_respected_two_players :
    ∃ s s' new, runIf keepsBracketsTest twoRivals rivalsLogIn = some s ∧
      Step s (.packet ⟨[List.replicate 16 7], [], 0⟩) s' ∧ s'.log = new ++ s.log ∧
      Mark.rankMatch 1 0 1 .matchRequest .matchRequest true true ∈ new ∧
      ((s.sess 0).userId = lit "a" ∧ (s.sess 0).ratingScore = 350) ∧
      ((s.sess 1).userId = lit "b" ∧ (s.sess 1).ratingScore = 320) ∧
      (checkRating (s.sess 0).ratingScore).que = 1 ∧
      (checkRating (s.sess 1).ratingScore).que = 1 := by
  have hrun : ((runIf keepsBracketsTest twoRivals rivalsLogIn).bind fun s =>
        (next s (.packet ⟨[List.replicate 16 7], [], 0⟩)).map fun s' =>
          decide ((s'.log = s'.log.take 3 ++ s.log ∧
            Mark.rankMatch 1 0 1 .matchRequest .matchRequest true true ∈ s'.log.take 3) ∧
            ((s.sess 0).userId = lit "a" ∧ (s.sess 0).ratingScore = 350) ∧
            (s.sess 1).userId = lit "b" ∧ (s.sess 1).ratingScore = 320)) =
      some true := by decide
  obtain ⟨s, hs, hnext⟩ := Option.bind_eq_some_iff.1 hrun
  obtain ⟨s', hs', htest⟩ := Option.map_eq_some_iff.1 hnext
  obtain ⟨⟨hlog, hm⟩, huser, huser'⟩ := of_decide_eq_true htest
  exact ⟨s, s', _, hs, step_of_next hs', hlog, hm, huser, huser',
    brackets_respected (reachedBy_of_runIf (fun _ _ => keepsBrackets_of_test) hs)
      (step_of_next hs') hlog hm (by decide)⟩

/-- The first client asks for a match as `a`, and then, on the same connection, as `b`, who
belongs to another bracket.  The second client asks as `a`. -/
def staleEntry : List Event :=
  [.acceptDone 0 false, .acceptDone 1 false,
    .receive 0 [.joinReq ⟨lit "ta", lit "a"⟩, .playRankReq, .logoutReq,
      .joinReq ⟨lit "tb", lit "b"⟩, .playRankReq],
    .packet ⟨[], [], 1⟩, .packet ⟨[], [], 0⟩, .packet ⟨[], [], 0⟩, .packet ⟨[], [], 1⟩,
    .packet ⟨[], [], 0⟩, .receiveEnd,
    .world (fun token => if token = lit "tc" then some (lit "a") else none) twoUsers.tables,
    .receive 1 [.joinReq ⟨lit "tc", lit "a"⟩, .playRankReq], .packet ⟨[], [], 1⟩]

/-- The entry that the first client has left in the queue of `a` is matched, although the
rating of `b` belongs to another bracket. -/
theorem stale_entry_matched :
    ∃ s s' new, Reachable s ∧ Step s (.packet ⟨[List.replicate 16 7], [], 0⟩) s' ∧
      s'.log = new ++ s.log ∧
      Mark.rankMatch 1 0 1 .matchRequest .matchRequest true true ∈ new ∧
      (s.sess 0).userId = lit "b" ∧ (checkRating (s.sess 0).ratingScore).que = 0 := by
  have hrun : ((run twoUsers staleEntry).bind fun s =>
        (next s (.packet ⟨[List.replicate 16 7], [], 0⟩)).map fun s' =>
          decide ((s'.log = s'.log.take 3 ++ s.log ∧
            Mark.rankMatch 1 0 1 .matchRequest .matchRequest true true ∈ s'.log.take 3) ∧
            (s.sess 0).userId = lit "b" ∧ (checkRating (s.sess 0).ratingScore).que = 0)) =
      some true := by decide
  obtain ⟨s, hs, hnext⟩ := Option.bind_eq_some_iff.1 hrun
  obtain ⟨s', hs', htest⟩ := Option.map_eq_some_iff.1 hnext
  obtain ⟨⟨hlog, hm⟩, huser⟩ := of_decide_eq_true htest
  exact ⟨s, s', _, reachable_of_run hs, step_of_next hs', hlog, hm, huser⟩

/-! ### Timers -/

/-- The entry begins a new request, or a new connection, of the session. -/
def Mark.renews (n : SessionId) : Mark → Prop
  | .accepted k => k = n
  | .setMatchingQue k _ => k = n
  | _ => False

/-- The wait was started by the latest call of `set_matching_que` for the session, on its
current connection, and is not cancelled. -/
def Wait.Current (n : SessionId) (log : List Mark) (wait : Wait) : Prop :=
  wait.cancelled = false ∧ ∃ later r rest, log = later ++ .setMatchingQue n r :: rest ∧
    wait.armed = rest.length + 1 ∧ ∀ m ∈ later, ¬ m.renews n

namespace View

/-- The waits of a session that waits for a match are those of its latest request. -/
def TimersOk (v : View) : Prop :=
  ∀ n, v.stat n = .matchRequest → ∀ wait ∈ v.waits n, wait.Current n v.log

/-- A rank request comes while no timer of the session is pending, or it is answered at once. -/
def KeepsTimers (v : View) (e : Event) : Prop :=
  ∀ n, v.Handles e n .playRankReq → v.waits n = [] ∨ v.MeetsOpponent n

variable {v w : View} {n k : SessionId}

lemma waitAccept_waits (v : View) : v.waitAccept.waits = v.waits := by
  obtain ⟨flag, queue, accepts, new, -, h⟩ := v.waitAccept_eq
  rw [h]

lemma close_waits (v : View) (n : SessionId) : (v.close n).waits = v.waits := by
  rcases v.close_cases n with ⟨-, h⟩ | ⟨-, redis, userIdMap, h⟩ <;> rw [h]
  obtain ⟨flag, queue, accepts, new, -, h⟩ :=
    View.finishClose_eq { v with redis := redis, userIdMap := userIdMap } n
  rw [h]

lemma Served.waits {r : QueId} {b : Bool} (h : v.Served r w b) : w.waits = v.waits := by
  cases h <;> rfl

end View

/-- Only a rank request starts a wait. -/
lemma PacketStep.waits {v w : View} {n : SessionId} {q : Packet} (h : PacketStep v n q w)
    (hq : q ≠ .playRankReq) : w.waits = v.waits := by
  cases h with
  | config _ | other _ | notJoined _ | notLoggedOut _ | notConfirmed _ | refused _ _
  | burnt _ _ _ | loggedOut _ | joined _ _ _ => rfl
  | friends h => cases h <;> rfl
  | relayed h => cases h <;> rfl
  | ranked _ => exact absurd rfl hq
  | confirmed _ =>
    rw [View.close_waits]
    rfl

/-- A step that is no rank request of a session starts no wait for it. -/
lemma ViewStep.waits_subset {v w : View} {e : Event} (h : ViewStep v e w) {k : SessionId}
    (hk : ¬ v.Handles e k .playRankReq) : w.waits k ⊆ v.waits k := by
  have hfired : ∀ n i, Function.update v.waits n ((v.waits n).eraseIdx i) k ⊆ v.waits k := by
    intro n i
    by_cases hkn : k = n
    · subst hkn
      rw [Function.update_self]
      exact List.eraseIdx_subset
    · rw [Function.update_of_ne hkn]
      exact List.Subset.refl _
  cases h with
  | startAccept _ _ =>
    rw [View.waitAccept_waits]
    exact List.Subset.refl _
  | accepted _ _ =>
    unfold View.accept
    rw [View.waitAccept_waits]
    exact List.Subset.refl _
  | acceptFailed _ _ | receive _ _ | receiveEnd _ | readFailed _ _ | writeDone _ | world =>
    exact List.Subset.refl _
  | disconnected _ _ _ =>
    rw [View.close_waits]
    exact List.Subset.refl _
  | timerIdle _ _ => exact hfired _ _
  | timerWiden _ _ h =>
    rw [h.waits]
    exact hfired _ _
  | @packet n q rest answers _ hcur h =>
    by_cases hq : q = .playRankReq
    · subst hq
      have hkn : k ≠ n := by
        rintro rfl
        exact hk ⟨answers, rest, rfl, hcur⟩
      cases h with
      | @ranked u b h =>
        have hu : u.waits k = v.waits k := by
          rw [h.waits]
          rfl
        rcases u.armUnless_cases n b with heq | heq <;> rw [heq]
        · show Function.update u.waits n _ k ⊆ _
          rw [Function.update_of_ne hkn, hu]
          exact List.Subset.refl _
        · rw [hu]
          exact List.Subset.refl _
    · rw [h.waits hq]
      exact List.Subset.refl _

/-- The waits after a rank request of a session without a pending timer. -/
lemma PacketStep.ranked_waits {v w : View} {n : SessionId} (h : PacketStep v n .playRankReq w)
    (hnil : v.waits n = []) :
    w.waits n = [] ∨
      ∃ r, w.log = .setMatchingQue n r :: v.log ∧ w.waits n = [⟨false, w.log.length⟩] := by
  cases h with
  | @ranked u b h =>
    have hu : u.waits n = [] := by
      rw [h.waits]
      exact hnil
    cases h with
    | nobody _ =>
      rcases View.armUnless_cases _ n false with heq | heq
      · rw [heq]
        refine Or.inr ⟨_, rfl, ?_⟩
        show Function.update _ n _ n = _
        rw [Function.update_self, hu]
        rfl
      · rw [heq]
        exact Or.inl hu
    | pair _ _ =>
      -- who was matched arms no timer
      exact Or.inl hu

/-- Who waits for a match after a step waited before, or has made a rank request. -/
lemma ViewStep.request_of_not_handles {v w : View} {e : Event} (h : ViewStep v e w)
    {k : SessionId} (hk : w.stat k = .matchRequest) (hthis : ¬ v.Handles e k .playRankReq) :
    v.stat k = .matchRequest := by
  rcases h.call_cases with ⟨n, r, hcall, harr⟩ | ⟨-, hsame⟩
  · have hst := (harr.request hk).1
    by_cases hkn : k = n
    · subst hkn
      rcases View.call_eq_some hcall with ⟨hreq, -⟩ | ⟨-, hst'⟩
      · exact absurd hreq hthis
      · exact hst'
    · rwa [Function.update_of_ne hkn] at hst
  · exact hsame.request k hk

/-- **The waits belong to the latest request**, one step. -/
theorem ViewStep.timersOk {v w : View} {e : Event} (h : ViewStep v e w) (hv : v.TimersOk)
    (hkeeps : v.KeepsTimers e) : w.TimersOk := by
  intro k hk wait hwait
  by_cases hthis : v.Handles e k .playRankReq
  · -- the wait that this request starts is the only one
    have hnil : v.waits k = [] := by
      rcases hkeeps k hthis with hnil | hmeets
      · exact hnil
      · have hcalled := View.call_of_handles hthis
        rcases h.call_cases with ⟨n, r, hcall, harr⟩ | ⟨hcall, -⟩
        · obtain ⟨rfl, rfl⟩ := Prod.mk.inj (Option.some.inj (hcalled.symm.trans hcall))
          exact absurd hk (harr.answered rfl hmeets)
        · rw [hcalled] at hcall
          cases hcall
    obtain ⟨answers, rest, rfl, hcur⟩ := hthis
    cases h with
    | packet hcur' hpacket =>
      obtain ⟨rfl, hq⟩ := Prod.mk.inj (Option.some.inj (hcur.symm.trans hcur'))
      obtain ⟨rfl, rfl⟩ := List.cons.inj hq
      rcases hpacket.ranked_waits hnil with hempty | ⟨r, hlog, hone⟩
      · rw [hempty] at hwait
        cases hwait
      · rw [hone] at hwait
        obtain rfl := List.mem_singleton.1 hwait
        refine ⟨rfl, [], r, v.log, hlog, ?_, by simp⟩
        rw [hlog]
        rfl
  · obtain ⟨hlive, later, r, rest, hlog, harmed, hlater⟩ :=
      hv k (h.request_of_not_handles hk hthis) wait (h.waits_subset hthis hwait)
    obtain ⟨new, hnew, hmay⟩ := h.logGrows
    refine ⟨hlive, new ++ later, r, rest, by rw [hnew, hlog, List.append_assoc], harmed, ?_⟩
    intro m hm hrenews
    rcases List.mem_append.1 hm with hm | hm
    · cases m with
      | accepted n =>
        obtain rfl : n = k := hrenews
        obtain rfl : e = .acceptDone n false := hmay _ hm
        -- a connection that was just accepted has the status `CONN`
        cases h with
        | accepted _ _ =>
          unfold View.accept at hk
          rw [(View.waitAccept_stat _).1] at hk
          simp [View.setOpen] at hk
      | setMatchingQue n r =>
        obtain rfl : n = k := hrenews
        exact hthis (hmay _ hm)
      | _ => exact hrenews
    · exact hlater m hm hrenews

/-- The search is widened by the timer of a session that waits for a match. -/
lemma ViewStep.widened {v w : View} {e : Event} (h : ViewStep v e w) {new : List Mark}
    (hlog : w.log = new ++ v.log) {n : SessionId} (hm : Mark.widened n ∈ new) :
    (∃ i answers, e = .timer n i answers) ∧ v.stat n = .matchRequest := by
  obtain ⟨new', hlog', hmay⟩ := h.logGrows
  obtain rfl : new = new' := List.append_cancel_right (hlog.symm.trans hlog')
  obtain ⟨i, answers, rfl⟩ := hmay _ hm
  refine ⟨⟨i, answers, rfl⟩, ?_⟩
  cases h with
  | timerIdle _ _ =>
    -- the timer of a session that does not wait does nothing
    rw [List.self_eq_append_left.1 hlog] at hm
    cases hm
  | timerWiden _ hst _ => exact hst

/-- **Only a current timer widens the search.**  In a run in which each rank request comes while
no timer of the session is pending, or is answered at once, a session is put into the shared
queue only by a wait that was not cancelled, and that was started by its latest call of
`set_matching_que`, on its current connection. -/
theorem widened_by_current_timer {s : Server} (h : ReachedBy (fun s e => s.view.KeepsTimers e) s)
    {e : Event} {s' : Server} (hstep : Step s e s') {new : List Mark}
    (hlog : s'.log = new ++ s.log) {n : SessionId} (hm : Mark.widened n ∈ new) :
    ∃ i answers wait, e = .timer n i answers ∧ (s.sess n).waits[i]? = some wait ∧
      wait.Current n s.log := by
  have hv : s.view.TimersOk := by
    refine ReachedBy.view_invariant View.KeepsTimers (P := View.TimersOk) ?_
      (fun _ _ _ hv hkeeps hstep => hstep.timersOk hv hkeeps) h
    intro b n hst
    rw [(View.waitAccept_stat _).1] at hst
    cases hst
  obtain ⟨⟨i, answers, rfl⟩, hst⟩ := (view_step hstep).widened hlog hm
  obtain ⟨t, hprep, -⟩ := step_iff.1 hstep
  obtain ⟨⟨-, hi⟩, -⟩ := Option.ite_none_right_eq_some.1 hprep
  exact ⟨i, answers, _, rfl, List.getElem?_eq_getElem hi, hv n hst _ (List.getElem_mem hi)⟩

/-- `KeepsTimers` as a computation. -/
private def keepsTimersTest (s : Server) : Event → Bool
  | .packet _ =>
      match s.current with
      | some (n, .playRankReq :: _) => (s.sess n).waits.isEmpty
      | _ => true
  | _ => true

private lemma keepsTimers_of_test {s : Server} {e : Event} (h : keepsTimersTest s e = true) :
    s.view.KeepsTimers e := by
  rintro n ⟨answers, rest, rfl, hcur⟩
  have hcur' : s.current = some (n, .playRankReq :: rest) := hcur
  simp only [keepsTimersTest, hcur'] at h
  exact Or.inl (List.isEmpty_iff.1 h)

/-- A client asks for a match, and nobody else is there when its timer expires. -/
theorem widened_by_current_timer_one_request :
    ∃ s s', runIf keepsTimersTest (Boot.plain 2 1 (fun _ => none) ⟨[], []⟩)
        [.acceptDone 0 false, .receive 0 [.playRankReq], .packet ⟨[], [], 0⟩, .receiveEnd] =
          some s ∧
      Step s (.timer 0 0 ⟨[], [], 0⟩) s' ∧ s'.log = [.widened 0] ++ s.log ∧
      ∃ i answers wait, Event.timer 0 0 ⟨[], [], 0⟩ = .timer 0 i answers ∧
        (s.sess 0).waits[i]? = some wait ∧ wait.Current 0 s.log := by
  have hrun : ((runIf keepsTimersTest (Boot.plain 2 1 (fun _ => none) ⟨[], []⟩)
      [.acceptDone 0 false, .receive 0 [.playRankReq], .packet ⟨[], [], 0⟩, .receiveEnd]).bind
        fun s => (next s (.timer 0 0 ⟨[], [], 0⟩)).map fun s' =>
          decide (s'.log = [.widened 0] ++ s.log)) = some true := by decide
  obtain ⟨s, hs, hnext⟩ := Option.bind_eq_some_iff.1 hrun
  obtain ⟨s', hs', htest⟩ := Option.map_eq_some_iff.1 hnext
  have hlog := of_decide_eq_true htest
  exact ⟨s, s', hs, step_of_next hs', hlog,
    widened_by_current_timer (reachedBy_of_runIf (fun _ _ => keepsTimers_of_test) hs)
      (step_of_next hs') hlog (List.mem_singleton_self _)⟩

/-- A client asks for a match twice.  The first wait is cancelled by the second request, and its
handler, which ignores the error code, widens the search at once. -/
theorem cancelled_timer_widens :
    ∃ s s' wait, Reachable s ∧ (s.sess 0).waits[0]? = some wait ∧ wait.cancelled = true ∧
      Step s (.timer 0 0 ⟨[], [], 0⟩) s' ∧ s'.log = [.widened 0] ++ s.log := by
  have hrun : ((run (Boot.plain 2 1 (fun _ => none) ⟨[], []⟩)
      [.acceptDone 0 false, .receive 0 [.playRankReq, .playRankReq], .packet ⟨[], [], 0⟩,
        .packet ⟨[], [], 0⟩, .receiveEnd]).bind
        fun s => (next s (.timer 0 0 ⟨[], [], 0⟩)).map fun s' =>
          decide ((s.sess 0).waits[0]?.map (·.cancelled) = some true ∧
            s'.log = [.widened 0] ++ s.log)) = some true := by decide
  obtain ⟨s, hs, hnext⟩ := Option.bind_eq_some_iff.1 hrun
  obtain ⟨s', hs', htest⟩ := Option.map_eq_some_iff.1 hnext
  obtain ⟨hcancelled, hlog⟩ := of_decide_eq_true htest
  obtain ⟨wait, hwait, hcancelled⟩ := Option.map_eq_some_iff.1 hcancelled
  exact ⟨s, s', wait, reachable_of_run hs, hwait, hcancelled, step_of_next hs', hlog⟩

end ChannelServer
