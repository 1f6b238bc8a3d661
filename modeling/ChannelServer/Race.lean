/-
Two calls on different queues at once.

A session that waits is often an entry of two queues, the one of its rating and the shared
one, and each queue has a mutex of its own.  `get_matching_que` tests the two front entries
of its queue and sets their statuses later, so that a second call, on another queue, can
test the same session in between.

The calls are interleaved action by action (`ChannelServer/Lib/Interleave.lean`).  A call
relies on the other one for its own queue and for the sockets, and guarantees that the pair
that it forms is the one that its queue had to offer at the start; this gives one half of
`no_double_match_iff`.  For the other half both calls are run up to their tests.
-/
import ChannelServer.Lib.Interleave
import ChannelServer.Locks
import ChannelServer.Matching

namespace ChannelServer

open Resumption

/-! ### The calls -/

/-- A call of `set_matching_que` or of `rematching_start`. -/
inductive QueueCall
  | request (n : SessionId) (requestRating : Rating)
  | rematch (n : SessionId)
deriving DecidableEq, Repr

namespace QueueCall

/-- The session for which the call is made. -/
def caller : QueueCall → SessionId
  | request n _ => n
  | rematch n => n

/-- The index of the queue and of the mutex that the call uses. -/
def que : QueueCall → QueId
  | request _ requestRating => requestRating.que
  | rematch _ => sharedQue

def prog : QueueCall → Handler Unit
  | request n requestRating => setMatchingQue n requestRating
  | rematch n => do
      let _ ← rematchingStart n
      pure ()

end QueueCall

/-- Two threads, each in front of its call. -/
def calls (call : Bool → QueueCall) (s : Server) : Threads Bool Server Fault Unit :=
  ⟨fun i => (call i).prog, s⟩

/-- The session is one of a pair that was formed from the queue. -/
def PairedIn (r : QueId) (k : SessionId) (log : List Mark) : Prop :=
  ∃ a b, (r, a, b) ∈ rankMatches log ∧ (k = a ∨ k = b)

variable (call : Bool → QueueCall) (s₀ : Server)

/-- The session waits for a match, or one of the calls sets its status so. -/
def Asks (k : SessionId) : Prop :=
  (s₀.sess k).stat = .matchRequest ∨ ∃ i requestRating, call i = .request k requestRating

/-- The call finds the player `a` in its queue, and its caller a second one. -/
structure Finds (i : Bool) (a : SessionId) : Prop where
  queue : s₀.matchingQue (call i).que = [a]
  ne : a ≠ (call i).caller
  open_front : (s₀.sess a).isOpen = true
  open_caller : (s₀.sess (call i).caller).isOpen = true
  asks_front : Asks call s₀ a
  asks_caller : Asks call s₀ (call i).caller

/-- Both calls find a player, and the two pairs share a session. -/
def Conflict : Prop :=
  ∃ a b, Finds call s₀ false a ∧ Finds call s₀ true b ∧
    ∃ k, (k = a ∨ k = (call false).caller) ∧ (k = b ∨ k = (call true).caller)

/-! ### What a call relies on, and what it guarantees -/

namespace View

/-- No socket was opened or closed since the start, and only sessions that ask wait. -/
structure Calm (v : View) : Prop where
  isOpen : ∀ k, v.isOpen k = (s₀.sess k).isOpen
  stat : ∀ k, v.stat k = .matchRequest → Asks call s₀ k

/-- What a call relies on for the actions of the other one. -/
structure CallRely (i : Bool) (v w : View) : Prop where
  calm : v.Calm call s₀ → w.Calm call s₀
  que : w.matchingQue (call i).que = v.matchingQue (call i).que

/-- What a call guarantees of its actions. -/
structure CallGuarantee (i : Bool) (v w : View) : Prop where
  calm : v.Calm call s₀ → w.Calm call s₀
  others : ∀ r, r ≠ (call i).que → w.matchingQue r = v.matchingQue r
  log : ∃ new, w.log = new ++ v.log ∧ ∀ r a b, (r, a, b) ∈ rankMatches new →
    r = (call i).que ∧ Finds call s₀ i a ∧ b = (call i).caller

variable {call s₀} {i : Bool} {v w : View}

lemma CallRely.refl (v : View) : CallRely call s₀ i v v := ⟨fun h => h, rfl⟩

lemma CallRely.trans {u : View} (h₁ : CallRely call s₀ i u v) (h₂ : CallRely call s₀ i v w) :
    CallRely call s₀ i u w := ⟨fun h => h₂.calm (h₁.calm h), h₂.que.trans h₁.que⟩

/-- The guarantee of one call is what the other one relies on. -/
lemma CallGuarantee.rely {j : Bool} (hque : (call j).que ≠ (call i).que)
    (h : CallGuarantee call s₀ i v w) : CallRely call s₀ j v w := ⟨h.calm, h.others _ hque⟩

/-- An action that forms no pair. -/
lemma CallGuarantee.of_log (hopen : w.isOpen = v.isOpen)
    (hstat : ∀ k, w.stat k = .matchRequest → v.stat k = .matchRequest ∨ Asks call s₀ k)
    (hothers : ∀ r, r ≠ (call i).que → w.matchingQue r = v.matchingQue r)
    (new : List Mark) (hlog : w.log = new ++ v.log) (hnew : rankMatches new = []) :
    CallGuarantee call s₀ i v w := by
  refine ⟨fun hv => ⟨fun k => ?_, fun k hk => ?_⟩, hothers, new, hlog, ?_⟩
  · rw [hopen]
    exact hv.isOpen k
  · rcases hstat k hk with hk | hk
    · exact hv.stat k hk
    · exact hk
  · intro r a b hmem
    rw [hnew] at hmem
    cases hmem

lemma CallGuarantee.refl (v : View) : CallGuarantee call s₀ i v v :=
  .of_log rfl (fun _ h => Or.inl h) (fun _ _ => rfl) [] rfl rfl

end View

/-- Every action of the program meets the guarantee, whatever the state is. -/
abbrev Guarded (i : Bool) {α : Type} (p : Handler α) : Prop :=
  Prog.Within (fun s t => View.CallGuarantee call s₀ i s.view t.view) p

variable {call s₀} {i : Bool}

lemma guarded_of_quiet {α : Type} {p : Handler α} (h : Quiet p) : Guarded call s₀ i p :=
  h.mono fun s t hst => by
    rw [hst]
    exact .refl s.view

/-- A status other than `MATCH_REQUEST` is set. -/
lemma guarded_setStatus {n : SessionId} {st : Status} (hst : st ≠ .matchRequest) :
    Guarded call s₀ i (setStatus n st) := by
  refine Prog.within_modify fun s => ?_
  rw [view_setStatus (rfl : (setStatus n st).run s = .done () _)]
  refine .of_log rfl (fun k hk => Or.inl ?_) (fun _ _ => rfl) [] rfl rfl
  exact (View.SameQueues.setStat s.view n st hst).request k hk

lemma guarded_roomKeyLoop (k : ℕ) : Guarded call s₀ i (roomKeyLoop k) := by
  induction k with
  | zero => exact Prog.within_fail _
  | succ k ih =>
    refine Prog.within_bind (guarded_of_quiet ?_) fun key =>
      Prog.within_bind (guarded_of_quiet (quiet_read _)) fun kv => ?_
    · -- drawing a random number
      refine ⟨fun s b t hs => ?_, fun _ => trivial⟩
      dsimp only at hs
      split at hs
      · cases hs
      · obtain ⟨-, rfl⟩ := Res.ok.inj hs
        rfl
    · cases kv with
      | none =>
        refine Prog.within_bind (Prog.within_modify fun s => ?_) fun _ => Prog.within_pure _
        exact .of_log rfl (fun _ h => Or.inl h) (fun _ _ => rfl) [] rfl rfl
      | some _ => exact ih

lemma guarded_makeMatchingAndSendComplete (a b : SessionId) :
    Guarded call s₀ i (makeMatchingAndSendComplete a b) := by
  have hsend : ∀ n key opponent, Guarded call s₀ i (sendComplete n key opponent) := by
    intro n key opponent
    refine Prog.within_bind (guarded_setStatus (by simp)) fun _ =>
      Prog.within_bind (Prog.within_modify fun s => ?_) fun _ =>
        guarded_of_quiet (quiet_sendMessage _ _)
    rw [view_setRoomKey (rfl : (setRoomKey n key).run s = .done () _)]
    exact .of_log rfl (fun _ h => Or.inl h) (fun _ _ => rfl) [] rfl rfl
  refine Prog.within_bind (Prog.within_bind (guarded_of_quiet (quiet_read _)) fun _ =>
    guarded_roomKeyLoop _) fun key => Prog.within_bind (Prog.within_modify fun s => ?_) fun _ =>
    Prog.within_bind (guarded_of_quiet (quiet_matchInfo _)) fun _ =>
    Prog.within_bind (guarded_of_quiet (quiet_matchInfo _)) fun _ =>
    Prog.within_bind (hsend _ _ _) fun _ => hsend _ _ _
  exact .of_log rfl (fun _ h => Or.inl h) (fun _ _ => rfl) [_] rfl rfl

lemma guarded_controlTimerRematch (n : SessionId) (sec : ℤ) :
    Guarded call s₀ i (controlTimerRematch n sec true) := by
  refine Prog.within_ite (Prog.within_bind (Prog.within_modify fun s => ?_) fun _ =>
    Prog.within_modify fun s => ?_) (Prog.within_pure _)
  all_goals
    rw [view_setSess]
    refine .of_log ?_ (fun k hk => Or.inl ?_) (fun _ _ => rfl) [] rfl rfl
    · exact Function.update_eq_self n _
    · have hstat := congrFun (Function.update_eq_self n s.view.stat) k
      exact hstat.symm.trans hk

/-! ### Each call under interference -/

variable (call s₀) in
/-- A pre- and postcondition of the call `i`, with the other call at work. -/
abbrev CallTriple (i : Bool) {α : Type} (P : Server → Prop) (p : Handler α)
    (Q : α → Server → Prop) : Prop :=
  RelyTriple (fun s t => View.CallRely call s₀ i s.view t.view)
    (fun s t => View.CallGuarantee call s₀ i s.view t.view) P p Q

variable (call s₀) in
/-- The queue of the call `i` is `q`, and all is calm. -/
def QueueIs (i : Bool) (q : List SessionId) (s : Server) : Prop :=
  s.view.Calm call s₀ ∧ s.matchingQue (call i).que = q

section Interference

variable {q : List SessionId} {α β : Type} {P : Server → Prop}

lemma QueueIs.stable : Stable (fun s t => View.CallRely call s₀ i s.view t.view)
    (QueueIs call s₀ i q) := fun _ _ hs hst => ⟨hst.calm hs.1, hst.que.trans hs.2⟩

lemma QueueIs.stable_and (c : Prop) : Stable (fun s t => View.CallRely call s₀ i s.view t.view)
    (fun s => QueueIs call s₀ i q s ∧ c) := fun s t hs hst => ⟨QueueIs.stable s t hs.1 hst, hs.2⟩

lemma call_bind {Q : α → Server → Prop} {S : β → Server → Prop} {p : Handler α}
    {f : α → Handler β} (hp : CallTriple call s₀ i P p Q)
    (hf : ∀ a, CallTriple call s₀ i (Q a) (f a) S) : CallTriple call s₀ i P (p >>= f) S :=
  RelyTriple.bind (fun s => View.CallRely.refl s.view) hp hf

lemma call_done (a : α) : CallTriple call s₀ i P (pure a) fun _ _ => True :=
  rely_pure (fun _ _ _ _ => trivial) fun _ _ => trivial

/-- An action that leaves the view as it is. -/
lemma call_quiet {f : Server → Res Server Fault α}
    (hf : ∀ s a t, f s = .ok a t → t.view = s.view) :
    CallTriple call s₀ i (QueueIs call s₀ i q) (.act f .ret) fun _ => QueueIs call s₀ i q := by
  refine rely_act QueueIs.stable (fun _ => QueueIs.stable) fun s a t hs hft => ?_
  have hv := hf s a t hft
  constructor
  · rw [hv]
    exact .refl s.view
  · have hque : t.matchingQue = s.matchingQue := congrArg View.matchingQue hv
    refine ⟨?_, ?_⟩
    · rw [hv]
      exact hs.1
    · rw [hque]
      exact hs.2

lemma call_lock (m : Mutex) :
    CallTriple call s₀ i (QueueIs call s₀ i q) (lock m) fun _ => QueueIs call s₀ i q := by
  refine call_quiet fun s a t h => ?_
  split at h
  · obtain ⟨-, rfl⟩ := Res.ok.inj h
    rfl
  · cases h

/-- A read, and what the state says about its result. -/
lemma call_read {f : Server → α} {c : α → Prop} (h : ∀ s, QueueIs call s₀ i q s → c (f s)) :
    CallTriple call s₀ i (QueueIs call s₀ i q) (Prog.read f)
      fun a s => QueueIs call s₀ i q s ∧ c a :=
  rely_atomic QueueIs.stable (fun _ => QueueIs.stable_and _) fun s hs =>
    ⟨.refl s.view, hs, h s hs⟩

/-- An entry that is no pair is added to the log. -/
lemma call_mark {m : Server → Mark} (hm : ∀ s, rankMatches [m s] = []) :
    CallTriple call s₀ i (QueueIs call s₀ i q) (mark m) fun _ => QueueIs call s₀ i q := by
  refine rely_atomic QueueIs.stable (fun _ => QueueIs.stable) fun s hs =>
    ⟨?_, ⟨hs.1.isOpen, hs.1.stat⟩, hs.2⟩
  exact .of_log rfl (fun _ h => Or.inl h) (fun _ _ => rfl) [m s] rfl (hm s)

/-- The queue of the call is replaced. -/
lemma guarantee_setQue (s : Server) (q : List SessionId) :
    View.CallGuarantee call s₀ i s.view
      ({ s with matchingQue := Function.update s.matchingQue (call i).que q } : Server).view :=
  .of_log rfl (fun _ h => Or.inl h) (fun _ hr => Function.update_of_ne hr _ _) [] rfl rfl

lemma QueueIs.setQue {s : Server} (h : QueueIs call s₀ i q s) (q' : List SessionId) :
    QueueIs call s₀ i q'
      { s with matchingQue := Function.update s.matchingQue (call i).que q' } :=
  ⟨⟨h.1.isOpen, h.1.stat⟩, Function.update_self _ _ _⟩

lemma call_quePushBack (n : SessionId) :
    CallTriple call s₀ i (QueueIs call s₀ i q) (quePushBack (call i).que n)
      fun _ => QueueIs call s₀ i (q ++ [n]) := by
  refine rely_atomic QueueIs.stable (fun _ => QueueIs.stable) fun s hs =>
    ⟨guarantee_setQue s _, ?_⟩
  obtain ⟨hcalm, rfl⟩ := hs
  exact QueueIs.setQue ⟨hcalm, rfl⟩ _

lemma call_quePushFront (n : SessionId) :
    CallTriple call s₀ i (QueueIs call s₀ i q) (quePushFront (call i).que n)
      fun _ => QueueIs call s₀ i (n :: q) := by
  refine rely_atomic QueueIs.stable (fun _ => QueueIs.stable) fun s hs =>
    ⟨guarantee_setQue s _, ?_⟩
  obtain ⟨hcalm, rfl⟩ := hs
  exact QueueIs.setQue ⟨hcalm, rfl⟩ _

lemma call_queFront (a : SessionId) :
    CallTriple call s₀ i (QueueIs call s₀ i (a :: q)) (queFront (call i).que)
      fun b s => QueueIs call s₀ i (a :: q) s ∧ b = a := by
  refine rely_act QueueIs.stable (fun _ => QueueIs.stable_and _) fun s b t hs h => ?_
  simp only [hs.2] at h
  obtain ⟨rfl, rfl⟩ := Res.ok.inj h
  exact ⟨.refl s.view, hs, rfl⟩

lemma call_quePopFront (a : SessionId) :
    CallTriple call s₀ i (QueueIs call s₀ i (a :: q)) (quePopFront (call i).que)
      fun _ => QueueIs call s₀ i q := by
  refine rely_act QueueIs.stable (fun _ => QueueIs.stable) fun s u t hs h => ?_
  simp only [hs.2] at h
  obtain ⟨-, rfl⟩ := Res.ok.inj h
  exact ⟨guarantee_setQue s q, hs.setQue q⟩

/-- A session that passes the test was open at the start and asks. -/
lemma call_isWaiting (k : SessionId) :
    CallTriple call s₀ i (QueueIs call s₀ i q) (isWaiting k) fun b s =>
      QueueIs call s₀ i q s ∧ (b = true → (s₀.sess k).isOpen = true ∧ Asks call s₀ k) := by
  have hopen : ∀ s, QueueIs call s₀ i q s → (s.sess k).isOpen = (s₀.sess k).isOpen :=
    fun s hs => hs.1.isOpen k
  have hstat : ∀ s, QueueIs call s₀ i q s → (s.sess k).stat = .matchRequest → Asks call s₀ k :=
    fun s hs => hs.1.stat k
  refine call_bind (call_read (c := fun b => b = (s₀.sess k).isOpen) hopen) fun b =>
    rely_of_imp fun hb => rely_ite ?_ ?_
  · intro htrue
    refine call_bind (call_read (c := fun st => st = .matchRequest → Asks call s₀ k) hstat)
      fun st => rely_of_imp fun hst => ?_
    refine rely_pure (QueueIs.stable_and _) fun s hs => ⟨hs, fun hreq => ?_⟩
    rw [← hb]
    exact ⟨htrue, hst (of_decide_eq_true hreq)⟩
  · intro _
    exact rely_pure (QueueIs.stable_and _) fun s hs => ⟨hs, fun h => by cases h⟩

/-- **The pair of a call**, with the other call at work: it consists of the only entry that
the queue had at the start and of the caller. -/
lemma call_selectPlayers (hlen : (s₀.matchingQue (call i).que).length ≤ 1) :
    CallTriple call s₀ i
      (QueueIs call s₀ i (s₀.matchingQue (call i).que ++ [(call i).caller]))
      (selectPlayers (call i).que) fun _ _ => True := by
  generalize hn : (call i).caller = n
  have hsize : ∀ q' s, QueueIs call s₀ i q' s → (s.matchingQue (call i).que).length = q'.length :=
    fun q' s hs => by rw [hs.2]
  match hq : s₀.matchingQue (call i).que, hlen with
  | [], _ =>
    -- the caller is alone in the queue
    refine call_bind (call_read (c := fun size => size = 1) (hsize _)) fun size =>
      rely_of_imp fun hsize => rely_ite (fun hgt => ?_) fun _ => call_done _
    omega
  | [a], _ =>
    refine call_bind (call_read (c := fun size => size = 2) (hsize _)) fun size =>
      rely_of_imp fun _ => rely_ite (fun _ => ?_) fun _ => call_done _
    refine call_bind (call_queFront a) fun b => rely_of_imp ?_
    rintro rfl
    refine call_bind (call_quePopFront b) fun _ => call_bind (call_isWaiting b) fun waiting =>
      rely_of_imp fun hfront => rely_ite (fun htrue => ?_) fun _ => call_done _
    obtain ⟨hopen, hasks⟩ := hfront htrue
    refine call_bind (call_queFront n) fun m => rely_of_imp ?_
    rintro rfl
    refine call_bind (call_quePopFront m) fun _ => call_bind (call_isWaiting m) fun waiting' =>
      rely_of_imp fun hcaller => rely_ite (fun _ => ?_) fun hpair => ?_
    · exact call_bind (call_quePushFront b) fun _ => call_done _
    · have hwaiting : waiting' = true := by
        cases waiting' with
        | true => rfl
        | false => exact absurd (Or.inl rfl) hpair
      have hne : b ≠ m := fun h => hpair (Or.inr h)
      obtain ⟨hopen', hasks'⟩ := hcaller hwaiting
      have hfinds : Finds call s₀ i b := by
        subst hn
        exact ⟨hq, hne, hopen, hopen', hasks, hasks'⟩
      refine call_bind (Q := fun _ _ => True) ?_ fun _ => call_done _
      refine rely_atomic QueueIs.stable (fun _ _ _ _ _ => trivial) fun s hs => ⟨?_, trivial⟩
      refine ⟨fun hv => ⟨hv.isOpen, hv.stat⟩, fun _ _ => rfl, [_], rfl, ?_⟩
      intro r a' b' hmem
      simp only [rankMatches, List.filterMap_cons, List.filterMap_nil, List.mem_singleton,
        Prod.mk.injEq] at hmem
      obtain ⟨rfl, rfl, rfl⟩ := hmem
      exact ⟨rfl, hfinds, hn.symm⟩

lemma call_getMatchingQue (hlen : (s₀.matchingQue (call i).que).length ≤ 1) :
    CallTriple call s₀ i
      (QueueIs call s₀ i (s₀.matchingQue (call i).que ++ [(call i).caller]))
      (getMatchingQue (call i).que) fun _ _ => True := by
  refine call_bind (call_selectPlayers hlen) fun pair => ?_
  cases pair with
  | none => exact call_done _
  | some pair =>
    have hguarded : Guarded call s₀ i (makeMatchingAndSendComplete pair.1 pair.2) :=
      guarded_makeMatchingAndSendComplete pair.1 pair.2
    exact call_bind (rely_of_within hguarded) fun _ => call_done _

/-- The status of a session that asks becomes `MATCH_REQUEST`. -/
lemma call_setStatus {n : SessionId} (hn : Asks call s₀ n) :
    CallTriple call s₀ i (QueueIs call s₀ i q) (setStatus n .matchRequest)
      fun _ => QueueIs call s₀ i q := by
  have hview : ∀ s : Server, (s.setSess n { s.sess n with stat := .matchRequest }).view =
      s.view.setStat n .matchRequest := fun s =>
    view_setStatus (rfl : (setStatus n .matchRequest).run s = .done () _)
  have hstat : ∀ (s : Server) k, (s.view.setStat n .matchRequest).stat k = .matchRequest →
      s.view.stat k = .matchRequest ∨ Asks call s₀ k := by
    intro s k hk
    have hk' : Function.update s.view.stat n .matchRequest k = .matchRequest := hk
    by_cases hkn : k = n
    · subst hkn
      exact Or.inr hn
    · rw [Function.update_of_ne hkn] at hk'
      exact Or.inl hk'
  have hguarantee : ∀ s : Server, View.CallGuarantee call s₀ i s.view
      (s.setSess n { s.sess n with stat := .matchRequest }).view := by
    intro s
    rw [hview]
    exact .of_log rfl (hstat s) (fun _ _ => rfl) [] rfl rfl
  exact rely_atomic QueueIs.stable (fun _ => QueueIs.stable) fun s hs =>
    ⟨hguarantee s, (hguarantee s).calm hs.1, hs.2⟩

lemma call_request {n : SessionId} {requestRating : Rating}
    (hc : call i = .request n requestRating) (hlen : (s₀.matchingQue (call i).que).length ≤ 1) :
    CallTriple call s₀ i (QueueIs call s₀ i (s₀.matchingQue (call i).que))
      (setMatchingQue n requestRating) fun _ _ => True := by
  have hget := call_getMatchingQue hlen
  have hque : requestRating.que = (call i).que := by rw [hc]; rfl
  have hcaller : (call i).caller = n := by rw [hc]; rfl
  rw [hcaller] at hget
  unfold setMatchingQue
  rw [hque]
  have hn : Asks call s₀ n := Or.inr ⟨i, requestRating, hc⟩
  refine call_bind (call_mark fun _ => rfl) fun _ => call_bind (call_lock _) fun _ =>
    call_bind (call_quePushBack n) fun _ => call_bind (call_setStatus hn) fun _ =>
    call_bind hget fun paired => rely_of_within ?_
  have hunlock : Guarded call s₀ i (unlock (.rankQueMtx (call i).que)) :=
    guarded_of_quiet (quiet_unlock _)
  refine Prog.within_ite hunlock ?_
  refine Prog.within_bind (guarded_of_quiet (quiet_read _)) fun timerValue => ?_
  refine Prog.within_ite ?_ hunlock
  exact Prog.within_bind (guarded_controlTimerRematch _ _) fun _ => hunlock

lemma call_rematch {n : SessionId} (hc : call i = .rematch n)
    (hlen : (s₀.matchingQue (call i).que).length ≤ 1) :
    CallTriple call s₀ i (QueueIs call s₀ i (s₀.matchingQue (call i).que))
      (rematchingStart n) fun _ _ => True := by
  have hget := call_getMatchingQue hlen
  have hque : sharedQue = (call i).que := by rw [hc]; rfl
  have hcaller : (call i).caller = n := by rw [hc]; rfl
  rw [hcaller] at hget
  unfold rematchingStart
  rw [hque]
  refine call_bind (call_read (c := fun _ => True) fun _ _ => trivial) fun st =>
    rely_of_imp fun _ => rely_ite (fun _ => ?_) fun _ => call_done _
  refine call_bind (call_lock _) fun _ => call_bind (call_mark fun _ => rfl) fun _ =>
    call_bind (call_quePushBack n) fun _ => call_bind hget fun paired => rely_of_within ?_
  exact Prog.within_bind (guarded_of_quiet (quiet_unlock _)) fun _ => Prog.within_pure _

/-- **A call under interference**: it forms no pair but the one that its queue had to offer. -/
theorem call_prog (hlen : (s₀.matchingQue (call i).que).length ≤ 1) :
    CallTriple call s₀ i (QueueIs call s₀ i (s₀.matchingQue (call i).que)) (call i).prog
      fun _ _ => True := by
  cases hc : call i with
  | request n requestRating =>
    have h := call_request hc hlen
    rw [hc] at h
    exact h
  | rematch n =>
    have h := call_rematch hc hlen
    rw [hc] at h
    exact call_bind h fun _ => call_done _

end Interference

/-- Whatever the schedule is, each pair is one that a call had to offer at the start. -/
theorem calls_rankMatches {s : Server} (h : Reachable s)
    (hque : (call false).que ≠ (call true).que) {answers : Answers}
    {t : Threads Bool Server Fault Unit}
    (ht : (calls call { s with answers := answers }).Reaches t) :
    ∃ new, t.state.log = new ++ s.log ∧ ∀ r a b, (r, a, b) ∈ rankMatches new →
      ∃ i, r = (call i).que ∧ Finds call s i a ∧ b = (call i).caller := by
  have hne : ∀ i j, j ≠ i → (call j).que ≠ (call i).que := by
    intro i j hji
    cases i <;> cases j
    · exact absurd rfl hji
    · exact hque.symm
    · exact hque
    · exact absurd rfl hji
  have htrans : ∀ i (s' t' u' : Server), View.CallRely call s i s'.view t'.view →
      View.CallRely call s i t'.view u'.view → View.CallRely call s i s'.view u'.view :=
    fun i s' t' u' h₁ h₂ => h₁.trans h₂
  have hstart : ∀ i, QueueIs call s i (s.matchingQue (call i).que)
      { s with answers := answers } := fun i => ⟨⟨fun _ => rfl, fun _ hk => Or.inl hk⟩, rfl⟩
  refine Threads.Reaches.invariant (Q := fun _ _ _ => True)
    (R := fun i s' t' => View.CallRely call s i s'.view t'.view)
    (G := fun i s' t' => View.CallGuarantee call s i s'.view t'.view)
    (P := fun i => QueueIs call s i (s.matchingQue (call i).que))
    (I := fun t => ∃ new, t.log = new ++ s.log ∧ ∀ r a b, (r, a, b) ∈ rankMatches new →
      ∃ i, r = (call i).que ∧ Finds call s i a ∧ b = (call i).caller)
    (fun i s' => .refl s'.view) htrans (fun i j s' t' hji hG => hG.rely (hne i j hji)) ?_
    (fun i => call_prog (h.length_matchingQue _)) hstart ⟨[], rfl, ?_⟩ ht
  · rintro i s' t' ⟨new, hlog, hnew⟩ hG
    obtain ⟨new', hlog', hnew'⟩ := hG.log
    refine ⟨new' ++ new, ?_, ?_⟩
    · have hlog' : t'.log = new' ++ s'.log := hlog'
      rw [hlog', hlog, List.append_assoc]
    · intro r a b hmem
      rw [rankMatches, List.filterMap_append] at hmem
      rcases List.mem_append.1 hmem with hmem | hmem
      · exact ⟨i, hnew' r a b hmem⟩
      · exact hnew r a b hmem
  · rintro r a b hmem
    cases hmem

/-! ### A schedule for two calls in conflict -/

lemma queFront_run {s : Server} {r : QueId} {a : SessionId} {q : List SessionId}
    (hq : s.matchingQue r = a :: q) : (queFront r).run s = .done a s := by
  simp only [queFront, Prog.run, hq]

lemma quePopFront_run {s : Server} {r : QueId} {a : SessionId} {q : List SessionId}
    (hq : s.matchingQue r = a :: q) : (quePopFront r).run s =
      .done () { s with matchingQue := Function.update s.matchingQue r q } := by
  simp only [quePopFront, Prog.run, hq]

lemma isWaiting_run {s : Server} {k : SessionId} (h : s.view.waiting k = true) :
    (isWaiting k).run s = .done true s := by
  simp only [View.waiting, Server.view, Bool.and_eq_true] at h
  obtain ⟨hopen, hstat⟩ := h
  refine Prog.run_bind_eq_done.2 ⟨true, s, congrArg (Out.done · s) hopen, ?_⟩
  refine Prog.run_bind_eq_done.2
    ⟨.matchRequest, s, congrArg (Out.done · s) (of_decide_eq_true hstat), ?_⟩
  rfl

/-- The test of two sessions that both wait succeeds. -/
lemma selectPlayers_run {s : Server} {r : QueId} {a b : SessionId} (hq : s.matchingQue r = [a, b])
    (hab : a ≠ b) (ha : s.view.waiting a = true) (hb : s.view.waiting b = true) :
    ∃ t m, (selectPlayers r).run s = .done (some (a, b)) t ∧ t.sess = s.sess ∧
      (∀ r', r' ≠ r → t.matchingQue r' = s.matchingQue r') ∧ t.log = m :: s.log ∧
      rankMatches [m] = [(r, a, b)] := by
  have hq₁ : Function.update s.matchingQue r [b] r = [b] := Function.update_self _ _ _
  have hsize : (queSize r).run s = .done 2 s := by
    rw [queSize, Prog.run_read, hq]
    rfl
  refine ⟨{ s with
    matchingQue := Function.update (Function.update s.matchingQue r [b]) r []
    log := .rankMatch r a b (s.sess a).stat (s.sess b).stat (s.sess a).isOpen
      (s.sess b).isOpen :: s.log }, _, ?_, rfl, fun r' hr' => ?_, rfl, rfl⟩
  · refine Prog.run_bind_eq_done.2 ⟨2, s, hsize, ?_⟩
    rw [if_pos (by omega)]
    refine Prog.run_bind_eq_done.2 ⟨a, s, queFront_run hq, ?_⟩
    refine Prog.run_bind_eq_done.2 ⟨(), _, quePopFront_run hq, ?_⟩
    refine Prog.run_bind_eq_done.2 ⟨true, _, isWaiting_run ha, ?_⟩
    rw [if_pos rfl]
    refine Prog.run_bind_eq_done.2 ⟨b, _, queFront_run hq₁, ?_⟩
    refine Prog.run_bind_eq_done.2 ⟨(), _, quePopFront_run hq₁, ?_⟩
    refine Prog.run_bind_eq_done.2 ⟨true, _, isWaiting_run hb, ?_⟩
    rw [if_neg (by simp [hab])]
    rfl
  · show Function.update (Function.update s.matchingQue r [b]) r [] r' = _
    rw [Function.update_of_ne hr', Function.update_of_ne hr']

/-- What a call has changed when it comes to the test of the queue. -/
structure Entering (call : QueueCall) (s t : Server) : Prop where
  isOpen : ∀ k, (t.sess k).isOpen = (s.sess k).isOpen
  stat : ∀ k, (t.sess k).stat = Function.update (fun k => (s.sess k).stat) call.caller
    .matchRequest k
  matchingQue : t.matchingQue =
    Function.update s.matchingQue call.que (s.matchingQue call.que ++ [call.caller])
  mtx : ∀ m, m ≠ .rankQueMtx call.que → t.mtx m = s.mtx m
  log : ∃ m, t.log = m :: s.log ∧ rankMatches [m] = []

/-- The caller waits when it comes to the test, and who waited before still does. -/
lemma Entering.request {call : QueueCall} {s t : Server} (h : Entering call s t) {k : SessionId}
    (hk : k = call.caller ∨ (s.sess k).stat = .matchRequest) :
    (t.sess k).stat = .matchRequest := by
  rw [h.stat]
  by_cases hkc : k = call.caller
  · rw [hkc, Function.update_self]
  · rw [Function.update_of_ne hkc]
    exact hk.resolve_left hkc

/-- When both calls have come to their tests, every open session that asks waits. -/
lemma Asks.waiting {s t₁ t₂ : Server} {i j : Bool} (hij : j ≠ i)
    (h₁ : Entering (call i) s t₁) (h₂ : Entering (call j) t₁ t₂) {k : SessionId}
    (hopen : (s.sess k).isOpen = true) (hasks : Asks call s k) : t₂.view.waiting k = true := by
  have hstat : (t₂.sess k).stat = .matchRequest := by
    rcases hasks with hst | ⟨l, requestRating, hl⟩
    · exact h₂.request (Or.inr (h₁.request (Or.inr hst)))
    · have hk : k = (call l).caller := (congrArg QueueCall.caller hl).symm
      by_cases hlj : l = j
      · subst hlj
        exact h₂.request (Or.inl hk)
      · obtain rfl : l = i := (Bool.eq_not.2 hlj).trans (Bool.eq_not.2 hij.symm).symm
        exact h₂.request (Or.inr (h₁.request (Or.inl hk)))
  have hopen₂ : (t₂.sess k).isOpen = true := by
    rw [h₂.isOpen, h₁.isOpen, hopen]
  simp only [View.waiting, Server.view, hopen₂, hstat, decide_true, Bool.and_self]

lemma lock_run {s : Server} {m : Mutex} (h : s.mtx m = 0) :
    (lock m).run s = .done () { s with mtx := Function.update s.mtx m (s.mtx m + 1) } := by
  simp only [lock, Prog.run, h, true_or, if_true]

/-- A call that finds its mutex free comes to the test of the queue. -/
lemma reaches_entered {call : QueueCall} {c : Threads Bool Server Fault Unit} {i : Bool}
    (hi : c.prog i = call.prog) (hfree : c.state.mtx (.rankQueMtx call.que) = 0)
    (hst : (∃ n requestRating, call = .request n requestRating) ∨
      (c.state.sess call.caller).stat = .matchRequest) :
    ∃ k t, c.Reaches (c.set i (selectPlayers call.que >>= k) t) ∧
      Entering call c.state t := by
  cases call with
  | request n requestRating =>
    obtain ⟨rest, hprog⟩ : ∃ rest, c.prog i = (do
        mark fun _ => .setMatchingQue n requestRating.que
        lock (.rankQueMtx requestRating.que)
        quePushBack requestRating.que n
        setStatus n .matchRequest : Handler Unit) >>= fun _ =>
          getMatchingQue requestRating.que >>= rest := ⟨_, hi⟩
    rw [getMatchingQue] at hprog
    simp only [bind_assoc (selectPlayers _)] at hprog
    refine ⟨_, _, Threads.reaches_of_run hprog (Prog.run_bind_eq_done.2 ⟨(), _, rfl,
      Prog.run_bind_eq_done.2 ⟨(), _, lock_run hfree, Prog.run_bind_eq_done.2
        ⟨(), _, rfl, rfl⟩⟩⟩), ?_⟩
    refine ⟨?_, ?_, rfl, fun m hm => Function.update_of_ne hm _ _, _, rfl, rfl⟩
    · exact congrFun ((member_update (·.isOpen) c.state.sess n _).trans
        (Function.update_eq_self n _))
    · exact congrFun (member_update (·.stat) c.state.sess n _)
  | rematch n =>
    have hstat : (c.state.sess n).stat = .matchRequest := by
      rcases hst with ⟨m, requestRating, h⟩ | h
      · cases h
      · exact h
    obtain ⟨rest, hprog⟩ : ∃ rest, c.prog i = getStatus n >>= fun st =>
        (if st = .matchRequest then (do
          lock (.rankQueMtx sharedQue)
          mark fun _ => .widened n
          quePushBack sharedQue n : Handler Unit) >>= fun _ => getMatchingQue sharedQue >>= rest
        else pure true) >>= fun _ => pure () := ⟨_, hi⟩
    have hread := Threads.reaches_of_run hprog (s := c.state) (b := (c.state.sess n).stat) rfl
    rw [if_pos hstat, getMatchingQue] at hread
    simp only [bind_assoc] at hread
    obtain ⟨k, hread⟩ : ∃ k, c.Reaches (c.set i ((do
        lock (.rankQueMtx sharedQue)
        mark fun _ => .widened n
        quePushBack sharedQue n : Handler Unit) >>= fun _ =>
          selectPlayers sharedQue >>= k) c.state) := ⟨_, hread⟩
    refine ⟨k, _, hread.run (Prog.run_bind_eq_done.2 ⟨(), _, lock_run hfree,
      Prog.run_bind_eq_done.2 ⟨(), _, rfl, rfl⟩⟩), ?_⟩
    refine ⟨fun _ => rfl, fun k => ?_, rfl, fun m hm => Function.update_of_ne hm _ _, _, rfl, rfl⟩
    have hself : Function.update (fun k => (c.state.sess k).stat) n .matchRequest =
        fun k => (c.state.sess k).stat := by
      rw [← hstat]
      exact Function.update_eq_self n _
    exact (congrFun hself k).symm

/-- Both calls come to their tests, the requesting one first, and then both tests succeed. -/
theorem reaches_pairs {s : Server} (hfree : ∀ m, s.mtx m = 0) {i j : Bool} (hij : j ≠ i)
    (hque : (call j).que ≠ (call i).que)
    (hreq : ∃ n requestRating, call i = .request n requestRating)
    {a b : SessionId} (ha : Finds call s i a) (hb : Finds call s j b) :
    ∃ t new, (calls call s).Reaches t ∧ t.state.log = new ++ s.log ∧
      ((call i).que, a, (call i).caller) ∈ rankMatches new ∧
      ((call j).que, b, (call j).caller) ∈ rankMatches new := by
  obtain ⟨k₁, t₁, hreach₁, hent₁⟩ :=
    reaches_entered (c := calls call s) (i := i) rfl (hfree _) (Or.inl hreq)
  -- the second call starts on its own queue: its caller waits, or waits from here on
  have hcaller : (∃ n requestRating, call j = .request n requestRating) ∨
      (t₁.sess (call j).caller).stat = .matchRequest := by
    rcases hb.asks_caller with hst | ⟨l, requestRating, hl⟩
    · exact Or.inr (hent₁.request (Or.inr hst))
    · by_cases hlj : l = j
      · subst hlj
        exact Or.inl ⟨_, _, hl⟩
      · obtain rfl : l = i := (Bool.eq_not.2 hlj).trans (Bool.eq_not.2 hij.symm).symm
        exact Or.inr (hent₁.request (Or.inl (congrArg QueueCall.caller hl).symm))
  have hmtx₁ : t₁.mtx (.rankQueMtx (call j).que) = 0 := by
    rw [hent₁.mtx _ (by simpa using hque)]
    exact hfree _
  obtain ⟨k₂, t₂, hreach₂, hent₂⟩ :=
    reaches_entered (c := (calls call s).set i (selectPlayers (call i).que >>= k₁) t₁) (i := j)
      (Threads.set_prog_of_ne _ hij _ _) hmtx₁ hcaller
  have hwaiting : ∀ k, (s.sess k).isOpen = true → Asks call s k → t₂.view.waiting k = true :=
    fun k => Asks.waiting hij hent₁ hent₂
  have hqi : t₂.matchingQue (call i).que = [a, (call i).caller] := by
    rw [hent₂.matchingQue, Function.update_of_ne hque.symm]
    show t₁.matchingQue (call i).que = _
    rw [hent₁.matchingQue, Function.update_self]
    exact congrArg (· ++ [(call i).caller]) ha.queue
  have hqj : t₂.matchingQue (call j).que = [b, (call j).caller] := by
    rw [hent₂.matchingQue, Function.update_self]
    show t₁.matchingQue (call j).que ++ _ = _
    rw [hent₁.matchingQue, Function.update_of_ne hque]
    exact congrArg (· ++ [(call j).caller]) hb.queue
  -- the first test touches only its own queue, so the second one still finds both players
  obtain ⟨t₃, m₃, hrun₃, hsess₃, hothers₃, hlog₃, hm₃⟩ := selectPlayers_run hqi ha.ne
    (hwaiting _ ha.open_front ha.asks_front) (hwaiting _ ha.open_caller ha.asks_caller)
  have hwaiting₃ : t₃.view.waiting = t₂.view.waiting := by
    funext k
    show ((t₃.sess k).isOpen && decide ((t₃.sess k).stat = .matchRequest)) = _
    rw [hsess₃]
    rfl
  obtain ⟨t₄, m₄, hrun₄, -, -, hlog₄, hm₄⟩ :=
    selectPlayers_run (s := t₃) ((hothers₃ _ hque).trans hqj) hb.ne
      (by rw [hwaiting₃]; exact hwaiting _ hb.open_front hb.asks_front)
      (by rw [hwaiting₃]; exact hwaiting _ hb.open_caller hb.asks_caller)
  have hreach₃ := (hreach₁.trans hreach₂).trans
    (Threads.reaches_of_run ((Threads.set_prog_of_ne _ hij.symm _ _).trans
      (Threads.set_prog_self _ _ _ _)) hrun₃)
  have hreach₄ := hreach₃.trans
    (Threads.reaches_of_run ((Threads.set_prog_of_ne _ hij _ _).trans
      (Threads.set_prog_self _ _ _ _)) hrun₄)
  obtain ⟨m₁, hlog₁, -⟩ := hent₁.log
  obtain ⟨m₂, hlog₂, -⟩ := hent₂.log
  refine ⟨_, [m₄, m₃, m₂, m₁], hreach₄, ?_, ?_, ?_⟩
  · have hlog₁ : t₁.log = m₁ :: s.log := hlog₁
    have hlog₂ : t₂.log = m₂ :: t₁.log := hlog₂
    rw [Threads.set_state, hlog₄, hlog₃, hlog₂, hlog₁]
    rfl
  · exact mem_rankMatches (by simp) hm₃
  · exact mem_rankMatches (by simp) hm₄

/-- **No double match, exactly when the calls are not in conflict.**  From a reachable state
two calls of `set_matching_que` or `rematching_start` on different queues run interleaved:
no schedule forms a pair in each of the two queues with a session in common, unless at the
start each queue holds another open session that waits for the caller of its call, the two
pairs share a session, and all of them wait or are set waiting by the calls. -/
theorem no_double_match_iff {s : Server} (h : Reachable s) {call : Bool → QueueCall}
    (hque : (call false).que ≠ (call true).que) :
    (∀ answers t, (calls call { s with answers := answers }).Reaches t →
      ∃ new, t.state.log = new ++ s.log ∧
        ∀ k, ¬ (PairedIn (call false).que k new ∧ PairedIn (call true).que k new)) ↔
      ¬ Conflict call s := by
  constructor
  · rintro hsafe ⟨a, b, ha, hb, k, hka, hkb⟩
    have hmtx : ∀ m, s.mtx m = 0 := congrFun (Reachable.mtx_free h)
    have hpairs : ∃ t new, (calls call s).Reaches t ∧ t.state.log = new ++ s.log ∧
        ((call false).que, a, (call false).caller) ∈ rankMatches new ∧
        ((call true).que, b, (call true).caller) ∈ rankMatches new := by
      -- at most one of the calls is made by a timer
      cases hfalse : call false with
      | request n requestRating =>
        rw [← hfalse]
        exact reaches_pairs hmtx (by simp) hque.symm
          ⟨_, _, hfalse⟩ ha hb
      | rematch n =>
        cases htrue : call true with
        | request m requestRating =>
          rw [← hfalse, ← htrue]
          obtain ⟨t, new, hreach, hlog, hmem, hmem'⟩ :=
            reaches_pairs hmtx (i := true) (by simp) hque
              ⟨_, _, htrue⟩ hb ha
          exact ⟨t, new, hreach, hlog, hmem', hmem⟩
        | rematch m =>
          rw [hfalse, htrue] at hque
          exact absurd rfl hque
    obtain ⟨t, new, hreach, hlog, hmem, hmem'⟩ := hpairs
    obtain ⟨new', hlog', hdouble⟩ := hsafe s.answers t hreach
    obtain rfl := List.append_cancel_right (hlog.symm.trans hlog')
    exact hdouble k ⟨⟨a, _, hmem, hka⟩, ⟨b, _, hmem', hkb⟩⟩
  · rintro hfree answers t ht
    obtain ⟨new, hlog, hpairs⟩ := calls_rankMatches h hque ht
    refine ⟨new, hlog, ?_⟩
    rintro k ⟨⟨a, a', hmem, hka⟩, ⟨b, b', hmem', hkb⟩⟩
    have hown : ∀ l x y, ((call l).que, x, y) ∈ rankMatches new →
        Finds call s l x ∧ y = (call l).caller := by
      intro l x y hxy
      obtain ⟨l', hl', hfinds, hy⟩ := hpairs _ _ _ hxy
      have : l' = l := by
        cases l <;> cases l'
        · rfl
        · exact absurd hl' hque
        · exact absurd hl'.symm hque
        · rfl
      subst this
      exact ⟨hfinds, hy⟩
    obtain ⟨ha, rfl⟩ := hown false a a' hmem
    obtain ⟨hb, rfl⟩ := hown true b b' hmem'
    exact hfree ⟨a, b, ha, hb, k, hka, hkb⟩

/-! ### A double match -/

/-- Three sessions, and the users `a`, `b` and `c`, of whom `b` has another rating. -/
def threeUsers : Boot :=
  Boot.plain 3 1
    (fun token => if token = lit "ta" then some (lit "a")
      else if token = lit "tb" then some (lit "b")
      else if token = lit "tc" then some (lit "c") else none)
    ⟨[⟨lit "a", 0, 0, 250⟩, ⟨lit "b", 0, 0, 350⟩, ⟨lit "c", 0, 0, 250⟩], []⟩

/-- The users `a` and `b` wait for a match, each in the queue of its rating. -/
def twoRequests : List Event :=
  [.acceptDone 0 false, .acceptDone 1 false, .acceptDone 2 false,
    .receive 0 [.joinReq ⟨lit "ta", lit "a"⟩, .playRankReq],
    .packet ⟨[], [], 1⟩, .packet ⟨[], [], 1⟩, .receiveEnd,
    .receive 1 [.joinReq ⟨lit "tb", lit "b"⟩, .playRankReq],
    .packet ⟨[], [], 1⟩, .packet ⟨[], [], 1⟩, .receiveEnd]

/-- The timer of `b` has fired, and `c` has logged in. -/
def thirdPlayer : List Event :=
  [.timer 1 0 ⟨[], [], 0⟩, .receive 2 [.joinReq ⟨lit "tc", lit "c"⟩, .playRankReq],
    .packet ⟨[], [], 1⟩]

/-- The request of `c`, and the timer of `a`. -/
def requestAndTimer : Bool → QueueCall
  | false => .request 2 .bronze
  | true => .rematch 0

/-- The room keys in the messages that were enqueued for a session. -/
def roomKeysSent (s : Server) (n : SessionId) : List Str :=
  (s.sess n).send.queue.filterMap fun b =>
    match b.message with
    | .matchComplete roomKey _ => some roomKey
    | _ => none

/-- Both calls enter their queues, then both test the session of `a`, then both form their
pairs: it is matched twice for one request, and is sent two room keys. -/
theorem double_match :
    ∃ s answers t, Reachable s ∧
      (calls requestAndTimer { s with answers := answers }).Reaches t ∧
      (∀ i, t.returned i = true) ∧
      (∃ new, t.state.log = new ++ s.log ∧ PairedIn 0 0 new ∧ PairedIn sharedQue 0 new) ∧
      ∃ key key', key ≠ key' ∧ roomKeysSent t.state 0 = [key, key'] := by
  have hrun : ((run threeUsers (twoRequests ++ thirdPlayer)).bind fun s =>
      (Runs.exec Threads.next (calls requestAndTimer { s with
        answers := ⟨[List.replicate 16 1, List.replicate 16 2], [], 0⟩ })
        (List.replicate 4 false ++ List.replicate 4 true ++ List.replicate 10 false ++
          List.replicate 10 true ++ List.replicate 24 false ++ List.replicate 24 true)).map
      fun t => decide ((t.returned false = true ∧ t.returned true = true) ∧
        rankMatches s.log = [] ∧ rankMatches t.state.log = [(sharedQue, 1, 0), (0, 0, 2)] ∧
        roomKeysSent t.state 0 =
          [roomKeyOf (List.replicate 16 1), roomKeyOf (List.replicate 16 2)])) =
      some true := by decide
  obtain ⟨s, hs, hexec⟩ := Option.bind_eq_some_iff.1 hrun
  obtain ⟨t, ht, heq⟩ := Option.map_eq_some_iff.1 hexec
  obtain ⟨⟨hfalse, htrue⟩, hold, hpairs, hkeys⟩ := of_decide_eq_true heq
  have hreach := reachable_of_run hs
  have hsteps := Threads.reaches_of_exec ht
  obtain ⟨new, hlog, -⟩ := calls_rankMatches hreach (by decide) hsteps
  have hnew : rankMatches new = [(sharedQue, 1, 0), (0, 0, 2)] := by
    rw [hlog, rankMatches, List.filterMap_append] at hpairs
    have hold' : s.log.filterMap _ = [] := hold
    rwa [hold', List.append_nil] at hpairs
  refine ⟨s, _, t, hreach, hsteps, ?_, ⟨new, hlog, ?_, ?_⟩, _, _, ?_, hkeys⟩
  · intro i
    cases i
    · exact hfalse
    · exact htrue
  · exact ⟨0, 2, by simp [hnew], Or.inl rfl⟩
  · exact ⟨1, 0, by simp [hnew], Or.inr rfl⟩
  · decide

/-- Before the timer of `b` fires the shared queue is empty, and the same calls are safe. -/
theorem no_double_match_before_timer :
    ∃ s, run threeUsers twoRequests = some s ∧
      ∀ answers t, (calls requestAndTimer { s with answers := answers }).Reaches t →
        ∃ new, t.state.log = new ++ s.log ∧
          ∀ k, ¬ (PairedIn (requestAndTimer false).que k new ∧
            PairedIn (requestAndTimer true).que k new) := by
  have hrun : (run threeUsers twoRequests).map (fun s => s.matchingQue sharedQue) =
      some [] := by decide
  obtain ⟨s, hs, hshared⟩ := Option.map_eq_some_iff.1 hrun
  have hnot : ¬ Conflict requestAndTimer s := by
    rintro ⟨a, b, -, hb, -⟩
    have hqueue : s.matchingQue sharedQue = [b] := hb.queue
    rw [hshared] at hqueue
    cases hqueue
  exact ⟨s, hs, (no_double_match_iff (reachable_of_run hs) (by decide)).2 hnot⟩

end ChannelServer
