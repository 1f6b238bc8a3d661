/-
The matching queues.

A session asks for a rank match with `set_matching_que`, and its rematch timer puts it into
the shared queue as well with `rematching_start`; both are calls that push one entry and
serve the queue once.  `ViewStep.call_cases` reduces every step to such a call, described by
`View.Arrival`, or to a step that leaves the queues alone.  From it follow

* `rank_match_once`: the pairs that are formed, and what lies between two of them;
* `waiting_player_queued`: nobody who waits is lost;
* `deques_refine_waiting_rooms`: each deque is a waiting room with one chair.
-/
import ChannelServer.ViewStep

namespace ChannelServer

open Resumption WaitingRoom

/-! ### Calls -/

/-- The entries of the log that concern the matching queues. -/
def Mark.ofQueue : Mark → Bool
  | .setMatchingQue _ _ => true
  | .rankMatch _ _ _ _ _ _ _ => true
  | _ => false

namespace View

/-- The session and the queue of the call of `set_matching_que` or `rematching_start` that an
event makes. -/
def call (v : View) : Event → Option (SessionId × QueId)
  | .packet _ =>
      match v.current with
      | some (n, .playRankReq :: _) => some (n, (checkRating (v.rating n)).que)
      | _ => none
  | .timer n _ _ => if v.stat n = .matchRequest then some (n, sharedQue) else none
  | _ => none

/-- The queues, and who waits in them, are not touched. -/
structure SameQueues (v w : View) : Prop where
  matchingQue : w.matchingQue = v.matchingQue
  request : ∀ k, w.stat k = .matchRequest → v.stat k = .matchRequest
  waiting : ∀ k, w.waiting k = true → v.waiting k = true
  log : ∃ new, w.log = new ++ v.log ∧ ∀ m ∈ new, m.ofQueue = false

/-- Who waits after `n` has asked for a match. -/
def waitingWith (v : View) (n k : SessionId) : Bool :=
  v.isOpen k && decide (Function.update v.stat n .matchRequest k = .matchRequest)

/-- The entries that a call adds to the log before the queue is served: a request, or the
timer of a session that has asked already. -/
def Entered (v : View) (n : SessionId) (r : QueId) (log : List Mark) : Prop :=
  log = .setMatchingQue n r :: v.log ∨ v.stat n = .matchRequest ∧ log = .widened n :: v.log

/-- A call for the session `n` on the queue `r`: `n` is appended, then the queue is served. -/
structure Arrival (v : View) (n : SessionId) (r : QueId) (w : View) : Prop where
  isOpen : w.isOpen = v.isOpen
  matchingQue : w.matchingQue =
    Function.update v.matchingQue r (serve (v.waitingWith n) (v.matchingQue r ++ [n])).2
  nobody : (serve (v.waitingWith n) (v.matchingQue r ++ [n])).1 = none →
    w.stat = Function.update v.stat n .matchRequest ∧ v.Entered n r w.log
  pair : ∀ a b, (serve (v.waitingWith n) (v.matchingQue r ++ [n])).1 = some (a, b) →
    w.stat = Function.update
      (Function.update (Function.update v.stat n .matchRequest) a .matchComplete)
      b .matchComplete ∧
    ∃ key log, v.Entered n r log ∧ w.log = .matchMade key a b ::
      .rankMatch r a b .matchRequest .matchRequest true true :: log

variable {u v w : View} {n : SessionId} {r : QueId}

lemma SameQueues.refl (v : View) : v.SameQueues v :=
  ⟨rfl, fun _ h => h, fun _ h => h, [], rfl, by simp⟩

lemma SameQueues.trans (h₁ : u.SameQueues v) (h₂ : v.SameQueues w) : u.SameQueues w := by
  obtain ⟨new₁, hlog₁, hnew₁⟩ := h₁.log
  obtain ⟨new₂, hlog₂, hnew₂⟩ := h₂.log
  refine ⟨h₂.matchingQue.trans h₁.matchingQue, fun k h => h₁.request k (h₂.request k h),
    fun k h => h₁.waiting k (h₂.waiting k h), new₂ ++ new₁, ?_, ?_⟩
  · rw [hlog₂, hlog₁, List.append_assoc]
  · intro m hm
    rcases List.mem_append.1 hm with hm | hm
    · exact hnew₂ m hm
    · exact hnew₁ m hm

/-- A status other than `MATCH_REQUEST` is set. -/
lemma SameQueues.setStat (v : View) (n : SessionId) (st : Status) (hst : st ≠ .matchRequest) :
    v.SameQueues (v.setStat n st) := by
  have hrequest : ∀ k, (v.setStat n st).stat k = .matchRequest → v.stat k = .matchRequest :=
    (Function.forall_update_iff v.stat
      fun k st' => st' = .matchRequest → v.stat k = .matchRequest).2
      ⟨fun h => absurd h hst, fun _ _ h => h⟩
  refine ⟨rfl, hrequest, fun k hk => ?_, [], rfl, by simp⟩
  simp only [View.waiting, Bool.and_eq_true, decide_eq_true_eq] at hk ⊢
  exact ⟨hk.1, hrequest k hk.2⟩

/-- An entry that does not concern the queues is added to the log. -/
lemma SameQueues.note (v : View) {m : Mark} (hm : m.ofQueue = false) :
    v.SameQueues (v.note m) :=
  ⟨rfl, fun _ h => h, fun _ h => h, [m], rfl, by simpa using hm⟩

/-- The socket of a session is closed, whatever its status. -/
lemma SameQueues.setOpen_false (v : View) (n : SessionId) :
    v.SameQueues (v.setOpen n false) := by
  refine ⟨rfl, fun _ h => h, fun k hk => ?_, [], rfl, by simp⟩
  simp only [View.waiting, Bool.and_eq_true, decide_eq_true_eq] at hk ⊢
  refine ⟨?_, hk.2⟩
  have hk' : Function.update v.isOpen n false k = true := hk.1
  by_cases hkn : k = n
  · subst hkn
    simp at hk'
  · rwa [Function.update_of_ne hkn] at hk'

lemma SameQueues.waitAccept (v : View) : v.SameQueues v.waitAccept := by
  obtain ⟨flag, queue, accepts, new, hnew, h⟩ := v.waitAccept_eq
  rw [h]
  refine ⟨rfl, fun _ h => h, fun _ h => h, new, rfl, fun m hm => ?_⟩
  obtain ⟨n, b, rfl⟩ := hnew m hm
  simp [Mark.ofQueue]

/-- The queues do not depend on the fields that are changed together with the status and the
socket of a session. -/
lemma SameQueues.congr (h : v.SameQueues u) (hque : w.matchingQue = u.matchingQue)
    (hstat : w.stat = u.stat) (hopen : w.isOpen = u.isOpen) (hlog : w.log = u.log) :
    v.SameQueues w := by
  refine ⟨hque.trans h.matchingQue, ?_, ?_, ?_⟩
  · rw [hstat]
    exact h.request
  · unfold View.waiting
    rw [hstat, hopen]
    exact h.waiting
  · rw [hlog]
    exact h.log

lemma SameQueues.finishClose (v : View) (n : SessionId) : v.SameQueues (v.finishClose n) := by
  have hreleased : v.SameQueues (v.release n) :=
    ((SameQueues.setStat v n .wait (by simp)).trans
      (SameQueues.setOpen_false _ n)).congr rfl rfl rfl rfl
  exact finishClose_of_release (fun w hw => hw.trans (.waitAccept w)) hreleased

lemma SameQueues.close (v : View) (n : SessionId) : v.SameQueues (v.close n) := by
  rcases v.close_cases n with ⟨-, h⟩ | ⟨-, redis, userIdMap, h⟩ <;> rw [h]
  · exact SameQueues.refl v
  · exact SameQueues.trans (v := { v with redis := redis, userIdMap := userIdMap })
      ⟨rfl, fun _ h => h, fun _ h => h, [], rfl, by simp⟩ (SameQueues.finishClose _ n)

/-- A connection that is accepted has the status `CONN` once its socket is open. -/
lemma SameQueues.accept (v : View) (n : SessionId) :
    v.SameQueues (View.accept ({ v with accepts := v.accepts.erase n }.setOpen n true) n) := by
  unfold View.accept
  refine SameQueues.trans ?_ (SameQueues.waitAccept _)
  refine ⟨rfl, ?_, ?_, [.accepted n], rfl, by simp [Mark.ofQueue]⟩
  · exact (SameQueues.setStat v n .conn (by simp)).request
  · intro k hk
    simp only [View.waiting, Bool.and_eq_true, decide_eq_true_eq] at hk ⊢
    have hst : Function.update v.stat n .conn k = .matchRequest := hk.2
    have hopen : Function.update v.isOpen n true k = true := hk.1
    by_cases hkn : k = n
    · subst hkn
      simp at hst
    · rw [Function.update_of_ne hkn] at hst hopen
      exact ⟨hopen, hst⟩

/-- Serving the queue after `n` was appended to it. -/
lemma Served.arrival {b : Bool} (h : u.Served r w b)
    (hstat : u.stat = Function.update v.stat n .matchRequest) (hopen : u.isOpen = v.isOpen)
    (hque : u.matchingQue = Function.update v.matchingQue r (v.matchingQue r ++ [n]))
    (hlog : v.Entered n r u.log) : v.Arrival n r w := by
  have hwaiting : u.waiting = v.waitingWith n := by
    funext k
    simp [View.waiting, View.waitingWith, hstat, hopen]
  have hque_r : u.matchingQue r = v.matchingQue r ++ [n] := by rw [hque, Function.update_self]
  have hset : Function.update u.matchingQue r
      (serve (v.waitingWith n) (v.matchingQue r ++ [n])).2 =
        Function.update v.matchingQue r
          (serve (v.waitingWith n) (v.matchingQue r ++ [n])).2 := by
    rw [hque, Function.update_idem]
  cases h with
  | nobody h =>
    rw [hwaiting, hque_r] at h ⊢
    refine ⟨hopen, hset, fun _ => ⟨hstat, hlog⟩, fun a b hab => ?_⟩
    rw [h] at hab
    cases hab
  | @pair a b uuid h _ =>
    obtain ⟨ha, hb, -, -⟩ := serve_pair h
    rw [hwaiting, hque_r] at h ⊢
    refine ⟨hopen, hset, fun hnone => ?_, fun a' b' hab => ?_⟩
    · rw [h] at hnone
      cases hnone
    · obtain ⟨rfl, rfl⟩ := Prod.mk.inj (Option.some.inj (h.symm.trans hab))
      simp only [View.waiting, Bool.and_eq_true, decide_eq_true_eq] at ha hb
      refine ⟨?_, roomKeyOf uuid, u.log, hlog, ?_⟩
      · show Function.update (Function.update u.stat a _) b _ = _
        rw [hstat]
      · have hmark : u.pairMark r a b = .rankMatch r a b .matchRequest .matchRequest true true := by
          simp [pairMark, ha, hb]
        rw [← hmark]
        rfl

/-- Arming the timer afterwards does not matter. -/
lemma Arrival.armUnless (h : v.Arrival n r w) (b : Bool) : v.Arrival n r (w.armUnless n b) := by
  rcases w.armUnless_cases n b with heq | heq <;> rw [heq]
  · exact ⟨h.isOpen, h.matchingQue, h.nobody, h.pair⟩
  · exact h

/-- Who has the status `MATCH_REQUEST` after a call had it when the queue was served, and is
not in the pair that left. -/
lemma Arrival.request (h : v.Arrival n r w) {k : SessionId} (hk : w.stat k = .matchRequest) :
    Function.update v.stat n .matchRequest k = .matchRequest ∧
      ∀ a b, (serve (v.waitingWith n) (v.matchingQue r ++ [n])).1 = some (a, b) →
        k ≠ a ∧ k ≠ b := by
  cases hserve : (serve (v.waitingWith n) (v.matchingQue r ++ [n])).1 with
  | none =>
    rw [(h.nobody hserve).1] at hk
    exact ⟨hk, by simp⟩
  | some p =>
    obtain ⟨a, b⟩ := p
    rw [(h.pair a b hserve).1] at hk
    -- the two that leave have the status `MATCH_COMPLETE`
    have hkb : k ≠ b := by
      rintro rfl
      simp at hk
    rw [Function.update_of_ne hkb] at hk
    have hka : k ≠ a := by
      rintro rfl
      simp at hk
    rw [Function.update_of_ne hka] at hk
    refine ⟨hk, fun a' b' hab => ?_⟩
    obtain ⟨rfl, rfl⟩ := Prod.mk.inj (Option.some.inj hab)
    exact ⟨hka, hkb⟩

/-- Who waits after a call stays in the queue that was served. -/
lemma Arrival.mem_served (h : v.Arrival n r w) {k : SessionId} (hk : w.waiting k = true)
    (hmem : k ∈ v.matchingQue r ++ [n]) : k ∈ w.matchingQue r := by
  simp only [View.waiting, Bool.and_eq_true, decide_eq_true_eq] at hk
  obtain ⟨hst, hnot⟩ := h.request hk.2
  rw [h.matchingQue, Function.update_self]
  cases hserve : (serve (v.waitingWith n) (v.matchingQue r ++ [n])).1 with
  | none =>
    refine mem_serve_of_waiting hserve hmem ?_
    rw [View.waitingWith, ← h.isOpen, hk.1, hst]
    rfl
  | some p =>
    obtain ⟨a, b⟩ := p
    obtain ⟨hka, hkb⟩ := hnot a b hserve
    obtain ⟨-, -, -, hque⟩ := serve_pair hserve
    rw [hque] at hmem
    simpa [hka, hkb] using hmem

end View

/-- A packet other than a rank request leaves the queues alone. -/
lemma PacketStep.sameQueues {v w : View} {n : SessionId} {p : Packet} (h : PacketStep v n p w)
    (hp : p ≠ .playRankReq) : v.SameQueues w := by
  cases h with
  | config _ | other _ | notJoined _ | notLoggedOut _ | notConfirmed _ =>
    exact View.SameQueues.refl v
  | friends h => cases h <;> exact ⟨rfl, fun _ h => h, fun _ h => h, [], rfl, by simp⟩
  | ranked _ => exact absurd rfl hp
  | refused _ _ => exact View.SameQueues.setStat v n _ (by simp)
  | burnt _ _ _ => exact ⟨rfl, fun _ h => h, fun _ h => h, [], rfl, by simp⟩
  | @joined _ id _ _ _ _ =>
    exact ((View.SameQueues.setStat v n .login (by simp)).trans
      (View.SameQueues.note _ (m := .joined n id) rfl)).congr rfl rfl rfl rfl
  | loggedOut _ =>
    exact ((View.SameQueues.setStat v n .logout (by simp)).trans
      (View.SameQueues.note _ (m := .loggedOut n) rfl)).congr rfl rfl rfl rfl
  | confirmed _ =>
    exact (View.SameQueues.setStat v n _ (by simp)).trans (View.SameQueues.close _ n)
  | relayed h =>
    cases h with
    | refused => exact View.SameQueues.refl v
    | self _ => exact View.SameQueues.setStat v n _ (by simp)
    | @accept m uuid _ _ _ _ _ _ =>
      exact (((View.SameQueues.setStat v n .matchComplete (by simp)).trans
        (View.SameQueues.setStat _ m .matchComplete (by simp))).trans
        (View.SameQueues.note _ (m := .matchMade (roomKeyOf uuid) n m) rfl)).congr rfl rfl rfl rfl
    | @apply m _ _ _ _ _ =>
      exact ((View.SameQueues.setStat v n _ (by simp)).trans
        (View.SameQueues.setStat _ m _ (by simp))).trans
        (View.SameQueues.note _ (m := .applied n m) rfl)
    | @deny m _ _ _ _ _ =>
      exact (View.SameQueues.setStat v n _ (by simp)).trans
        (View.SameQueues.setStat _ m _ (by simp))

/-- **Every step is a call or leaves the queues alone.** -/
theorem ViewStep.call_cases {v w : View} {e : Event} (h : ViewStep v e w) :
    (∃ n r, v.call e = some (n, r) ∧ v.Arrival n r w) ∨ v.call e = none ∧ v.SameQueues w := by
  have same : ∀ {u : View}, u.matchingQue = v.matchingQue → u.stat = v.stat →
      u.isOpen = v.isOpen → u.log = v.log → v.SameQueues u := fun hque hstat hopen hlog =>
    (View.SameQueues.refl v).congr hque hstat hopen hlog
  cases h with
  | startAccept _ _ =>
    refine Or.inr ⟨rfl, View.SameQueues.trans ?_ (View.SameQueues.waitAccept _)⟩
    exact same rfl rfl rfl rfl
  | accepted _ _ => exact Or.inr ⟨rfl, View.SameQueues.accept v _⟩
  | acceptFailed _ _ | receive _ _ | receiveEnd _ | readFailed _ _ | writeDone _ | world =>
    exact Or.inr ⟨rfl, same rfl rfl rfl rfl⟩
  | @packet n p rest answers _ hcur hpacket =>
    by_cases hp : p = .playRankReq
    · subst hp
      cases hpacket with
      | @ranked u b hserved =>
        have hcall : v.call (.packet answers) = some (n, (checkRating (v.rating n)).que) := by
          simp [View.call, hcur]
        refine Or.inl ⟨n, _, hcall, ?_⟩
        have harrival : View.Arrival { v with current := some (n, rest) } n
            (checkRating (v.rating n)).que u := hserved.arrival rfl rfl rfl (Or.inl rfl)
        have harmed := harrival.armUnless b
        exact ⟨harmed.isOpen, harmed.matchingQue, harmed.nobody, harmed.pair⟩
    · refine Or.inr ⟨?_, View.SameQueues.trans ?_ (hpacket.sameQueues hp)⟩
      · simp only [View.call, hcur]
        split
        · rename_i heq
          obtain ⟨-, heq⟩ := Prod.mk.inj (Option.some.inj heq)
          exact absurd (List.cons.inj heq).1 hp
        · rfl
      · exact same rfl rfl rfl rfl
  | disconnected _ _ _ =>
    refine Or.inr ⟨rfl, View.SameQueues.trans ?_ (View.SameQueues.close _ _)⟩
    exact same rfl rfl rfl rfl
  | timerIdle _ hst => exact Or.inr ⟨if_neg hst, same rfl rfl rfl rfl⟩
  | @timerWiden n i answers _ b _ hst hserved =>
    have hkeep : Function.update v.stat n .matchRequest = v.stat := by
      rw [← hst, Function.update_eq_self]
    refine Or.inl ⟨n, sharedQue, if_pos hst, ?_⟩
    have harrival := hserved.arrival (v := v) hkeep.symm rfl rfl (Or.inr ⟨hst, rfl⟩)
    exact harrival

/-! ### Two players -/

/-- Two clients connect and ask for a rank match, one after the other. -/
def twoPlayers : List Event :=
  [.acceptDone 0 false, .acceptDone 1 false, .receive 0 [.playRankReq], .packet ⟨[], [], 0⟩,
    .receiveEnd, .receive 1 [.playRankReq], .packet ⟨[List.replicate 16 7], [], 0⟩, .receiveEnd]

lemma twoPlayers_run : (run (Boot.plain 2 1 (fun _ => none) ⟨[], []⟩) twoPlayers).isSome := by
  decide

/-! ### One rank match for each request -/

/-- The entry is a rank match of the session `n`. -/
def Mark.pairs (n : SessionId) : Mark → Prop
  | .rankMatch _ a b _ _ _ _ => n = a ∨ n = b
  | _ => False

/-- The session `n` was matched since its last request. -/
def Spent (n : SessionId) : List Mark → Prop
  | [] => False
  | .setMatchingQue m _ :: log => m ≠ n ∧ Spent n log
  | .rankMatch _ a b _ _ _ _ :: log => n = a ∨ n = b ∨ Spent n log
  | _ :: log => Spent n log

/-- Every pair in the log was formed of two distinct waiting sessions that had not been
matched since their last request. -/
def OncePerRequest : List Mark → Prop
  | [] => True
  | .rankMatch _ a b statA statB openA openB :: log =>
      (a ≠ b ∧ statA = .matchRequest ∧ statB = .matchRequest ∧ openA = true ∧ openB = true) ∧
        (∀ n, n = a ∨ n = b → ¬ Spent n log) ∧ OncePerRequest log
  | _ :: log => OncePerRequest log

lemma spent_append {n : SessionId} {new log : List Mark} (hnew : ∀ m ∈ new, m.ofQueue = false) :
    Spent n (new ++ log) ↔ Spent n log := by
  induction new with
  | nil => rfl
  | cons m new ih =>
    have hm := hnew m List.mem_cons_self
    have ih := ih fun k hk => hnew k (List.mem_cons_of_mem _ hk)
    cases m <;> simp_all [Spent, Mark.ofQueue]

lemma oncePerRequest_append {new log : List Mark} (hnew : ∀ m ∈ new, m.ofQueue = false) :
    OncePerRequest (new ++ log) ↔ OncePerRequest log := by
  induction new with
  | nil => rfl
  | cons m new ih =>
    have hm := hnew m List.mem_cons_self
    have ih := ih fun k hk => hnew k (List.mem_cons_of_mem _ hk)
    cases m <;> simp_all [OncePerRequest, Mark.ofQueue]

/-- A match with no request after it makes the session spent. -/
lemma spent_of_pairs {n : SessionId} {earlier : Mark} {between older : List Mark}
    (hpairs : earlier.pairs n) (hno : ∀ r, Mark.setMatchingQue n r ∉ between) :
    Spent n (between ++ earlier :: older) := by
  induction between with
  | nil =>
    cases earlier with
    | rankMatch r a b _ _ _ _ =>
      rcases hpairs with rfl | rfl
      · exact Or.inl rfl
      · exact Or.inr (Or.inl rfl)
    | _ => exact hpairs.elim
  | cons m between ih =>
    have ih := ih fun r hr => hno r (List.mem_cons_of_mem _ hr)
    cases m with
    | setMatchingQue k r =>
      refine ⟨?_, ih⟩
      rintro rfl
      exact hno r List.mem_cons_self
    | rankMatch r a b _ _ _ _ => exact Or.inr (Or.inr ih)
    | _ => exact ih

lemma OncePerRequest.of_append {new log : List Mark} (h : OncePerRequest (new ++ log)) :
    OncePerRequest log := by
  induction new with
  | nil => exact h
  | cons m new ih =>
    cases m with
    | rankMatch r a b _ _ _ _ => exact ih h.2.2
    | _ => exact ih h

lemma OncePerRequest.of_mem {log : List Mark} (h : OncePerRequest log) {r : QueId}
    {a b : SessionId} {statA statB : Status} {openA openB : Bool}
    (hm : Mark.rankMatch r a b statA statB openA openB ∈ log) :
    a ≠ b ∧ statA = .matchRequest ∧ statB = .matchRequest ∧ openA = true ∧ openB = true := by
  obtain ⟨newer, older, rfl⟩ := List.append_of_mem hm
  exact h.of_append.1

/-- Two matches of a session are separated by a request of that session. -/
lemma OncePerRequest.request_between {newer between older : List Mark} {later earlier : Mark}
    {n : SessionId} (h : OncePerRequest (newer ++ later :: (between ++ earlier :: older)))
    (hlater : later.pairs n) (hearlier : earlier.pairs n) :
    ∃ r, Mark.setMatchingQue n r ∈ between := by
  by_contra hno
  push Not at hno
  have hspent : Spent n (between ++ earlier :: older) := spent_of_pairs hearlier hno
  have hrest := h.of_append
  cases later with
  | rankMatch r a b _ _ _ _ => exact hrest.2.1 n hlater hspent
  | _ => exact hlater

/-- The invariant of the requests: who is spent does not have the status `MATCH_REQUEST`. -/
structure View.RequestsOk (v : View) : Prop where
  spent : ∀ n, Spent n v.log → v.stat n ≠ .matchRequest
  once : OncePerRequest v.log

/-- A call makes its own session unspent, and keeps the others as they are. -/
lemma View.RequestsOk.entered {v : View} (hv : v.RequestsOk) {n : SessionId} {r : QueId}
    {log : List Mark} (h : v.Entered n r log) :
    (∀ k, Spent k log → Function.update v.stat n .matchRequest k ≠ .matchRequest) ∧
      OncePerRequest log := by
  rcases h with rfl | ⟨hst, rfl⟩
  · refine ⟨?_, hv.once⟩
    rintro k ⟨hkn, hk⟩
    rw [Function.update_of_ne hkn.symm]
    exact hv.spent k hk
  · refine ⟨fun k hk => ?_, hv.once⟩
    rw [← hst, Function.update_eq_self, hst]
    exact hv.spent k hk

/-- **The request invariant**, one step. -/
theorem ViewStep.requestsOk {v w : View} {e : Event} (h : ViewStep v e w) (hv : v.RequestsOk) :
    w.RequestsOk := by
  rcases h.call_cases with ⟨n, r, -, harr⟩ | ⟨-, hsame⟩
  · cases hserve : (serve (v.waitingWith n) (v.matchingQue r ++ [n])).1 with
    | none =>
      obtain ⟨hstat, hlog⟩ := harr.nobody hserve
      obtain ⟨hspent, honce⟩ := hv.entered hlog
      refine ⟨fun k hk => ?_, honce⟩
      rw [hstat]
      exact hspent k hk
    | some p =>
      obtain ⟨a, b⟩ := p
      obtain ⟨-, key, log, hlog, heq⟩ := harr.pair a b hserve
      obtain ⟨hspent, honce⟩ := hv.entered hlog
      obtain ⟨ha, hb, hab, -⟩ := serve_pair hserve
      simp only [View.waitingWith, Bool.and_eq_true, decide_eq_true_eq] at ha hb
      constructor
      · intro k hk hst
        obtain ⟨hst', hnot⟩ := harr.request hst
        obtain ⟨hka, hkb⟩ := hnot a b hserve
        rw [heq] at hk
        rcases hk with hk | hk | hk
        · exact hka hk
        · exact hkb hk
        · exact hspent k hk hst'
      · rw [heq]
        refine ⟨⟨hab, rfl, rfl, rfl, rfl⟩, ?_, honce⟩
        rintro k (rfl | rfl) hk
        · exact hspent k hk ha.2
        · exact hspent k hk hb.2
  · obtain ⟨new, hlog, hnew⟩ := hsame.log
    constructor
    · intro k hk hst
      rw [hlog, spent_append hnew] at hk
      exact hv.spent k hk (hsame.request k hst)
    · rw [hlog, oncePerRequest_append hnew]
      exact hv.once

lemma Reachable.requestsOk {s : Server} (h : Reachable s) : s.view.RequestsOk := by
  refine Reachable.view_invariant (P := View.RequestsOk) ?_
    (fun _ _ _ hv hstep => hstep.requestsOk hv) h
  intro b
  have hsame := View.SameQueues.waitAccept (Boot.init b).view
  obtain ⟨new, hlog, hnew⟩ := hsame.log
  constructor
  · intro k hk
    rw [hlog, spent_append hnew] at hk
    exact hk.elim
  · rw [hlog, oncePerRequest_append hnew]
    trivial

/-- **One rank match for each rank request.**  Every pair consists of two distinct sessions
with an open socket and the status `MATCH_REQUEST`, and between two matches of a session there
is a call of `set_matching_que` for it.  The log has its latest entry first. -/
theorem rank_match_once {s : Server} (h : Reachable s) :
    (∀ r a b statA statB openA openB,
      Mark.rankMatch r a b statA statB openA openB ∈ s.log →
        a ≠ b ∧ statA = .matchRequest ∧ statB = .matchRequest ∧ openA = true ∧ openB = true) ∧
    ∀ n newer later between earlier older,
      s.log = newer ++ later :: (between ++ earlier :: older) →
        later.pairs n → earlier.pairs n → ∃ r, Mark.setMatchingQue n r ∈ between := by
  have honce : OncePerRequest s.log := h.requestsOk.once
  refine ⟨fun r a b statA statB openA openB hm => honce.of_mem hm, ?_⟩
  intro n newer later between earlier older hlog hlater hearlier
  rw [hlog] at honce
  exact honce.request_between hlater hearlier

/-- The two players are matched once. -/
theorem rank_match_once_two_players :
    ∃ s, run (Boot.plain 2 1 (fun _ => none) ⟨[], []⟩) twoPlayers = some s ∧
    (∀ r a b statA statB openA openB,
      Mark.rankMatch r a b statA statB openA openB ∈ s.log →
        a ≠ b ∧ statA = .matchRequest ∧ statB = .matchRequest ∧ openA = true ∧ openB = true) ∧
    ∀ n newer later between earlier older,
      s.log = newer ++ later :: (between ++ earlier :: older) →
        later.pairs n → earlier.pairs n → ∃ r, Mark.setMatchingQue n r ∈ between := by
  obtain ⟨s, hs⟩ := Option.isSome_iff_exists.1 twoPlayers_run
  exact ⟨s, hs, rank_match_once (reachable_of_run hs)⟩

/-! ### Nobody who waits is lost -/

/-- Who waits is in a queue. -/
def View.Queued (v : View) : Prop := ∀ k, v.waiting k = true → ∃ r, k ∈ v.matchingQue r

/-- **Who waits stays in a queue**, one step. -/
theorem ViewStep.queued {v w : View} {e : Event} (h : ViewStep v e w) (hv : v.Queued) :
    w.Queued := by
  rcases h.call_cases with ⟨n, r, -, harr⟩ | ⟨-, hsame⟩
  · intro k hk
    by_cases hkn : k = n
    · subst hkn
      exact ⟨r, harr.mem_served hk (by simp)⟩
    · -- the others waited before, so they were in a queue, which may be the one that is served
      have hwaiting : v.waiting k = true := by
        simp only [View.waiting, Bool.and_eq_true, decide_eq_true_eq] at hk ⊢
        have hst := (harr.request hk.2).1
        rw [Function.update_of_ne hkn] at hst
        exact ⟨by rw [← harr.isOpen]; exact hk.1, hst⟩
      obtain ⟨r', hr'⟩ := hv k hwaiting
      refine ⟨r', ?_⟩
      by_cases hrr : r' = r
      · subst hrr
        exact harr.mem_served hk (List.mem_append_left _ hr')
      · rw [harr.matchingQue, Function.update_of_ne hrr]
        exact hr'
  · intro k hk
    rw [hsame.matchingQue]
    exact hv k (hsame.waiting k hk)

/-- **No waiting player is lost.**  A session with an open socket and the status
`MATCH_REQUEST` is in one of the matching queues. -/
theorem waiting_player_queued {s : Server} (h : Reachable s) :
    ∀ n, (s.sess n).stat = .matchRequest → (s.sess n).isOpen = true →
      ∃ r, n ∈ s.matchingQue r := by
  have hqueued : s.view.Queued := by
    refine Reachable.view_invariant (P := View.Queued) ?_
      (fun _ _ _ hv hstep => hstep.queued hv) h
    intro b k hk
    have hk' := (View.SameQueues.waitAccept (Boot.init b).view).waiting k hk
    simp [View.waiting, Server.view, Boot.init, Boot.session] at hk'
  intro n hst hopen
  refine hqueued n ?_
  simp [View.waiting, Server.view, hst, hopen]

/-- The first of two players waits for the second one. -/
theorem waiting_player_queued_first :
    ∃ s, run (Boot.plain 2 1 (fun _ => none) ⟨[], []⟩) (twoPlayers.take 4) = some s ∧
      (s.sess 0).stat = .matchRequest ∧
      ∀ n, (s.sess n).stat = .matchRequest → (s.sess n).isOpen = true →
        ∃ r, n ∈ s.matchingQue r := by
  have hrun : (run (Boot.plain 2 1 (fun _ => none) ⟨[], []⟩) (twoPlayers.take 4)).map
      (fun s => (s.sess 0).stat) = some .matchRequest := by decide
  obtain ⟨s, hs, hst⟩ := Option.map_eq_some_iff.1 hrun
  exact ⟨s, hs, hst, waiting_player_queued (reachable_of_run hs)⟩

/-! ### The deques are waiting rooms -/

/-- The pairs that were formed, the latest first, each with its queue. -/
def rankMatches (log : List Mark) : List (QueId × SessionId × SessionId) :=
  log.filterMap fun m =>
    match m with
    | .rankMatch r a b _ _ _ _ => some (r, a, b)
    | _ => none

lemma rankMatches_append {new log : List Mark} (hnew : ∀ m ∈ new, m.ofQueue = false) :
    rankMatches (new ++ log) = rankMatches log := by
  unfold rankMatches
  rw [List.filterMap_append, List.filterMap_eq_nil_iff.2, List.nil_append]
  intro m hm
  have hm := hnew m hm
  cases m <;> simp_all [Mark.ofQueue]

lemma mem_rankMatches {m : Mark} {log : List Mark} {x : QueId × SessionId × SessionId}
    (hm : m ∈ log) (hx : rankMatches [m] = [x]) : x ∈ rankMatches log := by
  have hmem : x ∈ rankMatches [m] := by
    rw [hx]
    exact List.mem_singleton_self x
  obtain ⟨m', hm', heq⟩ := List.mem_filterMap.1 hmem
  obtain rfl := List.mem_singleton.1 hm'
  exact List.mem_filterMap.2 ⟨m', hm, heq⟩

lemma View.Entered.rankMatches_eq {v : View} {n : SessionId} {r : QueId} {log : List Mark}
    (h : v.Entered n r log) : rankMatches log = rankMatches v.log := by
  rcases h with rfl | ⟨-, rfl⟩ <;> rfl

/-- The abstract step for the queue `r` when `n` arrives: who sits in the chair before is the
only entry of the queue. -/
def View.arrives (v : View) (n : SessionId) (r : QueId) :
    Option SessionId × Option (SessionId × SessionId) :=
  arrive (v.waitingWith n) (v.matchingQue r).head? n

/-- The deque `r` makes the step of a waiting room: the chair is what the abstract step says,
the pair that leaves is matched, and nobody else is. -/
structure View.RoomStep (v : View) (n : SessionId) (r : QueId) (w : View) : Prop where
  chair : w.matchingQue = Function.update v.matchingQue r (v.arrives n r).1.toList
  matches_eq : rankMatches w.log =
    (v.arrives n r).2.toList.map (fun p => (r, p)) ++ rankMatches v.log
  stat : w.stat =
    match (v.arrives n r).2 with
    | none => Function.update v.stat n .matchRequest
    | some (a, b) => Function.update
        (Function.update (Function.update v.stat n .matchRequest) a .matchComplete)
        b .matchComplete

lemma View.Arrival.roomStep {v w : View} {n : SessionId} {r : QueId} (h : v.Arrival n r w)
    (hlen : (v.matchingQue r).length ≤ 1) : v.RoomStep n r w := by
  have hserve : serve (v.waitingWith n) (v.matchingQue r ++ [n]) =
      ((v.arrives n r).2, (v.arrives n r).1.toList) := by
    have hchair := serve_toList (v.waitingWith n) (v.matchingQue r).head? n
    rwa [← eq_toList_head? hlen] at hchair
  obtain ⟨hopen, hque, hnobody, hpair⟩ := h
  rw [hserve] at hque hnobody hpair
  refine ⟨hque, ?_, ?_⟩
  · cases hleave : (v.arrives n r).2 with
    | none => exact (hnobody hleave).2.rankMatches_eq
    | some p =>
      obtain ⟨a, b⟩ := p
      obtain ⟨-, key, log, hlog, heq⟩ := hpair a b hleave
      rw [heq, ← hlog.rankMatches_eq]
      rfl
  · cases hleave : (v.arrives n r).2 with
    | none => exact (hnobody hleave).1
    | some p => exact (hpair p.1 p.2 hleave).1

/-- Every deque holds at most one entry. -/
lemma Reachable.length_matchingQue {s : Server} (h : Reachable s) (r : QueId) :
    (s.matchingQue r).length ≤ 1 := by
  refine Reachable.view_invariant (P := fun v => ∀ r, (v.matchingQue r).length ≤ 1) ?_ ?_ h r
  · intro b r
    rw [(View.SameQueues.waitAccept (Boot.init b).view).matchingQue]
    exact Nat.zero_le 1
  · intro v e w hv hstep r
    rcases hstep.call_cases with ⟨n, r', -, harr⟩ | ⟨-, hsame⟩
    · rw [harr.matchingQue]
      by_cases hr : r = r'
      · subst hr
        rw [Function.update_self]
        refine serve_length_le ?_
        have hlen := hv r
        simp only [List.length_append, List.length_singleton]
        omega
      · rw [Function.update_of_ne hr]
        exact hv r
    · rw [hsame.matchingQue]
      exact hv r

/-- **The matching deques refine waiting rooms with one chair.**  Each deque holds at most one
entry; a call of `set_matching_que` or `rematching_start` is the step of the waiting room of
its queue and leaves the other queues alone; and no other step touches a queue or forms a
pair. -/
theorem deques_refine_waiting_rooms {s : Server} (h : Reachable s) :
    (∀ r, (s.matchingQue r).length ≤ 1) ∧
      ∀ e s', Step s e s' →
        match s.view.call e with
        | some (n, r) => s.view.RoomStep n r s'.view
        | none => s'.matchingQue = s.matchingQue ∧ rankMatches s'.log = rankMatches s.log := by
  refine ⟨h.length_matchingQue, fun e s' hstep => ?_⟩
  rcases (view_step hstep).call_cases with ⟨n, r, hcall, harr⟩ | ⟨hcall, hsame⟩
  · rw [hcall]
    exact harr.roomStep (h.length_matchingQue r)
  · rw [hcall]
    obtain ⟨new, hlog, hnew⟩ := hsame.log
    refine ⟨hsame.matchingQue, ?_⟩
    have hlog : s'.log = new ++ s.log := hlog
    rw [hlog, rankMatches_append hnew]

/-- The second of two players leaves the queue together with the first one. -/
theorem deques_refine_waiting_rooms_second :
    ∃ s, run (Boot.plain 2 1 (fun _ => none) ⟨[], []⟩) (twoPlayers.take 6) = some s ∧
      s.view.call (.packet ⟨[List.replicate 16 7], [], 0⟩) = some (1, 0) ∧
      (∀ r, (s.matchingQue r).length ≤ 1) ∧
      ∀ e s', Step s e s' →
        match s.view.call e with
        | some (n, r) => s.view.RoomStep n r s'.view
        | none => s'.matchingQue = s.matchingQue ∧ rankMatches s'.log = rankMatches s.log := by
  have hrun : (run (Boot.plain 2 1 (fun _ => none) ⟨[], []⟩) (twoPlayers.take 6)).map
      (fun s => s.view.call (.packet ⟨[List.replicate 16 7], [], 0⟩)) = some (some (1, 0)) := by
    decide
  obtain ⟨s, hs, hcall⟩ := Option.map_eq_some_iff.1 hrun
  exact ⟨s, hs, hcall, deques_refine_waiting_rooms (reachable_of_run hs)⟩

end ChannelServer
