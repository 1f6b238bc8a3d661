/-
The mutexes of the server.

`Holding` describes how often each mutex is locked, and `Locks H p K` says that `p`, started
with the locks `H`, is never blocked and returns with the locks `K`.  The rules for
sequences, and for the body of a critical section, carry this through all handlers.

One handler can lock a mutex that it holds itself: `close_session` locks `session_queue_mtx`
and, when the server has stopped accepting, calls `wait_accept`, which locks it again.
`no_self_lock_iff` says that this is the only way in which a handler blocks, or returns with a
mutex locked, in a reachable state.
-/
import ChannelServer.ViewStep

namespace ChannelServer

open Resumption WaitingRoom

/-- The settings, `accepting_flag_` and the locks have the given values. -/
structure Holding (c : Config) (b : Bool) (H : Mutex → ℕ) (s : Server) : Prop where
  cfg : s.cfg = c
  acceptingFlag : s.acceptingFlag = b
  mtx : s.mtx = H

/-- The program is not blocked; it changes the locks from `H` to `K` and keeps
`accepting_flag_`. -/
def Locks {α : Type} (c : Config) (b : Bool) (H : Mutex → ℕ) (p : Handler α) (K : Mutex → ℕ) :
    Prop := Prog.Triple (Holding c b H) p fun _ => Holding c b K

variable {c : Config} {b : Bool} {H K L : Mutex → ℕ} {α β : Type}

/-! ### Rules -/

lemma locks_pure (a : α) : Locks c b H (pure a : Handler α) H := Prog.triple_pure fun _ h => h

lemma locks_bind {p : Handler α} {f : α → Handler β} (hp : Locks c b H p K)
    (hf : ∀ a, Locks c b K (f a) L) : Locks c b H (p >>= f) L := Prog.Triple.bind hp hf

lemma locks_ite {q : Prop} [Decidable q] {p p' : Handler α} (hp : Locks c b H p K)
    (hp' : Locks c b H p' K) : Locks c b H (if q then p else p') K :=
  Prog.triple_ite (fun _ => hp) fun _ => hp'

lemma locks_atomic {f : Server → α × Server}
    (h : ∀ s, (f s).2.cfg = s.cfg ∧ (f s).2.acceptingFlag = s.acceptingFlag ∧
      (f s).2.mtx = s.mtx) : Locks c b H (Prog.atomic f : Handler α) H := by
  refine Prog.triple_atomic fun s hs => ?_
  obtain ⟨hcfg, hflag, hmtx⟩ := h s
  exact ⟨hcfg.trans hs.cfg, hflag.trans hs.acceptingFlag, hmtx.trans hs.mtx⟩

lemma locks_read (f : Server → α) : Locks c b H (Prog.read f : Handler α) H :=
  locks_atomic fun _ => ⟨rfl, rfl, rfl⟩

lemma locks_getSess (n : SessionId) (f : Session → α) : Locks c b H (getSess n f) H := locks_read _

lemma locks_modify {f : Server → Server}
    (h : ∀ s, (f s).cfg = s.cfg ∧ (f s).acceptingFlag = s.acceptingFlag ∧ (f s).mtx = s.mtx) :
    Locks c b H (Prog.modify f : Handler Unit) H := locks_atomic h

lemma locks_modifySess (n : SessionId) (f : Session → Session) :
    Locks c b H (modifySess n f) H := locks_modify fun _ => ⟨rfl, rfl, rfl⟩

lemma locks_mark (m : Server → Mark) : Locks c b H (mark m) H :=
  locks_modify fun _ => ⟨rfl, rfl, rfl⟩

lemma locks_fail (e : Fault) : Locks c b H (Prog.fail e : Handler α) K := Prog.triple_fail

/-- Taking a mutex that is free, or that its owner may take again. -/
lemma locks_lock {m : Mutex}
    (h : H m = 0 ∨ c.reentrant = true ∧ m = .sessionQueueMtx) :
    Locks c b H (lock m) (Function.update H m (H m + 1)) := by
  intro s hs
  have hfree : s.mtx m = 0 ∨ (s.cfg.reentrant ∧ m = .sessionQueueMtx) := by
    rw [hs.mtx, hs.cfg]
    exact h
  have hrun : (lock m).run s =
      .done () { s with mtx := Function.update s.mtx m (s.mtx m + 1) } := by
    simp only [lock, Prog.run, if_pos hfree]
  rw [hrun]
  exact ⟨hs.cfg, hs.acceptingFlag, by rw [← hs.mtx]⟩

lemma locks_unlock (m : Mutex) :
    Locks c b (Function.update H m (H m + 1)) (unlock m) H := by
  intro s hs
  refine ⟨hs.cfg, hs.acceptingFlag, ?_⟩
  show Function.update s.mtx m (s.mtx m - 1) = H
  rw [hs.mtx, Function.update_self, Function.update_idem, Nat.add_sub_cancel,
    Function.update_eq_self]

/-! ### Messages and the login map -/

lemma locks_sendMessage (n : SessionId) (message : Message) :
    Locks c b H (sendMessage n message) H :=
  locks_bind (locks_atomic fun _ => ⟨rfl, rfl, rfl⟩) fun _ => locks_modifySess _ _

variable (hmap : H .userIdMapMtx = 0)
include hmap

lemma locks_findIdInUserMap (id : Str) : Locks c b H (findIdInUserMap id) H :=
  locks_bind (locks_lock (Or.inl hmap)) fun _ => locks_bind (locks_read _) fun _ =>
    locks_bind (locks_unlock _) fun _ => locks_pure _

lemma locks_delIdInUserMap (id : Str) : Locks c b H (delIdInUserMap id) H := by
  refine locks_bind (locks_lock (Or.inl hmap)) fun _ => locks_bind (locks_read _) fun found => ?_
  exact locks_ite
    (locks_bind (locks_modify fun _ => ⟨rfl, rfl, rfl⟩) fun _ =>
      locks_bind (locks_unlock _) fun _ => locks_pure _)
    (locks_bind (locks_unlock _) fun _ => locks_pure _)

lemma locks_addIdInUserMap (n : SessionId) (id : Str) :
    Locks c b H (addIdInUserMap n id) H := by
  refine locks_bind (locks_lock (Or.inl hmap)) fun _ => locks_bind (locks_read _) fun found => ?_
  exact locks_ite
    (locks_bind (locks_modify fun _ => ⟨rfl, rfl, rfl⟩) fun _ =>
      locks_bind (locks_unlock _) fun _ => locks_pure _)
    (locks_bind (locks_unlock _) fun _ => locks_pure _)

lemma locks_forgetLogin (n : SessionId) : Locks c b H (forgetLogin n) H :=
  locks_bind (locks_getSess _ _) fun _ =>
    locks_bind (locks_atomic fun _ => ⟨rfl, rfl, rfl⟩) fun _ =>
    locks_bind (locks_getSess _ _) fun _ =>
    locks_bind (locks_delIdInUserMap hmap _) fun _ => locks_pure _

omit hmap

/-! ### The database -/

lemma locks_mysqlQuery (query : Stmt) : Locks c b H (mysqlQuery query) H := by
  refine locks_atomic fun s => ?_
  dsimp only
  split <;> exact ⟨rfl, rfl, rfl⟩

variable (hcon : H .connectionMtx = 0)
include hcon

lemma locks_getConnection : Locks c b H getConnection H := by
  refine locks_bind (locks_lock (Or.inl hcon)) fun _ => locks_bind (locks_read _) fun que => ?_
  cases que with
  | nil => exact locks_bind (locks_unlock _) fun _ => locks_pure _
  | cons index rest =>
    exact locks_bind (locks_modify fun _ => ⟨rfl, rfl, rfl⟩) fun _ =>
      locks_bind (locks_unlock _) fun _ =>
      locks_bind (locks_read _) fun _ => locks_ite (locks_pure _) (locks_fail _)

lemma locks_releaseConnection (index : ℕ) : Locks c b H (releaseConnection index) H :=
  locks_bind (locks_lock (Or.inl hcon)) fun _ =>
    locks_bind (locks_modify fun _ => ⟨rfl, rfl, rfl⟩) fun _ =>
    locks_unlock _

lemma locks_borrowConnection (k : ℕ) : Locks c b H (borrowConnection k) H := by
  induction k with
  | zero => exact locks_fail _
  | succ k ih =>
    refine locks_bind (locks_getConnection hcon) fun index => ?_
    cases index with
    | none => exact ih
    | some i => exact locks_pure _

lemma locks_acquireConnection : Locks c b H acquireConnection H :=
  locks_bind (locks_read _) fun _ => locks_borrowConnection hcon _

lemma locks_getQueryUserInfo (id : Str) : Locks c b H (getQueryUserInfo id) H := by
  refine locks_bind (locks_acquireConnection hcon) fun index =>
    locks_bind (locks_mysqlQuery _) fun result => ?_
  cases result <;> exact locks_bind (locks_releaseConnection hcon _) fun _ => locks_pure _

lemma locks_getUserFriendsList (id : Str) : Locks c b H (getUserFriendsList id) H := by
  refine locks_bind (locks_acquireConnection hcon) fun index =>
    locks_bind (locks_mysqlQuery _) fun result => ?_
  cases result <;> exact locks_bind (locks_releaseConnection hcon _) fun _ => locks_pure _

lemma locks_addUserFrinedsList (id target : Str) :
    Locks c b H (addUserFrinedsList id target) H := by
  refine locks_bind (locks_acquireConnection hcon) fun index =>
    locks_bind (K := H) ?_ fun absent => ?_
  · refine locks_bind (locks_mysqlQuery _) fun result => ?_
    cases result <;> exact locks_pure _
  · exact locks_ite
      (locks_bind (locks_mysqlQuery _) fun _ => locks_bind (locks_releaseConnection hcon _) fun _ =>
        locks_pure _)
      (locks_bind (locks_releaseConnection hcon _) fun _ => locks_pure _)

lemma locks_delUserFrinedsList (id target : Str) :
    Locks c b H (delUserFrinedsList id target) H := by
  refine locks_bind (locks_acquireConnection hcon) fun index =>
    locks_bind (locks_mysqlQuery _) fun result =>
    locks_bind (locks_releaseConnection hcon _) fun _ => ?_
  cases result <;> exact locks_pure _

omit hcon

/-! ### The handlers -/

/-- No mutex is locked. -/
def free : Mutex → ℕ := fun _ => 0

lemma locks_admittedId (token : Str) : Locks c b free (admittedId token) free := by
  refine locks_bind (locks_read _) fun kv => ?_
  cases kv with
  | none => exact locks_pure _
  | some id =>
    refine locks_bind (locks_findIdInUserMap rfl _) fun found => ?_
    cases found <;> exact locks_pure _

lemma locks_loginAs (n : SessionId) (token id : Str) :
    Locks c b free (loginAs n token id) free := by
  refine locks_bind (locks_getQueryUserInfo rfl _) fun row => ?_
  cases row with
  | none =>
    exact locks_bind (locks_atomic fun _ => ⟨rfl, rfl, rfl⟩) fun _ =>
      locks_bind (locks_sendMessage _ _) fun _ => locks_pure _
  | some row =>
    refine locks_bind (locks_getUserFriendsList rfl _) fun list => ?_
    cases list with
    | none => exact locks_bind (locks_sendMessage _ _) fun _ => locks_pure _
    | some friends =>
      exact locks_bind (locks_modifySess _ _) fun _ => locks_bind (locks_modifySess _ _) fun _ =>
        locks_bind (locks_modifySess _ _) fun _ => locks_bind (locks_getSess _ _) fun _ =>
        locks_bind (locks_addIdInUserMap rfl _ _) fun _ =>
        locks_bind (locks_modifySess _ _) fun _ => locks_bind (locks_mark _) fun _ =>
        locks_bind (locks_sendMessage _ _) fun _ => locks_pure _

lemma locks_lobbyLoginProcess (n : SessionId) (message : JoinRequest) :
    Locks c b free (lobbyLoginProcess n message) free := by
  refine locks_bind (locks_getSess _ _) fun _ => locks_ite ?_ (locks_pure _)
  refine locks_bind (locks_admittedId _) fun admitted => ?_
  cases admitted with
  | none =>
    exact locks_bind (locks_modifySess _ _) fun _ =>
      locks_bind (locks_sendMessage _ _) fun _ => locks_pure _
  | some id => exact locks_loginAs _ _ _

lemma locks_lobbyLogoutProcess (n : SessionId) :
    Locks c b free (lobbyLogoutProcess n) free := by
  refine locks_bind (locks_getSess _ _) fun _ => locks_bind (locks_read _) fun kv => ?_
  cases kv with
  | none => exact locks_pure _
  | some id =>
    exact locks_bind (locks_getSess _ _) fun _ =>
      locks_bind (locks_atomic fun _ => ⟨rfl, rfl, rfl⟩) fun _ =>
      locks_bind (locks_getSess _ _) fun _ => locks_bind (locks_delIdInUserMap rfl _) fun _ =>
      locks_bind (locks_modifySess _ _) fun _ => locks_bind (locks_mark _) fun _ =>
      locks_bind (locks_sendMessage _ _) fun _ => locks_pure _

lemma locks_searchUser (n : SessionId) (target : Str) :
    Locks c b free (searchUser n target) free := by
  refine locks_bind (locks_bind (locks_findIdInUserMap rfl _) fun found => ?_) fun _ =>
    locks_bind (locks_sendMessage _ _) fun _ => locks_pure _
  cases found with
  | none =>
    refine locks_bind (locks_getQueryUserInfo rfl _) fun row => ?_
    cases row <;> exact locks_pure _
  | some k =>
    exact locks_bind (locks_getSess _ _) fun _ => locks_bind (locks_getSess _ _) fun _ =>
      locks_bind (locks_getSess _ _) fun _ => locks_bind (locks_getSess _ _) fun _ =>
        locks_bind (locks_getSess _ _) fun _ => locks_pure _

lemma locks_changeFriends {guard : ℤ → Bool} {change : Str → Str → Handler Bool} {step : ℤ}
    {success failure : FriendsAnsType}
    (hchange : ∀ id target, Locks c b free (change id target) free) (n : SessionId)
    (target : Str) :
    Locks c b free (changeFriends guard change step success failure n target) free := by
  have hfail : Locks c b free (do
      sendMessage n (.friendsAns failure ⟨⟨0, 0, 0, 0⟩, target⟩ none)
      pure false) free := locks_bind (locks_sendMessage _ _) fun _ => locks_pure _
  refine locks_bind (locks_getSess _ _) fun _ => locks_ite ?_ hfail
  refine locks_bind (locks_getSess _ _) fun _ => locks_bind (hchange _ _) fun _ =>
    locks_ite ?_ hfail
  exact locks_bind (locks_modifySess _ _) fun _ =>
    locks_bind (locks_sendMessage _ _) fun _ => locks_pure _

lemma locks_processFriendsFunction (n : SessionId) (message : FriendsRequest) :
    Locks c b free (processFriendsFunction n message) free := by
  unfold processFriendsFunction
  cases message.type with
  | add =>
    exact locks_bind (locks_changeFriends (locks_addUserFrinedsList rfl) _ _) fun _ => locks_pure _
  | del =>
    exact locks_bind (locks_changeFriends (locks_delUserFrinedsList rfl) _ _) fun _ => locks_pure _
  | search => exact locks_bind (locks_searchUser _ _) fun _ => locks_pure _

lemma locks_roomKeyLoop (k : ℕ) : Locks c b H (roomKeyLoop k) H := by
  induction k with
  | zero => exact locks_fail _
  | succ k ih =>
    refine locks_bind (K := H) ?_ fun key => locks_bind (locks_read _) fun kv => ?_
    · intro s hs
      simp only [generateRoomKey, Prog.run]
      cases s.answers.uuids with
      | nil => trivial
      | cons u rest => exact ⟨hs.cfg, hs.acceptingFlag, hs.mtx⟩
    · cases kv with
      | none => exact locks_bind (locks_modify fun _ => ⟨rfl, rfl, rfl⟩) fun _ => locks_pure _
      | some _ => exact ih

lemma locks_matchInfo (n : SessionId) : Locks c b H (matchInfo n) H :=
  locks_bind (locks_getSess _ _) fun _ => locks_bind (locks_getSess _ _) fun _ =>
    locks_bind (locks_getSess _ _) fun _ => locks_bind (locks_getSess _ _) fun _ =>
      locks_bind (locks_getSess _ _) fun _ => locks_pure _

lemma locks_makeMatchingAndSendComplete (a b' : SessionId) :
    Locks c b H (makeMatchingAndSendComplete a b') H := by
  have hsend : ∀ (n : SessionId) key opponent, Locks c b H (sendComplete n key opponent) H :=
    fun n key opponent => locks_bind (locks_modifySess _ _) fun _ =>
      locks_bind (locks_modifySess _ _) fun _ => locks_sendMessage _ _
  exact locks_bind (locks_bind (locks_read _) fun _ => locks_roomKeyLoop _) fun key =>
    locks_bind (locks_mark _) fun _ => locks_bind (locks_matchInfo _) fun _ =>
    locks_bind (locks_matchInfo _) fun _ => locks_bind (hsend _ _ _) fun _ => hsend _ _ _

lemma locks_isWaiting (n : SessionId) : Locks c b H (isWaiting n) H :=
  locks_bind (locks_getSess _ _) fun _ =>
    locks_ite (locks_bind (locks_getSess _ _) fun _ => locks_pure _) (locks_pure _)

lemma locks_queFront (r : QueId) : Locks c b H (queFront r) H := by
  intro s hs
  simp only [queFront, Prog.run]
  cases s.matchingQue r with
  | nil => trivial
  | cons n rest => exact hs

lemma locks_quePopFront (r : QueId) : Locks c b H (quePopFront r) H := by
  intro s hs
  simp only [quePopFront, Prog.run]
  cases s.matchingQue r with
  | nil => trivial
  | cons n rest => exact ⟨hs.cfg, hs.acceptingFlag, hs.mtx⟩

lemma locks_getMatchingQue (r : QueId) : Locks c b H (getMatchingQue r) H := by
  refine locks_bind (K := H) ?_ fun players => ?_
  · refine locks_bind (locks_read _) fun _ => locks_ite ?_ (locks_pure _)
    refine locks_bind (locks_queFront _) fun _ => locks_bind (locks_quePopFront _) fun _ =>
      locks_bind (locks_isWaiting _) fun _ => locks_ite ?_ (locks_pure _)
    refine locks_bind (locks_queFront _) fun _ => locks_bind (locks_quePopFront _) fun _ =>
      locks_bind (locks_isWaiting _) fun _ => locks_ite ?_ ?_
    · exact locks_bind (locks_modify fun _ => ⟨rfl, rfl, rfl⟩) fun _ => locks_pure _
    · exact locks_bind (locks_mark _) fun _ => locks_pure _
  · cases players with
    | none => exact locks_pure _
    | some players =>
      exact locks_bind (locks_makeMatchingAndSendComplete _ _) fun _ => locks_pure _

lemma locks_controlTimerRematch (n : SessionId) (sec : ℤ) (isSet : Bool) :
    Locks c b H (controlTimerRematch n sec isSet) H :=
  locks_ite (locks_bind (locks_modifySess _ _) fun _ => locks_modify fun _ => ⟨rfl, rfl, rfl⟩)
    (locks_pure _)

lemma locks_setMatchingQue (n : SessionId) (rating : Rating) :
    Locks c b free (setMatchingQue n rating) free := by
  refine locks_bind (locks_mark _) fun _ => locks_bind (locks_lock (Or.inl rfl)) fun _ =>
    locks_bind (locks_modify fun _ => ⟨rfl, rfl, rfl⟩) fun _ =>
    locks_bind (locks_modifySess _ _) fun _ => locks_bind (locks_getMatchingQue _) fun paired => ?_
  dsimp only
  refine locks_ite (locks_unlock _) (locks_bind (locks_read _) fun _ => locks_ite ?_ ?_)
  · exact locks_bind (locks_controlTimerRematch _ _ _) fun _ => locks_unlock _
  · exact locks_unlock _

lemma locks_rematchingStart (n : SessionId) : Locks c b free (rematchingStart n) free := by
  refine locks_bind (locks_getSess _ _) fun _ => locks_ite ?_ (locks_pure _)
  exact locks_bind (locks_lock (Or.inl rfl)) fun _ => locks_bind (locks_mark _) fun _ =>
    locks_bind (locks_modify fun _ => ⟨rfl, rfl, rfl⟩) fun _ =>
    locks_bind (locks_getMatchingQue _) fun _ => locks_bind (locks_unlock _) fun _ => locks_pure _

lemma locks_bothHave (n : SessionId) (st st' : Status) (target : Option SessionId) :
    Locks c b H (bothHave n st target st') H := by
  cases target with
  | none => exact locks_pure _
  | some m =>
    exact locks_bind (locks_getSess _ _) fun _ => locks_ite
      (locks_bind (locks_getSess _ _) fun _ => locks_ite (locks_pure _) (locks_pure _))
      (locks_pure _)

lemma locks_processMatchingWithFriends (n : SessionId) (message : MatchWithFriendsRelay) :
    Locks c b free (processMatchingWithFriends n message) free := by
  refine locks_bind (locks_findIdInUserMap rfl _) fun target => locks_ite ?_ ?_
  · exact locks_bind (locks_modifySess _ _) fun _ => locks_sendMessage _ _
  · cases message.type with
    | accept =>
      refine locks_bind (locks_bothHave _ _ _ _) fun found => ?_
      cases found with
      | none => exact locks_sendMessage _ _
      | some m => exact locks_makeMatchingAndSendComplete _ _
    | apply =>
      refine locks_bind (locks_bothHave _ _ _ _) fun found => ?_
      cases found with
      | none => exact locks_sendMessage _ _
      | some m =>
        exact locks_bind (locks_getSess _ _) fun _ => locks_bind (locks_modifySess _ _) fun _ =>
          locks_bind (locks_modifySess _ _) fun _ => locks_bind (locks_mark _) fun _ =>
          locks_sendMessage _ _
    | deny =>
      refine locks_bind (locks_bothHave _ _ _ _) fun found => ?_
      cases found with
      | none =>
        -- reading the id through a null pointer faults, and does not block
        refine locks_bind (locks_sendMessage _ _) fun _ => locks_bind (K := free) ?_ fun _ =>
          locks_pure _
        cases target with
        | none => exact locks_fail _
        | some m => exact locks_getSess m (·.userId)
      | some m =>
        exact locks_bind (locks_getSess _ _) fun _ => locks_bind (locks_modifySess _ _) fun _ =>
          locks_bind (locks_modifySess _ _) fun _ => locks_sendMessage _ _

lemma locks_processMatchConfirm (n : SessionId) :
    Locks c b H (processMatchConfirm n) H :=
  locks_bind (locks_getSess _ _) fun _ =>
    locks_ite (locks_bind (locks_modifySess _ _) fun _ => locks_pure _) (locks_pure _)

lemma locks_processConfig (n : SessionId) (message : ErrorReport) :
    Locks c b H (processConfig n message) H :=
  locks_bind (locks_read _) fun _ => locks_bind (locks_read _) fun _ => locks_sendMessage _ _

/-! ### Accepting and closing -/

/-- `wait_accept` where `session_queue_mtx` can be taken. -/
lemma locks_waitAccept (h : H .sessionQueueMtx = 0 ∨ c.reentrant = true) :
    Prog.Triple (Holding c b H) waitAccept fun _ s => s.mtx = H := by
  have hlock : H .sessionQueueMtx = 0 ∨
      c.reentrant = true ∧ Mutex.sessionQueueMtx = .sessionQueueMtx := by
    rcases h with h | h
    · exact Or.inl h
    · exact Or.inr ⟨h, rfl⟩
  refine Prog.Triple.bind (locks_lock hlock) fun _ => Prog.Triple.bind (locks_read _) fun que => ?_
  intro s hs
  have hmtx : Function.update s.mtx .sessionQueueMtx (s.mtx .sessionQueueMtx - 1) = H := by
    rw [hs.mtx, Function.update_self, Function.update_idem, Nat.add_sub_cancel,
      Function.update_eq_self]
  cases que with
  | nil => exact hmtx
  | cons n rest => exact hmtx

/-- The end of `close_session`, where `wait_accept` is not called or may be nested. -/
lemma locks_finishClose (n : SessionId) (h : b = true ∨ c.reentrant = true) :
    Prog.Triple (Holding c b free) (finishClose n) fun _ s => s.mtx = free := by
  refine Prog.Triple.bind (locks_modifySess _ _) fun _ =>
    Prog.Triple.bind (locks_modifySess _ _) fun _ =>
    Prog.Triple.bind (locks_modify fun _ => ⟨rfl, rfl, rfl⟩) fun _ =>
    Prog.Triple.bind (locks_lock (Or.inl rfl)) fun _ =>
    Prog.Triple.bind (locks_modify fun _ => ⟨rfl, rfl, rfl⟩) fun _ => ?_
  have hread : Prog.Triple
      (Holding c b (Function.update free .sessionQueueMtx (free .sessionQueueMtx + 1)))
      (Prog.read (fun s => s.acceptingFlag) : Handler Bool)
      fun flag s => flag = b ∧
        Holding c b (Function.update free .sessionQueueMtx (free .sessionQueueMtx + 1)) s :=
    fun s hs => ⟨hs.acceptingFlag, hs⟩
  refine Prog.Triple.bind hread fun flag => ?_
  have hunlock : Prog.Triple
      (fun s => s.mtx = Function.update free .sessionQueueMtx (free .sessionQueueMtx + 1))
      (unlock .sessionQueueMtx) fun _ s => s.mtx = free := by
    intro s hs
    show Function.update s.mtx .sessionQueueMtx (s.mtx .sessionQueueMtx - 1) = free
    rw [hs, Function.update_self, Function.update_idem, Nat.add_sub_cancel,
      Function.update_eq_self]
  dsimp only
  by_cases hflag : flag = false
  · -- `wait_accept` runs with `session_queue_mtx` locked
    rw [if_pos hflag]
    intro s hs
    obtain ⟨rfl, hs⟩ := hs
    have hre : c.reentrant = true := by simpa [hflag] using h
    exact Prog.Triple.bind (locks_waitAccept (Or.inr hre)) (fun _ => hunlock) s hs
  · rw [if_neg hflag]
    exact hunlock.conseq (fun s hs => hs.2.mtx) fun _ _ h => h

lemma locks_closeSession (n : SessionId) (h : b = true ∨ c.reentrant = true) :
    Prog.Triple (Holding c b free) (closeSession n) fun _ s => s.mtx = free := by
  refine Prog.Triple.bind (locks_getSess _ _) fun st => ?_
  have hforget := Prog.Triple.bind (locks_forgetLogin (H := free) rfl n) fun _ =>
    locks_finishClose n h
  cases st with
  | login | matchRecver | matchRequest => exact hforget
  | logout | conn => exact locks_finishClose n h
  | matchConfirm =>
    exact Prog.Triple.bind (locks_getSess _ _) fun _ =>
      Prog.Triple.bind (locks_delIdInUserMap rfl _) fun _ => locks_finishClose n h
  | matchComplete =>
    exact Prog.Triple.bind (locks_getSess _ _) fun _ =>
      Prog.Triple.bind (locks_atomic fun _ => ⟨rfl, rfl, rfl⟩) fun _ =>
      Prog.Triple.bind (locks_modify fun _ => ⟨rfl, rfl, rfl⟩) fun _ => hforget
  | wait | matchApply => exact Prog.triple_pure fun _ hs => hs.mtx

/-! ### The handler that locks its own mutex -/

/-- A composition blocks when its second part does. -/
lemma blocked_bind {p : Handler α} {f : α → Handler β} {s t : Server} {a : α}
    (hp : p.run s = .done a t) (hf : ∃ u, (f a).run t = .blocked u) :
    ∃ u, (p >>= f).run s = .blocked u := by
  obtain ⟨u, hu⟩ := hf
  exact ⟨u, by rw [Prog.run_bind, hp, Out.bind_done, hu]⟩

lemma blocked_left {p : Handler α} {f : α → Handler β} {s : Server}
    (hp : ∃ u, p.run s = .blocked u) : ∃ u, (p >>= f).run s = .blocked u := by
  obtain ⟨u, hu⟩ := hp
  exact ⟨u, by rw [Prog.run_bind, hu, Out.bind_blocked]⟩

/-- A mutex that is locked cannot be locked again. -/
lemma lock_blocked {m : Mutex} {s : Server} (h : s.mtx m ≠ 0) (hre : s.cfg.reentrant = false) :
    (lock m).run s = .blocked s := by
  have hheld : ¬ (s.mtx m = 0 ∨ (s.cfg.reentrant ∧ m = .sessionQueueMtx)) := by
    simp [h, hre]
  simp only [lock, Prog.run, if_neg hheld]

/-- When the server has stopped accepting, the end of `close_session` waits for the mutex
that it holds itself. -/
lemma finishClose_blocked {n : SessionId} {s : Server} (hmtx : s.mtx .sessionQueueMtx = 0)
    (hflag : s.acceptingFlag = false) (hre : s.cfg.reentrant = false) :
    ∃ t, (finishClose n).run s = .blocked t := by
  refine blocked_bind rfl (blocked_bind rfl (blocked_bind rfl (blocked_bind (run_lock hmtx)
    (blocked_bind rfl (blocked_bind (a := s.acceptingFlag) rfl ?_)))))
  dsimp only
  rw [if_pos hflag]
  -- the first action of `wait_accept` is the lock that blocks
  refine blocked_left (blocked_left ⟨_, lock_blocked ?_ hre⟩)
  simp [Server.setSess]

/-- A session whose status is no reason to return at once cannot be closed then. -/
lemma closeSession_blocked {n : SessionId} {s : Server} (hst : (s.sess n).stat.closes)
    (hmtx : s.mtx = free) (hflag : s.acceptingFlag = false) (hre : s.cfg.reentrant = false) :
    ∃ t, (closeSession n).run s = .blocked t := by
  -- the removal of the token and the user id returns, and leaves the mutexes as they are
  have hforget : ∀ u : Server, Holding s.cfg false free u →
      ∃ t, (do forgetLogin n; finishClose n : Handler Unit).run u = .blocked t := by
    intro u hu
    obtain ⟨found, t, ht⟩ : ∃ found t, (delIdInUserMap (u.sess n).userId).run
        { u with redis := Function.update u.redis (u.sess n).token none } = .done found t :=
      ⟨_, _, delIdInUserMap_run _ (congrFun hu.mtx _)⟩
    have hforget : (forgetLogin n).run u = .done () t := by
      refine Prog.run_bind_eq_done.2 ⟨_, _, rfl, ?_⟩
      refine Prog.run_bind_eq_done.2 ⟨_, _, rfl, ?_⟩
      refine Prog.run_bind_eq_done.2 ⟨_, _, rfl, ?_⟩
      exact Prog.run_bind_eq_done.2 ⟨_, _, ht, rfl⟩
    have ht := (locks_forgetLogin rfl n).of_done hu hforget
    exact blocked_bind hforget (finishClose_blocked (by rw [ht.mtx]; rfl) ht.acceptingFlag
      (by rw [ht.cfg, hre]))
  have hs : Holding s.cfg false free s := ⟨rfl, hflag, hmtx⟩
  have hfinish := finishClose_blocked (n := n) (by rw [hmtx]; rfl) hflag hre
  refine blocked_bind (a := (s.sess n).stat) (t := s) rfl ?_
  cases hcase : (s.sess n).stat with
  | wait => exact absurd hcase hst.1
  | matchApply => exact absurd hcase hst.2
  | conn | logout => exact hfinish
  | login | matchRecver | matchRequest => exact hforget s hs
  | matchConfirm =>
    obtain ⟨found, t, ht⟩ : ∃ found t, (delIdInUserMap (s.sess n).userId).run s = .done found t :=
      ⟨_, _, delIdInUserMap_run _ (congrFun hmtx _)⟩
    have hheld := (locks_delIdInUserMap rfl _).of_done hs ht
    exact blocked_bind rfl (blocked_bind ht (finishClose_blocked (by rw [hheld.mtx]; rfl)
      hheld.acceptingFlag (by rw [hheld.cfg, hre])))
  | matchComplete =>
    refine blocked_bind rfl (blocked_bind rfl (blocked_bind rfl ?_))
    exact hforget _ ⟨rfl, hflag, hmtx⟩

/-! ### The events -/

/-- The event makes its handler close a session. -/
def View.Closes (v : View) : Event → Prop
  | .receiveError n _ error => error ≠ .other ∧ (v.stat n).closes
  | .packet _ => ∃ n rest, v.current = some (n, .matchConfirm :: rest) ∧ v.stat n = .matchComplete
  | _ => False

/-- The packets other than a confirmation. -/
lemma locks_processPacket (n : SessionId) {p : Packet} (hp : p ≠ .matchConfirm) :
    Locks c b free (processPacket n p) free := by
  cases p with
  | friendsReq message => exact locks_processFriendsFunction n message
  | playFriendsRel message => exact locks_processMatchingWithFriends n message
  | playRankReq => exact locks_bind (locks_getSess _ _) fun _ => locks_setMatchingQue _ _
  | joinReq message => exact locks_bind (locks_lobbyLoginProcess _ _) fun _ => locks_pure _
  | logoutReq => exact locks_bind (locks_lobbyLogoutProcess _) fun _ => locks_pure _
  | matchConfirm => exact absurd rfl hp
  | errorMsg message => exact locks_processConfig n message
  | other type => exact locks_pure _

lemma locks_handleWrite (n : SessionId) : Locks c b free (handleWrite n) free := by
  refine locks_bind (K := free) ?_ fun _ => locks_bind (locks_getSess _ _) fun _ =>
    locks_ite (locks_modifySess _ _) ?_
  · intro s hs
    simp only [sendPopFront, Prog.run]
    cases (s.sess n).send.popFront with
    | none => trivial
    | some q => exact ⟨hs.cfg, hs.acceptingFlag, hs.mtx⟩
  · refine locks_bind (locks_getSess _ _) fun front => ?_
    cases front with
    | none => exact locks_pure _
    | some data => exact locks_modifySess _ _

/-- The part of the outside in an event takes no mutex. -/
lemma prepare_holding {s t : Server} {e : Event} (hs : Holding c b H s)
    (h : prepare s e = some t) : Holding c b H t := by
  have hprep := prepared_of_prepare h
  exact ⟨hprep.cfg.trans hs.cfg, hprep.acceptingFlag.trans hs.acceptingFlag,
    hprep.mtx.trans hs.mtx⟩

/-- `close_session` from a given state, where it may return at once. -/
lemma closeSession_free {t : Server} (ht : Holding c b free t) (n : SessionId)
    (h : (t.sess n).stat.closes → b = true ∨ c.reentrant = true) :
    Prog.Triple (fun u => u = t) (closeSession n) fun _ u => u.mtx = free := by
  rintro u rfl
  by_cases hst : (u.sess n).stat.closes
  · exact locks_closeSession n (h hst) u ht
  · have hreturn : (u.sess n).stat = .wait ∨ (u.sess n).stat = .matchApply := by
      simp only [Status.closes] at hst
      tauto
    have hrun : (closeSession n).run u = .done () u := by
      refine Prog.run_bind_eq_done.2 ⟨(u.sess n).stat, _, rfl, ?_⟩
      rcases hreturn with hst | hst <;> rw [hst] <;> rfl
    rw [hrun]
    exact ht.mtx

/-- A confirmation from a given state, where the status decides whether the session is closed. -/
lemma matchConfirm_free {t : Server} (ht : Holding c b free t) (n : SessionId)
    (h : (t.sess n).stat = .matchComplete → b = true ∨ c.reentrant = true) :
    Prog.Triple (fun u => u = t) (processPacket n .matchConfirm) fun _ u => u.mtx = free := by
  refine Prog.Triple.bind (Q := fun ok u => Holding c b free u ∧
    (ok = true → b = true ∨ c.reentrant = true)) ?_ fun ok => ?_
  · rintro u rfl
    by_cases hst : (u.sess n).stat = .matchComplete
    · have hrun := (locks_processMatchConfirm (c := c) (b := b) (H := free) n) u ht
      revert hrun
      cases (processMatchConfirm n).run u with
      | done ok u' => exact fun hu' => ⟨hu', fun _ => h hst⟩
      | blocked u' => exact id
      | failed f => exact id
    · have hrun : (processMatchConfirm n).run u = .done false u := by
        refine Prog.run_bind_eq_done.2 ⟨_, _, rfl, ?_⟩
        exact (congrArg (Prog.run · _) (if_neg hst)).trans rfl
      rw [hrun]
      exact ⟨ht, by simp⟩
  · cases ok with
    | true =>
      intro u hu
      exact locks_closeSession n (hu.2 rfl) u hu.1
    | false => exact fun u hu => hu.1.mtx

/-- A handler that closes no session, or may call `wait_accept` from `close_session`. -/
lemma handler_free {s t : Server} {e : Event} (hs : Holding c b free s)
    (hprep : prepare s e = some t) (h : s.view.Closes e → b = true ∨ c.reentrant = true) :
    Prog.Triple (fun u => u = t) (handler s e) fun _ u => u.mtx = free := by
  have ht := prepare_holding hs hprep
  have of_locks : ∀ {p : Handler Unit}, Prog.Triple (Holding c b free) p (fun _ u => u.mtx = free) →
      Prog.Triple (fun u => u = t) p fun _ u => u.mtx = free := by
    intro p hp u hu
    rw [hu]
    exact hp t ht
  have locked : ∀ {p : Handler Unit}, Locks c b free p free →
      Prog.Triple (fun u => u = t) p fun _ u => u.mtx = free := fun hp =>
    of_locks (hp.conseq (fun _ h => h) fun _ _ h => h.mtx)
  have hwait : Prog.Triple (Holding c b free) (do let _ ← waitAccept : Handler Unit)
      fun _ u => u.mtx = free :=
    Prog.Triple.bind (locks_waitAccept (Or.inl rfl)) fun _ _ h => h
  cases e with
  | startAccept => exact of_locks hwait
  | acceptDone n error =>
    refine of_locks ?_
    cases error with
    | true => exact fun _ h => h.mtx
    | false =>
      exact Prog.Triple.bind (locks_mark _) fun _ =>
        Prog.Triple.bind (locks_modifySess _ _) fun _ =>
        Prog.Triple.bind (locks_modify fun _ => ⟨rfl, rfl, rfl⟩) fun _ =>
        Prog.Triple.bind (locks_modifySess _ _) fun _ =>
        Prog.Triple.bind (locks_modify fun _ => ⟨rfl, rfl, rfl⟩) fun _ => hwait
  | receive n packets => exact locked (locks_pure ())
  | packet answers =>
    simp only [prepare] at hprep
    split at hprep
    · rename_i n p rest hcur
      simp only [handler, hcur]
      by_cases hp : p = .matchConfirm
      · subst hp
        obtain rfl := Option.some.inj hprep
        exact matchConfirm_free ht n fun hst => h ⟨n, rest, hcur, hst⟩
      · exact locked (locks_processPacket n hp)
    · cases hprep
  | receiveEnd =>
    simp only [prepare] at hprep
    split at hprep
    · rename_i n hcur
      simp only [handler, hcur]
      exact locked (locks_modify fun _ => ⟨rfl, rfl, rfl⟩)
    · cases hprep
  | receiveError n live error =>
    have hclose : error ≠ .other →
        Prog.Triple (fun u => u = t) (closeSession n) fun _ u => u.mtx = free := by
      intro herror
      obtain ⟨-, hprep⟩ := Option.ite_none_right_eq_some.1 hprep
      obtain rfl := Option.some.inj hprep
      exact closeSession_free ht n fun hst => h ⟨herror, hst⟩
    cases error with
    | eof => exact hclose (by simp)
    | connectionReset => exact hclose (by simp)
    | other => exact locked (locks_pure ())
  | timer n i answers =>
    exact locked (locks_bind (locks_getSess _ _) fun _ => locks_ite
      (locks_bind (locks_rematchingStart _) fun _ => locks_pure _) (locks_pure _))
  | writeDone n i => exact locked (locks_handleWrite n)
  | world redis tables => exact locked (locks_pure ())

/-- Closing a session while the server has stopped accepting blocks. -/
lemma outcome_blocked {s : Server} {e : Event} {o : Out Server Fault Unit}
    (ho : outcome s e = some o) (hmtx : s.mtx = free) (hclose : s.view.Closes e)
    (hflag : s.acceptingFlag = false) (hre : s.cfg.reentrant = false) :
    ∃ t, o = .blocked t := by
  obtain ⟨t, hprep, rfl⟩ := Option.map_eq_some_iff.1 ho
  cases e with
  | receiveError n live error =>
    obtain ⟨herror, hst⟩ := hclose
    obtain ⟨-, hprep⟩ := Option.ite_none_right_eq_some.1 hprep
    obtain rfl := Option.some.inj hprep
    cases error with
    | eof | connectionReset => exact closeSession_blocked hst hmtx hflag hre
    | other => exact absurd rfl herror
  | packet answers =>
    obtain ⟨n, rest, hcur, hst⟩ := hclose
    have hcur' : s.current = some (n, .matchConfirm :: rest) := hcur
    simp only [prepare, hcur', Option.some.injEq] at hprep
    subst hprep
    simp only [handler, hcur']
    refine blocked_bind (a := true)
      (t := Server.setSess { s with current := some (n, rest), answers := answers } n
        { s.sess n with stat := .matchConfirm }) ?_ ?_
    · refine Prog.run_bind_eq_done.2 ⟨(s.sess n).stat, _, rfl, ?_⟩
      have hst' : (s.sess n).stat = .matchComplete := hst
      rw [hst']
      rfl
    · rw [if_pos rfl]
      refine closeSession_blocked ?_ hmtx hflag hre
      simp [Server.setSess, Status.closes]
  | startAccept | acceptDone _ _ | receive _ _ | receiveEnd | timer _ _ _ | writeDone _ _
  | world _ _ => exact hclose.elim

/-- No handler leaves a mutex locked when it returns. -/
lemma Step.mtx_free {s s' : Server} {e : Event} (h : Step s e s') (hmtx : s.mtx = free) :
    s'.mtx = free := by
  obtain ⟨t, hprep, hrun⟩ := step_iff.1 h
  by_cases hc : s.view.Closes e → s.acceptingFlag = true ∨ s.cfg.reentrant = true
  · exact (handler_free ⟨rfl, rfl, hmtx⟩ hprep hc).of_done rfl hrun
  · simp only [Classical.not_imp, not_or, Bool.not_eq_true] at hc
    obtain ⟨hclose, hflag, hre⟩ := hc
    obtain ⟨u, hu⟩ := outcome_blocked h hmtx hclose hflag hre
    cases hu

/-- In a reachable state no mutex is locked. -/
theorem Reachable.mtx_free {s : Server} (h : Reachable s) : s.mtx = free := by
  refine Runs.Reached.invariant (I := fun s => s.mtx = free) ?_
    (fun _ _ _ _ hmtx _ hstep => Step.mtx_free hstep hmtx) h
  rintro s ⟨b, r, hrun⟩
  exact (locks_waitAccept (c := b.cfg) (b := false) (H := free) (Or.inl rfl)).of_done
    (s := b.init) ⟨rfl, rfl, rfl⟩ hrun

/-- **A handler locks its own mutex exactly when it closes a session while the server has
stopped accepting.**  In every reachable state all mutexes are free, so a handler that blocks
waits for a mutex that it holds itself. -/
theorem no_self_lock_iff {s : Server} (h : Reachable s) (hre : s.cfg.reentrant = false)
    {e : Event} {o : Out Server Fault Unit} (ho : outcome s e = some o) :
    (∀ m, s.mtx m = 0) ∧
      (((∀ t, o ≠ .blocked t) ∧ ∀ t, o = .done () t → ∀ m, t.mtx m = 0) ↔
        ¬ (s.view.Closes e ∧ s.acceptingFlag = false)) := by
  have hmtx := h.mtx_free
  refine ⟨fun m => by rw [hmtx]; rfl, ?_⟩
  constructor
  · rintro ⟨hblock, -⟩ ⟨hclose, hflag⟩
    obtain ⟨t, rfl⟩ := outcome_blocked ho hmtx hclose hflag hre
    exact hblock t rfl
  · intro hcond
    obtain ⟨t, hprep, rfl⟩ := Option.map_eq_some_iff.1 ho
    have hfree := handler_free ⟨rfl, rfl, hmtx⟩ hprep fun hclose => by
      have hflag : s.acceptingFlag ≠ false := fun hflag => hcond ⟨hclose, hflag⟩
      exact Or.inl (by simpa using hflag)
    refine ⟨fun u => hfree.not_blocked rfl, fun u hu m => ?_⟩
    have hmtx' : u.mtx = free := hfree.of_done rfl hu
    rw [hmtx']
    rfl

/-- The pool has one session and its client disconnects: the handler stops in front of
`session_queue_mtx`, which it holds. -/
theorem self_lock_one_session :
    ∃ s t, Reachable s ∧ s.cfg.reentrant = false ∧ (∀ m, s.mtx m = 0) ∧
      outcome s (.receiveError 0 true .eof) = some (.blocked t) ∧
      t.mtx .sessionQueueMtx = 1 := by
  have hrun : (run (Boot.plain 1 1 (fun _ => none) ⟨[], []⟩) [.acceptDone 0 false]).map
      (fun s => (s.cfg.reentrant, ((outcome s (.receiveError 0 true .eof)).bind Out.blockedAt).map
        fun t => t.mtx .sessionQueueMtx)) = some (false, some 1) := by decide
  obtain ⟨s, hs, heq⟩ := Option.map_eq_some_iff.1 hrun
  obtain ⟨hre, hblocked⟩ := Prod.mk.inj heq
  obtain ⟨t, ht, hlocked⟩ := Option.map_eq_some_iff.1 hblocked
  obtain ⟨o, ho, hot⟩ := Option.bind_eq_some_iff.1 ht
  obtain rfl := Out.blockedAt_eq_some.1 hot
  have hreach := reachable_of_run hs
  refine ⟨s, t, hreach, hre, fun m => ?_, ho, hlocked⟩
  rw [hreach.mtx_free]
  rfl

/-- With a second session waiting for a client, the same disconnection returns. -/
theorem no_self_lock_two_sessions :
    ∃ s o, run (Boot.plain 2 1 (fun _ => none) ⟨[], []⟩) [.acceptDone 0 false] = some s ∧
      outcome s (.receiveError 0 true .eof) = some o ∧ (∀ m, s.mtx m = 0) ∧
      (((∀ t, o ≠ .blocked t) ∧ ∀ t, o = .done () t → ∀ m, t.mtx m = 0) ↔
        ¬ (s.view.Closes (.receiveError 0 true .eof) ∧ s.acceptingFlag = false)) := by
  have hrun : (run (Boot.plain 2 1 (fun _ => none) ⟨[], []⟩) [.acceptDone 0 false]).map
      (fun s => (s.cfg.reentrant, (outcome s (.receiveError 0 true .eof)).isSome)) =
        some (false, true) := by decide
  obtain ⟨s, hs, heq⟩ := Option.map_eq_some_iff.1 hrun
  obtain ⟨hre, hsome⟩ := Prod.mk.inj heq
  obtain ⟨o, ho⟩ := Option.isSome_iff_exists.1 hsome
  exact ⟨s, o, hs, ho, no_self_lock_iff (reachable_of_run hs) hre ho⟩

end ChannelServer
