/-
What a session keeps of its previous user.

Neither `session::init` nor `handle_accept` resets the numbers of the user, the user id, the token
and the room key of a session: they are the `Residue` of the session.  `Server.mapResidue`
replaces the residue of one session in a state.  Most handlers are `Blind`: their actions commute
with such a replacement.  A handler that reads or writes the numbers, the user id or the token of
the session is blind only when the replacement concerns the room key alone (`KeepsUser`), and so
are the statuses other than `CONN`, `LOGOUT` and `WAIT` allowed only then.
-/
import ChannelServer.Machine
import ChannelServer.Lib.Lockstep

namespace ChannelServer

open Resumption

/-! ### The residue of a session -/

/-- The members of a session that an accept leaves as they are. -/
structure Residue where
  user : User
  token : Str
  roomKey : Str

def Session.residue (x : Session) : Residue := ⟨x.toUser, x.token, x.roomKey⟩

def Session.withResidue (x : Session) (r : Residue) : Session :=
  { x with toUser := r.user, token := r.token, roomKey := r.roomKey }

/-- Replace the residue of a session, by a function of the one it has. -/
def Session.mapResidue (g : Residue → Residue) (x : Session) : Session :=
  x.withResidue (g x.residue)

/-- Replace the residue of the session `k`. -/
def Server.mapResidue (k : SessionId) (g : Residue → Residue) (s : Server) : Server :=
  { s with sess := Function.update s.sess k ((s.sess k).mapResidue g) }

/-- Only the room key is replaced. -/
def KeepsUser (g : Residue → Residue) : Prop := ∃ key, g = fun r => { r with roomKey := key }

/-- The statuses of a session while its residue is replaced: none of them leads to a use of what
is replaced. -/
def StatOk (g : Residue → Residue) : Status → Prop
  | .conn | .logout | .wait => True
  | .matchComplete => False
  | .login | .matchRequest | .matchApply | .matchRecver | .matchConfirm => KeepsUser g

/-- No JOIN_REQ has succeeded on the session since the log was `base`. -/
def NotJoinedSince (k : SessionId) (base log : List Mark) : Prop :=
  ∀ new, log = new ++ base → ∀ u, .joined k u ∉ new

/-- The states in which the residue of the session `k` may be replaced: everything but the room
key only before a JOIN_REQ succeeds. -/
def Covered (k : SessionId) (base : List Mark) (g : Residue → Residue) (s : Server) : Prop :=
  StatOk g (s.sess k).stat ∧ (KeepsUser g ∨ NotJoinedSince k base s.log)

/-- The actions of the program commute with the replacement of the residue of `k`. -/
abbrev Blind (k : SessionId) (base : List Mark) (g : Residue → Residue) {α : Type}
    (p : Handler α) : Prop := p.Steady (Server.mapResidue k g) (Covered k base g)

variable {n k : SessionId} {base : List Mark} {g : Residue → Residue} {s : Server}

lemma NotJoinedSince.cons {log : List Mark} {m : Mark} (h : NotJoinedSince k base log)
    (hm : ∀ u, m ≠ .joined k u) : NotJoinedSince k base (m :: log) := by
  intro new hlog u hu
  cases new with
  | nil => cases hu
  | cons m' new =>
    obtain ⟨rfl, hrest⟩ := List.cons.inj (show m :: log = m' :: (new ++ base) from hlog)
    rcases List.mem_cons.1 hu with hu | hu
    · exact hm u hu.symm
    · exact h new hrest u hu

lemma StatOk.keepsUser {st : Status} (h : StatOk g st) (hconn : st ≠ .conn)
    (hlogout : st ≠ .logout) (hwait : st ≠ .wait) : KeepsUser g := by
  cases st <;> first | exact h | contradiction

lemma KeepsUser.statOk (h : KeepsUser g) {st : Status} (hst : st ≠ .matchComplete) :
    StatOk g st := by
  cases st <;> first | exact h | trivial

@[simp] lemma mapResidue_sess_of_ne (hn : n ≠ k) :
    (s.mapResidue k g).sess n = s.sess n := Function.update_of_ne hn _ _

@[simp] lemma mapResidue_sess_self :
    (s.mapResidue k g).sess k = (s.sess k).mapResidue g := Function.update_self _ _ _

/-- What the connection of a session does is no residue. -/
lemma mapResidue_getSess {β : Type} {f : Session → β}
    (hf : n = k → ∀ x : Session, f (x.mapResidue g) = f x) :
    f ((s.mapResidue k g).sess n) = f (s.sess n) := by
  by_cases hn : n = k
  · subst hn
    rw [mapResidue_sess_self, hf rfl]
  · rw [mapResidue_sess_of_ne hn]

lemma mapResidue_setSess {f : Session → Session}
    (hf : n = k → ∀ x : Session, f (x.mapResidue g) = (f x).mapResidue g) :
    (s.mapResidue k g).setSess n (f ((s.mapResidue k g).sess n)) =
      (s.setSess n (f (s.sess n))).mapResidue k g := by
  by_cases hn : n = k
  · subst hn
    rw [mapResidue_sess_self, hf rfl]
    simp [Server.setSess, Server.mapResidue]
  · rw [mapResidue_sess_of_ne hn]
    simp [Server.setSess, Server.mapResidue, Function.update_of_ne (Ne.symm hn),
      Function.update_comm hn]

lemma Covered.setSess (hs : Covered k base g s) {x : Session} (hst : n = k → StatOk g x.stat) :
    Covered k base g (s.setSess n x) := by
  refine ⟨?_, hs.2⟩
  by_cases hn : n = k
  · subst hn
    simpa [Server.setSess] using hst rfl
  · simpa [Server.setSess, Function.update_of_ne (Ne.symm hn)] using hs.1

/-! ### The actions -/

lemma blind_aside {f : Server → Server}
    (hf : ∀ s, f (s.mapResidue k g) = (f s).mapResidue k g)
    (hsess : ∀ s, (f s).sess = s.sess ∧ (f s).log = s.log) :
    Blind k base g (Prog.modify f : Handler Unit) :=
  Prog.steady_modify (fun s _ => hf s) fun s hs => by
    rw [Covered, (hsess s).1, (hsess s).2]
    exact hs

lemma blind_mark {m : Server → Mark} (hm : ∀ s, m (s.mapResidue k g) = m s)
    (hnew : KeepsUser g ∨ ∀ s u, m s ≠ .joined k u) : Blind k base g (mark m) := by
  refine Prog.steady_modify (fun s _ => ?_) fun s hs => ⟨hs.1, ?_⟩
  · change { s.mapResidue k g with log := m (s.mapResidue k g) :: s.log } = _
    rw [hm]
    rfl
  · rcases hs.2, hnew with ⟨hg | hlog, hg' | hnew⟩
    · exact Or.inl hg
    · exact Or.inl hg
    · exact Or.inl hg'
    · exact Or.inr (hlog.cons (hnew s))

lemma blind_getSess {β : Type} {f : Session → β}
    (hf : n = k → ∀ x : Session, f (x.mapResidue g) = f x) : Blind k base g (getSess n f) :=
  Prog.steady_read fun _ _ => mapResidue_getSess hf

lemma blind_modifySess {f : Session → Session}
    (hf : n = k → ∀ x : Session, f (x.mapResidue g) = (f x).mapResidue g)
    (hst : n = k → ∀ x, StatOk g x.stat → StatOk g (f x).stat) :
    Blind k base g (modifySess n f) := by
  refine Prog.steady_modify (fun s _ => mapResidue_setSess hf) fun s hs => hs.setSess ?_
  rintro rfl
  exact hst rfl _ hs.1

lemma blind_setStatus {st : Status} (hst : n = k → StatOk g st) :
    Blind k base g (setStatus n st) :=
  blind_modifySess (fun _ _ => rfl) fun hn _ _ => hst hn

lemma blind_getStatus : Blind k base g (getStatus n) := blind_getSess fun _ _ => rfl

lemma blind_read {β : Type} {f : Server → β} (hf : ∀ s, f (s.mapResidue k g) = f s) :
    Blind k base g (Prog.read f : Handler β) := Prog.steady_read fun s _ => hf s

lemma blind_lock (m : Mutex) : Blind k base g (lock m) := by
  refine ⟨fun s _ => ?_, fun s b t hs heq => ?_, fun _ => trivial⟩
  · by_cases hfree : s.mtx m = 0 ∨ (s.cfg.reentrant ∧ m = .sessionQueueMtx)
    · have hfree' : (s.mapResidue k g).mtx m = 0 ∨
        ((s.mapResidue k g).cfg.reentrant ∧ m = .sessionQueueMtx) := hfree
      simp only [if_pos hfree, if_pos hfree']
      rfl
    · have hfree' : ¬ ((s.mapResidue k g).mtx m = 0 ∨
        ((s.mapResidue k g).cfg.reentrant ∧ m = .sessionQueueMtx)) := hfree
      simp only [if_neg hfree, if_neg hfree']
      rfl
  · dsimp only at heq
    split at heq
    · obtain ⟨-, rfl⟩ := Res.ok.inj heq
      exact hs
    · cases heq

lemma blind_unlock (m : Mutex) : Blind k base g (unlock m) :=
  blind_aside (fun _ => rfl) fun _ => ⟨rfl, rfl⟩

lemma blind_act {β : Type} {f : Server → Res Server Fault β}
    (hf : ∀ s, f (s.mapResidue k g) = (f s).map (·.mapResidue k g))
    (hsess : ∀ s b t, f s = .ok b t → t.sess = s.sess ∧ t.log = s.log) :
    Blind k base g (.act f .ret) := by
  refine ⟨fun s _ => hf s, fun s b t hs heq => ?_, fun _ => trivial⟩
  rw [Covered, (hsess s b t heq).1, (hsess s b t heq).2]
  exact hs

/-! ### Messages and reads -/

lemma blind_sendMessage (n : SessionId) (message : Message) :
    Blind k base g (sendMessage n message) :=
  .bind (Prog.steady_atomic (fun _ _ => rfl) fun _ hs => hs) fun _ =>
    blind_modifySess (fun _ _ => rfl) fun _ _ hst => hst

lemma blind_waitReceive (n : SessionId) : Blind k base g (waitReceive n) := by
  refine Prog.steady_modify (fun s _ => ?_) fun _ hs => hs
  have hopen : ((s.mapResidue k g).sess n).isOpen = (s.sess n).isOpen :=
    mapResidue_getSess (f := (·.isOpen)) fun _ _ => rfl
  simp only [hopen]
  rfl

lemma blind_handleWrite (n : SessionId) : Blind k base g (handleWrite n) := by
  have hpop : Blind k base g (sendPopFront n) := by
    refine ⟨fun s _ => ?_, fun s b t hs heq => ?_, fun _ => trivial⟩
    · have hsend : ((s.mapResidue k g).sess n).send = (s.sess n).send :=
        mapResidue_getSess (f := (·.send)) fun _ _ => rfl
      simp only [hsend]
      cases (s.sess n).send.popFront with
      | none => rfl
      | some q =>
        exact congrArg (Res.ok ()) (mapResidue_setSess (f := ({ · with send := q })) fun _ _ => rfl)
    · dsimp only at heq
      split at heq
      · cases heq
      · obtain ⟨-, rfl⟩ := Res.ok.inj heq
        refine hs.setSess ?_
        rintro rfl
        exact hs.1
  refine .bind hpop fun _ => .bind blind_getStatus fun st => Prog.steady_ite ?_ ?_
  · exact blind_modifySess (fun _ _ => rfl) fun _ _ hst => hst
  · refine .bind (blind_getSess fun _ _ => rfl) fun head => ?_
    cases head with
    | none => exact Prog.steady_pure _
    | some data => exact blind_modifySess (fun _ _ => rfl) fun _ _ hst => hst

/-! ### The database -/

lemma blind_mysqlQuery (query : Stmt) : Blind k base g (mysqlQuery query) := by
  refine Prog.steady_atomic (fun s _ => ?_) fun s hs => ?_
  · dsimp only [Server.mapResidue]
    split
    · rfl
    · rfl
  · dsimp only
    split
    · exact hs
    · exact hs

lemma blind_getConnection : Blind k base g getConnection := by
  refine .bind (blind_lock _) fun _ => .bind (blind_read fun _ => rfl) fun que => ?_
  cases que with
  | nil => exact .bind (blind_unlock _) fun _ => Prog.steady_pure _
  | cons index rest =>
    exact .bind (blind_aside (fun _ => rfl) fun _ => ⟨rfl, rfl⟩) fun _ =>
      .bind (blind_unlock _) fun _ => .bind (blind_read fun _ => rfl) fun _ =>
      Prog.steady_ite (Prog.steady_pure _) (Prog.steady_fail _)

lemma blind_acquireConnection : Blind k base g acquireConnection := by
  refine .bind (blind_read fun _ => rfl) fun patience => ?_
  induction patience with
  | zero => exact Prog.steady_fail _
  | succ patience ih =>
    refine .bind blind_getConnection fun index => ?_
    cases index with
    | none => exact ih
    | some index => exact Prog.steady_pure _

lemma blind_releaseConnection (index : ℕ) : Blind k base g (releaseConnection index) :=
  .bind (blind_lock _) fun _ =>
    .bind (blind_aside (fun _ => rfl) fun _ => ⟨rfl, rfl⟩) fun _ => blind_unlock _

lemma blind_getQueryUserInfo (id : Str) : Blind k base g (getQueryUserInfo id) := by
  refine .bind blind_acquireConnection fun _ => .bind (blind_mysqlQuery _) fun result => ?_
  cases result with
  | none => exact .bind (blind_releaseConnection _) fun _ => Prog.steady_pure _
  | some result => exact .bind (blind_releaseConnection _) fun _ => Prog.steady_pure _

lemma blind_getUserFriendsList (id : Str) : Blind k base g (getUserFriendsList id) := by
  refine .bind blind_acquireConnection fun _ => .bind (blind_mysqlQuery _) fun result => ?_
  cases result with
  | none => exact .bind (blind_releaseConnection _) fun _ => Prog.steady_pure _
  | some result => exact .bind (blind_releaseConnection _) fun _ => Prog.steady_pure _

lemma blind_addUserFrinedsList (id target : Str) :
    Blind k base g (addUserFrinedsList id target) := by
  have hcheck : Blind k base g (checkRepetition id target) := by
    refine .bind (blind_mysqlQuery _) fun result => ?_
    cases result with
    | none => exact Prog.steady_pure _
    | some result => exact Prog.steady_pure _
  refine .bind blind_acquireConnection fun _ => .bind hcheck fun _ => Prog.steady_ite ?_ ?_
  · exact .bind (blind_mysqlQuery _) fun _ => .bind (blind_releaseConnection _) fun _ =>
      Prog.steady_pure _
  · exact .bind (blind_releaseConnection _) fun _ => Prog.steady_pure _

lemma blind_delUserFrinedsList (id target : Str) :
    Blind k base g (delUserFrinedsList id target) := by
  refine .bind blind_acquireConnection fun _ => .bind (blind_mysqlQuery _) fun result =>
    .bind (blind_releaseConnection _) fun _ => ?_
  cases result with
  | none => exact Prog.steady_pure _
  | some result => exact Prog.steady_pure _

/-! ### redis and the map of online users -/

lemma blind_delRedisKey (key : Str) : Blind k base g (delRedisKey key) :=
  Prog.steady_atomic (fun _ _ => rfl) fun _ hs => hs

lemma blind_findIdInUserMap (id : Str) : Blind k base g (findIdInUserMap id) :=
  .bind (blind_lock _) fun _ => .bind (blind_read fun _ => rfl) fun _ =>
    .bind (blind_unlock _) fun _ => Prog.steady_pure _

lemma blind_delIdInUserMap (id : Str) : Blind k base g (delIdInUserMap id) :=
  .bind (blind_lock _) fun _ => .bind (blind_read fun _ => rfl) fun _ =>
    Prog.steady_ite
      (.bind (blind_aside (fun _ => rfl) fun _ => ⟨rfl, rfl⟩) fun _ =>
        .bind (blind_unlock _) fun _ => Prog.steady_pure _)
      (.bind (blind_unlock _) fun _ => Prog.steady_pure _)

lemma blind_addIdInUserMap (n : SessionId) (id : Str) : Blind k base g (addIdInUserMap n id) :=
  .bind (blind_lock _) fun _ => .bind (blind_read fun _ => rfl) fun _ =>
    Prog.steady_ite
      (.bind (blind_aside (fun _ => rfl) fun _ => ⟨rfl, rfl⟩) fun _ =>
        .bind (blind_unlock _) fun _ => Prog.steady_pure _)
      (.bind (blind_unlock _) fun _ => Prog.steady_pure _)

lemma blind_admittedId (token : Str) : Blind k base g (admittedId token) := by
  refine .bind (blind_read fun _ => rfl) fun kv => ?_
  cases kv with
  | none => exact Prog.steady_pure _
  | some id =>
    refine .bind (blind_findIdInUserMap _) fun found => ?_
    cases found with
    | none => exact Prog.steady_pure _
    | some _ => exact Prog.steady_pure _

/-! ### The members of the user -/

/-- The user id, the token and the numbers are read from another session, or from one of which
only the room key is replaced. -/
lemma blind_getUser {β : Type} {f : Session → β} (hn : n = k → KeepsUser g)
    (hf : ∀ x key, f { x with roomKey := key } = f x) : Blind k base g (getSess n f) := by
  refine blind_getSess fun hnk x => ?_
  obtain ⟨key, rfl⟩ := hn hnk
  exact hf x key

lemma blind_setUser {f : Session → Session} (hn : n = k → KeepsUser g)
    (hf : ∀ x key, f { x with roomKey := key } = { f x with roomKey := key })
    (hst : ∀ x, (f x).stat = x.stat) : Blind k base g (modifySess n f) := by
  refine blind_modifySess (fun hnk x => ?_) fun _ x hx => ?_
  · obtain ⟨key, rfl⟩ := hn hnk
    exact hf x key
  · rwa [hst]

/-- A login writes the user first and reads the user id back. -/
lemma blind_loginAs (hn : n = k → KeepsUser g) (token id : Str) :
    Blind k base g (loginAs n token id) := by
  have hfail : Blind k base g (do
      sendMessage n (.joinAns false (some none) [])
      pure false : Handler Bool) :=
    .bind (blind_sendMessage _ _) fun _ => Prog.steady_pure _
  refine .bind (blind_getQueryUserInfo _) fun row => ?_
  cases row with
  | none => exact .bind (blind_delRedisKey _) fun _ => hfail
  | some row =>
    refine .bind (blind_getUserFriendsList _) fun friends => ?_
    cases friends with
    | none => exact hfail
    | some friends =>
      refine .bind (blind_setUser hn (fun _ _ => rfl) fun _ => rfl) fun _ =>
        .bind (blind_setUser hn (fun _ _ => rfl) fun _ => rfl) fun _ =>
        .bind (blind_setUser hn (fun _ _ => rfl) fun _ => rfl) fun _ =>
        .bind (blind_getUser hn fun _ _ => rfl) fun _ =>
        .bind (blind_addIdInUserMap _ _) fun _ =>
        .bind (blind_setStatus hn) fun _ => .bind (blind_mark (fun _ => rfl) ?_) fun _ =>
        .bind (blind_sendMessage _ _) fun _ => Prog.steady_pure _
      by_cases hnk : n = k
      · exact Or.inl (hn hnk)
      · exact Or.inr fun _ u h => hnk (Mark.joined.inj h).1

lemma blind_lobbyLogoutProcess (hn : n = k → KeepsUser g) :
    Blind k base g (lobbyLogoutProcess n) := by
  refine .bind (blind_getUser hn fun _ _ => rfl) fun _ => .bind (blind_read fun _ => rfl)
    fun kv => ?_
  cases kv with
  | none => exact Prog.steady_pure _
  | some _ =>
    exact .bind (blind_getUser hn fun _ _ => rfl) fun _ => .bind (blind_delRedisKey _) fun _ =>
      .bind (blind_getUser hn fun _ _ => rfl) fun _ => .bind (blind_delIdInUserMap _) fun _ =>
      .bind (blind_setStatus fun _ => trivial) fun _ =>
      .bind (blind_mark (fun _ => rfl) (Or.inr fun _ _ => by simp)) fun _ =>
      .bind (blind_sendMessage _ _) fun _ => Prog.steady_pure _

lemma blind_changeFriends (hn : n = k → KeepsUser g) {guard : ℤ → Bool}
    {change : Str → Str → Handler Bool} (hchange : ∀ id target, Blind k base g (change id target))
    (step : ℤ) (success failure : FriendsAnsType) (target : Str) :
    Blind k base g (changeFriends guard change step success failure n target) := by
  have hfail : Blind k base g (do
      sendMessage n (.friendsAns failure ⟨⟨0, 0, 0, 0⟩, target⟩ none)
      pure false : Handler Bool) :=
    .bind (blind_sendMessage _ _) fun _ => Prog.steady_pure _
  exact .bind (blind_getUser hn fun _ _ => rfl) fun _ => Prog.steady_ite
    (.bind (blind_getUser hn fun _ _ => rfl) fun _ => .bind (hchange _ _) fun _ =>
      Prog.steady_ite
        (.bind (blind_setUser hn (fun _ _ => rfl) fun _ => rfl) fun _ =>
          .bind (blind_sendMessage _ _) fun _ => Prog.steady_pure _) hfail) hfail

/-! ### Matches -/

lemma blind_chooseRoomKey : Blind k base g chooseRoomKey := by
  have hdraw : Blind k base g generateRoomKey := by
    refine blind_act (fun s => ?_) fun s b t hs => ?_
    · simp only [Server.mapResidue]
      cases s.answers.uuids with
      | nil => rfl
      | cons u rest => rfl
    · split at hs
      · cases hs
      · obtain ⟨-, rfl⟩ := Res.ok.inj hs
        exact ⟨rfl, rfl⟩
  refine .bind (blind_read fun _ => rfl) fun size => ?_
  induction size with
  | zero => exact Prog.steady_fail _
  | succ size ih =>
    refine .bind hdraw fun key => .bind (blind_read fun _ => rfl) fun kv => ?_
    cases kv with
    | none =>
      exact .bind (blind_aside (fun _ => rfl) fun _ => ⟨rfl, rfl⟩) fun _ => Prog.steady_pure _
    | some _ => exact ih

lemma blind_matchInfo (hn : n = k → KeepsUser g) : Blind k base g (matchInfo n) :=
  .bind (blind_getUser hn fun _ _ => rfl) fun _ =>
    .bind (blind_getUser hn fun _ _ => rfl) fun _ =>
    .bind (blind_getUser hn fun _ _ => rfl) fun _ =>
    .bind (blind_getUser hn fun _ _ => rfl) fun _ =>
    .bind (blind_getUser hn fun _ _ => rfl) fun _ => Prog.steady_pure _

lemma blind_sendComplete (hn : n ≠ k) (key : Str) (opponent : UserInfo) :
    Blind k base g (sendComplete n key opponent) :=
  .bind (blind_setStatus fun h => absurd h hn) fun _ =>
    .bind (blind_modifySess (fun h => absurd h hn) fun h => absurd h hn) fun _ =>
    blind_sendMessage _ _

lemma blind_isWaiting (n : SessionId) : Blind k base g (isWaiting n) :=
  .bind (blind_getSess fun _ _ => rfl) fun _ => Prog.steady_ite
    (.bind blind_getStatus fun _ => Prog.steady_pure _) (Prog.steady_pure _)

/-- The front of a deque is no session's residue. -/
lemma blind_front {β : Type} {f : SessionId → List SessionId → Server → Res Server Fault β}
    (r : QueId) (hf : ∀ n rest s, f n rest (s.mapResidue k g) =
      (f n rest s).map (·.mapResidue k g))
    (hsess : ∀ n rest s b t, f n rest s = .ok b t → t.sess = s.sess ∧ t.log = s.log) :
    Blind k base g (.act (fun s =>
      match s.matchingQue r with
      | [] => .fail .emptyDeque
      | n :: rest => f n rest s) .ret) := by
  refine blind_act (fun s => ?_) fun s b t hs => ?_
  · simp only [Server.mapResidue]
    cases s.matchingQue r with
    | nil => rfl
    | cons n rest => exact hf n rest s
  · split at hs
    · cases hs
    · exact hsess _ _ s b t hs

lemma blind_queFront (r : QueId) : Blind k base g (queFront r) :=
  blind_front r (fun _ _ _ => rfl) fun _ _ _ _ _ hs => by
    obtain ⟨-, rfl⟩ := Res.ok.inj hs
    exact ⟨rfl, rfl⟩

lemma blind_quePopFront (r : QueId) : Blind k base g (quePopFront r) :=
  blind_front r (fun _ _ _ => rfl) fun _ _ _ _ _ hs => by
    obtain ⟨-, rfl⟩ := Res.ok.inj hs
    exact ⟨rfl, rfl⟩

lemma blind_selectPlayers (r : QueId) : Blind k base g (selectPlayers r) := by
  have hmark : ∀ a b, Blind k base g (mark fun s => .rankMatch r a b (s.sess a).stat
      (s.sess b).stat (s.sess a).isOpen (s.sess b).isOpen) := by
    intro a b
    have hstat : ∀ (s : Server) n, ((s.mapResidue k g).sess n).stat = (s.sess n).stat :=
      fun s n => mapResidue_getSess (f := (·.stat)) fun _ _ => rfl
    have hopen : ∀ (s : Server) n, ((s.mapResidue k g).sess n).isOpen = (s.sess n).isOpen :=
      fun s n => mapResidue_getSess (f := (·.isOpen)) fun _ _ => rfl
    exact blind_mark (fun s => by rw [hstat, hstat, hopen, hopen]) (Or.inr fun _ _ => by simp)
  exact .bind (blind_read fun _ => rfl) fun _ => Prog.steady_ite
    (.bind (blind_queFront _) fun _ => .bind (blind_quePopFront _) fun _ =>
      .bind (blind_isWaiting _) fun _ => Prog.steady_ite
        (.bind (blind_queFront _) fun _ => .bind (blind_quePopFront _) fun _ =>
          .bind (blind_isWaiting _) fun _ => Prog.steady_ite
            (.bind (blind_aside (fun _ => rfl) fun _ => ⟨rfl, rfl⟩) fun _ => Prog.steady_pure _)
            (.bind (hmark _ _) fun _ => Prog.steady_pure _))
        (Prog.steady_pure _))
    (Prog.steady_pure _)

lemma blind_controlTimerRematch (n : SessionId) (sec : ℤ) (isSet : Bool) :
    Blind k base g (controlTimerRematch n sec isSet) := by
  refine Prog.steady_ite (.bind (blind_modifySess (fun _ _ => rfl) fun _ _ hst => hst) fun _ => ?_)
    (Prog.steady_pure _)
  refine Prog.steady_modify (fun s _ => ?_) fun s hs => hs.setSess ?_
  · exact mapResidue_setSess (s := s)
      (f := fun x => { x with waits := x.waits ++ [⟨false, s.log.length⟩] }) fun _ _ => rfl
  · rintro rfl
    exact hs.1

lemma blind_bothHave (n : SessionId) (st st' : Status) (recv : Option SessionId) :
    Blind k base g (bothHave n st recv st') := by
  cases recv with
  | none => exact Prog.steady_pure _
  | some m =>
    exact .bind blind_getStatus fun _ => Prog.steady_ite
      (.bind blind_getStatus fun _ => Prog.steady_ite (Prog.steady_pure _) (Prog.steady_pure _))
      (Prog.steady_pure _)

/-! ### Accepting and closing -/

lemma blind_waitAccept : Blind k base g waitAccept := by
  refine .bind (blind_lock _) fun _ => .bind (blind_read fun _ => rfl) fun que => ?_
  cases que with
  | nil =>
    exact .bind (blind_aside (fun _ => rfl) fun _ => ⟨rfl, rfl⟩) fun _ =>
      .bind (blind_unlock _) fun _ => Prog.steady_pure _
  | cons n rest =>
    have hopen : ∀ s : Server, ((s.mapResidue k g).sess n).isOpen = (s.sess n).isOpen :=
      fun s => mapResidue_getSess (f := (·.isOpen)) fun _ _ => rfl
    have hmark : Blind k base g (mark fun s => .asyncAccept n (s.sess n).isOpen) :=
      blind_mark (fun s => by rw [hopen]) (Or.inr fun _ _ => by simp)
    exact .bind (blind_aside (fun _ => rfl) fun _ => ⟨rfl, rfl⟩) fun _ =>
      .bind (blind_aside (fun _ => rfl) fun _ => ⟨rfl, rfl⟩) fun _ =>
      .bind (blind_unlock _) fun _ =>
      .bind (.bind hmark fun _ => blind_aside (fun _ => rfl) fun _ => ⟨rfl, rfl⟩) fun _ =>
      Prog.steady_pure _

lemma blind_handleAccept (n : SessionId) (error : Bool) :
    Blind k base g (handleAccept n error) :=
  Prog.steady_ite (Prog.steady_pure _)
    (.bind (blind_mark (fun _ => rfl) (Or.inr fun _ _ => by simp)) fun _ =>
      .bind (blind_modifySess (fun _ _ => rfl) fun _ _ hst => hst) fun _ =>
      .bind (blind_waitReceive _) fun _ => .bind (blind_setStatus fun _ => trivial) fun _ =>
      .bind (blind_aside (fun _ => rfl) fun _ => ⟨rfl, rfl⟩) fun _ =>
      .bind blind_waitAccept fun _ => Prog.steady_pure _)

lemma blind_finishClose (n : SessionId) : Blind k base g (finishClose n) :=
  .bind (blind_setStatus fun _ => trivial) fun _ =>
    .bind (blind_modifySess (fun _ _ => rfl) fun _ _ hst => hst) fun _ =>
    .bind (blind_aside (fun _ => rfl) fun _ => ⟨rfl, rfl⟩) fun _ => .bind (blind_lock _) fun _ =>
    .bind (blind_aside (fun _ => rfl) fun _ => ⟨rfl, rfl⟩) fun _ =>
    .bind (blind_read fun _ => rfl) fun _ => Prog.steady_ite
      (.bind blind_waitAccept fun _ => blind_unlock _) (blind_unlock _)

lemma blind_forgetLogin (hn : n = k → KeepsUser g) : Blind k base g (forgetLogin n) :=
  .bind (blind_getUser hn fun _ _ => rfl) fun _ => .bind (blind_delRedisKey _) fun _ =>
    .bind (blind_getUser hn fun _ _ => rfl) fun _ => .bind (blind_delIdInUserMap _) fun _ =>
    Prog.steady_pure _

lemma blind_processConfig (n : SessionId) (message : ErrorReport) :
    Blind k base g (processConfig n message) :=
  .bind (blind_read fun _ => rfl) fun _ => .bind (blind_read fun _ => rfl) fun _ =>
    blind_sendMessage _ _

end ChannelServer
