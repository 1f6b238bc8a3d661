/-
The part of the state on which the protocol between sessions, queues and connections
depends.

The handlers also write messages to send queues, count friends, borrow connections to the
database and take and release mutexes.  None of this decides what a handler does to
statuses, sockets, the login map, the matching queues, the friend lists or the session pool.
The `View` of a state leaves it out, so that a step of the server is a small change of the
view (`ChannelServer/ViewStep.lean`).

A program is `Quiet` when none of its actions changes the view.
-/
import ChannelServer.Machine

namespace ChannelServer

open Resumption

/-- The state without send queues, message buffers, mutexes, the table `user_info` and the
counters of the user's games and friends; the members of the sessions are functions of the
session. -/
@[ext] structure View where
  cfg : Config
  stat : SessionId → Status
  isOpen : SessionId → Bool
  userId : SessionId → Str
  token : SessionId → Str
  roomKey : SessionId → Str
  rating : SessionId → ℤ
  waits : SessionId → List Wait
  acceptingFlag : Bool
  sessionQueue : List SessionId
  connections : ℤ
  userIdMap : Str → Option SessionId
  matchingQue : QueId → List SessionId
  redis : Str → Option Str
  friendInfo : List (Str × Str)
  starting : ℕ
  accepts : List SessionId
  reads : List Read
  current : Option (SessionId × List Packet)
  active : List SessionId
  log : List Mark

/-- The view of a state. -/
def Server.view (s : Server) : View where
  cfg := s.cfg
  stat := fun n => (s.sess n).stat
  isOpen := fun n => (s.sess n).isOpen
  userId := fun n => (s.sess n).userId
  token := fun n => (s.sess n).token
  roomKey := fun n => (s.sess n).roomKey
  rating := fun n => (s.sess n).ratingScore
  waits := fun n => (s.sess n).waits
  acceptingFlag := s.acceptingFlag
  sessionQueue := s.sessionQueue
  connections := s.connections
  userIdMap := s.userIdMap
  matchingQue := s.matchingQue
  redis := s.redis
  friendInfo := s.tables.friendInfo
  starting := s.starting
  accepts := s.accepts
  reads := s.reads
  current := s.current
  active := s.active
  log := s.log

/-- Reading a member after one session was replaced. -/
lemma member_update {β : Type} (f : Session → β) (g : SessionId → Session) (n : SessionId)
    (x : Session) :
    (fun k => f (Function.update g n x k)) = Function.update (fun k => f (g k)) n (f x) := by
  funext k
  by_cases h : k = n
  · subst h; simp
  · simp [h]

/-- The view after one session was replaced. -/
lemma view_setSess (s : Server) (n : SessionId) (x : Session) :
    (s.setSess n x).view =
      { s.view with
        stat := Function.update s.view.stat n x.stat
        isOpen := Function.update s.view.isOpen n x.isOpen
        userId := Function.update s.view.userId n x.userId
        token := Function.update s.view.token n x.token
        roomKey := Function.update s.view.roomKey n x.roomKey
        rating := Function.update s.view.rating n x.ratingScore
        waits := Function.update s.view.waits n x.waits } := by
  unfold Server.view Server.setSess
  congr 1
  · exact member_update (·.stat) _ _ _
  · exact member_update (·.isOpen) _ _ _
  · exact member_update (·.userId) _ _ _
  · exact member_update (·.token) _ _ _
  · exact member_update (·.roomKey) _ _ _
  · exact member_update (·.ratingScore) _ _ _
  · exact member_update (·.waits) _ _ _

/-- Replacing a session by one with the same members of the view. -/
lemma view_setSess_of_eq {s : Server} {n : SessionId} {x : Session}
    (hstat : x.stat = (s.sess n).stat) (hopen : x.isOpen = (s.sess n).isOpen)
    (huser : x.userId = (s.sess n).userId) (htoken : x.token = (s.sess n).token)
    (hroom : x.roomKey = (s.sess n).roomKey) (hrating : x.ratingScore = (s.sess n).ratingScore)
    (hwaits : x.waits = (s.sess n).waits) : (s.setSess n x).view = s.view := by
  rw [view_setSess, hstat, hopen, huser, htoken, hroom, hrating, hwaits]
  simp only [Server.view, Function.update_eq_self]

/-! ### Quiet programs -/

/-- No action of the program changes the view. -/
def Quiet {α : Type} (p : Handler α) : Prop := Prog.Within (fun s s' => s'.view = s.view) p

lemma Quiet.view_eq {α : Type} {p : Handler α} (h : Quiet p) {s s' : Server} {a : α}
    (hr : p.run s = .done a s') : s'.view = s.view :=
  Prog.Within.run (R := fun s s' : Server => s'.view = s.view) (fun _ => rfl)
    (fun _ _ _ h₁ h₂ => h₂.trans h₁) h hr

lemma quiet_pure {α : Type} (a : α) : Quiet (pure a : Handler α) := Prog.within_pure a

lemma quiet_bind {α β : Type} {p : Handler α} {f : α → Handler β} (hp : Quiet p)
    (hf : ∀ a, Quiet (f a)) : Quiet (p >>= f) := Prog.within_bind hp hf

lemma quiet_ite {α : Type} {c : Prop} [Decidable c] {p q : Handler α} (hp : Quiet p)
    (hq : Quiet q) : Quiet (if c then p else q) := Prog.within_ite hp hq

lemma quiet_read {β : Type} (f : Server → β) : Quiet (Prog.read f : Handler β) :=
  Prog.within_read (R := fun s s' : Server => s'.view = s.view) (fun _ => rfl) f

lemma quiet_getSess {β : Type} (n : SessionId) (f : Session → β) : Quiet (getSess n f) :=
  quiet_read _

lemma quiet_modify {f : Server → Server} (h : ∀ s, (f s).view = s.view) :
    Quiet (Prog.modify f : Handler Unit) := Prog.within_modify h

lemma quiet_lock (m : Mutex) : Quiet (lock m) := by
  refine ⟨fun s b s' hs => ?_, fun _ => trivial⟩
  dsimp only at hs
  split at hs
  · obtain ⟨-, rfl⟩ := Res.ok.inj hs
    rfl
  · cases hs

lemma quiet_unlock (m : Mutex) : Quiet (unlock m) := quiet_modify fun _ => rfl

lemma quiet_waitSend (n : SessionId) (immediately : Bool) (size : ℕ) (data : Buffer) :
    Quiet (waitSend n immediately size data) :=
  quiet_modify fun _ => view_setSess_of_eq rfl rfl rfl rfl rfl rfl rfl

lemma quiet_sendMessage (n : SessionId) (message : Message) : Quiet (sendMessage n message) :=
  quiet_bind (Prog.within_atomic fun _ => rfl) fun _ => quiet_waitSend _ _ _ _

lemma quiet_sessionInit (n : SessionId) : Quiet (sessionInit n) :=
  quiet_modify fun _ => view_setSess_of_eq rfl rfl rfl rfl rfl rfl rfl

lemma quiet_setFriendsCount (n : SessionId) (count : ℤ) : Quiet (setFriendsCount n count) :=
  quiet_modify fun _ => view_setSess_of_eq rfl rfl rfl rfl rfl rfl rfl

lemma quiet_findIdInUserMap (id : Str) : Quiet (findIdInUserMap id) :=
  quiet_bind (quiet_lock _) fun _ => quiet_bind (quiet_read _) fun _ =>
    quiet_bind (quiet_unlock _) fun _ => quiet_pure _

/-! ### Reading the database is quiet -/

/-- A statement that leaves the table `friend_info` as it is. -/
def Stmt.Reads (query : Stmt) : Prop := ∀ t, (query.exec t).2.friendInfo = t.friendInfo

lemma quiet_mysqlQuery {query : Stmt} (h : query.Reads) : Quiet (mysqlQuery query) := by
  refine Prog.within_atomic fun s => ?_
  dsimp only
  split
  · rfl
  · show ({ s.view with friendInfo := (query.exec s.tables).2.friendInfo } : View) = s.view
    rw [h]
    rfl

section Connections

variable {R : Server → Server → Prop}
  (hR : ∀ s mtx que, R s { s with mtx := mtx, connectionQue := que })
include hR

/-- Borrowing and returning a connection only changes mutexes and `connection_que`. -/
lemma within_lock (m : Mutex) : Prog.Within R (lock m) := by
  refine ⟨fun s b s' hs => ?_, fun _ => trivial⟩
  dsimp only at hs
  split at hs
  · obtain ⟨-, rfl⟩ := Res.ok.inj hs
    exact hR s _ _
  · cases hs

lemma within_unlock (m : Mutex) : Prog.Within R (unlock m) :=
  Prog.within_modify fun s => hR s _ _

lemma within_getConnection : Prog.Within R getConnection := by
  have hrefl : ∀ s, R s s := fun s => hR s s.mtx s.connectionQue
  refine Prog.within_bind (within_lock hR _) fun _ =>
    Prog.within_bind (Prog.within_read hrefl _) fun que => ?_
  cases que with
  | nil => exact Prog.within_bind (within_unlock hR _) fun _ => Prog.within_pure _
  | cons index rest =>
    exact Prog.within_bind (Prog.within_modify fun s => hR s _ _) fun _ =>
      Prog.within_bind (within_unlock hR _) fun _ =>
      Prog.within_bind (Prog.within_read hrefl _) fun _ =>
      Prog.within_ite (Prog.within_pure _) (Prog.within_fail _)

lemma within_borrowConnection (k : ℕ) : Prog.Within R (borrowConnection k) := by
  induction k with
  | zero => exact Prog.within_fail _
  | succ k ih =>
    refine Prog.within_bind (within_getConnection hR) fun index => ?_
    cases index with
    | none => exact ih
    | some i => exact Prog.within_pure _

lemma within_acquireConnection : Prog.Within R acquireConnection :=
  Prog.within_bind (Prog.within_read (fun s => hR s s.mtx s.connectionQue) _) fun _ =>
    within_borrowConnection hR _

lemma within_releaseConnection (index : ℕ) : Prog.Within R (releaseConnection index) :=
  Prog.within_bind (within_lock hR _) fun _ =>
    Prog.within_bind (Prog.within_modify fun s => hR s _ _) fun _ => within_unlock hR _

end Connections

lemma quiet_acquireConnection : Quiet acquireConnection :=
  within_acquireConnection fun _ _ _ => rfl

lemma quiet_releaseConnection (index : ℕ) : Quiet (releaseConnection index) :=
  within_releaseConnection (fun _ _ _ => rfl) index

lemma quiet_getQueryUserInfo (id : Str) : Quiet (getQueryUserInfo id) := by
  refine quiet_bind quiet_acquireConnection fun index =>
    quiet_bind (quiet_mysqlQuery fun _ => rfl) fun result => ?_
  cases result <;> exact quiet_bind (quiet_releaseConnection _) fun _ => quiet_pure _

/-! ### Searches and console commands are quiet -/

lemma quiet_searchUser (n : SessionId) (target : Str) : Quiet (searchUser n target) := by
  refine quiet_bind (quiet_bind (quiet_findIdInUserMap _) fun found => ?_) fun _ =>
    quiet_bind (quiet_sendMessage _ _) fun _ => quiet_pure _
  cases found with
  | none =>
    refine quiet_bind (quiet_getQueryUserInfo _) fun row => ?_
    cases row <;> exact quiet_pure _
  | some k =>
    exact quiet_bind (quiet_getSess _ _) fun _ => quiet_bind (quiet_getSess _ _) fun _ =>
      quiet_bind (quiet_getSess _ _) fun _ => quiet_bind (quiet_getSess _ _) fun _ =>
        quiet_bind (quiet_getSess _ _) fun _ => quiet_pure _

lemma quiet_processConfig (n : SessionId) (message : ErrorReport) :
    Quiet (processConfig n message) :=
  quiet_bind (quiet_read _) fun _ => quiet_bind (quiet_read _) fun _ => quiet_sendMessage _ _

end ChannelServer
