/-
Who has a connection to the database.

The four functions of `db_connector.cpp` borrow a connection, run their statements on it and
return it.  Here any number of threads call these functions, again and again and with their
actions interleaved in any order, while the outside changes the tables and decides which
statements fail.  What a call does to `connection_que` is written down as the entries that it
takes from the front and appends at the end.

* `connections_returned`: no index is ever in the queue twice, or borrowed twice, or both; a call
  that returns has borrowed one index and returned this index, once; and when no call is in
  progress, the queue is a permutation of what `db_connector::init` made.
-/
import ChannelServer.Lib.Ghost
import ChannelServer.Lib.TokenPool
import ChannelServer.Machine

namespace ChannelServer

open Resumption

/-- What a call does to `connection_que`. -/
inductive PoolAct
  | borrow (index : ℕ)
  | release (index : ℕ)
deriving DecidableEq, Repr

/-- What was done to a queue, from its contents before and after: an entry was taken from the
front, or one was appended. -/
def poolActs (old new : List ℕ) : List PoolAct :=
  if new.length < old.length then (old.head?.map .borrow).toList
  else if old.length < new.length then (new.getLast?.map .release).toList
  else []

lemma poolActs_same (que : List ℕ) : poolActs que que = [] := by simp [poolActs]

lemma poolActs_borrow (k : ℕ) (que : List ℕ) : poolActs (k :: que) que = [.borrow k] := by
  simp [poolActs]

lemma poolActs_release (k : ℕ) (que : List ℕ) : poolActs que (que ++ [k]) = [.release k] := by
  simp [poolActs]

/-- A call of one of the functions that use a connection. -/
inductive DbCall
  | getQueryUserInfo (requestId : Str)
  | getUserFriendsList (requestId : Str)
  | addUserFrinedsList (requestId targetId : Str)
  | delUserFrinedsList (requestId targetId : Str)

/-- The program of a call, without its result. -/
def DbCall.prog : DbCall → Handler Unit
  | getQueryUserInfo requestId => do
      let _ ← ChannelServer.getQueryUserInfo requestId
  | getUserFriendsList requestId => do
      let _ ← ChannelServer.getUserFriendsList requestId
  | addUserFrinedsList requestId targetId => do
      let _ ← ChannelServer.addUserFrinedsList requestId targetId
  | delUserFrinedsList requestId targetId => do
      let _ ← ChannelServer.delUserFrinedsList requestId targetId

/-- Threads that call the database functions: the rest of the call that each of them runs, and
what its latest call has done to `connection_que`; `none` before its first call. -/
structure DbRun (ι : Type) where
  threads : Threads ι Server Fault Unit
  acts : ι → Option (List PoolAct)

/-- A thread that runs no call starts one, a thread does the next action of its call, or the
outside changes the tables and the answers to come. -/
inductive DbEvent (ι : Type)
  | start (i : ι) (call : DbCall)
  | act (i : ι)
  | outside (tables : Tables) (answers : Answers)

section Runs

variable {ι : Type} [DecidableEq ι]

/-- The state of the server is that after `tcp_server::init`, and no thread has called. -/
def DbRun.boot (ι : Type) (b : Boot) : DbRun ι := ⟨⟨fun _ => pure (), b.init⟩, fun _ => none⟩

/-- The run after an event; `none` when it cannot occur. -/
def DbRun.next (c : DbRun ι) : DbEvent ι → Option (DbRun ι)
  | .start i call =>
      if c.threads.returned i then
        some ⟨c.threads.set i call.prog c.threads.state, Function.update c.acts i (some [])⟩
      else none
  | .act i =>
      (c.threads.next i).map fun d =>
        ⟨d, Function.update c.acts i ((c.acts i).map
          (· ++ poolActs c.threads.state.connectionQue d.state.connectionQue))⟩
  | .outside tables answers =>
      some { c with threads := { c.threads with
        state := { c.threads.state with tables := tables, answers := answers } } }

/-- The runs of the threads, from the start of the server. -/
abbrev DbReached (b : Boot) : DbRun ι → Prop :=
  Runs.Reached (· = DbRun.boot ι b) (fun c e d => c.next e = some d) fun _ _ => True

omit [DecidableEq ι] in
/-- The connection is borrowed by the call that the thread runs. -/
def DbRun.Borrowed (c : DbRun ι) (i : ι) (k : ℕ) : Prop :=
  ∃ acts, c.acts i = some acts ∧ .borrow k ∈ acts ∧ .release k ∉ acts

end Runs

/-! ### What a thread has done, and what it sees -/

/-- The ghost value of a thread: the contents of `connection_que` while it holds
`connection_mtx`, and what its call has done to the queue. -/
structure Borrower where
  inside : Option (List ℕ)
  acts : Option (List PoolAct)

namespace Borrower

/-- What a thread knows about the state. -/
def Sees (g : Borrower) (s : Server) : Prop := ∀ que, g.inside = some que → s.connectionQue = que

/-- What an action of a thread does. -/
inductive Moves : Borrower → Server → Server → Borrower → Prop
  | aside {g : Borrower} {s t : Server} (hmtx : t.mtx .connectionMtx = s.mtx .connectionMtx)
      (hque : t.connectionQue = s.connectionQue) : Moves g s t g
  | lock {acts : Option (List PoolAct)} {s t : Server} (hfree : s.mtx .connectionMtx = 0)
      (hmtx : t.mtx .connectionMtx = 1) (hque : t.connectionQue = s.connectionQue) :
      Moves ⟨none, acts⟩ s t ⟨some s.connectionQue, acts⟩
  | unlock {acts : Option (List PoolAct)} {que : List ℕ} {s t : Server}
      (hmtx : t.mtx .connectionMtx = s.mtx .connectionMtx - 1)
      (hque : t.connectionQue = s.connectionQue) : Moves ⟨some que, acts⟩ s t ⟨none, acts⟩
  | borrow {que : List ℕ} {k : ℕ} {s t : Server}
      (hmtx : t.mtx .connectionMtx = s.mtx .connectionMtx)
      (hque : s.connectionQue = k :: t.connectionQue) :
      Moves ⟨some que, some []⟩ s t ⟨some t.connectionQue, some [.borrow k]⟩
  | release {que : List ℕ} {k : ℕ} {s t : Server}
      (hmtx : t.mtx .connectionMtx = s.mtx .connectionMtx)
      (hque : t.connectionQue = s.connectionQue ++ [k]) :
      Moves ⟨some que, some [.borrow k]⟩ s t
        ⟨some t.connectionQue, some [.borrow k, .release k]⟩

/-- The connection that a thread has borrowed and not yet returned. -/
def held (g : Borrower) : Option ℕ :=
  match g.acts with
  | some [.borrow k] => some k
  | _ => none

/-- A thread that runs no call: it has not called yet, or its call has returned what it
borrowed. -/
def Done (g : Borrower) : Prop :=
  g.inside = none ∧ ∀ acts, g.acts = some acts → ∃ k, acts = [.borrow k, .release k]

/-- The record of what a call has done to the queue is correct. -/
lemma Moves.acts_eq {g g' : Borrower} {s t : Server} (h : g.Moves s t g') :
    g'.acts = g.acts.map (· ++ poolActs s.connectionQue t.connectionQue) := by
  cases h with
  | aside _ hque | lock _ _ hque | unlock _ hque =>
    rw [hque, poolActs_same]
    simp
  | borrow _ hque =>
    rw [hque, poolActs_borrow]
    rfl
  | release _ hque =>
    rw [hque, poolActs_release]
    rfl

end Borrower

/-! ### The programs -/

section Programs

variable {α : Type} {acts : Option (List PoolAct)} {que : List ℕ} {k : ℕ}

/-- A part of a call, as an action of a borrower. -/
abbrev Borrows (Q : α → Borrower → Prop) (p : Handler α) (g : Borrower) : Prop :=
  Tracked Borrower.Sees Borrower.Moves Q p g

lemma borrows_lock :
    Borrows (fun _ g => ∃ que, g = ⟨some que, acts⟩) (lock .connectionMtx) ⟨none, acts⟩ := by
  refine tracked_act fun s u t _ hs => ?_
  split at hs
  · rename_i hfree
    obtain ⟨-, rfl⟩ := Res.ok.inj hs
    have hfree : s.mtx .connectionMtx = 0 := hfree.resolve_right (by simp)
    exact ⟨_, .lock hfree (by simp [hfree]) rfl, s.connectionQue, rfl⟩
  · cases hs

lemma borrows_unlock :
    Borrows (fun _ g => g = ⟨none, acts⟩) (unlock .connectionMtx) ⟨some que, acts⟩ :=
  tracked_atomic fun _ _ => ⟨_, .unlock (by simp) rfl, rfl⟩

lemma borrows_read {g : Borrower} (f : Server → α) :
    Borrows (fun _ g' => g' = g) (Prog.read f) g :=
  tracked_atomic fun _ _ => ⟨g, .aside rfl rfl, rfl⟩

/-- Who holds the mutex reads the queue that it sees. -/
lemma borrows_readQue :
    Borrows (fun que' g => que' = que ∧ g = ⟨some que, acts⟩) (Prog.read (·.connectionQue))
      ⟨some que, acts⟩ :=
  tracked_atomic fun _ hs => ⟨_, .aside rfl rfl, hs que rfl, rfl⟩

lemma borrows_mysqlQuery {g : Borrower} (query : Stmt) :
    Borrows (fun _ g' => g' = g) (mysqlQuery query) g := by
  refine tracked_atomic fun s _ => ⟨g, ?_, rfl⟩
  dsimp only
  split <;> exact .aside rfl rfl

/-- A connection is borrowed when the queue is not empty. -/
lemma borrows_getConnection :
    Borrows (fun r g => g = ⟨none, some (r.map .borrow).toList⟩) getConnection
      ⟨none, some []⟩ := by
  refine borrows_lock.bind fun _ g hg => ?_
  obtain ⟨que, rfl⟩ := hg
  refine borrows_readQue.bind fun que' g hg => ?_
  obtain ⟨rfl, rfl⟩ := hg
  cases que' with
  | nil =>
    refine borrows_unlock.bind fun _ g hg => ?_
    subst hg
    exact tracked_pure rfl
  | cons index rest =>
    have htake : Borrows (fun _ g => g = ⟨some rest, some [.borrow index]⟩)
        (Prog.modify fun s => { s with connectionQue := rest } : Handler Unit)
        ⟨some (index :: rest), some []⟩ :=
      tracked_atomic fun s hs => ⟨_, .borrow rfl (hs _ rfl), rfl⟩
    refine htake.bind fun _ g hg => ?_
    subst hg
    refine borrows_unlock.bind fun _ g hg => ?_
    subst hg
    refine (borrows_read _).bind fun pool g hg => ?_
    subst hg
    exact tracked_ite (tracked_pure rfl) (tracked_fail _)

/-- The loop that waits for a connection. -/
lemma borrows_borrowConnection (patience : ℕ) :
    Borrows (fun k g => g = ⟨none, some [.borrow k]⟩) (borrowConnection patience)
      ⟨none, some []⟩ := by
  induction patience with
  | zero => exact tracked_fail _
  | succ patience ih =>
    refine borrows_getConnection.bind fun r g hg => ?_
    subst hg
    cases r with
    | none => exact ih
    | some index => exact tracked_pure rfl

lemma borrows_acquireConnection :
    Borrows (fun k g => g = ⟨none, some [.borrow k]⟩) acquireConnection ⟨none, some []⟩ := by
  refine (borrows_read _).bind fun patience g hg => ?_
  subst hg
  exact borrows_borrowConnection patience

lemma borrows_releaseConnection :
    Borrows (fun _ g => g = ⟨none, some [.borrow k, .release k]⟩) (releaseConnection k)
      ⟨none, some [.borrow k]⟩ := by
  refine borrows_lock.bind fun _ g hg => ?_
  obtain ⟨que, rfl⟩ := hg
  have happend : Borrows (fun _ g => ∃ que, g = ⟨some que, some [.borrow k, .release k]⟩)
      (Prog.modify fun s => { s with connectionQue := s.connectionQue ++ [k] } : Handler Unit)
      ⟨some que, some [.borrow k]⟩ :=
    tracked_atomic fun _ _ => ⟨_, .release rfl rfl, _, rfl⟩
  refine happend.bind fun _ g hg => ?_
  obtain ⟨que', rfl⟩ := hg
  exact borrows_unlock

/-- The connection is released and the call returns. -/
lemma borrows_return (a : α) :
    Borrows (fun _ g => g.Done) (do
      releaseConnection k
      pure a : Handler α) ⟨none, some [.borrow k]⟩ := by
  refine borrows_releaseConnection.bind fun _ g hg => ?_
  subst hg
  exact tracked_pure ⟨rfl, fun acts h => ⟨k, (Option.some.inj h).symm⟩⟩

lemma borrows_getQueryUserInfo (requestId : Str) :
    Borrows (fun _ g => g.Done) (getQueryUserInfo requestId) ⟨none, some []⟩ := by
  refine borrows_acquireConnection.bind fun index g hg => ?_
  subst hg
  refine (borrows_mysqlQuery _).bind fun result g hg => ?_
  subst hg
  cases result <;> exact borrows_return _

lemma borrows_getUserFriendsList (requestId : Str) :
    Borrows (fun _ g => g.Done) (getUserFriendsList requestId) ⟨none, some []⟩ := by
  refine borrows_acquireConnection.bind fun index g hg => ?_
  subst hg
  refine (borrows_mysqlQuery _).bind fun result g hg => ?_
  subst hg
  cases result <;> exact borrows_return _

/-- The check uses the connection that its caller has borrowed. -/
lemma borrows_checkRepetition {g : Borrower} (requestId targetId : Str) :
    Borrows (fun _ g' => g' = g) (checkRepetition requestId targetId) g := by
  refine (borrows_mysqlQuery _).bind fun result g' hg => ?_
  subst hg
  cases result <;> exact tracked_pure rfl

lemma borrows_addUserFrinedsList (requestId targetId : Str) :
    Borrows (fun _ g => g.Done) (addUserFrinedsList requestId targetId) ⟨none, some []⟩ := by
  refine borrows_acquireConnection.bind fun index g hg => ?_
  subst hg
  refine (borrows_checkRepetition _ _).bind fun absent g hg => ?_
  subst hg
  refine tracked_ite ?_ (borrows_return _)
  refine (borrows_mysqlQuery _).bind fun result g hg => ?_
  subst hg
  exact borrows_return _

lemma borrows_delUserFrinedsList (requestId targetId : Str) :
    Borrows (fun _ g => g.Done) (delUserFrinedsList requestId targetId) ⟨none, some []⟩ := by
  refine borrows_acquireConnection.bind fun index g hg => ?_
  subst hg
  refine (borrows_mysqlQuery _).bind fun result g hg => ?_
  subst hg
  refine borrows_releaseConnection.bind fun _ g hg => ?_
  subst hg
  have hdone : Borrower.Done ⟨none, some [.borrow index, .release index]⟩ :=
    ⟨rfl, fun acts h => ⟨index, (Option.some.inj h).symm⟩⟩
  cases result <;> exact tracked_pure hdone

lemma borrows_call (call : DbCall) :
    Borrows (fun _ g => g.Done) call.prog ⟨none, some []⟩ := by
  cases call with
  | getQueryUserInfo requestId =>
    exact (borrows_getQueryUserInfo requestId).bind fun _ _ hg => tracked_pure hg
  | getUserFriendsList requestId =>
    exact (borrows_getUserFriendsList requestId).bind fun _ _ hg => tracked_pure hg
  | addUserFrinedsList requestId targetId =>
    exact (borrows_addUserFrinedsList requestId targetId).bind fun _ _ hg => tracked_pure hg
  | delUserFrinedsList requestId targetId =>
    exact (borrows_delUserFrinedsList requestId targetId).bind fun _ _ hg => tracked_pure hg

end Programs

/-! ### All threads together -/

section Invariant

variable {ι : Type} {all : List ℕ} {G : ι → Borrower} {s t : Server} {i : ι} {g : Borrower}

/-- One thread at most holds the mutex, and sees the queue; the connections are an exclusive
pool; and a call takes one connection and puts it back. -/
structure PoolInv (all : List ℕ) (G : ι → Borrower) (s : Server) : Prop where
  locked : ∀ i, (G i).inside ≠ none → s.mtx .connectionMtx = 1
  alone : ∀ i j, (G i).inside ≠ none → (G j).inside ≠ none → i = j
  sees : ∀ i, (G i).Sees s
  exclusive : TokenPool.Exclusive all ⟨s.connectionQue, fun i => (G i).held⟩
  shape : ∀ i acts, (G i).acts = some acts → ∃ k, acts <+: [.borrow k, .release k]

lemma PoolInv.init (b : Boot) :
    PoolInv b.init.connectionQue (fun _ : ι => ⟨none, none⟩) b.init where
  locked _ h := absurd rfl h
  alone _ _ h := absurd rfl h
  sees _ _ h := by cases h
  exclusive := TokenPool.exclusive_init b.nodup_connectionQue
  shape _ _ h := by cases h

variable [DecidableEq ι]

lemma held_update (G : ι → Borrower) (i : ι) (g : Borrower) :
    (fun j => (Function.update G i g j).held) = Function.update (fun j => (G j).held) i g.held := by
  funext j
  exact Function.apply_update (fun _ => Borrower.held) G i g j

/-- What holds of the thread that acts, and of the others, holds of all. -/
lemma forall_borrower {p : ι → Borrower → Prop} (hi : p i g) (hothers : ∀ j, j ≠ i → p j (G j)) :
    ∀ j, p j (Function.update G i g j) := (Function.forall_update_iff G p).2 ⟨hi, hothers⟩

/-- At most one of the threads holds the mutex. -/
lemma alone_update (hin : g.inside ≠ none → ∀ j, j ≠ i → (G j).inside = none)
    (halone : ∀ j j', (G j).inside ≠ none → (G j').inside ≠ none → j = j') :
    ∀ j j', (Function.update G i g j).inside ≠ none → (Function.update G i g j').inside ≠ none →
      j = j' := by
  have hcases : ∀ j, (Function.update G i g j).inside ≠ none →
      j = i ∧ g.inside ≠ none ∨ j ≠ i ∧ (G j).inside ≠ none := by
    intro j hj
    by_cases hji : j = i
    · subst hji
      rw [Function.update_self] at hj
      exact Or.inl ⟨rfl, hj⟩
    · rw [Function.update_of_ne hji] at hj
      exact Or.inr ⟨hji, hj⟩
  intro j j' hj hj'
  rcases hcases j hj with ⟨hji, hg⟩ | ⟨hji, hj⟩
  · rcases hcases j' hj' with ⟨hji', -⟩ | ⟨hji', hj'⟩
    · exact hji.trans hji'.symm
    · exact absurd (hin hg j' hji') hj'
  · rcases hcases j' hj' with ⟨-, hg⟩ | ⟨-, hj'⟩
    · exact absurd (hin hg j hji) hj
    · exact halone j j' hj hj'

/-- A thread whose share of the pool stays the same. -/
lemma PoolInv.of_held (h : PoolInv all G s)
    (hin : g.inside ≠ none → t.mtx .connectionMtx = 1 ∧ ∀ j, j ≠ i → (G j).inside = none)
    (hmtx : ∀ j, j ≠ i → (G j).inside ≠ none → t.mtx .connectionMtx = 1)
    (hsees : g.Sees t) (hque : t.connectionQue = s.connectionQue) (hheld : g.held = (G i).held)
    (hshape : ∀ acts, g.acts = some acts → ∃ k, acts <+: [.borrow k, .release k]) :
    PoolInv all (Function.update G i g) t where
  locked := forall_borrower (p := fun _ x => x.inside ≠ none → t.mtx .connectionMtx = 1)
    (fun hg => (hin hg).1) hmtx
  alone := alone_update (fun hg => (hin hg).2) h.alone
  sees := forall_borrower (p := fun _ x => x.Sees t) hsees fun j _ que hj => by
    rw [hque]
    exact h.sees j que hj
  exclusive := by
    have hself : Function.update (fun j => (G j).held) i (G i).held = fun j => (G j).held :=
      Function.update_eq_self i fun j => (G j).held
    rw [held_update, hheld, hself, hque]
    exact h.exclusive
  shape := forall_borrower (p := fun _ x => ∀ acts, x.acts = some acts →
      ∃ k, acts <+: [.borrow k, .release k]) hshape fun j _ => h.shape j

/-- A thread that holds the mutex and changes the queue. -/
lemma PoolInv.of_change {que : List ℕ} (h : PoolInv all G s) (hin : (G i).inside = some que)
    (hg : g.inside = some t.connectionQue) (hmtx : t.mtx .connectionMtx = s.mtx .connectionMtx)
    (hexclusive : TokenPool.Exclusive all
      ⟨t.connectionQue, Function.update (fun j => (G j).held) i g.held⟩)
    (hshape : ∀ acts, g.acts = some acts → ∃ k, acts <+: [.borrow k, .release k]) :
    PoolInv all (Function.update G i g) t := by
  have hlocked : t.mtx .connectionMtx = 1 := hmtx.trans (h.locked i (by simp [hin]))
  -- no other thread holds the mutex
  have hothers : ∀ j, j ≠ i → (G j).inside = none := by
    intro j hj
    by_contra hne
    exact hj (h.alone j i hne (by simp [hin]))
  refine ⟨fun _ _ => hlocked, alone_update (fun _ => hothers) h.alone, ?_, ?_, ?_⟩
  · refine forall_borrower (p := fun _ x => x.Sees t) (fun que' hque' => ?_)
      fun j hj que' hque' => ?_
    · exact Option.some.inj (hg.symm.trans hque')
    · exact absurd (hque'.symm.trans (hothers j hj)) (by simp)
  · rw [held_update]
    exact hexclusive
  · exact forall_borrower (p := fun _ x => ∀ acts, x.acts = some acts →
      ∃ k, acts <+: [.borrow k, .release k]) hshape fun j _ => h.shape j

/-- **The pool of connections**, one action. -/
theorem PoolInv.moves (h : PoolInv all G s) (hmove : (G i).Moves s t g) :
    PoolInv all (Function.update G i g) t := by
  generalize hgi : G i = gi at hmove
  cases hmove with
  | aside hmtx hque =>
    subst hgi
    rw [Function.update_eq_self]
    refine ⟨fun j hj => hmtx.trans (h.locked j hj), h.alone, fun j que hin => ?_, ?_, h.shape⟩
    · rw [hque]
      exact h.sees j que hin
    · rw [hque]
      exact h.exclusive
  | lock hfree hmtx hque =>
    have hnone : ∀ j, (G j).inside = none := by
      intro j
      by_contra hne
      have hone := h.locked j hne
      omega
    refine h.of_held (fun _ => ⟨hmtx, fun j _ => hnone j⟩) (fun j _ hne => absurd (hnone j) hne)
      ?_ hque (by rw [hgi]; rfl) fun acts hacts => h.shape i acts (by rw [hgi, hacts])
    intro que hin
    obtain rfl := Option.some.inj hin
    exact hque
  | unlock hmtx hque =>
    have hothers : ∀ j, j ≠ i → (G j).inside = none := by
      intro j hj
      by_contra hne
      exact hj (h.alone j i hne (by simp [hgi]))
    refine h.of_held (fun hne => absurd rfl hne) (fun j hj hne => absurd (hothers j hj) hne)
      ?_ hque (by rw [hgi]; rfl) fun acts hacts => h.shape i acts (by rw [hgi, hacts])
    intro que hin
    cases hin
  | @borrow que k _ _ hmtx hque =>
    refine h.of_change (by rw [hgi]) rfl hmtx ?_ ?_
    · have hheld : (G i).held = none := by
        rw [hgi]
        rfl
      exact h.exclusive.take hheld hque
    · intro acts hacts
      obtain rfl := Option.some.inj hacts
      exact ⟨k, by simp⟩
  | @release que k _ _ hmtx hque =>
    refine h.of_change (by rw [hgi]) rfl hmtx ?_ ?_
    · have hheld : (G i).held = some k := by
        rw [hgi]
        rfl
      rw [hque]
      exact h.exclusive.give hheld
    · intro acts hacts
      obtain rfl := Option.some.inj hacts
      exact ⟨k, by simp⟩

/-- The pool of connections in a run: some ghost values record the calls, meet the invariant,
and track what the threads have still to do. -/
def RunInv (b : Boot) (c : DbRun ι) : Prop :=
  ∃ G : ι → Borrower, (∀ i, (G i).acts = c.acts i) ∧
    PoolInv b.init.connectionQue G c.threads.state ∧
    ∀ i, Borrows (fun _ g => g.Done) (c.threads.prog i) (G i)

omit [DecidableEq ι] in
/-- A thread that runs no call has returned what it borrowed. -/
lemma done_of_returned {c : Threads ι Server Fault Unit} {i : ι} (h : c.returned i = true)
    (hi : Borrows (fun _ g => g.Done) (c.prog i) g) : g.Done := by
  unfold Threads.returned at h
  split at h
  · rename_i a ha
    rw [ha] at hi
    exact hi
  · cases h

lemma Borrower.Done.held_eq (h : g.Done) : g.held = none := by
  unfold Borrower.held
  split
  · rename_i k hk
    obtain ⟨k', hk'⟩ := h.2 _ hk
    simp at hk'
  · rfl

/-- **The pool of connections**, one event. -/
theorem RunInv.next {b : Boot} {c d : DbRun ι} {e : DbEvent ι} (hc : RunInv b c)
    (h : c.next e = some d) : RunInv b d := by
  obtain ⟨G, hacts, hinv, htracked⟩ := hc
  cases e with
  | start i call =>
    obtain ⟨hret, hd⟩ := Option.ite_none_right_eq_some.1 h
    obtain rfl := Option.some.inj hd
    have hdone : (G i).Done := done_of_returned hret (htracked i)
    refine ⟨Function.update G i ⟨none, some []⟩, fun j => ?_, ?_, fun j => ?_⟩
    · exact Function.apply_update (fun _ => Borrower.acts) G i _ j |>.trans
        (congrFun (congrArg (fun f => Function.update f i (some [])) (funext hacts)) j)
    · refine hinv.of_held (fun hne => absurd rfl hne) (fun j _ => hinv.locked j)
        (fun que hin => ?_) rfl hdone.held_eq.symm fun acts hempty => ?_
      · cases hin
      · obtain rfl := Option.some.inj hempty
        exact ⟨0, List.nil_prefix⟩
    · by_cases hj : j = i
      · subst hj
        rw [Threads.set_prog_self, Function.update_self]
        exact borrows_call call
      · rw [Threads.set_prog_of_ne _ hj, Function.update_of_ne hj]
        exact htracked j
  | act i =>
    obtain ⟨threads, hnext, rfl⟩ := Option.map_eq_some_iff.1 h
    obtain ⟨g, hmove, hinv', htracked'⟩ := Threads.next_tracked
      (I := PoolInv b.init.connectionQue) (fun G s i hs => hs.sees i)
      (fun G s t i g hs hmove => hs.moves hmove) htracked hinv hnext
    refine ⟨Function.update G i g, fun j => ?_, hinv', htracked'⟩
    by_cases hj : j = i
    · subst hj
      dsimp only
      rw [Function.update_self, Function.update_self, hmove.acts_eq, hacts]
    · dsimp only
      rw [Function.update_of_ne hj, Function.update_of_ne hj, hacts]
  | outside tables answers =>
    obtain rfl := Option.some.inj h
    exact ⟨G, hacts, ⟨hinv.locked, hinv.alone, hinv.sees, hinv.exclusive, hinv.shape⟩, htracked⟩

lemma DbReached.runInv {b : Boot} {c : DbRun ι} (h : DbReached b c) : RunInv b c := by
  refine Runs.Reached.invariant ?_ (fun c e d _ hc _ hnext => hc.next hnext) h
  rintro c rfl
  refine ⟨fun _ => ⟨none, none⟩, fun _ => rfl, .init b, fun _ => tracked_pure ⟨rfl, ?_⟩⟩
  intro acts hacts
  cases hacts

omit [DecidableEq ι] in
/-- A connection that a call has borrowed is held by its thread. -/
lemma held_of_borrowed {c : DbRun ι} {i : ι} {k : ℕ} (hg : g.acts = c.acts i)
    (hshape : ∀ acts, g.acts = some acts → ∃ k, acts <+: [.borrow k, .release k])
    (h : c.Borrowed i k) : g.held = some k := by
  obtain ⟨acts, hacts, hborrow, hrelease⟩ := h
  have hacts' : g.acts = some acts := hg.trans hacts
  obtain ⟨k', hprefix⟩ := hshape acts hacts'
  rcases List.prefix_cons_iff.1 hprefix with rfl | ⟨rest, rfl, hrest⟩
  · cases hborrow
  · rcases List.prefix_cons_iff.1 hrest with rfl | ⟨final, rfl, hfinal⟩
    · obtain rfl : k = k' := by simpa using hborrow
      unfold Borrower.held
      rw [hacts']
    · obtain rfl := List.prefix_nil.1 hfinal
      obtain rfl : k = k' := by simpa using hborrow
      simp at hrelease

end Invariant

/-- **Connections are borrowed exclusively and returned.**  In every state that any number of
threads reach which call the database functions, with any tables, and any answers of the outside:
no index is in the queue twice, or borrowed twice, or both in the queue and borrowed; a call has
borrowed at most one index, and released no other one, and when it returns it has done both, once;
and when no call is in progress, the queue is a permutation of what `init` made. -/
theorem connections_returned {ι : Type} [DecidableEq ι] {b : Boot} {c : DbRun ι}
    (h : DbReached b c) :
    (c.threads.state.connectionQue.Nodup ∧
      (∀ i k, c.Borrowed i k → k ∉ c.threads.state.connectionQue) ∧
      ∀ i j k, c.Borrowed i k → c.Borrowed j k → i = j) ∧
    (∀ i acts, c.acts i = some acts → ∃ k, acts <+: [.borrow k, .release k] ∧
      (c.threads.returned i = true → acts = [.borrow k, .release k])) ∧
    ((∀ i, c.threads.returned i = true) →
      c.threads.state.connectionQue.Perm b.init.connectionQue) := by
  obtain ⟨G, hacts, hinv, htracked⟩ := h.runInv
  have hheld : ∀ i k, c.Borrowed i k → (G i).held = some k := fun i k hk =>
    held_of_borrowed (hacts i) (hinv.shape i) hk
  refine ⟨⟨hinv.exclusive.nodup, fun i k hk => hinv.exclusive.apart i k (hheld i k hk),
    fun i j k hi hj => hinv.exclusive.unique i j k (hheld i k hi) (hheld j k hj)⟩,
    fun i acts hi => ?_, fun hret => ?_⟩
  · by_cases hret : c.threads.returned i = true
    · obtain ⟨k, rfl⟩ := (done_of_returned hret (htracked i)).2 acts ((hacts i).trans hi)
      exact ⟨k, List.prefix_rfl, fun _ => rfl⟩
    · obtain ⟨k, hk⟩ := hinv.shape i acts ((hacts i).trans hi)
      exact ⟨k, hk, fun h => absurd h hret⟩
  · exact hinv.exclusive.perm b.nodup_connectionQue fun i =>
      (done_of_returned (hret i) (htracked i)).held_eq

/-- One connection, and the user `a` with one friend. -/
def oneConnection : Boot :=
  Boot.plain 1 1 (fun _ => none) ⟨[⟨lit "a", 3, 1, 350⟩], [(lit "a", lit "b")]⟩

/-- A thread reads the row of a user; meanwhile another one deletes a friend, and finds the queue
empty at first. -/
def readWhileDeleting : List (DbEvent Bool) :=
  [.outside oneConnection.tables ⟨[], [], 2⟩, .start false (.getQueryUserInfo (lit "a"))] ++
    List.replicate 6 (.act false) ++ [.start true (.delUserFrinedsList (lit "a") (lit "b"))] ++
    List.replicate 4 (.act true) ++ List.replicate 4 (.act false) ++ List.replicate 9 (.act true)

/-- Two calls wait for one connection, and each of them borrows it and gives it back. -/
theorem connections_returned_two_calls :
    ∃ c : DbRun Bool, DbReached oneConnection c ∧ (∀ i, c.threads.returned i = true) ∧
      (∀ i, c.acts i = some [.borrow 0, .release 0]) ∧
      (c.threads.state.connectionQue.Nodup ∧
        (∀ i k, c.Borrowed i k → k ∉ c.threads.state.connectionQue) ∧
        ∀ i j k, c.Borrowed i k → c.Borrowed j k → i = j) ∧
      (∀ i acts, c.acts i = some acts → ∃ k, acts <+: [.borrow k, .release k] ∧
        (c.threads.returned i = true → acts = [.borrow k, .release k])) ∧
      ((∀ i, c.threads.returned i = true) →
        c.threads.state.connectionQue.Perm oneConnection.init.connectionQue) := by
  have hrun : (Runs.exec DbRun.next (DbRun.boot Bool oneConnection) readWhileDeleting).map
      (fun c => decide (∀ i, c.threads.returned i = true ∧
        c.acts i = some [.borrow 0, .release 0])) = some true := by
    decide
  obtain ⟨c, hc, heq⟩ := Option.map_eq_some_iff.1 hrun
  have hends := of_decide_eq_true heq
  have hreached : DbReached oneConnection c :=
    .of_exec (fun _ _ _ hnext => ⟨trivial, hnext⟩) (.start rfl) hc
  exact ⟨c, hreached, fun i => (hends i).1, fun i => (hends i).2, connections_returned hreached⟩

end ChannelServer
