/-
The functions that a handler calls, executed in one state.

The functions of `user_id_map_` are critical sections.  The four functions of `db_connector` take
the connection at the front of `connection_que`, execute their statements on it, and put it back
at the end; `Server.Serves` is what they need to return, and `Server.afterQuery` the state when
they do.

A lemma `f_run` reads the result of the function `f` and the state after it off the state before
it; a lemma `f_eq_done` does so for a run that is known to end.
-/
import Mathlib.Data.List.Rotate
import ChannelServer.Handlers.Friends

namespace ChannelServer

open Resumption

section Calls

variable {s s' : Server} {n : SessionId} {α : Type} {exec : Effect}

/-- Reading a value leaves the state as it is. -/
lemma getSess_eq_done {β : Type} {f : Session → β} {x : β}
    (h : (getSess n f).run s = .done x s') : x = f (s.sess n) ∧ s = s' := by
  obtain ⟨rfl, rfl⟩ := Out.done.inj h
  exact ⟨rfl, rfl⟩

lemma getRedisKv_eq_done {key : Str} {x : Option Str}
    (h : (getRedisKv key).run s = .done x s') : x = s.redis key ∧ s = s' := by
  obtain ⟨rfl, rfl⟩ := Out.done.inj h
  exact ⟨rfl, rfl⟩

/-! ### Critical sections -/

lemma run_lock {m : Mutex} (h : s.mtx m = 0) :
    (lock m).run s = .done () { s with mtx := Function.update s.mtx m (s.mtx m + 1) } := by
  simp only [lock, Prog.run, if_pos (Or.inl h : s.mtx m = 0 ∨ _)]

/-- A mutex that is locked and unlocked. -/
lemma mtx_restored (mtx : Mutex → ℕ) (m : Mutex) :
    Function.update (Function.update mtx m (mtx m + 1)) m
      (Function.update mtx m (mtx m + 1) m - 1) = mtx := by
  rw [Function.update_idem, Function.update_self, Nat.add_sub_cancel, Function.update_eq_self]

/-- A handler that returns has found its first mutex free. -/
lemma mtx_eq_zero_of_lock {m : Mutex} {f : Unit → Handler α} {a : α} (hm : m ≠ .sessionQueueMtx)
    (h : (lock m >>= f).run s = .done a s') : s.mtx m = 0 := by
  by_contra hmtx
  have hlock : (lock m).run s = .blocked s := by
    simp [lock, Prog.run, hmtx, hm]
  obtain ⟨_, _, h₁, -⟩ := Prog.run_bind_eq_done.1 h
  rw [hlock] at h₁
  cases h₁

lemma findIdInUserMap_run (id : Str) (h : s.mtx .userIdMapMtx = 0) :
    (findIdInUserMap id).run s = .done (s.userIdMap id) s := by
  unfold findIdInUserMap unlock
  rw [Prog.run_bind, run_lock h]
  simp only [Out.bind_done, Prog.run_bind, Prog.run_read, Prog.run_modify, mtx_restored,
    Prog.run_pure]

lemma findIdInUserMap_eq_done {id : Str} {r : Option SessionId}
    (h : (findIdInUserMap id).run s = .done r s') : r = s.userIdMap id ∧ s = s' := by
  rw [findIdInUserMap_run id (mtx_eq_zero_of_lock (by simp) h)] at h
  obtain ⟨rfl, rfl⟩ := Out.done.inj h
  exact ⟨rfl, rfl⟩

lemma addIdInUserMap_run {id : Str} (h : s.mtx .userIdMapMtx = 0) :
    (addIdInUserMap n id).run s = .done (s.userIdMap id).isNone { s with
      userIdMap := if (s.userIdMap id).isNone then Function.update s.userIdMap id (some n)
        else s.userIdMap } := by
  unfold addIdInUserMap unlock
  rw [Prog.run_bind, run_lock h]
  simp only [Out.bind_done, Prog.run_bind, Prog.run_read]
  split <;> simp only [Prog.run_bind, Prog.run_modify, Out.bind_done, mtx_restored, Prog.run_pure]

lemma delIdInUserMap_run (id : Str) (h : s.mtx .userIdMapMtx = 0) :
    (delIdInUserMap id).run s = .done (s.userIdMap id).isSome { s with
      userIdMap := Function.update s.userIdMap id none } := by
  unfold delIdInUserMap unlock
  rw [Prog.run_bind, run_lock h]
  cases hid : s.userIdMap id with
  | some k =>
    simp only [Out.bind_done, Prog.run_bind, Prog.run_read, hid, Option.isSome_some, if_true,
      Prog.run_modify, mtx_restored, Prog.run_pure]
  | none =>
    -- nothing is removed, which is the same as removing the absent key
    have hsame : Function.update s.userIdMap id none = s.userIdMap := by
      rw [← hid, Function.update_eq_self]
    simp only [Out.bind_done, Prog.run_bind, Prog.run_read, hid, Option.isSome_none,
      Bool.false_eq_true, if_false, Prog.run_modify, mtx_restored, Prog.run_pure, hsame]

/-- A token admits the user that is stored under it, as long as that user is not online. -/
lemma admittedId_eq_done {token : Str} {r : Option Str}
    (h : (admittedId token).run s = .done r s') :
    (∀ id, r = some id ↔ s.redis token = some id ∧ s.userIdMap id = none) ∧ s = s' := by
  obtain ⟨kv, s₁, h₁, h⟩ := Prog.run_bind_eq_done.1 h
  obtain ⟨rfl, rfl⟩ := getRedisKv_eq_done h₁
  cases hkv : s.redis token with
  | none =>
    rw [hkv] at h
    obtain ⟨rfl, rfl⟩ := Out.done.inj h
    exact ⟨by simp, rfl⟩
  | some id =>
    rw [hkv] at h
    obtain ⟨found, s₂, h₂, h⟩ := Prog.run_bind_eq_done.1 h
    obtain ⟨rfl, rfl⟩ := findIdInUserMap_eq_done h₂
    cases hid : s.userIdMap id with
    | none =>
      rw [hid] at h
      obtain ⟨rfl, rfl⟩ := Out.done.inj h
      refine ⟨fun id' => ⟨?_, fun hid' => hid'.1⟩, rfl⟩
      rintro hid'
      obtain rfl := Option.some.inj hid'
      exact ⟨rfl, hid⟩
    | some k =>
      rw [hid] at h
      obtain ⟨rfl, rfl⟩ := Out.done.inj h
      refine ⟨fun id' => ⟨by simp, ?_⟩, rfl⟩
      rintro ⟨hid', hoffline⟩
      obtain rfl := Option.some.inj hid'
      rw [hid] at hoffline
      cases hoffline

/-! ### Borrowing a connection -/

/-- The pool has a free connection, and every free connection is one of the pool. -/
def Server.DatabaseUp (s : Server) : Prop :=
  s.connectionQue ≠ [] ∧ ∀ index ∈ s.connectionQue, index < s.connectionPool.length

/-- A function of the database finds a connection to borrow. -/
structure Server.Serves (s : Server) : Prop where
  free : s.mtx .connectionMtx = 0
  patience : 0 < s.answers.patience
  front : ∃ index rest, s.connectionQue = index :: rest ∧ index < s.connectionPool.length

/-- The members that a function of the database changes. -/
def Server.withDb (s : Server) (connectionQue : List ℕ) (answers : Answers) (tables : Tables) :
    Server :=
  { s with connectionQue := connectionQue, answers := answers, tables := tables }

/-- The state after a function of the database. -/
def Server.afterQuery (s : Server) (answers : Answers) (tables : Tables) : Server :=
  s.withDb (s.connectionQue.rotate 1) answers tables

/-- The answers that are left after one statement. -/
def Answers.next (a : Answers) : Answers := { a with queryFails := a.queryFails.tail }

/-- The next statement fails. -/
def Answers.fails (a : Answers) : Bool := a.queryFails.headD false

lemma Server.DatabaseUp.serves (h : s.DatabaseUp) (hfree : s.mtx .connectionMtx = 0)
    (hpatience : 0 < s.answers.patience) : s.Serves := by
  obtain ⟨index, rest, hque⟩ := List.exists_cons_of_ne_nil h.1
  exact ⟨hfree, hpatience, index, rest, hque, h.2 index (by rw [hque]; exact List.mem_cons_self)⟩

/-- Connections that are only reordered. -/
lemma Server.DatabaseUp.of_perm (h : s.DatabaseUp)
    (hque : s'.connectionQue.Perm s.connectionQue)
    (hpool : s'.connectionPool = s.connectionPool) : s'.DatabaseUp := by
  refine ⟨fun hnil => h.1 ?_, fun index hindex => ?_⟩
  · rw [hnil] at hque
    exact hque.symm.eq_nil
  · rw [hpool]
    exact h.2 index (hque.mem_iff.1 hindex)

/-- A connection is borrowed at the first attempt. -/
lemma acquireConnection_run {index : ℕ} {rest : List ℕ}
    (h : s.mtx .connectionMtx = 0) (hpatience : 0 < s.answers.patience)
    (hque : s.connectionQue = index :: rest) (hindex : index < s.connectionPool.length) :
    acquireConnection.run s = .done index { s with connectionQue := rest } := by
  have hget : getConnection.run s = .done (some index) { s with connectionQue := rest } := by
    unfold getConnection unlock
    rw [Prog.run_bind, run_lock h]
    simp only [Out.bind_done, Prog.run_bind, Prog.run_read, hque, Prog.run_modify, mtx_restored,
      if_pos hindex, Prog.run_pure]
  obtain ⟨k, hk⟩ := Nat.exists_eq_succ_of_ne_zero (Nat.pos_iff_ne_zero.1 hpatience)
  show (borrowConnection s.answers.patience).run s = _
  rw [hk, borrowConnection, Prog.run_bind, hget]
  rfl

lemma releaseConnection_run (index : ℕ) (h : s.mtx .connectionMtx = 0) :
    (releaseConnection index).run s =
      .done () { s with connectionQue := s.connectionQue ++ [index] } := by
  unfold releaseConnection unlock
  rw [Prog.run_bind, run_lock h]
  simp only [Out.bind_done, Prog.run_bind, Prog.run_modify, mtx_restored]

lemma getConnection_eq_done {r : Option ℕ} (h : getConnection.run s = .done r s') :
    s.mtx .connectionMtx = 0 ∧ (r = none ∧ s' = s ∨
      ∃ index rest, s.connectionQue = index :: rest ∧ index < s.connectionPool.length) := by
  have hmtx : s.mtx .connectionMtx = 0 := mtx_eq_zero_of_lock (by simp) h
  refine ⟨hmtx, ?_⟩
  unfold getConnection unlock at h
  rw [Prog.run_bind, run_lock hmtx] at h
  cases hque : s.connectionQue with
  | nil =>
    simp only [Out.bind_done, Prog.run_bind, Prog.run_read, hque, Prog.run_modify, mtx_restored,
      Prog.run_pure] at h
    obtain ⟨rfl, hs⟩ := Out.done.inj h
    refine Or.inl ⟨rfl, ?_⟩
    rw [← hs, ← hque]
  | cons index rest =>
    refine Or.inr ⟨index, rest, rfl, ?_⟩
    by_contra hindex
    simp only [Out.bind_done, Prog.run_bind, Prog.run_read, hque, Prog.run_modify, mtx_restored,
      if_neg hindex, Prog.run_fail] at h
    cases h

/-- A function that returns has found a connection: the queue does not change while it waits. -/
lemma serves_of_done {index : ℕ} (h : acquireConnection.run s = .done index s') : s.Serves := by
  suffices hborrow : ∀ k, (borrowConnection k).run s = .done index s' →
      s.mtx .connectionMtx = 0 ∧ 0 < k ∧
        ∃ index rest, s.connectionQue = index :: rest ∧ index < s.connectionPool.length by
    obtain ⟨hfree, hpatience, hfront⟩ := hborrow s.answers.patience h
    exact ⟨hfree, hpatience, hfront⟩
  intro k
  induction k with
  | zero =>
    intro h
    cases h
  | succ k ih =>
    intro h
    obtain ⟨r, s₁, h₁, hrest⟩ := Prog.run_bind_eq_done.1 h
    obtain ⟨hfree, ⟨rfl, rfl⟩ | hfront⟩ := getConnection_eq_done h₁
    · obtain ⟨-, -, hfront⟩ := ih hrest
      exact ⟨hfree, k.succ_pos, hfront⟩
    · exact ⟨hfree, k.succ_pos, hfront⟩

/-- A function of the database that returns has borrowed a connection. -/
lemma serves_of_bind {f : ℕ → Handler α} {a : α}
    (h : (acquireConnection >>= f).run s = .done a s') : s.Serves := by
  obtain ⟨index, s₁, h₁, -⟩ := Prog.run_bind_eq_done.1 h
  exact serves_of_done h₁

/-- A part that gives its connection back, executed on a borrowed one. -/
lemma borrowed_run (h : s.Serves) {f : ℕ → Handler α} {a : α} {answers : Answers}
    {tables : Tables}
    (hf : ∀ index que, (f index).run (s.withDb que s.answers s.tables) =
      .done a (s.withDb (que ++ [index]) answers tables)) :
    (acquireConnection >>= f).run s = .done a (s.afterQuery answers tables) := by
  obtain ⟨index, rest, hque, hindex⟩ := h.front
  have hrotate : s.connectionQue.rotate 1 = rest ++ [index] := by
    rw [hque, List.rotate_cons_succ, List.rotate_zero]
  rw [Prog.run_bind, acquireConnection_run h.free h.patience hque hindex, Out.bind_done,
    Server.afterQuery, hrotate]
  exact hf index rest

lemma mysqlQuery_run (query : Stmt) (s : Server) (que : List ℕ) (answers : Answers)
    (tables : Tables) :
    (mysqlQuery query exec).run (s.withDb que answers tables) =
      if answers.fails = true then .done none (s.withDb que answers.next tables)
      else
        .done (some (exec tables query).1) (s.withDb que answers.next (exec tables query).2) := by
  unfold mysqlQuery
  rw [Prog.run_atomic]
  cases hfail : answers.queryFails.headD false with
  | true => simp only [Server.withDb, Answers.fails, Answers.next, hfail, if_true]
  | false =>
    simp only [Server.withDb, Answers.fails, Answers.next, hfail, Bool.false_eq_true, if_false]

lemma releaseConnection_withDb (h : s.Serves) (index : ℕ) (que : List ℕ) (answers : Answers)
    (tables : Tables) :
    (releaseConnection index).run (s.withDb que answers tables) =
      .done () (s.withDb (que ++ [index]) answers tables) :=
  releaseConnection_run index h.free

/-! ### The four functions

Each lemma is stated for any effect of the statements first; what is asked of it is that a SELECT
reads only. -/

/-- A statement with this effect reads only. -/
def Effect.Reads (exec : Effect) (q : Stmt) : Prop := ∀ t, (exec t q).2 = t

/-- The row that is read for a user. -/
def Effect.userRow (exec : Effect) (t : Tables) (id : Str) : Option UserRow :=
  (exec t (.selectUserInfo id)).1.userRows.getLast?

/-- The friends that are read for a user. -/
def Effect.friends (exec : Effect) (t : Tables) (id : Str) : List Str :=
  (exec t (.selectFriends id)).1.friendRows.map (·.2)

/-- The row that is read for a user: the last one with this id. -/
def Tables.userRow (t : Tables) (id : Str) : Option UserRow :=
  (t.userInfo.filter (·.id = id)).getLast?

lemma userRow_eq_none {t : Tables} {id : Str} :
    t.userRow id = none ↔ ∀ row ∈ t.userInfo, row.id ≠ id := by
  simp [Tables.userRow]

lemma mem_of_userRow {t : Tables} {id : Str} {row : UserRow} (h : t.userRow id = some row) :
    row ∈ t.userInfo ∧ row.id = id := by
  simpa using List.mem_of_getLast? h

lemma getQueryUserInfo_run_of_reads (h : s.Serves) {id : Str}
    (hreads : exec.Reads (.selectUserInfo id)) :
    (getQueryUserInfo id exec).run s =
      .done (if s.answers.fails = true then none else exec.userRow s.tables id)
        (s.afterQuery s.answers.next s.tables) := by
  refine borrowed_run h fun index que => ?_
  rw [Prog.run_bind, mysqlQuery_run, hreads]
  by_cases hfail : s.answers.fails = true
  · rw [if_pos hfail, if_pos hfail, Out.bind_done, Prog.run_bind, releaseConnection_withDb h]
    rfl
  · rw [if_neg hfail, if_neg hfail, Out.bind_done, Prog.run_bind, releaseConnection_withDb h]
    rfl

lemma getQueryUserInfo_run (h : s.Serves) (id : Str) :
    (getQueryUserInfo id).run s =
      .done (if s.answers.fails = true then none else s.tables.userRow id)
        (s.afterQuery s.answers.next s.tables) :=
  getQueryUserInfo_run_of_reads h fun _ => rfl

/-- The friends of a user, in the order of their rows. -/
def Tables.friends (t : Tables) (u : Str) : List Str :=
  (t.friendInfo.filter (·.1 = u)).map (·.2)

lemma getUserFriendsList_run_of_reads (h : s.Serves) {id : Str}
    (hreads : exec.Reads (.selectFriends id)) :
    (getUserFriendsList id exec).run s =
      .done (if s.answers.fails = true then none else some (exec.friends s.tables id))
        (s.afterQuery s.answers.next s.tables) := by
  refine borrowed_run h fun index que => ?_
  rw [Prog.run_bind, mysqlQuery_run, hreads]
  by_cases hfail : s.answers.fails = true
  · rw [if_pos hfail, if_pos hfail, Out.bind_done, Prog.run_bind, releaseConnection_withDb h]
    rfl
  · rw [if_neg hfail, if_neg hfail, Out.bind_done, Prog.run_bind, releaseConnection_withDb h]
    rfl

lemma getUserFriendsList_run (h : s.Serves) (id : Str) :
    (getUserFriendsList id).run s =
      .done (if s.answers.fails = true then none else some (s.tables.friends id))
        (s.afterQuery s.answers.next s.tables) :=
  getUserFriendsList_run_of_reads h fun _ => rfl

lemma checkRepetition_run_of_reads {id target : Str} (hreads : exec.Reads (.selectFriend id target))
    (s : Server) (que : List ℕ) (answers : Answers) (tables : Tables) :
    (checkRepetition id target exec).run (s.withDb que answers tables) =
      .done (decide (answers.fails = false ∧
          (exec tables (.selectFriend id target)).1.friendRows = []))
        (s.withDb que answers.next tables) := by
  unfold checkRepetition
  rw [Prog.run_bind, mysqlQuery_run, hreads]
  cases hfail : answers.fails with
  | true =>
    rw [if_pos rfl, Out.bind_done, Prog.run_pure]
    simp
  | false =>
    have hempty : ∀ l : List (Str × Str), l.isEmpty = decide (l = []) := fun l => by cases l <;> rfl
    rw [if_neg (by simp), Out.bind_done, Prog.run_pure, hempty]
    simp only [true_and]

/-- A friend is added when no row was read and both statements succeed. -/
lemma addUserFrinedsList_run_of_reads (h : s.Serves) {id target : Str}
    (hreads : exec.Reads (.selectFriend id target)) :
    ∃ answers, (addUserFrinedsList id target exec).run s =
      if (exec s.tables (.selectFriend id target)).1.friendRows = [] ∧ s.answers.fails = false ∧
          s.answers.next.fails = false then
        .done true (s.afterQuery answers (exec s.tables (.insertFriend id target)).2)
      else .done false (s.afterQuery answers s.tables) := by
  by_cases hcheck : s.answers.fails = false ∧
      (exec s.tables (.selectFriend id target)).1.friendRows = []
  · refine ⟨s.answers.next.next, ?_⟩
    cases hfail : s.answers.next.fails with
    | true =>
      rw [if_neg (by simp)]
      refine borrowed_run h fun index que => ?_
      rw [Prog.run_bind, checkRepetition_run_of_reads hreads, Out.bind_done, decide_eq_true hcheck,
        if_pos rfl, Prog.run_bind, mysqlQuery_run, if_pos hfail, Out.bind_done, Prog.run_bind,
        releaseConnection_withDb h]
      rfl
    | false =>
      rw [if_pos ⟨hcheck.2, hcheck.1, rfl⟩]
      refine borrowed_run h fun index que => ?_
      rw [Prog.run_bind, checkRepetition_run_of_reads hreads, Out.bind_done, decide_eq_true hcheck,
        if_pos rfl, Prog.run_bind, mysqlQuery_run, if_neg (by simp [hfail]), Out.bind_done,
        Prog.run_bind, releaseConnection_withDb h]
      rfl
  · -- the second statement is not executed
    refine ⟨s.answers.next, ?_⟩
    rw [if_neg fun hadd => hcheck ⟨hadd.2.1, hadd.1⟩]
    refine borrowed_run h fun index que => ?_
    rw [Prog.run_bind, checkRepetition_run_of_reads hreads, Out.bind_done, decide_eq_false hcheck,
      if_neg (by simp), Prog.run_bind, releaseConnection_withDb h]
    rfl

/-- The rows of a pair are none when the pair is not in the table. -/
lemma filter_eq_nil_iff_not_mem {l : List (Str × Str)} {p : Str × Str} :
    l.filter (· = p) = [] ↔ p ∉ l := by
  rw [List.filter_eq_nil_iff]
  refine ⟨fun hnone hmem => hnone _ hmem (by simp), fun hnot row hrow heq => hnot ?_⟩
  obtain rfl : row = p := by simpa using heq
  exact hrow

/-- A friend is added when it is no friend yet and both statements succeed. -/
lemma addUserFrinedsList_run (h : s.Serves) (id target : Str) :
    ∃ answers, (addUserFrinedsList id target).run s =
      if (id, target) ∉ s.tables.friendInfo ∧ s.answers.fails = false ∧
          s.answers.next.fails = false then
        .done true (s.afterQuery answers ((Stmt.insertFriend id target).exec s.tables).2)
      else .done false (s.afterQuery answers s.tables) := by
  have hrows : (Stmt.exec s.tables (.selectFriend id target)).1.friendRows = [] ↔
      (id, target) ∉ s.tables.friendInfo := filter_eq_nil_iff_not_mem
  have hreads : Effect.Reads Stmt.exec (.selectFriend id target) := fun _ => rfl
  obtain ⟨answers, hrun⟩ := addUserFrinedsList_run_of_reads h hreads
  simp only [hrows] at hrun
  exact ⟨answers, hrun⟩

/-- A friend is removed when the statement succeeds and says that it has changed a row. -/
lemma delUserFrinedsList_run_of_effect (h : s.Serves) (id target : Str) :
    (delUserFrinedsList id target exec).run s =
      if s.answers.fails = true then .done false (s.afterQuery s.answers.next s.tables)
      else .done (decide ((exec s.tables (.deleteFriend id target)).1.affected ≠ 0))
        (s.afterQuery s.answers.next (exec s.tables (.deleteFriend id target)).2) := by
  by_cases hfail : s.answers.fails = true
  · rw [if_pos hfail]
    refine borrowed_run h fun index que => ?_
    rw [Prog.run_bind, mysqlQuery_run, if_pos hfail, Out.bind_done, Prog.run_bind,
      releaseConnection_withDb h]
    rfl
  · rw [if_neg hfail]
    refine borrowed_run h fun index que => ?_
    rw [Prog.run_bind, mysqlQuery_run, if_neg hfail, Out.bind_done, Prog.run_bind,
      releaseConnection_withDb h]
    rfl

/-- A statement that finds no row deletes none. -/
lemma exec_deleteFriend_of_not_mem {t : Tables} {id target : Str}
    (h : (id, target) ∉ t.friendInfo) :
    Stmt.exec t (.deleteFriend id target) = (⟨[], [], 0⟩, t) := by
  have hrows : t.friendInfo.filter (· ≠ (id, target)) = t.friendInfo := by
    refine List.filter_eq_self.2 fun row hrow => decide_eq_true ?_
    rintro rfl
    exact h hrow
  simp only [Stmt.exec, filter_eq_nil_iff_not_mem.2 h, hrows, List.length_nil]

/-- A friend is removed when it is a friend and the statement succeeds. -/
lemma delUserFrinedsList_run (h : s.Serves) (id target : Str) :
    (delUserFrinedsList id target).run s =
      if (id, target) ∈ s.tables.friendInfo ∧ s.answers.fails = false then
        .done true
          (s.afterQuery s.answers.next ((Stmt.deleteFriend id target).exec s.tables).2)
      else .done false (s.afterQuery s.answers.next s.tables) := by
  rw [delUserFrinedsList_run_of_effect h]
  cases hfail : s.answers.fails with
  | true => rw [if_pos rfl, if_neg (by simp)]
  | false =>
    rw [if_neg (by simp)]
    by_cases hmem : (id, target) ∈ s.tables.friendInfo
    · have haffected : (Stmt.exec s.tables (.deleteFriend id target)).1.affected ≠ 0 :=
        fun hzero => filter_eq_nil_iff_not_mem.1 (List.length_eq_zero_iff.1 hzero) hmem
      rw [if_pos ⟨hmem, rfl⟩, decide_eq_true haffected]
    · rw [if_neg fun hdel => hmem hdel.1, exec_deleteFriend_of_not_mem hmem,
        decide_eq_false (by simp)]

/-! ### Login -/

/-- The state after a message was sent to the session. -/
def Server.sent (s : Server) (n : SessionId) (message : Message) : Server :=
  Server.setSess { s with heap := s.heap + 1 } n
    { s.sess n with
      send := (s.sess n).send.waitSend false (message.byteSize + packetHeaderSize)
        ⟨s.heap, message⟩ }

lemma sendMessage_run (message : Message) (s : Server) :
    (sendMessage n message).run s = .done () (s.sent n message) := rfl

/-- The state in which a login has succeeded, before it is answered. -/
def Server.loggedIn (s : Server) (n : SessionId) (token : Str) (row : UserRow) (id : Str)
    (friends : List Str) : Server :=
  { s.setSess n { s.sess n with
      friendsCount := friends.length
      ratingScore := row.rating.toInt
      battleHistory := row.totalGames.toInt
      win := row.win.toInt
      lose := row.lose.toInt
      userId := id
      token := token
      stat := .login } with
    userIdMap := if (s.userIdMap id).isNone then Function.update s.userIdMap id (some n)
      else s.userIdMap
    log := .joined n id :: s.log }

/-- The statements of a login leave the server in the state `t`: only connections and answers are
used up. -/
def Server.Queried (s t : Server) : Prop :=
  ∃ que answers, que.Perm s.connectionQue ∧ t = s.withDb que answers s.tables

lemma queried_afterQuery (s : Server) : s.Queried (s.afterQuery s.answers.next s.tables) :=
  ⟨_, _, List.rotate_perm _ 1, rfl⟩

lemma Server.Queried.trans {t u : Server} (h₁ : s.Queried t) (h₂ : t.Queried u) : s.Queried u := by
  obtain ⟨que₁, answers₁, hque₁, rfl⟩ := h₁
  obtain ⟨que₂, answers₂, hque₂, rfl⟩ := h₂
  exact ⟨que₂, answers₂, hque₂.trans hque₁, rfl⟩

/-- The ways in which the login of an admitted user ends, for the row and the friends that the
statements find when they succeed. -/
inductive LoginEnd (n : SessionId) (token id : Str) (found : Option UserRow) (friends : List Str)
    (s : Server) : Bool → Server → Prop
  /-- The token is given up when the user has no row. -/
  | noRow {t : Server} (ht : s.Queried t) (hnone : s.answers.fails = true ∨ found = none) :
      LoginEnd n token id found friends s false
        (Server.sent { t with redis := Function.update t.redis token none } n
          (.joinAns false (some none) []))
  /-- The token is kept when the friend list cannot be read. -/
  | noList {t : Server} (ht : s.Queried t) (hok : s.answers.fails = false)
      (hrow : found ≠ none) (hfail : s.answers.next.fails = true) :
      LoginEnd n token id found friends s false (t.sent n (.joinAns false (some none) []))
  | joined {t : Server} {row : UserRow} (ht : s.Queried t) (hok : s.answers.fails = false)
      (hok' : s.answers.next.fails = false) (hrow : found = some row) :
      LoginEnd n token id found friends s true
        ((t.loggedIn n token row id friends).sent n
          (.joinAns true
            (some (some ⟨row.rating.toInt, row.totalGames.toInt, row.win.toInt, row.lose.toInt⟩))
            friends))

lemma loginAs_eq_done {token id : Str} {b : Bool} (hrow : exec.Reads (.selectUserInfo id))
    (hlist : exec.Reads (.selectFriends id))
    (h : (loginAs n token id exec).run s = .done b s') :
    LoginEnd n token id (exec.userRow s.tables id) (exec.friends s.tables id) s b s' := by
  obtain ⟨row, s₁, h₁, h⟩ := Prog.run_bind_eq_done.1 h
  rw [getQueryUserInfo_run_of_reads (serves_of_bind h₁) hrow] at h₁
  obtain ⟨hrow, rfl⟩ := Out.done.inj h₁
  have hquery := queried_afterQuery s
  cases row with
  | none =>
    obtain ⟨_, s₂, h₂, h⟩ := Prog.run_bind_eq_done.1 h
    obtain ⟨-, rfl⟩ := Out.done.inj h₂
    obtain ⟨rfl, rfl⟩ := Out.done.inj h
    refine .noRow hquery ?_
    by_cases hfail : s.answers.fails = true
    · exact Or.inl hfail
    · rw [if_neg hfail] at hrow
      exact Or.inr hrow
  | some row =>
    obtain ⟨hok, hlast⟩ := Option.ite_none_left_eq_some.1 hrow
    obtain ⟨list, s₂, h₂, h⟩ := Prog.run_bind_eq_done.1 h
    rw [getUserFriendsList_run_of_reads (serves_of_bind h₂) hlist] at h₂
    obtain ⟨hlist, rfl⟩ := Out.done.inj h₂
    have hqueries := hquery.trans (queried_afterQuery _)
    cases list with
    | none =>
      obtain ⟨rfl, rfl⟩ := Out.done.inj h
      refine .noList hqueries (Bool.eq_false_iff.2 hok) (by simp [hlast]) ?_
      by_contra hok'
      have hlist := (if_neg hok').symm.trans hlist
      cases hlist
    | some friends =>
      obtain ⟨hok', hfriends⟩ := Option.ite_none_left_eq_some.1 hlist
      obtain rfl := Option.some.inj hfriends
      obtain ⟨_, s₃, h₃, h⟩ := Prog.run_bind_eq_done.1 h
      obtain ⟨-, rfl⟩ := Out.done.inj h₃
      obtain ⟨_, s₄, h₄, h⟩ := Prog.run_bind_eq_done.1 h
      obtain ⟨-, rfl⟩ := Out.done.inj h₄
      obtain ⟨_, s₅, h₅, h⟩ := Prog.run_bind_eq_done.1 h
      obtain ⟨-, rfl⟩ := Out.done.inj h₅
      obtain ⟨user, s₆, h₆, h⟩ := Prog.run_bind_eq_done.1 h
      obtain ⟨huser, rfl⟩ := getSess_eq_done h₆
      -- the id read back from the session is the one that was just stored
      have huser : user = id := by
        rw [huser]
        simp [Server.setSess]
      subst huser
      obtain ⟨_, s₇, h₇, h⟩ := Prog.run_bind_eq_done.1 h
      rw [addIdInUserMap_run (mtx_eq_zero_of_lock (by simp) h₇)] at h₇
      obtain ⟨-, rfl⟩ := Out.done.inj h₇
      obtain ⟨rfl, rfl⟩ := Out.done.inj h
      have hend : LoginEnd n token user (exec.userRow s.tables user) (exec.friends s.tables user)
          s true _ :=
        .joined hqueries (Bool.eq_false_iff.2 hok) (Bool.eq_false_iff.2 hok') hlast
      convert hend using 1
      simp only [Server.sent, Server.loggedIn, Server.setSess, Function.update_idem,
        Function.update_self]
      rfl

/-- The ways in which a login request ends, for the rows and friends that the statements find. -/
inductive LobbyEnd (n : SessionId) (token : Str) (found : Str → Option UserRow)
    (friends : Str → List Str) (s : Server) : Bool → Server → Prop
  | closed (hopen : (s.sess n).isOpen = false) : LobbyEnd n token found friends s false s
  /-- A token that admits nobody sets the status, whatever it was. -/
  | refused (hopen : (s.sess n).isOpen = true)
      (hnone : ∀ id, s.redis token = some id → s.userIdMap id ≠ none) :
      LobbyEnd n token found friends s false
        ((s.setSess n { s.sess n with stat := .logout }).sent n (.joinAns false none []))
  | admitted {id : Str} {b : Bool} {s' : Server} (hopen : (s.sess n).isOpen = true)
      (hkv : s.redis token = some id) (hid : s.userIdMap id = none)
      (hend : LoginEnd n token id (found id) (friends id) s b s') :
      LobbyEnd n token found friends s b s'

lemma lobbyLoginProcess_eq_done_of_reads {message : JoinRequest} {b : Bool}
    (hreads : ∀ id, (s.sess n).isOpen = true → s.redis message.token = some id →
      s.userIdMap id = none → exec.Reads (.selectUserInfo id) ∧ exec.Reads (.selectFriends id))
    (h : (lobbyLoginProcess n message exec).run s = .done b s') :
    LobbyEnd n message.token (exec.userRow s.tables) (exec.friends s.tables) s b s' := by
  obtain ⟨isOpen, s₁, h₁, h⟩ := Prog.run_bind_eq_done.1 h
  obtain ⟨rfl, rfl⟩ := getSess_eq_done h₁
  by_cases hopen : (s.sess n).isOpen = true
  · rw [if_pos hopen] at h
    obtain ⟨admitted, s₂, h₂, h⟩ := Prog.run_bind_eq_done.1 h
    obtain ⟨hadmitted, rfl⟩ := admittedId_eq_done h₂
    cases admitted with
    | none =>
      obtain ⟨rfl, rfl⟩ := Out.done.inj h
      refine .refused hopen fun id hkv hid => ?_
      cases (hadmitted id).2 ⟨hkv, hid⟩
    | some id =>
      obtain ⟨hkv, hid⟩ := (hadmitted id).1 rfl
      obtain ⟨hrow, hlist⟩ := hreads id hopen hkv hid
      exact .admitted hopen hkv hid (loginAs_eq_done hrow hlist h)
  · rw [if_neg hopen] at h
    obtain ⟨rfl, rfl⟩ := Out.done.inj h
    exact .closed (Bool.eq_false_iff.2 hopen)

lemma lobbyLoginProcess_eq_done {message : JoinRequest} {b : Bool}
    (h : (lobbyLoginProcess n message).run s = .done b s') :
    LobbyEnd n message.token s.tables.userRow s.tables.friends s b s' :=
  lobbyLoginProcess_eq_done_of_reads (fun _ _ _ _ => ⟨fun _ => rfl, fun _ => rfl⟩) h

end Calls

end ChannelServer
