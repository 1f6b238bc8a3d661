/-
The pool of connections as `db_connector::init` fills it (`dbConnectorInit`).

The loop appends a connection to `connection_pool` and its own counter to `connection_que`, but
only when the connection could be opened.  The counter is later used as a position of
`connection_pool` (`get_connection`), and the destructor reads the positions up to the size from
the settings.  Once a connection could not be opened, positions and counters differ.

* `handed_out_iff`: the indices that are handed out are positions of their own connections if and
  only if the connections that could be opened are the first ones;
* `pool_indices_live_iff`: the destructor stays inside as well if and only if all of them could
  be opened.
-/
import ChannelServer.Connections
import ChannelServer.View

namespace ChannelServer

open Resumption

/-! ### The pool, position by position -/

/-- The loop of the destructor: the connections that are closed; `none` when a position past the
end of the pool is read. -/
def closeConnections (connectionPool : List ℕ) (poolSize : ℕ) : Option (List ℕ) :=
  (List.range poolSize).mapM fun i => connectionPool[i]?

section Loops

variable {poolSize : ℕ} {opened : ℕ → Bool}

lemma closeConnections_isSome {pool : List ℕ} :
    (closeConnections pool poolSize).isSome = true ↔ poolSize ≤ pool.length := by
  have hmapM : ∀ is : List ℕ,
      (is.mapM fun i => pool[i]?).isSome = true ↔ ∀ i ∈ is, i < pool.length := by
    intro is
    induction is with
    | nil => simp
    | cons i is ih =>
      rw [List.forall_mem_cons, ← ih, List.mapM_cons]
      by_cases hi : i < pool.length
      · cases hrest : is.mapM fun i => pool[i]? <;> simp [hi]
      · simp [hi]
  unfold closeConnections
  rw [hmapM]
  constructor
  · intro h
    by_contra hlt
    exact absurd (h pool.length (List.mem_range.2 (by omega))) (Nat.lt_irrefl _)
  · intro h i hi
    have hi' := List.mem_range.1 hi
    omega

/-- The connections before a given one are those that could be opened for a smaller index. -/
lemma range_filter_split {k : ℕ} (hk : k < poolSize) (hopen : opened k = true) :
    ∃ rest, (List.range poolSize).filter opened =
      (List.range k).filter opened ++ k :: rest := by
  obtain ⟨m, rfl⟩ : ∃ m, poolSize = k + (m + 1) := ⟨poolSize - (k + 1), by omega⟩
  rw [List.range_add, List.filter_append, List.range_succ_eq_map, List.map_cons, Nat.add_zero,
    List.filter_cons_of_pos hopen]
  exact ⟨_, rfl⟩

/-- A connection is at the position of its index when all connections before it were opened. -/
lemma getElem?_opened {k : ℕ} (hk : k < poolSize) (hopen : opened k = true) :
    ((List.range poolSize).filter opened)[k]? = some k ↔ ∀ i < k, opened i = true := by
  obtain ⟨rest, hsplit⟩ := range_filter_split hk hopen
  have hpos : ((List.range poolSize).filter opened)[((List.range k).filter opened).length]? =
      some k := by
    rw [hsplit, List.getElem?_append_right (Nat.le_refl _), Nat.sub_self, List.getElem?_cons_zero]
  have hnodup : ((List.range poolSize).filter opened).Nodup := List.nodup_range.filter _
  constructor
  · intro hself i hi
    have hlt : k < ((List.range poolSize).filter opened).length :=
      (List.getElem?_eq_some_iff.1 hself).1
    have hlen : ((List.range k).filter opened).length = (List.range k).length := by
      rw [List.length_range]
      exact ((List.getElem?_inj hlt hnodup).1 (hself.trans hpos.symm)).symm
    exact List.length_filter_eq_length_iff.1 hlen i (List.mem_range.2 hi)
  · intro hall
    have hfull : (List.range k).filter opened = List.range k :=
      List.filter_eq_self.2 fun i hi => hall i (List.mem_range.1 hi)
    rw [hfull, List.length_range] at hpos
    exact hpos

end Loops

/-! ### Runs -/

/-- The program leaves the pool as it is. -/
abbrev KeepsPool {α : Type} (p : Handler α) : Prop :=
  p.Within fun s t => t.connectionPool = s.connectionPool

lemma pool_mysqlQuery (query : Stmt) : KeepsPool (mysqlQuery query) := by
  refine Prog.within_atomic fun s => ?_
  dsimp only
  split <;> rfl

lemma pool_acquireConnection : KeepsPool acquireConnection :=
  within_acquireConnection fun _ _ _ => rfl

lemma pool_releaseConnection (index : ℕ) : KeepsPool (releaseConnection index) :=
  within_releaseConnection (fun _ _ _ => rfl) index

lemma pool_call (call : DbCall) : KeepsPool call.prog := by
  cases call with
  | getQueryUserInfo _ | getUserFriendsList _ =>
    refine Prog.within_bind (Prog.within_bind pool_acquireConnection fun _ =>
      Prog.within_bind (pool_mysqlQuery _) fun result => ?_) fun _ => Prog.within_pure _
    cases result <;>
      exact Prog.within_bind (pool_releaseConnection _) fun _ => Prog.within_pure _
  | addUserFrinedsList requestId targetId =>
    have hcheck : KeepsPool (checkRepetition requestId targetId) := by
      refine Prog.within_bind (pool_mysqlQuery _) fun result => ?_
      cases result <;> exact Prog.within_pure _
    exact Prog.within_bind (Prog.within_bind pool_acquireConnection fun _ =>
      Prog.within_bind hcheck fun _ => Prog.within_ite
        (Prog.within_bind (pool_mysqlQuery _) fun _ =>
          Prog.within_bind (pool_releaseConnection _) fun _ => Prog.within_pure _)
        (Prog.within_bind (pool_releaseConnection _) fun _ => Prog.within_pure _))
      fun _ => Prog.within_pure _
  | delUserFrinedsList _ _ =>
    refine Prog.within_bind (Prog.within_bind pool_acquireConnection fun _ =>
      Prog.within_bind (pool_mysqlQuery _) fun result =>
      Prog.within_bind (pool_releaseConnection _) fun _ => ?_) fun _ => Prog.within_pure _
    cases result <;> exact Prog.within_pure _

section Runs

variable {ι : Type} [DecidableEq ι] {b : Boot} {c d : DbRun ι} {i : ι} {k : ℕ}

/-- The pool does not change any more. -/
lemma DbReached.connectionPool (h : DbReached b c) :
    c.threads.state.connectionPool = b.init.connectionPool := by
  suffices hinv : (∀ i, KeepsPool (c.threads.prog i)) ∧
      c.threads.state.connectionPool = b.init.connectionPool from hinv.2
  refine Runs.Reached.invariant (I := fun c : DbRun ι => (∀ i, KeepsPool (c.threads.prog i)) ∧
    c.threads.state.connectionPool = b.init.connectionPool) ?_ ?_ h
  · rintro c rfl
    exact ⟨fun _ => Prog.within_pure _, rfl⟩
  · rintro c e d - ⟨hprog, hpool⟩ - hnext
    cases e with
    | start i call =>
      obtain ⟨-, hd⟩ := Option.ite_none_right_eq_some.1 hnext
      obtain rfl := Option.some.inj hd
      refine ⟨fun j => ?_, hpool⟩
      by_cases hj : j = i
      · subst hj
        rw [Threads.set_prog_self]
        exact pool_call call
      · rw [Threads.set_prog_of_ne _ hj]
        exact hprog j
    | act i =>
      obtain ⟨threads, hthreads, rfl⟩ := Option.map_eq_some_iff.1 hnext
      obtain ⟨β, f, k, r, t, hi, hf, rfl⟩ := Threads.next_eq_some hthreads
      have hact := hprog i
      rw [hi] at hact
      refine ⟨fun j => ?_, (hact.1 _ _ _ hf).trans hpool⟩
      by_cases hj : j = i
      · subst hj
        rw [Threads.set_prog_self]
        exact hact.2 r
      · rw [Threads.set_prog_of_ne _ hj]
        exact hprog j
    | outside tables answers =>
      obtain rfl := Option.some.inj hnext
      exact ⟨hprog, hpool⟩

omit [DecidableEq ι] in
lemma mem_of_borrow {old new : List ℕ} (h : .borrow k ∈ poolActs old new) : k ∈ old := by
  unfold poolActs at h
  split at h
  · cases old with
    | nil => simp at h
    | cons index rest =>
      obtain rfl : k = index := by simpa using h
      exact List.mem_cons_self
  · split at h
    · simp at h
    · cases h

/-- An index that is handed out was in the queue at the start. -/
lemma DbReached.mem_init (h : DbReached b c) :
    ∀ i acts, c.acts i = some acts → ∀ k, .borrow k ∈ acts → k ∈ b.init.connectionQue := by
  refine Runs.Reached.invariant (I := fun c : DbRun ι => ∀ i acts, c.acts i = some acts →
    ∀ k, .borrow k ∈ acts → k ∈ b.init.connectionQue) ?_ ?_ h
  · rintro c rfl i acts hacts
    cases hacts
  · rintro c e d hreach hc - hnext
    cases e with
    | start i call =>
      obtain ⟨-, hd⟩ := Option.ite_none_right_eq_some.1 hnext
      obtain rfl := Option.some.inj hd
      refine (Function.forall_update_iff c.acts fun _ x => ∀ acts, x = some acts →
        ∀ k, .borrow k ∈ acts → k ∈ b.init.connectionQue).2 ⟨fun acts hacts k hk => ?_,
          fun j _ => hc j⟩
      obtain rfl := Option.some.inj hacts
      cases hk
    | act i =>
      obtain ⟨threads, -, rfl⟩ := Option.map_eq_some_iff.1 hnext
      obtain ⟨G, -, hinv, -⟩ := DbReached.runInv hreach
      refine (Function.forall_update_iff c.acts fun _ x => ∀ acts, x = some acts →
        ∀ k, .borrow k ∈ acts → k ∈ b.init.connectionQue).2 ⟨fun acts hacts k hk => ?_,
          fun j _ => hc j⟩
      obtain ⟨before, hbefore, rfl⟩ := Option.map_eq_some_iff.1 hacts
      rcases List.mem_append.1 hk with hk | hk
      · exact hc i before hbefore k hk
      · exact (hinv.exclusive.mem k).2 (Or.inl (mem_of_borrow hk))
    | outside tables answers =>
      obtain rfl := Option.some.inj hnext
      exact hc

/-! ### Handing out an index -/

/-- The run after an action of a thread. -/
def DbRun.did (c : DbRun ι) (i : ι) (p : Handler Unit) (s : Server) : DbRun ι :=
  ⟨c.threads.set i p s, Function.update c.acts i
    ((c.acts i).map (· ++ poolActs c.threads.state.connectionQue s.connectionQue))⟩

lemma DbReached.act {β : Type} {f : Server → Res Server Fault β} {p : β → Handler Unit} {r : β}
    {s : Server} (h : DbReached b c) (hi : c.threads.prog i = .act f p)
    (hf : f c.threads.state = .ok r s) : DbReached b (c.did i (p r) s) := by
  refine .step (e := .act i) h trivial ?_
  simp [DbRun.next, Threads.next, hi, hf, DbRun.did]

/-- A thread that calls a function of the database is handed out the first index of the queue. -/
lemma DbReached.handOut {rest : List ℕ} (h : DbReached b c) (hi : c.threads.prog i = pure ())
    (hmtx : c.threads.state.mtx .connectionMtx = 0)
    (hque : c.threads.state.connectionQue = k :: rest) :
    ∃ d : DbRun ι, DbReached b d ∧ d.acts i = some [.borrow k] ∧
      d.threads.state.mtx .connectionMtx = 0 ∧ d.threads.state.connectionQue = rest ∧
      ∀ j, j ≠ i → d.threads.prog j = c.threads.prog j := by
  have hret : c.threads.returned i = true := by
    unfold Threads.returned
    rw [hi]
    rfl
  have h₀ : DbReached b _ :=
    .step (e := .outside c.threads.state.tables ⟨[], [], 1⟩) h trivial rfl
  have h₁ : DbReached b _ :=
    .step (e := .start i (.getQueryUserInfo [])) h₀ trivial (if_pos hret)
  have h₂ := DbReached.act (i := i) h₁ (Threads.set_prog_self _ _ _ _) rfl
  have h₃ := DbReached.act (i := i) h₂ (Threads.set_prog_self _ _ _ _) (if_pos (Or.inl hmtx))
  have h₄ := DbReached.act (i := i) (r := k :: rest) h₃ (Threads.set_prog_self _ _ _ _)
    (congrArg (Res.ok · _) hque)
  have h₅ := DbReached.act (i := i) h₄ (Threads.set_prog_self _ _ _ _) rfl
  have h₆ := DbReached.act (i := i) h₅ (Threads.set_prog_self _ _ _ _) rfl
  refine ⟨_, h₆, ?_, ?_, rfl, fun j hj => ?_⟩
  · simp [DbRun.did, poolActs_same, poolActs_borrow, hque]
  · simp [DbRun.did, hmtx]
  · simp [DbRun.did, Threads.set, hj]

end Runs

/-- Threads that call one after another are handed out the whole queue. -/
lemma exists_handedOut {b : Boot} {k : ℕ} (hk : k ∈ b.init.connectionQue) :
    ∃ (c : DbRun ℕ) (i : ℕ), DbReached b c ∧ c.acts i = some [.borrow k] := by
  have hcalls : ∀ n ≤ b.init.connectionQue.length, ∃ c : DbRun ℕ, DbReached b c ∧
      c.threads.state.mtx .connectionMtx = 0 ∧
      c.threads.state.connectionQue = b.init.connectionQue.drop n ∧
      ∀ j, n ≤ j → c.threads.prog j = pure () := by
    intro n
    induction n with
    | zero => exact fun _ => ⟨DbRun.boot ℕ b, .start rfl, rfl, rfl, fun _ _ => rfl⟩
    | succ n ih =>
      intro hn
      obtain ⟨c, hc, hmtx, hque, hprog⟩ := ih (by omega)
      rw [List.drop_eq_getElem_cons (by omega)] at hque
      obtain ⟨d, hd, -, hmtx', hque', hprog'⟩ := hc.handOut (hprog n (Nat.le_refl n)) hmtx hque
      exact ⟨d, hd, hmtx', hque', fun j hj => (hprog' j (by omega)).trans (hprog j (by omega))⟩
  obtain ⟨n, hn, rfl⟩ := List.getElem_of_mem hk
  obtain ⟨c, hc, hmtx, hque, hprog⟩ := hcalls n (Nat.le_of_lt hn)
  rw [List.drop_eq_getElem_cons hn] at hque
  obtain ⟨d, hd, hacts, -⟩ := DbReached.handOut hc (hprog n (Nat.le_refl n)) hmtx hque
  exact ⟨d, n, hd, hacts⟩

/-! ### When the indices name live connections -/

/-- Every index that is handed out is the position of the connection opened for it, whatever
threads call the functions of the database, in any order. -/
def Boot.HandsOutOwn (b : Boot) : Prop :=
  ∀ (ι : Type) [DecidableEq ι] (c : DbRun ι), DbReached b c → ∀ i acts k,
    c.acts i = some acts → .borrow k ∈ acts → c.threads.state.connectionPool[k]? = some k

/-- The loop of the destructor stays inside the pool. -/
def Boot.ClosesInside (b : Boot) : Prop :=
  ∀ (ι : Type) [DecidableEq ι] (c : DbRun ι), DbReached b c →
    (closeConnections c.threads.state.connectionPool b.poolSize).isSome = true

/-- The indices are positions of their own connections exactly when no connection was opened
after one that could not be. -/
theorem handed_out_iff (b : Boot) :
    b.HandsOutOwn ↔ ∀ j < b.poolSize, b.opened j = true → ∀ i < j, b.opened i = true := by
  constructor
  · intro h j hj hopen
    obtain ⟨c, i, hc, hacts⟩ := exists_handedOut (b := b) (k := j) (by
      rw [b.init_connectionQue]
      exact List.mem_filter.2 ⟨List.mem_range.2 hj, hopen⟩)
    have hown := h ℕ c hc i _ j hacts List.mem_cons_self
    rw [DbReached.connectionPool hc, b.init_connectionPool] at hown
    exact (getElem?_opened hj hopen).1 hown
  · intro h ι _ c hc i acts k hacts hk
    have hque := DbReached.mem_init hc i acts hacts k hk
    rw [b.init_connectionQue] at hque
    obtain ⟨hrange, hopen⟩ := List.mem_filter.1 hque
    have hlt := List.mem_range.1 hrange
    rw [DbReached.connectionPool hc, b.init_connectionPool]
    exact (getElem?_opened hlt hopen).2 (h k hlt hopen)

lemma closesInside_iff (b : Boot) :
    b.ClosesInside ↔ ∀ i < b.poolSize, b.opened i = true := by
  have hlen : b.poolSize ≤ b.init.connectionPool.length ↔ ∀ i < b.poolSize, b.opened i = true := by
    have hle := List.length_filter_le b.opened (List.range b.poolSize)
    have hfull := List.length_filter_eq_length_iff (p := b.opened) (l := List.range b.poolSize)
    rw [List.length_range] at hle hfull
    simp only [List.mem_range] at hfull
    rw [← hfull, b.init_connectionPool]
    omega
  rw [← hlen]
  constructor
  · intro h
    exact closeConnections_isSome.1 (h ℕ (DbRun.boot ℕ b) (.start rfl))
  · intro h ι _ c hc
    rw [DbReached.connectionPool hc]
    exact closeConnections_isSome.2 h

/-- **Pool indices name live connections** if and only if all connections could be opened. -/
theorem pool_indices_live_iff (b : Boot) :
    (b.HandsOutOwn ∧ b.ClosesInside) ↔ ∀ i < b.poolSize, b.opened i = true := by
  rw [handed_out_iff, closesInside_iff]
  constructor
  · exact fun h => h.2
  · exact fun h => ⟨fun j hj _ i hi => h i (by omega), h⟩

/-- Two connections, of which only the second one can be opened. -/
def secondOnly : Boot := { oneConnection with poolSize := 2, opened := fun i => i = 1 }

/-- A call is handed out the index 1 of a pool that has the position 0 only, and fails; the
destructor reads past the end of the pool. -/
theorem pool_index_dead :
    (∃ c : DbRun Unit, DbReached secondOnly c ∧ c.acts () = some [.borrow 1] ∧
      c.threads.state.connectionPool[1]? = none ∧
      closeConnections c.threads.state.connectionPool secondOnly.poolSize = none) ∧
    ¬ secondOnly.HandsOutOwn ∧ ¬ secondOnly.ClosesInside := by
  have hrun : (Runs.exec DbRun.next (DbRun.boot Unit secondOnly)
      (.outside secondOnly.tables ⟨[], [], 1⟩ :: .start () (.getQueryUserInfo (lit "a")) ::
        List.replicate 5 (.act ()))).map (fun c => (c.acts (), c.threads.state.connectionPool[1]?,
          closeConnections c.threads.state.connectionPool secondOnly.poolSize)) =
      some (some [.borrow 1], none, none) := by
    decide
  obtain ⟨c, hc, heq⟩ := Option.map_eq_some_iff.1 hrun
  obtain ⟨hacts, heq⟩ := Prod.mk.inj heq
  obtain ⟨hpool, hclose⟩ := Prod.mk.inj heq
  have hreached : DbReached secondOnly c :=
    .of_exec (fun _ _ _ hnext => ⟨trivial, hnext⟩) (.start rfl) hc
  refine ⟨⟨c, hreached, hacts, hpool, hclose⟩, fun hown => ?_, fun hinside => ?_⟩
  · have hself := hown Unit c hreached () _ 1 hacts List.mem_cons_self
    rw [hpool] at hself
    cases hself
  · have hsome := hinside Unit c hreached
    rw [hclose] at hsome
    cases hsome

end ChannelServer
