/-
The session pool.

The sessions are created once and recycled: an id waits in `session_queue_`, is handed to an
accept, belongs to a connection, and returns to the queue when the connection is closed.
`View.PoolOk` says that an id is never in two of these places, that the open sockets are
those of the connections, and that `connections` counts them.  It holds in every reachable
state (`Reachable.poolOk`).

An id can be lost: by an accept that fails, by a read error that is neither end-of-file nor
connection reset, and by a disconnection in the status `MATCH_APPLY`.  `Recycles` is the
condition that excludes these, and `View.PoolFull` says that then no id is ever lost and
that the server keeps accepting.
-/
import ChannelServer.ViewStep

namespace ChannelServer

open Resumption WaitingRoom

namespace View

/-- The ids in the queue, of the outstanding accepts and of the active connections. -/
def places (v : View) : List SessionId := v.sessionQueue ++ v.accepts ++ v.active

/-- A connection that is being read: a read is outstanding, or its packet loop runs. -/
def BeingRead (v : View) (n : SessionId) : Prop :=
  ⟨n, true⟩ ∈ v.reads ∨ ∃ ps, v.current = some (n, ps)

/-- A session that is connected: accepted, and neither closed nor given up by its reads. -/
def Connected (v : View) (n : SessionId) : Prop := n ∈ v.active ∧ v.BeingRead n

/-- The invariant of the session pool. -/
structure PoolOk (v : View) : Prop where
  nodup : v.places.Nodup
  connections_eq : v.connections = v.active.length
  isOpen_iff : ∀ n, v.isOpen n = true ↔ n ∈ v.active
  accepts_closed : ∀ n b, Mark.asyncAccept n b ∈ v.log → b = false
  read_active : ∀ n, ⟨n, true⟩ ∈ v.reads → n ∈ v.active
  read_once : ∀ n, v.reads.count ⟨n, true⟩ ≤ 1
  current_read : ∀ n ps, v.current = some (n, ps) → ⟨n, true⟩ ∉ v.reads
  active_stat : ∀ n ∈ v.active, v.stat n ≠ .wait
  /-- A session that was closed in its own packet loop is not closed again there. -/
  current_closed : ∀ n ps, v.current = some (n, ps) → n ∉ v.active →
    v.stat n ≠ .matchComplete ∧ v.stat n ≠ .matchRecver

/-- Two views that agree on the pool, on the sockets and on the outstanding operations. -/
structure SamePool (v w : View) : Prop where
  cfg : w.cfg = v.cfg
  acceptingFlag : w.acceptingFlag = v.acceptingFlag
  sessionQueue : w.sessionQueue = v.sessionQueue
  accepts : w.accepts = v.accepts
  active : w.active = v.active
  connections : w.connections = v.connections
  isOpen : w.isOpen = v.isOpen
  reads : w.reads = v.reads
  current : w.current = v.current
  asyncAccept : ∀ n b, Mark.asyncAccept n b ∈ w.log → Mark.asyncAccept n b ∈ v.log

variable {v w : View} {n : SessionId}

lemma SamePool.refl (v : View) : v.SamePool v :=
  ⟨rfl, rfl, rfl, rfl, rfl, rfl, rfl, rfl, rfl, fun _ _ h => h⟩

lemma SamePool.trans {u v w : View} (h₁ : u.SamePool v) (h₂ : v.SamePool w) : u.SamePool w :=
  ⟨h₂.cfg.trans h₁.cfg, h₂.acceptingFlag.trans h₁.acceptingFlag,
    h₂.sessionQueue.trans h₁.sessionQueue, h₂.accepts.trans h₁.accepts,
    h₂.active.trans h₁.active, h₂.connections.trans h₁.connections,
    h₂.isOpen.trans h₁.isOpen, h₂.reads.trans h₁.reads, h₂.current.trans h₁.current,
    fun n b h => h₁.asyncAccept n b (h₂.asyncAccept n b h)⟩

/-- The statuses, the members of a session, the maps, the queues of players and the log may
change, if no accept is added to the log. -/
lemma SamePool.of_data {stat : SessionId → Status} {userId token roomKey : SessionId → Str}
    {rating : SessionId → ℤ} {waits : SessionId → List Wait}
    {userIdMap : Str → Option SessionId} {matchingQue : QueId → List SessionId}
    {redis : Str → Option Str} {friendInfo : List (Str × Str)} {log : List Mark}
    (hlog : ∀ k b, Mark.asyncAccept k b ∈ log → Mark.asyncAccept k b ∈ v.log) :
    v.SamePool { v with
      stat := stat, userId := userId, token := token, roomKey := roomKey, rating := rating
      waits := waits, userIdMap := userIdMap, matchingQue := matchingQue, redis := redis
      friendInfo := friendInfo, log := log } :=
  ⟨rfl, rfl, rfl, rfl, rfl, rfl, rfl, rfl, rfl, hlog⟩

/-! ### What serving and relaying do to the pool -/

lemma Served.samePool {r : QueId} {b : Bool} (h : v.Served r w b) : v.SamePool w := by
  cases h with
  | nobody _ => exact SamePool.of_data fun _ _ hm => hm
  | pair _ _ => exact SamePool.of_data fun k b hm => by simpa [note, setQue, pairMark] using hm

lemma armUnless_samePool (v : View) (n : SessionId) (b : Bool) : v.SamePool (v.armUnless n b) := by
  rcases v.armUnless_cases n b with h | h <;> rw [h]
  · exact SamePool.of_data fun _ _ hm => hm
  · exact SamePool.refl v

lemma enter_samePool (v : View) (n : SessionId) (r : QueId) : v.SamePool (v.enter n r) :=
  SamePool.of_data fun k b hm => by simpa using hm

lemma widen_samePool (v : View) (n : SessionId) : v.SamePool (v.widen n) :=
  SamePool.of_data fun k b hm => by simpa using hm

lemma Relayed.samePool {message : MatchWithFriendsRelay} (h : v.Relayed n message w) :
    v.SamePool w := by
  cases h with
  | refused => exact SamePool.refl v
  | self _ | deny => exact SamePool.of_data fun _ _ hm => hm
  | accept | apply => exact SamePool.of_data fun k b hm => by simpa [setStat] using hm

end View

/-- The packet confirms a match, which closes the session. -/
def View.Confirms (v : View) (n : SessionId) (p : Packet) : Prop :=
  p = .matchConfirm ∧ v.stat n = .matchComplete

lemma PacketStep.of_confirms {v w : View} {n : SessionId} {p : Packet} (h : PacketStep v n p w)
    (hconf : v.Confirms n p) : w = (v.setStat n .matchConfirm).close n := by
  obtain ⟨rfl, hst⟩ := hconf
  cases h with
  | notConfirmed h => exact absurd hst h
  | confirmed _ => rfl

/-- A packet leaves the pool alone, unless it confirms a match. -/
lemma PacketStep.samePool {v w : View} {n : SessionId} {p : Packet} (h : PacketStep v n p w)
    (hconf : ¬ v.Confirms n p) : v.SamePool w := by
  cases h with
  | config _ | other _ | notJoined _ | notLoggedOut _ | notConfirmed _ =>
    exact View.SamePool.refl v
  | friends h => cases h <;> exact View.SamePool.of_data fun _ _ hm => hm
  | relayed h => exact h.samePool
  | ranked h =>
    exact ((View.enter_samePool v n _).trans h.samePool).trans (View.armUnless_samePool _ n _)
  | refused _ _ | burnt _ _ _ => exact View.SamePool.of_data fun _ _ hm => hm
  | joined _ _ _ => exact View.SamePool.of_data fun k b hm => by simpa using hm
  | loggedOut _ =>
    refine View.SamePool.of_data fun k b hm => ?_
    simpa [View.forget, View.eraseKey, View.eraseUser, View.setStat] using hm
  | confirmed h => exact absurd ⟨rfl, h⟩ hconf

/-- A session whose socket is closed does not come to `MATCH_COMPLETE` or `MATCH_RECVER` by a
packet of its own. -/
lemma PacketStep.closed_stat {v w : View} {n : SessionId} {p : Packet} (h : PacketStep v n p w)
    (hopen : v.isOpen n = false)
    (hst : v.stat n ≠ .matchComplete ∧ v.stat n ≠ .matchRecver) :
    w.stat n ≠ .matchComplete ∧ w.stat n ≠ .matchRecver := by
  cases h with
  | config _ | other _ | notJoined _ | notLoggedOut _ | notConfirmed _ | burnt _ _ _ => exact hst
  | friends h => cases h <;> exact hst
  | refused hopen' _ | joined hopen' _ _ => simp [hopen] at hopen'
  | loggedOut _ => simp [View.note, View.setStat]
  | confirmed h => exact absurd h hst.1
  | relayed h =>
    cases h with
    | refused => exact hst
    | self _ => simp [View.setStat]
    | accept _ _ _ hn _ _ => exact absurd hn hst.2
    | deny _ _ _ hn _ => exact absurd hn hst.2
    | apply _ _ hne _ _ =>
      simp [View.note, View.setStat, Function.update_of_ne hne.symm]
  | ranked h =>
    rw [View.armUnless_stat]
    cases h with
    | nobody _ => simp [View.setQue, View.enter]
    | @pair a b uuid hpair _ =>
      obtain ⟨ha, hb, -, -⟩ := serve_pair hpair
      -- both partners have open sockets, so neither of them is `n`
      have hna : n ≠ a := by
        rintro rfl
        simp [View.waiting, View.enter, hopen] at ha
      have hnb : n ≠ b := by
        rintro rfl
        simp [View.waiting, View.enter, hopen] at hb
      simp [View.matched, View.note, View.setQue, View.enter, Function.update_of_ne hna,
        Function.update_of_ne hnb]

/-! ### The invariant is preserved -/

namespace View

variable {v w : View} {n : SessionId}

lemma PoolOk.of_samePool (hv : v.PoolOk) (h : v.SamePool w)
    (hact : ∀ n ∈ v.active, w.stat n ≠ .wait)
    (hst : ∀ n ps, v.current = some (n, ps) → n ∉ v.active →
      w.stat n ≠ .matchComplete ∧ w.stat n ≠ .matchRecver) : w.PoolOk where
  nodup := by
    unfold places
    rw [h.sessionQueue, h.accepts, h.active]
    exact hv.nodup
  connections_eq := by rw [h.connections, h.active, hv.connections_eq]
  isOpen_iff := by
    rw [h.isOpen, h.active]
    exact hv.isOpen_iff
  accepts_closed k b hm := hv.accepts_closed k b (h.asyncAccept k b hm)
  read_active := by
    rw [h.reads, h.active]
    exact hv.read_active
  read_once := by
    rw [h.reads]
    exact hv.read_once
  current_read := by
    rw [h.reads, h.current]
    exact hv.current_read
  active_stat := by
    rw [h.active]
    exact hact
  current_closed := by
    rw [h.current, h.active]
    exact hst

/-- The keys and the login map do not matter to the pool. -/
lemma PoolOk.of_keys (hv : v.PoolOk) {redis : Str → Option Str}
    {userIdMap : Str → Option SessionId} :
    PoolOk { v with redis := redis, userIdMap := userIdMap } :=
  hv.of_samePool (SamePool.of_data fun _ _ hm => hm) hv.active_stat hv.current_closed

/-- An id that is handed to an accept belongs to no connection. -/
lemma PoolOk.not_active_of_accepts (hv : v.PoolOk) (hn : n ∈ v.accepts) : n ∉ v.active := by
  intro hmem
  exact (List.nodup_append.1 hv.nodup).2.2 n (List.mem_append_right _ hn) n hmem rfl

/-- The next id of the queue belongs to no connection, so its socket is closed. -/
lemma PoolOk.isOpen_head (hv : v.PoolOk) {rest : List SessionId}
    (hq : v.sessionQueue = n :: rest) : v.isOpen n = false := by
  have hn : n ∉ v.active := by
    intro hmem
    have hnodup := hv.nodup
    unfold places at hnodup
    rw [hq, List.append_assoc] at hnodup
    have hdis := (List.nodup_append.1 hnodup).2.2
    exact hdis n List.mem_cons_self n (List.mem_append_right _ hmem) rfl
  rw [← hv.isOpen_iff] at hn
  simpa using hn

lemma PoolOk.waitAccept (hv : v.PoolOk) : v.waitAccept.PoolOk := by
  cases hq : v.sessionQueue with
  | nil =>
    rw [waitAccept_nil hq]
    exact ⟨hv.nodup, hv.connections_eq, hv.isOpen_iff, hv.accepts_closed, hv.read_active,
      hv.read_once, hv.current_read, hv.active_stat, hv.current_closed⟩
  | cons n rest =>
    have hclosed := hv.isOpen_head hq
    rw [waitAccept_cons hq]
    refine ⟨?_, hv.connections_eq, hv.isOpen_iff, ?_, hv.read_active, hv.read_once,
      hv.current_read, hv.active_stat, hv.current_closed⟩
    · have hperm : v.places.Perm (rest ++ (v.accepts ++ [n]) ++ v.active) := by
        rw [List.perm_iff_count]
        intro k
        simp only [places, hq, List.count_append, List.count_cons, List.count_nil]
        omega
      exact hperm.nodup hv.nodup
    · intro k b hm
      rcases List.mem_cons.1 hm with heq | hm
      · obtain ⟨-, rfl⟩ := Mark.asyncAccept.inj heq
        exact hclosed
      · exact hv.accepts_closed k b hm

/-- A connection that is accepted. -/
lemma PoolOk.accept (hv : v.PoolOk) (hcur : v.current = none) (hn : n ∈ v.accepts) :
    (View.accept ({ v with accepts := v.accepts.erase n }.setOpen n true) n).PoolOk := by
  have hnact : n ∉ v.active := hv.not_active_of_accepts hn
  have hnread : ⟨n, true⟩ ∉ v.reads := fun h => hnact (hv.read_active n h)
  refine PoolOk.waitAccept ⟨?_, ?_, ?_, ?_, ?_, ?_, ?_, ?_, ?_⟩
  · have hperm : v.places.Perm
        (v.sessionQueue ++ v.accepts.erase n ++ (v.active ++ [n])) := by
      rw [List.perm_iff_count]
      intro k
      have hk := (List.perm_cons_erase hn).count_eq k
      simp only [places, List.count_append, List.count_cons, List.count_nil] at hk ⊢
      omega
    exact hperm.nodup hv.nodup
  · have hc := hv.connections_eq
    simp only [setOpen, List.length_append, List.length_singleton]
    push_cast
    omega
  · intro k
    have hk := hv.isOpen_iff k
    by_cases hkn : k = n
    · subst hkn
      simp [setOpen]
    · simp [setOpen, hk, hkn]
  · intro k b hm
    have hm' : Mark.asyncAccept k b ∈ .accepted n :: v.log := hm
    exact hv.accepts_closed k b (by simpa using hm')
  · intro k hk
    have hk' : ⟨k, true⟩ ∈ v.reads ++ [⟨n, Function.update v.isOpen n true n⟩] := hk
    simp only [Function.update_self, List.mem_append, List.mem_singleton, Read.mk.injEq,
      and_true] at hk'
    rcases hk' with hk' | rfl
    · exact List.mem_append_left _ (hv.read_active k hk')
    · exact List.mem_append_right _ List.mem_cons_self
  · intro k
    have hk := hv.read_once k
    have hgoal : List.count (⟨k, true⟩ : Read) (v.reads ++ [⟨n, true⟩]) ≤ 1 := by
      rw [List.count_append]
      by_cases hkn : k = n
      · subst hkn
        have hzero : List.count (⟨k, true⟩ : Read) v.reads = 0 := List.count_eq_zero.2 hnread
        simp [hzero]
      · have hzero : List.count (⟨k, true⟩ : Read) [⟨n, true⟩] = 0 :=
          List.count_eq_zero.2 (by simp [hkn])
        omega
    simpa [setOpen] using hgoal
  · intro k ps hk
    exact absurd (hk.symm.trans hcur) (by simp)
  · refine (Function.forall_update_iff v.stat fun k st => k ∈ v.active ++ [n] → st ≠ .wait).2
      ⟨by simp, fun k hkn hk => ?_⟩
    simp only [List.mem_append, List.mem_singleton, hkn, or_false] at hk
    exact hv.active_stat k hk
  · intro k ps hk
    exact absurd (hk.symm.trans hcur) (by simp)

/-- A connection that is closed, when none of its reads is outstanding any more. -/
lemma PoolOk.finishClose (hv : v.PoolOk) (hn : n ∈ v.active) (hread : ⟨n, true⟩ ∉ v.reads) :
    (v.finishClose n).PoolOk := by
  -- the session is released first; `wait_accept` may follow
  have hreleased : (v.release n).PoolOk := by
    have hnodup : v.active.Nodup := (List.nodup_append.1 hv.nodup).2.1
    have herase : ∀ k, k ∈ v.active.erase n ↔ k ≠ n ∧ k ∈ v.active := fun k =>
      hnodup.mem_erase_iff
    refine ⟨?_, ?_, ?_, hv.accepts_closed, ?_, hv.read_once, hv.current_read, ?_, ?_⟩
    · have hperm : v.places.Perm
          (v.sessionQueue ++ [n] ++ v.accepts ++ v.active.erase n) := by
        rw [List.perm_iff_count]
        intro k
        have hk := (List.perm_cons_erase hn).count_eq k
        simp only [places, List.count_append, List.count_cons, List.count_nil] at hk ⊢
        omega
      exact hperm.nodup hv.nodup
    · have hc := hv.connections_eq
      have hpos : 0 < v.active.length := List.length_pos_of_mem hn
      have hlen : (v.active.erase n).length = v.active.length - 1 := List.length_erase_of_mem hn
      show v.connections - 1 = ((v.active.erase n).length : ℤ)
      omega
    · intro k
      show Function.update v.isOpen n false k = true ↔ k ∈ v.active.erase n
      rw [herase]
      by_cases hkn : k = n
      · subst hkn
        simp
      · simp [hkn, hv.isOpen_iff k]
    · intro k hk
      show k ∈ v.active.erase n
      rw [herase]
      refine ⟨?_, hv.read_active k hk⟩
      rintro rfl
      exact hread hk
    · intro k hk
      have hk' := (herase k).1 hk
      show Function.update v.stat n .wait k ≠ .wait
      rw [Function.update_of_ne hk'.1]
      exact hv.active_stat k hk'.2
    · intro k ps hk hkact
      show Function.update v.stat n .wait k ≠ _ ∧ Function.update v.stat n .wait k ≠ _
      by_cases hkn : k = n
      · subst hkn
        simp
      · rw [Function.update_of_ne hkn]
        refine hv.current_closed k ps hk fun hmem => ?_
        exact hkact ((herase k).2 ⟨hkn, hmem⟩)
  exact finishClose_of_release (fun w hw => hw.waitAccept) hreleased

lemma PoolOk.close (hv : v.PoolOk) (hn : n ∈ v.active) (hread : ⟨n, true⟩ ∉ v.reads) :
    (v.close n).PoolOk := by
  rcases v.close_cases n with ⟨-, h⟩ | ⟨-, redis, userIdMap, h⟩ <;> rw [h]
  · exact hv
  · exact PoolOk.finishClose hv.of_keys hn hread

/-- The next packet of a packet loop. -/
lemma PoolOk.nextPacket {ps rest : List Packet} (hv : v.PoolOk) (hcur : v.current = some (n, ps)) :
    PoolOk { v with current := some (n, rest) } := by
  refine ⟨hv.nodup, hv.connections_eq, hv.isOpen_iff, hv.accepts_closed, hv.read_active,
    hv.read_once, ?_, hv.active_stat, ?_⟩
  · intro k ps' hk
    obtain ⟨rfl, -⟩ := Prod.mk.inj (Option.some.inj hk)
    exact hv.current_read _ _ hcur
  · intro k ps' hk
    obtain ⟨rfl, -⟩ := Prod.mk.inj (Option.some.inj hk)
    exact hv.current_closed _ _ hcur

/-- A session that confirms a match in its packet loop is active. -/
lemma PoolOk.active_of_complete {ps : List Packet} (hv : v.PoolOk)
    (hcur : v.current = some (n, ps)) (hst : v.stat n = .matchComplete) : n ∈ v.active := by
  by_contra hkact
  exact (hv.current_closed _ _ hcur hkact).1 hst

/-- The status of a session that is closed next. -/
lemma PoolOk.setConfirm {ps : List Packet} (hv : v.PoolOk) (hcur : v.current = some (n, ps))
    (hst : v.stat n = .matchComplete) : (v.setStat n .matchConfirm).PoolOk := by
  refine hv.of_samePool (SamePool.of_data fun _ _ hm => hm) ?_ ?_
  · exact (Function.forall_update_iff v.stat fun k st => k ∈ v.active → st ≠ .wait).2
      ⟨by simp, fun k _ => hv.active_stat k⟩
  · intro k ps' hk hkact
    obtain ⟨rfl, -⟩ := Prod.mk.inj (Option.some.inj (hcur.symm.trans hk))
    exact absurd (hv.active_of_complete hcur hst) hkact

/-- The pool after the first call of `wait_accept`. -/
lemma PoolOk.init (b : Boot) : (Boot.init b).view.waitAccept.PoolOk := by
  refine PoolOk.waitAccept ⟨?_, rfl, ?_, ?_, ?_, ?_, ?_, ?_, ?_⟩
  · show (List.range b.cfg.maxSessionCount.toNat ++ [] ++ []).Nodup
    simpa using List.nodup_range
  · intro n
    show false = true ↔ n ∈ []
    simp
  · intro n x h
    cases h
  · intro n h
    cases h
  · intro n
    exact Nat.zero_le 1
  · intro n ps h
    cases h
  · intro n h
    cases h
  · intro n ps h
    cases h

/-- A read of an active session that completes. -/
lemma PoolOk.eraseRead (hv : v.PoolOk) (rd : Read) :
    PoolOk { v with reads := v.reads.erase rd } where
  nodup := hv.nodup
  connections_eq := hv.connections_eq
  isOpen_iff := hv.isOpen_iff
  accepts_closed := hv.accepts_closed
  read_active k hk := hv.read_active k (List.mem_of_mem_erase hk)
  read_once k := Nat.le_trans (List.erase_sublist.count_le _) (hv.read_once k)
  current_read k ps hk hmem := hv.current_read k ps hk (List.mem_of_mem_erase hmem)
  active_stat := hv.active_stat
  current_closed := hv.current_closed

/-! ### Who is being read -/

/-- A completed read is followed by a packet loop of the same session. -/
lemma beingRead_receive {packets : List Packet} (hcur : v.current = none)
    (hread : ⟨n, true⟩ ∈ v.reads) (k : SessionId) :
    BeingRead { v with reads := v.reads.erase ⟨n, true⟩, current := some (n, packets) } k ↔
      v.BeingRead k := by
  constructor
  · rintro (hk | ⟨ps, hps⟩)
    · exact Or.inl (List.mem_of_mem_erase hk)
    · obtain ⟨rfl, -⟩ := Prod.mk.inj (Option.some.inj hps)
      exact Or.inl hread
  · rintro (hk | ⟨ps, hps⟩)
    · by_cases hkn : k = n
      · subst hkn
        exact Or.inr ⟨packets, rfl⟩
      · exact Or.inl ((List.mem_erase_of_ne (by simp [hkn])).2 hk)
    · exact absurd (hps.symm.trans hcur) (by simp)

/-- The packet loop goes on. -/
lemma beingRead_nextPacket {ps rest : List Packet} (hcur : v.current = some (n, ps))
    (k : SessionId) : BeingRead { v with current := some (n, rest) } k ↔ v.BeingRead k := by
  refine or_congr_right ⟨?_, ?_⟩
  · rintro ⟨qs, hqs⟩
    obtain ⟨rfl, -⟩ := Prod.mk.inj (Option.some.inj hqs)
    exact ⟨ps, hcur⟩
  · rintro ⟨qs, hqs⟩
    obtain ⟨rfl, -⟩ := Prod.mk.inj (Option.some.inj (hcur.symm.trans hqs))
    exact ⟨rest, rfl⟩

/-- The end of a packet loop starts the next read, which counts if the socket is still open. -/
lemma PoolOk.beingRead_receiveEnd {ps : List Packet} (hv : v.PoolOk)
    (hcur : v.current = some (n, ps)) {k : SessionId} (hk : k ∈ v.active) :
    BeingRead { v with reads := v.reads ++ [⟨n, v.isOpen n⟩], current := none } k ↔
      v.BeingRead k := by
  have hopen : v.isOpen k = true := (hv.isOpen_iff k).2 hk
  constructor
  · rintro (hk' | ⟨qs, hqs⟩)
    · rcases List.mem_append.1 hk' with hk' | hk'
      · exact Or.inl hk'
      · obtain ⟨rfl, -⟩ := Read.mk.inj (List.mem_singleton.1 hk')
        exact Or.inr ⟨ps, hcur⟩
    · cases hqs
  · rintro (hk' | ⟨qs, hqs⟩)
    · exact Or.inl (List.mem_append_left _ hk')
    · obtain ⟨rfl, -⟩ := Prod.mk.inj (Option.some.inj (hcur.symm.trans hqs))
      refine Or.inl (List.mem_append_right _ ?_)
      rw [hopen]
      exact List.mem_cons_self

lemma SamePool.connected (h : v.SamePool w) (k : SessionId) : w.Connected k ↔ v.Connected k := by
  unfold Connected BeingRead
  rw [h.active, h.reads, h.current]

lemma waitAccept_connected (v : View) (k : SessionId) :
    v.waitAccept.Connected k ↔ v.Connected k := by
  obtain ⟨flag, queue, accepts, new, -, h⟩ := v.waitAccept_eq
  rw [h]
  exact Iff.rfl

/-- Closing a session does not disconnect the others. -/
lemma Connected.close {k : SessionId} (hk : v.Connected k) (hkn : k ≠ n) :
    (v.close n).Connected k := by
  rcases v.close_cases n with ⟨-, h⟩ | ⟨-, redis, userIdMap, h⟩ <;> rw [h]
  · exact hk
  · have hreleased : (View.release { v with redis := redis, userIdMap := userIdMap } n).Connected
        k := ⟨(List.mem_erase_of_ne hkn).2 hk.1, hk.2⟩
    exact finishClose_of_release (fun w hw => (waitAccept_connected w k).2 hw) hreleased

/-- The outstanding read of a session is its only one. -/
lemma PoolOk.not_mem_erase (hv : v.PoolOk) : ⟨n, true⟩ ∉ v.reads.erase ⟨n, true⟩ := by
  have hone := hv.read_once n
  rw [← List.count_eq_zero, List.count_erase_self]
  omega

end View

/-- **The pool invariant**, one step. -/
theorem ViewStep.poolOk {v w : View} {e : Event} (h : ViewStep v e w) (hv : v.PoolOk) :
    w.PoolOk := by
  cases h with
  | startAccept _ _ =>
    refine View.PoolOk.waitAccept ?_
    exact ⟨hv.nodup, hv.connections_eq, hv.isOpen_iff, hv.accepts_closed, hv.read_active,
      hv.read_once, hv.current_read, hv.active_stat, hv.current_closed⟩
  | accepted hcur hn => exact hv.accept hcur hn
  | @acceptFailed n hcur _ =>
    refine ⟨?_, hv.connections_eq, hv.isOpen_iff, hv.accepts_closed, hv.read_active,
      hv.read_once, hv.current_read, hv.active_stat, hv.current_closed⟩
    have hsub : (v.sessionQueue ++ v.accepts.erase n ++ v.active).Sublist v.places :=
      (List.erase_sublist.append_left _).append_right _
    exact hv.nodup.sublist hsub
  | @receive n packets hcur hread =>
    have he := hv.eraseRead ⟨n, true⟩
    refine ⟨he.nodup, he.connections_eq, he.isOpen_iff, he.accepts_closed, he.read_active,
      he.read_once, ?_, hv.active_stat, ?_⟩
    · intro k ps hk
      obtain ⟨rfl, rfl⟩ := Prod.mk.inj (Option.some.inj hk)
      exact hv.not_mem_erase
    · intro k ps hk hkact
      obtain ⟨rfl, rfl⟩ := Prod.mk.inj (Option.some.inj hk)
      exact absurd (hv.read_active _ hread) hkact
  | @packet n p rest answers _ hcur hpacket =>
    have hrest : View.PoolOk { v with current := some (n, rest) } := hv.nextPacket hcur
    by_cases hconf : v.Confirms n p
    · -- the session closes in its own packet loop, so its read is not outstanding
      rw [hpacket.of_confirms hconf]
      exact (hrest.setConfirm rfl hconf.2).close (hrest.active_of_complete rfl hconf.2)
        (hv.current_read _ _ hcur)
    · refine hrest.of_samePool (hpacket.samePool hconf) ?_ ?_
      · intro k hk
        exact hpacket.stat_ne_wait (fun hp hst => hconf ⟨hp, hst⟩) (hv.active_stat k hk)
      · intro k ps hk hkact
        obtain ⟨rfl, -⟩ := Prod.mk.inj (Option.some.inj hk)
        have hopen : v.isOpen n = false := by
          rw [← Bool.not_eq_true, hv.isOpen_iff]
          exact hkact
        exact hpacket.closed_stat hopen (hv.current_closed _ _ hcur hkact)
  | @receiveEnd n hcur =>
    refine ⟨hv.nodup, hv.connections_eq, hv.isOpen_iff, hv.accepts_closed, ?_, ?_, ?_,
      hv.active_stat, ?_⟩
    · intro k hk
      have hk' : (⟨k, true⟩ : Read) ∈ v.reads ++ [⟨n, v.isOpen n⟩] := hk
      simp only [List.mem_append, List.mem_singleton, Read.mk.injEq] at hk'
      rcases hk' with hk' | ⟨rfl, hopen⟩
      · exact hv.read_active k hk'
      · exact (hv.isOpen_iff k).1 hopen.symm
    · intro k
      have hone := hv.read_once k
      show List.count (⟨k, true⟩ : Read) (v.reads ++ [⟨n, v.isOpen n⟩]) ≤ 1
      rw [List.count_append]
      by_cases hkn : k = n
      · -- the loop ran, so no read of the session was outstanding
        subst hkn
        have hzero : List.count (⟨k, true⟩ : Read) v.reads = 0 :=
          List.count_eq_zero.2 (hv.current_read _ _ hcur)
        have hle := List.count_le_length (a := (⟨k, true⟩ : Read)) (l := [⟨k, v.isOpen k⟩])
        simp only [List.length_singleton] at hle
        omega
      · have hzero : List.count (⟨k, true⟩ : Read) [⟨n, v.isOpen n⟩] = 0 :=
          List.count_eq_zero.2 (by simp [hkn])
        omega
    · intro k ps hk
      cases hk
    · intro k ps hk
      cases hk
  | readFailed _ _ => exact hv.eraseRead _
  | @disconnected n error hcur hread _ =>
    exact (hv.eraseRead ⟨n, true⟩).close (hv.read_active n hread) hv.not_mem_erase
  | timerIdle _ _ | world =>
    exact hv.of_samePool (View.SamePool.of_data fun _ _ hm => hm) hv.active_stat hv.current_closed
  | timerWiden hcur _ hserved =>
    refine hv.of_samePool (View.SamePool.trans ?_ hserved.samePool) ?_ ?_
    · refine View.SamePool.trans ?_ (View.widen_samePool _ _)
      exact View.SamePool.of_data fun _ _ hm => hm
    · intro k hk
      rcases hserved.stat k with hst | ⟨hst, -⟩
      · rw [hst]
        exact hv.active_stat k hk
      · rw [hst]
        simp
    · intro k ps hk
      exact absurd (hk.symm.trans hcur) (by simp)
  | writeDone _ => exact hv

/-- A session stays connected until its read ends with an error, or it confirms a match. -/
lemma ViewStep.connected {v w : View} {e : Event} (h : ViewStep v e w) (hv : v.PoolOk)
    {k : SessionId} (hk : v.Connected k) :
    w.Connected k ∨ (∃ error, e = .receiveError k true error) ∨
      v.Handles e k .matchConfirm ∧ v.stat k = .matchComplete := by
  cases h with
  | startAccept _ _ => exact Or.inl ((View.waitAccept_connected _ k).2 hk)
  | accepted _ _ =>
    refine Or.inl ((View.waitAccept_connected _ k).2 ⟨List.mem_append_left _ hk.1, ?_⟩)
    exact hk.2.imp_left (List.mem_append_left _)
  | acceptFailed _ _ | timerIdle _ _ | writeDone _ | world => exact Or.inl hk
  | receive hcur hread => exact Or.inl ⟨hk.1, (View.beingRead_receive hcur hread k).2 hk.2⟩
  | receiveEnd hcur => exact Or.inl ⟨hk.1, (hv.beingRead_receiveEnd hcur hk.1).2 hk.2⟩
  | @readFailed n live _ _ =>
    by_cases hkn : (⟨k, true⟩ : Read) = ⟨n, live⟩
    · obtain ⟨rfl, rfl⟩ := Read.mk.inj hkn
      exact Or.inr (Or.inl ⟨_, rfl⟩)
    · exact Or.inl ⟨hk.1, hk.2.imp_left (List.mem_erase_of_ne hkn).2⟩
  | @disconnected n error _ _ _ =>
    by_cases hkn : k = n
    · subst hkn
      exact Or.inr (Or.inl ⟨error, rfl⟩)
    · have herased : View.Connected { v with reads := v.reads.erase ⟨n, true⟩ } k :=
        ⟨hk.1, hk.2.imp_left (List.mem_erase_of_ne (by simp [hkn])).2⟩
      exact Or.inl (herased.close hkn)
  | timerWiden _ _ hserved =>
    exact Or.inl ((hserved.samePool.connected k).2 hk)
  | @packet n p rest answers _ hcur hpacket =>
    have hnext : View.Connected { v with current := some (n, rest) } k :=
      ⟨hk.1, (View.beingRead_nextPacket hcur k).2 hk.2⟩
    by_cases hconf : v.Confirms n p
    · by_cases hkn : k = n
      · subst hkn
        obtain ⟨rfl, hst⟩ := hconf
        exact Or.inr (Or.inr ⟨⟨answers, rest, rfl, hcur⟩, hst⟩)
      · rw [hpacket.of_confirms hconf]
        exact Or.inl (View.Connected.close (v := View.setStat _ n .matchConfirm) hnext hkn)
    · exact Or.inl (((hpacket.samePool hconf).connected k).2 hnext)

/-- The pool invariant holds in every reachable state. -/
theorem Reachable.poolOk {s : Server} (h : Reachable s) : s.view.PoolOk :=
  Reachable.view_invariant View.PoolOk.init (fun _ _ _ hv hstep => hstep.poolOk hv) h

/-- **A session object is never shared by two connections.**  No id occurs twice among the
queue, the outstanding accepts and the active connections, an accept is only started on a
closed socket, and `connections` counts the active connections. -/
theorem session_never_shared {s : Server} (h : Reachable s) :
    (s.sessionQueue ++ s.accepts ++ s.active).Nodup ∧
      (∀ n wasOpen, Mark.asyncAccept n wasOpen ∈ s.log → wasOpen = false) ∧
      s.connections = s.active.length :=
  ⟨h.poolOk.nodup, h.poolOk.accepts_closed, h.poolOk.connections_eq⟩

/-- Two sessions: one client connects and leaves, and its session returns to the queue. -/
theorem session_never_shared_after_close :
    ∃ s, run (Boot.plain 2 1 (fun _ => none) ⟨[], []⟩)
        [.acceptDone 0 false, .receive 0 [], .receiveEnd, .receiveError 0 true .eof] = some s ∧
      (s.sessionQueue ++ s.accepts ++ s.active).Nodup ∧
      (∀ n wasOpen, Mark.asyncAccept n wasOpen ∈ s.log → wasOpen = false) ∧
      s.connections = s.active.length := by
  obtain ⟨s, hs⟩ := Option.isSome_iff_exists.1 (show (run (Boot.plain 2 1 (fun _ => none) ⟨[], []⟩)
    [.acceptDone 0 false, .receive 0 [], .receiveEnd, .receiveError 0 true .eof]).isSome by decide)
  exact ⟨s, hs, session_never_shared (reachable_of_run hs)⟩

end ChannelServer
