/-
Friends requests of different users commute.

Each request reads the rows and the number of friends of its own user and, in a search, the login
map, the table `user_info` and what the found session tells about its user.  None of this is
changed by a request of another user, so each request does the same in either order
(`SameRequest`).  The changes of the table `friend_info` are for different rows, and commute up to
the order of the rows (`CappedSet.Counted.step_comm`).
-/
import ChannelServer.Requests
import ChannelServer.LoginMap

namespace ChannelServer

open Resumption CappedSet

/-- What a request of the session `m` reads is the same in both states. -/
structure SameRequest (m : SessionId) (s t : Server) : Prop where
  answers : t.answers = s.answers
  userIdMap : t.userIdMap = s.userIdMap
  userInfo : t.tables.userInfo = s.tables.userInfo
  info : ∀ k, (t.sess k).toUser.info = (s.sess k).toUser.info
  count : (t.sess m).friendsCount = (s.sess m).friendsCount
  friends : ∀ target,
    ((s.sess m).userId, target) ∈ t.tables.friendInfo ↔
      ((s.sess m).userId, target) ∈ s.tables.friendInfo

section SameRequest

variable {s t : Server} {m : SessionId} {q : FriendsRequest}

lemma SameRequest.refl (s : Server) : SameRequest m s s :=
  ⟨rfl, rfl, rfl, fun _ => rfl, rfl, fun _ => Iff.rfl⟩

lemma SameRequest.userId (h : SameRequest m s t) : (t.sess m).userId = (s.sess m).userId :=
  congrArg (·.id) (h.info m)

lemma SameRequest.toTable (h : SameRequest m s t) (op : Op Str) :
    t.toTable m op = s.toTable m op := by
  unfold Server.toTable
  rw [h.userId, h.answers]

lemma SameRequest.borrows (h : SameRequest m s t) : t.borrows m q = s.borrows m q := by
  unfold Server.borrows
  rw [h.count, h.userIdMap]

lemma SameRequest.granted (h : SameRequest m s t) (op : Op Str) :
    (t.listed m).granted 20 (t.toTable m op) = (s.listed m).granted 20 (s.toTable m op) := by
  rw [h.toTable]
  refine Counted.granted_congr ?_ h.count
  cases op <;> exact h.friends _

lemma SameRequest.response (h : SameRequest m s t) : t.response m q = s.response m q := by
  unfold Server.response
  cases q.op with
  | some op =>
    dsimp only
    rw [h.granted]
  | none =>
    simp only [Server.searchAnswer, h.userIdMap, h.info, h.answers, Tables.userRow, h.userInfo]

lemma SameRequest.relisted_count (h : SameRequest m s t) :
    (t.relisted m q).count = (s.relisted m q).count := by
  unfold Server.relisted
  cases q.op with
  | some op =>
    dsimp only
    rw [Counted.step, Counted.step, h.granted, h.toTable]
    have hcount : (t.listed m).count = (s.listed m).count := h.count
    split
    · cases op <;> simp [Counted.change, Server.toTable, Op.map, hcount]
    · exact hcount
  | none => exact h.count

end SameRequest

/-! ### Two requests -/

section Two

variable {s : Server} {n m : SessionId} {p q : FriendsRequest} {a b left : Answers}

lemma toTable_elem (op : Op Str) : (s.toTable n op).op.elem = ((s.sess n).userId, op.elem) := by
  cases op <;> rfl

/-- A request changes rows of its own user only. -/
lemma mem_relisted {u target : Str} (hu : (s.sess n).userId ≠ u) :
    (u, target) ∈ (s.relisted n p).rows ↔ (u, target) ∈ s.tables.friendInfo := by
  unfold Server.relisted
  cases p.op with
  | none => exact Iff.rfl
  | some op =>
    refine Counted.mem_step_of_ne fun heq => hu ?_
    rw [toTable_elem] at heq
    exact congrArg Prod.fst heq

/-- A request does not change what a request of another user reads. -/
lemma sameRequest_requested (hne : (s.sess n).userId ≠ (s.sess m).userId) :
    SameRequest m { s with answers := b }
      { Server.requested { s with answers := a } n p left with answers := b } := by
  have hmn : m ≠ n := by
    rintro rfl
    exact hne rfl
  refine ⟨rfl, rfl, rfl, requested_info, ?_, fun target => ?_⟩
  · dsimp only
    rw [requested_sess_of_ne hmn]
  · exact mem_relisted hne

/-- The queue of connections after a request. -/
lemma requested_connectionQue : (s.requested n p left).connectionQue =
    if s.borrows n p = true then s.connectionQue.rotate 1 else s.connectionQue := rfl

/-- The requests find the connections that they need in the other order, too: each of them takes
the front of the queue, if it needs a connection, and puts it back at the end. -/
lemma servesRequest_swap (left' : Answers) (hne : (s.sess n).userId ≠ (s.sess m).userId)
    (h₁ : Server.ServesRequest { s with answers := a } n p)
    (h₂ : Server.ServesRequest
      { Server.requested { s with answers := a } n p left with answers := b } m q) :
    Server.ServesRequest { s with answers := b } m q ∧ Server.ServesRequest
      { Server.requested { s with answers := b } m q left' with answers := a } n p := by
  have hp : Server.borrows { Server.requested { s with answers := b } m q left' with
      answers := a } n p = Server.borrows { s with answers := a } n p :=
    (sameRequest_requested hne.symm).borrows
  have hq : Server.borrows { Server.requested { s with answers := a } n p left with
      answers := b } m q = Server.borrows { s with answers := b } m q :=
    (sameRequest_requested hne).borrows
  refine ⟨⟨fun hborrows => ?_, h₂.map⟩, ⟨fun hborrows => ?_, h₁.map⟩⟩
  · have hserves := h₂.connection (hq.trans hborrows)
    refine ⟨hserves.free, hserves.patience, ?_⟩
    by_cases hfirst : Server.borrows { s with answers := a } n p = true
    · exact (h₁.connection hfirst).front
    · have hfront := hserves.front
      simp only [requested_connectionQue, if_neg hfirst] at hfront
      exact hfront
  · have hfirst := hp.symm.trans hborrows
    have hserves := h₁.connection hfirst
    refine ⟨hserves.free, hserves.patience, ?_⟩
    by_cases hsecond : Server.borrows { s with answers := b } m q = true
    · have hfront := (h₂.connection (hq.trans hsecond)).front
      simp only [requested_connectionQue, if_pos hfirst] at hfront
      simp only [requested_connectionQue, if_pos hsecond]
      exact hfront
    · simp only [requested_connectionQue, if_neg hsecond]
      exact hserves.front

/-- The change that a request makes to any rows of the table. -/
def Server.changeRows (s : Server) (n : SessionId) (p : FriendsRequest)
    (rows : List (Str × Str)) : List (Str × Str) :=
  match p.op with
  | some op => (Counted.step 20 ⟨rows, (s.sess n).friendsCount⟩ (s.toTable n op)).rows
  | none => rows

lemma SameRequest.relisted_rows {t : Server} (h : SameRequest m s t) :
    (t.relisted m q).rows = s.changeRows m q t.tables.friendInfo := by
  unfold Server.relisted Server.changeRows
  cases q.op with
  | some op =>
    dsimp only
    rw [h.toTable, Server.listed, h.count]
  | none => rfl

/-- Requests of different users change different rows. -/
lemma changeRows_comm {t : Server} (hne : (s.sess n).userId ≠ (t.sess m).userId)
    (rows : List (Str × Str)) :
    (t.changeRows m q (s.changeRows n p rows)).Perm (s.changeRows n p (t.changeRows m q rows)) := by
  unfold Server.changeRows
  cases p.op with
  | none => exact List.Perm.refl _
  | some op =>
    cases q.op with
    | none => exact List.Perm.refl _
    | some op' =>
      refine Counted.step_comm fun heq => hne ?_
      rw [toTable_elem, toTable_elem] at heq
      exact congrArg Prod.fst heq

/-- The session that makes the first request keeps what it has got. -/
lemma second_sess_first {last : Answers} (hne : (s.sess n).userId ≠ (s.sess m).userId) :
    (Server.requested { Server.requested { s with answers := a } n p left with
      answers := b } m q last).sess n = { s.sess n with
        friendsCount := (Server.relisted { s with answers := a } n p).count
        send := (s.sess n).send.push ⟨s.heap, Server.response { s with answers := a } n p⟩ } := by
  have hnm : n ≠ m := by
    rintro rfl
    exact hne rfl
  rw [requested_sess_of_ne hnm]
  exact requested_sess_self

/-- The second request does what it does alone, with the next buffer. -/
lemma second_sess_second {last : Answers} (hne : (s.sess n).userId ≠ (s.sess m).userId) :
    (Server.requested { Server.requested { s with answers := a } n p left with
      answers := b } m q last).sess m = { s.sess m with
        friendsCount := (Server.relisted { s with answers := b } m q).count
        send := (s.sess m).send.push
          ⟨s.heap + 1, Server.response { s with answers := b } m q⟩ } := by
  have hmn : m ≠ n := by
    rintro rfl
    exact hne rfl
  have hsame : SameRequest m { s with answers := b }
      { Server.requested { s with answers := a } n p left with answers := b } :=
    sameRequest_requested hne
  have hm : (Server.requested { s with answers := a } n p left).sess m = s.sess m :=
    requested_sess_of_ne hmn
  rw [requested_sess_self, hsame.response, hsame.relisted_count]
  dsimp only
  rw [hm]
  rfl

lemma second_friendInfo {last : Answers} (hne : (s.sess n).userId ≠ (s.sess m).userId) :
    (Server.requested { Server.requested { s with answers := a } n p left with
      answers := b } m q last).tables.friendInfo =
      Server.changeRows { s with answers := b } m q
        (Server.changeRows { s with answers := a } n p s.tables.friendInfo) := by
  have hsame : SameRequest m { s with answers := b }
      { Server.requested { s with answers := a } n p left with answers := b } :=
    sameRequest_requested hne
  refine hsame.relisted_rows.trans (congrArg _ ?_)
  exact (SameRequest.refl { s with answers := a }).relisted_rows

/-- What two orders of the same requests have in common: `t` and `t'` are the states after them.
The messages are the same; only the addresses of their buffers differ. -/
structure SameOutcome (s : Server) (n m : SessionId) (t t' : Server) : Prop where
  friendInfo : t'.tables.friendInfo.Perm t.tables.friendInfo
  userInfo : t'.tables.userInfo = t.tables.userInfo
  friendsCount : ∀ k, (t'.sess k).friendsCount = (t.sess k).friendsCount
  userIdMap : t'.userIdMap = t.userIdMap
  answers : ∃ r r' : Message,
    (t.sess n).send = (s.sess n).send.push ⟨s.heap, r⟩ ∧
    (t.sess m).send = (s.sess m).send.push ⟨s.heap + 1, r'⟩ ∧
    (t'.sess m).send = (s.sess m).send.push ⟨s.heap, r'⟩ ∧
    (t'.sess n).send = (s.sess n).send.push ⟨s.heap + 1, r⟩ ∧
    (t.sess n).send.queue = (s.sess n).send.queue ++ [⟨s.heap, r⟩] ∧
    (t.sess m).send.queue = (s.sess m).send.queue ++ [⟨s.heap + 1, r'⟩] ∧
    (t'.sess m).send.queue = (s.sess m).send.queue ++ [⟨s.heap, r'⟩] ∧
    (t'.sess n).send.queue = (s.sess n).send.queue ++ [⟨s.heap + 1, r⟩]
  others : ∀ k, k ≠ n → k ≠ m → t.sess k = s.sess k ∧ t'.sess k = s.sess k

/-- The states after both requests, in either order. -/
lemma sameOutcome_requested {left' last last' : Answers}
    (hne : (s.sess n).userId ≠ (s.sess m).userId) :
    SameOutcome s n m
      (Server.requested { Server.requested { s with answers := a } n p left with
        answers := b } m q last)
      (Server.requested { Server.requested { s with answers := b } m q left' with
        answers := a } n p last') where
  friendInfo := by
    have hcomm := changeRows_comm (s := { s with answers := b }) (t := { s with answers := a })
      (p := q) (q := p) hne.symm s.tables.friendInfo
    exact (List.Perm.of_eq (second_friendInfo hne.symm)).trans
      (hcomm.trans (List.Perm.of_eq (second_friendInfo hne).symm))
  userInfo := rfl
  friendsCount k := by
    by_cases hkn : k = n
    · subst hkn
      rw [second_sess_first hne, second_sess_second hne.symm]
    · by_cases hkm : k = m
      · subst hkm
        rw [second_sess_second hne, second_sess_first hne.symm]
      · rw [requested_sess_of_ne hkm, requested_sess_of_ne hkn]
        dsimp only
        rw [requested_sess_of_ne hkn, requested_sess_of_ne hkm]
  userIdMap := rfl
  answers := by
    refine ⟨Server.response { s with answers := a } n p,
      Server.response { s with answers := b } m q, ?_, ?_, ?_, ?_, ?_, ?_, ?_, ?_⟩
    · rw [second_sess_first hne]
    · rw [second_sess_second hne]
    · rw [second_sess_first hne.symm]
    · rw [second_sess_second hne.symm]
    · rw [second_sess_first hne, SendQueue.queue_push]
    · rw [second_sess_second hne, SendQueue.queue_push]
    · rw [second_sess_first hne.symm, SendQueue.queue_push]
    · rw [second_sess_second hne.symm, SendQueue.queue_push]
  others k hkn hkm := by
    constructor
    · rw [requested_sess_of_ne hkm]
      exact requested_sess_of_ne hkn
    · rw [requested_sess_of_ne hkn]
      exact requested_sess_of_ne hkm

end Two

/-- **Friends requests of different users commute.**  When two requests on sessions with different
user ids end in one order, they end in the other order as well, with the same answers of the
outside for each of them, and with the same rows, numbers of friends and login map; each session
is sent the same message in both orders, and no other session is changed. -/
theorem friend_requests_commute {s s₁ s₁₂ : Server} {n m : SessionId} {p q : FriendsRequest}
    {a b : Answers} (hne : (s.sess n).userId ≠ (s.sess m).userId)
    (h₁ : (processFriendsFunction n p).run { s with answers := a } = .done () s₁)
    (h₁₂ : (processFriendsFunction m q).run { s₁ with answers := b } = .done () s₁₂) :
    ∃ s₂ s₂₁, (processFriendsFunction m q).run { s with answers := b } = .done () s₂ ∧
      (processFriendsFunction n p).run { s₂ with answers := a } = .done () s₂₁ ∧
      SameOutcome s n m s₁₂ s₂₁ := by
  obtain ⟨left, rfl⟩ := processFriendsFunction_eq_done h₁
  obtain ⟨last, rfl⟩ := processFriendsFunction_eq_done h₁₂
  have hserves := fun left' => servesRequest_swap left' hne (servesRequest_of_done h₁)
    (servesRequest_of_done h₁₂)
  obtain ⟨left', h₂⟩ := processFriendsFunction_run (hserves left).1
  obtain ⟨last', h₂₁⟩ := processFriendsFunction_run (hserves left').2
  exact ⟨_, _, h₂, h₂₁, sameOutcome_requested hne⟩

/-- The users `a` and `b` add each other. -/
theorem friend_requests_commute_each_other :
    ∃ s s₁₂ s₂ s₂₁, Reachable s ∧ s.userIdMap (lit "a") = some 0 ∧ s.userIdMap (lit "b") = some 1 ∧
      s₁₂.tables.friendInfo = [(lit "a", lit "b"), (lit "b", lit "a")] ∧
      (processFriendsFunction 1 ⟨.add, lit "a"⟩).run { s with answers := ⟨[], [], 1⟩ } =
        .done () s₂ ∧
      (processFriendsFunction 0 ⟨.add, lit "b"⟩).run { s₂ with answers := ⟨[], [], 1⟩ } =
        .done () s₂₁ ∧ SameOutcome s 0 1 s₁₂ s₂₁ := by
  have hrun : (run twoUsers [.acceptDone 0 false, .acceptDone 1 false,
      .receive 0 [.joinReq ⟨lit "ta", lit "a"⟩], .packet ⟨[], [], 1⟩, .receiveEnd,
      .receive 1 [.joinReq ⟨lit "tb", lit "b"⟩], .packet ⟨[], [], 1⟩, .receiveEnd]).bind (fun s =>
      ((processFriendsFunction 0 ⟨.add, lit "b"⟩).run
        { s with answers := ⟨[], [], 1⟩ }).result.bind fun r₁ =>
      ((processFriendsFunction 1 ⟨.add, lit "a"⟩).run
        { r₁.2 with answers := ⟨[], [], 1⟩ }).result.map fun r₁₂ =>
          ((s.userIdMap (lit "a"), s.userIdMap (lit "b")), r₁₂.2.tables.friendInfo,
            decide ((s.sess 0).userId ≠ (s.sess 1).userId))) =
      some ((some 0, some 1), [(lit "a", lit "b"), (lit "b", lit "a")], true) := by
    decide
  obtain ⟨s, hs, hrun⟩ := Option.bind_eq_some_iff.1 hrun
  obtain ⟨⟨_, s₁⟩, h₁, hrun⟩ := Option.bind_eq_some_iff.1 hrun
  obtain ⟨⟨_, s₁₂⟩, h₁₂, hrun⟩ := Option.map_eq_some_iff.1 hrun
  obtain ⟨hmap, hrun⟩ := Prod.mk.inj hrun
  obtain ⟨hrows, hne⟩ := Prod.mk.inj hrun
  obtain ⟨hmap₀, hmap₁⟩ := Prod.mk.inj hmap
  obtain ⟨s₂, s₂₁, h₂, h₂₁, hsame⟩ := friend_requests_commute (of_decide_eq_true hne)
    (Out.result_eq_some.1 h₁) (Out.result_eq_some.1 h₁₂)
  exact ⟨s, s₁₂, s₂, s₂₁, reachable_of_run hs, hmap₀, hmap₁, hrows, h₂, h₂₁, hsame⟩

end ChannelServer
