/-
Searching for users who are online, and for users who are not.

`search_user` reads the record of an online user from the session that the login map names, and the
record of any other user from the table `user_info`.  The session has a copy of the row that its
user had at the login.  `LoginRun` is a run together with these rows, and `LoginRun.info` says that
the copy of an online user is faithful, as long as nobody else logs in on the same session: such a
login overwrites the copy, and leaves the entry of the first user in the map.
-/
import ChannelServer.Stores

namespace ChannelServer

open Resumption

/-- Nobody logs in on the session on which the user `u` is logged in. -/
def Server.KeepsLogin (u : Str) (s : Server) (e : Event) : Prop :=
  ∀ n id, s.Grants e n id → s.userIdMap u ≠ some n

/-- A run, with the row that each user had at its last login. -/
inductive LoginRun (ok : Server → Event → Prop) : (Str → Option UserRow) → Server → Prop
  | start {s : Server} (h : Initial s) : LoginRun ok (fun _ => none) s
  | login {rows : Str → Option UserRow} {s s' : Server} {e : Event} {n : SessionId} {id : Str}
      (h : LoginRun ok rows s) (hok : ok s e) (hs : Step s e s')
      (hjoined : s'.log = .joined n id :: s.log) :
      LoginRun ok (Function.update rows id (s.tables.userRow id)) s'
  | other {rows : Str → Option UserRow} {s s' : Server} {e : Event}
      (h : LoginRun ok rows s) (hok : ok s e) (hs : Step s e s')
      (hlogin : ∀ n id, s'.log ≠ .joined n id :: s.log) : LoginRun ok rows s'

section Runs

variable {ok : Server → Event → Prop} {rows : Str → Option UserRow} {s : Server} {u : Str}

/-- Every run has its rows. -/
lemma exists_loginRun (h : ReachedBy ok s) : ∃ rows, LoginRun ok rows s := by
  induction h with
  | start h => exact ⟨_, .start h⟩
  | @step s s' e _ hok hs ih =>
    obtain ⟨rows, hrows⟩ := ih
    by_cases hlogin : ∃ n id, s'.log = .joined n id :: s.log
    · obtain ⟨n, id, hjoined⟩ := hlogin
      exact ⟨_, .login hrows hok hs hjoined⟩
    · exact ⟨_, .other hrows hok hs fun n id hjoined => hlogin ⟨n, id, hjoined⟩⟩

/-- A step without a login adds no entry to the login map. -/
lemma Step.map_of_noLogin {s' : Server} {e : Event} {k : SessionId} (h : Step s e s')
    (hlogin : ∀ n id, s'.log ≠ .joined n id :: s.log) (hk : s'.userIdMap u = some k) :
    s.userIdMap u = some k := by
  rcases h.stores with hsheds | ⟨redis, tables, rfl⟩ | ⟨n, id, row, hlog, -⟩
  · rcases hsheds.userIdMap u with hsame | hnone
    · exact hsame.symm.trans hk
    · exact absurd (hnone.symm.trans hk) (by simp)
  · obtain ⟨t, hprep, hrun⟩ := step_iff.1 h
    obtain rfl := Option.some.inj hprep
    obtain ⟨-, rfl⟩ := Out.done.inj hrun
    exact hk
  · exact absurd hlog (hlogin n id)

/-- **The copy of an online user.**  The session that the login map names for a user has the
record of the row that this user had at its last login. -/
lemma LoginRun.info (h : LoginRun (Server.KeepsLogin u) rows s) {k : SessionId}
    (hk : s.userIdMap u = some k) :
    ∃ row, rows u = some row ∧ (s.sess k).toUser.info = row.info u := by
  induction h generalizing k with
  | start h =>
    obtain ⟨b, hv⟩ := h.view_eq
    obtain ⟨flag, queue, accepts, new, -, hw⟩ := (Boot.init b).view.waitAccept_eq
    have hnone := congrArg (fun v : View => v.userIdMap u) (hv.trans hw)
    exact absurd (hk.symm.trans hnone) (by simp [Server.view, Boot.init])
  | @login rows s s' e n id _ hok hs hjoined ih =>
    obtain ⟨row, hgrants, ⟨token, hgranted⟩, -, -⟩ := hs.logsIn hjoined
    rw [hgranted.userIdMap] at hk
    by_cases hu : u = id
    · subst hu
      rw [Function.update_self] at hk
      obtain rfl := Option.some.inj hk
      refine ⟨row, by rw [Function.update_self, hgranted.found], ?_⟩
      rw [hgranted.user]
      rfl
    · rw [Function.update_of_ne hu] at hk ⊢
      obtain ⟨row', hrow', hinfo⟩ := ih hk
      -- the login is on another session
      have hkn : k ≠ n := by
        rintro rfl
        exact hok k id hgrants hk
      refine ⟨row', hrow', ?_⟩
      rw [hs.info fun id' hjoined' => hkn ?_, hinfo]
      exact (Mark.joined.inj (List.cons.inj (hjoined'.symm.trans hjoined)).1).1
  | other _ _ hs hlogin ih =>
    obtain ⟨row, hrow, hinfo⟩ := ih (hs.map_of_noLogin hlogin hk)
    exact ⟨row, hrow, (hs.info (hlogin k)).trans hinfo⟩

end Runs

/-! ### The answers -/

section Answers

variable {s s' : Server} {n k : SessionId} {u : Str} {b : Bool}

/-- A search is answered from the state before it. -/
lemma searchUser_send (h : (searchUser n u).run s = .done b s') :
    (s'.sess n).send = (s.sess n).send.push ⟨s.heap, s.searchAnswer u⟩ := by
  have hrun : (processFriendsFunction n ⟨.search, u⟩).run s = .done () s' :=
    Prog.run_bind_eq_done.2 ⟨b, s', h, rfl⟩
  obtain ⟨left, rfl⟩ := processFriendsFunction_eq_done hrun
  rw [requested_sess_self]
  rfl

lemma searchAnswer_online (hk : s.userIdMap u = some k) :
    s.searchAnswer u = .friendsAns .searchSuccess (s.sess k).toUser.info (some true) := by
  simp only [Server.searchAnswer, hk]

lemma searchAnswer_offline {row : UserRow} (hnone : s.userIdMap u = none)
    (hok : s.answers.fails = false) (hrow : s.tables.userRow u = some row) :
    s.searchAnswer u = .friendsAns .searchSuccess (row.info u) (some false) := by
  simp only [Server.searchAnswer, hnone, hok, hrow, Bool.false_eq_true, if_false]

end Answers

/-- **Online and offline search agree.**  In a run in which nobody logs in on the session of an
online user, whose row is the one that it had at its login: the answer to a search for this user is
the answer that is read from the database when the user has no entry in the login map, but for the
flag.  Both carry the record of this row; its number of games is the sum of wins and losses as long
as this is a value of an `int`. -/
theorem search_agrees {u : Str} {rows : Str → Option UserRow} {s : Server}
    (h : LoginRun (Server.KeepsLogin u) rows s) {k : SessionId} (hk : s.userIdMap u = some k)
    (hrow : s.tables.userRow u = rows u) :
    ∃ info : UserInfo, (∃ row, rows u = some row ∧ info = row.info u) ∧ info.id = u ∧
      (info.history.totalGames = info.history.win + info.history.lose ↔
        IsInt32 (info.history.win + info.history.lose)) ∧
      (∀ n answers b s', (searchUser n u).run { s with answers := answers } = .done b s' →
        (s'.sess n).send =
            (s.sess n).send.push ⟨s.heap, .friendsAns .searchSuccess info (some true)⟩ ∧
          (s'.sess n).send.queue =
            (s.sess n).send.queue ++ [⟨s.heap, .friendsAns .searchSuccess info (some true)⟩]) ∧
      ∀ n answers b s', answers.fails = false →
        (searchUser n u).run { s with
          answers := answers
          userIdMap := Function.update s.userIdMap u none } = .done b s' →
        (s'.sess n).send =
            (s.sess n).send.push ⟨s.heap, .friendsAns .searchSuccess info (some false)⟩ ∧
          (s'.sess n).send.queue =
            (s.sess n).send.queue ++ [⟨s.heap, .friendsAns .searchSuccess info (some false)⟩] := by
  obtain ⟨row, hlast, hinfo⟩ := h.info hk
  rw [hlast] at hrow
  refine ⟨row.info u, ⟨row, hlast, rfl⟩, rfl, row.totalGames_eq_iff, fun n answers b s' hrun => ?_,
    fun n answers b s' hok hrun => ?_⟩
  · have honline := searchAnswer_online (s := { s with answers := answers }) hk
    have hsend := searchUser_send hrun
    rw [honline, hinfo] at hsend
    exact ⟨hsend, by rw [hsend, SendQueue.queue_push]⟩
  · have hoffline := searchAnswer_offline (s := { s with
        answers := answers
        userIdMap := Function.update s.userIdMap u none }) (Function.update_self _ _ _) hok hrow
    have hsend := searchUser_send hrun
    rw [hoffline] at hsend
    exact ⟨hsend, by rw [hsend, SendQueue.queue_push]⟩

/-! ### Two users -/

/-- The events before a client logs in, first as `a` and then as `b`. -/
private def beforeLogin : List Event :=
  [.acceptDone 0 false, .receive 0 [.joinReq ⟨lit "ta", lit "a"⟩, .joinReq ⟨lit "tb", lit "b"⟩]]

/-- A client logs in as `a` and then, on the same connection, as `b`: whoever searches for `a` is
told the record of `b`, while the row of `a` has not changed. -/
theorem search_finds_other_user :
    ∃ rows s b s' b' t, LoginRun (fun _ _ => True) rows s ∧ s.userIdMap (lit "a") = some 0 ∧
      s.tables.userRow (lit "a") = rows (lit "a") ∧
      (searchUser 1 (lit "a")).run { s with answers := ⟨[], [], 1⟩ } = .done b s' ∧
      (s'.sess 1).send = (s.sess 1).send.push
        ⟨s.heap, .friendsAns .searchSuccess ⟨⟨250, 2, 0, 2⟩, lit "b"⟩ (some true)⟩ ∧
      (searchUser 1 (lit "a")).run { s with
        answers := ⟨[], [], 1⟩
        userIdMap := Function.update s.userIdMap (lit "a") none } = .done b' t ∧
      (t.sess 1).send = (s.sess 1).send.push
        ⟨s.heap, .friendsAns .searchSuccess ⟨⟨350, 4, 3, 1⟩, lit "a"⟩ (some false)⟩ := by
  have hrun : ((run twoUsers beforeLogin).bind fun s₀ =>
      (next s₀ (.packet ⟨[], [], 1⟩)).bind fun s₁ =>
      (next s₁ (.packet ⟨[], [], 1⟩)).bind fun s =>
      ((searchUser 1 (lit "a")).run { s with answers := ⟨[], [], 1⟩ }).result.bind fun r =>
      ((searchUser 1 (lit "a")).run { s with
        answers := ⟨[], [], 1⟩
        userIdMap := Function.update s.userIdMap (lit "a") none }).result.map fun q =>
      decide ((s₁.log = .joined 0 (lit "a") :: s₀.log ∧ s.log = .joined 0 (lit "b") :: s₁.log) ∧
        (s.userIdMap (lit "a") = some 0 ∧
          s.tables.userRow (lit "a") = s₀.tables.userRow (lit "a")) ∧
        (r.2.sess 1).send = (s.sess 1).send.push
          ⟨s.heap, .friendsAns .searchSuccess ⟨⟨250, 2, 0, 2⟩, lit "b"⟩ (some true)⟩ ∧
        (q.2.sess 1).send = (s.sess 1).send.push
          ⟨s.heap, .friendsAns .searchSuccess ⟨⟨350, 4, 3, 1⟩, lit "a"⟩ (some false)⟩)) =
        some true := by decide
  obtain ⟨s₀, h₀, hrun⟩ := Option.bind_eq_some_iff.1 hrun
  obtain ⟨s₁, h₁, hrun⟩ := Option.bind_eq_some_iff.1 hrun
  obtain ⟨s, h₂, hrun⟩ := Option.bind_eq_some_iff.1 hrun
  obtain ⟨⟨b, s'⟩, hr, hrun⟩ := Option.bind_eq_some_iff.1 hrun
  obtain ⟨⟨b', t⟩, hq, heq⟩ := Option.map_eq_some_iff.1 hrun
  obtain ⟨⟨ha, hb⟩, ⟨hmap, hrow⟩, honline, hoffline⟩ := of_decide_eq_true heq
  obtain ⟨rows, hrows⟩ := exists_loginRun (reachable_of_run h₀)
  have hlogin := LoginRun.login hrows trivial (step_of_next h₁) ha
  refine ⟨_, s, b, s', b', t, .login hlogin trivial (step_of_next h₂) hb, hmap, ?_,
    Out.result_eq_some.1 hr, honline, Out.result_eq_some.1 hq, hoffline⟩
  have hne : lit "a" ≠ lit "b" := by decide
  rw [Function.update_of_ne hne, Function.update_self, hrow]

/-- The condition on the steps as a computation, for events without packets. -/
private def noPacketTest (_ : Server) : Event → Bool
  | .packet _ => false
  | _ => true

/-- A client logs in as `a`. -/
theorem search_agrees_one_login :
    ∃ rows s, LoginRun (Server.KeepsLogin (lit "a")) rows s ∧ s.userIdMap (lit "a") = some 0 ∧
      ∃ info : UserInfo, (∃ row, rows (lit "a") = some row ∧ info = row.info (lit "a")) ∧
        info.id = lit "a" ∧
        (info.history.totalGames = info.history.win + info.history.lose ↔
          IsInt32 (info.history.win + info.history.lose)) ∧
        (∀ n answers b s', (searchUser n (lit "a")).run { s with answers := answers } =
            .done b s' →
          (s'.sess n).send =
              (s.sess n).send.push ⟨s.heap, .friendsAns .searchSuccess info (some true)⟩ ∧
            (s'.sess n).send.queue =
              (s.sess n).send.queue ++ [⟨s.heap, .friendsAns .searchSuccess info (some true)⟩]) ∧
        ∀ n answers b s', answers.fails = false →
          (searchUser n (lit "a")).run { s with
            answers := answers
            userIdMap := Function.update s.userIdMap (lit "a") none } = .done b s' →
          (s'.sess n).send =
              (s.sess n).send.push ⟨s.heap, .friendsAns .searchSuccess info (some false)⟩ ∧
            (s'.sess n).send.queue = (s.sess n).send.queue ++
              [⟨s.heap, .friendsAns .searchSuccess info (some false)⟩] := by
  have hrun : ((runIf noPacketTest twoUsers beforeLogin).bind fun s₀ =>
      (next s₀ (.packet ⟨[], [], 1⟩)).map fun s =>
      decide (s.log = .joined 0 (lit "a") :: s₀.log ∧ s.userIdMap (lit "a") = some 0 ∧
        s₀.userIdMap (lit "a") = none ∧
        s.tables.userRow (lit "a") = s₀.tables.userRow (lit "a"))) = some true := by decide
  obtain ⟨s₀, h₀, hrun⟩ := Option.bind_eq_some_iff.1 hrun
  obtain ⟨s, h₁, heq⟩ := Option.map_eq_some_iff.1 hrun
  obtain ⟨hlog, hmap, hnone, hrow⟩ := of_decide_eq_true heq
  have hok : ∀ s e, noPacketTest s e = true → s.KeepsLogin (lit "a") e := by
    rintro s e htest n id ⟨answers, message, rest, rfl, -⟩
    cases htest
  obtain ⟨rows, hrows⟩ := exists_loginRun (reachedBy_of_runIf hok h₀)
  have hkeeps : s₀.KeepsLogin (lit "a") (.packet ⟨[], [], 1⟩) := fun n id _ hn => by
    rw [hnone] at hn
    cases hn
  have hlogin := LoginRun.login hrows hkeeps (step_of_next h₁) hlog
  refine ⟨_, s, hlogin, hmap, search_agrees hlogin hmap ?_⟩
  rw [Function.update_self, hrow]

end ChannelServer
