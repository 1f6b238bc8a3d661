/-
What a login request leaves behind.

`lobby_login_process` writes in several places, one after another, and can give up in between:
the socket is closed, the token admits nobody, the user has no row, the friend list cannot be read.
`LoginRefused` says that in all these cases nothing is left half-changed, and `LoginGranted` what a
login that succeeds has written.  Both are read off the ends of the function in
`ChannelServer/Calls.lean`.
-/
import ChannelServer.LoginMap
import ChannelServer.Sending

namespace ChannelServer

open Resumption

/-- What a login request that is answered with `false` leaves behind. -/
structure LoginRefused (n : SessionId) (token : Str) (s s' : Server) : Prop where
  userIdMap : s'.userIdMap = s.userIdMap
  matchingQue : s'.matchingQue = s.matchingQue
  tables : s'.tables = s.tables
  others : ∀ k, k ≠ n → s'.sess k = s.sess k
  user : (s'.sess n).toUser = (s.sess n).toUser
  sessionToken : (s'.sess n).token = (s.sess n).token
  roomKey : (s'.sess n).roomKey = (s.sess n).roomKey
  stat : (s'.sess n).stat = (s.sess n).stat ∨ (s'.sess n).stat = .logout
  /-- The token is removed only when its user is offline and has no row that could be read. -/
  redis : s'.redis = s.redis ∨
    s'.redis = Function.update s.redis token none ∧ ∃ id, s.redis token = some id ∧
      s.userIdMap id = none ∧ (s.answers.fails = true ∨ s.tables.userRow id = none)
  answer : (s.sess n).isOpen = true → ∃ history,
    (s'.sess n).send = (s.sess n).send.push ⟨s.heap, .joinAns false history []⟩ ∧
      (s'.sess n).send.queue = (s.sess n).send.queue ++ [⟨s.heap, .joinAns false history []⟩]
  closed : (s.sess n).isOpen = false → s' = s

/-- What a login request that is answered with `true` has written. -/
structure LoginGranted (n : SessionId) (token id : Str) (row : UserRow) (s s' : Server) : Prop where
  admitted : s.redis token = some id
  offline : s.userIdMap id = none
  found : s.tables.userRow id = some row
  userIdMap : s'.userIdMap = Function.update s.userIdMap id (some n)
  user : (s'.sess n).toUser =
    ⟨row.rating.toInt, row.totalGames.toInt, row.win.toInt, row.lose.toInt,
      (s.tables.friends id).length, id⟩
  /-- The number of games is a sum in the type `int`. -/
  games : (s'.sess n).battleHistory = row.win.toInt + row.lose.toInt ↔
    IsInt32 (row.win.toInt + row.lose.toInt)
  sessionToken : (s'.sess n).token = token

section Outcome

variable {s s' : Server} {n : SessionId} {token : Str}

/-- The answer `false`, after the status and the token may have changed. -/
lemma LoginRefused.of_sent {que : List ℕ} {answers : Answers} {stat : Status}
    {redis : Str → Option Str} {history : Option (Option GameHistory)}
    (hopen : (s.sess n).isOpen = true) (hstat : stat = (s.sess n).stat ∨ stat = .logout)
    (hredis : redis = s.redis ∨ redis = Function.update s.redis token none ∧
      ∃ id, s.redis token = some id ∧ s.userIdMap id = none ∧
        (s.answers.fails = true ∨ s.tables.userRow id = none)) :
    LoginRefused n token s (Server.sent
      { (s.withDb que answers s.tables).setSess n { s.sess n with stat := stat } with
        redis := redis } n (.joinAns false history [])) where
  userIdMap := rfl
  matchingQue := rfl
  tables := rfl
  others k hk := by simp [Server.sent, Server.setSess, Server.withDb, hk]
  user := by simp [Server.sent, Server.setSess]
  sessionToken := by simp [Server.sent, Server.setSess]
  roomKey := by simp [Server.sent, Server.setSess]
  stat := by simpa [Server.sent, Server.setSess] using hstat
  redis := hredis
  answer _ := by
    have hsend : ((Server.sent { (s.withDb que answers s.tables).setSess n
        { s.sess n with stat := stat } with redis := redis } n
          (.joinAns false history [])).sess n).send =
        (s.sess n).send.push ⟨s.heap, .joinAns false history []⟩ := by
      simp [Server.sent, Server.setSess, Server.withDb]
      rfl
    exact ⟨history, hsend, by rw [hsend, SendQueue.queue_push]⟩
  closed h := absurd hopen (by simp [h])

/-- The same when the status is kept. -/
lemma LoginRefused.of_kept (que : List ℕ) (answers : Answers) {redis : Str → Option Str}
    {history : Option (Option GameHistory)} (hopen : (s.sess n).isOpen = true)
    (hredis : redis = s.redis ∨ redis = Function.update s.redis token none ∧
      ∃ id, s.redis token = some id ∧ s.userIdMap id = none ∧
        (s.answers.fails = true ∨ s.tables.userRow id = none)) :
    LoginRefused n token s (Server.sent { s.withDb que answers s.tables with redis := redis } n
      (.joinAns false history [])) := by
  have hsame : (s.withDb que answers s.tables).setSess n
      { s.sess n with stat := (s.sess n).stat } = s.withDb que answers s.tables := by
    simp [Server.setSess, Server.withDb]
  rw [← hsame]
  exact .of_sent hopen (Or.inl rfl) hredis

lemma LoginRefused.of_closed (hopen : (s.sess n).isOpen = false) : LoginRefused n token s s where
  userIdMap := rfl
  matchingQue := rfl
  tables := rfl
  others _ _ := rfl
  user := rfl
  sessionToken := rfl
  roomKey := rfl
  stat := Or.inl rfl
  redis := Or.inl rfl
  answer h := absurd h (by simp [hopen])
  closed _ := rfl

/-- The end of the login of an admitted user. -/
lemma LoginEnd.outcome {id : Str} {b : Bool} (hopen : (s.sess n).isOpen = true)
    (hkv : s.redis token = some id) (hid : s.userIdMap id = none)
    (h : LoginEnd n token id (s.tables.userRow id) (s.tables.friends id) s b s') :
    (b = false ∧ LoginRefused n token s s') ∨
      (b = true ∧ ∃ row, LoginGranted n token id row s s') := by
  cases h with
  | noRow ht hnone =>
    obtain ⟨que, answers, -, rfl⟩ := ht
    exact Or.inl ⟨rfl, .of_kept que answers hopen (Or.inr ⟨rfl, id, hkv, hid, hnone⟩)⟩
  | noList ht _ _ _ =>
    obtain ⟨que, answers, -, rfl⟩ := ht
    exact Or.inl ⟨rfl, .of_kept que answers hopen (Or.inl rfl)⟩
  | @joined t row ht _ _ hrow =>
    obtain ⟨que, answers, -, rfl⟩ := ht
    refine Or.inr ⟨rfl, row, hkv, hid, hrow, ?_, ?_, ?_, ?_⟩
    · simp [Server.sent, Server.loggedIn, Server.setSess, Server.withDb, hid]
    · simp [Server.sent, Server.loggedIn, Server.setSess]
    · simpa [Server.sent, Server.loggedIn, Server.setSess] using row.totalGames_eq_iff
    · simp [Server.sent, Server.loggedIn, Server.setSess]

/-- **A failed login is confined.**  When `lobby_login_process` returns `false`, the login map, the
queues, the database and all sessions are as before, except for the status of the requesting
session, which may have become `LOGOUT`, and for the one answer that it is sent.  When it returns
`true`, one entry was added for a user that had none, and the session carries the values of the
token and of the rows. -/
theorem failed_login_confined {message : JoinRequest} {b : Bool}
    (h : (lobbyLoginProcess n message).run s = .done b s') :
    (b = false → LoginRefused n message.token s s') ∧
      (b = true → ∃ id row, LoginGranted n message.token id row s s') := by
  cases lobbyLoginProcess_eq_done h with
  | closed hopen => exact ⟨fun _ => .of_closed hopen, fun hb => by cases hb⟩
  | refused hopen _ =>
    have hrefused : LoginRefused n message.token s ((s.setSess n { s.sess n with
        stat := .logout }).sent n (.joinAns false none [])) :=
      .of_sent hopen (Or.inr rfl) (Or.inl rfl)
    exact ⟨fun _ => hrefused, fun hb => by cases hb⟩
  | admitted hopen hkv hid hend =>
    rcases hend.outcome hopen hkv hid with ⟨rfl, hrefused⟩ | ⟨rfl, row, hgranted⟩
    · exact ⟨fun _ => hrefused, fun hb => by cases hb⟩
    · exact ⟨fun hb => (by cases hb), fun _ => ⟨_, row, hgranted⟩⟩

end Outcome

/-- A client that presents the token of `a` is refused when the first statement fails, and loses
the token; when the statements succeed, it is logged in. -/
theorem failed_login_confined_two_outcomes :
    ∃ s s₁ s₂, Reachable s ∧ s₁.redis (lit "ta") = none ∧
      LoginRefused 0 (lit "ta") { s with answers := ⟨[], [true], 1⟩ } s₁ ∧
      ∃ id row, LoginGranted 0 (lit "ta") id row { s with answers := ⟨[], [], 1⟩ } s₂ := by
  have hrun : (run twoUsers [.acceptDone 0 false]).bind (fun s =>
      ((lobbyLoginProcess 0 ⟨lit "ta", lit "a"⟩).run
        { s with answers := ⟨[], [true], 1⟩ }).result.bind fun r₁ =>
      ((lobbyLoginProcess 0 ⟨lit "ta", lit "a"⟩).run
        { s with answers := ⟨[], [], 1⟩ }).result.map fun r₂ =>
          (r₁.1, r₁.2.redis (lit "ta"), r₂.1)) = some (false, none, true) := by
    decide
  obtain ⟨s, hs, hrun⟩ := Option.bind_eq_some_iff.1 hrun
  obtain ⟨⟨b₁, s₁⟩, h₁, hrun⟩ := Option.bind_eq_some_iff.1 hrun
  obtain ⟨⟨b₂, s₂⟩, h₂, hrun⟩ := Option.map_eq_some_iff.1 hrun
  obtain ⟨rfl, hrun⟩ := Prod.mk.inj hrun
  obtain ⟨hredis, rfl⟩ := Prod.mk.inj hrun
  have hrefused := (failed_login_confined (Out.result_eq_some.1 h₁)).1 rfl
  have hgranted := (failed_login_confined (Out.result_eq_some.1 h₂)).2 rfl
  exact ⟨s, s₁, s₂, reachable_of_run hs, hredis, hrefused, hgranted⟩

end ChannelServer
