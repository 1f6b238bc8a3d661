/-
Rooms and login tokens in one store.

Room keys and login tokens are keys of the same redis, and a client chooses the token that it sends.
A room key leads to the value `0`, which is no user, and `lobby_login_process` deletes a token whose
user has no row.  So a client that sends a room key, which each player of a match is told, deletes
the room.

`login_leaves_rooms` says that this is the only way: a login request deletes a room exactly when it
comes on an open socket, with a room key that is stored.
-/
import ChannelServer.Holders
import ChannelServer.Stores

namespace ChannelServer

open Resumption

/-- Nobody has the user id `0`, which is the value of a room. -/
def Tables.NoZero (t : Tables) : Prop := ∀ row ∈ t.userInfo, row.id ≠ lit "0"

instance (t : Tables) : Decidable t.NoZero := inferInstanceAs (Decidable (∀ row ∈ _, _))

/-- Room keys are no login tokens: what is stored under them is the value of a room. -/
def RoomValues (redis : Str → Option Str) : Prop :=
  ∀ key, IsRoomKey key → redis key = none ∨ redis key = some (lit "0")

/-- Other processes do not store login tokens under room keys, and nobody has the id `0`. -/
def Server.RoomsApart (s : Server) (e : Event) : Prop :=
  s.tables.NoZero ∧ ∀ redis tables, e = .world redis tables → RoomValues redis

/-- The states reached by such runs. -/
abbrev ReachedApart : Server → Prop :=
  Runs.Reached (fun s => Initial s ∧ RoomValues s.redis) Step Server.RoomsApart

/-! ### The rooms of a run -/

/-- The matches have room keys, under which there is nothing but the value of a room; nobody is
logged in with this value. -/
structure RoomsStored (s : Server) : Prop where
  made : ∀ key ∈ madeKeys s.log, IsRoomKey key
  values : RoomValues s.redis
  zero : s.userIdMap (lit "0") = none

section Runs

variable {s s' : Server} {e : Event}

/-- The matches of a step have room keys. -/
lemma Step.made_roomKeys (h : Step s e s') :
    ∃ new, s'.log = new ++ s.log ∧ ∀ key ∈ madeKeys new, IsRoomKey key := by
  obtain ⟨new, hlog, hnew⟩ := (view_step h).logGrows
  refine ⟨new, hlog, fun key hkey => ?_⟩
  obtain ⟨a, b, hmade⟩ := mem_madeKeys.1 hkey
  have he : (∃ answers, e = .packet answers) ∨ ∃ n i answers, e = .timer n i answers := by
    obtain ⟨n, ⟨answers, rest, he, -⟩ | ⟨message, answers, rest, he, -⟩ | ⟨i, answers, he⟩⟩ :=
      hnew _ hmade
    · exact Or.inl ⟨answers, he⟩
    · exact Or.inl ⟨answers, he⟩
    · exact Or.inr ⟨n, i, answers, he⟩
  obtain ⟨new', hlog', hdrawn⟩ := h.made_drawn he
  obtain rfl := List.append_cancel_right (hlog.symm.trans hlog')
  obtain ⟨uuid, -, rfl⟩ := hdrawn key hkey
  exact isRoomKey_roomKeyOf uuid

lemma Step.roomsStored (h : Step s e s') (hs : RoomsStored s) (hok : s.RoomsApart e) :
    RoomsStored s' := by
  obtain ⟨hzero, hworld⟩ := hok
  have hmade : ∀ key ∈ madeKeys s'.log, IsRoomKey key := by
    obtain ⟨new, hlog, hnew⟩ := h.made_roomKeys
    intro key hkey
    rw [hlog, madeKeys_append, List.mem_append] at hkey
    exact hkey.elim (hnew key) (hs.made key)
  rcases h.stores with hsheds | ⟨redis, tables, rfl⟩ | ⟨n, id, row, -, hlogin⟩
  · refine ⟨hmade, fun key hkey => ?_, ?_⟩
    · rcases hsheds.redis key with hsame | hnone | ⟨-, hval⟩
      · exact (hs.values key hkey).imp hsame.trans hsame.trans
      · exact Or.inl hnone
      · exact Or.inr hval
    · exact (hsheds.userIdMap (lit "0")).elim (fun hsame => hsame.trans hs.zero) id
  · obtain ⟨t, hprep, hrun⟩ := step_iff.1 h
    obtain rfl := Option.some.inj hprep
    obtain ⟨-, rfl⟩ := Out.done.inj hrun
    exact ⟨hmade, hworld redis tables rfl, hs.zero⟩
  · -- a user who logs in has a row, so that its id is not `0`
    obtain ⟨token, hgranted⟩ := hlogin.granted
    obtain ⟨hmem, hid⟩ := mem_of_userRow hgranted.found
    have hne : lit "0" ≠ id := fun heq => hzero row hmem (hid.trans heq.symm)
    refine ⟨hmade, ?_, ?_⟩
    · rw [hlogin.redis]
      exact hs.values
    · rw [hgranted.userIdMap, Function.update_of_ne hne]
      exact hs.zero

lemma ReachedApart.roomsStored (h : ReachedApart s) : RoomsStored s := by
  refine Runs.Reached.invariant (I := RoomsStored) ?_ ?_ h
  · rintro s ⟨hs, hvalues⟩
    obtain ⟨b, hv⟩ := hs.view_eq
    obtain ⟨flag, queue, accepts, new, hnew, hw⟩ := (Boot.init b).view.waitAccept_eq
    have hlog : s.view.log = new ++ [] := by
      rw [hv, hw]
      rfl
    have hmap : s.view.userIdMap (lit "0") = none := by
      rw [hv, hw]
      rfl
    refine ⟨fun key hkey => ?_, hvalues, hmap⟩
    obtain ⟨a, b, hmade⟩ := mem_madeKeys.1 hkey
    have hmem : .matchMade key a b ∈ new := by simpa [hlog] using (show _ ∈ s.view.log from hmade)
    obtain ⟨k, open', heq⟩ := hnew _ hmem
    cases heq
  · exact fun s e s' _ hs hok hstep => hstep.roomsStored hs hok

end Runs

/-! ### One login request -/

section Request

variable {s s' : Server} {n : SessionId} {token : Str} {b : Bool} {found : Str → Option UserRow}
  {friends : Str → List Str}

/-- A login request deletes its token at most. -/
lemma LobbyEnd.redis (h : LobbyEnd n token found friends s b s') :
    s'.redis = s.redis ∨ (s.sess n).isOpen = true ∧ s.redis token ≠ none ∧
      s'.redis = Function.update s.redis token none := by
  cases h with
  | closed _ => exact Or.inl rfl
  | refused _ _ => exact Or.inl rfl
  | admitted hopen hkv _ hend =>
    cases hend with
    | noRow ht _ =>
      obtain ⟨que, answers, -, rfl⟩ := ht
      exact Or.inr ⟨hopen, by simp [hkv], rfl⟩
    | noList ht _ _ _ | joined ht _ _ _ =>
      obtain ⟨que, answers, -, rfl⟩ := ht
      exact Or.inl rfl

/-- A token whose user is offline and has no row is deleted. -/
lemma LobbyEnd.deletes {id : Str} (h : LobbyEnd n token found friends s b s')
    (hopen : (s.sess n).isOpen = true) (hkv : s.redis token = some id)
    (hid : s.userIdMap id = none) (hrow : found id = none) : s'.redis token = none := by
  cases h with
  | closed hclosed => exact absurd hopen (by simp [hclosed])
  | refused _ hnone => exact absurd hid (hnone id hkv)
  | admitted _ hkv' _ hend =>
    obtain rfl := Option.some.inj (hkv.symm.trans hkv')
    cases hend with
    | noRow _ _ => exact Function.update_self _ _ _
    | noList _ _ hsome _ => exact absurd hrow hsome
    | joined _ _ _ hsome => exact absurd (hrow.symm.trans hsome) (by simp)

end Request

/-- **Which login requests delete a room.**  A login request leaves the rooms of all matches in
place, and deletes no key that is a room key, unless it comes on an open socket with a room key
that is stored. -/
theorem login_leaves_rooms {s s' : Server} (h : ReachedApart s) (hzero : s.tables.NoZero)
    {n : SessionId} {message : JoinRequest} {answers : Answers} {b : Bool}
    (hrun : (lobbyLoginProcess n message).run { s with answers := answers } = .done b s') :
    ((∀ key ∈ madeKeys s.log, s'.redis key = s.redis key) ∧
      ∀ key, s'.redis key ≠ s.redis key → s'.redis key = none ∧ ¬ IsRoomKey key) ↔
    ¬ ((s.sess n).isOpen = true ∧ IsRoomKey message.token ∧ s.redis message.token ≠ none) := by
  obtain ⟨hmade, hvalues, hoffline⟩ := h.roomsStored
  have hend := lobbyLoginProcess_eq_done hrun
  constructor
  · rintro ⟨-, hdeleted⟩ ⟨hopen, hroom, hsome⟩
    have hkv : s.redis message.token = some (lit "0") := (hvalues _ hroom).resolve_left hsome
    have hrow : s.tables.userRow (lit "0") = none := userRow_eq_none.2 hzero
    have hgone : s'.redis message.token = none := hend.deletes hopen hkv hoffline hrow
    refine (hdeleted message.token ?_).2 hroom
    rw [hgone]
    exact hsome.symm
  · intro hnot
    have hkeys : ∀ key, s'.redis key ≠ s.redis key → s'.redis key = none ∧ ¬ IsRoomKey key := by
      intro key hkey
      rcases hend.redis with hsame | ⟨hopen, hsome, hredis⟩
      · exact absurd (congrFun hsame key) hkey
      · rw [hredis] at hkey ⊢
        by_cases htoken : key = message.token
        · subst htoken
          exact ⟨Function.update_self _ _ _, fun hroom => hnot ⟨hopen, hroom, hsome⟩⟩
        · exact absurd (Function.update_of_ne htoken _ _) hkey
    refine ⟨fun key hkey => ?_, hkeys⟩
    by_contra hne
    exact (hkeys key hne).2 (hmade key hkey)

/-- The condition on the steps as a computation, for runs without other processes. -/
private def roomsApartTest (s : Server) : Event → Bool
  | .world _ _ => false
  | _ => decide s.tables.NoZero

private lemma roomsApart_of_test {s : Server} {e : Event} (h : roomsApartTest s e = true) :
    s.RoomsApart e := by
  cases e with
  | world _ _ => cases h
  | startAccept | acceptDone _ _ | receive _ _ | packet _ | receiveEnd | receiveError _ _ _
  | timer _ _ _ | writeDone _ _ => exact ⟨of_decide_eq_true h, fun _ _ he => by cases he⟩

private lemma reachedApart_rivals {s : Server} {es : List Event}
    (h : runIf roomsApartTest rivals es = some s) : ReachedApart s := by
  obtain ⟨s₀, hb, h⟩ := Option.bind_eq_some_iff.1 h
  obtain ⟨r, hr⟩ := Boot.run_of_start hb
  have hredis : s₀.redis = rivals.redis := by
    obtain ⟨flag, queue, accepts, new, -, hw⟩ := (Boot.init rivals).view.waitAccept_eq
    have hv := (view_waitAccept hr).trans hw
    exact congrArg View.redis hv
  have hvalues : RoomValues s₀.redis := by
    intro key hkey
    refine Or.inl ?_
    have hta : key ≠ lit "ta" := by
      rintro rfl
      exact absurd hkey (by decide)
    have htb : key ≠ lit "tb" := by
      rintro rfl
      exact absurd hkey (by decide)
    rw [hredis]
    simp [rivals, Boot.plain, hta, htb]
  refine Runs.Reached.of_exec ?_ (.start ⟨⟨rivals, r, hr⟩, hvalues⟩) h
  intro s e t hn
  obtain ⟨hok, hn⟩ := Option.ite_none_right_eq_some.1 hn
  exact ⟨roomsApart_of_test hok, step_of_next hn⟩

/-- A player sends the room key of its match instead of a login token: the room is gone. -/
theorem login_deletes_room :
    ∃ s b s', ReachedApart s ∧ s.tables.NoZero ∧ matchKey ∈ madeKeys s.log ∧
      s.redis matchKey ≠ none ∧
      (lobbyLoginProcess 0 ⟨matchKey, []⟩).run { s with answers := ⟨[], [], 1⟩ } = .done b s' ∧
      s'.redis matchKey = none := by
  have hrun : (runIf roomsApartTest rivals (beforeMatch ++ [matchPacket])).bind (fun s =>
      ((lobbyLoginProcess 0 ⟨matchKey, []⟩).run { s with answers := ⟨[], [], 1⟩ }).result.map
        fun r => decide (s.tables.NoZero ∧ matchKey ∈ madeKeys s.log ∧ s.redis matchKey ≠ none ∧
          r.2.redis matchKey = none)) = some true := by decide
  obtain ⟨s, hs, hrun⟩ := Option.bind_eq_some_iff.1 hrun
  obtain ⟨⟨b, s'⟩, hr, heq⟩ := Option.map_eq_some_iff.1 hrun
  obtain ⟨hzero, hmade, hsome, hgone⟩ := of_decide_eq_true heq
  exact ⟨s, b, s', reachedApart_rivals hs, hzero, hmade, hsome, Out.result_eq_some.1 hr, hgone⟩

/-- The token of the other player, which is no room key, leaves the room in place; it is refused,
as this player is online. -/
theorem login_leaves_rooms_token :
    ∃ s b s', ReachedApart s ∧ matchKey ∈ madeKeys s.log ∧
      (lobbyLoginProcess 0 ⟨lit "tb", []⟩).run { s with answers := ⟨[], [], 1⟩ } = .done b s' ∧
      (((∀ key ∈ madeKeys s.log, s'.redis key = s.redis key) ∧
        ∀ key, s'.redis key ≠ s.redis key → s'.redis key = none ∧ ¬ IsRoomKey key) ↔
      ¬ ((s.sess 0).isOpen = true ∧ IsRoomKey (lit "tb") ∧ s.redis (lit "tb") ≠ none)) := by
  have hrun : (runIf roomsApartTest rivals (beforeMatch ++ [matchPacket])).bind (fun s =>
      ((lobbyLoginProcess 0 ⟨lit "tb", []⟩).run { s with answers := ⟨[], [], 1⟩ }).result.map
        fun _ => decide (s.tables.NoZero ∧ matchKey ∈ madeKeys s.log)) = some true := by decide
  obtain ⟨s, hs, hrun⟩ := Option.bind_eq_some_iff.1 hrun
  obtain ⟨⟨b, s'⟩, hr, heq⟩ := Option.map_eq_some_iff.1 hrun
  obtain ⟨hzero, hmade⟩ := of_decide_eq_true heq
  have hreach : ReachedApart s := reachedApart_rivals hs
  have hdone := Out.result_eq_some.1 hr
  exact ⟨s, b, s', hreach, hmade, hdone, login_leaves_rooms hreach hzero hdone⟩

end ChannelServer
