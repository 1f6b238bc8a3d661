/-
Who writes to redis and to the login map.

Keys of redis and entries of the login map are removed by many handlers.  They are added in three
ways only: a match stores its room key, with the value `0`; a login that succeeds stores its user;
and other processes write to redis.  `View.Sheds` is a change that adds nothing but room keys, and
`Step.stores` says that every step is such a change, a step of the outside, or a login
(`Server.LogsIn`).
-/
import ChannelServer.FriendList
import ChannelServer.LoginOutcome

namespace ChannelServer

open Resumption

/-- A key of the form under which matches are stored. -/
def IsRoomKey (key : Str) : Prop := lit "Room:" <+: key

instance (key : Str) : Decidable (IsRoomKey key) := inferInstanceAs (Decidable (_ <+: _))

lemma isRoomKey_roomKeyOf (uuid : Uuid) : IsRoomKey (roomKeyOf uuid) := List.prefix_append _ _

namespace View

/-- Keys and entries only disappear, except for room keys that are stored. -/
structure Sheds (v w : View) : Prop where
  redis : ∀ key, w.redis key = v.redis key ∨ w.redis key = none ∨
    IsRoomKey key ∧ w.redis key = some (lit "0")
  userIdMap : ∀ u, w.userIdMap u = v.userIdMap u ∨ w.userIdMap u = none

variable {u v w : View} {n : SessionId}

lemma Sheds.refl (v : View) : v.Sheds v := ⟨fun _ => Or.inl rfl, fun _ => Or.inl rfl⟩

lemma Sheds.of_eq (hredis : w.redis = v.redis) (hmap : w.userIdMap = v.userIdMap) : v.Sheds w := by
  refine ⟨fun key => Or.inl ?_, fun u => Or.inl ?_⟩
  · rw [hredis]
  · rw [hmap]

lemma Sheds.trans (h₁ : u.Sheds v) (h₂ : v.Sheds w) : u.Sheds w := by
  refine ⟨fun key => ?_, fun id => ?_⟩
  · rcases h₂.redis key with h | h
    · rw [h]
      exact h₁.redis key
    · exact Or.inr h
  · rcases h₂.userIdMap id with h | h
    · rw [h]
      exact h₁.userIdMap id
    · exact Or.inr h

/-- The same, from a view with the same keys and entries on. -/
lemma Sheds.after (h : v.Sheds w) (hredis : v.redis = u.redis) (hmap : v.userIdMap = u.userIdMap) :
    u.Sheds w := (Sheds.of_eq hredis hmap).trans h

lemma Sheds.eraseKey (v : View) (key : Str) : v.Sheds (v.eraseKey key) := by
  refine ⟨fun k => ?_, fun _ => Or.inl rfl⟩
  by_cases hk : k = key
  · subst hk
    exact Or.inr (Or.inl (Function.update_self _ _ _))
  · exact Or.inl (Function.update_of_ne hk _ _)

lemma Sheds.eraseUser (v : View) (id : Str) : v.Sheds (v.eraseUser id) := by
  refine ⟨fun _ => Or.inl rfl, fun u => ?_⟩
  by_cases hu : u = id
  · subst hu
    exact Or.inr (Function.update_self _ _ _)
  · exact Or.inl (Function.update_of_ne hu _ _)

lemma Sheds.forget (v : View) (n : SessionId) : v.Sheds (v.forget n) :=
  (Sheds.eraseKey v _).trans (Sheds.eraseUser _ _)

lemma Sheds.waitAccept (v : View) : v.Sheds v.waitAccept := by
  obtain ⟨flag, queue, accepts, new, -, h⟩ := v.waitAccept_eq
  rw [h]
  exact .of_eq rfl rfl

lemma Sheds.finishClose (v : View) (n : SessionId) : v.Sheds (v.finishClose n) := by
  obtain ⟨flag, queue, accepts, new, -, h⟩ := v.finishClose_eq n
  rw [h]
  exact .of_eq rfl rfl

lemma Sheds.close (v : View) (n : SessionId) : v.Sheds (v.close n) := by
  unfold View.close
  cases v.stat n with
  | wait | matchApply => exact .refl v
  | conn | logout => exact .finishClose v n
  | login | matchRequest | matchRecver => exact (Sheds.forget v n).trans (.finishClose _ n)
  | matchConfirm => exact (Sheds.eraseUser v _).trans (.finishClose _ n)
  | matchComplete =>
    exact ((Sheds.eraseKey v _).trans (.forget _ n)).trans (.finishClose _ n)

lemma Sheds.matched {key : Str} (hkey : IsRoomKey key) (v : View) (a b : SessionId) :
    v.Sheds (v.matched key a b) := by
  refine ⟨fun k => ?_, fun _ => Or.inl rfl⟩
  by_cases hk : k = key
  · subst hk
    exact Or.inr (Or.inr ⟨hkey, Function.update_self _ _ _⟩)
  · exact Or.inl (Function.update_of_ne hk _ _)

lemma Sheds.served {r : QueId} {b : Bool} (h : v.Served r w b) : v.Sheds w := by
  cases h with
  | nobody _ => exact .of_eq rfl rfl
  | pair _ _ =>
    exact Sheds.after (.matched (isRoomKey_roomKeyOf _) _ _ _) rfl rfl

lemma Sheds.relayed {message : MatchWithFriendsRelay} (h : v.Relayed n message w) : v.Sheds w := by
  cases h with
  | refused => exact .refl v
  | self _ | apply _ _ _ _ _ | deny _ _ _ _ _ => exact .of_eq rfl rfl
  | accept _ _ _ _ _ _ => exact .matched (isRoomKey_roomKeyOf _) v _ _

end View

/-- A packet adds nothing, or it is a login that succeeds. -/
lemma PacketStep.sheds {v w : View} {n : SessionId} {p : Packet} (h : PacketStep v n p w) :
    v.Sheds w ∨ ∃ id, w.log = .joined n id :: v.log := by
  cases h with
  | friends h => exact Or.inl (by cases h <;> exact .of_eq rfl rfl)
  | config _ | other _ | notJoined _ | notLoggedOut _ | notConfirmed _ => exact Or.inl (.refl v)
  | relayed h => exact Or.inl (.relayed h)
  | @ranked u b h =>
    have hserved : v.Sheds u := (View.Sheds.served h).after rfl rfl
    rcases u.armUnless_cases n b with heq | heq <;> rw [heq]
    · exact Or.inl (hserved.trans (.of_eq rfl rfl))
    · exact Or.inl hserved
  | refused _ _ => exact Or.inl (.of_eq rfl rfl)
  | burnt _ _ _ => exact Or.inl (.eraseKey v _)
  | @joined _ id _ _ _ _ => exact Or.inr ⟨id, rfl⟩
  | loggedOut _ => exact Or.inl ((View.Sheds.forget v n).trans (.of_eq rfl rfl))
  | confirmed _ => exact Or.inl (View.Sheds.after (.close _ n) rfl rfl)

/-- A step adds nothing, or it is a step of the outside, or a login that succeeds. -/
lemma ViewStep.sheds {v w : View} {e : Event} (h : ViewStep v e w) :
    v.Sheds w ∨ (∃ redis tables, e = .world redis tables) ∨
      ∃ n id, w.log = .joined n id :: v.log := by
  cases h with
  | startAccept _ _ | accepted _ _ =>
    exact Or.inl (View.Sheds.after (.waitAccept _) rfl rfl)
  | acceptFailed _ _ | receive _ _ | receiveEnd _ | readFailed _ _ | timerIdle _ _ | writeDone _ =>
    exact Or.inl (.of_eq rfl rfl)
  | @packet n p rest answers _ hcur h =>
    rcases h.sheds with hsheds | ⟨id, hlog⟩
    · exact Or.inl (hsheds.after rfl rfl)
    · exact Or.inr (Or.inr ⟨n, id, hlog⟩)
  | disconnected _ _ _ => exact Or.inl (View.Sheds.after (.close _ _) rfl rfl)
  | timerWiden _ _ h => exact Or.inl ((View.Sheds.served h).after rfl rfl)
  | @world redis tables => exact Or.inr (Or.inl ⟨redis, tables, rfl⟩)

/-! ### Logins -/

/-- The event is a JOIN_REQ of the session `n` that `lobby_login_process` grants to the user
`id`. -/
def Server.Grants (s : Server) (e : Event) (n : SessionId) (id : Str) : Prop :=
  ∃ answers message rest, e = .packet answers ∧ s.current = some (n, .joinReq message :: rest) ∧
    (s.sess n).isOpen = true ∧ s.redis message.token = some id ∧ s.userIdMap id = none ∧
    ¬ LoginFails s answers id

/-- The event logs the user `id`, whose row is `row`, in on the session `n`. -/
structure Server.LogsIn (s : Server) (e : Event) (n : SessionId) (id : Str) (row : UserRow)
    (s' : Server) : Prop where
  grants : s.Grants e n id
  granted : ∃ token, LoginGranted n token id row s s'
  redis : s'.redis = s.redis
  tables : s'.tables = s.tables

section Logins

variable {s s' : Server} {e : Event} {n : SessionId}

/-- A step that adds the entry of a login to the log is the login. -/
lemma Step.logsIn {id : Str} (h : Step s e s') (hjoined : s'.log = .joined n id :: s.log) :
    ∃ row, s.LogsIn e n id row s' := by
  obtain ⟨new, hlog, hnew⟩ := (view_step h).logGrows
  obtain rfl : new = [.joined n id] := List.append_cancel_right (hlog.symm.trans hjoined)
  obtain ⟨message, answers, rest, rfl, hcur⟩ := hnew _ List.mem_cons_self
  obtain ⟨b, s₁, h₁, hdone⟩ := Prog.run_bind_eq_done.1 ((step_packet_iff hcur).1 h)
  obtain ⟨-, rfl⟩ := Out.done.inj hdone
  have hself : s.log ≠ .joined n id :: s.log := (List.cons_ne_self _ _).symm
  cases lobbyLoginProcess_eq_done h₁ with
  | closed _ => exact absurd hjoined hself
  | refused _ _ => exact absurd hjoined hself
  | @admitted id' _ _ hopen hkv hid hend =>
    cases hend with
    | noRow ht _ =>
      obtain ⟨que, answers', -, rfl⟩ := ht
      exact absurd hjoined hself
    | noList ht _ _ _ =>
      obtain ⟨que, answers', -, rfl⟩ := ht
      exact absurd hjoined hself
    | @joined t row ht hok hok' hrow =>
      have hend : LoginEnd n message.token id' _ (s.tables.friends id') _ true _ :=
        .joined ht hok hok' hrow
      obtain ⟨que, answers', -, rfl⟩ := ht
      obtain ⟨-, rfl⟩ := Mark.joined.inj (List.cons.inj hjoined).1
      rcases hend.outcome hopen hkv hid with ⟨hfalse, -⟩ | ⟨-, row', hgranted⟩
      · cases hfalse
      · have hgranted' : LoginGranted n message.token id' row' s _ :=
          ⟨hgranted.admitted, hgranted.offline, hgranted.found, hgranted.userIdMap,
            hgranted.user, hgranted.games, hgranted.sessionToken⟩
        exact ⟨row', ⟨answers, message, rest, rfl, hcur, hopen, hkv, hid, hend.succeeds⟩,
          ⟨_, hgranted'⟩, rfl, rfl⟩

/-- **Who writes to redis and to the login map.** -/
theorem Step.stores (h : Step s e s') :
    s.view.Sheds s'.view ∨ (∃ redis tables, e = .world redis tables) ∨
      ∃ n id row, s'.log = .joined n id :: s.log ∧ s.LogsIn e n id row s' := by
  rcases (view_step h).sheds with hsheds | hworld | ⟨n, id, hlog⟩
  · exact Or.inl hsheds
  · exact Or.inr (Or.inl hworld)
  · obtain ⟨row, hrow⟩ := h.logsIn hlog
    exact Or.inr (Or.inr ⟨n, id, row, hlog, hrow⟩)

/-- What other clients are told about the user of a session changes only in a login. -/
lemma Step.info (h : Step s e s') (hlogin : ∀ id, s'.log ≠ .joined n id :: s.log) :
    (s'.sess n).toUser.info = (s.sess n).toUser.info := by
  by_cases hfriends : ∃ message, s.view.Handles e n (.friendsReq message)
  · obtain ⟨message, answers, rest, rfl, hcur⟩ := hfriends
    obtain ⟨left, rfl⟩ := processFriendsFunction_eq_done ((step_packet_iff hcur).1 h)
    exact requested_info n
  · rw [h.keepsUser (fun message hm => absurd ⟨message, hm⟩ hfriends) hlogin]

end Logins

end ChannelServer
