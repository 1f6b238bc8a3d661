/-
Whose keys are removed.

`close_session` and `lobby_logout_process` remove keys by the strings that the session object
carries: `token_` and `room_key_` from redis, the user id from `user_id_map_`.  The strings stay
in the object after a logout and after a close, so that a session which is not logged in may
remove what belongs to somebody else by then.  `View.OwnsLogin` is the condition on the steps
that excludes this; it asks the log whether the session has logged in, and is still logged in.

* `only_own_login_removed`: in runs that meet the condition, a session that ends its login
  removes only entries that name it, the token of its own latest login, and the key of the room
  of its current match.
-/
import ChannelServer.Authority
import ChannelServer.Rooms

namespace ChannelServer

open Resumption WaitingRoom

/-- The session has logged in on its current connection, according to the log. -/
def HasJoined (n : SessionId) : List Mark → Prop
  | [] => False
  | .accepted m :: log => m ≠ n ∧ HasJoined n log
  | .joined m _ :: log => m = n ∨ HasJoined n log
  | _ :: log => HasJoined n log

/-- The session's latest login on its current connection was by a request with this token; the
states of the run before are given. -/
def LoggedInWith (past : List Server) (n : SessionId) (key : Str) (log : List Mark) : Prop :=
  ∃ t ∈ past, ∃ message rest later id, t.current = some (n, .joinReq message :: rest) ∧
    message.token = key ∧ log = later ++ .joined n id :: t.log ∧
    ∀ m ∈ later, m ≠ .accepted n ∧ ∀ u, m ≠ .joined n u

/-- The latest match of the session on its current connection has this room key. -/
def InMatch (n : SessionId) (key : Str) (log : List Mark) : Prop :=
  ∃ later a b rest, log = later ++ .matchMade key a b :: rest ∧ (n = a ∨ n = b) ∧
    ∀ m ∈ later, m ≠ .accepted n ∧ ∀ key' a' b', m = .matchMade key' a' b' → n ≠ a' ∧ n ≠ b'

/-- The statuses in which `close_session` removes the token of the session. -/
def Status.dropsToken : Status → Bool
  | .login => true
  | .matchRequest => true
  | .matchRecver => true
  | .matchComplete => true
  | _ => false

/-- The statuses in which `close_session` removes the user id of the session. -/
def Status.dropsUser (st : Status) : Bool := st.dropsToken || st == .matchConfirm

namespace View

/-- The token that the session carries is gone, or it is of the session's own connection. -/
def OwnsToken (v : View) (n : SessionId) : Prop :=
  v.redis (v.token n) ≠ none → HasJoined n v.log

/-- The user whose id the session carries is offline, or the session is logged in. -/
def OwnsEntry (v : View) (n : SessionId) : Prop :=
  v.userIdMap (v.userId n) ≠ none → loggedInAs n v.log ≠ none

/-- A session that removes the keys it carries owns them. -/
def OwnsLogin (v : View) : Event → Prop
  | .packet _ =>
      match v.current with
      | some (n, .logoutReq :: _) =>
          v.OwnsToken n ∧ (v.redis (v.token n) ≠ none → v.OwnsEntry n)
      | some (n, .matchConfirm :: _) => v.stat n = .matchComplete → v.OwnsEntry n
      | _ => True
  | .receiveError n _ error => error ≠ .other →
      ((v.stat n).dropsToken = true → v.OwnsToken n) ∧
        ((v.stat n).dropsUser = true → v.OwnsEntry n)
  | _ => True

/-- The event runs `close_session` or `lobby_logout_process` for the session. -/
def EndsLogin (v : View) (e : Event) (n : SessionId) : Prop :=
  (∃ live error, e = .receiveError n live error ∧ error ≠ .other) ∨
    v.Handles e n .matchConfirm ∨ v.Handles e n .logoutReq

/-- Who is logged in is stored under its user id; a session that was closed in its own packet
loop has no entry that its further packets could remove. -/
structure OwnersOk (v : View) : Prop where
  entry : ∀ n u, v.isOpen n = true → loggedInAs n v.log = some u →
    v.userId n = u ∧ v.userIdMap u = some n
  closed : ∀ n ps, v.current = some (n, ps) → v.isOpen n = false →
    v.userIdMap (v.userId n) = none

/-- Two views with the same sockets, user ids, entries and logins. -/
structure SameOwners (v w : View) : Prop where
  isOpen : w.isOpen = v.isOpen
  userId : w.userId = v.userId
  userIdMap : w.userIdMap = v.userIdMap
  log : v.LogGrows (fun m => m.ofLogin = false) w

variable {u v w : View} {n k : SessionId}

/-! ### Entries of the login map -/

lemma SameOwners.of_log (hopen : w.isOpen = v.isOpen) (huser : w.userId = v.userId)
    (hmap : w.userIdMap = v.userIdMap) (hlog : w.log = v.log) : v.SameOwners w :=
  ⟨hopen, huser, hmap, .of_eq hlog⟩

lemma SameOwners.trans (h₁ : u.SameOwners v) (h₂ : v.SameOwners w) : u.SameOwners w :=
  ⟨h₂.isOpen.trans h₁.isOpen, h₂.userId.trans h₁.userId, h₂.userIdMap.trans h₁.userIdMap,
    h₁.log.trans h₂.log⟩

lemma SameOwners.waitAccept (v : View) : v.SameOwners v.waitAccept := by
  obtain ⟨flag, queue, accepts, new, hnew, h⟩ := v.waitAccept_eq
  rw [h]
  refine ⟨rfl, rfl, rfl, new, rfl, fun m hm => ?_⟩
  obtain ⟨j, b, rfl⟩ := hnew m hm
  rfl

lemma SameOwners.served {r : QueId} {b : Bool} (h : v.Served r w b) : v.SameOwners w := by
  have hlog := LogGrows.served (p := fun m => m.ofLogin = false)
    (fun _ _ _ _ _ _ _ => rfl) (fun _ _ _ => rfl) h
  cases h <;> exact ⟨rfl, rfl, rfl, hlog⟩

lemma loggedInAs_of_logGrows (h : v.LogGrows (fun m => m.ofLogin = false) w) (n : SessionId) :
    loggedInAs n w.log = loggedInAs n v.log := by
  obtain ⟨new, hlog, hnew⟩ := h
  rw [hlog, loggedInAs_append hnew]

/-- An entry that a session may remove names the session. -/
lemma OwnersOk.own (hv : v.OwnersOk) (hn : v.isOpen n = true ∨ ∃ ps, v.current = some (n, ps))
    (howns : v.OwnsEntry n) {m : SessionId} (hm : v.userIdMap (v.userId n) = some m) : m = n := by
  cases hopen : v.isOpen n with
  | false =>
    obtain ⟨ps, hcur⟩ := hn.resolve_left (by simp [hopen])
    exact absurd (hm.symm.trans (hv.closed n ps hcur hopen)) (by simp)
  | true =>
    obtain ⟨id, hid⟩ := Option.ne_none_iff_exists'.1 (howns (by simp [hm]))
    obtain ⟨huser, hmap⟩ := hv.entry n id hopen hid
    rw [huser, hmap] at hm
    exact (Option.some.inj hm).symm

/-- A change that leaves entries and logins alone. -/
lemma OwnersOk.of_same (hv : v.OwnersOk) (h : v.SameOwners w)
    (hcur : ∀ k ps, w.current = some (k, ps) → v.isOpen k = true ∨
      ∃ qs, v.current = some (k, qs)) : w.OwnersOk := by
  constructor
  · intro k id hopen hid
    rw [h.isOpen] at hopen
    rw [loggedInAs_of_logGrows h.log] at hid
    rw [h.userId, h.userIdMap]
    exact hv.entry k id hopen hid
  · intro k ps hk hopen
    rw [h.isOpen] at hopen
    obtain ⟨qs, hqs⟩ := (hcur k ps hk).resolve_left (by simp [hopen])
    rw [h.userId, h.userIdMap]
    exact hv.closed k qs hqs hopen

/-- The same, with the same packet loop. -/
lemma OwnersOk.same (hv : v.OwnersOk) (h : v.SameOwners w) (hcur : w.current = v.current) :
    w.OwnersOk :=
  hv.of_same h fun k ps hk => Or.inr ⟨ps, by rw [← hcur, hk]⟩

/-- A session ends its login, and removes at most an entry that names it. -/
lemma OwnersOk.leave (hv : v.OwnersOk) (hown : ∀ m, v.userIdMap (v.userId n) = some m → m = n)
    (huser : w.userId = v.userId)
    (hmap : ∀ id, w.userIdMap id = v.userIdMap id ∨ id = v.userId n)
    (hothers : ∀ k, k ≠ n → w.isOpen k = v.isOpen k ∧ loggedInAs k w.log = loggedInAs k v.log)
    (hself : w.isOpen n = true → loggedInAs n w.log = none)
    (hcur : ∀ k ps, w.current = some (k, ps) → w.isOpen k = false →
      w.userIdMap (w.userId k) = none) : w.OwnersOk := by
  refine ⟨fun k id hopen hid => ?_, hcur⟩
  have hkn : k ≠ n := by
    rintro rfl
    exact absurd (hid.symm.trans (hself hopen)) (by simp)
  obtain ⟨hopen', hid'⟩ := hothers k hkn
  rw [hopen'] at hopen
  rw [hid'] at hid
  obtain ⟨huserk, hmapk⟩ := hv.entry k id hopen hid
  rw [huser]
  refine ⟨huserk, ?_⟩
  rcases hmap id with h | rfl
  · exact h.trans hmapk
  · exact absurd (hown k hmapk) hkn

/-- What `close_session` does to sockets, user ids and entries. -/
lemma close_owner (v : View) (n : SessionId) (hst : (v.stat n).closes) :
    (v.close n).isOpen = Function.update v.isOpen n false ∧ (v.close n).userId = v.userId ∧
      (v.close n).current = v.current ∧
      v.LogGrows (fun m => m.ofLogin = false) (v.close n) ∧
      (v.close n).userIdMap = if (v.stat n).dropsUser = true then
        Function.update v.userIdMap (v.userId n) none else v.userIdMap := by
  have hfinish : ∀ redis userIdMap,
      (View.finishClose { v with redis := redis, userIdMap := userIdMap } n).isOpen =
        Function.update v.isOpen n false ∧
      (View.finishClose { v with redis := redis, userIdMap := userIdMap } n).userId = v.userId ∧
      (View.finishClose { v with redis := redis, userIdMap := userIdMap } n).current =
        v.current ∧
      v.LogGrows (fun m => m.ofLogin = false)
        (View.finishClose { v with redis := redis, userIdMap := userIdMap } n) ∧
      (View.finishClose { v with redis := redis, userIdMap := userIdMap } n).userIdMap =
        userIdMap := by
    intro redis userIdMap
    obtain ⟨flag, queue, accepts, new, hnew, h⟩ :=
      View.finishClose_eq { v with redis := redis, userIdMap := userIdMap } n
    rw [h]
    refine ⟨rfl, rfl, rfl, ⟨new, rfl, fun m hm => ?_⟩, rfl⟩
    obtain ⟨j, b, rfl⟩ := hnew m hm
    rfl
  unfold close
  cases hstat : v.stat n with
  | wait => exact absurd hstat hst.1
  | matchApply => exact absurd hstat hst.2
  | conn | logout => exact hfinish v.redis v.userIdMap
  | login | matchRequest | matchRecver | matchConfirm | matchComplete =>
    exact hfinish _ (Function.update v.userIdMap (v.userId n) none)

lemma waitAccept_token (v : View) (k : SessionId) : v.waitAccept.token k = v.token k := by
  obtain ⟨flag, queue, accepts, new, -, h⟩ := v.waitAccept_eq
  rw [h]

lemma close_token (v : View) (n k : SessionId) : (v.close n).token k = v.token k := by
  rcases v.close_cases n with ⟨-, h⟩ | ⟨-, redis, userIdMap, h⟩ <;> rw [h]
  obtain ⟨flag, queue, accepts, new, -, h⟩ :=
    View.finishClose_eq { v with redis := redis, userIdMap := userIdMap } n
  rw [h]

/-- A session is closed whose entry, if it removes one, names it. -/
lemma OwnersOk.close (hv : v.OwnersOk) (hst : (v.stat n).closes)
    (hown : ∀ m, v.userIdMap (v.userId n) = some m → (v.stat n).dropsUser = true → m = n)
    (hcur : ∀ k ps, v.current = some (k, ps) → k = n ∧ (v.stat n).dropsUser = true) :
    (v.close n).OwnersOk := by
  obtain ⟨hopen, huser, hcurrent, hlog, hmap⟩ := v.close_owner n hst
  cases hdrops : (v.stat n).dropsUser with
  | true =>
    rw [if_pos hdrops] at hmap
    refine hv.leave (n := n) (fun m hm => hown m hm hdrops) huser (fun id => ?_) (fun k hkn => ?_)
      (fun h => ?_) fun k ps hk _ => ?_
    · rw [hmap]
      by_cases hid : id = v.userId n
      · exact Or.inr hid
      · exact Or.inl (Function.update_of_ne hid _ _)
    · rw [hopen, Function.update_of_ne hkn]
      exact ⟨rfl, loggedInAs_of_logGrows hlog k⟩
    · rw [hopen, Function.update_self] at h
      cases h
    · rw [hcurrent] at hk
      obtain ⟨rfl, -⟩ := hcur k ps hk
      rw [hmap, huser, Function.update_self]
  | false =>
    rw [if_neg (by simp [hdrops])] at hmap
    refine ⟨fun k id hk hid => ?_, fun k ps hk _ => ?_⟩
    · have hkn : k ≠ n := by
        rintro rfl
        rw [hopen, Function.update_self] at hk
        cases hk
      rw [hopen, Function.update_of_ne hkn] at hk
      rw [loggedInAs_of_logGrows hlog] at hid
      rw [huser, hmap]
      exact hv.entry k id hk hid
    · rw [hcurrent] at hk
      rw [(hcur k ps hk).2] at hdrops
      cases hdrops

end View

/-- **Entries name their sessions**, one packet. -/
lemma PacketStep.ownersOk {v w : View} {n : SessionId} {p : Packet} {rest : List Packet}
    (h : PacketStep v n p w) (hcur : v.current = some (n, rest)) (hv : v.OwnersOk)
    (howns : ∀ answers,
      View.OwnsLogin { v with current := some (n, p :: rest) } (.packet answers)) :
    w.OwnersOk := by
  have howns := howns ⟨[], [], 0⟩
  simp only [View.OwnsLogin] at howns
  cases h with
  | config _ | other _ | notJoined _ | notLoggedOut _ | notConfirmed _ => exact hv
  | refused _ _ | burnt _ _ _ => exact hv.same (.of_log rfl rfl rfl rfl) rfl
  | friends h => cases h <;> exact hv.same (.of_log rfl rfl rfl rfl) rfl
  | @joined message id rating hopen hkv hid =>
    constructor
    · intro k u hk hu
      show Function.update v.userId n id k = u ∧
        Function.update v.userIdMap id (some n) u = some k
      have hu : loggedInAs k (.joined n id :: v.log) = some u := hu
      by_cases hkn : n = k
      · subst hkn
        rw [loggedInAs, if_pos rfl] at hu
        obtain rfl := Option.some.inj hu
        exact ⟨Function.update_self _ _ _, Function.update_self _ _ _⟩
      · rw [loggedInAs, if_neg hkn] at hu
        obtain ⟨huser, hmap⟩ := hv.entry k u hk hu
        -- the user that logs in was offline
        have hne : u ≠ id := by
          rintro rfl
          exact absurd (hmap.symm.trans hid) (by simp)
        rw [Function.update_of_ne (Ne.symm hkn), Function.update_of_ne hne]
        exact ⟨huser, hmap⟩
    · intro k ps hk hclosed
      obtain ⟨rfl, -⟩ := Prod.mk.inj (Option.some.inj (hcur.symm.trans hk))
      have hclosed : v.isOpen n = false := hclosed
      exact absurd (hopen.symm.trans hclosed) (by simp)
  | @loggedOut id hkv =>
    have hentry : v.OwnsEntry n := howns.2 (by simp [hkv])
    refine hv.leave (n := n) (fun m hm => hv.own (Or.inr ⟨rest, hcur⟩) hentry hm) rfl
      (fun u => ?_) (fun k hkn => ⟨rfl, ?_⟩) (fun _ => ?_) fun k ps hk _ => ?_
    · show Function.update v.userIdMap (v.userId n) none u = _ ∨ _
      by_cases hu : u = v.userId n
      · exact Or.inr hu
      · exact Or.inl (Function.update_of_ne hu _ _)
    · show loggedInAs k (.loggedOut n :: v.log) = _
      rw [loggedInAs, if_neg (Ne.symm hkn)]
    · show loggedInAs n (.loggedOut n :: v.log) = _
      rw [loggedInAs, if_pos rfl]
    · obtain ⟨rfl, -⟩ := Prod.mk.inj (Option.some.inj (hcur.symm.trans hk))
      exact Function.update_self _ _ _
  | confirmed hst =>
    have hstn : (v.setStat n .matchConfirm).stat n = .matchConfirm := Function.update_self _ _ _
    have hdrops : ((v.setStat n .matchConfirm).stat n).dropsUser = true := by
      rw [hstn]
      rfl
    have hset : (v.setStat n .matchConfirm).OwnersOk := hv.same (.of_log rfl rfl rfl rfl) rfl
    refine hset.close ?_ (fun m hm _ => hv.own (Or.inr ⟨rest, hcur⟩) (howns hst) hm) ?_
    · rw [hstn]
      simp [Status.closes]
    · intro k ps hk
      obtain ⟨rfl, -⟩ := Prod.mk.inj (Option.some.inj (hcur.symm.trans hk))
      exact ⟨rfl, hdrops⟩
  | @ranked u b h =>
    have henter : v.SameOwners (v.enter n (checkRating (v.rating n)).que) :=
      ⟨rfl, rfl, rfl, .one rfl rfl⟩
    have hserved : u.OwnersOk := hv.same (henter.trans (.served h)) h.samePool.current
    rcases u.armUnless_cases n b with h | h <;> rw [h]
    · exact hserved.same (.of_log rfl rfl rfl rfl) rfl
    · exact hserved
  | relayed h =>
    cases h with
    | refused => exact hv
    | self _ | deny _ _ _ _ _ => exact hv.same (.of_log rfl rfl rfl rfl) rfl
    | accept _ _ _ _ _ _ | apply _ _ _ _ _ => exact hv.same ⟨rfl, rfl, rfl, .one rfl rfl⟩ rfl

/-- **Entries name their sessions**, one step. -/
theorem ViewStep.ownersOk {v w : View} {e : Event} (h : ViewStep v e w) (hp : v.PoolOk)
    (hv : v.OwnersOk) (howns : v.OwnsLogin e) : w.OwnersOk := by
  cases h with
  | startAccept _ _ =>
    have hstart : View.OwnersOk { v with starting := v.starting - 1 } :=
      hv.same (.of_log rfl rfl rfl rfl) rfl
    exact hstart.same (.waitAccept _) (View.waitAccept_stat _).2
  | @accepted n hcur hn =>
    have hbefore : View.OwnersOk { v with
        accepts := v.accepts.erase n
        isOpen := Function.update v.isOpen n true
        log := .accepted n :: v.log
        reads := v.reads ++ [⟨n, Function.update v.isOpen n true n⟩]
        stat := Function.update v.stat n .conn
        connections := v.connections + 1
        active := v.active ++ [n] } := by
      refine ⟨fun k u hk hu => ?_, fun k ps hk => ?_⟩
      · -- the accepted session is not logged in
        have hu : loggedInAs k (.accepted n :: v.log) = some u := hu
        have hkn : n ≠ k := by
          rintro rfl
          rw [loggedInAs, if_pos rfl] at hu
          cases hu
        rw [loggedInAs, if_neg hkn] at hu
        have hk : Function.update v.isOpen n true k = true := hk
        rw [Function.update_of_ne (Ne.symm hkn)] at hk
        exact hv.entry k u hk hu
      · exact absurd (hk.symm.trans hcur) (by simp)
    exact hbefore.same (.waitAccept _) (View.waitAccept_stat _).2
  | acceptFailed _ _ | readFailed _ _ | timerIdle _ _ | writeDone _ | world =>
    exact hv.same (.of_log rfl rfl rfl rfl) rfl
  | @receive n packets hcur hread =>
    refine hv.of_same (.of_log rfl rfl rfl rfl) fun k ps hk => Or.inl ?_
    obtain ⟨rfl, -⟩ := Prod.mk.inj (Option.some.inj hk)
    exact (hp.isOpen_iff n).2 (hp.read_active n hread)
  | @packet n p rest answers _ hcur hpacket =>
    have hnext : View.OwnersOk { v with current := some (n, rest) } :=
      hv.of_same (.of_log rfl rfl rfl rfl) fun k ps hk => by
        obtain ⟨rfl, -⟩ := Prod.mk.inj (Option.some.inj hk)
        exact Or.inr ⟨_, hcur⟩
    refine hpacket.ownersOk rfl hnext fun answers' => ?_
    simp only [View.OwnsLogin, hcur] at howns ⊢
    exact howns
  | receiveEnd _ =>
    refine hv.of_same (.of_log rfl rfl rfl rfl) fun k ps hk => ?_
    cases hk
  | @disconnected n error hcur hread herror =>
    have hact := hp.read_active n hread
    have hread' : View.OwnersOk { v with reads := v.reads.erase ⟨n, true⟩ } :=
      hv.same (.of_log rfl rfl rfl rfl) rfl
    by_cases hst : (v.stat n).closes
    · refine hread'.close hst (fun m hm hdrops => ?_) fun k ps hk => ?_
      · exact hv.own (Or.inl ((hp.isOpen_iff n).2 hact)) ((howns herror).2 hdrops) hm
      · exact absurd (hk.symm.trans hcur) (by simp)
    · rcases View.close_cases { v with reads := v.reads.erase ⟨n, true⟩ } n with
        ⟨-, h⟩ | ⟨hcloses, -⟩
      · rw [h]
        exact hread'
      · exact absurd hcloses hst
  | @timerWiden n i answers _ b hcur _ hserved =>
    have hwiden : View.OwnersOk (View.widen { v with
        waits := Function.update v.waits n ((v.waits n).eraseIdx i) } n) :=
      hv.same ⟨rfl, rfl, rfl, .one rfl rfl⟩ rfl
    exact hwiden.same (.served hserved) hserved.samePool.current

/-- In runs whose sessions own the keys that they remove, entries name their sessions. -/
lemma ownersOk_of_ownsLogin {s : Server}
    (h : ReachedBy (fun s e => s.view.OwnsLogin e) s) : s.view.OwnersOk := by
  refine (ReachedBy.view_invariant View.OwnsLogin (P := fun v => v.PoolOk ∧ v.OwnersOk) ?_ ?_ h).2
  · intro b
    refine ⟨View.PoolOk.init b, ?_⟩
    have hboot : (Boot.init b).view.OwnersOk := by
      refine ⟨fun n u hopen => ?_, fun n ps hcur => ?_⟩
      · cases hopen
      · cases hcur
    exact hboot.same (.waitAccept _) (View.waitAccept_stat _).2
  · rintro v e w ⟨hp, hv⟩ howns hstep
    exact ⟨hstep.poolOk hp, hstep.ownersOk hp hv howns⟩

/-! ### Tokens -/

lemma hasJoined_of_loggedInAs {n : SessionId} {log : List Mark} (h : loggedInAs n log ≠ none) :
    HasJoined n log := by
  induction log with
  | nil => exact absurd rfl h
  | cons m log ih =>
    cases m with
    | accepted k =>
      by_cases hk : k = n
      · rw [loggedInAs, if_pos hk] at h
        exact absurd rfl h
      · rw [loggedInAs, if_neg hk] at h
        exact ⟨hk, ih h⟩
    | joined k id =>
      by_cases hk : k = n
      · exact Or.inl hk
      · rw [loggedInAs, if_neg hk] at h
        exact Or.inr (ih h)
    | loggedOut k =>
      by_cases hk : k = n
      · rw [loggedInAs, if_pos hk] at h
        exact absurd rfl h
      · rw [loggedInAs, if_neg hk] at h
        exact ih h
    | _ => exact ih h

/-- Without a login of the session, the log only grows behind its latest one. -/
lemma HasJoined.of_append {n : SessionId} {new log : List Mark}
    (hnew : ∀ m ∈ new, ∀ u, m ≠ .joined n u) (h : HasJoined n (new ++ log)) :
    HasJoined n log ∧ .accepted n ∉ new := by
  induction new with
  | nil => exact ⟨h, by simp⟩
  | cons m new ih =>
    have ih := ih fun k hk => hnew k (List.mem_cons_of_mem _ hk)
    have hm := hnew m List.mem_cons_self
    have hrest : m ≠ .accepted n ∧ HasJoined n (new ++ log) := by
      cases m with
      | accepted k => exact ⟨fun heq => h.1 (Mark.accepted.inj heq), h.2⟩
      | joined k id =>
        refine ⟨by simp, h.resolve_left ?_⟩
        rintro rfl
        exact hm id rfl
      | _ => exact ⟨by simp, h⟩
    obtain ⟨hlog, hacc⟩ := ih hrest.2
    exact ⟨hlog, by simp [Ne.symm hrest.1, hacc]⟩

/-- The token of a session changes only with a login of the session. -/
lemma PacketStep.token {v w : View} {n : SessionId} {p : Packet} (h : PacketStep v n p w)
    (k : SessionId) :
    w.token k = v.token k ∧ v.LogGrows (fun m => ∀ u, m ≠ .joined k u) w ∨
      k = n ∧ ∃ message id, p = .joinReq message ∧ w.token k = message.token ∧
        w.log = .joined k id :: v.log := by
  cases h with
  | config _ | other _ | notJoined _ | notLoggedOut _ | notConfirmed _ | refused _ _
  | burnt _ _ _ => exact Or.inl ⟨rfl, .of_eq rfl⟩
  | friends h => cases h <;> exact Or.inl ⟨rfl, .of_eq rfl⟩
  | @joined message id rating _ _ _ =>
    by_cases hkn : k = n
    · subst hkn
      exact Or.inr ⟨rfl, message, id, rfl, Function.update_self _ _ _, rfl⟩
    · refine Or.inl ⟨Function.update_of_ne hkn _ _, .one rfl fun u heq => hkn ?_⟩
      exact (Mark.joined.inj heq).1.symm
  | loggedOut _ => exact Or.inl ⟨rfl, .one rfl (by simp)⟩
  | confirmed _ =>
    refine Or.inl ⟨View.close_token (v.setStat n .matchConfirm) n k, ?_⟩
    exact (View.LogGrows.of_eq rfl).trans (.close (by simp) (v.setStat n .matchConfirm) n)
  | @ranked u b h =>
    have hserved : u.token k = v.token k ∧ v.LogGrows (fun m => ∀ u, m ≠ .joined k u) u := by
      have hgrows := View.LogGrows.served (p := fun m => ∀ u, m ≠ .joined k u) (by simp)
        (by simp) h
      refine ⟨?_, View.LogGrows.trans (.one (m := .setMatchingQue n _) rfl (by simp)) hgrows⟩
      cases h <;> rfl
    rcases u.armUnless_cases n b with h | h <;> rw [h]
    · exact Or.inl ⟨hserved.1, hserved.2.trans (.of_eq rfl)⟩
    · exact Or.inl hserved
  | relayed h =>
    cases h with
    | refused | self _ | deny _ _ _ _ _ => exact Or.inl ⟨rfl, .of_eq rfl⟩
    | accept _ _ _ _ _ _ | apply _ _ _ _ _ => exact Or.inl ⟨rfl, .one rfl (by simp)⟩

/-- The token of a session changes only with a login of the session, one step. -/
lemma ViewStep.token {v w : View} {e : Event} (h : ViewStep v e w) (k : SessionId) :
    w.token k = v.token k ∧ v.LogGrows (fun m => ∀ u, m ≠ .joined k u) w ∨
      ∃ message rest id, v.current = some (k, .joinReq message :: rest) ∧
        w.token k = message.token ∧ w.log = .joined k id :: v.log := by
  cases h with
  | startAccept _ _ =>
    exact Or.inl ⟨View.waitAccept_token _ k,
      (View.LogGrows.of_eq rfl).trans (.waitAccept (by simp) _)⟩
  | @accepted n _ _ =>
    have hnote : v.LogGrows (fun m => ∀ u, m ≠ .joined k u) (v.note (.accepted n)) :=
      .one rfl (by simp)
    exact Or.inl ⟨View.waitAccept_token _ k,
      (hnote.trans (.of_eq rfl)).trans (.waitAccept (by simp) _)⟩
  | acceptFailed _ _ | receive _ _ | receiveEnd _ | readFailed _ _ | timerIdle _ _ | writeDone _
  | world => exact Or.inl ⟨rfl, .of_eq rfl⟩
  | disconnected _ _ _ =>
    exact Or.inl ⟨View.close_token _ _ k, (View.LogGrows.of_eq rfl).trans (.close (by simp) _ _)⟩
  | @timerWiden n i answers _ _ _ _ h =>
    have hnote : v.LogGrows (fun m => ∀ u, m ≠ .joined k u) (v.note (.widened n)) :=
      .one rfl (by simp)
    have hgrows := View.LogGrows.served (p := fun m => ∀ u, m ≠ .joined k u) (by simp)
      (by simp) h
    refine Or.inl ⟨?_, (hnote.trans (.of_eq rfl)).trans hgrows⟩
    cases h <;> rfl
  | @packet n p rest answers _ hcur h =>
    rcases h.token k with ⟨htoken, hlog⟩ | ⟨rfl, message, id, rfl, htoken, hlog⟩
    · exact Or.inl ⟨htoken, (View.LogGrows.of_eq rfl).trans hlog⟩
    · exact Or.inr ⟨message, rest, id, hcur, htoken, hlog⟩

/-- The token that a session carries is that of its latest login on its connection. -/
lemma loggedInWith_token {past : List Server} {s : Server}
    (h : Runs.Trace Initial Step past s) {n : SessionId} (hn : HasJoined n s.log) :
    LoggedInWith past n (s.sess n).token s.log := by
  induction h with
  | start hi =>
    obtain ⟨b, hv⟩ := hi.view_eq
    obtain ⟨flag, queue, accepts, new, hnew, hw⟩ := (Boot.init b).view.waitAccept_eq
    rename_i s
    have hlog : s.log = new ++ [] := congrArg View.log (hv.trans hw)
    rw [hlog] at hn
    refine (HasJoined.of_append (fun m hm u => ?_) hn).1.elim
    obtain ⟨k, b', rfl⟩ := hnew m hm
    simp
  | @step past s s' e h hs ih =>
    rcases (view_step hs).token n with ⟨htoken, new, hlog, hnew⟩ | ⟨message, rest, id, hcur,
      htoken, hlog⟩
    · have htoken' : (s'.sess n).token = (s.sess n).token := htoken
      have hlog' : s'.log = new ++ s.log := hlog
      rw [hlog'] at hn
      obtain ⟨hjoined, hacc⟩ := hn.of_append hnew
      obtain ⟨t, ht, message, rest, later, id, hcur, hkey, hlater, hlatest⟩ := ih hjoined
      refine ⟨t, List.mem_cons_of_mem _ ht, message, rest, new ++ later, id, hcur,
        hkey.trans htoken'.symm, ?_, ?_⟩
      · rw [hlog', hlater, List.append_assoc]
      · intro m hm
        rcases List.mem_append.1 hm with hm | hm
        · refine ⟨?_, hnew m hm⟩
          rintro rfl
          exact hacc hm
        · exact hlatest m hm
    · exact ⟨s, List.mem_cons_self, message, rest, [], id, hcur, htoken.symm, hlog, by simp⟩

/-! ### Room keys -/

lemma InMatch.append {n : SessionId} {key : Str} {new log : List Mark} (h : InMatch n key log)
    (hmade : madeKeys new = []) (hacc : .accepted n ∉ new) : InMatch n key (new ++ log) := by
  obtain ⟨later, a, b, rest, hlog, hab, hlater⟩ := h
  refine ⟨new ++ later, a, b, rest, by rw [hlog, List.append_assoc], hab, fun m hm => ?_⟩
  rcases List.mem_append.1 hm with hm | hm
  · constructor
    · rintro rfl
      exact hacc hm
    · rintro key' a' b' rfl
      have hmem : key' ∈ madeKeys new := mem_madeKeys.2 ⟨a', b', hm⟩
      rw [hmade] at hmem
      cases hmem
  · exact hlater m hm

/-- An accept puts its session into the status `CONN`. -/
lemma ViewStep.accepted_stat {v w : View} {n : SessionId}
    (h : ViewStep v (.acceptDone n false) w) : w.stat n = .conn := by
  cases h with
  | accepted _ _ =>
    unfold View.accept
    rw [(View.waitAccept_stat _).1]
    exact Function.update_self _ _ _

/-- A session in the status `MATCH_COMPLETE` carries the key of its current match, one step. -/
lemma ViewStep.inMatch {v w : View} {e : Event} (h : ViewStep v e w)
    (hv : ∀ n, v.stat n = .matchComplete → InMatch n (v.roomKey n) v.log) {n : SessionId}
    (hn : w.stat n = .matchComplete) : InMatch n (w.roomKey n) w.log := by
  -- the step does not accept a connection of the session
  have hacc : ∀ new, w.log = new ++ v.log → .accepted n ∉ new := by
    intro new hlog hmem
    obtain ⟨new', hlog', hnew'⟩ := h.logGrows
    obtain rfl := List.append_cancel_right (hlog.symm.trans hlog')
    obtain rfl : e = .acceptDone n false := hnew' _ hmem
    exact absurd (hn.symm.trans h.accepted_stat) (by simp)
  rcases h.rooms with hsame | ⟨⟨u, key, a, b, hu, hw⟩, -⟩
  · obtain ⟨hst, hkey⟩ := hsame.complete n hn
    obtain ⟨new, hlog, hmade⟩ := hsame.log
    rw [hkey, hlog]
    exact (hv n hst).append hmade (hacc new hlog)
  · obtain ⟨hst, hkey⟩ := hw.complete n hn
    obtain ⟨new₁, hlog₁, hmade₁⟩ := hu.log
    obtain ⟨new₂, hlog₂, hmade₂⟩ := hw.log
    have hlog : w.log = (new₂ ++ .matchMade key a b :: new₁) ++ v.log := by
      rw [hlog₂, List.append_assoc, List.cons_append, ← hlog₁]
      rfl
    have hnot := hacc _ hlog
    simp only [List.mem_append, List.mem_cons, not_or] at hnot
    obtain ⟨hnot₂, -, hnot₁⟩ := hnot
    rw [hkey, hlog₂]
    refine InMatch.append ?_ hmade₂ hnot₂
    show InMatch n (Function.update (Function.update u.roomKey a key) b key n)
      (.matchMade key a b :: u.log)
    by_cases hab : n = a ∨ n = b
    · have hroom : Function.update (Function.update u.roomKey a key) b key n = key := by
        rcases hab with rfl | rfl <;> simp [Function.update_apply]
      rw [hroom]
      exact ⟨[], a, b, u.log, rfl, hab, by simp⟩
    · obtain ⟨hna, hnb⟩ := not_or.1 hab
      have hstu : u.stat n = .matchComplete := by
        simpa [View.matched, Function.update_of_ne hna, Function.update_of_ne hnb] using hst
      obtain ⟨hstv, hkeyu⟩ := hu.complete n hstu
      rw [Function.update_of_ne hnb, Function.update_of_ne hna, hkeyu, hlog₁]
      obtain ⟨later, a', b', rest, hold, hab', hlater⟩ :=
        (hv n hstv).append hmade₁ hnot₁
      refine ⟨.matchMade key a b :: later, a', b', rest, by rw [hold]; rfl, hab', ?_⟩
      intro m hm
      rcases List.mem_cons.1 hm with rfl | hm
      · refine ⟨by simp, fun key' a'' b'' heq => ?_⟩
        obtain ⟨-, rfl, rfl⟩ := Mark.matchMade.inj heq
        exact ⟨hna, hnb⟩
      · exact hlater m hm

lemma Reachable.inMatch {s : Server} (h : Reachable s) {n : SessionId}
    (hn : (s.sess n).stat = .matchComplete) : InMatch n (s.sess n).roomKey s.log := by
  have hall : ∀ k, s.view.stat k = .matchComplete → InMatch k (s.view.roomKey k) s.view.log := by
    refine Reachable.view_invariant
      (P := fun v => ∀ k, v.stat k = .matchComplete → InMatch k (v.roomKey k) v.log) ?_ ?_ h
    · intro b k hk
      rw [(View.waitAccept_stat _).1] at hk
      cases hk
    · intro v e w hv hstep k hk
      exact hstep.inMatch hv hk
  exact hall n hn

/-! ### The end of a login -/

/-- The keys that `close_session` removes from redis. -/
lemma View.close_removes {v : View} {n : SessionId} {key : Str}
    (h : (v.close n).redis key ≠ v.redis key) :
    (v.stat n).dropsToken = true ∧ key = v.token n ∧ v.redis key ≠ none ∨
      v.stat n = .matchComplete ∧ key = v.roomKey n := by
  have herased : ∀ (redis : Str → Option Str) (gone : Str),
      Function.update redis gone none key ≠ redis key → key = gone ∧ redis key ≠ none := by
    intro redis gone hgone
    by_cases hkey : key = gone
    · subst hkey
      rw [Function.update_self] at hgone
      exact ⟨rfl, Ne.symm hgone⟩
    · exact absurd (Function.update_of_ne hkey _ _) hgone
  have hfinish : ∀ (u : View), (u.finishClose n).redis = u.redis := by
    intro u
    obtain ⟨flag, queue, accepts, new, -, hu⟩ := u.finishClose_eq n
    rw [hu]
  unfold View.close at h
  cases hst : v.stat n with
  | wait | matchApply =>
    rw [hst] at h
    exact absurd rfl h
  | conn | logout | matchConfirm =>
    rw [hst] at h
    dsimp only at h
    rw [hfinish] at h
    exact absurd rfl h
  | login | matchRequest | matchRecver =>
    rw [hst] at h
    dsimp only at h
    rw [hfinish] at h
    exact Or.inl ⟨rfl, herased v.redis (v.token n) h⟩
  | matchComplete =>
    rw [hst] at h
    dsimp only at h
    rw [hfinish] at h
    by_cases hroom : key = v.roomKey n
    · exact Or.inr ⟨rfl, hroom⟩
    · have hforget : Function.update (Function.update v.redis (v.roomKey n) none) (v.token n) none
          key ≠ v.redis key := h
      have hkeep : Function.update v.redis (v.roomKey n) none key = v.redis key :=
        Function.update_of_ne hroom _ _
      rw [← hkeep] at hforget
      obtain ⟨htoken, hsome⟩ := herased _ (v.token n) hforget
      exact Or.inl ⟨rfl, htoken, by rwa [← hkeep]⟩

/-- The entries that `close_session` removes from the login map. -/
lemma View.close_drops {v : View} {n : SessionId} {id : Str}
    (h : (v.close n).userIdMap id ≠ v.userIdMap id) :
    (v.stat n).dropsUser = true ∧ id = v.userId n := by
  by_cases hst : (v.stat n).closes
  · obtain ⟨-, -, -, -, hmap⟩ := v.close_owner n hst
    rw [hmap] at h
    split at h
    · rename_i hdrops
      refine ⟨hdrops, ?_⟩
      by_contra hne
      exact h (Function.update_of_ne hne _ _)
    · exact absurd rfl h
  · rcases v.close_cases n with ⟨-, heq⟩ | ⟨hcloses, -⟩
    · rw [heq] at h
      exact absurd rfl h
    · exact absurd hcloses hst

/-- A session that ends its login removes the user id, the token and the room key that it
carries at most; it owns the first two, if they are removed. -/
lemma ViewStep.removes {v w : View} {e : Event} {n : SessionId} (h : ViewStep v e w)
    (hp : v.PoolOk) (howns : v.OwnsLogin e) (hends : v.EndsLogin e n) :
    (v.isOpen n = true ∨ ∃ ps, v.current = some (n, ps)) ∧
      (∀ id, w.userIdMap id ≠ v.userIdMap id → id = v.userId n ∧ v.OwnsEntry n) ∧
      ∀ key, w.redis key ≠ v.redis key →
        key = v.token n ∧ HasJoined n v.log ∨ v.stat n = .matchComplete ∧ key = v.roomKey n := by
  rcases hends with ⟨live, error, rfl, herror⟩ | ⟨answers, rest, rfl, hcur⟩ |
    ⟨answers, rest, rfl, hcur⟩
  · obtain ⟨htoken, hentry⟩ := howns herror
    cases h with
    | readFailed _ _ => exact absurd rfl herror
    | disconnected _ hread _ =>
      refine ⟨Or.inl ((hp.isOpen_iff n).2 (hp.read_active n hread)), fun id hid => ?_,
        fun key hkey => ?_⟩
      · obtain ⟨hdrops, hid⟩ :=
          View.close_drops (v := { v with reads := v.reads.erase ⟨n, true⟩ }) hid
        exact ⟨hid, hentry hdrops⟩
      · rcases View.close_removes (v := { v with reads := v.reads.erase ⟨n, true⟩ }) hkey with
          ⟨hdrops, rfl, hsome⟩ | hroom
        · exact Or.inl ⟨rfl, htoken hdrops hsome⟩
        · exact Or.inr hroom
  · refine ⟨Or.inr ⟨_, hcur⟩, ?_⟩
    simp only [View.OwnsLogin, hcur] at howns
    cases h with
    | packet hcur' hpacket =>
      obtain ⟨rfl, heq⟩ := Prod.mk.inj (Option.some.inj (hcur.symm.trans hcur'))
      obtain ⟨rfl, rfl⟩ := List.cons.inj heq
      cases hpacket with
      | notConfirmed _ => exact ⟨fun id hid => absurd rfl hid, fun key hkey => absurd rfl hkey⟩
      | confirmed hst =>
        refine ⟨fun id hid => ?_, fun key hkey => ?_⟩
        · exact ⟨(View.close_drops (v := View.setStat _ n .matchConfirm) hid).2, howns hst⟩
        · -- in the status `MATCH_CONFIRM` nothing is removed from redis
          have hset : (View.setStat { v with current := some (n, rest) } n .matchConfirm).stat n =
              .matchConfirm := Function.update_self _ _ _
          rcases View.close_removes (v := View.setStat _ n .matchConfirm) hkey with
            ⟨hdrops, -⟩ | ⟨hcomplete, -⟩
          · rw [hset] at hdrops
            cases hdrops
          · exact absurd (hset.symm.trans hcomplete) (by simp)
  · refine ⟨Or.inr ⟨_, hcur⟩, ?_⟩
    simp only [View.OwnsLogin, hcur] at howns
    cases h with
    | packet hcur' hpacket =>
      obtain ⟨rfl, heq⟩ := Prod.mk.inj (Option.some.inj (hcur.symm.trans hcur'))
      obtain ⟨rfl, rfl⟩ := List.cons.inj heq
      cases hpacket with
      | notLoggedOut _ => exact ⟨fun id hid => absurd rfl hid, fun key hkey => absurd rfl hkey⟩
      | @loggedOut id hkv =>
        have hkv : v.redis (v.token n) = some id := hkv
        have hsome : v.redis (v.token n) ≠ none := by simp [hkv]
        refine ⟨fun u hu => ⟨?_, howns.2 hsome⟩, fun key hkey => Or.inl ⟨?_, howns.1 hsome⟩⟩
        · by_contra hne
          exact hu (Function.update_of_ne hne _ _)
        · by_contra hne
          exact hkey (Function.update_of_ne hne _ _)

/-- **Only one's own login is removed**, in runs whose sessions own the keys that they remove:
when a connection ends or is closed, or a session logs out, the entries that disappear from the
login map name the session, and the keys that disappear from redis are the token of the latest
login of the session on this connection and, in the status `MATCH_COMPLETE`, the room key of its
current match. -/
theorem only_own_login_removed {s s' : Server} {past : List Server} {e : Event} {n : SessionId}
    (h : ReachedBy (fun s e => s.view.OwnsLogin e) s) (hpast : Runs.Trace Initial Step past s)
    (howns : s.view.OwnsLogin e) (hstep : Step s e s') (hends : s.view.EndsLogin e n) :
    (∀ id m, s.userIdMap id = some m → s'.userIdMap id ≠ some m → m = n) ∧
    ∀ key, s'.redis key ≠ s.redis key →
      LoggedInWith past n key s.log ∨
        (s.sess n).stat = .matchComplete ∧ (s.sess n).roomKey = key ∧ InMatch n key s.log := by
  have hreach : Reachable s := h.unconditional
  obtain ⟨hn, hmap, hredis⟩ := (view_step hstep).removes hreach.poolOk howns hends
  constructor
  · intro id m hm hgone
    have hchanged : s'.view.userIdMap id ≠ s.view.userIdMap id := by
      intro heq
      exact hgone (heq.trans hm)
    obtain ⟨rfl, hentry⟩ := hmap id hchanged
    exact (ownersOk_of_ownsLogin h).own hn hentry hm
  · intro key hkey
    by_cases hroom : (s.sess n).stat = .matchComplete ∧ key = (s.sess n).roomKey
    · obtain ⟨hst, rfl⟩ := hroom
      exact Or.inr ⟨hst, rfl, hreach.inMatch hst⟩
    · obtain ⟨rfl, hjoined⟩ := (hredis key hkey).resolve_right hroom
      exact Or.inl (loggedInWith_token hpast hjoined)

/-! ### A session that has logged out -/

/-- Three sessions, and one user with two tokens. -/
def oneUserTwoTokens : Boot :=
  Boot.plain 3 1
    (fun token => if token = lit "ta" ∨ token = lit "tb" then some (lit "a") else none)
    ⟨[⟨lit "a", 3, 1, 350⟩], []⟩

/-- The user logs in on session 0, logs out, and logs in again on session 1.  Session 0 asks for
a match, which needs no login, and its connection ends: the entry of session 1 is removed. -/
theorem other_login_removed :
    ∃ s s', Reachable s ∧ Step s (.receiveError 0 true .eof) s' ∧
      s.userIdMap (lit "a") = some 1 ∧ s'.userIdMap (lit "a") = none := by
  have hrun : (run oneUserTwoTokens [.acceptDone 0 false, .acceptDone 1 false,
      .receive 0 [.joinReq ⟨lit "ta", lit "a"⟩, .logoutReq], .packet ⟨[], [], 1⟩,
      .packet ⟨[], [], 1⟩, .receiveEnd, .receive 1 [.joinReq ⟨lit "tb", lit "a"⟩],
      .packet ⟨[], [], 1⟩, .receiveEnd, .receive 0 [.playRankReq], .packet ⟨[], [], 1⟩,
      .receiveEnd]).map
      (fun s => (s.userIdMap (lit "a"), (next s (.receiveError 0 true .eof)).map fun s' =>
        s'.userIdMap (lit "a"))) = some (some 1, some none) := by decide
  obtain ⟨s, hs, heq⟩ := Option.map_eq_some_iff.1 hrun
  obtain ⟨hmap, hnext⟩ := Prod.mk.inj heq
  obtain ⟨s', hs', hgone⟩ := Option.map_eq_some_iff.1 hnext
  exact ⟨s, s', reachable_of_run hs, step_of_next hs', hmap, hgone⟩

/-- `OwnsLogin` as a computation, for the events of an example. -/
private def ownsLoginTest (s : Server) : Event → Bool
  | .acceptDone _ _ => true
  | .receive _ _ => true
  | .receiveEnd => true
  | .packet _ =>
      match s.current with
      | some (_, .joinReq _ :: _) => true
      | _ => false
  | .receiveError n _ _ => (loggedInAs n s.log).isSome
  | _ => false

private lemma ownsLogin_of_test {s : Server} {e : Event} (h : ownsLoginTest s e = true) :
    s.view.OwnsLogin e := by
  cases e with
  | packet answers =>
    simp only [ownsLoginTest] at h
    split at h
    · rename_i n message rest hcur
      have hcur' : s.view.current = some (n, .joinReq message :: rest) := hcur
      simp only [View.OwnsLogin, hcur']
    · cases h
  | receiveError n live error =>
    have hin : loggedInAs n s.log ≠ none := Option.isSome_iff_ne_none.1 h
    exact fun _ => ⟨fun _ _ => hasJoined_of_loggedInAs hin, fun _ _ => hin⟩
  | acceptDone _ _ | receive _ _ | receiveEnd | startAccept | timer _ _ _ | writeDone _ _
  | world _ _ => trivial

/-- A client logs in as `a` and disconnects. -/
theorem only_own_login_removed_disconnect :
    ∃ past s s', Runs.Trace Initial Step past s ∧ Step s (.receiveError 0 true .eof) s' ∧
      s.userIdMap (lit "a") = some 0 ∧ s'.userIdMap (lit "a") = none ∧
      (∀ id m, s.userIdMap id = some m → s'.userIdMap id ≠ some m → m = 0) ∧
      ∀ key, s'.redis key ≠ s.redis key →
        LoggedInWith past 0 key s.log ∨
          (s.sess 0).stat = .matchComplete ∧ (s.sess 0).roomKey = key ∧ InMatch 0 key s.log := by
  have hrun : (runIf ownsLoginTest oneUserTwoTokens [.acceptDone 0 false,
      .receive 0 [.joinReq ⟨lit "ta", lit "a"⟩], .packet ⟨[], [], 1⟩, .receiveEnd]).map
      (fun s => (s.userIdMap (lit "a"), ownsLoginTest s (.receiveError 0 true .eof),
        (next s (.receiveError 0 true .eof)).map fun s' => s'.userIdMap (lit "a"))) =
      some (some 0, true, some none) := by decide
  obtain ⟨s, hs, heq⟩ := Option.map_eq_some_iff.1 hrun
  simp only [Prod.mk.injEq] at heq
  obtain ⟨hmap, htest, hnext⟩ := heq
  obtain ⟨s', hs', hgone⟩ := Option.map_eq_some_iff.1 hnext
  have hreach := reachedBy_of_runIf (fun _ _ => ownsLogin_of_test) hs
  obtain ⟨past, hpast⟩ := hreach.exists_trace
  have hends : s.view.EndsLogin (.receiveError 0 true .eof) 0 :=
    Or.inl ⟨true, .eof, rfl, by simp⟩
  exact ⟨past, s, s', hpast, step_of_next hs', hmap, hgone,
    only_own_login_removed hreach hpast (ownsLogin_of_test htest) (step_of_next hs') hends⟩

end ChannelServer
