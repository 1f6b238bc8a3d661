/-
Requests between friends that are turned down.

`process_matching_with_friends` looks the target up in `user_id_map_`, and the three branches
guard their use of the pointer that they get.  When a guard fails, the requester is sent one
message.  Two of the ways to turn a request down do more than this: a rejected DENY writes the
user id of the target to the log, also for a target that was not found, and a request whose
target is the requester itself sets its status.  `null_session_iff` and `refusal_keeps_state_iff`
say when this goes wrong, and that nothing else does.
-/
import ChannelServer.Locks
import ChannelServer.LoginMap
import ChannelServer.Rooms

namespace ChannelServer

open Resumption

/-! ### Pointers that were not found -/

/-- The program does not call a member of a null session. -/
abbrev NonNull {α : Type} (p : Handler α) : Prop := p.Avoids Fault.nullDeref

lemma nonNull_getSess {β : Type} (n : SessionId) (f : Session → β) : NonNull (getSess n f) :=
  Prog.avoids_atomic _

lemma nonNull_lock (m : Mutex) : NonNull (lock m) := by
  refine Prog.avoids_act fun s h => ?_
  split at h <;> cases h

lemma nonNull_unlock (m : Mutex) : NonNull (unlock m) := Prog.avoids_atomic _

lemma nonNull_sendMessage (n : SessionId) (message : Message) :
    NonNull (sendMessage n message) :=
  Prog.avoids_bind (Prog.avoids_atomic _) fun _ => Prog.avoids_atomic _

/-! #### The login map and the database -/

lemma nonNull_findIdInUserMap (id : Str) : NonNull (findIdInUserMap id) :=
  Prog.avoids_bind (nonNull_lock _) fun _ => Prog.avoids_bind (Prog.avoids_atomic _) fun _ =>
    Prog.avoids_bind (nonNull_unlock _) fun _ => Prog.avoids_pure _

lemma nonNull_delIdInUserMap (id : Str) : NonNull (delIdInUserMap id) := by
  refine Prog.avoids_bind (nonNull_lock _) fun _ =>
    Prog.avoids_bind (Prog.avoids_atomic _) fun iter => ?_
  refine Prog.avoids_ite (Prog.avoids_bind (Prog.avoids_atomic _) fun _ => ?_) ?_ <;>
    exact Prog.avoids_bind (nonNull_unlock _) fun _ => Prog.avoids_pure _

lemma nonNull_addIdInUserMap (n : SessionId) (id : Str) : NonNull (addIdInUserMap n id) := by
  refine Prog.avoids_bind (nonNull_lock _) fun _ =>
    Prog.avoids_bind (Prog.avoids_atomic _) fun iter => ?_
  refine Prog.avoids_ite (Prog.avoids_bind (Prog.avoids_atomic _) fun _ => ?_) ?_ <;>
    exact Prog.avoids_bind (nonNull_unlock _) fun _ => Prog.avoids_pure _

lemma nonNull_acquireConnection : NonNull acquireConnection := by
  have hget : NonNull getConnection := by
    refine Prog.avoids_bind (nonNull_lock _) fun _ =>
      Prog.avoids_bind (Prog.avoids_atomic _) fun que => ?_
    cases que with
    | nil => exact Prog.avoids_bind (nonNull_unlock _) fun _ => Prog.avoids_pure _
    | cons index rest =>
      exact Prog.avoids_bind (Prog.avoids_atomic _) fun _ =>
        Prog.avoids_bind (nonNull_unlock _) fun _ =>
        Prog.avoids_bind (Prog.avoids_atomic _) fun _ =>
        Prog.avoids_ite (Prog.avoids_pure _) (Prog.avoids_fail (by simp))
  refine Prog.avoids_bind (Prog.avoids_atomic _) fun k => ?_
  induction k with
  | zero => exact Prog.avoids_fail (by simp)
  | succ k ih =>
    refine Prog.avoids_bind hget fun index => ?_
    cases index with
    | none => exact ih
    | some i => exact Prog.avoids_pure _

lemma nonNull_releaseConnection (index : ℕ) : NonNull (releaseConnection index) :=
  Prog.avoids_bind (nonNull_lock _) fun _ =>
    Prog.avoids_bind (Prog.avoids_atomic _) fun _ => nonNull_unlock _

lemma nonNull_getQueryUserInfo (id : Str) : NonNull (getQueryUserInfo id) := by
  refine Prog.avoids_bind nonNull_acquireConnection fun _ =>
    Prog.avoids_bind (Prog.avoids_atomic _) fun result => ?_
  cases result <;>
    exact Prog.avoids_bind (nonNull_releaseConnection _) fun _ => Prog.avoids_pure _

lemma nonNull_getUserFriendsList (id : Str) : NonNull (getUserFriendsList id) := by
  refine Prog.avoids_bind nonNull_acquireConnection fun _ =>
    Prog.avoids_bind (Prog.avoids_atomic _) fun result => ?_
  cases result <;>
    exact Prog.avoids_bind (nonNull_releaseConnection _) fun _ => Prog.avoids_pure _

lemma nonNull_addUserFrinedsList (id target : Str) : NonNull (addUserFrinedsList id target) := by
  have hcheck : NonNull (checkRepetition id target) := by
    refine Prog.avoids_bind (Prog.avoids_atomic _) fun result => ?_
    cases result <;> exact Prog.avoids_pure _
  exact Prog.avoids_bind nonNull_acquireConnection fun _ => Prog.avoids_bind hcheck fun _ =>
    Prog.avoids_ite
      (Prog.avoids_bind (Prog.avoids_atomic _) fun _ =>
        Prog.avoids_bind (nonNull_releaseConnection _) fun _ => Prog.avoids_pure _)
      (Prog.avoids_bind (nonNull_releaseConnection _) fun _ => Prog.avoids_pure _)

lemma nonNull_delUserFrinedsList (id target : Str) : NonNull (delUserFrinedsList id target) := by
  refine Prog.avoids_bind nonNull_acquireConnection fun _ =>
    Prog.avoids_bind (Prog.avoids_atomic _) fun result =>
    Prog.avoids_bind (nonNull_releaseConnection _) fun _ => ?_
  cases result <;> exact Prog.avoids_pure _

/-! #### Login, logout and the friend list -/

lemma nonNull_loginAs (n : SessionId) (token id : Str) : NonNull (loginAs n token id) := by
  have hfail : NonNull (do
      sendMessage n (.joinAns false (some none) [])
      pure false : Handler Bool) :=
    Prog.avoids_bind (nonNull_sendMessage _ _) fun _ => Prog.avoids_pure _
  refine Prog.avoids_bind (nonNull_getQueryUserInfo _) fun row => ?_
  cases row with
  | none => exact Prog.avoids_bind (Prog.avoids_atomic _) fun _ => hfail
  | some row =>
    refine Prog.avoids_bind (nonNull_getUserFriendsList _) fun list => ?_
    cases list with
    | none => exact hfail
    | some friends =>
      exact Prog.avoids_bind (Prog.avoids_atomic _) fun _ =>
        Prog.avoids_bind (Prog.avoids_atomic _) fun _ =>
        Prog.avoids_bind (Prog.avoids_atomic _) fun _ =>
        Prog.avoids_bind (nonNull_getSess _ _) fun _ =>
        Prog.avoids_bind (nonNull_addIdInUserMap _ _) fun _ =>
        Prog.avoids_bind (Prog.avoids_atomic _) fun _ =>
        Prog.avoids_bind (Prog.avoids_atomic _) fun _ =>
        Prog.avoids_bind (nonNull_sendMessage _ _) fun _ => Prog.avoids_pure _

lemma nonNull_lobbyLoginProcess (n : SessionId) (message : JoinRequest) :
    NonNull (lobbyLoginProcess n message) := by
  have hadmitted : NonNull (admittedId message.token) := by
    refine Prog.avoids_bind (Prog.avoids_atomic _) fun kv => ?_
    cases kv with
    | none => exact Prog.avoids_pure _
    | some id =>
      refine Prog.avoids_bind (nonNull_findIdInUserMap _) fun found => ?_
      cases found <;> exact Prog.avoids_pure _
  refine Prog.avoids_bind (nonNull_getSess _ _) fun _ => Prog.avoids_ite ?_ (Prog.avoids_pure _)
  refine Prog.avoids_bind hadmitted fun admitted => ?_
  cases admitted with
  | some id => exact nonNull_loginAs _ _ _
  | none =>
    exact Prog.avoids_bind (Prog.avoids_atomic _) fun _ =>
      Prog.avoids_bind (nonNull_sendMessage _ _) fun _ => Prog.avoids_pure _

lemma nonNull_lobbyLogoutProcess (n : SessionId) : NonNull (lobbyLogoutProcess n) := by
  refine Prog.avoids_bind (nonNull_getSess _ _) fun _ =>
    Prog.avoids_bind (Prog.avoids_atomic _) fun kv => ?_
  cases kv with
  | none => exact Prog.avoids_pure _
  | some id =>
    exact Prog.avoids_bind (nonNull_getSess _ _) fun _ =>
      Prog.avoids_bind (Prog.avoids_atomic _) fun _ =>
      Prog.avoids_bind (nonNull_getSess _ _) fun _ =>
      Prog.avoids_bind (nonNull_delIdInUserMap _) fun _ =>
      Prog.avoids_bind (Prog.avoids_atomic _) fun _ =>
      Prog.avoids_bind (Prog.avoids_atomic _) fun _ =>
      Prog.avoids_bind (nonNull_sendMessage _ _) fun _ => Prog.avoids_pure _

/-- The record of a session that is known. -/
lemma nonNull_matchInfo (n : SessionId) : NonNull (matchInfo n) :=
  Prog.avoids_bind (nonNull_getSess _ _) fun _ => Prog.avoids_bind (nonNull_getSess _ _) fun _ =>
    Prog.avoids_bind (nonNull_getSess _ _) fun _ => Prog.avoids_bind (nonNull_getSess _ _) fun _ =>
    Prog.avoids_bind (nonNull_getSess _ _) fun _ => Prog.avoids_pure _

/-- The search reads the record of the target only when it was found. -/
lemma nonNull_searchUser (n : SessionId) (target : Str) : NonNull (searchUser n target) := by
  refine Prog.avoids_bind (Prog.avoids_bind (nonNull_findIdInUserMap _) fun found => ?_) fun _ =>
    Prog.avoids_bind (nonNull_sendMessage _ _) fun _ => Prog.avoids_pure _
  cases found with
  | none =>
    refine Prog.avoids_bind (nonNull_getQueryUserInfo _) fun row => ?_
    cases row <;> exact Prog.avoids_pure _
  | some k =>
    exact Prog.avoids_bind (nonNull_getSess _ _) fun _ =>
      Prog.avoids_bind (nonNull_getSess _ _) fun _ =>
      Prog.avoids_bind (nonNull_getSess _ _) fun _ =>
      Prog.avoids_bind (nonNull_getSess _ _) fun _ =>
      Prog.avoids_bind (nonNull_getSess _ _) fun _ => Prog.avoids_pure _

lemma nonNull_changeFriends {guard : ℤ → Bool} {change : Str → Str → Handler Bool} {step : ℤ}
    {success failure : FriendsAnsType} (hchange : ∀ id target, NonNull (change id target))
    (n : SessionId) (target : Str) :
    NonNull (changeFriends guard change step success failure n target) := by
  have hsend : ∀ (message : Message) (b : Bool), NonNull (do
      sendMessage n message
      pure b : Handler Bool) := fun _ _ =>
    Prog.avoids_bind (nonNull_sendMessage _ _) fun _ => Prog.avoids_pure _
  exact Prog.avoids_bind (nonNull_getSess _ _) fun _ => Prog.avoids_ite
    (Prog.avoids_bind (nonNull_getSess _ _) fun _ => Prog.avoids_bind (hchange _ _) fun _ =>
      Prog.avoids_ite (Prog.avoids_bind (Prog.avoids_atomic _) fun _ => hsend _ _) (hsend _ _))
    (hsend _ _)

lemma nonNull_processFriendsFunction (n : SessionId) (message : FriendsRequest) :
    NonNull (processFriendsFunction n message) := by
  unfold processFriendsFunction
  cases message.type with
  | add =>
    exact Prog.avoids_bind (nonNull_changeFriends nonNull_addUserFrinedsList _ _) fun _ =>
      Prog.avoids_pure _
  | del =>
    exact Prog.avoids_bind (nonNull_changeFriends nonNull_delUserFrinedsList _ _) fun _ =>
      Prog.avoids_pure _
  | search => exact Prog.avoids_bind (nonNull_searchUser _ _) fun _ => Prog.avoids_pure _

/-! #### Matches -/

lemma nonNull_makeMatchingAndSendComplete (a b : SessionId) :
    NonNull (makeMatchingAndSendComplete a b) := by
  have hdraw : NonNull generateRoomKey := by
    refine Prog.avoids_act fun s h => ?_
    split at h <;> cases h
  have hkey : NonNull chooseRoomKey := by
    refine Prog.avoids_bind (Prog.avoids_atomic _) fun k => ?_
    induction k with
    | zero => exact Prog.avoids_fail (by simp)
    | succ k ih =>
      refine Prog.avoids_bind hdraw fun key =>
        Prog.avoids_bind (Prog.avoids_atomic _) fun val => ?_
      cases val with
      | none => exact Prog.avoids_bind (Prog.avoids_atomic _) fun _ => Prog.avoids_pure _
      | some v => exact ih
  have hsend : ∀ n key opponent, NonNull (sendComplete n key opponent) := fun _ _ _ =>
    Prog.avoids_bind (Prog.avoids_atomic _) fun _ =>
      Prog.avoids_bind (Prog.avoids_atomic _) fun _ => nonNull_sendMessage _ _
  exact Prog.avoids_bind hkey fun _ => Prog.avoids_bind (Prog.avoids_atomic _) fun _ =>
    Prog.avoids_bind (nonNull_matchInfo _) fun _ => Prog.avoids_bind (nonNull_matchInfo _) fun _ =>
    Prog.avoids_bind (hsend _ _ _) fun _ => hsend _ _ _

lemma nonNull_getMatchingQue (r : QueId) : NonNull (getMatchingQue r) := by
  have hfront : NonNull (queFront r) := by
    refine Prog.avoids_act fun s h => ?_
    split at h <;> cases h
  have hpop : NonNull (quePopFront r) := by
    refine Prog.avoids_act fun s h => ?_
    split at h <;> cases h
  have hwaiting : ∀ n, NonNull (isWaiting n) := fun n =>
    Prog.avoids_bind (nonNull_getSess _ _) fun _ =>
      Prog.avoids_ite (Prog.avoids_bind (nonNull_getSess _ _) fun _ => Prog.avoids_pure _)
        (Prog.avoids_pure _)
  have hselect : NonNull (selectPlayers r) := by
    refine Prog.avoids_bind (Prog.avoids_atomic _) fun _ => Prog.avoids_ite ?_ (Prog.avoids_pure _)
    refine Prog.avoids_bind hfront fun _ => Prog.avoids_bind hpop fun _ =>
      Prog.avoids_bind (hwaiting _) fun _ => Prog.avoids_ite ?_ (Prog.avoids_pure _)
    exact Prog.avoids_bind hfront fun _ => Prog.avoids_bind hpop fun _ =>
      Prog.avoids_bind (hwaiting _) fun _ => Prog.avoids_ite
        (Prog.avoids_bind (Prog.avoids_atomic _) fun _ => Prog.avoids_pure _)
        (Prog.avoids_bind (Prog.avoids_atomic _) fun _ => Prog.avoids_pure _)
  refine Prog.avoids_bind hselect fun players => ?_
  cases players with
  | none => exact Prog.avoids_pure _
  | some pair =>
    exact Prog.avoids_bind (nonNull_makeMatchingAndSendComplete _ _) fun _ => Prog.avoids_pure _

lemma nonNull_processMatching (n : SessionId) : NonNull (processMatching n) := by
  have harm : ∀ sec, NonNull (controlTimerRematch n sec true) := fun sec =>
    Prog.avoids_ite (Prog.avoids_bind (Prog.avoids_atomic _) fun _ => Prog.avoids_atomic _)
      (Prog.avoids_pure _)
  refine Prog.avoids_bind (nonNull_getSess _ _) fun _ =>
    Prog.avoids_bind (Prog.avoids_atomic _) fun _ => Prog.avoids_bind (nonNull_lock _) fun _ =>
    Prog.avoids_bind (Prog.avoids_atomic _) fun _ =>
    Prog.avoids_bind (Prog.avoids_atomic _) fun _ =>
    Prog.avoids_bind (nonNull_getMatchingQue _) fun _ => ?_
  exact Prog.avoids_ite (nonNull_unlock _)
    (Prog.avoids_bind (Prog.avoids_atomic _) fun _ =>
      Prog.avoids_ite (Prog.avoids_bind (harm _) fun _ => nonNull_unlock _) (nonNull_unlock _))

/-! #### Closing -/

lemma nonNull_finishClose (n : SessionId) : NonNull (finishClose n) := by
  have haccept : NonNull waitAccept := by
    refine Prog.avoids_bind (nonNull_lock _) fun _ =>
      Prog.avoids_bind (Prog.avoids_atomic _) fun que => ?_
    cases que with
    | nil =>
      exact Prog.avoids_bind (Prog.avoids_atomic _) fun _ =>
        Prog.avoids_bind (nonNull_unlock _) fun _ => Prog.avoids_pure _
    | cons k rest =>
      exact Prog.avoids_bind (Prog.avoids_atomic _) fun _ =>
        Prog.avoids_bind (Prog.avoids_atomic _) fun _ =>
        Prog.avoids_bind (nonNull_unlock _) fun _ => Prog.avoids_bind
          (Prog.avoids_bind (Prog.avoids_atomic _) fun _ => Prog.avoids_atomic _) fun _ =>
        Prog.avoids_pure _
  exact Prog.avoids_bind (Prog.avoids_atomic _) fun _ =>
    Prog.avoids_bind (Prog.avoids_atomic _) fun _ =>
    Prog.avoids_bind (Prog.avoids_atomic _) fun _ => Prog.avoids_bind (nonNull_lock _) fun _ =>
    Prog.avoids_bind (Prog.avoids_atomic _) fun _ =>
    Prog.avoids_bind (Prog.avoids_atomic _) fun _ =>
    Prog.avoids_ite (Prog.avoids_bind haccept fun _ => nonNull_unlock _) (nonNull_unlock _)

lemma nonNull_closeSession (n : SessionId) : NonNull (closeSession n) := by
  have hforget : NonNull (do forgetLogin n; finishClose n : Handler Unit) := by
    refine Prog.avoids_bind ?_ fun _ => nonNull_finishClose n
    exact Prog.avoids_bind (nonNull_getSess _ _) fun _ =>
      Prog.avoids_bind (Prog.avoids_atomic _) fun _ =>
      Prog.avoids_bind (nonNull_getSess _ _) fun _ =>
      Prog.avoids_bind (nonNull_delIdInUserMap _) fun _ => Prog.avoids_pure _
  refine Prog.avoids_bind (nonNull_getSess _ _) fun st => ?_
  cases st with
  | wait | matchApply => exact Prog.avoids_pure _
  | conn | logout => exact nonNull_finishClose n
  | login | matchRequest | matchRecver => exact hforget
  | matchConfirm =>
    exact Prog.avoids_bind (nonNull_getSess _ _) fun _ =>
      Prog.avoids_bind (nonNull_delIdInUserMap _) fun _ => nonNull_finishClose n
  | matchComplete =>
    exact Prog.avoids_bind (nonNull_getSess _ _) fun _ =>
      Prog.avoids_bind (Prog.avoids_atomic _) fun _ =>
      Prog.avoids_bind (Prog.avoids_atomic _) fun _ => hforget

/-! ### The pointer of the relay -/

section Relay

variable {s s' : Server} {n : SessionId} {message : MatchWithFriendsRelay}

lemma nonNull_bothHave (st : Status) (recv : Option SessionId) (st' : Status) :
    NonNull (bothHave n st recv st') := by
  cases recv with
  | none => exact Prog.avoids_pure _
  | some m =>
    exact Prog.avoids_bind (nonNull_getSess _ _) fun _ => Prog.avoids_ite
      (Prog.avoids_bind (nonNull_getSess _ _) fun _ =>
        Prog.avoids_ite (Prog.avoids_pure _) (Prog.avoids_pure _))
      (Prog.avoids_pure _)

/-- With a target that is online, or a request that is no DENY, the relay does not use a null
pointer. -/
lemma relay_nonNull (hmtx : s.mtx .userIdMapMtx = 0)
    (h : message.type = .deny → s.userIdMap message.targetId ≠ none) :
    (processMatchingWithFriends n message).run s ≠ .failed .nullDeref := by
  unfold processMatchingWithFriends
  rw [Prog.run_bind, findIdInUserMap_run _ hmtx, Out.bind_done]
  refine Prog.Avoids.run (Prog.avoids_ite ?_ ?_) s
  · exact Prog.avoids_bind (Prog.avoids_atomic _) fun _ => nonNull_sendMessage _ _
  cases htype : message.type with
  | accept =>
    refine Prog.avoids_bind (nonNull_bothHave _ _ _) fun found => ?_
    cases found with
    | none => exact nonNull_sendMessage _ _
    | some m => exact nonNull_makeMatchingAndSendComplete _ _
  | apply =>
    refine Prog.avoids_bind (nonNull_bothHave _ _ _) fun found => ?_
    cases found with
    | none => exact nonNull_sendMessage _ _
    | some m =>
      exact Prog.avoids_bind (nonNull_getSess _ _) fun _ =>
        Prog.avoids_bind (Prog.avoids_atomic _) fun _ =>
        Prog.avoids_bind (Prog.avoids_atomic _) fun _ =>
        Prog.avoids_bind (Prog.avoids_atomic _) fun _ => nonNull_sendMessage _ _
  | deny =>
    refine Prog.avoids_bind (nonNull_bothHave _ _ _) fun found => ?_
    cases found with
    | none =>
      refine Prog.avoids_bind (nonNull_sendMessage _ _) fun _ => Prog.avoids_bind ?_ fun _ =>
        Prog.avoids_pure _
      obtain ⟨m, hm⟩ := Option.ne_none_iff_exists'.1 (h htype)
      rw [hm]
      exact nonNull_getSess m (·.userId)
    | some m =>
      exact Prog.avoids_bind (nonNull_getSess _ _) fun _ =>
        Prog.avoids_bind (Prog.avoids_atomic _) fun _ =>
        Prog.avoids_bind (Prog.avoids_atomic _) fun _ => nonNull_sendMessage _ _

/-- The log line of a DENY that is turned down reads through the pointer that was not found. -/
lemma relay_null (hmtx : s.mtx .userIdMapMtx = 0) (htype : message.type = .deny)
    (hnone : s.userIdMap message.targetId = none) :
    (processMatchingWithFriends n message).run s = .failed .nullDeref := by
  unfold processMatchingWithFriends
  rw [Prog.run_bind, findIdInUserMap_run _ hmtx, Out.bind_done, hnone, if_neg (by simp), htype]
  rfl

/-- **A null session is dereferenced by one packet only**: a DENY for a user who is not online. -/
theorem null_session_iff (h : Reachable s) (n : SessionId) (packet : Packet)
    (answers : Answers) :
    (processPacket n packet).run { s with answers := answers } ≠ .failed .nullDeref ↔
      ∀ message, packet = .playFriendsRel message → message.type = .deny →
        s.userIdMap message.targetId ≠ none := by
  have hmtx : s.mtx .userIdMapMtx = 0 := congrFun h.mtx_free _
  constructor
  · rintro hrun message rfl htype hnone
    exact hrun (relay_null hmtx htype hnone)
  · intro hcond
    cases packet with
    | playFriendsRel message => exact relay_nonNull hmtx (hcond message rfl)
    | friendsReq message => exact (nonNull_processFriendsFunction n message).run _
    | playRankReq => exact (nonNull_processMatching n).run _
    | joinReq message =>
      exact (Prog.avoids_bind (nonNull_lobbyLoginProcess n message) fun _ =>
        Prog.avoids_pure _).run _
    | logoutReq =>
      exact (Prog.avoids_bind (nonNull_lobbyLogoutProcess n) fun _ => Prog.avoids_pure _).run _
    | matchConfirm =>
      have hconfirm : NonNull (processMatchConfirm n) :=
        Prog.avoids_bind (nonNull_getSess _ _) fun _ => Prog.avoids_ite
          (Prog.avoids_bind (Prog.avoids_atomic _) fun _ => Prog.avoids_pure _)
          (Prog.avoids_pure _)
      exact (Prog.avoids_bind hconfirm fun _ =>
        Prog.avoids_ite (nonNull_closeSession n) (Prog.avoids_pure _)).run _
    | errorMsg message =>
      exact (Prog.avoids_bind (Prog.avoids_atomic _) fun _ =>
        Prog.avoids_bind (Prog.avoids_atomic _) fun _ => nonNull_sendMessage _ _).run _
    | other type => exact (Prog.avoids_pure ()).run _

end Relay

/-- Two sessions, and a client that sends, before any login, a DENY for a user who is not online:
the server dereferences a null session. -/
theorem null_session_dereferenced :
    ∃ s packet answers, Reachable s ∧ s.current = some (0, [packet]) ∧
      outcome s (.packet answers) = some (.failed .nullDeref) := by
  have hrun : (run twoUsers [.acceptDone 0 false,
      .receive 0 [.playFriendsRel ⟨some .deny, some (lit "b"), []⟩]]).map
      (fun s => (s.current, (outcome s (.packet ⟨[], [], 1⟩)).map (·.failure))) =
      some (some (0, [.playFriendsRel ⟨some .deny, some (lit "b"), []⟩]),
        some (some .nullDeref)) := by
    decide
  obtain ⟨s, hs, heq⟩ := Option.map_eq_some_iff.1 hrun
  obtain ⟨hcur, hout⟩ := Prod.mk.inj heq
  obtain ⟨o, ho, hfail⟩ := Option.map_eq_some_iff.1 hout
  rw [Out.failure_eq_some] at hfail
  subst hfail
  exact ⟨s, _, ⟨[], [], 1⟩, reachable_of_run hs, hcur, ho⟩

/-- The same DENY when the user is online. -/
theorem null_session_iff_online :
    ∃ s, Reachable s ∧
      (processPacket 0 (.playFriendsRel ⟨some .deny, some (lit "b"), []⟩)).run
        { s with answers := ⟨[], [], 1⟩ } ≠ .failed .nullDeref := by
  have hrun : (run twoUsers [.acceptDone 0 false, .acceptDone 1 false,
      .receive 1 [.joinReq ⟨lit "tb", lit "b"⟩], .packet ⟨[], [], 1⟩]).map
      (fun s => s.userIdMap (lit "b")) = some (some 1) := by decide
  obtain ⟨s, hs, hmap⟩ := Option.map_eq_some_iff.1 hrun
  refine ⟨s, reachable_of_run hs, (null_session_iff (reachable_of_run hs) 0 _ _).2 ?_⟩
  rintro message heq -
  obtain rfl := Packet.playFriendsRel.inj heq
  exact fun hnone => absurd (hmap.symm.trans hnone) (by simp)

/-! ### Requests that are turned down -/

section Refusal

variable {s s' : Server} {n : SessionId} {message : MatchWithFriendsRelay}

/-- The session is sent one message, and its status is the given one. -/
def Session.told (x : Session) (addr : ℕ) (message : Message) (st : Status) : Session :=
  { x with stat := st, send := x.send.push ⟨addr, message⟩ }

/-- What a request that is turned down does. -/
def Server.told (s : Server) (n : SessionId) (message : Message) (st : Status) : Server :=
  { s with
    heap := s.heap + 1
    sess := Function.update s.sess n ((s.sess n).told s.heap message st) }

/-- The answers to a request that is turned down. -/
def Refusal (message : MatchWithFriendsRelay) (answer : Message) : Prop :=
  answer = .playFriendsRel (message.setType .deny) ∨ ∃ report, answer = .errorMsg report

/-- A message that is relayed after the statuses of both sessions were set. -/
lemma relayed_send {m : SessionId} {st st' : Status} {log : List Mark} {answer : Message}
    (hne : m ≠ n) :
    ((Server.sent { (s.setStat n st).setStat m st' with log := log } m answer).sess m).send =
      (s.sess m).send.push ⟨s.heap, answer⟩ := by
  simp only [Server.sent, Server.setStat, Server.setSess, Function.update_self,
    Function.update_of_ne hne]
  rfl

/-- **The relay.**  A request is turned down with one message to the requester, or another
session is sent a message. -/
lemma relay_cases {u : Unit} (h : (processMatchingWithFriends n message).run s = .done u s') :
    (∃ answer, Refusal message answer ∧ s' = s.told n answer
      (if s.userIdMap message.targetId = some n then .login else (s.sess n).stat)) ∨
      ∃ m b, m ≠ n ∧ (s'.sess m).send = (s.sess m).send.push b := by
  cases processMatchingWithFriends_eq_done h with
  | self hself =>
    refine Or.inl ⟨_, Or.inl rfl, ?_⟩
    rw [if_pos hself]
    simp only [Server.sent, Server.setStat, Server.setSess, Server.told, Session.told,
      Function.update_self, Function.update_idem]
    rfl
  | refused hself _ hanswer =>
    rw [if_neg hself]
    exact Or.inl ⟨_, hanswer, rfl⟩
  | @accept m _ _ _ hne _ _ hmatch =>
    obtain ⟨used, uuid, rest, key, sess, -, -, -, rfl, rfl⟩ := makeMatching_eq_done hmatch
    refine Or.inr ⟨m, ⟨s.heap + 1, .matchComplete key (s.sess n).info⟩, hne, ?_⟩
    dsimp only
    rw [Function.update_self, Function.update_of_ne hne]
    rfl
  | @apply m _ _ hne _ _ =>
    exact Or.inr ⟨m, _, hne, relayed_send hne⟩
  | @deny m _ _ hne _ _ =>
    exact Or.inr ⟨m, _, hne, relayed_send hne⟩

/-- The packet `message` of `n` is turned down: nobody else is sent a message, and `n` itself is
only sent a DENY or an error report. -/
def TurnedDown (s s' : Server) (n : SessionId) (message : MatchWithFriendsRelay) : Prop :=
  (∀ k, k ≠ n → (s'.sess k).send = (s.sess k).send) ∧
    ∃ b, Refusal message b.message ∧ (s'.sess n).send = (s.sess n).send.push b

/-- The sessions up to their send queues, the matching queues, the login map and redis are the
same. -/
structure SameGame (s s' : Server) : Prop where
  sess : ∀ k, s'.sess k = { s.sess k with send := (s'.sess k).send }
  matchingQue : s'.matchingQue = s.matchingQue
  userIdMap : s'.userIdMap = s.userIdMap
  redis : s'.redis = s.redis

lemma SendQueue.push_ne (q : SendQueue) (b : Buffer) : q.push b ≠ q := by
  intro h
  have hlen : (q.push b).enqueued.length = q.enqueued.length := by rw [h]
  by_cases hq : q.queue = []
  · rw [SendQueue.push, SendQueue.waitSend_of_nil hq] at hlen
    simp at hlen
  · rw [SendQueue.push, SendQueue.waitSend_of_ne_nil hq] at hlen
    simp at hlen

/-- **A request that is turned down changes nothing**, exactly when its target is another session
or its requester has the status `LOGIN`. -/
theorem refusal_keeps_state_iff
    (h : (processPacket n (.playFriendsRel message)).run s = .done () s')
    (hdown : TurnedDown s s' n message) :
    SameGame s s' ↔ (s.userIdMap message.targetId = some n → (s.sess n).stat = .login) := by
  rcases relay_cases h with ⟨answer, -, rfl⟩ | ⟨m, b, hmn, hsend⟩
  · constructor
    · intro hsame hself
      have hstat : ((s.sess n).told s.heap answer .login).stat = (s.sess n).stat := by
        have hn := congrArg (·.stat) (hsame.sess n)
        simpa only [Server.told, Function.update_self, if_pos hself] using hn
      exact hstat.symm
    · intro hlogin
      refine ⟨fun k => ?_, rfl, rfl, rfl⟩
      have hstat : (if s.userIdMap message.targetId = some n then .login else (s.sess n).stat) =
          (s.sess n).stat := by
        split
        · exact (hlogin ‹_›).symm
        · rfl
      rw [hstat]
      by_cases hk : k = n
      · subst hk
        simp only [Server.told, Function.update_self]
        rfl
      · simp only [Server.told, Function.update_of_ne hk]
  · -- somebody else was sent a message
    exact absurd (hsend.symm.trans (hdown.1 m hmn)) (SendQueue.push_ne _ _)

/-- A request for the requester itself. -/
lemma relay_self (hmtx : s.mtx .userIdMapMtx = 0) (hself : s.userIdMap message.targetId = some n) :
    (processMatchingWithFriends n message).run s =
      .done () (s.told n (.playFriendsRel (message.setType .deny)) .login) := by
  unfold processMatchingWithFriends
  rw [Prog.run_bind, findIdInUserMap_run _ hmtx, Out.bind_done, if_pos hself]
  simp only [setStatus, modifySess, sendMessage, incodeMessage, waitSend, Prog.run_bind,
    Prog.run_modify, Prog.run_atomic, Out.bind_done, Server.setSess, Server.told, Session.told,
    Function.update_self, Function.update_idem]
  rfl

/-- An invitation for a user who is not online. -/
lemma relay_unknown (hmtx : s.mtx .userIdMapMtx = 0) (htype : message.type = .apply)
    (hnone : s.userIdMap message.targetId = none) :
    (processMatchingWithFriends n message).run s =
      .done () (s.told n (.playFriendsRel (message.setType .deny)) (s.sess n).stat) := by
  unfold processMatchingWithFriends
  rw [Prog.run_bind, findIdInUserMap_run _ hmtx, Out.bind_done, hnone, if_neg (by simp), htype]
  rfl

lemma turnedDown_told {st : Status} :
    TurnedDown s (s.told n (.playFriendsRel (message.setType .deny)) st) n message := by
  refine ⟨fun k hk => ?_, ⟨s.heap, .playFriendsRel (message.setType .deny)⟩, Or.inl rfl, ?_⟩
  · simp only [Server.told, Function.update_of_ne hk]
  · simp only [Server.told, Function.update_self]
    rfl

end Refusal

/-- A player who waits in a queue. -/
private def oneWaiting : List Event :=
  [.acceptDone 0 false, .receive 0 [.joinReq ⟨lit "ta", lit "a"⟩, .playRankReq],
    .packet ⟨[], [], 1⟩, .packet ⟨[], [], 1⟩]

/-- The player invites itself, is told DENY, and does not wait any more. -/
theorem refusal_drops_waiting_player :
    ∃ s s' message, Reachable s ∧ (s.sess 0).stat = .matchRequest ∧ 0 ∈ s.matchingQue 1 ∧
      (processPacket 0 (.playFriendsRel message)).run s = .done () s' ∧
      TurnedDown s s' 0 message ∧ (s'.sess 0).stat = .login ∧ ¬ SameGame s s' := by
  have hrun : (run twoUsers oneWaiting).map
      (fun s => (s.userIdMap (lit "a"), decide ((s.sess 0).stat = .matchRequest),
        decide (0 ∈ s.matchingQue 1))) = some (some 0, true, true) := by decide
  obtain ⟨s, hs, heq⟩ := Option.map_eq_some_iff.1 hrun
  simp only [Prod.mk.injEq, decide_eq_true_eq] at heq
  obtain ⟨hself, hstat, hque⟩ := heq
  have hmtx : s.mtx .userIdMapMtx = 0 := congrFun (reachable_of_run hs).mtx_free _
  have hlogin : ((s.told 0 (.playFriendsRel ⟨some .deny, some (lit "a"), []⟩) .login).sess 0).stat =
      .login := by
    simp [Server.told, Session.told]
  refine ⟨s, _, ⟨some .apply, some (lit "a"), []⟩, reachable_of_run hs, hstat, hque,
    relay_self hmtx hself, turnedDown_told, hlogin, fun hsame => ?_⟩
  have hkept := congrArg (·.stat) (hsame.sess 0)
  exact absurd (hlogin.symm.trans (hkept.trans hstat)) (by simp)

/-- The player invites a user who is not online. -/
theorem refusal_keeps_state_unknown :
    ∃ s s' message, Reachable s ∧ (s.sess 0).stat = .matchRequest ∧
      (processPacket 0 (.playFriendsRel message)).run s = .done () s' ∧
      TurnedDown s s' 0 message ∧ SameGame s s' := by
  have hrun : (run twoUsers oneWaiting).map
      (fun s => (s.userIdMap (lit "b"), decide ((s.sess 0).stat = .matchRequest))) =
      some (none, true) := by decide
  obtain ⟨s, hs, heq⟩ := Option.map_eq_some_iff.1 hrun
  simp only [Prod.mk.injEq, decide_eq_true_eq] at heq
  obtain ⟨hnone, hstat⟩ := heq
  have hmtx : s.mtx .userIdMapMtx = 0 := congrFun (reachable_of_run hs).mtx_free _
  have htype : (⟨some .apply, some (lit "b"), []⟩ : MatchWithFriendsRelay).type = .apply := rfl
  have hrelay := relay_unknown (n := 0) hmtx htype hnone
  exact ⟨s, _, ⟨some .apply, some (lit "b"), []⟩, reachable_of_run hs, hstat, hrelay,
    turnedDown_told, (refusal_keeps_state_iff hrelay turnedDown_told).2 fun hself =>
      absurd (hnone.symm.trans hself) (by simp)⟩

end ChannelServer
