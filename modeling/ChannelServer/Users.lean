/-
The users of the sessions: who changes them.

`KeepsUsers` relates two states in which every session has the same user, and the same connections
of the database are free; the walk through the handlers in `ChannelServer/Actions.lean` is
instantiated with it.  A step other than a packet keeps the users (`Step.keepsUsers`), and a
packet those of the sessions that did not send it (`Step.keepsOthers`).
-/
import ChannelServer.Actions
import ChannelServer.Calls
import ChannelServer.Sending

namespace ChannelServer

open Resumption

section Users

variable {s s' : Server}

lemma KeepsUsers.refl (s : Server) : KeepsUsers s s := .of_eq rfl rfl rfl

lemma KeepsUsers.trans {t : Server} (h₁ : KeepsUsers s t) (h₂ : KeepsUsers t s') :
    KeepsUsers s s' :=
  ⟨fun k => (h₂.user k).trans (h₁.user k), h₂.connectionQue.trans h₁.connectionQue,
    h₂.connectionPool.trans h₁.connectionPool⟩

lemma keepsUsers_afterQuery (s : Server) (answers : Answers) (tables : Tables) :
    KeepsUsers s (s.afterQuery answers tables) :=
  ⟨fun _ => rfl, List.rotate_perm _ 1, rfl⟩

lemma keepsUsers_sent (s : Server) (n : SessionId) (message : Message) :
    KeepsUsers s (s.sent n message) := by
  have hsess : KeepsUsers { s with heap := s.heap + 1 } (s.sent n message) := .setSess rfl
  exact ⟨hsess.user, hsess.connectionQue, hsess.connectionPool⟩

/-- What the handlers of one session keep: the users of the others, and the connections. -/
structure KeepsOthers (n : SessionId) (s s' : Server) : Prop where
  user : ∀ k, k ≠ n → (s'.sess k).toUser = (s.sess k).toUser
  connectionQue : s'.connectionQue.Perm s.connectionQue
  connectionPool : s'.connectionPool = s.connectionPool

lemma KeepsOthers.trans {t : Server} {n : SessionId} (h₁ : KeepsOthers n s t)
    (h₂ : KeepsOthers n t s') : KeepsOthers n s s' :=
  ⟨fun k hk => (h₂.user k hk).trans (h₁.user k hk), h₂.connectionQue.trans h₁.connectionQue,
    h₂.connectionPool.trans h₁.connectionPool⟩

lemma KeepsUsers.others (h : KeepsUsers s s') (n : SessionId) : KeepsOthers n s s' :=
  ⟨fun k _ => h.user k, h.connectionQue, h.connectionPool⟩

/-- A relation between the states before and after each execution: of the actions that keep the
users and the buffers, and of sending a message. -/
lemma UnitRules.of_kept {R : Server → Server → Prop} (htrans : ∀ a b c, R a b → R b c → R a c)
    (hR : ∀ s s', KeepsUsers s s' → KeepsBuffers s s' → R s s')
    (hsent : ∀ s n message, R s (s.sent n message)) : UnitRules fun _ p => p.Along R where
  pure := Prog.along_pure fun s => hR s s (.refl s) (.of_eq rfl rfl)
  bind := Prog.along_bind htrans
  act h := Prog.along_act fun s b s' hs => hR s s' (h s b s' hs).2.1 (h s b s' hs).2.2
  sendMessage n message := by
    intro s a s' h
    obtain ⟨-, rfl⟩ := Out.done.inj ((sendMessage_run message s).symm.trans h)
    exact hsent s n message
  getQueryUserInfo id := by
    intro s a s' h
    rw [getQueryUserInfo_run (serves_of_bind h)] at h
    obtain ⟨-, rfl⟩ := Out.done.inj h
    exact hR _ _ (keepsUsers_afterQuery _ _ _) (.of_eq rfl rfl)
  getUserFriendsList id := by
    intro s a s' h
    rw [getUserFriendsList_run (serves_of_bind h)] at h
    obtain ⟨-, rfl⟩ := Out.done.inj h
    exact hR _ _ (keepsUsers_afterQuery _ _ _) (.of_eq rfl rfl)
  addUserFrinedsList id target := by
    intro s a s' h
    obtain ⟨answers, hrun⟩ := addUserFrinedsList_run (serves_of_bind h) id target
    rw [hrun] at h
    split at h <;> obtain ⟨-, rfl⟩ := Out.done.inj h <;>
      exact hR _ _ (keepsUsers_afterQuery _ _ _) (.of_eq rfl rfl)
  delUserFrinedsList id target := by
    intro s a s' h
    rw [delUserFrinedsList_run (serves_of_bind h)] at h
    split at h <;> obtain ⟨-, rfl⟩ := Out.done.inj h <;>
      exact hR _ _ (keepsUsers_afterQuery _ _ _) (.of_eq rfl rfl)

/-- A relation that only concerns the users. -/
lemma UnitRules.of_along {R : Server → Server → Prop}
    (htrans : ∀ a b c, R a b → R b c → R a c) (hR : ∀ s s', KeepsUsers s s' → R s s') :
    UnitRules fun _ p => p.Along R :=
  .of_kept htrans (fun s s' h _ => hR s s' h) fun s n message =>
    hR _ _ (keepsUsers_sent s n message)

lemma usersRules : UnitRules fun _ p => p.Along KeepsUsers :=
  .of_along (fun _ _ _ => KeepsUsers.trans) fun _ _ h => h

lemma othersRules (n : SessionId) : UnitRules fun _ p => p.Along (KeepsOthers n) :=
  .of_along (fun _ _ _ => KeepsOthers.trans) fun _ _ h => h.others n

lemma users_modify {f : Server → Server} (h : ∀ s, KeepsUsers s (f s)) :
    (Prog.modify f : Handler Unit).Along KeepsUsers := by
  intro s u s' hs
  obtain ⟨-, rfl⟩ := Out.done.inj hs
  exact h s

lemma users_makeMatchingAndSendComplete (a b : SessionId) :
    (makeMatchingAndSendComplete a b).Along KeepsUsers := by
  refine acts_makeMatchingAndSendComplete usersRules a b (Prog.along_act fun s u t h => ?_)
    fun key => users_modify fun s => .of_eq rfl rfl rfl
  split at h
  · cases h
  · obtain ⟨-, rfl⟩ := Res.ok.inj h
    exact .of_eq rfl rfl rfl

/-- A packet that is no login and does not change a friend list keeps the users. -/
lemma users_processPacket {n : SessionId} {p : Packet}
    (hfriends : ∀ message, p = .friendsReq message → message.type = .search)
    (hlogin : ∀ message, p ≠ .joinReq message) : (processPacket n p).Along KeepsUsers :=
  acts_dispatch usersRules
    (fun message hp => acts_processFriendsFunction usersRules n message fun htype =>
      absurd (hfriends message hp) htype)
    (fun message hp => absurd hp (hlogin message)) users_makeMatchingAndSendComplete

/-- A packet keeps the users of the other sessions. -/
lemma others_processPacket (n : SessionId) (p : Packet) :
    (processPacket n p).Along (KeepsOthers n) := by
  have hset : ∀ f : Session → Session, (modifySess n f).Along (KeepsOthers n) := by
    intro f s u s' h
    obtain ⟨-, rfl⟩ := Out.done.inj h
    refine ⟨fun k hk => ?_, List.Perm.refl _, rfl⟩
    simp [Server.setSess, hk]
  have hmark : ∀ id, (mark fun _ => .joined n id).Along KeepsUsers := fun id =>
    users_modify fun _ => .of_eq rfl rfl rfl
  refine acts_dispatch (othersRules n)
    (fun message _ => acts_processFriendsFunction (othersRules n) n message fun _ count => hset _)
    (fun message _ => acts_lobbyLoginProcess (othersRules n) n message fun token id =>
      acts_loginAs (othersRules n) n token id (fun count => hset _)
        (fun rating battleHistory win lose => hset _)
        fun s u s' h => (hmark id s u s' h).others n) fun a b s u s' h => ?_
  exact (users_makeMatchingAndSendComplete a b s u s' h).others n

/-- The outside keeps the users. -/
lemma users_prepare {t : Server} {e : Event} (h : prepare s e = some t) : KeepsUsers s t := by
  cases e with
  | startAccept | receive _ _ | receiveError _ _ _ =>
    obtain ⟨-, ht⟩ := Option.ite_none_right_eq_some.1 h
    obtain rfl := Option.some.inj ht
    exact .of_eq rfl rfl rfl
  | acceptDone n error =>
    obtain ⟨-, ht⟩ := Option.ite_none_right_eq_some.1 h
    obtain rfl := Option.some.inj ht
    exact (KeepsUsers.setSess (x := { s.sess n with isOpen := !error || (s.sess n).isOpen })
      rfl).trans (.of_eq rfl rfl rfl)
  | timer n i answers =>
    obtain ⟨-, ht⟩ := Option.ite_none_right_eq_some.1 h
    obtain rfl := Option.some.inj ht
    exact (KeepsUsers.setSess (x := { s.sess n with waits := (s.sess n).waits.eraseIdx i })
      rfl).trans (.of_eq rfl rfl rfl)
  | writeDone n i =>
    obtain ⟨-, ht⟩ := Option.ite_none_right_eq_some.1 h
    obtain rfl := Option.some.inj ht
    exact .setSess rfl
  | packet _ | receiveEnd =>
    simp only [prepare] at h
    split at h
    · obtain rfl := Option.some.inj h
      exact .of_eq rfl rfl rfl
    · cases h
  | world _ _ =>
    obtain rfl := Option.some.inj h
    exact .of_eq rfl rfl rfl

lemma users_handleAccept (n : SessionId) (error : Bool) :
    (handleAccept n error).Along KeepsUsers := by
  refine acts_ite (P := fun _ p => p.Along KeepsUsers) (usersRules.pure _) ?_
  exact usersRules.bind (users_modify fun _ => .of_eq rfl rfl rfl) fun _ =>
    usersRules.bind (users_modify fun _ => .setSess rfl) fun _ =>
    usersRules.bind (acts_waitReceive usersRules n) fun _ =>
    usersRules.bind (users_modify fun _ => .setSess rfl) fun _ =>
    usersRules.bind (users_modify fun _ => .of_eq rfl rfl rfl) fun _ =>
    usersRules.bind (acts_waitAccept usersRules) fun _ => usersRules.pure _

/-- Only packets change users. -/
lemma Step.keepsUsers {e : Event} (h : Step s e s') (he : ∀ answers, e ≠ .packet answers) :
    KeepsUsers s s' := by
  obtain ⟨t, hprep, hrun⟩ := step_iff.1 h
  refine (users_prepare hprep).trans ?_
  suffices hhandler : (handler s e).Along KeepsUsers from hhandler _ _ _ hrun
  cases e with
  | startAccept => exact usersRules.bind (acts_waitAccept usersRules) fun _ => usersRules.pure _
  | acceptDone n error => exact users_handleAccept n error
  | receive _ _ | world _ _ => exact usersRules.pure _
  | packet answers => exact absurd rfl (he answers)
  | receiveEnd =>
    simp only [handler]
    split
    · exact acts_waitReceive usersRules _
    · exact usersRules.pure _
  | receiveError n _ error => exact acts_handleReceiveError usersRules n error
  | timer n _ _ => exact acts_rematch usersRules users_makeMatchingAndSendComplete n
  | writeDone n _ =>
    intro u a v hwrite
    obtain ⟨q, -, rfl⟩ := handleWrite_eq_done hwrite
    exact .setSess rfl

/-- A packet, with the outside's part done. -/
lemma step_packet_iff {n : SessionId} {p : Packet} {rest : List Packet} {answers : Answers}
    (hcur : s.current = some (n, p :: rest)) :
    Step s (.packet answers) s' ↔
      (processPacket n p).run { s with current := some (n, rest), answers := answers } =
        .done () s' := by
  have hprep : prepare s (.packet answers) =
      some { s with current := some (n, rest), answers := answers } := by
    simp only [prepare, hcur]
  rw [step_iff, hprep]
  simp only [handler, hcur, Option.some.injEq, exists_eq_left']

lemma Step.packet_current {answers : Answers} (h : Step s (.packet answers) s') :
    ∃ n p rest, s.current = some (n, p :: rest) := by
  obtain ⟨t, hprep, -⟩ := step_iff.1 h
  simp only [prepare] at hprep
  split at hprep
  · rename_i n p rest hcur
    exact ⟨n, p, rest, hcur⟩
  · cases hprep

/-- A packet keeps the users of the other sessions. -/
lemma Step.keepsOthers {n : SessionId} {p : Packet} {rest : List Packet} {answers : Answers}
    (h : Step s (.packet answers) s') (hcur : s.current = some (n, p :: rest)) :
    KeepsOthers n s s' := by
  have hprep : KeepsUsers s { s with current := some (n, rest), answers := answers } :=
    .of_eq rfl rfl rfl
  exact (hprep.others n).trans (others_processPacket n p _ _ _ ((step_packet_iff hcur).1 h))

end Users

end ChannelServer
