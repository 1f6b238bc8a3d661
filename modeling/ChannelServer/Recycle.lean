/-
A recycled session and its previous user.

Take two states that are equal but for what one session has kept of its previous user.  As long
as no packet uses the residue before a JOIN_REQ has succeeded on the session (`UsesResidue`), the
two servers do the same: the handlers are executed in lockstep.  A login replaces everything but
the room key, and the room key is only read in the status `MATCH_COMPLETE`, which comes with a new
one.

The main result is `recycled_session_leaks_nothing`.  Without the condition the first packet of a
connection shows who used the session before: `friend_deleted_for_previous_user`.
-/
import ChannelServer.Locks
import ChannelServer.LoginMap
import ChannelServer.Residue

namespace ChannelServer

open Resumption

attribute [ext] Server

/-- The packets of the session `n` with which the residue of the session `k` is used: a search
that finds `k`, and the packets of `k` itself that only a user may send who has logged in. -/
def PacketUses (k n : SessionId) (userIdMap : Str → Option SessionId) : Packet → Prop
  | .friendsReq message =>
      match message.type with
      | .search => userIdMap message.targetId = some k
      | .add | .del => n = k
  | .playFriendsRel message => n = k ∧ userIdMap message.targetId = some k
  | .playRankReq | .logoutReq => n = k
  | .joinReq _ | .matchConfirm | .errorMsg _ | .other _ => False

instance (k n : SessionId) (userIdMap : Str → Option SessionId) (packet : Packet) :
    Decidable (PacketUses k n userIdMap packet) :=
  match packet with
  | .friendsReq ⟨.search, id⟩ => inferInstanceAs (Decidable (userIdMap id = some k))
  | .friendsReq ⟨.add, _⟩ | .friendsReq ⟨.del, _⟩ => inferInstanceAs (Decidable (n = k))
  | .playFriendsRel message =>
      inferInstanceAs (Decidable (n = k ∧ userIdMap message.targetId = some k))
  | .playRankReq | .logoutReq => inferInstanceAs (Decidable (n = k))
  | .joinReq _ | .matchConfirm | .errorMsg _ | .other _ => inferInstanceAs (Decidable False)

/-- The next packet uses the residue of the session `k`. -/
def UsesResidue (k : SessionId) (s : Server) : Event → Prop
  | .packet _ =>
      match s.current with
      | some (n, packet :: _) => PacketUses k n s.userIdMap packet
      | _ => False
  | _ => False

/-- The second state is the first one with another residue of `k`. -/
abbrev Differ (k : SessionId) (base : List Mark) (g : Residue → Residue) : Server → Server → Prop :=
  Prog.Under (Server.mapResidue k g) (Covered k base g)

/-- Two states that are equal but for the residue of `k`. -/
def AlikeBut (k : SessionId) (base : List Mark) (s t : Server) : Prop :=
  (∃ g, Differ k base g s t) ∨ s = t

variable {n k : SessionId} {base : List Mark} {g : Residue → Residue} {s t : Server}

section Lockstep

variable {α : Type} {p : Handler α}

/-- Two states that may also be equal. -/
abbrev DifferOrEq (k : SessionId) (base : List Mark) (g : Residue → Residue) (s t : Server) :
    Prop :=
  Differ k base g s t ∨ s = t

lemma Blind.lockstep (hp : Blind k base g p) :
    p.Lockstep (Differ k base g) fun _ => DifferOrEq k base g :=
  (Prog.Steady.lockstep hp).conseq (fun _ _ h => h) fun _ _ _ => Or.inl

lemma Blind.lockstep_orEq (hp : Blind k base g p) :
    p.Lockstep (DifferOrEq k base g) fun _ => DifferOrEq k base g :=
  hp.lockstep.or ((Prog.lockstep_eq p).conseq (fun _ _ h => h) fun _ _ _ => Or.inr)

lemma DifferOrEq.alike (h : DifferOrEq k base g s t) : AlikeBut k base s t :=
  h.imp_left fun h => ⟨g, h⟩

/-- The rest of the precondition is not needed. -/
lemma lockstep_alike {c : Server → Server → Prop}
    (hp : p.Lockstep (Differ k base g) fun _ => DifferOrEq k base g) :
    p.Lockstep (fun s t => Differ k base g s t ∧ c s t) fun _ => AlikeBut k base :=
  hp.conseq (fun _ _ h => h.1) fun _ _ _ => DifferOrEq.alike

/-- A program that begins with a blind one. -/
lemma lockstep_then {β : Type} {f : α → Handler β} {Q : β → Server → Server → Prop}
    (hp : Blind k base g p) (hf : ∀ a, (f a).Lockstep (Differ k base g) Q) :
    (p >>= f).Lockstep (Differ k base g) Q := (Prog.Steady.lockstep hp).bind hf

end Lockstep

/-! ### Matches -/

lemma run_sendComplete (n : SessionId) (key : Str) (opponent : UserInfo) (s : Server) :
    (sendComplete n key opponent).run s = (sendMessage n (.matchComplete key opponent)).run
      (s.setSess n { s.sess n with stat := .matchComplete, roomKey := key }) := by
  simp [sendComplete, setStatus, setRoomKey, modifySess, Server.setSess]

/-- When the room key is all that differs, a match makes the two states equal. -/
lemma lockstep_sendComplete (hn : n = k → KeepsUser g) (key : Str) (opponent : UserInfo) :
    (sendComplete n key opponent).Lockstep (Differ k base g) fun _ => DifferOrEq k base g := by
  by_cases hnk : n = k
  · obtain ⟨old, rfl⟩ := hn hnk
    subst hnk
    rintro s _ ⟨rfl, -⟩
    rw [run_sendComplete, run_sendComplete, mapResidue_sess_self]
    simp only [Server.setSess, Server.mapResidue, Function.update_idem]
    exact (Prog.lockstep_eq _ _ _ rfl).mono fun _ _ _ _ => Or.inr
  · exact (blind_sendComplete hnk _ _).lockstep

lemma lockstep_makeMatching {a b : SessionId} (ha : a = k → KeepsUser g)
    (hb : b = k → KeepsUser g) :
    (makeMatchingAndSendComplete a b).Lockstep (Differ k base g) fun _ => DifferOrEq k base g := by
  refine lockstep_then blind_chooseRoomKey fun key =>
    lockstep_then (blind_mark (fun _ => rfl) (Or.inr fun _ _ => by simp)) fun _ =>
    lockstep_then (blind_matchInfo ha) fun _ => lockstep_then (blind_matchInfo hb) fun _ =>
    .bind (lockstep_sendComplete ha _ _) fun _ => ?_
  exact (lockstep_sendComplete hb _ _).or
    ((Prog.lockstep_eq _).conseq (fun _ _ h => h) fun _ _ _ => Or.inr)

lemma lockstep_getMatchingQue (r : QueId) :
    (getMatchingQue r).Lockstep (Differ k base g) fun _ => DifferOrEq k base g := by
  have hselect : (selectPlayers r).Lockstep (Differ k base g) fun pair s t =>
      Differ k base g s t ∧ ∀ a b, pair = some (a, b) →
        (a = k → KeepsUser g) ∧ (b = k → KeepsUser g) := by
    refine ((Prog.Steady.lockstep_of (blind_selectPlayers r) (P := fun _ => True) ?_).conseq
      (fun s t h => ⟨h, trivial⟩) fun _ _ _ h => h)
    rintro s pair s' - hs hrun a b rfl
    obtain ⟨ha, hb, -, -⟩ := WaitingRoom.serve_pair (view_selectPlayers hrun).1.symm
    have hwaiting : ∀ m, s.view.waiting m = true → m = k → KeepsUser g := by
      rintro m hm rfl
      have hst : (s.sess m).stat = .matchRequest := of_decide_eq_true (Bool.and_eq_true_iff.1 hm).2
      exact hs.1.keepsUser (by simp [hst]) (by simp [hst]) (by simp [hst])
    exact ⟨hwaiting a ha, hwaiting b hb⟩
  refine hselect.bind fun pair => ?_
  match pair with
  | none => exact Prog.lockstep_pure fun s t h => Or.inl h.1
  | some (a, b) =>
    exact Prog.lockstep_and fun hpair =>
      .bind (lockstep_makeMatching (hpair a b rfl).1 (hpair a b rfl).2) fun _ =>
        Prog.lockstep_pure fun _ _ h => h

lemma lockstep_processMatching (hn : n = k → KeepsUser g) :
    (processMatching n).Lockstep (Differ k base g) fun _ => DifferOrEq k base g := by
  refine lockstep_then (blind_getUser hn fun _ _ => rfl) fun rating =>
    lockstep_then (blind_mark (fun _ => rfl) (Or.inr fun _ _ => by simp)) fun _ =>
    lockstep_then (blind_lock _) fun _ =>
    lockstep_then (blind_aside (fun _ => rfl) fun _ => ⟨rfl, rfl⟩) fun _ =>
    lockstep_then (blind_setStatus hn) fun _ =>
    .bind (lockstep_getMatchingQue _) fun matched => Blind.lockstep_orEq ?_
  exact Prog.steady_ite (blind_unlock _) (.bind (blind_read fun _ => rfl) fun _ =>
    Prog.steady_ite (.bind (blind_controlTimerRematch _ _ _) fun _ => blind_unlock _)
      (blind_unlock _))

lemma lockstep_rematch (n : SessionId) :
    (rematch n).Lockstep (Differ k base g) fun _ => DifferOrEq k base g := by
  have hstart : (rematchingStart n).Lockstep (Differ k base g) fun _ => DifferOrEq k base g := by
    refine lockstep_then blind_getStatus fun st => Prog.lockstep_ite (fun _ => ?_) fun _ =>
      Prog.lockstep_pure fun _ _ => Or.inl
    exact lockstep_then (blind_lock _) fun _ =>
      lockstep_then (blind_mark (fun _ => rfl) (Or.inr fun _ _ => by simp)) fun _ =>
      lockstep_then (blind_aside (fun _ => rfl) fun _ => ⟨rfl, rfl⟩) fun _ =>
      .bind (lockstep_getMatchingQue _) fun _ => Blind.lockstep_orEq
        (.bind (blind_unlock _) fun _ => Prog.steady_pure _)
  exact lockstep_then blind_getStatus fun st => Prog.lockstep_ite
    (fun _ => hstart.bind fun _ => Prog.lockstep_pure fun _ _ h => h) fun _ =>
      Prog.lockstep_pure fun _ _ => Or.inl

/-! ### The friend list -/

/-- A search does not find the session, or finds it with its own user. -/
lemma lockstep_searchUser (n : SessionId) (target : Str) :
    (searchUser n target).Lockstep
      (fun s t => Differ k base g s t ∧ (KeepsUser g ∨ s.userIdMap target ≠ some k))
      fun _ => DifferOrEq k base g := by
  have hfind : (findIdInUserMap target).Lockstep
      (fun s t => Differ k base g s t ∧ (KeepsUser g ∨ s.userIdMap target ≠ some k))
      fun found s t => Differ k base g s t ∧ ∀ m, found = some m → m = k → KeepsUser g := by
    refine Prog.Steady.lockstep_of (blind_findIdInUserMap target) ?_
    rintro s found s' hsafe - hrun m rfl rfl
    exact hsafe.resolve_right fun hne => hne (findIdInUserMap_eq_done hrun).1.symm
  refine .bind (Q := fun _ => Differ k base g)
    (hfind.bind fun found => Prog.lockstep_and fun hfound => ?_) fun _ =>
    lockstep_then (blind_sendMessage _ _) fun _ => Prog.lockstep_pure fun _ _ => Or.inl
  cases found with
  | none =>
    refine lockstep_then (blind_getQueryUserInfo _) fun row => ?_
    cases row with
    | none => exact Prog.lockstep_pure fun _ _ h => h
    | some row => exact Prog.lockstep_pure fun _ _ h => h
  | some m =>
    have hm : m = k → KeepsUser g := hfound m rfl
    exact lockstep_then (blind_getUser hm fun _ _ => rfl) fun _ =>
      lockstep_then (blind_getUser hm fun _ _ => rfl) fun _ =>
      lockstep_then (blind_getUser hm fun _ _ => rfl) fun _ =>
      lockstep_then (blind_getUser hm fun _ _ => rfl) fun _ =>
      lockstep_then (blind_getUser hm fun _ _ => rfl) fun _ => Prog.lockstep_pure fun _ _ h => h

lemma lockstep_processFriendsFunction (n : SessionId) (message : FriendsRequest) :
    (processFriendsFunction n message).Lockstep
      (fun s t => Differ k base g s t ∧
        (KeepsUser g ∨ ¬ PacketUses k n s.userIdMap (.friendsReq message)))
      fun _ => DifferOrEq k base g := by
  have hchange : ∀ {guard change} step success failure, (∀ id target,
      Blind k base g (change id target)) → (n = k → KeepsUser g) →
      (do let _ ← changeFriends guard change step success failure n message.targetId :
        Handler Unit).Lockstep (Differ k base g) fun _ => DifferOrEq k base g :=
    fun _ _ _ hchange hn => lockstep_then (blind_changeFriends hn hchange _ _ _ _) fun _ =>
      Prog.lockstep_pure fun _ _ => Or.inl
  obtain ⟨type, target⟩ := message
  rintro s t ⟨hst, hsafe⟩
  cases type with
  | add =>
    exact hchange _ _ _ blind_addUserFrinedsList
      (fun hn => hsafe.resolve_right fun h => h hn) s t hst
  | del =>
    exact hchange _ _ _ blind_delUserFrinedsList
      (fun hn => hsafe.resolve_right fun h => h hn) s t hst
  | search =>
    have hsearch : (do let _ ← searchUser n target : Handler Unit).Lockstep _
        fun _ => DifferOrEq k base g :=
      (lockstep_searchUser n target).bind fun _ => Prog.lockstep_pure fun _ _ h => h
    exact hsearch s t ⟨hst, hsafe⟩

/-! ### Matches between friends -/

lemma lockstep_bothHave {st st' : Status} {recv : Option SessionId}
    (hst : st ≠ .conn ∧ st ≠ .logout ∧ st ≠ .wait)
    (hst' : st' ≠ .conn ∧ st' ≠ .logout ∧ st' ≠ .wait) :
    (bothHave n st recv st').Lockstep (Differ k base g) fun found s t =>
      Differ k base g s t ∧ ∀ m, found = some m →
        (n = k → KeepsUser g) ∧ (m = k → KeepsUser g) := by
  refine (Prog.Steady.lockstep_of (blind_bothHave n st st' recv) (P := fun _ => True) ?_).conseq
    (fun s t h => ⟨h, trivial⟩) fun _ _ _ h => h
  rintro s found s' - hs hrun m rfl
  obtain ⟨-, hn, hm⟩ := ((bothHave_eq_done hrun).2 m).1 rfl
  refine ⟨?_, ?_⟩
  · rintro rfl
    exact StatOk.keepsUser (hn ▸ hs.1) hst.1 hst.2.1 hst.2.2
  · rintro rfl
    exact StatOk.keepsUser (hm ▸ hs.1) hst'.1 hst'.2.1 hst'.2.2

/-- The log line of the last branch reads a user id, but nothing depends on it. -/
lemma lockstep_derefUserId (recv : Option SessionId) :
    (do let _ ← derefUserId recv : Handler Unit).Lockstep (Differ k base g) fun _ =>
      Differ k base g := by
  intro s t hst
  cases recv with
  | none => exact .failed
  | some m => exact .done hst

lemma lockstep_processMatchingWithFriends (n : SessionId) (message : MatchWithFriendsRelay) :
    (processMatchingWithFriends n message).Lockstep
      (fun s t => Differ k base g s t ∧
        (KeepsUser g ∨ ¬ (n = k ∧ s.userIdMap message.targetId = some k)))
      fun _ => DifferOrEq k base g := by
  have hfind : (findIdInUserMap message.targetId).Lockstep
      (fun s t => Differ k base g s t ∧
        (KeepsUser g ∨ ¬ (n = k ∧ s.userIdMap message.targetId = some k)))
      fun recv s t => Differ k base g s t ∧ (recv = some n → n = k → KeepsUser g) := by
    refine Prog.Steady.lockstep_of (blind_findIdInUserMap _) ?_
    rintro s recv s' hsafe - hrun rfl rfl
    exact hsafe.resolve_right fun hne => hne ⟨rfl, (findIdInUserMap_eq_done hrun).1.symm⟩
  have hdeny : ∀ m : MatchWithFriendsRelay,
      (sendMessage n (.playFriendsRel m)).Lockstep (Differ k base g) fun _ =>
        DifferOrEq k base g := fun _ => (blind_sendMessage _ _).lockstep
  refine hfind.bind fun recv => Prog.lockstep_and fun hn => Prog.lockstep_ite
    (fun hself => lockstep_then (blind_setStatus (hn hself)) fun _ => hdeny _) fun _ => ?_
  cases message.type with
  | accept =>
    refine (lockstep_bothHave (by simp) (by simp)).bind fun found =>
      Prog.lockstep_and fun hfound => ?_
    cases found with
    | none => exact hdeny _
    | some m => exact lockstep_makeMatching (hfound m rfl).1 (hfound m rfl).2
  | apply =>
    refine (lockstep_bothHave (by simp) (by simp)).bind fun found =>
      Prog.lockstep_and fun hfound => ?_
    cases found with
    | none => exact hdeny _
    | some m =>
      obtain ⟨hn, hm⟩ := hfound m rfl
      exact lockstep_then (blind_getUser hn fun _ _ => rfl) fun _ =>
        lockstep_then (blind_setStatus hn) fun _ => lockstep_then (blind_setStatus hm) fun _ =>
        lockstep_then (blind_mark (fun _ => rfl) (Or.inr fun _ _ => by simp)) fun _ =>
        (blind_sendMessage _ _).lockstep
  | deny =>
    refine (lockstep_bothHave (by simp) (by simp)).bind fun found =>
      Prog.lockstep_and fun hfound => ?_
    cases found with
    | none =>
      exact lockstep_then (blind_sendMessage _ _) fun _ =>
        (lockstep_derefUserId recv).conseq (fun _ _ h => h) fun _ _ _ => Or.inl
    | some m =>
      obtain ⟨hn, hm⟩ := hfound m rfl
      exact lockstep_then (blind_getUser hn fun _ _ => rfl) fun _ =>
        lockstep_then (blind_setStatus hn) fun _ => lockstep_then (blind_setStatus hm) fun _ =>
        (blind_sendMessage _ _).lockstep

/-! ### Closing -/

lemma lockstep_getStatus : (getStatus n).Lockstep (Differ k base g) fun st s t =>
    Differ k base g s t ∧ (n = k → StatOk g st) := by
  refine (Prog.Steady.lockstep_of blind_getStatus (P := fun _ => True) ?_).conseq
    (fun s t h => ⟨h, trivial⟩) fun _ _ _ h => h
  rintro s st s' - hs hrun rfl
  obtain ⟨rfl, rfl⟩ := getSess_eq_done hrun
  exact hs.1

lemma lockstep_closeSession (n : SessionId) :
    (closeSession n).Lockstep (Differ k base g) fun _ => DifferOrEq k base g := by
  refine lockstep_getStatus.bind fun st => Prog.lockstep_and fun hst => ?_
  have hforget : (n = k → KeepsUser g) → Blind k base g (do
      forgetLogin n
      finishClose n : Handler Unit) := fun hn =>
    .bind (blind_forgetLogin hn) fun _ => blind_finishClose n
  cases st with
  | wait | matchApply => exact Prog.lockstep_pure fun _ _ => Or.inl
  | conn | logout => exact (blind_finishClose n).lockstep
  | login | matchRequest | matchRecver => exact (hforget hst).lockstep
  | matchConfirm =>
    exact lockstep_then (blind_getUser hst fun _ _ => rfl) fun _ =>
      lockstep_then (blind_delIdInUserMap _) fun _ => (blind_finishClose n).lockstep
  | matchComplete =>
    -- another session: the room key of `k` is not read
    exact lockstep_then (blind_getSess fun hn => (hst hn).elim) fun _ =>
      lockstep_then (blind_delRedisKey _) fun _ =>
      lockstep_then (blind_aside (fun _ => rfl) fun _ => ⟨rfl, rfl⟩) fun _ =>
      (hforget fun hn => (hst hn).elim).lockstep

lemma lockstep_matchConfirm (n : SessionId) :
    (do if ← processMatchConfirm n then closeSession n : Handler Unit).Lockstep (Differ k base g)
      fun _ => DifferOrEq k base g := by
  have hconfirm : (processMatchConfirm n).Lockstep (Differ k base g) fun _ => Differ k base g := by
    refine lockstep_getStatus.bind fun st => Prog.lockstep_and fun hst =>
      Prog.lockstep_ite (fun heq => ?_) fun _ => Prog.lockstep_pure fun _ _ h => h
    subst heq
    exact lockstep_then (blind_setStatus fun hn => (hst hn).elim) fun _ =>
      Prog.lockstep_pure fun _ _ h => h
  exact hconfirm.bind fun confirmed => Prog.lockstep_ite (fun _ => lockstep_closeSession n)
    fun _ => Prog.lockstep_pure fun _ _ => Or.inl

/-! ### Logging in -/

/-- The second state is the first one with another residue of `k`, and the two residues are related
by `φ`. -/
def Writing (k : SessionId) (base : List Mark) (g : Residue → Residue)
    (φ : Residue → Residue → Prop) (s t : Server) : Prop :=
  ∃ r, t = s.mapResidue k (fun _ => r) ∧ φ (s.sess k).residue r ∧ Covered k base g s

/-- A setter of the user writes the same value into both residues. -/
lemma lockstep_write {φ ψ : Residue → Residue → Prop} {f : Session → Session}
    (F : Residue → Residue) (hf : ∀ x r, f (x.withResidue r) = (f x).withResidue (F r))
    (hF : ∀ x, (f x).residue = F x.residue) (hst : ∀ x, (f x).stat = x.stat)
    (h : ∀ r r', φ r r' → ψ (F r) (F r')) :
    (modifySess k f).Lockstep (Writing k base g φ) fun _ => Writing k base g ψ := by
  rintro s _ ⟨r, rfl, hφ, hs⟩
  refine .done ⟨F r, ?_, ?_, hs.setSess fun _ => ?_⟩
  · have hsess : f ((s.mapResidue k fun _ => r).sess k) = (f (s.sess k)).withResidue (F r) := by
      rw [mapResidue_sess_self]
      exact hf _ _
    dsimp only
    rw [hsess]
    simp [Server.setSess, Server.mapResidue, Session.mapResidue]
  · simpa [Server.setSess, hF] using h _ _ hφ
  · rw [hst]
    exact hs.1

/-- The user of a login has been written: only the room key may still differ. -/
lemma Writing.differ
    (h : Writing k base g (fun r r' => r'.user = r.user ∧ r'.token = r.token) s t) :
    ∃ key, Differ k base (fun r => { r with roomKey := key }) s t := by
  obtain ⟨⟨user, token, key⟩, rfl, ⟨huser, htoken⟩, hs⟩ := h
  refine ⟨key, ?_, KeepsUser.statOk ⟨key, rfl⟩ fun hst => ?_, Or.inl ⟨key, rfl⟩⟩
  · dsimp only at huser htoken
    rw [huser, htoken]
    rfl
  · have hfalse : StatOk g .matchComplete := hst ▸ hs.1
    exact hfalse

lemma lockstep_loginAs (token id : Str) :
    (loginAs k token id).Lockstep (Differ k base g) fun _ => AlikeBut k base := by
  have hfail : (do
      sendMessage k (.joinAns false (some none) [])
      pure false : Handler Bool).Lockstep (Differ k base g) fun _ => AlikeBut k base :=
    lockstep_then (blind_sendMessage _ _) fun _ => Prog.lockstep_pure fun _ _ h => Or.inl ⟨g, h⟩
  refine lockstep_then (blind_getQueryUserInfo _) fun row => ?_
  cases row with
  | none => exact lockstep_then (blind_delRedisKey _) fun _ => hfail
  | some row =>
    refine lockstep_then (blind_getUserFriendsList _) fun friends => ?_
    cases friends with
    | none => exact hfail
    | some friends =>
      have hrest : ∀ rating totalGames win lose : ℤ, (do
          let _ ← addIdInUserMap k (← getUserId k)
          setStatus k .login
          mark fun _ => .joined k id
          sendMessage k (.joinAns true (some (some ⟨rating, totalGames, win, lose⟩)) friends)
          pure true : Handler Bool).Lockstep
            (Writing k base g fun r r' => r'.user = r.user ∧ r'.token = r.token)
            fun _ => AlikeBut k base := by
        intro rating totalGames win lose s t hst
        obtain ⟨key, hdiffer⟩ := hst.differ
        have hkey : k = k → KeepsUser fun r => { r with roomKey := key } := fun _ => ⟨key, rfl⟩
        exact (lockstep_then (blind_getUser hkey fun _ _ => rfl) fun _ =>
          lockstep_then (blind_addIdInUserMap _ _) fun _ =>
          lockstep_then (blind_setStatus hkey) fun _ =>
          lockstep_then (blind_mark (fun _ => rfl) (Or.inl (hkey rfl))) fun _ =>
          lockstep_then (blind_sendMessage _ _) fun _ =>
          Prog.lockstep_pure fun s t h => Or.inl ⟨_, h⟩) s t hdiffer
      refine .conseq (Prog.Lockstep.bind (lockstep_write (φ := fun _ _ => True)
          (ψ := fun r r' => r'.user.friendsCount = r.user.friendsCount)
          (fun r => { r with user := { r.user with friendsCount := friends.length } })
          (fun _ _ => rfl) (fun _ => rfl) (fun _ => rfl) fun _ _ _ => rfl) fun _ =>
        .bind (lockstep_write (ψ := fun r r' => r'.user = r.user)
          (fun r => { r with user := ⟨row.rating.toInt, row.totalGames.toInt,
            row.win.toInt, row.lose.toInt, r.user.friendsCount, id⟩ })
          (fun _ _ => rfl) (fun _ => rfl) (fun _ => rfl) fun r r' h => by simp [h]) fun _ =>
        .bind (lockstep_write (fun r => { r with token := token }) (fun _ _ => rfl) (fun _ => rfl)
          (fun _ => rfl) fun r r' h => ⟨h, rfl⟩) fun _ => hrest _ _ _ _) ?_ fun _ _ _ h => h
      rintro s _ ⟨rfl, hs⟩
      exact ⟨g (s.sess k).residue, rfl, trivial, hs⟩

lemma lockstep_lobbyLoginProcess (n : SessionId) (message : JoinRequest) :
    (lobbyLoginProcess n message).Lockstep (Differ k base g) fun _ => AlikeBut k base := by
  refine lockstep_then (blind_getSess fun _ _ => rfl) fun _ => Prog.lockstep_ite (fun _ => ?_)
    fun _ => Prog.lockstep_pure fun _ _ h => Or.inl ⟨g, h⟩
  refine lockstep_then (blind_admittedId _) fun admitted => ?_
  cases admitted with
  | none =>
    exact lockstep_then (blind_setStatus fun _ => trivial) fun _ =>
      lockstep_then (blind_sendMessage _ _) fun _ =>
      Prog.lockstep_pure fun _ _ h => Or.inl ⟨g, h⟩
  | some id =>
    by_cases hn : n = k
    · subst hn
      exact lockstep_loginAs _ _
    · exact (blind_loginAs (fun h => absurd h hn) _ _).lockstep.conseq (fun _ _ h => h)
        fun _ _ _ => DifferOrEq.alike

/-! ### Events -/

lemma lockstep_processPacket (n : SessionId) (packet : Packet) :
    (processPacket n packet).Lockstep
      (fun s t => Differ k base g s t ∧ (KeepsUser g ∨ ¬ PacketUses k n s.userIdMap packet))
      fun _ => AlikeBut k base := by
  cases packet with
  | friendsReq message =>
    exact (lockstep_processFriendsFunction n message).conseq (fun _ _ h => h)
      fun _ _ _ => DifferOrEq.alike
  | playFriendsRel message =>
    exact (lockstep_processMatchingWithFriends n message).conseq (fun _ _ h => h)
      fun _ _ _ => DifferOrEq.alike
  | playRankReq =>
    rintro s t ⟨hst, hsafe⟩
    have hn : n = k → KeepsUser g := fun hn => hsafe.resolve_right fun h => h hn
    exact (lockstep_processMatching hn s t hst).mono fun _ _ _ _ => DifferOrEq.alike
  | joinReq message =>
    refine Prog.Lockstep.conseq ?_ (fun s t h => h.1) fun _ _ _ h => h
    exact (lockstep_lobbyLoginProcess n message).bind fun _ => Prog.lockstep_pure fun _ _ h => h
  | logoutReq =>
    rintro s t ⟨hst, hsafe⟩
    have hn : n = k → KeepsUser g := fun hn => hsafe.resolve_right fun h => h hn
    have hlogout : Blind k base g (do let _ ← lobbyLogoutProcess n : Handler Unit) :=
      .bind (blind_lobbyLogoutProcess hn) fun _ => Prog.steady_pure _
    exact (hlogout.lockstep s t hst).mono fun _ _ _ _ => DifferOrEq.alike
  | matchConfirm => exact lockstep_alike (lockstep_matchConfirm n)
  | errorMsg message => exact lockstep_alike (blind_processConfig n message).lockstep
  | other type => exact lockstep_alike (Prog.lockstep_pure fun _ _ => Or.inl)

/-- What the outside does in an event does not depend on the residue. -/
lemma prepare_mapResidue (s : Server) (e : Event) :
    prepare (s.mapResidue k g) e = (prepare s e).map (·.mapResidue k g) := by
  have hset : ∀ n (f : Session → Session), (∀ x, f (x.mapResidue g) = (f x).mapResidue g) →
      Function.update (s.mapResidue k g).sess n (f ((s.mapResidue k g).sess n)) =
        ((s.setSess n (f (s.sess n))).mapResidue k g).sess := fun n f hf =>
    congrArg Server.sess (mapResidue_setSess fun _ => hf)
  cases e with
  | startAccept | receive _ _ | receiveError _ _ _ =>
    simp only [prepare, apply_ite (Option.map _)]
    rfl
  | acceptDone n error =>
    simp only [prepare, apply_ite (Option.map _),
      hset n (fun x => { x with isOpen := !error || x.isOpen }) fun _ => rfl]
    rfl
  | packet _ | receiveEnd =>
    simp only [prepare, Server.mapResidue]
    rcases s.current with _ | ⟨_, _ | _⟩ <;> rfl
  | timer n i answers =>
    have hwaits : ((s.mapResidue k g).sess n).waits = (s.sess n).waits :=
      mapResidue_getSess (f := (·.waits)) fun _ _ => rfl
    simp only [prepare, apply_ite (Option.map _),
      hset n (fun x => { x with waits := x.waits.eraseIdx i }) fun _ => rfl]
    simp only [hwaits]
    rfl
  | writeDone n i =>
    have hsend : ((s.mapResidue k g).sess n).send = (s.sess n).send :=
      mapResidue_getSess (f := (·.send)) fun _ _ => rfl
    have hdone := mapResidue_setSess (n := n) (k := k) (g := g) (s := s)
      (f := fun x => { x with send := { x.send with writes := x.send.writes.eraseIdx i } })
      fun _ _ => rfl
    simp only [prepare, apply_ite (Option.map _), Option.map_some, hdone]
    simp only [hsend]
    rfl
  | world redis tables => rfl

/-- The handler of an event that does not use the residue. -/
lemma lockstep_handler (s₀ : Server) (e : Event) (hsafe : KeepsUser g ∨ ¬ UsesResidue k s₀ e) :
    (handler s₀ e).Lockstep (fun s t => Differ k base g s t ∧ s.userIdMap = s₀.userIdMap)
      fun _ => AlikeBut k base := by
  have hnothing : (pure () : Handler Unit).Lockstep
      (fun s t => Differ k base g s t ∧ s.userIdMap = s₀.userIdMap) fun _ => AlikeBut k base :=
    lockstep_alike (Prog.lockstep_pure fun _ _ => Or.inl)
  cases e with
  | startAccept =>
    exact lockstep_alike
      (lockstep_then blind_waitAccept fun _ => Prog.lockstep_pure fun _ _ => Or.inl)
  | acceptDone n error => exact lockstep_alike (blind_handleAccept n error).lockstep
  | receive _ _ | world _ _ => exact hnothing
  | packet answers =>
    simp only [handler]
    split
    case h_1 n packet rest hcur =>
      rintro s t ⟨hst, hmap⟩
      simp only [UsesResidue, hcur, ← hmap] at hsafe
      exact lockstep_processPacket n packet s t ⟨hst, hsafe⟩
    case h_2 => exact hnothing
  | receiveEnd =>
    simp only [handler]
    split
    · exact lockstep_alike (blind_waitReceive _).lockstep
    · exact hnothing
  | receiveError n live error =>
    cases error with
    | eof | connectionReset => exact lockstep_alike (lockstep_closeSession n)
    | other => exact hnothing
  | timer n i answers => exact lockstep_alike (lockstep_rematch n)
  | writeDone n i => exact lockstep_alike (blind_handleWrite n).lockstep

/-- One step of two states that are equal but for the residue. -/
lemma AlikeBut.step {s' : Server} {e : Event} (h : AlikeBut k base s t)
    (hok : NotJoinedSince k base s.log → ¬ UsesResidue k s e) (hs : Step s e s') :
    ∃ t', Step t e t' ∧ AlikeBut k base s' t' := by
  rcases h with ⟨g, rfl, hcov⟩ | rfl
  · obtain ⟨u, hu, hrun⟩ := step_iff.1 hs
    have hprep := prepared_of_prepare hu
    have hcov' : Covered k base g u := by
      rw [Covered, hprep.stat, hprep.log]
      exact hcov
    have halike : Out.Alike (fun _ => AlikeBut k base) ((handler s e).run u)
        ((handler s e).run (u.mapResidue k g)) :=
      lockstep_handler s e (hcov.2.imp_right hok) u _ ⟨⟨rfl, hcov'⟩, hprep.userIdMap⟩
    rw [hrun] at halike
    obtain ⟨t', hrun', halike'⟩ := halike.of_done
    refine ⟨t', step_iff.2 ⟨u.mapResidue k g, ?_, hrun'⟩, halike'⟩
    rw [prepare_mapResidue, hu]
    rfl
  · exact ⟨s', hs, Or.inr rfl⟩

/-! ### Whole runs -/

/-- What the clients and the two stores see of a state, together with the statuses, the login map
and the queues. -/
structure SameOutside (s t : Server) : Prop where
  send : ∀ n, (s.sess n).send = (t.sess n).send
  tables : s.tables = t.tables
  redis : s.redis = t.redis
  userIdMap : s.userIdMap = t.userIdMap
  matchingQue : s.matchingQue = t.matchingQue
  sessionQueue : s.sessionQueue = t.sessionQueue
  stat : ∀ n, (s.sess n).stat = (t.sess n).stat

lemma AlikeBut.sameOutside (h : AlikeBut k base s t) : SameOutside s t := by
  rcases h with ⟨g, rfl, -⟩ | rfl
  · have hsess : ∀ {β : Type} (f : Session → β), (∀ x, f (x.mapResidue g) = f x) → ∀ n,
        f (s.sess n) = f ((s.mapResidue k g).sess n) := fun f hf n =>
      (mapResidue_getSess fun _ => hf).symm
    exact ⟨hsess (·.send) fun _ => rfl, rfl, rfl, rfl, rfl, rfl, hsess (·.stat) fun _ => rfl⟩
  · exact ⟨fun _ => rfl, rfl, rfl, rfl, rfl, rfl, fun _ => rfl⟩

/-- **A recycled session leaks nothing of its previous user**, as long as no packet uses the
residue before a JOIN_REQ has succeeded on the session.  From a state in which the session has the
status `CONN` and from the same state with any other residue of the session, the same events have
the same effects. -/
theorem recycled_session_leaks_nothing {es : List Event} {s' : Server} (r : Residue)
    (hconn : (s.sess k).stat = .conn)
    (h : Runs.Path Step (fun u e => NotJoinedSince k s.log u.log → ¬ UsesResidue k u e) s es s') :
    ∃ t', Runs.Path Step (fun _ _ => True) (s.mapResidue k fun _ => r) es t' ∧
      SameOutside s' t' := by
  have hstart : AlikeBut k s.log s (s.mapResidue k fun _ => r) := by
    refine Or.inl ⟨fun _ => r, rfl, ?_, Or.inr fun new hnew u hu => ?_⟩
    · rw [hconn]
      trivial
    · obtain rfl : new = [] := List.self_eq_append_left.1 hnew
      cases hu
  obtain ⟨t', hpath, halike⟩ :=
    Runs.Path.lockstep (fun _ _ _ _ halike hok hs => halike.step hok hs) hstart h
  exact ⟨t', hpath, halike.sameOutside⟩

/-! ### The first packet of the next client -/

/-- The tables with the user `a` and some rows of `friend_info`. -/
def friendsOf (rows : List (Str × Str)) : Tables := ⟨[⟨lit "a", 3, 1, 350⟩], rows⟩

/-- The user `a` is logged in on the session 0 with some friends and disconnects.  Afterwards `a`
has the friend `b`, and the session 0 is accepted again. -/
def previousUser (rows : List (Str × Str)) : List Event :=
  [.world twoUsers.redis (friendsOf rows), .acceptDone 0 false,
    .receive 0 [.joinReq ⟨lit "ta", lit "a"⟩], .packet ⟨[], [], 1⟩, .receiveEnd, .writeDone 0 0,
    .receiveError 0 true .eof, .world twoUsers.redis (friendsOf [(lit "a", lit "b")]),
    .acceptDone 1 false, .acceptDone 0 false]

/-- The first packet of the next client: FRIENDS_REQ of the type `DEL`. -/
def deleteFriend : List Event :=
  [.receive 0 [.friendsReq ⟨.del, lit "b"⟩], .packet ⟨[], [], 1⟩]

/-- What the session 0 keeps of a user `a` without friends. -/
def noFriends : Residue := ⟨⟨350, 4, 3, 1, 0, lit "a"⟩, lit "ta", []⟩

/-- The next client logs in and requests a match. -/
def joinAndRank : List Event :=
  [.receive 0 [.joinReq ⟨lit "ta", lit "a"⟩, .playRankReq], .packet ⟨[], [], 1⟩,
    .packet ⟨[], [], 1⟩]

/-- `next` for the steps that do not use the residue of the session 0 before a JOIN_REQ of `a`. -/
private def loggedInNext (base : List Mark) (s : Server) (e : Event) : Option Server :=
  let new := s.log.take (s.log.length - base.length)
  match e, s.current with
  | .packet _, some (n, packet :: _) =>
      if (s.log = new ++ base ∧ .joined 0 (lit "a") ∈ new) ∨
        ¬ PacketUses 0 n s.userIdMap packet then next s e else none
  | _, _ => next s e

private lemma loggedIn_of_next {base : List Mark} {e : Event} (h : loggedInNext base s e = some t) :
    (NotJoinedSince 0 base s.log → ¬ UsesResidue 0 s e) ∧ Step s e t := by
  unfold loggedInNext at h
  split at h
  case h_1 n packet rest hcur =>
    obtain ⟨hok, hnext⟩ := Option.ite_none_right_eq_some.1 h
    refine ⟨fun hnot => ?_, step_of_next hnext⟩
    simp only [UsesResidue, hcur]
    exact hok.resolve_left fun ⟨hlog, hmem⟩ => hnot _ hlog _ hmem
  case h_2 hne =>
    refine ⟨fun _ huses => ?_, step_of_next h⟩
    unfold UsesResidue at huses
    split at huses
    case h_2 => exact huses
    case h_1 answers =>
      split at huses
      case h_1 n packet rest hcur => exact hne answers n packet rest rfl hcur
      case h_2 => exact huses

/-- When the next client logs in first, the matching request does not depend on the previous
user. -/
theorem recycled_session_leaks_nothing_login :
    ∃ s s' t', Reachable s ∧ Runs.exec (loggedInNext s.log) s joinAndRank = some s' ∧
      Runs.Path Step (fun _ _ => True) (s.mapResidue 0 fun _ => noFriends) joinAndRank t' ∧
      SameOutside s' t' ∧ (t'.sess 0).stat = .matchRequest := by
  have hrun : ((run twoUsers (previousUser [(lit "a", lit "b")])).bind fun s =>
      (Runs.exec (loggedInNext s.log) s joinAndRank).map fun s' =>
        decide ((s.sess 0).stat = .conn ∧ (s'.sess 0).stat = .matchRequest)) = some true := by
    decide
  obtain ⟨s, hs, hexec⟩ := Option.bind_eq_some_iff.1 hrun
  obtain ⟨s', hs', heq⟩ := Option.map_eq_some_iff.1 hexec
  obtain ⟨hconn, hstat⟩ := of_decide_eq_true heq
  obtain ⟨t', hpath, hsame⟩ := recycled_session_leaks_nothing noFriends hconn
    (Runs.Path.of_exec (fun _ _ _ h => loggedIn_of_next h) hs')
  exact ⟨s, s', t', reachable_of_run hs, hs', hpath, hsame, (hsame.stat 0).symm.trans hstat⟩

/-- After two previous users who only differ in the number of their friends, the states differ in
the residue only. -/
lemma previousUser_alike (hs : run twoUsers (previousUser [(lit "a", lit "b")]) = some s)
    (ht : run twoUsers (previousUser []) = some t) : t = s.mapResidue 0 fun _ => noFriends := by
  have hfield : ∀ {β : Type} (f : Server → β) (x : β),
      (run twoUsers (previousUser [(lit "a", lit "b")])).map f = some x →
      (run twoUsers (previousUser [])).map f = some x → f t = f s := by
    intro β f x h₁ h₂
    rw [hs] at h₁
    rw [ht] at h₂
    exact (Option.some.inj h₂).trans (Option.some.inj h₁).symm
  have heval : ∀ {β : Type} (f g : Server → β),
      (run twoUsers (previousUser [])).map f =
        (run twoUsers (previousUser [(lit "a", lit "b")])).map g → f t = g s := by
    intro β f g h
    rw [hs, ht] at h
    exact Option.some.inj h
  have hsess : t.sess = (s.mapResidue 0 fun _ => noFriends).sess := by
    funext n
    match n with
    | 0 => exact heval (·.sess 0) (fun s => (s.sess 0).withResidue noFriends) (by decide)
    | 1 => exact heval (·.sess 1) (·.sess 1) (by decide)
    | n + 2 => exact hfield (·.sess (n + 2)) (twoUsers.session (n + 2)) rfl rfl
  have hsame : ∀ {β : Type} (f : Server → β), (run twoUsers (previousUser [])).map f =
      (run twoUsers (previousUser [(lit "a", lit "b")])).map f → f t = f s := fun f => heval f f
  refine Server.ext (hsame (·.cfg) (by decide)) hsess (hsame (·.acceptingFlag) (by decide))
    (hsame (·.sessionQueue) (by decide)) (hsame (·.connections) (by decide))
    (hsame (·.roomKeyDel) (by decide)) ?_ (hfield (·.matchingQue) (fun _ => []) rfl rfl) ?_
    (hsame (·.connectionQue) (by decide)) (hsame (·.connectionPool) (by decide))
    (hfield (·.redis) twoUsers.redis rfl rfl) (hsame (·.tables) (by decide))
    (hsame (·.answers) (by decide)) (hsame (·.starting) (by decide))
    (hsame (·.accepts) (by decide)) (hsame (·.reads) (by decide)) (hsame (·.current) (by decide))
    (hsame (·.heap) (by decide)) (hsame (·.active) (by decide)) (hsame (·.log) (by decide))
  · exact hfield (·.userIdMap) (Function.update (Function.update (fun _ => none) (lit "a") (some 0))
      (lit "a") none) rfl rfl
  · exact (Reachable.mtx_free (reachable_of_run ht)).trans
      (Reachable.mtx_free (reachable_of_run hs)).symm

/-- The first packet of a client who has not logged in deletes a friend of the previous user, when
that user had friends, and does not when the previous user had none. -/
theorem friend_deleted_for_previous_user :
    ∃ s t₁ t₂, Reachable s ∧ Reachable (s.mapResidue 0 fun _ => noFriends) ∧
      (s.sess 0).stat = .conn ∧ Runs.Path Step (fun _ _ => True) s deleteFriend t₁ ∧
      Runs.Path Step (fun _ _ => True) (s.mapResidue 0 fun _ => noFriends) deleteFriend t₂ ∧
      t₁.tables.friendInfo = [] ∧ t₂.tables.friendInfo = [(lit "a", lit "b")] := by
  have hrun₁ : ((run twoUsers (previousUser [(lit "a", lit "b")])).bind fun s =>
      (Runs.exec next s deleteFriend).map fun t =>
        decide ((s.sess 0).stat = .conn ∧ t.tables.friendInfo = [])) = some true := by decide
  have hrun₂ : ((run twoUsers (previousUser [])).bind fun s =>
      (Runs.exec next s deleteFriend).map fun t =>
        decide (t.tables.friendInfo = [(lit "a", lit "b")])) = some true := by decide
  obtain ⟨s₁, hs₁, hexec₁⟩ := Option.bind_eq_some_iff.1 hrun₁
  obtain ⟨t₁, ht₁, heq₁⟩ := Option.map_eq_some_iff.1 hexec₁
  obtain ⟨hconn, hfriends₁⟩ := of_decide_eq_true heq₁
  obtain ⟨s₂, hs₂, hexec₂⟩ := Option.bind_eq_some_iff.1 hrun₂
  obtain ⟨t₂, ht₂, heq₂⟩ := Option.map_eq_some_iff.1 hexec₂
  obtain rfl := previousUser_alike hs₁ hs₂
  have hnext : ∀ (s : Server) e t, next s e = some t → True ∧ Step s e t :=
    fun _ _ _ h => ⟨trivial, step_of_next h⟩
  exact ⟨s₁, t₁, t₂, reachable_of_run hs₁, reachable_of_run hs₂, hconn, .of_exec hnext ht₁,
    .of_exec hnext ht₂, hfriends₁, of_decide_eq_true heq₂⟩

end ChannelServer
