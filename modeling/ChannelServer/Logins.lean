/-
Logins at the same time.

`lobby_login_process` looks for the user in the login map, asks the database twice, and only then
inserts the entry.  When several clients log in as one user on different sessions, two of them can
pass the check before either has inserted its entry: both logins succeed, and the entry of the
second one is refused, which the code does not look at.  `LoginConflict` is the condition under
which this can happen: two of the requests pass the checks of the code in the state before.
`one_live_login` proves that without it no schedule lets two of them succeed, and that with it
some schedule does, when the connections to the database are usable.
-/
import ChannelServer.Lib.Interleave
import ChannelServer.Locks
import ChannelServer.LoginMap
import ChannelServer.Users

namespace ChannelServer

open Resumption

section Logins

variable {ι : Type} (n : ι → SessionId) (message : ι → JoinRequest) (id : Str) (s₀ : Server)

/-- Several requests to log in, processed at the same time. -/
def logins (s : Server) : Threads ι Server Fault Bool :=
  ⟨fun i => lobbyLoginProcess (n i) (message i), s⟩

/-- The request `i` passes the checks of `lobby_login_process` in the state: the socket is open,
redis has the user id under the token, the user is offline, and the database knows it. -/
structure Admissible (i : ι) : Prop where
  isOpen : (s₀.sess (n i)).isOpen = true
  token : s₀.redis (message i).token = some id
  offline : s₀.userIdMap id = none
  row : ∃ row ∈ s₀.tables.userInfo, row.id = id

/-- Two of the requests are admissible. -/
def LoginConflict : Prop :=
  ∃ i j, i ≠ j ∧ Admissible n message id s₀ i ∧ Admissible n message id s₀ j

/-! ### What the other requests may do -/

/-- The action does not touch what a login depends on. -/
structure Apart (s t : Server) : Prop where
  isOpen : ∀ k, (t.sess k).isOpen = (s.sess k).isOpen
  userId : ∀ k, (t.sess k).userId = (s.sess k).userId
  redis : t.redis = s.redis
  userInfo : t.tables.userInfo = s.tables.userInfo
  userIdMap : t.userIdMap = s.userIdMap

/-- What the request `i` relies on. -/
structure LoginRely (i : ι) (s t : Server) : Prop where
  isOpen : ∀ k, (t.sess k).isOpen = (s.sess k).isOpen
  userId : (t.sess (n i)).userId = (s.sess (n i)).userId
  redis : ∀ key, t.redis key = s.redis key ∨ t.redis key = none
  userInfo : t.tables.userInfo = s.tables.userInfo
  online : s.userIdMap id ≠ none → t.userIdMap id ≠ none
  entry : Admissible n message id s₀ i → t.userIdMap id = s.userIdMap id

/-- What the request `i` guarantees: it sets no user id but its own, and it inserts the entry only
when it is admissible. -/
structure LoginGuarantee (i : ι) (s t : Server) : Prop where
  isOpen : ∀ k, (t.sess k).isOpen = (s.sess k).isOpen
  userId : ∀ k, k ≠ n i → (t.sess k).userId = (s.sess k).userId
  redis : ∀ key, t.redis key = s.redis key ∨ t.redis key = none
  userInfo : t.tables.userInfo = s.tables.userInfo
  online : s.userIdMap id ≠ none → t.userIdMap id ≠ none
  entry : ¬ Admissible n message id s₀ i → t.userIdMap id = s.userIdMap id

/-- The entry of the user has not been inserted by the request `i`. -/
structure LoginCalm (i : ι) (s : Server) : Prop where
  isOpen : ∀ k, (s.sess k).isOpen = (s₀.sess k).isOpen
  redis : ∀ key, s.redis key = s₀.redis key ∨ s.redis key = none
  userInfo : s.tables.userInfo = s₀.tables.userInfo
  online : s₀.userIdMap id ≠ none → s.userIdMap id ≠ none
  entry : Admissible n message id s₀ i → s.userIdMap id = none

variable {n message id s₀} {i j : ι} {s t u : Server}

lemma LoginRely.refl (s : Server) : LoginRely n message id s₀ i s s :=
  ⟨fun _ => rfl, rfl, fun _ => Or.inl rfl, rfl, fun h => h, fun _ => rfl⟩

lemma LoginRely.trans (h₁ : LoginRely n message id s₀ i s t)
    (h₂ : LoginRely n message id s₀ i t u) :
    LoginRely n message id s₀ i s u := by
  refine ⟨fun k => (h₂.isOpen k).trans (h₁.isOpen k), h₂.userId.trans h₁.userId, fun key => ?_,
    h₂.userInfo.trans h₁.userInfo, fun h => h₂.online (h₁.online h),
    fun h => (h₂.entry h).trans (h₁.entry h)⟩
  rcases h₂.redis key with h | h
  · rw [h]
    exact h₁.redis key
  · exact Or.inr h

/-- Without a conflict, the requests guarantee what the others rely on. -/
lemma LoginGuarantee.rely (hn : Function.Injective n) (hfree : ¬ LoginConflict n message id s₀)
    (hij : j ≠ i) (h : LoginGuarantee n message id s₀ j s t) : LoginRely n message id s₀ i s t :=
  ⟨h.isOpen, h.userId _ fun heq => hij (hn heq.symm), h.redis, h.userInfo, h.online,
    fun hi => h.entry fun hj => hfree ⟨j, i, hij, hj, hi⟩⟩

lemma Apart.guarantee (h : Apart s t) : LoginGuarantee n message id s₀ i s t :=
  ⟨h.isOpen, fun k _ => h.userId k, fun _ => Or.inl (by rw [h.redis]), h.userInfo,
    fun hne => by rwa [h.userIdMap], fun _ => by rw [h.userIdMap]⟩

lemma LoginCalm.stable : Stable (LoginRely n message id s₀ i) (LoginCalm n message id s₀ i) := by
  intro s t hs h
  refine ⟨fun k => (h.isOpen k).trans (hs.isOpen k), fun key => ?_, h.userInfo.trans hs.userInfo,
    fun hne => h.online (hs.online hne), fun hi => (h.entry hi).trans (hs.entry hi)⟩
  rcases h.redis key with hkey | hkey
  · rw [hkey]
    exact hs.redis key
  · exact Or.inr hkey

lemma LoginCalm.apart : Stable Apart (LoginCalm n message id s₀ i) := by
  intro s t hs h
  refine ⟨fun k => (h.isOpen k).trans (hs.isOpen k), fun key => ?_, h.userInfo.trans hs.userInfo,
    fun hne => ?_, fun hi => ?_⟩
  · rw [h.redis]
    exact hs.redis key
  · rw [h.userIdMap]
    exact hs.online hne
  · rw [h.userIdMap]
    exact hs.entry hi

/-! ### Programs that do not touch what a login depends on -/

lemma Apart.refl (s : Server) : Apart s s := ⟨fun _ => rfl, fun _ => rfl, rfl, rfl, rfl⟩

/-- A member of the sessions is as it was when it is so in the session that is replaced. -/
lemma setSess_member {β : Type} (f : Session → β) (s : Server) {k : SessionId} {x : Session}
    (h : f x = f (s.sess k)) (l : SessionId) : f ((s.setSess k x).sess l) = f (s.sess l) := by
  by_cases hlk : l = k
  · subst hlk
    simpa [Server.setSess] using h
  · simp [Server.setSess, Function.update_of_ne hlk]

lemma apart_setSess (s : Server) {k : SessionId} {x : Session}
    (hopen : x.isOpen = (s.sess k).isOpen)
    (huser : x.userId = (s.sess k).userId) : Apart s (s.setSess k x) :=
  ⟨setSess_member (·.isOpen) s hopen, setSess_member (·.userId) s huser, rfl, rfl, rfl⟩

lemma apart_modifySess (k : SessionId) {f : Session → Session}
    (hopen : ∀ x, (f x).isOpen = x.isOpen) (huser : ∀ x, (f x).userId = x.userId) :
    Prog.Within Apart (modifySess k f) :=
  Prog.within_modify fun s => apart_setSess s (hopen _) (huser _)

lemma apart_connections (s : Server) (mtx : Mutex → ℕ) (que : List ℕ) :
    Apart s { s with mtx := mtx, connectionQue := que } :=
  ⟨fun _ => rfl, fun _ => rfl, rfl, rfl, rfl⟩

lemma apart_sendMessage (k : SessionId) (m : Message) : Prog.Within Apart (sendMessage k m) :=
  Prog.within_bind (Prog.within_atomic fun _ => ⟨fun _ => rfl, fun _ => rfl, rfl, rfl, rfl⟩)
    fun _ => Prog.within_modify fun s => apart_setSess s rfl rfl

lemma apart_getUserFriendsList (u : Str) : Prog.Within Apart (getUserFriendsList u) := by
  have hquery : Prog.Within Apart (mysqlQuery (.selectFriends u)) := by
    refine Prog.within_atomic fun s => ?_
    dsimp only
    split <;> exact ⟨fun _ => rfl, fun _ => rfl, rfl, rfl, rfl⟩
  refine Prog.within_bind (within_acquireConnection apart_connections) fun index =>
    Prog.within_bind hquery fun result => ?_
  cases result <;> exact Prog.within_bind (within_releaseConnection apart_connections _) fun _ =>
    Prog.within_pure _

/-! ### One login under interference -/

variable (n message id s₀) in
/-- A pre- and postcondition of a part of the request `i`, with the other requests at work. -/
abbrev LoginTriple (i : ι) {α : Type} (P : Server → Prop) (p : Handler α)
    (Q : α → Server → Prop) : Prop :=
  RelyTriple (LoginRely n message id s₀ i) (LoginGuarantee n message id s₀ i) P p Q

section Triples

variable {α β : Type} {P : Server → Prop}

lemma login_bind {Q : α → Server → Prop} {S : β → Server → Prop} {p : Handler α}
    {f : α → Handler β} (hp : LoginTriple n message id s₀ i P p Q)
    (hf : ∀ a, LoginTriple n message id s₀ i (Q a) (f a) S) :
    LoginTriple n message id s₀ i P (p >>= f) S := RelyTriple.bind .refl hp hf

/-- A part that does not touch what a login depends on. -/
lemma login_apart {p : Handler α} (h : Prog.Within Apart p) :
    LoginTriple n message id s₀ i (LoginCalm n message id s₀ i) p fun _ =>
      LoginCalm n message id s₀ i :=
  rely_of_keeps (fun _ _ h => h.guarantee) LoginCalm.stable LoginCalm.apart h

/-- A read, and what the state says about its result. -/
lemma login_read {f : Server → α} {c : α → Prop}
    (h : ∀ s, LoginCalm n message id s₀ i s → c (f s)) :
    LoginTriple n message id s₀ i (LoginCalm n message id s₀ i) (Prog.read f) fun a s =>
      LoginCalm n message id s₀ i s ∧ c a :=
  rely_atomic LoginCalm.stable (fun _ s t hs hst => ⟨LoginCalm.stable s t hs.1 hst, hs.2⟩)
    fun s hs => ⟨(Apart.refl s).guarantee, hs, h s hs⟩

/-- The result of a part, without an action. -/
lemma login_pure {a : α} {c : α → Prop} (h : c a) :
    LoginTriple n message id s₀ i (LoginCalm n message id s₀ i) (pure a) fun a s =>
      LoginCalm n message id s₀ i s ∧ c a :=
  rely_pure (fun s t hs hst => ⟨LoginCalm.stable s t hs.1 hst, hs.2⟩) fun _ hs => ⟨hs, h⟩

variable (n message id s₀) in
/-- What the request `i` has achieved when it returns `a`. -/
def LoginDone (i : ι) (a : Bool) (s : Server) : Prop :=
  a = true → Admissible n message id s₀ i ∧ s.userIdMap id = some (n i)

lemma LoginDone.stable (a : Bool) :
    Stable (LoginRely n message id s₀ i) (LoginDone n message id s₀ i a) := by
  intro s t hs hst ha
  obtain ⟨hadm, hmap⟩ := hs ha
  exact ⟨hadm, (hst.entry hadm).trans hmap⟩

/-- A request that is refused. -/
lemma login_refused {p : Handler Unit} (h : Prog.Within (LoginGuarantee n message id s₀ i) p) :
    LoginTriple n message id s₀ i P (p >>= fun _ => pure false) (LoginDone n message id s₀ i) :=
  login_bind (rely_of_within h) fun _ =>
    rely_pure (LoginDone.stable false) fun _ _ h => absurd h (by simp)

/-- The user id that is admitted is offline and stored under the token. -/
lemma login_admittedId (hid : ∀ u, s₀.redis (message i).token = some u → u = id) :
    LoginTriple n message id s₀ i (LoginCalm n message id s₀ i) (admittedId (message i).token)
      fun r s => LoginCalm n message id s₀ i s ∧ ∀ u, r = some u →
        u = id ∧ s₀.redis (message i).token = some id ∧ s₀.userIdMap id = none := by
  refine login_bind (login_read (c := fun kv => ∀ u, kv = some u →
    u = id ∧ s₀.redis (message i).token = some id) ?_) fun kv => rely_of_imp fun hkv => ?_
  · intro s hs u hu
    rcases hs.redis (message i).token with h | h
    · have hstored := h.symm.trans hu
      obtain rfl := hid u hstored
      exact ⟨rfl, hstored⟩
    · exact absurd (h.symm.trans hu) (by simp)
  · cases kv with
    | none => exact login_pure fun u hu => absurd hu (by simp)
    | some u =>
      obtain ⟨rfl, htoken⟩ := hkv u rfl
      have hfind : LoginTriple n message u s₀ i (LoginCalm n message u s₀ i) (findIdInUserMap u)
          fun found s => LoginCalm n message u s₀ i s ∧ (found = none → s₀.userIdMap u = none) := by
        refine login_bind (login_apart (within_lock apart_connections _)) fun _ =>
          login_bind (login_read (c := fun found => found = none → s₀.userIdMap u = none) ?_)
            fun found => rely_of_imp fun hfound => ?_
        · intro s hs hnone
          by_contra hne
          exact hs.online hne hnone
        · exact login_bind (login_apart (within_unlock apart_connections _)) fun _ =>
            login_pure hfound
      refine login_bind hfind fun found => rely_of_imp fun hfound => ?_
      cases found with
      | some _ => exact login_pure fun u' hu' => absurd hu' (by simp)
      | none =>
        refine login_pure fun u' hu' => ?_
        obtain rfl := Option.some.inj hu'
        exact ⟨rfl, htoken, hfound rfl⟩

/-- A user that the database finds has a row. -/
lemma login_getQueryUserInfo :
    LoginTriple n message id s₀ i (LoginCalm n message id s₀ i) (getQueryUserInfo id)
      fun row s => LoginCalm n message id s₀ i s ∧
        (row ≠ none → ∃ row ∈ s₀.tables.userInfo, row.id = id) := by
  have hquery : LoginTriple n message id s₀ i (LoginCalm n message id s₀ i)
      (mysqlQuery (.selectUserInfo id)) fun result s => LoginCalm n message id s₀ i s ∧
        ∀ r, result = some r → r.userRows = s₀.tables.userInfo.filter (·.id = id) := by
    refine rely_atomic LoginCalm.stable
      (fun _ s t hs hst => ⟨LoginCalm.stable s t hs.1 hst, hs.2⟩) fun s hs => ?_
    dsimp only
    split
    · have happ : Apart s { s with answers := { s.answers with
          queryFails := s.answers.queryFails.tail } } :=
        ⟨fun _ => rfl, fun _ => rfl, rfl, rfl, rfl⟩
      exact ⟨happ.guarantee, LoginCalm.apart _ _ hs happ, fun r hr => absurd hr (by simp)⟩
    · have happ : Apart s { s with
          answers := { s.answers with queryFails := s.answers.queryFails.tail }
          tables := (Stmt.exec s.tables (.selectUserInfo id)).2 } :=
        ⟨fun _ => rfl, fun _ => rfl, rfl, rfl, rfl⟩
      refine ⟨happ.guarantee, LoginCalm.apart _ _ hs happ, fun r hr => ?_⟩
      obtain rfl := Option.some.inj hr
      show s.tables.userInfo.filter (·.id = id) = _
      rw [hs.userInfo]
  refine login_bind (login_apart (within_acquireConnection apart_connections)) fun index =>
    login_bind hquery fun result => rely_of_imp fun hresult => ?_
  have hrelease : ∀ row : Option UserRow, (row ≠ none → ∃ row ∈ s₀.tables.userInfo, row.id = id) →
      LoginTriple n message id s₀ i (LoginCalm n message id s₀ i) (do
        releaseConnection index
        pure row : Handler (Option UserRow)) fun row s => LoginCalm n message id s₀ i s ∧
          (row ≠ none → ∃ row ∈ s₀.tables.userInfo, row.id = id) := fun row hrow =>
    login_bind (login_apart (within_releaseConnection apart_connections index)) fun _ =>
      login_pure (c := fun row : Option UserRow =>
        row ≠ none → ∃ row ∈ s₀.tables.userInfo, row.id = id) hrow
  cases result with
  | none => exact hrelease none fun h => absurd rfl h
  | some r =>
    refine hrelease _ fun hrow => ?_
    obtain ⟨row, hlast⟩ := Option.ne_none_iff_exists'.1 hrow
    have hmem := List.mem_of_getLast? hlast
    rw [hresult r rfl] at hmem
    simp only [List.mem_filter, decide_eq_true_eq] at hmem
    exact ⟨row, hmem⟩

/-- The session of the request has the user id. -/
lemma login_setUserInfo (rating battleHistory win lose : ℤ) :
    LoginTriple n message id s₀ i (LoginCalm n message id s₀ i)
      (setUserInfo (n i) rating battleHistory win lose id) fun _ s =>
        LoginCalm n message id s₀ i s ∧ (s.sess (n i)).userId = id := by
  refine rely_atomic LoginCalm.stable
    (fun _ s t hs hst => ⟨LoginCalm.stable s t hs.1 hst, hst.userId.trans hs.2⟩) fun s hs => ?_
  have hopen := setSess_member (·.isOpen) s (k := n i) (x := { s.sess (n i) with
    ratingScore := rating, battleHistory := battleHistory, win := win, lose := lose
    userId := id }) rfl
  refine ⟨⟨hopen, fun k hk => ?_, fun _ => Or.inl rfl, rfl, fun h => h, fun _ => rfl⟩,
    ⟨fun k => (hopen k).trans (hs.isOpen k), hs.redis, hs.userInfo, hs.online, hs.entry⟩, ?_⟩
  · simp [Server.setSess, Function.update_of_ne hk]
  · simp [Server.setSess]

/-- A part that does not touch what a login depends on, after the user id was set. -/
lemma login_named {p : Handler α} (h : Prog.Within Apart p) :
    LoginTriple n message id s₀ i
      (fun s => LoginCalm n message id s₀ i s ∧ (s.sess (n i)).userId = id) p fun _ s =>
        LoginCalm n message id s₀ i s ∧ (s.sess (n i)).userId = id :=
  rely_of_keeps (fun _ _ h => h.guarantee)
    (fun s t hs hst => ⟨LoginCalm.stable s t hs.1 hst, hst.userId.trans hs.2⟩)
    (fun s t hs hst => ⟨LoginCalm.apart s t hs.1 hst, (hst.userId _).trans hs.2⟩) h

lemma login_getUserId :
    LoginTriple n message id s₀ i
      (fun s => LoginCalm n message id s₀ i s ∧ (s.sess (n i)).userId = id) (getUserId (n i))
      fun v s => LoginCalm n message id s₀ i s ∧ v = id :=
  rely_atomic (fun s t hs hst => ⟨LoginCalm.stable s t hs.1 hst, hst.userId.trans hs.2⟩)
    (fun _ s t hs hst => ⟨LoginCalm.stable s t hs.1 hst, hs.2⟩)
    fun s hs => ⟨(Apart.refl s).guarantee, hs⟩

/-- The first entry of an admissible request is inserted. -/
lemma login_addIdInUserMap (hadm : Admissible n message id s₀ i) :
    LoginTriple n message id s₀ i (LoginCalm n message id s₀ i) (addIdInUserMap (n i) id)
      fun _ s => s.userIdMap id = some (n i) := by
  have hstable : Stable (LoginRely n message id s₀ i) fun s => s.userIdMap id = some (n i) :=
    fun s t hs hst => (hst.entry hadm).trans hs
  have hkeep : Stable Apart fun s => s.userIdMap id = some (n i) := fun s t hs hst =>
    (congrFun hst.userIdMap id).trans hs
  refine login_bind (login_apart (within_lock apart_connections _)) fun _ =>
    login_bind (login_read (c := fun iter => iter = none) fun s hs => hs.entry hadm)
      fun iter => rely_of_imp ?_
  rintro rfl
  refine login_bind (Q := fun _ s => s.userIdMap id = some (n i)) ?_ fun _ =>
    login_bind (rely_of_keeps (fun _ _ h => h.guarantee) hstable hkeep
      (within_unlock apart_connections _)) fun _ => rely_pure hstable fun _ h => h
  refine rely_atomic LoginCalm.stable (fun _ => hstable) fun s hs => ?_
  refine ⟨⟨fun _ => rfl, fun _ _ => rfl, fun _ => Or.inl rfl, rfl, fun _ => ?_, fun hnot => ?_⟩, ?_⟩
  · simp
  · exact absurd hadm hnot
  · exact Function.update_self _ _ _

/-- **A login under interference**: it succeeds only when the request is admissible, and then the
entry of the user is its own. -/
theorem login_prog (hid : ∀ u, s₀.redis (message i).token = some u → u = id) :
    LoginTriple n message id s₀ i (LoginCalm n message id s₀ i)
      (lobbyLoginProcess (n i) (message i)) (LoginDone n message id s₀ i) := by
  have hsend : ∀ m, Prog.Within (LoginGuarantee n message id s₀ i) (sendMessage (n i) m) :=
    fun m => (apart_sendMessage (n i) m).mono fun _ _ h => h.guarantee
  refine login_bind (login_read (c := fun b => b = true → (s₀.sess (n i)).isOpen = true)
    fun s hs h => by rw [← hs.isOpen]; exact h) fun isOpen => rely_of_imp fun hopen => ?_
  refine rely_ite (fun htrue => ?_) fun _ => rely_pure (LoginDone.stable false) fun _ _ h =>
    absurd h (by simp)
  refine login_bind (login_admittedId hid) fun r => rely_of_imp fun hr => ?_
  cases r with
  | none =>
    refine login_bind (rely_of_within (Prog.within_modify fun s => Apart.guarantee ?_)) fun _ =>
      login_refused (hsend _)
    exact apart_setSess s rfl rfl
  | some u =>
    obtain ⟨rfl, htoken, hoffline⟩ := hr u rfl
    refine login_bind login_getQueryUserInfo fun row => rely_of_imp fun hrow => ?_
    cases row with
    | none =>
      refine login_bind (rely_of_within (Prog.within_atomic fun s => ?_)) fun _ =>
        login_refused (hsend _)
      refine ⟨fun _ => rfl, fun _ _ => rfl, fun key => ?_, rfl, fun h => h, fun _ => rfl⟩
      show Function.update s.redis _ none key = _ ∨ Function.update s.redis _ none key = none
      by_cases hkey : key = (message i).token
      · subst hkey
        exact Or.inr (Function.update_self _ _ _)
      · exact Or.inl (Function.update_of_ne hkey _ _)
    | some row =>
      have hadm : Admissible n message u s₀ i :=
        ⟨hopen htrue, htoken, hoffline, hrow (by simp)⟩
      refine login_bind (login_apart (apart_getUserFriendsList u)) fun friends => ?_
      cases friends with
      | none => exact login_refused (hsend _)
      | some friends =>
        refine login_bind (login_apart (apart_modifySess _ (fun _ => rfl) fun _ => rfl)) fun _ =>
          login_bind (login_setUserInfo _ _ _ _) fun _ =>
          login_bind (login_named (apart_modifySess _ (fun _ => rfl) fun _ => rfl)) fun _ =>
          login_bind login_getUserId fun v => rely_of_imp ?_
        rintro rfl
        refine login_bind (login_addIdInUserMap hadm) fun _ => ?_
        -- the rest of the login leaves the entry alone
        have hstored : Stable (LoginRely n message v s₀ i) fun s => s.userIdMap v = some (n i) :=
          fun s t hs hst => (hst.entry hadm).trans hs
        have hkeep : Stable Apart fun s => s.userIdMap v = some (n i) := fun s t hs hst =>
          (congrFun hst.userIdMap v).trans hs
        have happ : ∀ {p : Handler Unit}, Prog.Within Apart p →
            LoginTriple n message v s₀ i (fun s => s.userIdMap v = some (n i)) p fun _ s =>
              s.userIdMap v = some (n i) := rely_of_keeps (fun _ _ h => h.guarantee) hstored hkeep
        exact login_bind (happ (apart_modifySess _ (fun _ => rfl) fun _ => rfl)) fun _ =>
          login_bind
            (happ (Prog.within_modify fun _ => ⟨fun _ => rfl, fun _ => rfl, rfl, rfl, rfl⟩))
          fun _ => login_bind (happ (apart_sendMessage _ _)) fun _ =>
          rely_pure (LoginDone.stable true) fun s hs _ => ⟨hadm, hs⟩

end Triples

/-! ### A login that nobody disturbs -/

/-- No mutex is locked, and the database answers. -/
structure LoginReady (s : Server) : Prop where
  mtx : s.mtx = free
  answers : s.answers = ⟨[], [], 1⟩
  up : s.DatabaseUp

lemma LoginReady.serves {s : Server} (hs : LoginReady s) : s.Serves :=
  hs.up.serves (congrFun hs.mtx _) (by rw [hs.answers]; decide)

/-- No statement fails, and no answer is used up. -/
lemma LoginReady.afterQuery {s : Server} (hs : LoginReady s) :
    s.answers.fails = false ∧ LoginReady (s.afterQuery s.answers.next s.tables) := by
  have hnext : s.answers.next = s.answers := by
    rw [hs.answers]
    rfl
  rw [hnext]
  exact ⟨by rw [hs.answers]; rfl, hs.mtx, hs.answers, hs.up.of_perm (List.rotate_perm _ 1) rfl⟩

/-- A login of a user with a row succeeds. -/
lemma loginAs_run {k : SessionId} {id : Str} (token : Str) {s : Server} (hs : LoginReady s)
    (hrow : ∃ row ∈ s.tables.userInfo, row.id = id) :
    ∃ t, (loginAs k token id).run s = .done true t ∧ LoginReady t ∧ t.tables = s.tables ∧
      (t.sess k).stat = .login ∧ ∀ l, l ≠ k → t.sess l = s.sess l := by
  obtain ⟨hok, hs₁⟩ := hs.afterQuery
  have hinfo := getQueryUserInfo_run hs.serves id
  obtain ⟨hok₁, hs₂⟩ := hs₁.afterQuery
  have hfriends := getUserFriendsList_run hs₁.serves id
  obtain ⟨row, hlast⟩ : ∃ row, s.tables.userRow id = some row := by
    obtain ⟨row, hmem, hid⟩ := hrow
    refine Option.ne_none_iff_exists'.1 fun hnone => ?_
    exact userRow_eq_none.1 hnone row hmem hid
  rw [if_neg (by simp [hok]), hlast] at hinfo
  rw [if_neg (by simp [hok₁])] at hfriends
  unfold loginAs
  rw [Prog.run_bind, hinfo, Out.bind_done, Prog.run_bind, hfriends, Out.bind_done]
  refine ⟨_, Prog.run_bind_eq_done.2 ⟨(), _, rfl, Prog.run_bind_eq_done.2 ⟨(), _, rfl,
    Prog.run_bind_eq_done.2 ⟨(), _, rfl, Prog.run_bind_eq_done.2 ⟨_, _, rfl,
    Prog.run_bind_eq_done.2 ⟨_, _, addIdInUserMap_run (congrFun hs.mtx _), rfl⟩⟩⟩⟩⟩, ?_, rfl, ?_,
    ?_⟩
  · exact ⟨hs₂.mtx, hs₂.answers, hs₂.up⟩
  · simp [Server.setSess]
  · intro l hl
    simp only [Server.setSess, Function.update_of_ne hl]
    rfl

/-! ### A schedule for two requests in conflict -/

variable [DecidableEq ι]

/-- A request that is admissible comes to its first query. -/
lemma reaches_admitted {c : Threads ι Server Fault Bool}
    (hi : c.prog i = lobbyLoginProcess (n i) (message i))
    (hmtx : c.state.mtx = free) (hadm : Admissible n message id c.state i) :
    c.Reaches (c.set i (loginAs (n i) (message i).token id) c.state) := by
  have hadmitted : (admittedId (message i).token).run c.state = .done (some id) c.state := by
    unfold admittedId getRedisKv
    rw [Prog.run_bind, Prog.run_read, Out.bind_done, hadm.token]
    show ((findIdInUserMap id >>= fun found => _ : Handler (Option Str)).run c.state) = _
    rw [Prog.run_bind, findIdInUserMap_run id (congrFun hmtx _), Out.bind_done, hadm.offline]
    rfl
  have hopen : (socketIsOpen (n i)).run c.state = .done true c.state :=
    congrArg (Out.done · c.state) hadm.isOpen
  have hread := Threads.reaches_of_run (hi.trans rfl) hopen
  rw [if_pos rfl] at hread
  exact hread.run hadmitted

/-- A request that has been admitted succeeds when it is not disturbed. -/
lemma reaches_loggedIn {c : Threads ι Server Fault Bool} {k : SessionId} {token : Str}
    (hi : c.prog i = loginAs k token id) (hs : LoginReady c.state)
    (hrow : ∃ row ∈ c.state.tables.userInfo, row.id = id) :
    ∃ t, c.Reaches (c.set i (pure true) t) ∧ LoginReady t ∧ t.tables = c.state.tables ∧
      (t.sess k).stat = .login ∧ ∀ l, l ≠ k → t.sess l = c.state.sess l := by
  obtain ⟨t, hrun, ht⟩ := loginAs_run (k := k) token hs hrow
  have hprog : c.prog i = loginAs k token id >>= pure := by rw [hi, bind_pure]
  exact ⟨t, Threads.reaches_of_run hprog hrun, ht⟩

variable (n message id) in
/-- Of the requests, at most one has succeeded and is in the status `LOGIN`, and the login map has
its session under the user id, whatever the outside answers and in whatever order the actions of
the requests are done. -/
def OneLogin (s : Server) : Prop :=
  ∀ answers t, (logins n message { s with answers := answers }).Reaches t →
    (∀ i, t.result i = some true → (t.state.sess (n i)).stat = .login →
      t.state.userIdMap id = some (n i)) ∧
    ∀ i j, t.result i = some true → (t.state.sess (n i)).stat = .login →
      t.result j = some true → (t.state.sess (n j)).stat = .login → i = j

/-- Both requests are admitted, and then one after the other succeeds. -/
lemma reaches_two_logins (hn : Function.Injective n) {s : Server} (hs : LoginReady s) (hij : i ≠ j)
    (hi : Admissible n message id s i) (hj : Admissible n message id s j) :
    ∃ t, (logins n message s).Reaches t ∧ t.result i = some true ∧ t.result j = some true ∧
      (t.state.sess (n i)).stat = .login ∧ (t.state.sess (n j)).stat = .login := by
  have hreach₁ := reaches_admitted (c := logins n message s) (i := i) rfl hs.mtx hi
  have hreach₂ := reaches_admitted
    (c := (logins n message s).set i (loginAs (n i) (message i).token id) s) (i := j)
    (Threads.set_prog_of_ne _ hij.symm _ _) hs.mtx hj
  obtain ⟨t₁, hreach₃, hready₁, htables₁, hstat₁, -⟩ := reaches_loggedIn
    (c := ((logins n message s).set i (loginAs (n i) (message i).token id) s).set j
      (loginAs (n j) (message j).token id) s) (i := i)
    ((Threads.set_prog_of_ne _ hij _ _).trans (Threads.set_prog_self _ _ _ _)) hs hi.row
  obtain ⟨t₂, hreach₄, -, -, hstat₂, hothers₂⟩ := reaches_loggedIn
    (c := (((logins n message s).set i (loginAs (n i) (message i).token id) s).set j
      (loginAs (n j) (message j).token id) s).set i (pure true) t₁) (i := j)
    ((Threads.set_prog_of_ne _ hij.symm _ _).trans (Threads.set_prog_self _ _ _ _)) hready₁
    (by rw [Threads.set_state, htables₁]; exact hj.row)
  refine ⟨_, ((hreach₁.trans hreach₂).trans hreach₃).trans hreach₄, ?_, ?_, ?_, hstat₂⟩
  · simp only [Threads.result, Threads.set_prog_of_ne _ hij, Threads.set_prog_self]
    rfl
  · simp only [Threads.result, Threads.set_prog_self]
    rfl
  · have hne : n i ≠ n j := fun h => hij (hn h)
    rw [Threads.set_state, hothers₂ (n i) hne]
    exact hstat₁

/-- **One live login for each user**, exactly when the requests are not in conflict.  From a
reachable state, any number of JOIN_REQ for one user id on different sessions run interleaved: no
schedule lets two of them succeed unless at the start two of them are admissible, and then some
schedule does, when the connections to the database are usable. -/
theorem one_live_login {s : Server} (h : Reachable s) (hn : Function.Injective n)
    (hid : ∀ i u, s.redis (message i).token = some u → u = id) :
    (¬ LoginConflict n message id s → OneLogin n message id s) ∧
      (s.DatabaseUp → OneLogin n message id s → ¬ LoginConflict n message id s) := by
  constructor
  · intro hfree answers t ht
    have hpost : ∀ i, t.result i = some true → t.state.userIdMap id = some (n i) := by
      intro i hi
      have hdone := Threads.Reaches.post (R := LoginRely n message id s)
        (G := LoginGuarantee n message id s) (P := LoginCalm n message id s)
        (Q := LoginDone n message id s) (fun _ => .refl) (fun _ _ _ _ => .trans)
        (fun _ _ _ _ hij hG => hG.rely hn hfree hij.symm) (fun i => login_prog (hid i))
        (fun i => ?_) ht hi
      · exact (hdone rfl).2
      · exact ⟨fun _ => rfl, fun _ => Or.inl rfl, rfl, fun hne => hne, fun hadm => hadm.offline⟩
    refine ⟨fun i hi _ => hpost i hi, fun i j hi _ hj _ => hn ?_⟩
    exact Option.some.inj ((hpost i hi).symm.trans (hpost j hj))
  · rintro hup hsafe ⟨i, j, hij, hi, hj⟩
    have hmtx : s.mtx = free := Reachable.mtx_free h
    obtain ⟨t, hreach, hti, htj, hsti, hstj⟩ :=
      reaches_two_logins (s := { s with answers := ⟨[], [], 1⟩ }) hn ⟨hmtx, rfl, hup⟩ hij
        ⟨hi.isOpen, hi.token, hi.offline, hi.row⟩
        ⟨hj.isOpen, hj.token, hj.offline, hj.row⟩
    exact hij ((hsafe _ t hreach).2 i j hti hsti htj hstj)

end Logins

/-! ### Two clients of one user -/

/-- Two connections of one user: the requests on the sessions 0 and 1, with the tokens `ta` and
`ta2`. -/
def sameUser : Bool → JoinRequest
  | false => ⟨lit "ta", lit "a"⟩
  | true => ⟨lit "ta2", lit "a"⟩

def twoSessions : Bool → SessionId
  | false => 0
  | true => 1

/-- A user `a` with two tokens. -/
def twoTokens : Boot :=
  Boot.plain 3 1
    (fun token => if token = lit "ta" ∨ token = lit "ta2" then some (lit "a") else none)
    ⟨[⟨lit "a", 3, 1, 350⟩], []⟩

/-- Both requests find the user offline before either inserts its entry: both succeed, on two
sessions in the status `LOGIN`, and the login map has one of them. -/
theorem two_live_logins :
    ∃ s t, Reachable s ∧
      (logins twoSessions sameUser { s with answers := ⟨[], [], 1⟩ }).Reaches t ∧
      t.result false = some true ∧ t.result true = some true ∧
      (t.state.sess 0).stat = .login ∧ (t.state.sess 1).stat = .login ∧
      t.state.userIdMap (lit "a") = some 0 := by
  have hrun : ((run twoTokens [.acceptDone 0 false, .acceptDone 1 false]).bind fun s =>
      (Runs.exec Threads.next (logins twoSessions sameUser { s with answers := ⟨[], [], 1⟩ })
        (List.replicate 5 false ++ List.replicate 5 true ++ List.replicate 32 false ++
          List.replicate 31 true)).map fun t => decide (t.result false = some true ∧
        t.result true = some true ∧ (t.state.sess 0).stat = .login ∧
        (t.state.sess 1).stat = .login ∧ t.state.userIdMap (lit "a") = some 0)) =
      some true := by decide
  obtain ⟨s, hs, hexec⟩ := Option.bind_eq_some_iff.1 hrun
  obtain ⟨t, ht, heq⟩ := Option.map_eq_some_iff.1 hexec
  exact ⟨s, t, reachable_of_run hs, Threads.reaches_of_exec ht, of_decide_eq_true heq⟩

/-- When one of the two tokens is unknown to redis, there is no conflict. -/
theorem one_live_login_one_token :
    ∃ s, Reachable s ∧ ¬ LoginConflict twoSessions sameUser (lit "a") s ∧
      OneLogin twoSessions sameUser (lit "a") s := by
  have hrun : (run twoUsers [.acceptDone 0 false, .acceptDone 1 false]).map (fun s =>
      decide (s.redis (lit "ta") = some (lit "a") ∧ s.redis (lit "ta2") = none)) =
      some true := by decide
  obtain ⟨s, hs, heq⟩ := Option.map_eq_some_iff.1 hrun
  obtain ⟨hta, hta2⟩ := of_decide_eq_true heq
  have hinj : Function.Injective twoSessions := by
    rintro (_ | _) (_ | _) h
    · rfl
    · cases h
    · cases h
    · rfl
  have hid : ∀ i u, s.redis (sameUser i).token = some u → u = lit "a" := by
    rintro (_ | _) u hu
    · exact (Option.some.inj (hta.symm.trans hu)).symm
    · exact absurd (hta2.symm.trans hu) (by simp)
  have hfree : ¬ LoginConflict twoSessions sameUser (lit "a") s := by
    rintro ⟨i, j, hij, hi, hj⟩
    have hnot : ∀ k, Admissible twoSessions sameUser (lit "a") s k → k = false := by
      rintro (_ | _) hk
      · rfl
      · exact absurd (hta2.symm.trans hk.token) (by simp)
    exact hij ((hnot i hi).trans (hnot j hj).symm)
  have hreach := reachable_of_run hs
  exact ⟨s, hreach, hfree, (one_live_login hreach hinj hid).1 hfree⟩

end ChannelServer
