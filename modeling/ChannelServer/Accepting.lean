/-
Accepting a connection while it is read.

`handle_accept` starts the first read of a connection before it sets the status `CONN`, and the
handler of that read may run on another thread at once.  When its JOIN_REQ succeeds before the
status is set, the login is undone.  `ConnFirst` is the condition on the schedule that excludes
this: `handle_accept` does its `set_status(CONN)` while nobody has logged in.
`accepting_keeps_login` proves that under it no successful login is ever undone, whatever the
client sends and in whatever order the actions are done otherwise, since no other action of
either thread sets the status `CONN`.
-/
import ChannelServer.Actions
import ChannelServer.Lib.Interleave
import ChannelServer.LoginMap

namespace ChannelServer

open Resumption

/-! ### The two threads -/

/-- A read of the session that was started completes. -/
def takeRead (n : SessionId) : Handler Unit :=
  .act (fun s =>
    if ⟨n, true⟩ ∈ s.reads then .ok () { s with reads := s.reads.erase ⟨n, true⟩ } else .wait) .ret

/-- The loop of `handle_receive`, which dispatches the packets of one read. -/
def dispatchAll (n : SessionId) : List Packet → Handler Unit
  | [] => pure ()
  | packet :: rest => do
    processPacket n packet
    dispatchAll n rest

/-- The handlers of the reads of a session, one after the other: each read fails, or brings some
packets and is followed by the next read. -/
def readHandlers (n : SessionId) : List (RecvError ⊕ List Packet) → Handler Unit
  | [] => pure ()
  | .inl error :: rest => do
    takeRead n
    handleReceiveError n error
    readHandlers n rest
  | .inr packets :: rest => do
    takeRead n
    dispatchAll n packets
    waitReceive n
    readHandlers n rest

/-- The thread `false` accepts the connection, and the thread `true` runs the handlers of its
reads. -/
def accepting (n : SessionId) (reads : List (RecvError ⊕ List Packet)) (s : Server) :
    Threads Bool Server Fault Unit :=
  ⟨fun i => if i then readHandlers n reads else handleAccept n false, s⟩

/-- The lines of `handle_accept` after the read was started, from `set_status(CONN)` on. -/
def acceptFromStatus (n : SessionId) : Handler Unit := do
  setStatus n .conn
  connectionOpened n
  let _ ← waitAccept

/-- When the action to be done is the `set_status(CONN)` of `handle_accept`, the status is another
one than `LOGIN`, and no JOIN_REQ has succeeded on the session since the state `s`. -/
def ConnFirst (n : SessionId) (s : Server) (c : Threads Bool Server Fault Unit) (i : Bool) : Prop :=
  i = false → c.prog false = acceptFromStatus n →
    (c.state.sess n).stat ≠ .login ∧ ∀ new u, c.state.log = new ++ s.log → .joined n u ∉ new

/-! ### What each thread does -/

/-- An action that leaves the status as it is and reports no login. -/
structure AcceptAct (n : SessionId) (s t : Server) : Prop where
  log : ∃ new, t.log = new ++ s.log ∧ ∀ u, Mark.joined n u ∉ new
  stat : (t.sess n).stat = (s.sess n).stat

/-- What `handle_accept` has still to run: the only action of it that sets the status is its
`set_status(CONN)`. -/
inductive AcceptRest (n : SessionId) : Handler Unit → Prop
  | before {β : Type} {f : Server → Res Server Fault β} {k : β → Handler Unit}
      (hf : ∀ s b t, f s = .ok b t → AcceptAct n s t) (hk : ∀ b, AcceptRest n (k b)) :
      AcceptRest n (.act f k)
  | status : AcceptRest n (acceptFromStatus n)
  | after {p : Handler Unit} (hp : Prog.Within (AcceptAct n) p) : AcceptRest n p

/-- An action of a read handler: it never sets the status `CONN`, and it reports a login only
while the status is another one. -/
structure ReadAct (n : SessionId) (s t : Server) : Prop where
  log : ∃ new, t.log = new ++ s.log ∧ ∀ u, Mark.joined n u ∈ new → (t.sess n).stat ≠ .conn
  stat : (t.sess n).stat = .conn → (s.sess n).stat = .conn

/-- What the read handlers rely on. -/
def KeepsLogin (n : SessionId) (s t : Server) : Prop :=
  (s.sess n).stat = .login → (t.sess n).stat = .login

variable {n : SessionId} {s t : Server}

lemma AcceptAct.of_stat (hstat : (t.sess n).stat = (s.sess n).stat) (new : List Mark)
    (hlog : t.log = new ++ s.log) (hnew : ∀ u, Mark.joined n u ∉ new) : AcceptAct n s t :=
  ⟨⟨new, hlog, hnew⟩, hstat⟩

lemma accept_waitAccept : Prog.Within (AcceptAct n) waitAccept := by
  have haside : ∀ {f : Server → Server}, (∀ s, (f s).sess = s.sess ∧ (f s).log = s.log) →
      Prog.Within (AcceptAct n) (Prog.modify f : Handler Unit) := fun h =>
    Prog.within_modify fun s => .of_stat (by rw [(h s).1]) [] (h s).2 (by simp)
  have hread : ∀ {β : Type} (f : Server → β), Prog.Within (AcceptAct n) (Prog.read f : Handler β) :=
    Prog.within_read fun s => .of_stat rfl [] rfl (by simp)
  have hlock : Prog.Within (AcceptAct n) (lock .sessionQueueMtx) := by
    refine ⟨fun s b t hs => ?_, fun _ => trivial⟩
    dsimp only at hs
    split at hs
    · obtain ⟨-, rfl⟩ := Res.ok.inj hs
      exact .of_stat rfl [] rfl (by simp)
    · cases hs
  refine Prog.within_bind hlock fun _ => Prog.within_bind (hread _) fun que => ?_
  cases que with
  | nil =>
    exact Prog.within_bind (haside fun _ => ⟨rfl, rfl⟩) fun _ =>
      Prog.within_bind (haside fun _ => ⟨rfl, rfl⟩) fun _ => Prog.within_pure _
  | cons k rest =>
    have hmark : Prog.Within (AcceptAct n) (mark fun s => .asyncAccept k (s.sess k).isOpen) :=
      Prog.within_modify fun s => .of_stat rfl [_] rfl (by simp)
    exact Prog.within_bind (haside fun _ => ⟨rfl, rfl⟩) fun _ =>
      Prog.within_bind (haside fun _ => ⟨rfl, rfl⟩) fun _ =>
      Prog.within_bind (haside fun _ => ⟨rfl, rfl⟩) fun _ =>
      Prog.within_bind (Prog.within_bind hmark fun _ => haside fun _ => ⟨rfl, rfl⟩) fun _ =>
      Prog.within_pure _

/-- The actions of `handle_accept` that follow its `set_status(CONN)`. -/
lemma accept_afterStatus {β : Type} {f : Server → Res Server Fault β} {k : β → Handler Unit}
    (h : acceptFromStatus n = .act f k) (b : β) : Prog.Within (AcceptAct n) (k b) := by
  have hrest : Prog.Within (AcceptAct n)
      (do connectionOpened n; let _ ← waitAccept : Handler Unit) :=
    Prog.within_bind (Prog.within_modify fun s => .of_stat rfl [] rfl (by simp)) fun _ =>
      Prog.within_bind accept_waitAccept fun _ => Prog.within_pure _
  cases h
  exact hrest

lemma AcceptRest.bind {α : Type} {p : Handler α} {f : α → Handler Unit}
    (hp : Prog.Within (AcceptAct n) p) (hf : ∀ a, AcceptRest n (f a)) :
    AcceptRest n (p >>= f) := by
  change AcceptRest n (Prog.bind p f)
  induction p with
  | ret a => exact hf a
  | act g k ih => exact .before hp.1 fun b => ih b (hp.2 b)

/-- The actions of `handle_accept`. -/
lemma accept_handleAccept : AcceptRest n (handleAccept n false) := by
  refine .bind (Prog.within_modify fun s => .of_stat rfl [_] rfl (by simp)) fun _ =>
    .bind (Prog.within_modify fun s => .of_stat ?_ [] rfl (by simp)) fun _ =>
    .bind (Prog.within_modify fun s => .of_stat rfl [] rfl (by simp)) fun _ => .status
  simp [Server.setSess]

/-- One action of `handle_accept`: it keeps the status, or it is the `set_status(CONN)`. -/
lemma AcceptRest.step {β : Type} {f : Server → Res Server Fault β} {k : β → Handler Unit} {b : β}
    (h : AcceptRest n (.act f k)) (hf : f s = .ok b t) :
    AcceptRest n (k b) ∧ (∃ new, t.log = new ++ s.log ∧ ∀ u, Mark.joined n u ∉ new) ∧
      ((t.sess n).stat = (s.sess n).stat ∨ .act f k = acceptFromStatus n) := by
  generalize hp : Prog.act f k = p at h
  cases h with
  | before hquiet hk =>
    cases hp
    have hact := hquiet s b t hf
    exact ⟨hk b, hact.log, Or.inl hact.stat⟩
  | status =>
    refine ⟨.after (accept_afterStatus hp.symm b), ?_, Or.inr rfl⟩
    cases hp
    obtain ⟨-, rfl⟩ := Res.ok.inj hf
    exact ⟨[], rfl, by simp⟩
  | after hquiet =>
    subst hp
    have hact := hquiet.1 s b t hf
    exact ⟨.after (hquiet.2 b), hact.log, Or.inl hact.stat⟩

/-- The four kinds of actions are actions of a read handler. -/
lemma Act.readAct (h : Act s t) : ReadAct n s t := by
  cases h with
  | aside hsess hlog _ =>
    refine ⟨⟨[], hlog, by simp⟩, fun h => ?_⟩
    rwa [hsess] at h
  | @member k x _ hstat =>
    refine ⟨⟨[], rfl, by simp⟩, fun h => ?_⟩
    by_cases hnk : n = k
    · subst hnk
      have hx : x.stat = .conn := by simpa [Server.setSess] using h
      rcases hstat with hsame | hne
      · rw [← hsame, hx]
      · exact absurd hx hne
    · simpa [Server.setSess, Function.update_of_ne hnk] using h
  | @waitSend k size b =>
    refine ⟨⟨[], rfl, by simp⟩, fun h => ?_⟩
    by_cases hnk : n = k
    · subst hnk
      simpa [Server.setSess] using h
    · simpa [Server.setSess, Function.update_of_ne hnk] using h
  | @note m hm =>
    refine ⟨⟨[m], rfl, fun u hu => ?_⟩, fun h => h⟩
    obtain rfl := List.mem_singleton.1 hu
    cases hm

variable (n) in
/-- A pre- and postcondition of a read handler, with `handle_accept` at work. -/
abbrev ReadTriple {α : Type} (P : Server → Prop) (p : Handler α) (Q : α → Server → Prop) : Prop :=
  RelyTriple (KeepsLogin n) (ReadAct n) P p Q

lemma keepsLogin_refl (s : Server) : KeepsLogin n s s := fun h => h

lemma readRules : Rules fun _ p => ReadTriple n (fun _ => True) p fun _ _ => True :=
  ⟨fun _ => rely_pure (fun _ _ _ _ => trivial) fun _ _ => trivial,
    fun hp hf => RelyTriple.bind keepsLogin_refl hp hf,
    fun h => rely_act (fun _ _ _ _ => trivial) (fun _ _ _ _ _ => trivial) fun s a t _ hs =>
      ⟨(h s a t hs).readAct, trivial⟩⟩

/-- A login is reported while the status is `LOGIN`. -/
lemma read_loginAs (k : SessionId) (token id : Str) :
    ReadTriple n (fun _ => True) (loginAs k token id) fun _ _ => True := by
  have hfail : ReadTriple n (fun _ => True) (do
      sendMessage k (.joinAns false (some none) [])
      pure false : Handler Bool) fun _ _ => True :=
    readRules.bind (acts_sendMessage readRules.units _ _) fun _ => readRules.pure _
  have hlogin : Stable (KeepsLogin n) fun s => k = n → (s.sess n).stat = .login :=
    fun s t hs hst hk => hst (hs hk)
  have hset : ReadTriple n (fun _ => True) (setStatus k .login)
      fun _ s => k = n → (s.sess n).stat = .login := by
    refine rely_atomic (fun _ _ _ _ => trivial) (fun _ => hlogin) fun s _ => ⟨?_, ?_⟩
    · exact Act.readAct (.member rfl (Or.inr (by simp)))
    · rintro rfl
      simp [Server.setSess]
  have hmark : ReadTriple n (fun s => k = n → (s.sess n).stat = .login)
      (mark fun _ => .joined k id) fun _ _ => True := by
    refine rely_atomic hlogin (fun _ _ _ _ _ => trivial) fun s hs => ⟨⟨⟨[_], rfl, ?_⟩, ?_⟩, trivial⟩
    · intro u hu
      obtain ⟨hk, -⟩ := Mark.joined.inj (List.mem_singleton.1 hu)
      show (s.sess n).stat ≠ .conn
      simp [hs hk.symm]
    · exact fun h => h
  refine readRules.bind (readRules.units.getQueryUserInfo id) fun row => ?_
  cases row with
  | none => exact readRules.bind (acts_delRedisKey readRules.units _) fun _ => hfail
  | some row =>
    refine readRules.bind (readRules.units.getUserFriendsList id) fun friends => ?_
    cases friends with
    | none => exact hfail
    | some friends =>
      exact readRules.bind (readRules.setFriendsCount _ _) fun _ =>
        readRules.bind (readRules.setUserInfo _ _ _ _ _ _) fun _ =>
        readRules.bind (acts_modifySess readRules.units _ fun _ => ⟨rfl, rfl, rfl⟩) fun _ =>
        readRules.bind (acts_getSess readRules.units _ _) fun _ =>
        readRules.bind (acts_addIdInUserMap readRules.units _ _) fun _ =>
        RelyTriple.bind keepsLogin_refl hset fun _ => RelyTriple.bind keepsLogin_refl hmark fun _ =>
        readRules.bind (acts_sendMessage readRules.units _ _) fun _ => readRules.pure _

lemma read_makeMatching (a b : SessionId) :
    ReadTriple n (fun _ => True) (makeMatchingAndSendComplete a b) fun _ _ => True := by
  refine acts_makeMatchingAndSendComplete readRules.units a b (rely_of_within ?_) fun key =>
    rely_of_within (Prog.within_modify fun s => ⟨⟨[_], rfl, by simp⟩, fun h => h⟩)
  refine ⟨fun s b t hs => ?_, fun _ => trivial⟩
  dsimp only at hs
  split at hs
  · cases hs
  · obtain ⟨-, rfl⟩ := Res.ok.inj hs
    exact ⟨⟨[], rfl, by simp⟩, fun h => h⟩

/-- The read handlers. -/
lemma read_readHandlers (reads : List (RecvError ⊕ List Packet)) :
    ReadTriple n (fun _ => True) (readHandlers n reads) fun _ _ => True := by
  have htake : ReadTriple n (fun _ => True) (takeRead n) fun _ _ => True := by
    refine readRules.act fun s b t hs => ?_
    split at hs
    · obtain ⟨-, rfl⟩ := Res.ok.inj hs
      exact .aside rfl rfl rfl
    · cases hs
  have hdispatch : ∀ packets, ReadTriple n (fun _ => True) (dispatchAll n packets)
      fun _ _ => True := by
    intro packets
    induction packets with
    | nil => exact readRules.pure _
    | cons packet rest ih =>
      exact readRules.bind (acts_processPacket readRules read_loginAs read_makeMatching n packet)
        fun _ => ih
  induction reads with
  | nil => exact readRules.pure _
  | cons read rest ih =>
    cases read with
    | inl error =>
      exact readRules.bind htake fun _ =>
        readRules.bind (acts_handleReceiveError readRules.units n error) fun _ => ih
    | inr packets =>
      exact readRules.bind htake fun _ => readRules.bind (hdispatch packets) fun _ =>
        readRules.bind (acts_waitReceive readRules.units n) fun _ => ih

/-! ### Both threads -/

/-- What holds in every state of a schedule that meets the condition. -/
structure AcceptOk (n : SessionId) (s : Server) (c : Threads Bool Server Fault Unit) : Prop where
  accept : AcceptRest n (c.prog false)
  read : Assured (KeepsLogin n) (ReadAct n) (fun _ _ => True) (c.prog true) c.state
  log : ∃ new, c.state.log = new ++ s.log ∧ ∀ u, .joined n u ∈ new → (c.state.sess n).stat ≠ .conn

/-- After a login, an action of `handle_accept` is not its `set_status(CONN)`. -/
lemma ConnFirst.stat_eq {c : Threads Bool Server Fault Unit} (hok : ConnFirst n s c false)
    (hstat : (t.sess n).stat = (c.state.sess n).stat ∨ c.prog false = acceptFromStatus n)
    (hlogin : (c.state.sess n).stat = .login ∨
      ∃ new u, c.state.log = new ++ s.log ∧ .joined n u ∈ new) :
    (t.sess n).stat = (c.state.sess n).stat := by
  rcases hstat with hsame | hconn
  · exact hsame
  · obtain ⟨hnot, hnew⟩ := hok rfl hconn
    rcases hlogin with hlogin | ⟨new, u, hlog, hjoined⟩
    · exact absurd hlogin hnot
    · exact absurd hjoined (hnew new u hlog)

/-- **Accepting**, one step. -/
lemma AcceptOk.step {c d : Threads Bool Server Fault Unit} {i : Bool} (hc : AcceptOk n s c)
    (hok : ConnFirst n s c i) (hnext : c.next i = some d) : AcceptOk n s d := by
  obtain ⟨β, f, k, b, t, hi, hf, rfl⟩ := Threads.next_eq_some hnext
  obtain ⟨new, hlog, hnew⟩ := hc.log
  cases i with
  | false =>
    have haccept := hc.accept
    rw [hi] at haccept
    obtain ⟨hrest, ⟨new', hlog', hnew'⟩, hstat⟩ := haccept.step hf
    rw [← hi] at hstat
    refine ⟨?_, ?_, ?_⟩
    · rw [Threads.set_prog_self]
      exact hrest
    · rw [Threads.set_prog_of_ne _ (by simp)]
      refine hc.read.of_rely (fun _ _ _ h₁ h₂ h => h₂ (h₁ h)) fun hlogin => ?_
      exact (hok.stat_eq hstat (Or.inl hlogin)).trans hlogin
    · refine ⟨new' ++ new, by rw [Threads.set_state, hlog', hlog, List.append_assoc],
        fun u hu => ?_⟩
      have hold : .joined n u ∈ new := (List.mem_append.1 hu).resolve_left (hnew' u)
      rw [Threads.set_state, hok.stat_eq hstat (Or.inr ⟨new, u, hlog, hold⟩)]
      exact hnew u hold
  | true =>
    have hread := hc.read
    rw [hi] at hread
    obtain ⟨hact, hrest⟩ := hread c.state (keepsLogin_refl _) b t hf
    refine ⟨?_, ?_, ?_⟩
    · rw [Threads.set_prog_of_ne _ (by simp)]
      exact hc.accept
    · rw [Threads.set_prog_self]
      exact hrest
    · obtain ⟨new', hlog', hnew'⟩ := hact.log
      refine ⟨new' ++ new, ?_, fun u hu => ?_⟩
      · rw [Threads.set_state, hlog', hlog, List.append_assoc]
      · rcases List.mem_append.1 hu with hu | hu
        · exact hnew' u hu
        · exact fun hconn => hnew u hu (hact.stat hconn)

/-- **Accepting does not undo a login**, when `handle_accept` does its `set_status(CONN)` before a
JOIN_REQ succeeds: whatever the client sends and in whatever order the actions of `handle_accept`
and of the read handlers are done, after a JOIN_REQ has succeeded on the session its status is
never `CONN`, and the remaining actions of `handle_accept` do not change it. -/
theorem accepting_keeps_login {reads : List (RecvError ⊕ List Packet)}
    {c : Threads Bool Server Fault Unit}
    (h : Runs.Reached (fun c => c = accepting n reads s) (fun c i d => c.next i = some d)
      (ConnFirst n s) c) {new : List Mark} {u : Str} (hlog : c.state.log = new ++ s.log)
    (hjoined : .joined n u ∈ new) :
    (c.state.sess n).stat ≠ .conn ∧ ∀ d, ConnFirst n s c false → c.next false = some d →
      (d.state.sess n).stat = (c.state.sess n).stat := by
  have hc : AcceptOk n s c := by
    refine Runs.Reached.invariant ?_ (fun _ _ _ _ hc hok hnext => hc.step hok hnext) h
    rintro c rfl
    exact ⟨accept_handleAccept, read_readHandlers reads _ trivial, [], rfl, by simp⟩
  obtain ⟨new', hlog', hnew'⟩ := hc.log
  obtain rfl : new = new' := List.append_cancel_right (hlog.symm.trans hlog')
  refine ⟨hnew' u hjoined, fun d hok hnext => ?_⟩
  obtain ⟨β, f, k, b, t, hi, hf, rfl⟩ := Threads.next_eq_some hnext
  have haccept := hc.accept
  rw [hi] at haccept
  obtain ⟨-, -, hstat⟩ := haccept.step hf
  rw [← hi] at hstat
  exact hok.stat_eq hstat (Or.inr ⟨new, u, hlog, hjoined⟩)

/-! ### A login in the middle of an accept -/

/-- The first read of the connection brings a JOIN_REQ of the user `a`. -/
def joinAtOnce : List (RecvError ⊕ List Packet) := [.inr [.joinReq ⟨lit "ta", lit "a"⟩]]

/-- The accept of the session 0 has completed. -/
def justAccepted : Option Server :=
  (run twoUsers []).bind fun s =>
    (prepare s (.acceptDone 0 false)).map ({ · with answers := ⟨[], [], 1⟩ })

/-- `next` for the steps that meet the condition at whatever action `handle_accept` is, with the
log tested as a whole. -/
private def connFirstNext (n : SessionId) (c : Threads Bool Server Fault Unit) (i : Bool) :
    Option (Threads Bool Server Fault Unit) :=
  if i = true ∨ ((c.state.sess n).stat ≠ .login ∧
      c.state.log.all fun | .joined k _ => k != n | _ => true)
  then c.next i else none

private lemma connFirst_of_next {c d : Threads Bool Server Fault Unit} {i : Bool}
    (h : connFirstNext n c i = some d) : ConnFirst n s c i ∧ c.next i = some d := by
  unfold connFirstNext at h
  split at h
  case isFalse => cases h
  case isTrue htest =>
    refine ⟨fun hi _ => ?_, h⟩
    rcases htest with htrue | ⟨hlogin, hall⟩
    · exact absurd (hi.symm.trans htrue) (by simp)
    · refine ⟨hlogin, fun new u hlog hu => ?_⟩
      have hmem : .joined n u ∈ c.state.log := by
        rw [hlog]
        exact List.mem_append_left _ hu
      simpa using List.all_eq_true.1 hall _ hmem

/-- The handler of the first read starts before `handle_accept` sets the status `CONN`, and its
JOIN_REQ succeeds after that: the user stays logged in. -/
theorem accepting_keeps_login_conn_first :
    ∃ s c, justAccepted = some s ∧
      Runs.exec (connFirstNext 0) (accepting 0 joinAtOnce s)
        (List.replicate 3 false ++ List.replicate 6 true ++ List.replicate 9 false ++
          List.replicate 33 true) = some c ∧
      .joined 0 (lit "a") ∈ c.state.log ∧ (c.state.sess 0).stat ≠ .conn := by
  have hrun : (justAccepted.bind fun s => (Runs.exec (connFirstNext 0) (accepting 0 joinAtOnce s)
      (List.replicate 3 false ++ List.replicate 6 true ++ List.replicate 9 false ++
        List.replicate 33 true)).map fun c =>
      decide (.joined 0 (lit "a") ∈ c.state.log.take (c.state.log.length - s.log.length) ∧
        c.state.log = c.state.log.take (c.state.log.length - s.log.length) ++ s.log)) =
      some true := by decide
  obtain ⟨s, hs, hexec⟩ := Option.bind_eq_some_iff.1 hrun
  obtain ⟨c, hc, heq⟩ := Option.map_eq_some_iff.1 hexec
  obtain ⟨hjoined, hlog⟩ := of_decide_eq_true heq
  have hreach : Runs.Reached (fun c => c = accepting 0 joinAtOnce s)
      (fun c i d => c.next i = some d) (ConnFirst 0 s) c :=
    .of_exec (fun _ _ _ h => connFirst_of_next h) (.start rfl) hc
  exact ⟨s, c, hs, hc, List.mem_of_mem_take hjoined,
    (accepting_keeps_login hreach hlog hjoined).1⟩

/-- The JOIN_REQ is processed after the read was started and before the status `CONN` is set: the
user is logged in, and the session ends in the status `CONN`. -/
theorem accept_undoes_login :
    ∃ s c, justAccepted = some s ∧ (accepting 0 joinAtOnce s).Reaches c ∧
      (∀ i, c.result i = some ()) ∧ .joined 0 (lit "a") ∈ c.state.log ∧
      c.state.userIdMap (lit "a") = some 0 ∧ (c.state.sess 0).stat = .conn := by
  have hrun : (justAccepted.bind fun s => (Runs.exec Threads.next (accepting 0 joinAtOnce s)
      (List.replicate 3 false ++ List.replicate 39 true ++ List.replicate 9 false)).map fun c =>
      decide (c.result false = some () ∧ c.result true = some () ∧
        .joined 0 (lit "a") ∈ c.state.log ∧ c.state.userIdMap (lit "a") = some 0 ∧
        (c.state.sess 0).stat = .conn)) = some true := by decide
  obtain ⟨s, hs, hexec⟩ := Option.bind_eq_some_iff.1 hrun
  obtain ⟨c, hc, heq⟩ := Option.map_eq_some_iff.1 hexec
  obtain ⟨hfalse, htrue, hjoined, hmap, hstat⟩ := of_decide_eq_true heq
  refine ⟨s, c, hs, Threads.reaches_of_exec hc, ?_, hjoined, hmap, hstat⟩
  intro i
  cases i
  · exact hfalse
  · exact htrue

end ChannelServer
