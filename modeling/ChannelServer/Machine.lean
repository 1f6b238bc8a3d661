/-
The server as a state machine.

An event is the completion of an asynchronous operation, the next packet of a packet loop
that runs, one of the calls of `wait_accept` that `tcp_server::start` makes, or a change
that another process makes to redis or to the database.  Handlers run one at a time: while
a packet loop runs, only its own next packet, or its end, is handled.

`prepare` is what the outside does in an event (it removes the completed operation from
the outstanding ones, it opens the socket of an accepted connection), `handler` is the
handler that the server runs then, and `Step` puts the two together for a handler that
returns.
-/
import ChannelServer.Handlers.Tcp
import ChannelServer.Lib.Runs

namespace ChannelServer

open Resumption

/-- The events of a run.  A read that was started on a closed socket completes with an
error other than end-of-file and connection reset. -/
inductive Event
  | startAccept
  | acceptDone (n : SessionId) (error : Bool)
  | receive (n : SessionId) (packets : List Packet)
  | packet (answers : Answers)
  | receiveEnd
  | receiveError (n : SessionId) (live : Bool) (error : RecvError)
  | timer (n : SessionId) (i : ℕ) (answers : Answers)
  | writeDone (n : SessionId) (i : ℕ)
  | world (redis : Str → Option Str) (tables : Tables)

/-- The part of the outside in an event; `none` when the event cannot occur. -/
def prepare (s : Server) : Event → Option Server
  | .startAccept =>
      if s.current = none ∧ 0 < s.starting then some { s with starting := s.starting - 1 }
      else none
  | .acceptDone n error =>
      if s.current = none ∧ n ∈ s.accepts then
        some { s with
          accepts := s.accepts.erase n
          sess := Function.update s.sess n
            { s.sess n with isOpen := !error || (s.sess n).isOpen } }
      else none
  | .receive n packets =>
      if s.current = none ∧ ⟨n, true⟩ ∈ s.reads then
        some { s with reads := s.reads.erase ⟨n, true⟩, current := some (n, packets) }
      else none
  | .packet answers =>
      match s.current with
      | some (n, _ :: rest) => some { s with current := some (n, rest), answers := answers }
      | _ => none
  | .receiveEnd =>
      match s.current with
      | some (_, []) => some { s with current := none }
      | _ => none
  | .receiveError n live error =>
      if s.current = none ∧ ⟨n, live⟩ ∈ s.reads ∧ (live = false → error = .other) then
        some { s with reads := s.reads.erase ⟨n, live⟩ }
      else none
  | .timer n i answers =>
      if s.current = none ∧ i < (s.sess n).waits.length then
        some { s with
          answers := answers
          sess := Function.update s.sess n
            { s.sess n with waits := (s.sess n).waits.eraseIdx i } }
      else none
  | .writeDone n i =>
      if s.current = none ∧ i < (s.sess n).send.writes.length then
        some (s.setSess n { s.sess n with
          send := { (s.sess n).send with writes := (s.sess n).send.writes.eraseIdx i } })
      else none
  | .world redis tables => some { s with redis := redis, tables := tables }

/-- What the outside leaves as it is. -/
structure Prepared (s t : Server) : Prop where
  cfg : t.cfg = s.cfg
  acceptingFlag : t.acceptingFlag = s.acceptingFlag
  mtx : t.mtx = s.mtx
  userIdMap : t.userIdMap = s.userIdMap
  log : t.log = s.log
  stat : ∀ k, (t.sess k).stat = (s.sess k).stat

lemma prepared_of_prepare {s t : Server} {e : Event} (h : prepare s e = some t) :
    Prepared s t := by
  have hupdate : ∀ n (x : Session), x.stat = (s.sess n).stat → ∀ k,
      (Function.update s.sess n x k).stat = (s.sess k).stat := by
    intro n x hx k
    by_cases hk : k = n
    · subst hk
      simpa using hx
    · simp [hk]
  cases e with
  | startAccept | receive _ _ | receiveError _ _ _ =>
    obtain ⟨-, ht⟩ := Option.ite_none_right_eq_some.1 h
    obtain rfl := Option.some.inj ht
    exact ⟨rfl, rfl, rfl, rfl, rfl, fun _ => rfl⟩
  | acceptDone n _ | timer n _ _ | writeDone n _ =>
    obtain ⟨-, ht⟩ := Option.ite_none_right_eq_some.1 h
    obtain rfl := Option.some.inj ht
    exact ⟨rfl, rfl, rfl, rfl, rfl, hupdate n _ rfl⟩
  | packet _ | receiveEnd =>
    simp only [prepare] at h
    split at h
    · obtain rfl := Option.some.inj h
      exact ⟨rfl, rfl, rfl, rfl, rfl, fun _ => rfl⟩
    · cases h
  | world _ _ =>
    obtain rfl := Option.some.inj h
    exact ⟨rfl, rfl, rfl, rfl, rfl, fun _ => rfl⟩

/-- The handler that the server runs in an event. -/
def handler (s : Server) : Event → Handler Unit
  | .startAccept => do let _ ← waitAccept
  | .acceptDone n error => handleAccept n error
  | .receive _ _ => pure ()
  | .packet _ =>
      match s.current with
      | some (n, packet :: _) => processPacket n packet
      | _ => pure ()
  | .receiveEnd =>
      match s.current with
      | some (n, _) => waitReceive n
      | none => pure ()
  | .receiveError n _ error => handleReceiveError n error
  | .timer n _ _ => rematch n
  | .writeDone n _ => handleWrite n
  | .world _ _ => pure ()

/-- What an event comes to in a state; `none` when it cannot occur there. -/
def outcome (s : Server) (e : Event) : Option (Out Server Fault Unit) :=
  (prepare s e).map (handler s e).run

/-- An event occurs and its handler returns. -/
def Step (s : Server) (e : Event) (s' : Server) : Prop := outcome s e = some (.done () s')

/-- `Step` as a function. -/
def next (s : Server) (e : Event) : Option Server :=
  match outcome s e with
  | some (.done () s') => some s'
  | _ => none

lemma step_of_next {s s' : Server} {e : Event} (h : next s e = some s') : Step s e s' := by
  unfold next at h
  unfold Step
  cases ho : outcome s e with
  | none => simp [ho] at h
  | some o =>
    cases o with
    | done a t =>
      obtain rfl : t = s' := by simpa [ho] using h
      rfl
    | blocked t => simp [ho] at h
    | failed f => simp [ho] at h

/-! ### The start of the server -/

/-- What the start of the server depends on: the settings, the contents of the memory in
which the sessions are created (their constructor leaves the numbers of `user` and the
token undefined), the two stores, and the connections of the pool that could be opened. -/
structure Boot where
  cfg : Config
  memory : SessionId → User
  tokens : SessionId → Str
  redis : Str → Option Str
  tables : Tables
  poolSize : ℕ
  opened : ℕ → Bool

/-- A session as its constructor leaves it. -/
def Boot.session (b : Boot) (n : SessionId) : Session where
  toUser := { b.memory n with userId := [] }
  token := b.tokens n
  roomKey := []
  stat := .wait
  isOpen := false
  waits := []
  send := ⟨[], [], [], [], []⟩

/-- The state after `tcp_server::init`. -/
def Boot.init (b : Boot) : Server where
  cfg := b.cfg
  sess := b.session
  acceptingFlag := false
  sessionQueue := List.range b.cfg.maxSessionCount.toNat
  connections := 0
  roomKeyDel := 0
  userIdMap := fun _ => none
  matchingQue := fun _ => []
  mtx := fun _ => 0
  connectionQue := (dbConnectorInit b.poolSize b.opened).connectionQue
  connectionPool := (dbConnectorInit b.poolSize b.opened).connectionPool
  redis := b.redis
  tables := b.tables
  answers := ⟨[], [], 0⟩
  starting := (b.cfg.maxThread - 1).toNat
  accepts := []
  reads := []
  current := none
  heap := 0
  active := []
  log := []

/-- The indices that the server starts with are those for which a connection could be opened. -/
lemma Boot.init_connectionQue (b : Boot) :
    b.init.connectionQue = (List.range b.poolSize).filter b.opened :=
  congrArg FillingPool.connectionQue (dbConnectorInit_eq _ _)

lemma Boot.nodup_connectionQue (b : Boot) : b.init.connectionQue.Nodup := by
  rw [b.init_connectionQue]
  exact List.nodup_range.filter _

lemma Boot.init_connectionPool (b : Boot) :
    b.init.connectionPool = (List.range b.poolSize).filter b.opened :=
  congrArg FillingPool.connectionPool (dbConnectorInit_eq _ _)

/-- The state after the first call of `wait_accept` in `tcp_server::start`; no other thread
runs before it.  The other calls are events of the run. -/
def Initial (s : Server) : Prop := ∃ b r, waitAccept.run (Boot.init b) = .done r s

/-- The states reached by runs whose steps meet a condition. -/
abbrev ReachedBy (ok : Server → Event → Prop) : Server → Prop := Runs.Reached Initial Step ok

/-- The states reached by runs. -/
abbrev Reachable : Server → Prop := ReachedBy fun _ _ => True

/-- The start of the server as a function. -/
def Boot.start (b : Boot) : Option Server :=
  match waitAccept.run b.init with
  | .done _ s => some s
  | _ => none

/-- The state after the start of the server and the events of a list, when every event can
occur and meets the condition. -/
def runIf (ok : Server → Event → Bool) (b : Boot) (es : List Event) : Option Server :=
  b.start.bind fun s => Runs.exec (fun s e => if ok s e then next s e else none) s es

lemma Boot.run_of_start {b : Boot} {s : Server} (h : b.start = some s) :
    ∃ r, waitAccept.run b.init = .done r s := by
  unfold Boot.start at h
  cases hr : waitAccept.run b.init with
  | done r t =>
    obtain rfl : t = s := by simpa [hr] using h
    exact ⟨r, rfl⟩
  | blocked t => simp [hr] at h
  | failed f => simp [hr] at h

/-- A list of events that can be evaluated is a run. -/
theorem reachedBy_of_runIf {ok : Server → Event → Prop} {okb : Server → Event → Bool}
    (hok : ∀ s e, okb s e = true → ok s e) {b : Boot} {es : List Event} {s : Server}
    (h : runIf okb b es = some s) : ReachedBy ok s := by
  obtain ⟨s₀, hb, h⟩ := Option.bind_eq_some_iff.1 h
  obtain ⟨r, hr⟩ := Boot.run_of_start hb
  refine Runs.Reached.of_exec ?_ (.start ⟨b, r, hr⟩) h
  intro s e t hn
  obtain ⟨hb, hn⟩ := Option.ite_none_right_eq_some.1 hn
  exact ⟨hok s e hb, step_of_next hn⟩

/-- `runIf` without a condition. -/
def run : Boot → List Event → Option Server := runIf fun _ _ => true

theorem reachable_of_run {b : Boot} {es : List Event} {s : Server} (h : run b es = some s) :
    Reachable s := reachedBy_of_runIf (fun _ _ _ => trivial) h

/-- The states that the server reaches after the start `b`. -/
abbrev Boot.Reached (b : Boot) : Server → Prop :=
  Runs.Reached (fun s => ∃ r, waitAccept.run b.init = .done r s) Step fun _ _ => True

lemma Boot.Reached.reachable {b : Boot} {s : Server} (h : b.Reached s) : Reachable s := by
  refine Runs.Reached.invariant (I := Reachable) ?_ ?_ h
  · rintro s ⟨r, hr⟩
    exact .start ⟨b, r, hr⟩
  · exact fun s e s' _ hs _ hstep => .step hs trivial hstep

lemma Boot.reached_of_run {b : Boot} {es : List Event} {s : Server} (h : run b es = some s) :
    b.Reached s := by
  obtain ⟨s₀, hb, h⟩ := Option.bind_eq_some_iff.1 h
  refine Runs.Reached.of_exec ?_ (.start (Boot.run_of_start hb)) h
  intro s e t hn
  obtain ⟨-, hn⟩ := Option.ite_none_right_eq_some.1 hn
  exact ⟨trivial, step_of_next hn⟩

/-- A start with an empty memory, a timer of ten seconds and one connection to the database. -/
def Boot.plain (maxSessionCount maxThread : ℤ) (redis : Str → Option Str) (tables : Tables) :
    Boot where
  cfg := ⟨maxSessionCount, maxThread, 10, false⟩
  memory := fun _ => ⟨0, 0, 0, 0, 0, []⟩
  tokens := fun _ => []
  redis := redis
  tables := tables
  poolSize := 1
  opened := fun _ => true

end ChannelServer
