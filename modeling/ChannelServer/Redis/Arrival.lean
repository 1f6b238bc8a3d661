/-
Calls do not depend on what arrives later.

The bytes of an answer may arrive in any pieces.  A call that has an outcome with the bytes that
have arrived has the same outcome with more of them; otherwise it waits.
-/
import ChannelServer.Redis.Connection

namespace ChannelServer.Redis

open Scanning Throwing

/-- The connection after more bytes have arrived. -/
def Connection.grow (more : Str) (c : Connection) : Connection :=
  { c with stream := c.stream.grow more }

/-- What a call that reads does not depend on: bytes that arrive later, and what was sent. -/
structure Outside where
  more : Str
  sent : Str
  buffer : Buffer

def Connection.around (e : Outside) (c : Connection) : Connection :=
  { c with stream := c.stream.grow e.more, sent := e.sent, buffer := e.buffer }

/-- A call that has the same outcome when more bytes arrive. -/
def SteadyInput {α : Type} (p : Input α) : Prop := ∀ more, Steady (Stream.grow more) p

def SteadyAction {α : Type} (p : Action α) : Prop := ∀ e, Steady (Connection.around e) p

section Inputs

variable {α : Type}

lemma steady_failed : SteadyInput failed := fun _ => steady_look fun _ => rfl

lemma steady_extractChar (code : UInt8) : SteadyInput (await (extractChar code)) :=
  fun _ => steady_await fun _ _ _ => extractChar_grow

lemma steady_extractInt (min max number : ℤ) :
    SteadyInput (await (extractInt min max number)) :=
  fun _ => steady_await fun _ _ _ => extractInt_grow

lemma steady_getLine (delimiter : UInt8) (line : Str) :
    SteadyInput (await (getLine delimiter line)) :=
  fun _ => steady_await fun _ _ _ => getLine_grow

lemma steady_get : SteadyInput (await Scanning.get) :=
  fun _ => steady_await fun _ _ _ => get_grow

lemma steady_read (data : Str) : SteadyInput (await (Scanning.read data)) :=
  fun _ => steady_await fun _ _ _ => read_grow

lemma steady_readStatusCodeReply : SteadyInput readStatusCodeReply := by
  intro more
  refine (steady_extractChar 0 more).bind fun code => (steady_failed more).bind fun _ => ?_
  refine .guard _ ?_
  refine (steady_getLine 13 [] more).bind fun out => (steady_failed more).bind fun _ => ?_
  exact .guard _ (.guard _ (steady_pure out))

lemma steady_readIntegerReply : SteadyInput readIntegerReply := by
  intro more
  refine (steady_extractChar 0 more).bind fun _ => (steady_extractInt _ _ 0 more).bind fun z => ?_
  exact (steady_failed more).bind fun _ => .guard _ (steady_pure z)

lemma steady_readBulkReply : SteadyInput readBulkReply := by
  intro more
  refine (steady_extractChar 0 more).bind fun code => ?_
  refine (steady_extractInt _ _ 0 more).bind fun count => (steady_failed more).bind fun _ => ?_
  refine .guard _ (.guard _ (.ite (steady_pure none) ?_))
  refine (steady_get more).bind fun _ => (steady_get more).bind fun _ => ?_
  exact (steady_read _ more).bind fun out => steady_pure (some out)

lemma steady_readMultiBulkHeader (count : ℤ) : SteadyInput (readMultiBulkHeader count) := by
  intro more
  refine (steady_extractChar 0 more).bind fun code => ?_
  exact (steady_extractInt _ _ count more).bind fun n => steady_pure (code, n)

lemma steady_checkMultiBulkHeader (code : UInt8) (count : ℤ) :
    SteadyInput (checkMultiBulkHeader code count) := by
  intro more
  refine (steady_failed more).bind fun _ => .guard _ (.guard _ ?_)
  exact .ite (steady_throw _) (steady_pure ())

lemma steady_readStored (kind : Kind) : SteadyInput (readStored kind) := by
  intro more
  cases kind with
  | void => exact (steady_readStatusCodeReply more).bind fun _ => steady_pure _
  | bool => exact (steady_readIntegerReply more).bind fun _ => steady_pure _
  | int => exact (steady_readIntegerReply more).bind fun _ => steady_pure _
  | string => exact (steady_readBulkReply more).bind fun _ => steady_pure _
  | multiBulk => exact steady_pure _

end Inputs

section Actions

variable {α : Type} {a b : ℕ} {R : ℕ → Action Unit}

lemma steady_reply (a : ℕ) : SteadyAction (reply a) := fun _ => steady_look fun _ => rfl

lemma steady_setConn (a : ℕ) (conn : Bool) : SteadyAction (setConn a conn) :=
  fun _ => steady_change fun _ => rfl

lemma steady_setBody (a : ℕ) (body : Body) : SteadyAction (setBody a body) :=
  fun _ => steady_change fun _ => rfl

lemma steady_unlink (a : ℕ) : SteadyAction (unlink a) := fun _ => steady_change fun _ => rfl

lemma steady_input {p : Input α} (hp : SteadyInput p) : SteadyAction (input p) :=
  fun e => (hp e.more).zoom (fun _ => rfl) fun _ _ => rfl

lemma steady_clearPendingResults (hR : ∀ a, SteadyAction (R a)) (a : ℕ) :
    SteadyAction (clearPendingResults R a) := by
  intro e
  refine Steady.bind (steady_look fun c => ?_) fun earlier => .forM (fun b => hR b e) earlier
  rfl

lemma steady_resultWith (hR : ∀ a, SteadyAction (R a)) (a : ℕ) :
    SteadyAction (resultWith R a) := by
  intro e
  refine (steady_reply a e).bind fun o => .ite ?_ (steady_pure ())
  refine (steady_clearPendingResults hR a e).bind fun _ => (steady_setConn a _ e).bind fun _ => ?_
  refine (steady_input (steady_readStored _) e).bind fun stored => ?_
  exact (steady_setBody a stored e).bind fun _ => steady_unlink a e

lemma steady_readHeader (hR : ∀ a, SteadyAction (R a)) (a : ℕ) (headerDone : Bool) (count : ℤ) :
    SteadyAction (readHeader R a headerDone count) := by
  intro e
  refine .ite (steady_pure count) ?_
  refine (steady_clearPendingResults hR a e).bind fun _ => (steady_setBody a _ e).bind fun _ => ?_
  refine (steady_input (steady_readMultiBulkHeader count) e).bind fun r => ?_
  refine (steady_setBody a _ e).bind fun _ => ?_
  exact (steady_input (steady_checkMultiBulkHeader r.1 r.2) e).bind fun _ => steady_pure r.2

lemma steady_readItem (a : ℕ) (count : ℤ) : SteadyAction (readItem a count) := by
  intro e
  refine .ite ?_ ?_
  · refine (steady_setConn a false e).bind fun _ => (steady_unlink a e).bind fun _ => ?_
    exact steady_pure none
  · refine (steady_setBody a _ e).bind fun _ => ?_
    exact (steady_input steady_readBulkReply e).bind fun out => steady_pure (some out)

lemma steady_nextOptionalWith (hR : ∀ a, SteadyAction (R a)) (a : ℕ) :
    SteadyAction (nextOptionalWith R a) := by
  intro e
  refine (steady_reply a e).bind fun o => ?_
  obtain ⟨conn, body⟩ := o
  cases body with
  | multiBulk headerDone count pending =>
    cases pending with
    | nil =>
      refine .ite ?_ (steady_pure none)
      exact (steady_readHeader hR a headerDone count e).bind fun n => steady_readItem a n e
    | cons out pending => exact (steady_setBody a _ e).bind fun _ => steady_pure (some out)
  | _ => exact steady_pure none

lemma steady_collect {β : Type} {next : Action (Option β)} (hnext : SteadyAction next) (k : ℕ) :
    SteadyAction (collect next k) := by
  intro e
  induction k with
  | zero => exact steady_pure []
  | succ k ih =>
    refine (hnext e).bind fun x => ?_
    cases x with
    | none => exact steady_pure []
    | some x => exact ih.bind fun rest => steady_pure (x :: rest)

lemma steady_readResultWith (hR : ∀ a, SteadyAction (R a)) (a : ℕ) :
    SteadyAction (readResultWith R a) := by
  intro e
  have hnext := steady_nextOptionalWith hR a
  have hpending : Steady (Connection.around e) (readPendingWith R a) := by
    refine (hnext e).bind fun x => ?_
    cases x with
    | none => exact steady_pure []
    | some x =>
      refine (steady_reply a e).bind fun o => ?_
      exact (steady_collect hnext _ e).bind fun rest => steady_pure (x :: rest)
  refine (steady_reply a e).bind fun o => ?_
  obtain ⟨conn, body⟩ := o
  cases body with
  | multiBulk headerDone count pending =>
    refine .ite (hpending.bind fun read => (steady_reply a e).bind fun o => ?_) (steady_pure ())
    obtain ⟨conn, body⟩ := o
    cases body with
    | multiBulk => exact steady_setBody a _ e
    | _ => exact steady_pure ()
  | _ => exact steady_resultWith hR a e

lemma steady_readResult (depth a : ℕ) : SteadyAction (readResult depth a) := by
  induction depth generalizing a with
  | zero => exact fun _ => steady_pure ()
  | succ depth ih => exact steady_readResultWith ih a

theorem steady_result (a : ℕ) : SteadyAction (result a) := by
  intro e
  refine Steady.bind (steady_look fun c => ?_) fun depth =>
    steady_resultWith (steady_readResult depth) a e
  rfl

theorem steady_nextOptional (a : ℕ) : SteadyAction (nextOptional a) := by
  intro e
  refine Steady.bind (steady_look fun c => ?_) fun depth =>
    steady_nextOptionalWith (steady_readResult depth) a e
  rfl

lemma steady_next (a : ℕ) : SteadyAction (next a) := by
  intro e
  refine (steady_nextOptional a e).bind fun x => ?_
  obtain _ | _ | out := x
  · exact steady_pure none
  · exact steady_throw _
  · exact steady_pure (some out)

lemma steady_readRest (a : ℕ) : SteadyAction (readRest a) := by
  intro e
  have hskip : Steady (Connection.around e) (skipRest a) :=
    (steady_reply a e).bind fun o =>
      (steady_collect (steady_next a) o.remaining e).bind fun _ => steady_pure ()
  refine (steady_reply a e).bind fun o => ?_
  obtain ⟨conn, body⟩ := o
  cases body with
  | multiBulk => exact .ite hskip (steady_pure ())
  | _ => exact steady_result a e

lemma steady_takePlace (a b : ℕ) : SteadyAction (takePlace a b) := by
  intro e
  refine (steady_reply b e).bind fun other => (steady_setConn a _ e).bind fun _ => ?_
  refine .ite (Steady.bind (steady_change fun c => ?_) fun _ => ?_) ?_
  · rfl
  · exact (steady_setConn b false e).bind fun _ => steady_unlink b e
  · exact (steady_setConn b false e).bind fun _ => steady_unlink b e

theorem steady_copy (a b : ℕ) : SteadyAction (copy a b) := by
  intro e
  refine (steady_takePlace a b e).bind fun _ => (steady_reply b e).bind fun other => ?_
  refine (steady_setBody a _ e).bind fun _ => ?_
  obtain ⟨conn, body⟩ := other
  cases body with
  | multiBulk => exact steady_setBody b _ e
  | _ => exact steady_pure ()

theorem steady_assign (a b : ℕ) : SteadyAction (assign a b) := by
  intro e
  refine (steady_readRest a e).bind fun _ => (steady_unlink a e).bind fun _ => ?_
  refine (steady_takePlace a b e).bind fun _ => (steady_reply b e).bind fun other => ?_
  exact steady_setBody a other.body e

theorem steady_assignEnumerator (a b : ℕ) : SteadyAction (assignEnumerator a b) := by
  intro e
  refine (steady_readRest a e).bind fun _ => (steady_unlink a e).bind fun _ => ?_
  refine (steady_takePlace a b e).bind fun _ => (steady_reply b e).bind fun other => ?_
  obtain ⟨conn, body⟩ := other
  cases body with
  | multiBulk => exact steady_setBody a _ e
  | _ => exact steady_pure ()

theorem steady_destroy (a : ℕ) : SteadyAction (destroy a) := fun e =>
  (steady_readRest a e).attempt.bind fun _ => (steady_unlink a e).bind fun _ =>
    steady_setConn a false e

/-- What a steady call does, it also does when more bytes have arrived, and it sends nothing. -/
theorem SteadyAction.grow {p : Action α} (hp : SteadyAction p) {c c' : Connection}
    {x : Except Str α} (h : exec p c = some (x, c')) (more : Str) :
    exec p (c.grow more) = some (x, c'.grow more) ∧ c'.sent = c.sent ∧ c'.buffer = c.buffer := by
  have hsame := hp ⟨[], c.sent, c.buffer⟩ c x c' h
  have hmore := hp ⟨more, c.sent, c.buffer⟩ c x c' h
  have hc : Connection.around ⟨[], c.sent, c.buffer⟩ c = c := by
    simp [Connection.around, Stream.grow]
  rw [hc, h] at hsame
  have hc' := (Prod.mk.inj (Option.some.inj hsame)).2
  have hsent : c'.sent = c.sent := by
    rw [hc']
    rfl
  have hbuffer : c'.buffer = c.buffer := by
    rw [hc']
    rfl
  refine ⟨?_, hsent, hbuffer⟩
  simpa [Connection.around, Connection.grow, hsent, hbuffer] using hmore

end Actions

end ChannelServer.Redis
