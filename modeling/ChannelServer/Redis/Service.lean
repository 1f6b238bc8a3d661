/-
The client and redis together.

The client sends commands and reads answers in any order; redis takes the commands from what was
sent, one at a time, and its answers arrive behind one another.  The program may ask for the value
of any reply at any time, move replies and destroy them, and redis may be behind by any number of
commands.

`InStep` is the invariant of all runs whose steps meet `Allowed`.  Its consequences are that redis
sees the commands as they were issued, that every reply gets the answer to its own command, and
that a call waits only for answers that redis has not given yet.
-/
import ChannelServer.Lib.Runs
import ChannelServer.Redis.Arrival
import ChannelServer.Redis.Moving

namespace ChannelServer.Redis

open Scanning Throwing Runs

/-! ### Redis -/

/-- A command as redis reads it. -/
def Request.message (r : Request) : List (Option Str) := r.words.map some

/-- A server: how it answers a message in a state. -/
structure Server (σ : Type) where
  start : σ
  respond : σ → List (Option Str) → Reply × σ

section Server

variable {σ : Type} (S : Server σ)

/-- The state after some commands. -/
def Server.after (st : σ) (rs : List Request) : σ :=
  rs.foldl (fun st r => (S.respond st r.message).2) st

/-- The answers to some commands, in order. -/
def Server.answers : σ → List Request → List Reply
  | _, [] => []
  | st, r :: rs => (S.respond st r.message).1 :: Server.answers (S.respond st r.message).2 rs

/-- The answer to a command that is issued after some others. -/
def Server.answer (rs : List Request) (r : Request) : Reply :=
  (S.respond (S.after S.start rs) r.message).1

lemma answers_concat (st : σ) (rs : List Request) (r : Request) :
    S.answers st (rs ++ [r]) =
      S.answers st rs ++ [(S.respond (S.after st rs) r.message).1] := by
  induction rs generalizing st with
  | nil => rfl
  | cons r' rs ih =>
    rw [List.cons_append, Server.answers, ih]
    rfl

lemma after_append (st : σ) (rs rs' : List Request) :
    S.after st (rs ++ rs') = S.after (S.after st rs) rs' := List.foldl_append

end Server

/-! ### The system -/

/-- The calls of the program. -/
inductive Op
  | request (a : ℕ) (r : Request)
  | result (a : ℕ)
  | nextOptional (a : ℕ)
  | copy (a b : ℕ)
  | assign (a b : ℕ)
  | assignEnumerator (a b : ℕ)
  | destroy (a : ℕ)

/-- What a call does; only `nextOptional` hands something out. -/
def Op.call : Op → Action (Option (Option Str))
  | .request a r => do Redis.request a r; pure none
  | .result a => do Redis.result a; pure none
  | .nextOptional a => Redis.nextOptional a
  | .copy a b => do Redis.copy a b; pure none
  | .assign a b => do Redis.assign a b; pure none
  | .assignEnumerator a b => do Redis.assignEnumerator a b; pure none
  | .destroy a => do Redis.destroy a; pure none

/-- The client with what it has sent and what has arrived, and redis.  The commands that were
issued, how many of them redis has read, and the labels are kept for the statements. -/
structure System (σ : Type) where
  connection : Connection
  server : σ
  issued : List Request
  served : ℕ
  labels : ℕ → Option Label

/-- The commands after a call. -/
def Op.issues (issued : List Request) : Op → Except Str (Option (Option Str)) → List Request
  | .request _ r, .ok _ => issued ++ [r]
  | _, _ => issued

/-- The labels after a call: a new reply is for the answer to its command. -/
def Op.relabel {σ : Type} (S : Server σ) (s : System σ) :
    Op → Except Str (Option (Option Str)) → ℕ → Option Label
  | .request a r, .ok _ => Function.update s.labels a (some ⟨S.answer s.issued r, []⟩)
  | .nextOptional a, .ok x =>
    Function.update s.labels a ((s.labels a).map fun label => label.hand x)
  | .copy a b, .ok _ => moveLabel s.labels a b
  | .assign a b, .ok _ => moveLabel s.labels a b
  | .assignEnumerator a b, .ok _ => moveLabel s.labels a b
  | .destroy a, .ok _ => Function.update s.labels a none
  | _, _ => s.labels

inductive Event
  | call (op : Op)
  | serve

/-- A step of the client or of redis; `none` while it waits. -/
def System.next {σ : Type} (S : Server σ) (s : System σ) : Event → Option (System σ)
  | .call op => (exec op.call s.connection).map fun r =>
    { s with
      connection := r.2
      issued := op.issues s.issued r.1
      labels := op.relabel S s r.1 }
  | .serve =>
    match exec readMultiBulk ⟨s.connection.sent, false⟩ with
    | some (.ok message, t) => some { s with
        connection :=
          Connection.grow (S.respond s.server message).1.bytes { s.connection with sent := t.rest }
        server := (S.respond s.server message).2
        served := s.served + 1 }
    | _ => none

def System.Step {σ : Type} (S : Server σ) (s : System σ) (e : Event) (s' : System σ) : Prop :=
  s.next S e = some s'

/-- No reply has been asked for. -/
structure System.Initial {σ : Type} (S : Server σ) (s : System σ) : Prop where
  size : s.connection.buffer.size ≤ 2 ^ 31
  sent : s.connection.sent = []
  stream : s.connection.stream = ⟨[], false⟩
  outstanding : s.connection.outstandingReplies = []
  replies : ∀ a, (s.connection.replies a).conn = false
  server : s.server = S.start
  issued : s.issued = []
  served : s.served = 0
  labels : s.labels = fun _ => none

/-- What a program has to respect.  A reply is constructed where there is none, for a command that
the server answers with a reply that the class of the object can read; a method is called on an
object of its class; a reply is moved from another object; and a reply is destroyed or overwritten
only when it can be read to its end. -/
def System.Allowed {σ : Type} (S : Server σ) (s : System σ) : Event → Prop
  | .serve => True
  | .call (.request a r) =>
      a ∉ s.connection.outstandingReplies ∧ r.kind.Matches (S.answer s.issued r)
  | .call (.result a) => (s.connection.replies a).body.kind ≠ .multiBulk
  | .call (.nextOptional a) => (s.connection.replies a).body.kind = .multiBulk
  | .call (.copy a b) => a ≠ b ∧ a ∉ s.connection.outstandingReplies
  | .call (.assign a b) => a ≠ b ∧ (s.connection.replies a).body.kind ≠ .multiBulk
  | .call (.assignEnumerator a b) => a ≠ b ∧ (s.connection.replies a).body.kind = .multiBulk ∧
      s.connection.Skippable s.labels a ∧
      ∃ headerDone count, (s.connection.replies b).body = .multiBulk headerDone count []
  | .call (.destroy a) => s.connection.Released s.labels a

/-! ### The invariant -/

/-- Redis has read some commands and is behind by others, and the client is in step with the
answers, those that are to come included. -/
structure InStep {σ : Type} (S : Server σ) (s : System σ) (taken waiting : List Request) :
    Prop where
  size : s.connection.buffer.size ≤ 2 ^ 31
  issued : s.issued = taken ++ waiting
  served : taken.length = s.served
  server : s.server = S.after S.start taken
  waits : ∀ r ∈ waiting, r.bytes.length < 2 ^ 31
  sent : ∃ ws, Blank ws ∧ s.connection.sent = ws ++ waiting.flatMap Request.bytes
  synced : Synced s.labels (s.connection.grow ((S.answers s.server waiting).flatMap Reply.bytes))

section Invariant

variable {σ : Type} {S : Server σ} {s s' : System σ} {taken waiting : List Request}
  {labels : ℕ → Option Label} {c c' : Connection} {a b : ℕ} {x : Except Str (Option (Option Str))}

/-- A command that is sent, or for which the buffer is too small. -/
lemma exec_request (hsize : c.buffer.size ≤ 2 ^ 32) (hstream : c.stream.fail = false) (a : ℕ)
    (r : Request) :
    exec (request a r) c =
      if r.needed < c.buffer.size then some (.ok (), { c with
        buffer := { c.buffer with data := r.bytes }
        sent := c.sent ++ r.bytes
        replies := Function.update c.replies a ⟨true, r.kind.initial⟩
        outstandingReplies := c.outstandingReplies ++ [a] })
      else some (.error bufferIsFull, c) := by
  have hexecute := execute_eq hsize r.command.1 r.command.2
  by_cases h : r.needed < c.buffer.size
  · rw [if_pos (by exact h)] at hexecute
    have hsend : Returns (executeCommandSync r) c () { c with
        buffer := { c.buffer with data := r.bytes }
        sent := c.sent ++ r.bytes } := by
      show executeCommandSync r c = _
      rw [executeCommandSync, hexecute, hstream]
      rfl
    rw [if_pos h]
    exact hsend.bind ((returns_change _ _).bind (returns_change _ _))
  · rw [if_neg (by exact h)] at hexecute
    have hfull : Throws (executeCommandSync r) c bufferIsFull c := by
      show executeCommandSync r c = _
      rw [executeCommandSync, hexecute]
    rw [if_neg h]
    exact hfull.bind

/-- The stream of a client in step has not failed. -/
lemma Synced.fail_eq (h : Synced labels c) : c.stream.fail = false := by
  obtain ⟨ws, -, hstream⟩ := h.stream
  rw [hstream]

/-- A new reply is in step when the answer to it follows. -/
lemma Synced.request (h : Synced labels c) (ha : a ∉ c.outstandingReplies) {kind : Kind}
    {answer : Reply} (hm : kind.Matches answer) (sent : Str) (buffer : Buffer) :
    Synced (Function.update labels a (some ⟨answer, []⟩))
      (Connection.grow answer.bytes { c with
        buffer := buffer
        sent := sent
        replies := Function.update c.replies a ⟨true, kind.initial⟩
        outstandingReplies := c.outstandingReplies ++ [a] }) := by
  have hne : ∀ d ∈ c.outstandingReplies, d ≠ a := fun d hd hda => ha (hda ▸ hd)
  have hother : ∀ d, d ≠ a → Function.update c.replies a ⟨true, kind.initial⟩ d = c.replies d :=
    fun d hd => Function.update_of_ne hd _ _
  obtain ⟨ws, hws, hstream⟩ := h.stream
  refine ⟨?_, tracks_update h.tracks (.unread hm), fun d hd => ?_, ?_, ws, hws, ?_⟩
  · exact List.nodup_append.2 ⟨h.nodup, List.nodup_singleton a, fun d hd e he => by
      rw [List.mem_singleton.1 he]
      exact hne d hd⟩
  · by_cases hda : d = a
    · exact List.mem_append_right _ (List.mem_singleton.2 hda)
    · refine List.mem_append_left _ (h.listed d ?_)
      rw [← hother d hda]
      exact hd
  · refine List.pairwise_append.2 ⟨h.ordered.imp_of_mem fun {d e} hd he hde => ?_,
      List.pairwise_singleton _ a, fun d hd e he => .inr ?_⟩
    · show Quiet (Function.update c.replies a _ d) ∨ Fresh (Function.update c.replies a _ e)
      rwa [hother d (hne d hd), hother e (hne e he)]
    · rw [List.mem_singleton.1 he]
      show Fresh (Function.update c.replies a _ a)
      rw [Function.update_self]
      exact ⟨rfl, by simp⟩
  · have hsame := @flatMap_left_update labels c (Connection.grow answer.bytes { c with
        buffer := buffer
        sent := sent
        replies := Function.update c.replies a ⟨true, kind.initial⟩
        outstandingReplies := c.outstandingReplies ++ [a] }) c.outstandingReplies a
      ⟨true, kind.initial⟩ (some ⟨answer, []⟩) rfl ha
    show Stream.mk (c.stream.rest ++ answer.bytes) c.stream.fail =
      ⟨ws ++ (c.outstandingReplies ++ [a]).flatMap _, false⟩
    rw [List.flatMap_append, hsame, List.flatMap_singleton, hstream]
    simp [Connection.left, Connection.grow, left_initial]

/-- What redis has still to send. -/
def System.promised (S : Server σ) (s : System σ) (waiting : List Request) : Str :=
  (S.answers s.server waiting).flatMap Reply.bytes

/-- The state after a call. -/
def System.after (S : Server σ) (s : System σ) (op : Op) (x : Except Str (Option (Option Str)))
    (c : Connection) : System σ :=
  { s with connection := c, issued := op.issues s.issued x, labels := op.relabel S s x }

lemma exec_discard {p : Action Unit} {y : Except Str Unit}
    (h : exec p c = some (y, c')) :
    exec (do p; pure none : Action (Option (Option Str))) c = some (y.map fun _ => none, c') := by
  cases y with
  | ok u => exact (Returns.exec_bind h _).trans (returns_pure none c')
  | error e => exact Throws.bind h

/-- A call that only reads keeps the invariant, if it does when all answers have arrived. -/
lemma InStep.reads (h : InStep S s taken waiting) {op : Op} (hsteady : SteadyAction op.call)
    (hx : exec op.call s.connection = some (x, c')) (hissues : op.issues s.issued x = s.issued)
    (hsynced : ∀ y d, exec op.call (s.connection.grow (s.promised S waiting)) = some (y, d) →
      Synced (op.relabel S s y) d) :
    InStep S (s.after S op x c') taken waiting := by
  -- the call has the outcome that it has when redis has answered everything
  obtain ⟨hgrow, hsent, hbuffer⟩ := hsteady.grow hx (s.promised S waiting)
  refine ⟨?_, ?_, h.served, h.server, h.waits, ?_, hsynced _ _ hgrow⟩
  · rw [System.after, hbuffer]
    exact h.size
  · rw [System.after, hissues]
    exact h.issued
  · rw [System.after, hsent]
    exact h.sent

/-- A call in step has an outcome. -/
def Sound (S : Server σ) (s : System σ) (op : Op) (c : Connection) : Prop :=
  ∃ y d, exec op.call c = some (y, d) ∧ Synced (op.relabel S s y) d

lemma sound_result (h : Synced s.labels c) (hkind : (c.replies a).body.kind ≠ .multiBulk) :
    Sound S s (.result a) c := by
  obtain ⟨y, d, hexec, hsynced, -⟩ := exec_readRest_of_simple h hkind
  rw [exec_readRest_simple hkind] at hexec
  refine ⟨_, d, exec_discard hexec, ?_⟩
  cases y <;> exact hsynced

/-- The label of an enumerator is for a list. -/
lemma Tracks.items_of_kind {o : ReplyObject} {label : Label} (h : Tracks o (some label))
    (hkind : o.body.kind = .multiBulk) : ∃ items, label = ⟨.multiBulk items, label.seen⟩ := by
  cases h with
  | @unread kind answer hm =>
    obtain ⟨items, seen, hlabel⟩ := (Tracks.unread hm).cases_of_enumerator rfl hkind
    cases hlabel
    exact ⟨items, rfl⟩
  | @stored kind answer body hne hm hread =>
    cases kind with
    | multiBulk => exact (hne rfl).elim
    | _ => cases answer <;> first | exact hm.elim | (cases hread <;> cases hkind)
  | thrown => cases hkind
  | @started seen rest => exact ⟨seen ++ rest, rfl⟩
  | drained conn seen pending => exact ⟨seen ++ pending, rfl⟩

lemma sound_nextOptional (h : Synced s.labels c) (hkind : (c.replies a).body.kind = .multiBulk) :
    Sound S s (.nextOptional a) c := by
  have ht := h.tracks a
  cases hlabel : s.labels a with
  | some label =>
    rw [hlabel] at ht
    obtain ⟨items, hitems⟩ := ht.items_of_kind hkind
    rw [hitems] at hlabel
    rcases exec_nextOptional h hlabel with ⟨d, hexec, hsynced⟩ | ⟨line, d, -, -, hexec, hsynced⟩
    · refine ⟨_, d, hexec, ?_⟩
      rw [Op.relabel, hlabel]
      exact hsynced
    · exact ⟨_, d, hexec, hsynced⟩
  | none =>
    -- an object that has moved away hands out what is pending
    rw [hlabel] at ht
    have hself : Synced (Function.update s.labels a none) c := by
      rw [← hlabel]
      rwa [Function.update_eq_self]
    generalize ho : c.replies a = o at ht hkind
    obtain ⟨body⟩ := ht
    cases body with
    | multiBulk headerDone count pending =>
      cases pending with
      | nil =>
        refine ⟨.ok none, c, (returns_look _ c).bind ((returns_reply a c).bind ?_), ?_⟩
        · rw [ho]
          exact returns_pure none c
        · rw [Op.relabel, hlabel]
          exact hself
      | cons x pending =>
        have hquiet : Quiet (c.replies a) := .inl (by rw [ho])
        have hset := returns_setBody a (.multiBulk headerDone count pending) c
        rw [ho] at hset
        refine ⟨.ok (some x),
          { c with
            replies := Function.update c.replies a ⟨false, .multiBulk headerDone count pending⟩ },
          (returns_look _ c).bind ((returns_reply a c).bind ?_), ?_⟩
        · rw [ho]
          exact hset.bind (returns_pure (some x) _)
        · rw [Op.relabel, hlabel]
          exact h.replace hquiet (.idle _) (.inl rfl) nofun
    | _ => cases hkind

lemma sound_copy (h : Synced s.labels c) (hab : a ≠ b) (ha : a ∉ c.outstandingReplies) :
    Sound S s (.copy a b) c := by
  obtain ⟨d, hexec, hsynced⟩ := exec_copy h hab ha
  exact ⟨_, d, exec_discard hexec, hsynced⟩

lemma sound_assign (h : Synced s.labels c) (hab : a ≠ b)
    (hkind : (c.replies a).body.kind ≠ .multiBulk) : Sound S s (.assign a b) c := by
  obtain ⟨y, d, hexec, hok, hne⟩ := exec_assign h hab hkind
  refine ⟨_, d, exec_discard hexec, ?_⟩
  cases y with
  | ok u => exact hok rfl
  | error e => exact hne nofun

lemma sound_assignEnumerator (h : Synced s.labels c) (hab : a ≠ b)
    (hskip : c.Skippable s.labels a) (hkind : (c.replies a).body.kind = .multiBulk)
    {headerDone : Bool} {count : ℤ} (hbody : (c.replies b).body = .multiBulk headerDone count []) :
    Sound S s (.assignEnumerator a b) c := by
  obtain ⟨d, hexec, hsynced⟩ := exec_assignEnumerator h hab hskip hkind hbody
  exact ⟨_, d, exec_discard hexec, hsynced⟩

lemma sound_destroy (h : Synced s.labels c) (hreleased : c.Released s.labels a) :
    Sound S s (.destroy a) c := by
  obtain ⟨d, hexec, hsynced⟩ := exec_destroy h a
  exact ⟨_, d, exec_discard hexec, hsynced.2 hreleased⟩

/-- **What is allowed has an outcome when all answers have arrived**, and keeps the client in
step. -/
theorem sound_of_allowed (h : Synced s.labels c) {op : Op}
    (hreplies : c.replies = s.connection.replies)
    (hlist : c.outstandingReplies = s.connection.outstandingReplies)
    (hok : s.Allowed S (.call op)) (hop : ∀ a r, op ≠ .request a r) : Sound S s op c := by
  have hreleased : ∀ a, s.connection.Released s.labels a → c.Released s.labels a := by
    intro a
    simp only [Connection.Released, Connection.firstError, Connection.inFront, hreplies, hlist]
    exact id
  have hskip : ∀ a, s.connection.Skippable s.labels a → c.Skippable s.labels a := by
    intro a
    simp only [Connection.Skippable, hreplies]
    exact id
  cases op with
  | request a r => exact (hop a r rfl).elim
  | result a => exact sound_result h (by rw [hreplies]; exact hok)
  | nextOptional a => exact sound_nextOptional h (by rw [hreplies]; exact hok)
  | copy a b => exact sound_copy h hok.1 (by rw [hlist]; exact hok.2)
  | assign a b => exact sound_assign h hok.1 (by rw [hreplies]; exact hok.2)
  | assignEnumerator a b =>
    obtain ⟨hab, hkind, hskips, headerDone, count, hbody⟩ := hok
    exact sound_assignEnumerator h hab (hskip a hskips) (by rw [hreplies]; exact hkind)
      (by rw [hreplies]; exact hbody)
  | destroy a => exact sound_destroy h (hreleased a hok)

/-! ### Steps and runs -/

lemma InStep.after_issued (h : InStep S s taken waiting) :
    S.after S.start s.issued = S.after s.server waiting := by
  rw [h.issued, after_append, h.server]

/-- A command is sent as a whole or not at all. -/
lemma InStep.request (h : InStep S s taken waiting) {r : Request}
    (ha : a ∉ s.connection.outstandingReplies) (hm : r.kind.Matches (S.answer s.issued r))
    (hx : exec (Op.request a r).call s.connection = some (x, c')) :
    ∃ waiting', InStep S (s.after S (.request a r) x c') taken waiting' := by
  have hsize := h.size
  have hexec := exec_request (c := s.connection) (by omega) h.synced.fail_eq a r
  by_cases hfits : r.needed < s.connection.buffer.size
  · rw [if_pos hfits] at hexec
    obtain ⟨rfl, rfl⟩ := exec_unique hx (exec_discard hexec)
    obtain ⟨ws, hws, hsent⟩ := h.sent
    -- the lengths in the command fit the `int` that redis reads them into
    have hbytes : r.bytes.length < 2 ^ 31 := by
      have hneeded : r.needed < 2 ^ 32 := by omega
      have hle : r.bytes.length ≤ r.needed := length_bytes_le hneeded
      omega
    have hanswer : S.answer s.issued r = (S.respond (S.after s.server waiting) r.message).1 := by
      rw [Server.answer, h.after_issued]
    refine ⟨waiting ++ [r], h.size, ?_, h.served, h.server, fun r' hr' => ?_, ⟨ws, hws, ?_⟩, ?_⟩
    · show s.issued ++ [r] = _
      rw [h.issued, List.append_assoc]
    · rcases List.mem_append.1 hr' with hr' | hr'
      · exact h.waits r' hr'
      · rw [List.mem_singleton.1 hr']
        exact hbytes
    · show s.connection.sent ++ r.bytes = _
      rw [hsent, List.flatMap_append, List.flatMap_singleton, List.append_assoc]
    -- the answer is promised at once, at the end of what is to arrive
    · have hnew := h.synced.request ha hm (s.connection.sent ++ r.bytes)
        { s.connection.buffer with data := r.bytes }
      refine hnew.congr rfl rfl ?_
      simp [System.after, Connection.grow, Stream.grow, answers_concat, hanswer]
  · rw [if_neg hfits] at hexec
    obtain ⟨rfl, rfl⟩ := exec_unique hx (exec_discard hexec)
    exact ⟨waiting, h.size, h.issued, h.served, h.server, h.waits, h.sent, h.synced⟩

/-- Redis waits when there is no command. -/
lemma exec_readMultiBulk_blank {ws : Str} (hws : Blank ws) :
    exec readMultiBulk ⟨ws, false⟩ = none := by
  have hdrop : ws.dropWhile isSpace = [] := by
    have happend : (ws ++ []).dropWhile isSpace = [] := List.dropWhile_append_of_pos hws
    rwa [List.append_nil] at happend
  have hchar : extractChar 0 ⟨ws, false⟩ = none := by
    simp [extractChar, hdrop]
  have hawait : exec (await (extractChar 0) : Input UInt8) ⟨ws, false⟩ = none := by
    show (extractChar 0 ⟨ws, false⟩).map _ = none
    rw [hchar]
    rfl
  rw [readMultiBulk, Throwing.exec_bind, readMultiBulkHeader, Throwing.exec_bind, hawait]
  rfl

/-- Redis reads the next command as it was issued. -/
lemma InStep.serve (h : InStep S s taken waiting) (hs : s.next S .serve = some s') :
    ∃ r rest, waiting = r :: rest ∧ InStep S s' (taken ++ [r]) rest := by
  obtain ⟨ws, hws, hsent⟩ := h.sent
  cases waiting with
  | nil =>
    rw [List.flatMap_nil, List.append_nil] at hsent
    rw [System.next, hsent, exec_readMultiBulk_blank hws] at hs
    cases hs
  | cons r rest =>
    refine ⟨r, rest, rfl, ?_⟩
    obtain ⟨hlength, hrest⟩ := List.forall_mem_cons.1 h.waits
    obtain ⟨ws', hws', hread⟩ := readMultiBulk_bytes hlength hws (rest.flatMap Request.bytes)
    rw [List.flatMap_cons] at hsent
    rw [System.next, hsent, hread] at hs
    obtain rfl := (Option.some.inj hs).symm
    refine ⟨h.size, ?_, ?_, ?_, hrest, ⟨ws', hws', rfl⟩, ?_⟩
    · rw [List.append_assoc]
      exact h.issued
    · rw [List.length_append, h.served]
      rfl
    · rw [after_append, ← h.server]
      rfl
    -- what was promised has arrived
    · refine h.synced.congr rfl rfl ?_
      simp [Connection.grow, Stream.grow, Server.answers, Request.message]

lemma steady_call {op : Op} (hop : ∀ a r, op ≠ .request a r) : SteadyAction op.call := by
  intro e
  cases op with
  | request a r => exact (hop a r rfl).elim
  | result a => exact (steady_result a e).bind fun _ => steady_pure none
  | nextOptional a => exact steady_nextOptional a e
  | copy a b => exact (steady_copy a b e).bind fun _ => steady_pure none
  | assign a b => exact (steady_assign a b e).bind fun _ => steady_pure none
  | assignEnumerator a b => exact (steady_assignEnumerator a b e).bind fun _ => steady_pure none
  | destroy a => exact (steady_destroy a e).bind fun _ => steady_pure none

/-- A call that is allowed keeps the invariant. -/
lemma InStep.call (h : InStep S s taken waiting) {op : Op} (hok : s.Allowed S (.call op))
    (hx : exec op.call s.connection = some (x, c')) :
    ∃ taken waiting, InStep S (s.after S op x c') taken waiting := by
  by_cases hop : ∃ a r, op = .request a r
  · obtain ⟨a, r, rfl⟩ := hop
    exact ⟨taken, h.request hok.1 hok.2 hx⟩
  · have hne : ∀ a r, op ≠ .request a r := fun a r heq => hop ⟨a, r, heq⟩
    have hissues : op.issues s.issued x = s.issued := by
      cases op with
      | request a r => exact (hne a r rfl).elim
      | _ => rfl
    obtain ⟨y, d, hexec, hsynced⟩ := sound_of_allowed h.synced rfl rfl hok hne
    refine ⟨taken, waiting, h.reads (steady_call hne) hx hissues fun y' d' hexec' => ?_⟩
    obtain ⟨rfl, rfl⟩ := exec_unique hexec' hexec
    exact hsynced

end Invariant

end ChannelServer.Redis
