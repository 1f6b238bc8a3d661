/-
How the objects for replies stand to the answers of redis.

A label says which answer an object is for, and which elements of it the program has been handed.
It is ghost state: no function reads it.  `Synced` states that the connection is in step with the
labels: the stream holds what is left of the answers, in the order of the list of objects, and
every object that has read its answer stores the value of this answer.

The main result is `Front.read`, which all the functions that read use: when everything in front
of an object has been read, the object may read on.
-/
import ChannelServer.Redis.Connection
import Mathlib.Data.List.Nodup

namespace ChannelServer.Redis

open Scanning Throwing

/-! ### Answers -/

/-- The answers that a class of objects can read. -/
def Kind.Matches : Kind → Reply → Prop
  | .void, .status line => (13 : UInt8) ∉ line
  | .void, .error line => (13 : UInt8) ∉ line
  | .bool, .integer number => -2 ^ 63 ≤ number ∧ number < 2 ^ 63
  | .int, .integer number => -2 ^ 63 ≤ number ∧ number < 2 ^ 63
  | .string, .bulk data => BulkFits data
  | .multiBulk, .multiBulk items => items.length < 2 ^ 31 ∧ ∀ d ∈ items, BulkFits d
  | _, _ => False

instance (kind : Kind) (answer : Reply) : Decidable (kind.Matches answer) :=
  match kind, answer with
  | .void, .status line | .void, .error line => inferInstanceAs (Decidable ((13 : UInt8) ∉ line))
  | .bool, .integer number | .int, .integer number =>
      inferInstanceAs (Decidable (-2 ^ 63 ≤ number ∧ number < 2 ^ 63))
  | .string, .bulk data => inferInstanceAs (Decidable (BulkFits data))
  | .multiBulk, .multiBulk items =>
      inferInstanceAs (Decidable (items.length < 2 ^ 31 ∧ ∀ d ∈ items, BulkFits d))
  | .void, .integer _ | .void, .bulk _ | .void, .multiBulk _
  | .bool, .status _ | .bool, .error _ | .bool, .bulk _ | .bool, .multiBulk _
  | .int, .status _ | .int, .error _ | .int, .bulk _ | .int, .multiBulk _
  | .string, .status _ | .string, .error _ | .string, .integer _ | .string, .multiBulk _
  | .multiBulk, .status _ | .multiBulk, .error _ | .multiBulk, .integer _
  | .multiBulk, .bulk _ => .isFalse id

/-- What `readStatusCodeReply` throws for an error. -/
def errorText (line : Str) : Str := lit "read error response: " ++ line

/-- What an object stores of an answer, or what it throws. -/
def Kind.outcome : Kind → Reply → Except Str Body
  | .void, .status _ => .ok (.void true)
  | .void, .error line => .error (errorText line)
  | .bool, .integer number => .ok (.bool (decide (number > 0)))
  | .int, .integer number => .ok (.int number)
  | .string, .bulk data => .ok (.string data)
  | kind, _ => .ok kind.initial

section Answers

variable {kind : Kind} {answer : Reply} {ws rest : Str}

@[simp] lemma kind_initial (kind : Kind) : kind.initial.kind = kind := by cases kind <;> rfl

lemma Reply.bytes_ne_nil (answer : Reply) : answer.bytes ≠ [] := by
  cases answer with
  | bulk data => cases data <;> simp [Reply.bytes, bulkBytes, lit]
  | _ => simp [Reply.bytes, lit]

/-- An answer is read to its end, up to space. -/
lemma readStored_of_matches (hkind : kind ≠ .multiBulk) (h : kind.Matches answer)
    (hws : Blank ws) : ∃ ws', Blank ws' ∧
      exec (readStored kind) ⟨ws ++ (answer.bytes ++ rest), false⟩ =
        some (kind.outcome answer, ⟨ws' ++ rest, false⟩) := by
  cases kind with
  | void =>
    cases answer with
    | status line =>
      exact ⟨_, blank_lf, (readStatusCodeReply_status hws h).bind (returns_pure _ _)⟩
    | error line => exact ⟨_, blank_lf, (readStatusCodeReply_error hws h).bind⟩
    | _ => exact h.elim
  | bool =>
    cases answer with
    | integer number =>
      exact ⟨_, blank_crlf, (readIntegerReply_integer hws h.1 h.2).bind (returns_pure _ _)⟩
    | _ => exact h.elim
  | int =>
    cases answer with
    | integer number =>
      exact ⟨_, blank_crlf, (readIntegerReply_integer hws h.1 h.2).bind (returns_pure _ _)⟩
    | _ => exact h.elim
  | string =>
    cases answer with
    | bulk data => exact ⟨_, blank_crlf, (readBulkReply_bulk hws h).bind (returns_pure _ _)⟩
    | _ => exact h.elim
  | multiBulk => exact (hkind rfl).elim

end Answers

/-! ### Labels -/

/-- The answer that an object is for, and the elements of it that were handed out. -/
structure Label where
  answer : Reply
  seen : List (Option Str)
deriving DecidableEq, Repr

/-- What an object can be in, with its label: it waits for its answer, has stored it, has thrown it,
has read the head of a list, or has read the list to its end. -/
inductive Tracks : ReplyObject → Option Label → Prop
  | idle (body : Body) : Tracks ⟨false, body⟩ none
  | unread {kind : Kind} {answer : Reply} (h : kind.Matches answer) :
      Tracks ⟨true, kind.initial⟩ (some ⟨answer, []⟩)
  | stored {kind : Kind} {answer : Reply} {body : Body} (hkind : kind ≠ .multiBulk)
      (h : kind.Matches answer) (hread : kind.outcome answer = .ok body) :
      Tracks ⟨false, body⟩ (some ⟨answer, []⟩)
  | thrown (line : Str) : Tracks ⟨false, .void false⟩ (some ⟨.error line, []⟩)
  | started {seen rest : List (Option Str)} (h : ∀ d ∈ rest, BulkFits d) :
      Tracks ⟨true, .multiBulk true rest.length []⟩ (some ⟨.multiBulk (seen ++ rest), seen⟩)
  | drained (conn : Bool) (seen pending : List (Option Str)) :
      Tracks ⟨conn, .multiBulk true 0 pending⟩ (some ⟨.multiBulk (seen ++ pending), seen⟩)

/-- The elements of a list that have not been read, when `count` of them are left. -/
def lastItems (count : ℤ) (items : List (Option Str)) : List (Option Str) :=
  items.drop (items.length - count.toNat)

/-- What is left of the answer for an object. -/
def left : ReplyObject → Option Label → Str
  | ⟨true, .multiBulk true count _⟩, some ⟨.multiBulk items, _⟩ =>
    (lastItems count items).flatMap bulkBytes
  | ⟨true, _⟩, some label => label.answer.bytes
  | _, _ => []

/-- An object that has nothing to read. -/
def Quiet (o : ReplyObject) : Prop :=
  o.conn = false ∨ ∃ pending, o.body = .multiBulk true 0 pending

/-- An object that has read nothing. -/
def Fresh (o : ReplyObject) : Prop := o.conn = true ∧ o.body = o.body.kind.initial

section Objects

variable {o : ReplyObject} {label : Option Label}

@[simp] lemma lastItems_append (seen rest : List (Option Str)) :
    lastItems rest.length (seen ++ rest) = rest := by
  simp [lastItems]

lemma left_initial (kind : Kind) (label : Label) :
    left ⟨true, kind.initial⟩ (some label) = label.answer.bytes := by
  cases kind <;> rfl

lemma left_started (seen rest pending : List (Option Str)) :
    left ⟨true, .multiBulk true rest.length pending⟩ (some ⟨.multiBulk (seen ++ rest), seen⟩) =
      rest.flatMap bulkBytes := by
  rw [left, lastItems_append]

lemma quiet_of_conn (h : o.conn = false) : Quiet o := .inl h

lemma Quiet.not_fresh (h : Quiet o) : ¬ Fresh o := by
  rintro ⟨hconn, hbody⟩
  rcases h with h | ⟨pending, h⟩
  · rw [hconn] at h
    cases h
  · rw [h] at hbody
    cases hbody

lemma bulkBytes_ne_nil (d : Option Str) : bulkBytes d ≠ [] := (Reply.bulk d).bytes_ne_nil

lemma Quiet.left_eq (h : Tracks o label) (hq : Quiet o) : left o label = [] := by
  cases h with
  | idle | stored | thrown => rfl
  | @unread kind answer h =>
    rcases hq with hconn | ⟨pending, hbody⟩
    · cases hconn
    · cases kind <;> cases hbody
  | @started seen rest h =>
    rcases hq with hconn | ⟨pending, hbody⟩
    · cases hconn
    · have hlength : (rest.length : ℤ) = 0 := (Body.multiBulk.inj hbody).2.1
      have hrest : rest = [] := List.length_eq_zero_iff.1 (by omega)
      rw [left_started, hrest]
      rfl
  | drained conn seen pending =>
    cases conn
    · rfl
    · simp [left, lastItems]

/-- An object that has something to read is fresh or has read the head of a list. -/
lemma Tracks.cases_of_not_quiet (h : Tracks o label) (hq : ¬ Quiet o) :
    (∃ kind answer, Kind.Matches kind answer ∧ o = ⟨true, kind.initial⟩ ∧
      label = some ⟨answer, []⟩) ∨
    ∃ seen d rest, (∀ x ∈ d :: rest, BulkFits x) ∧
      o = ⟨true, .multiBulk true (d :: rest).length []⟩ ∧
      label = some ⟨.multiBulk (seen ++ d :: rest), seen⟩ := by
  cases h with
  | idle | stored | thrown => exact (hq (.inl rfl)).elim
  | @unread kind answer h => exact .inl ⟨kind, answer, h, rfl, rfl⟩
  | @started seen rest h =>
    cases rest with
    | nil => exact (hq (.inr ⟨[], rfl⟩)).elim
    | cons d rest => exact .inr ⟨seen, d, rest, h, rfl, rfl⟩
  | drained conn seen pending => exact (hq (.inr ⟨pending, rfl⟩)).elim

end Objects

/-! ### A connection in step -/

/-- What is left of the answer for the object at an address. -/
def Connection.left (labels : ℕ → Option Label) (c : Connection) (a : ℕ) : Str :=
  Redis.left (c.replies a) (labels a)

/-- The connection is in step with the answers. -/
structure Synced (labels : ℕ → Option Label) (c : Connection) : Prop where
  nodup : c.outstandingReplies.Nodup
  tracks : ∀ a, Tracks (c.replies a) (labels a)
  listed : ∀ a, (c.replies a).conn = true → a ∈ c.outstandingReplies
  /-- Who is not the first that has something to read has not read anything. -/
  ordered : c.outstandingReplies.Pairwise fun a b => Quiet (c.replies a) ∨ Fresh (c.replies b)
  stream : ∃ ws, Blank ws ∧
    c.stream = ⟨ws ++ c.outstandingReplies.flatMap (c.left labels), false⟩

/-- The connection is in step, and what is in front in the list has been read. -/
structure Front (labels : ℕ → Option Label) (c : Connection) (front rest : List ℕ) : Prop where
  synced : Synced labels c
  list_eq : c.outstandingReplies = front ++ rest
  quiet : ∀ b ∈ front, Quiet (c.replies b)

/-- The connection after an object has read up to some point of the stream. -/
def Connection.set (c : Connection) (a : ℕ) (o : ReplyObject) (rest : Str) : Connection :=
  { c with replies := Function.update c.replies a o, stream := ⟨rest, false⟩ }

/-- The connection after an object has left the list. -/
def Connection.leave (c : Connection) (a : ℕ) : Connection :=
  { c with outstandingReplies := c.outstandingReplies.erase a }

@[simp] lemma set_set (c : Connection) (a : ℕ) (o o' : ReplyObject) (rest rest' : Str) :
    (c.set a o rest).set a o' rest' = c.set a o' rest' := by
  simp [Connection.set]

@[simp] lemma set_self (c : Connection) (a : ℕ) (o : ReplyObject) (rest : Str) :
    (c.set a o rest).replies a = o := by
  simp [Connection.set]

section Front

variable {labels : ℕ → Option Label} {c c' : Connection} {front rest : List ℕ} {a : ℕ}
  {o : ReplyObject} {label : Option Label}

/-- An entry of a list without duplicates is not in front of itself and not behind itself. -/
lemma notMem_of_nodup_middle (h : (front ++ a :: rest).Nodup) : a ∉ front ∧ a ∉ rest :=
  not_or.1 fun ha => (List.nodup_cons.1 (List.nodup_middle.1 h)).1 (List.mem_append.2 ha)

lemma erase_middle (h : (front ++ a :: rest).Nodup) :
    (front ++ a :: rest).erase a = front ++ rest := by
  rw [List.erase_append_right _ (notMem_of_nodup_middle h).1, List.erase_cons_head]

lemma flatMap_left_eq_nil (ht : ∀ a, Tracks (c.replies a) (labels a))
    (hquiet : ∀ b ∈ front, Quiet (c.replies b)) : front.flatMap (c.left labels) = [] :=
  List.flatMap_eq_nil_iff.2 fun b hb => (hquiet b hb).left_eq (ht b)

/-- An object that is changed is in step with its new label, and the others with theirs. -/
lemma tracks_update (ht : ∀ b, Tracks (c.replies b) (labels b)) (ho : Tracks o label) (b : ℕ) :
    Tracks (Function.update c.replies a o b) (Function.update labels a label b) := by
  by_cases hb : b = a
  · subst hb
    rwa [Function.update_self, Function.update_self]
  · rw [Function.update_of_ne hb, Function.update_of_ne hb]
    exact ht b

/-- What is left for the others does not change. -/
lemma flatMap_left_update (hr : c'.replies = Function.update c.replies a o) (ha : a ∉ rest) :
    rest.flatMap (c'.left (Function.update labels a label)) = rest.flatMap (c.left labels) := by
  refine List.flatMap_congr fun b hb => ?_
  have hba : b ≠ a := fun hba => ha (hba ▸ hb)
  rw [Connection.left, Connection.left, hr, Function.update_of_ne hba, Function.update_of_ne hba]

lemma Front.nodup (h : Front labels c front (a :: rest)) : (front ++ a :: rest).Nodup :=
  h.list_eq ▸ h.synced.nodup

lemma Front.stream (h : Front labels c front rest) : ∃ ws, Blank ws ∧
    c.stream = ⟨ws ++ rest.flatMap (c.left labels), false⟩ := by
  obtain ⟨ws, hws, hstream⟩ := h.synced.stream
  refine ⟨ws, hws, ?_⟩
  rw [hstream, h.list_eq, List.flatMap_append, flatMap_left_eq_nil h.synced.tracks h.quiet,
    List.nil_append]

lemma Front.advance (h : Front labels c front (a :: rest)) (hq : Quiet (c.replies a)) :
    Front labels c (front ++ [a]) rest := by
  refine ⟨h.synced, by simp [h.list_eq], fun b hb => ?_⟩
  rcases List.mem_append.1 hb with hb | hb
  · exact h.quiet b hb
  · rwa [List.mem_singleton.1 hb]

/-- **An object behind quiet ones reads on.** -/
theorem Front.read (h : Front labels c front (a :: rest)) (ho : Tracks o label)
    (hprogress : Quiet o ∨ ¬ Quiet (c.replies a)) {ws : Str} (hws : Blank ws) :
    Front (Function.update labels a label)
      (c.set a o (ws ++ (left o label ++ rest.flatMap (c.left labels)))) front (a :: rest) := by
  have hordered := h.synced.ordered
  rw [h.list_eq] at hordered
  obtain ⟨hfront, ha⟩ := notMem_of_nodup_middle h.nodup
  have hother : ∀ b, b ≠ a → Function.update c.replies a o b = c.replies b :=
    fun b hb => Function.update_of_ne hb o c.replies
  have hquiet : ∀ b ∈ front, Quiet (Function.update c.replies a o b) := fun b hb => by
    rw [hother b fun hba => hfront (hba ▸ hb)]
    exact h.quiet b hb
  have htracks := tracks_update (a := a) h.synced.tracks ho
  refine ⟨⟨h.synced.nodup, htracks, ?_, ?_, ws, hws, ?_⟩, h.list_eq, hquiet⟩
  · intro b hb
    by_cases hba : b = a
    · show b ∈ c.outstandingReplies
      rw [h.list_eq, hba]
      simp
    · refine h.synced.listed b ?_
      rwa [← hother b hba]
  -- before an object that is not done yet may read, all behind it have read nothing
  · have hbehind := List.pairwise_cons.1 (List.pairwise_append.1 hordered).2.1
    show c.outstandingReplies.Pairwise _
    rw [h.list_eq, List.pairwise_append, List.pairwise_cons]
    refine ⟨List.pairwise_of_forall_mem_list fun b hb d _ => .inl (hquiet b hb),
      ⟨fun d hd => ?_, ?_⟩, fun b hb d _ => .inl (hquiet b hb)⟩
    · rcases hprogress with hq | hq
      · exact .inl (by simpa [Connection.set] using hq)
      · refine .inr ?_
        show Fresh (Function.update c.replies a o d)
        rw [hother d fun h => ha (h ▸ hd)]
        exact (hbehind.1 d hd).resolve_left hq
    · refine hbehind.2.imp_of_mem fun {b d} hb hd hbd => ?_
      show Quiet (Function.update c.replies a o b) ∨ Fresh (Function.update c.replies a o d)
      rwa [hother b fun h => ha (h ▸ hb), hother d fun h => ha (h ▸ hd)]
  · have hnil : front.flatMap
        ((c.set a o (ws ++ (left o label ++ rest.flatMap (c.left labels)))).left
          (Function.update labels a label)) = [] := flatMap_left_eq_nil htracks hquiet
    show Stream.mk _ false = ⟨ws ++ c.outstandingReplies.flatMap _, false⟩
    rw [h.list_eq, List.flatMap_append, List.flatMap_cons, flatMap_left_update (c := c) rfl ha,
      hnil, List.nil_append]
    simp [Connection.left, Connection.set]

/-- Being in step is about what arrives, the list and the objects. -/
lemma Synced.congr (h : Synced labels c) (hreplies : c'.replies = c.replies)
    (hlist : c'.outstandingReplies = c.outstandingReplies) (hstream : c'.stream = c.stream) :
    Synced labels c' := by
  obtain ⟨hnodup, htracks, hlisted, hordered, hleft⟩ := h
  refine ⟨?_, ?_, ?_, ?_, ?_⟩
  · rwa [hlist]
  · rwa [hreplies]
  · rwa [hreplies, hlist]
  · rwa [hreplies, hlist]
  · have hsame : c'.left labels = c.left labels := by
      funext a
      rw [Connection.left, Connection.left, hreplies]
    rwa [hlist, hstream, hsame]

/-- An object without connection may leave the list. -/
theorem Synced.leave (h : Synced labels c) (hconn : (c.replies a).conn = false) :
    Synced labels (c.leave a) := by
  have hsub : (c.outstandingReplies.erase a).Sublist c.outstandingReplies := List.erase_sublist
  refine ⟨h.nodup.sublist hsub, h.tracks, ?_, h.ordered.sublist hsub, ?_⟩
  · intro b hb
    have hba : b ≠ a := by
      rintro rfl
      rw [show (c.replies b).conn = true from hb] at hconn
      cases hconn
    exact (List.mem_erase_of_ne hba).2 (h.listed b hb)
  · obtain ⟨ws, hws, hstream⟩ := h.stream
    refine ⟨ws, hws, hstream.trans ?_⟩
    have hnil : c.left labels a = [] := (quiet_of_conn hconn).left_eq (h.tracks a)
    by_cases ha : a ∈ c.outstandingReplies
    · obtain ⟨front, rest, hlist⟩ := List.append_of_mem ha
      have hnodup := h.nodup
      rw [hlist] at hnodup
      simp only [Connection.leave, hlist, erase_middle hnodup, List.flatMap_append,
        List.flatMap_cons, hnil, List.nil_append]
      rfl
    · simp only [Connection.leave, List.erase_of_not_mem ha]

/-- An object that has nothing to read may be changed. -/
theorem Synced.replace (h : Synced labels c) (hq : Quiet (c.replies a)) (ho : Tracks o label)
    (hquiet : Quiet o) (hconn : o.conn = true → (c.replies a).conn = true) :
    Synced (Function.update labels a label)
      { c with replies := Function.update c.replies a o } := by
  have hother : ∀ b, b ≠ a → Function.update c.replies a o b = c.replies b :=
    fun b hb => Function.update_of_ne hb o c.replies
  refine ⟨h.nodup, tracks_update h.tracks ho, ?_, h.ordered.imp ?_, ?_⟩
  · intro b hb
    refine h.listed b ?_
    by_cases hba : b = a
    · subst hba
      exact hconn (by simpa using hb)
    · rwa [← hother b hba]
  -- an object with nothing to read bounds none of the others
  · intro b d hbd
    by_cases hba : b = a
    · subst hba
      exact .inl (by simpa using hquiet)
    · by_cases hda : d = a
      · subst hda
        refine .inl ?_
        show Quiet (Function.update c.replies d o b)
        rw [hother b hba]
        exact hbd.resolve_right hq.not_fresh
      · show Quiet (Function.update c.replies a o b) ∨ Fresh (Function.update c.replies a o d)
        rwa [hother b hba, hother d hda]
  · obtain ⟨ws, hws, hstream⟩ := h.stream
    refine ⟨ws, hws, hstream.trans ?_⟩
    congr 2
    refine List.flatMap_congr fun b hb => ?_
    by_cases hba : b = a
    · subst hba
      simp only [Connection.left, Function.update_self, hq.left_eq (h.tracks b), hquiet.left_eq ho]
    · simp only [Connection.left, Function.update_of_ne hba]

lemma Front.leave (h : Front labels c front (a :: rest)) (hconn : (c.replies a).conn = false) :
    Front labels (c.leave a) front rest := by
  refine ⟨h.synced.leave hconn, ?_, h.quiet⟩
  show c.outstandingReplies.erase a = _
  rw [h.list_eq, erase_middle h.nodup]

/-- An object that has read its answer to the end leaves the list. -/
lemma Front.finish (h : Front labels c front (a :: rest)) (ho : Tracks o (labels a))
    (hconn : o.conn = false) {ws : Str} (hws : Blank ws) :
    Front labels ((c.set a o (ws ++ rest.flatMap (c.left labels))).leave a) front rest := by
  have hread := h.read ho (.inl (.inl hconn)) hws
  rw [Function.update_eq_self, (quiet_of_conn hconn).left_eq ho, List.nil_append] at hread
  exact hread.leave (by simp [Connection.set, hconn])

end Front

end ChannelServer.Redis
