/-
Reading replies on a connection in step.

Whoever reads a reply reads the replies in front of it first, and each of them is read to its end or
thrown: `exec_readResult` for one object, `exec_clearPendingResults` for all in front of an
object.  `exec_result` and `exec_nextOptional` say what a program gets, whatever has not been read
in front: the value of its own answer, or the first error in front.
-/
import ChannelServer.Redis.Outstanding

namespace ChannelServer.Redis

open Scanning Throwing

/-! ### Errors in front -/

/-- The error that an object will throw when it reads its answer. -/
def unreadError : ReplyObject → Option Label → Option Str
  | ⟨true, _⟩, some ⟨.error line, _⟩ => some line
  | _, _ => none

/-- The first error that objects will throw. -/
def Connection.firstError (labels : ℕ → Option Label) (c : Connection) (l : List ℕ) : Option Str :=
  l.findSome? fun a => unreadError (c.replies a) (labels a)

/-- The outcome of a call that meets an error. -/
def thrown : Option Str → Except Str Unit
  | none => .ok ()
  | some line => .error (errorText line)

section Errors

variable {labels : ℕ → Option Label} {c c' : Connection} {o : ReplyObject} {label : Option Label}

lemma firstError_congr {l : List ℕ} (h : ∀ b ∈ l, c'.replies b = c.replies b) :
    c'.firstError labels l = c.firstError labels l := by
  induction l with
  | nil => rfl
  | cons b l ih =>
    obtain ⟨hb, hl⟩ := List.forall_mem_cons.1 h
    have := ih hl
    simp only [Connection.firstError] at this
    simp only [Connection.firstError, List.findSome?_cons, hb, this]

lemma Quiet.unreadError_eq (h : Tracks o label) (hq : Quiet o) : unreadError o label = none := by
  by_contra hne
  cases h with
  | idle | stored | thrown => exact hne rfl
  | unread h =>
    have hleft := hq.left_eq (.unread h)
    rw [left_initial] at hleft
    exact Reply.bytes_ne_nil _ hleft
  | started => exact hne rfl
  | drained conn => cases conn <;> exact hne rfl

end Errors

/-! ### The steps of reading -/

section Steps

variable {α : Type} {c : Connection} {a : ℕ} {ws more : Str} {items : List (Option Str)}
  {R : ℕ → Action Unit} {o : ReplyObject} {d : Option Str}

lemma returns_reply (a : ℕ) (c : Connection) : Returns (reply a) c (c.replies a) c := rfl

lemma returns_setBody (a : ℕ) (body : Body) (c : Connection) : Returns (setBody a body) c ()
    { c with replies := Function.update c.replies a { c.replies a with body := body } } := rfl

lemma returns_setConn (a : ℕ) (conn : Bool) (c : Connection) : Returns (setConn a conn) c ()
    { c with replies := Function.update c.replies a { c.replies a with conn := conn } } := rfl

lemma returns_unlink (a : ℕ) (c : Connection) : Returns (unlink a) c () (c.leave a) := rfl

lemma returns_input {p : Input α} {x : α} {s t : Stream} (h : Returns p s x t) (hs : c.stream = s) :
    Returns (input p) c x { c with stream := t } := by
  subst hs
  exact h.zoom

lemma throws_input {p : Input α} {e : Str} {s t : Stream} (h : Throws p s e t) (hs : c.stream = s) :
    Throws (input p) c e { c with stream := t } := by
  subst hs
  exact h.zoom

lemma returns_readHeader {c₁ : Connection} (hclear : Returns (clearPendingResults R a) c () c₁)
    (ho : c₁.replies a = ⟨true, .multiBulk false 0 []⟩)
    (hstream : c₁.stream = ⟨ws ++ ((Reply.multiBulk items).bytes ++ more), false⟩) (hws : Blank ws)
    (hlength : items.length < 2 ^ 31) :
    Returns (readHeader R a false 0) c items.length
      (c₁.set a ⟨true, .multiBulk true items.length []⟩
        (crlf ++ (items.flatMap bulkBytes ++ more))) := by
  have hread := @readMultiBulkHeader_append ws (items.flatMap bulkBytes ++ more) hws _ hlength 0
  have hcheck := checkMultiBulkHeader_returns items.length
    (crlf ++ (items.flatMap bulkBytes ++ more))
  rw [← List.append_assoc _ (items.flatMap bulkBytes), ← Reply.bytes] at hread
  refine hclear.bind ((returns_setBody a _ c₁).bind ?_)
  refine (returns_input hread (by exact hstream)).bind ?_
  refine (returns_setBody a _ _).bind ?_
  refine (returns_input hcheck rfl).bind ?_
  simpa [Connection.set, ho] using returns_pure (items.length : ℤ) _

lemma returns_readItem_cons (ho : c.replies a = ⟨true, .multiBulk true (items.length + 1) []⟩)
    (hstream : c.stream = ⟨ws ++ (bulkBytes d ++ more), false⟩) (hws : Blank ws) (hd : BulkFits d) :
    Returns (readItem a (items.length + 1)) c (some d)
      (c.set a ⟨true, .multiBulk true items.length []⟩ (crlf ++ more)) := by
  rw [readItem, if_neg (by omega)]
  refine (returns_setBody a _ c).bind ?_
  refine (returns_input (readBulkReply_bulk hws hd) (by exact hstream)).bind ?_
  simpa [Connection.set, ho] using returns_pure (some d) _

lemma returns_readItem_nil (ho : c.replies a = ⟨true, .multiBulk true 0 []⟩) :
    Returns (readItem a 0) c none
      (({ c with
        replies := Function.update c.replies a ⟨false, .multiBulk true 0 []⟩ }).leave a) := by
  rw [readItem, if_pos (by omega)]
  refine (returns_setConn a false c).bind ((returns_unlink a _).bind ?_)
  simpa [ho] using returns_pure (none : Option (Option Str)) _

lemma exec_nextOptionalWith_started {count : ℤ}
    (ho : c.replies a = ⟨true, .multiBulk true count []⟩) :
    exec (nextOptionalWith R a) c = exec (readItem a count) c := by
  rw [nextOptionalWith, (returns_reply a c).exec_bind]
  simp only [ho, if_true, readHeader, pure_bind]

lemma exec_nextOptionalWith_fresh {c₁ : Connection} {count : ℤ}
    (ho : c.replies a = ⟨true, .multiBulk false 0 []⟩)
    (hheader : Returns (readHeader R a false 0) c count c₁) :
    exec (nextOptionalWith R a) c = exec (readItem a count) c₁ := by
  rw [nextOptionalWith, (returns_reply a c).exec_bind]
  simp only [ho, if_true]
  rw [hheader.exec_bind]

/-- A loop over an enumerator takes what is left of the list. -/
lemma returns_collect {β : Type} {next : Action (Option β)} {g : Option Str → β}
    {P : Option Str → Prop}
    (hnext : ∀ c x c', (∀ d, x = some d → P d) →
      (∀ R, Returns (nextOptionalWith R a) c x c') → Returns next c (x.map g) c')
    (hitems : ∀ d ∈ items, BulkFits d ∧ P d)
    (ho : c.replies a = ⟨true, .multiBulk true items.length []⟩)
    (hstream : c.stream = ⟨ws ++ (items.flatMap bulkBytes ++ more), false⟩) (hws : Blank ws)
    {k : ℕ} (hk : items.length < k) : ∃ ws', Blank ws' ∧
      Returns (collect next k) c (items.map g)
        ((c.set a ⟨false, .multiBulk true 0 []⟩ (ws' ++ more)).leave a) := by
  induction items generalizing c ws k with
  | nil =>
    cases k with
    | zero => cases hk
    | succ k =>
      refine ⟨ws, hws, ?_⟩
      have hend := hnext c none _ (by simp) fun R =>
        (exec_nextOptionalWith_started ho).trans (returns_readItem_nil ho)
      refine hend.bind ?_
      simpa [Connection.set, Connection.leave, hstream] using returns_pure ([] : List β) _
  | cons d items ih =>
    cases k with
    | zero => cases hk
    | succ k =>
      obtain ⟨⟨hd, hP⟩, hitems⟩ := List.forall_mem_cons.1 hitems
      have ho' : c.replies a = ⟨true, .multiBulk true (items.length + 1) []⟩ := ho
      rw [List.flatMap_cons, List.append_assoc] at hstream
      have hitem := hnext c (some d) _ (by simpa using hP) fun R =>
        (exec_nextOptionalWith_started ho').trans (returns_readItem_cons ho' hstream hws hd)
      obtain ⟨ws', hws', hrest⟩ := ih hitems (c := c.set a ⟨true, .multiBulk true items.length []⟩
        (crlf ++ (items.flatMap bulkBytes ++ more))) (by simp [Connection.set]) rfl blank_crlf
        (by simpa using hk)
      refine ⟨ws', hws', hitem.bind (hrest.bind ?_)⟩
      simpa [Connection.set] using returns_pure (g d :: items.map g) _

/-- An enumerator reads what is left of the list into what is pending. -/
lemma returns_readPendingWith {c₁ : Connection}
    (hfirst : exec (nextOptionalWith R a) c = exec (readItem a items.length) c₁)
    (hitems : ∀ d ∈ items, BulkFits d)
    (ho : c₁.replies a = ⟨true, .multiBulk true items.length []⟩)
    (hstream : c₁.stream = ⟨ws ++ (items.flatMap bulkBytes ++ more), false⟩) (hws : Blank ws) :
    ∃ ws', Blank ws' ∧ Returns (readPendingWith R a) c items
      ((c₁.set a ⟨false, .multiBulk true 0 []⟩ (ws' ++ more)).leave a) := by
  cases items with
  | nil =>
    refine ⟨ws, hws, ?_⟩
    have hend : Returns (nextOptionalWith R a) c none _ := hfirst.trans (returns_readItem_nil ho)
    refine hend.bind ?_
    simpa [Connection.set, Connection.leave, hstream] using
      returns_pure ([] : List (Option Str)) _
  | cons d items =>
    obtain ⟨hd, hitems⟩ := List.forall_mem_cons.1 hitems
    have ho' : c₁.replies a = ⟨true, .multiBulk true (items.length + 1) []⟩ := ho
    rw [List.flatMap_cons, List.append_assoc] at hstream
    have hitem : Returns (nextOptionalWith R a) c (some d) _ :=
      hfirst.trans (returns_readItem_cons ho' hstream hws hd)
    have hnext : ∀ c x c', (∀ d, x = some d → True) →
        (∀ R, Returns (nextOptionalWith R a) c x c') →
        Returns (nextOptionalWith R a) c (x.map id) c' := fun c x c' _ h => by simpa using h R
    obtain ⟨ws', hws', hrest⟩ := returns_collect (P := fun _ => True) hnext
      (fun d hd => ⟨hitems d hd, trivial⟩) (c := c₁.set a ⟨true, .multiBulk true items.length []⟩
        (crlf ++ (items.flatMap bulkBytes ++ more))) (by simp [Connection.set]) rfl blank_crlf
      (k := items.length + 1) (by omega)
    refine ⟨ws', hws', hitem.bind ((returns_reply a _).bind ?_)⟩
    have hremaining : ((c₁.set a ⟨true, .multiBulk true items.length []⟩
        (crlf ++ (items.flatMap bulkBytes ++ more))).replies a).remaining = items.length + 1 := by
      simp [Connection.set, ReplyObject.remaining]
    rw [hremaining]
    refine hrest.bind ?_
    simpa [Connection.set] using returns_pure (d :: items) _

end Steps

/-! ### Reading one reply -/

/-- What an object stores when it has read its answer. -/
def Kind.stored (kind : Kind) (answer : Reply) : Body :=
  match kind.outcome answer with
  | .ok body => body
  | .error _ => kind.initial

/-- A `readResult` that does nothing for objects that have nothing to read. -/
def Skips (R : ℕ → Action Unit) : Prop := ∀ c a, Quiet (c.replies a) → Returns (R a) c () c

section Reading

variable {labels : ℕ → Option Label} {c : Connection} {front rest l : List ℕ} {a : ℕ}
  {R : ℕ → Action Unit} {kind : Kind} {answer : Reply} {seen items : List (Option Str)}

lemma returns_readResultWith_of_quiet (R : ℕ → Action Unit) (h : Quiet (c.replies a)) :
    Returns (readResultWith R a) c () c := by
  refine (returns_reply a c).bind ?_
  generalize ho : c.replies a = o at h
  obtain ⟨conn, body⟩ := o
  have hsimple (hconn : conn = false) : Returns (resultWith R a) c () c := by
    refine (returns_reply a c).bind ?_
    rw [ho, if_neg (by simp [hconn])]
    exact returns_pure () c
  -- `readResult` of an enumerator looks at `headerDone` and `count`, the others at `conn` alone
  rcases h with hconn | ⟨pending, hbody⟩
  · cases body with
    | multiBulk headerDone count pending =>
      simp only [show conn = false from hconn, Bool.false_eq_true, false_and, if_false]
      exact returns_pure () c
    | _ => exact hsimple hconn
  · obtain rfl : body = .multiBulk true 0 pending := hbody
    dsimp only
    rw [if_neg (by simp)]
    exact returns_pure () c

lemma skips_readResult (depth : ℕ) : Skips (readResult depth) := by
  intro c a h
  cases depth with
  | zero => exact returns_pure () c
  | succ depth => exact returns_readResultWith_of_quiet _ h

lemma takeWhile_ne (h : (front ++ a :: rest).Nodup) :
    (front ++ a :: rest).takeWhile (fun b => decide (b ≠ a)) = front := by
  have hne : ∀ b ∈ front, decide (b ≠ a) = true := fun b hb =>
    decide_eq_true fun hba => (notMem_of_nodup_middle h).1 (hba ▸ hb)
  rw [List.takeWhile_append_of_pos hne]
  simp

/-- There is nothing to clear in front of an object behind quiet ones. -/
lemma returns_clear_of_front (hR : Skips R) (h : Front labels c front (a :: rest)) :
    Returns (clearPendingResults R a) c () c := by
  have hforM : ∀ l : List ℕ, (∀ b ∈ l, Quiet (c.replies b)) → Returns (l.forM R) c () c := by
    intro l hl
    induction l with
    | nil => exact returns_pure () c
    | cons b l ih =>
      obtain ⟨hb, hl⟩ := List.forall_mem_cons.1 hl
      exact (hR c b hb).bind (ih hl)
  refine (returns_look _ c).bind (hforM _ ?_)
  rw [Connection.inFront, h.list_eq, takeWhile_ne h.nodup]
  exact h.quiet

lemma exec_resultWith {c₁ : Connection} (hconn : (c.replies a).conn = true)
    (hclear : Returns (clearPendingResults R a) c () c₁) :
    exec (resultWith R a) c = exec (readOwn a (c.replies a).body.kind) c₁ := by
  rw [resultWith, (returns_reply a c).exec_bind, if_pos hconn, hclear.exec_bind]

/-- The object at the front reads its answer. -/
lemma exec_readOwn (h : Front labels c front (a :: rest)) (ho : c.replies a = ⟨true, kind.initial⟩)
    (hlabel : labels a = some ⟨answer, []⟩) (hkind : kind ≠ .multiBulk) (hm : kind.Matches answer) :
    ∃ c' front',
      exec (readOwn a kind) c = some (thrown (unreadError (c.replies a) (labels a)), c') ∧
      Front labels c' front' rest ∧ (∀ b, b ≠ a → c'.replies b = c.replies b) ∧
      c'.replies a = ⟨false, kind.stored answer⟩ := by
  obtain ⟨ws, hws, hstream⟩ := h.stream
  rw [List.flatMap_cons, Connection.left, ho, hlabel, left_initial] at hstream
  obtain ⟨ws', hws', hread⟩ :=
    @readStored_of_matches kind answer ws (rest.flatMap (c.left labels)) hkind hm hws
  have hstart := (returns_setConn a false c).exec_bind fun _ => do
    let stored ← input (readStored kind)
    setBody a stored
    unlink a
  rw [ho] at hstart
  cases hout : kind.outcome answer with
  | ok body =>
    have herror : unreadError (c.replies a) (labels a) = none := by
      rw [ho, hlabel]
      cases answer with
      | error line => cases kind <;> first | exact hm.elim | cases hout
      | _ => rfl
    rw [hout] at hread
    have ht : Tracks ⟨false, body⟩ (labels a) := hlabel ▸ .stored hkind hm hout
    refine ⟨_, front, ?_, h.finish ht rfl hws', fun b hb => ?_, ?_⟩
    · refine hstart.trans ?_
      rw [herror]
      refine (returns_input hread (by exact hstream)).bind ?_
      refine (returns_setBody a body _).bind ?_
      simpa [Connection.set] using returns_unlink a _
    · exact Function.update_of_ne hb _ _
    · simp [Connection.set, Connection.leave, Kind.stored, hout]
  | error e =>
    -- only an error is thrown, and the object stays in the list
    obtain ⟨line, rfl, rfl, rfl⟩ : ∃ line, answer = .error line ∧ kind = .void ∧
        e = errorText line := by
      cases kind <;> cases answer <;> first | exact hm.elim | cases hout
      exact ⟨_, rfl, rfl, rfl⟩
    rw [hout] at hread
    have ht : Tracks ⟨false, .void false⟩ (labels a) := hlabel ▸ .thrown line
    have hfront := h.read ht (.inl (.inl rfl)) hws'
    rw [Function.update_eq_self, (quiet_of_conn rfl).left_eq ht, List.nil_append] at hfront
    refine ⟨_, front ++ [a], ?_, hfront.advance (.inl (by simp [Connection.set])),
      fun b hb => ?_, ?_⟩
    · refine hstart.trans ?_
      rw [ho, hlabel]
      exact (throws_input hread (by exact hstream)).bind
    · exact Function.update_of_ne hb _ _
    · simp [Connection.set, Kind.stored, hout, Kind.initial]

/-- An enumerator that is read by another call keeps what it has read. -/
lemma returns_readResultWith_enumerator {headerDone : Bool} {count : ℤ} {c₁ : Connection}
    {ws more : Str} (ho : c.replies a = ⟨true, .multiBulk headerDone count []⟩)
    (hopen : headerDone = false ∨ count > 0)
    (hfirst : exec (nextOptionalWith R a) c = exec (readItem a items.length) c₁)
    (hitems : ∀ d ∈ items, BulkFits d)
    (ho₁ : c₁.replies a = ⟨true, .multiBulk true items.length []⟩)
    (hstream : c₁.stream = ⟨ws ++ (items.flatMap bulkBytes ++ more), false⟩) (hws : Blank ws) :
    ∃ ws', Blank ws' ∧ Returns (readResultWith R a) c ()
      ((c₁.set a ⟨false, .multiBulk true 0 items⟩ (ws' ++ more)).leave a) := by
  obtain ⟨ws', hws', hread⟩ := returns_readPendingWith hfirst hitems ho₁ hstream hws
  refine ⟨ws', hws', (returns_reply a c).bind ?_⟩
  simp only [ho, true_and]
  rw [if_pos hopen]
  refine hread.bind ((returns_reply a _).bind ?_)
  simpa [Connection.set, Connection.leave] using returns_setBody a (.multiBulk true 0 items)
    ((c₁.set a ⟨false, .multiBulk true 0 []⟩ (ws' ++ more)).leave a)

/-- **The object at the front is read to its end, or its error is thrown.** -/
theorem exec_readResultWith (hR : Skips R) (h : Front labels c front (a :: rest)) : ∃ c' front',
    exec (readResultWith R a) c = some (thrown (unreadError (c.replies a) (labels a)), c') ∧
    Front labels c' front' rest ∧ ∀ b, b ≠ a → c'.replies b = c.replies b := by
  by_cases hq : Quiet (c.replies a)
  · rw [hq.unreadError_eq (h.synced.tracks a)]
    exact ⟨c, front ++ [a], returns_readResultWith_of_quiet R hq, h.advance hq, fun _ _ => rfl⟩
  obtain ⟨ws, hws, hstream⟩ := h.stream
  rw [List.flatMap_cons, Connection.left] at hstream
  rcases (h.synced.tracks a).cases_of_not_quiet hq with
    ⟨kind, answer, hm, ho, hlabel⟩ | ⟨seen, d, items, hitems, ho, hlabel⟩
  · by_cases hkind : kind = .multiBulk
    · subst hkind
      cases answer with
      | multiBulk items =>
        rw [ho, hlabel, left_initial] at hstream
        have hheader := returns_readHeader (returns_clear_of_front hR h) ho hstream hws hm.1
        obtain ⟨ws', hws', hread⟩ := returns_readResultWith_enumerator ho (.inl rfl)
          (exec_nextOptionalWith_fresh ho hheader) hm.2 (set_self _ _ _ _) rfl blank_crlf
        rw [set_set] at hread
        have ht : Tracks ⟨false, .multiBulk true 0 items⟩ (labels a) :=
          hlabel ▸ .drained false [] items
        refine ⟨_, front, ?_, h.finish ht rfl hws', fun b hb => Function.update_of_ne hb _ _⟩
        rw [ho, hlabel]
        exact hread
      | _ => exact hm.elim
    · obtain ⟨c', front', hread, hfront, hframe, -⟩ := exec_readOwn h ho hlabel hkind hm
      refine ⟨c', front', ?_, hfront, hframe⟩
      have hresult : exec (readResultWith R a) c = exec (resultWith R a) c := by
        rw [readResultWith, (returns_reply a c).exec_bind, ho]
        cases kind <;> first | rfl | exact (hkind rfl).elim
      rw [hresult, exec_resultWith (by rw [ho]) (returns_clear_of_front hR h), ← hread, ho,
        kind_initial]
  · rw [ho, hlabel, left_started] at hstream
    obtain ⟨ws', hws', hread⟩ := returns_readResultWith_enumerator (R := R) ho
      (.inr (by simp only [List.length_cons]; omega)) (exec_nextOptionalWith_started ho) hitems ho
      hstream hws
    have ht : Tracks ⟨false, .multiBulk true 0 (d :: items)⟩ (labels a) :=
      hlabel ▸ .drained false seen (d :: items)
    refine ⟨_, front, ?_, h.finish ht rfl hws', fun b hb => Function.update_of_ne hb _ _⟩
    rw [ho, hlabel]
    exact hread

/-- **All in front are read, up to the first that throws.** -/
theorem exec_forM_readResult (depth : ℕ) (h : Front labels c front (l ++ a :: rest)) :
    ∃ c' front' mid,
      exec (l.forM (readResult (depth + 1))) c = some (thrown (c.firstError labels l), c') ∧
      Front labels c' front' (mid ++ a :: rest) ∧ (c.firstError labels l = none → mid = []) ∧
      ∀ b, b ∉ l → c'.replies b = c.replies b := by
  -- what has been read moves from `l` into the quiet front, where the next one finds nothing
  induction l generalizing c front with
  | nil => exact ⟨c, front, [], rfl, h, fun _ => rfl, fun _ _ => rfl⟩
  | cons b l ih =>
    obtain ⟨c₁, front₁, hread, hfront, hframe⟩ :=
      exec_readResultWith (skips_readResult depth) h
    cases herror : unreadError (c.replies b) (labels b) with
    | some line =>
      have hfirst : c.firstError labels (b :: l) = some line := by
        simp [Connection.firstError, herror]
      rw [herror] at hread
      refine ⟨c₁, front₁, l, ?_, hfront, fun hnone => ?_, fun d hd => ?_⟩
      · rw [hfirst]
        exact Throws.bind hread
      · rw [hfirst] at hnone
        cases hnone
      · exact hframe d fun hdb => hd (hdb ▸ List.mem_cons_self)
    | none =>
      obtain ⟨c', front', mid, hrest, hfront', hmid, hframe'⟩ := ih hfront
      have hb : b ∉ l := fun hb =>
        (notMem_of_nodup_middle h.nodup).2 (List.mem_append_left _ hb)
      have hfirst : c.firstError labels (b :: l) = c₁.firstError labels l := by
        rw [firstError_congr fun d hd => hframe d fun hdb => hb (hdb ▸ hd)]
        simp [Connection.firstError, herror]
      rw [herror] at hread
      refine ⟨c', front', mid, ?_, hfront', fun hnone => hmid (hfirst ▸ hnone), fun d hd => ?_⟩
      · rw [hfirst]
        exact (Returns.exec_bind hread _).trans hrest
      · rw [List.mem_cons, not_or] at hd
        rw [hframe' d hd.2, hframe d hd.1]

lemma notMem_inFront (c : Connection) (a : ℕ) : a ∉ c.inFront a := by
  intro ha
  have hall := List.all_takeWhile (p := fun b => decide (b ≠ a)) (l := c.outstandingReplies)
  simpa using List.all_eq_true.1 hall a ha

/-- Clearing what is in front of an object. -/
theorem exec_clearPendingResults (h : Synced labels c) (hconn : (c.replies a).conn = true)
    {depth : ℕ} (hdepth : 0 < depth) : ∃ c' front mid rest,
      exec (clearPendingResults (readResult depth) a) c =
        some (thrown (c.firstError labels (c.inFront a)), c') ∧
      Front labels c' front (mid ++ a :: rest) ∧
      (c.firstError labels (c.inFront a) = none → mid = []) ∧ c'.replies a = c.replies a := by
  obtain ⟨l, rest, hlist⟩ := List.append_of_mem (h.listed a hconn)
  have hfront : Front labels c [] (l ++ a :: rest) := ⟨h, by simpa using hlist, by simp⟩
  have hl : c.inFront a = l := by
    rw [Connection.inFront, hlist]
    exact takeWhile_ne (hlist ▸ h.nodup)
  obtain ⟨depth, rfl⟩ := Nat.exists_eq_add_of_lt hdepth
  obtain ⟨c', front, mid, hread, hfront', hmid, hframe⟩ :=
    exec_forM_readResult (0 + depth) hfront
  have ha := notMem_inFront c a
  rw [hl] at ha ⊢
  refine ⟨c', front, mid, rest, ?_, hfront', hmid, hframe a ha⟩
  rw [clearPendingResults, (returns_look _ c).exec_bind, hl]
  exact hread

lemma length_pos_of_conn (h : Synced labels c) (hconn : (c.replies a).conn = true) :
    0 < c.outstandingReplies.length :=
  List.length_pos_of_mem (h.listed a hconn)

lemma Front.of_clear {mid : List ℕ} (h : Front labels c front (mid ++ a :: rest))
    (hmid : mid = []) : Front labels c front (a :: rest) := by
  rwa [hmid, List.nil_append] at h

/-- An object that has read its answer, or has thrown it, does not read again. -/
lemma returns_result_of_conn (hconn : (c.replies a).conn = false) : Returns (result a) c () c := by
  refine (returns_look _ c).bind ((returns_reply a c).bind ?_)
  rw [if_neg (by simp [hconn])]
  exact returns_pure () c

/-- **A result is that of the own answer**, if there is no error in front; the first error in front
is thrown, and the connection stays in step. -/
theorem exec_result (h : Synced labels c) (ho : c.replies a = ⟨true, kind.initial⟩)
    (hlabel : labels a = some ⟨answer, []⟩) (hkind : kind ≠ .multiBulk) (hm : kind.Matches answer) :
    (c.firstError labels (c.inFront a) = none ∧ ∃ c' front rest,
      exec (result a) c = some (thrown (unreadError (c.replies a) (labels a)), c') ∧
      Front labels c' front rest ∧ c'.replies a = ⟨false, kind.stored answer⟩) ∨
    ∃ line, c.firstError labels (c.inFront a) = some line ∧ ∃ c' front mid rest,
      Throws (result a) c (errorText line) c' ∧ Front labels c' front (mid ++ a :: rest) ∧
      c'.replies a = c.replies a := by
  have hconn : (c.replies a).conn = true := by rw [ho]
  obtain ⟨c₁, front, mid, rest, hclear, hfront, hmid, hsame⟩ :=
    exec_clearPendingResults h hconn (length_pos_of_conn h hconn)
  cases herror : c.firstError labels (c.inFront a) with
  | none =>
    rw [herror] at hclear
    rw [ho] at hsame
    obtain ⟨c', front', hread, hfront', -, hstored⟩ :=
      exec_readOwn (hfront.of_clear (hmid herror)) hsame hlabel hkind hm
    refine .inl ⟨rfl, c', front', rest, ?_, hfront', hstored⟩
    rw [result, (returns_look _ c).exec_bind, exec_resultWith hconn hclear, ho, kind_initial, hread,
      hsame]
  | some line =>
    rw [herror] at hclear
    refine .inr ⟨line, rfl, c₁, front, mid, rest, ?_, hfront, hsame⟩
    refine (returns_look _ c).throws ((returns_reply a c).throws ?_)
    rw [if_pos hconn]
    exact Throws.bind hclear

/-- An enumerator is labelled with a list. -/
lemma Tracks.cases_of_items {o : ReplyObject} (h : Tracks o (some ⟨.multiBulk items, seen⟩)) :
    (o = ⟨true, .multiBulk false 0 []⟩ ∧ seen = [] ∧ items.length < 2 ^ 31 ∧
      ∀ d ∈ items, BulkFits d) ∨
    (∃ rest, items = seen ++ rest ∧ (∀ d ∈ rest, BulkFits d) ∧
      o = ⟨true, .multiBulk true rest.length []⟩) ∨
    ∃ conn pending, items = seen ++ pending ∧ o = ⟨conn, .multiBulk true 0 pending⟩ := by
  cases h with
  | @unread kind _ hm =>
    cases kind with
    | multiBulk => exact .inl ⟨rfl, rfl, hm⟩
    | _ => exact hm.elim
  | @stored kind _ _ hkind hm =>
    cases kind with
    | multiBulk => exact (hkind rfl).elim
    | _ => exact hm.elim
  | @started _ rest hrest => exact .inr (.inl ⟨rest, rfl, hrest, rfl⟩)
  | drained conn _ pending => exact .inr (.inr ⟨conn, pending, rfl, rfl⟩)

/-- Who has read the head of a list has nothing in front of it. -/
lemma exists_front_of_not_fresh (h : Synced labels c) (hconn : (c.replies a).conn = true)
    (hfresh : ¬ Fresh (c.replies a)) : ∃ front rest, Front labels c front (a :: rest) := by
  obtain ⟨front, rest, hlist⟩ := List.append_of_mem (h.listed a hconn)
  refine ⟨front, rest, h, hlist, fun b hb => ?_⟩
  have hordered := h.ordered
  rw [hlist] at hordered
  have := (List.pairwise_append.1 hordered).2.2 b hb a List.mem_cons_self
  exact this.resolve_right hfresh

/-- The label after a call of `nextOptional`. -/
def Label.hand (label : Label) (x : Option (Option Str)) : Label :=
  { label with seen := label.seen ++ x.toList }

@[simp] lemma hand_none (label : Label) : label.hand none = label := by
  simp [Label.hand]

/-- Reading an element behind quiet objects. -/
lemma exec_readItem (seen pending : List (Option Str)) (h : Front labels c front (a :: rest))
    (hitems : ∀ d ∈ pending, BulkFits d)
    (ho : c.replies a = ⟨true, .multiBulk true pending.length []⟩)
    (hlabel : labels a = some ⟨.multiBulk (seen ++ pending), seen⟩) : ∃ c',
      Returns (readItem a pending.length) c pending.head? c' ∧
      Synced (Function.update labels a
        (some (Label.hand ⟨.multiBulk (seen ++ pending), seen⟩ pending.head?))) c' := by
  obtain ⟨ws, hws, hstream⟩ := h.stream
  cases pending with
  | nil =>
    refine ⟨_, returns_readItem_nil ho, ?_⟩
    have ht : Tracks ⟨false, .multiBulk true 0 []⟩ (labels a) := hlabel ▸ .drained false seen []
    have hquiet : Quiet (c.replies a) := .inr ⟨[], by rw [ho]; rfl⟩
    have hsynced := h.synced.replace hquiet ht (quiet_of_conn rfl) (fun hconn => by cases hconn)
    rw [List.head?_nil, hand_none, ← hlabel]
    exact hsynced.leave (by simp)
  | cons d pending =>
    -- the element moves from what is left of the answer to what has been seen
    obtain ⟨hd, hitems⟩ := List.forall_mem_cons.1 hitems
    rw [List.flatMap_cons, Connection.left, ho, hlabel, left_started, List.flatMap_cons,
      List.append_assoc] at hstream
    refine ⟨_, returns_readItem_cons ho hstream hws hd, ?_⟩
    have ht : Tracks ⟨true, .multiBulk true pending.length []⟩
        (some ⟨.multiBulk ((seen ++ [d]) ++ pending), seen ++ [d]⟩) := .started hitems
    have hbusy : ¬ Quiet (c.replies a) := by
      rw [ho]
      rintro (hconn | ⟨x, hx⟩)
      · cases hconn
      · have := (Body.multiBulk.inj hx).2.1
        simp only [List.length_cons] at this
        omega
    have hread := h.read ht (.inr hbusy) blank_crlf
    rw [left_started, List.append_assoc] at hread
    exact hread.synced

/-- Reading the head of a list. -/
lemma exec_readHeader {c₁ : Connection} (hclear : Returns (clearPendingResults R a) c () c₁)
    (h : Front labels c₁ front (a :: rest)) (ho : c₁.replies a = ⟨true, .multiBulk false 0 []⟩)
    (hlabel : labels a = some ⟨.multiBulk items, []⟩) (hlength : items.length < 2 ^ 31)
    (hitems : ∀ d ∈ items, BulkFits d) : ∃ c₂,
      Returns (readHeader R a false 0) c items.length c₂ ∧ Front labels c₂ front (a :: rest) ∧
      c₂.replies a = ⟨true, .multiBulk true items.length []⟩ := by
  obtain ⟨ws, hws, hstream⟩ := h.stream
  rw [List.flatMap_cons, Connection.left, ho, hlabel] at hstream
  refine ⟨_, returns_readHeader hclear ho hstream hws hlength, ?_, set_self _ _ _ _⟩
  have ht : Tracks ⟨true, .multiBulk true items.length []⟩ (labels a) :=
    hlabel ▸ @Tracks.started [] items hitems
  have hbusy : ¬ Quiet (c₁.replies a) := by
    rw [ho]
    rintro (hconn | ⟨x, hx⟩)
    · cases hconn
    · cases hx
  have hread := h.read ht (.inr hbusy) blank_crlf
  have hleft := left_started [] items []
  rw [List.nil_append] at hleft
  rwa [Function.update_eq_self, hlabel, hleft] at hread

/-- **An enumerator hands out the elements of its own answer, in order**, if there is no error in
front that it meets first; such an error is thrown, and the connection stays in step. -/
theorem exec_nextOptional (h : Synced labels c)
    (hlabel : labels a = some ⟨.multiBulk items, seen⟩) :
    (∃ c', Returns (nextOptional a) c (items.drop seen.length).head? c' ∧
      Synced (Function.update labels a
        (some (Label.hand ⟨.multiBulk items, seen⟩ (items.drop seen.length).head?))) c') ∨
    ∃ line c', Fresh (c.replies a) ∧ c.firstError labels (c.inFront a) = some line ∧
      Throws (nextOptional a) c (errorText line) c' ∧ Synced labels c' := by
  have ht := h.tracks a
  rw [hlabel] at ht
  rcases ht.cases_of_items with ⟨ho, rfl, hlength, hitems⟩ | ⟨pending, rfl, hitems, ho⟩ |
    ⟨conn, pending, rfl, ho⟩
  -- only the first call clears what is in front
  · have hconn : (c.replies a).conn = true := by rw [ho]
    obtain ⟨c₁, front, mid, rest, hclear, hfront, hmid, hsame⟩ :=
      exec_clearPendingResults h hconn (length_pos_of_conn h hconn)
    cases herror : c.firstError labels (c.inFront a) with
    | none =>
      rw [herror] at hclear
      obtain ⟨c₂, hheader, hfront₂, ho₂⟩ := exec_readHeader hclear (hfront.of_clear (hmid herror))
        (hsame.trans ho) hlabel hlength hitems
      obtain ⟨c', hread, hsynced⟩ := exec_readItem [] items hfront₂ hitems ho₂ hlabel
      refine .inl ⟨c', (returns_look _ c).bind ?_, hsynced⟩
      exact (exec_nextOptionalWith_fresh ho hheader).trans hread
    | some line =>
      rw [herror] at hclear
      refine .inr ⟨line, c₁, ⟨hconn, by rw [ho]; rfl⟩, rfl, ?_, hfront.synced⟩
      refine (returns_look _ c).throws ((returns_reply a c).throws ?_)
      simp only [ho, if_true]
      exact Throws.bind (Throws.bind hclear)
  · obtain ⟨front, rest, hfront⟩ := exists_front_of_not_fresh h (a := a) (by rw [ho])
      (by rw [ho]; rintro ⟨-, hbody⟩; cases hbody)
    obtain ⟨c', hread, hsynced⟩ := exec_readItem seen pending hfront hitems ho hlabel
    rw [List.drop_left]
    refine .inl ⟨c', (returns_look _ c).bind ?_, hsynced⟩
    exact (exec_nextOptionalWith_started ho).trans hread
  -- the answer has been read, by the enumerator itself or by a later reply
  · left
    rw [List.drop_left]
    cases pending with
    | cons d pending =>
      have ht' : Tracks ⟨conn, .multiBulk true 0 pending⟩
          (some ⟨.multiBulk ((seen ++ [d]) ++ pending), seen ++ [d]⟩) := .drained conn _ pending
      rw [List.append_assoc] at ht'
      refine ⟨_, (returns_look _ c).bind ((returns_reply a c).bind ?_),
        h.replace (.inr ⟨d :: pending, by rw [ho]⟩) ht' (.inr ⟨pending, rfl⟩) (by simp [ho])⟩
      simp only [ho]
      refine (returns_setBody a _ c).bind ?_
      rw [ho]
      exact returns_pure (some d) _
    | nil =>
      cases conn with
      | false =>
        refine ⟨c, (returns_look _ c).bind ((returns_reply a c).bind ?_), ?_⟩
        · simp only [ho, Bool.false_eq_true, if_false]
          exact returns_pure none c
        · rwa [List.head?_nil, hand_none, ← hlabel, Function.update_eq_self]
      | true =>
        obtain ⟨front, rest, hfront⟩ := exists_front_of_not_fresh h (a := a) (by rw [ho])
          (by rw [ho]; rintro ⟨-, hbody⟩; cases hbody)
        obtain ⟨c', hread, hsynced⟩ := exec_readItem seen [] hfront (by simp) ho hlabel
        exact ⟨c', (returns_look _ c).bind ((exec_nextOptionalWith_started ho).trans hread),
          hsynced⟩

end Reading

end ChannelServer.Redis
