/-
Moving and destroying the objects for replies.

A copy and an assignment move a reply to another address: the object there takes the place in the
list.  `exec_copy` and `exec_assign` say that the connection stays in step.  A destructor does not
always: `exec_destroy` gives the exact condition under which it reads all that is left of the
answer of its object.
-/
import ChannelServer.Redis.Reading

namespace ChannelServer.Redis

open Scanning Throwing

/-- The labels after a reply has moved from `b` to `a`. -/
def moveLabel (labels : ℕ → Option Label) (a b : ℕ) : ℕ → Option Label :=
  Function.update (Function.update labels a (labels b)) b none

section Moving

variable {labels : ℕ → Option Label} {c : Connection} {a b : ℕ} {body body' : Body}

/-- An address after `a` has taken the place of `b`. -/
def renamed (a b d : ℕ) : ℕ := if d = b then a else d

/-- The list with `a` inserted in front of `b`, and `b` taken out. -/
lemma erase_insertBefore {l : List ℕ} (hab : a ≠ b) (hb : b ∈ l) (hnodup : l.Nodup) :
    (insertBefore a b l).erase b = l.map (renamed a b) := by
  obtain ⟨front, rest, rfl⟩ := List.append_of_mem hb
  have hfront : ∀ d ∈ front, d ≠ b := fun d hd hdb =>
    (notMem_of_nodup_middle hnodup).1 (hdb ▸ hd)
  have hrest : ∀ d ∈ rest, d ≠ b := fun d hd hdb =>
    (notMem_of_nodup_middle hnodup).2 (hdb ▸ hd)
  have hdrop : (front ++ b :: rest).dropWhile (fun d => decide (d ≠ b)) = b :: rest := by
    rw [List.dropWhile_append_of_pos fun d hd => decide_eq_true (hfront d hd)]
    simp
  have hmem : b ∉ front ++ [a] := by
    rw [List.mem_append, List.mem_singleton]
    rintro (hd | hba)
    · exact hfront b hd rfl
    · exact hab hba.symm
  have hsame : ∀ l : List ℕ, (∀ d ∈ l, d ≠ b) → l.map (renamed a b) = l := fun l hl =>
    (List.map_congr_left fun d hd => if_neg (hl d hd)).trans (List.map_id' l)
  rw [insertBefore, takeWhile_ne hnodup, hdrop, List.append_cons, List.erase_append_right _ hmem,
    List.erase_cons_head, List.map_append, List.map_cons, hsame front hfront, hsame rest hrest,
    renamed, if_pos rfl]
  exact List.append_assoc front [a] rest

/-- The connection stays in step when an object takes the place of another one. -/
theorem Synced.move (h : Synced labels c) (hab : a ≠ b) (ha : a ∉ c.outstandingReplies)
    (hb : b ∈ c.outstandingReplies) :
    Synced (moveLabel labels a b)
      { c with
        replies := Function.update (Function.update c.replies a (c.replies b)) b ⟨false, body⟩
        outstandingReplies := c.outstandingReplies.map (renamed a b) } := by
  set replies := Function.update (Function.update c.replies a (c.replies b)) b ⟨false, body⟩
    with hreplies
  have hreply : ∀ d ∈ c.outstandingReplies, replies (renamed a b d) = c.replies d := by
    intro d hd
    by_cases hdb : d = b
    · subst hdb
      rw [renamed, if_pos rfl, hreplies, Function.update_of_ne hab, Function.update_self]
    · have hda : d ≠ a := fun hda => ha (hda ▸ hd)
      rw [renamed, if_neg hdb, hreplies, Function.update_of_ne hdb, Function.update_of_ne hda]
  have hlabel : ∀ d ∈ c.outstandingReplies, moveLabel labels a b (renamed a b d) = labels d := by
    intro d hd
    by_cases hdb : d = b
    · subst hdb
      rw [renamed, if_pos rfl, moveLabel, Function.update_of_ne hab, Function.update_self]
    · have hda : d ≠ a := fun hda => ha (hda ▸ hd)
      rw [renamed, if_neg hdb, moveLabel, Function.update_of_ne hdb, Function.update_of_ne hda]
  refine ⟨List.Nodup.map_on (fun x hx y hy hxy => ?_) h.nodup, ?_, ?_, ?_, ?_⟩
  · have hxa : x ≠ a := fun hxa => ha (hxa ▸ hx)
    have hya : y ≠ a := fun hya => ha (hya ▸ hy)
    simp only [renamed] at hxy
    split_ifs at hxy with hxb hyb hyb
    · rw [hxb, hyb]
    · exact (hya hxy.symm).elim
    · exact (hxa hxy).elim
    · exact hxy
  · have htracks : ∀ d, Tracks (Function.update c.replies a (c.replies b) d)
        (Function.update labels a (labels b) d) := tracks_update h.tracks (h.tracks b)
    intro d
    by_cases hdb : d = b
    · subst hdb
      simp only [hreplies, moveLabel, Function.update_self]
      exact .idle body
    · simp only [hreplies, moveLabel, Function.update_of_ne hdb]
      exact htracks d
  · intro d hd
    by_cases hdb : d = b
    · subst hdb
      simp [hreplies] at hd
    · by_cases hda : d = a
      · exact List.mem_map.2 ⟨b, hb, by rw [renamed, if_pos rfl, hda]⟩
      · simp only [hreplies, Function.update_of_ne hdb, Function.update_of_ne hda] at hd
        exact List.mem_map.2 ⟨d, h.listed d hd, if_neg hdb⟩
  -- the place in the list is the old one, so that the order of the answers is kept
  · refine List.pairwise_map.2 (h.ordered.imp_of_mem fun {x y} hx hy hxy => ?_)
    show Quiet (replies (renamed a b x)) ∨ Fresh (replies (renamed a b y))
    rwa [hreply x hx, hreply y hy]
  · obtain ⟨ws, hws, hstream⟩ := h.stream
    refine ⟨ws, hws, hstream.trans ?_⟩
    congr 2
    rw [List.flatMap_map]
    refine List.flatMap_congr fun d hd => ?_
    simp only [Connection.left]
    rw [hreply d hd, hlabel d hd]

/-- The list after the reply at `b` has moved to `a`. -/
def Connection.movedList (c : Connection) (a b : ℕ) : List ℕ :=
  (if (c.replies b).conn = true then insertBefore a b c.outstandingReplies
    else c.outstandingReplies).erase b

/-- The connection stays in step when a reply moves, whether it has been read or not. -/
theorem synced_move {c' : Connection} (body : Body) (h : Synced labels c) (hab : a ≠ b)
    (ha : a ∉ c.outstandingReplies)
    (hreplies : c'.replies =
      Function.update (Function.update c.replies a (c.replies b)) b ⟨false, body⟩)
    (hlist : c'.outstandingReplies = c.movedList a b) (hstream : c'.stream = c.stream) :
    Synced (moveLabel labels a b) c' := by
  by_cases hb : (c.replies b).conn = true
  · have hmem := h.listed b hb
    rw [Connection.movedList, if_pos hb, erase_insertBefore hab hmem h.nodup] at hlist
    exact (h.move hab ha hmem).congr hreplies hlist hstream
  · rw [Bool.not_eq_true] at hb
    have hquiet : Quiet (c.replies a) :=
      quiet_of_conn (Bool.not_eq_true _ ▸ fun hconn => ha (h.listed a hconn))
    have hmoved := h.replace hquiet (h.tracks b) (quiet_of_conn hb) (by simp [hb])
    have hidle := hmoved.replace (a := b)
      (quiet_of_conn (by simp [Function.update_of_ne hab.symm, hb])) (.idle body)
      (quiet_of_conn rfl) (fun hconn => by cases hconn)
    rw [Connection.movedList, if_neg (by simp [hb])] at hlist
    exact (hidle.leave (by simp)).congr hreplies hlist hstream

/-- The connection after `a` has taken the place of `b`. -/
def Connection.place (c : Connection) (a b : ℕ) : Connection :=
  { c with
    replies := Function.update
      (Function.update c.replies a ⟨(c.replies b).conn, (c.replies a).body⟩) b
      ⟨false, (c.replies b).body⟩
    outstandingReplies := c.movedList a b }

lemma returns_takePlace (hab : a ≠ b) (c : Connection) :
    Returns (takePlace a b) c () (c.place a b) := by
  have hb : ∀ o, Function.update c.replies a o b = c.replies b :=
    fun o => Function.update_of_ne hab.symm o c.replies
  refine (returns_reply b c).bind ((returns_setConn a _ c).bind ?_)
  by_cases hconn : (c.replies b).conn = true
  · rw [if_pos hconn]
    refine (returns_change _ _).bind ((returns_setConn b false _).bind ?_)
    simpa [Connection.place, Connection.movedList, Connection.leave, hconn, hb] using
      returns_unlink b _
  · rw [if_neg hconn]
    refine (returns_setConn b false _).bind ?_
    simpa [Connection.place, Connection.movedList, Connection.leave, hconn, hb] using
      returns_unlink b _

lemma place_replies_right (c : Connection) (a b : ℕ) :
    (c.place a b).replies b = ⟨false, (c.replies b).body⟩ := by
  simp [Connection.place]

/-- The connection after the reply at `b` has moved to `a`, with what was stored. -/
def Connection.moved (c : Connection) (a b : ℕ) : Connection :=
  { c with
    replies := Function.update (Function.update c.replies a (c.replies b)) b
      ⟨false, (c.replies b).body⟩
    outstandingReplies := c.movedList a b }

/-- When `a` also stores what was stored at `b`, the reply has moved. -/
lemma returns_setBody_place (hab : a ≠ b) (c : Connection) :
    Returns (setBody a (c.replies b).body) (c.place a b) () (c.moved a b) := by
  have hreplies : Function.update (c.place a b).replies a
      { (c.place a b).replies a with body := (c.replies b).body } = (c.moved a b).replies := by
    funext d
    by_cases hda : d = a
    · subst hda
      simp [Connection.place, Connection.moved, Function.update_of_ne hab]
    · by_cases hdb : d = b
      · subst hdb
        simp [Connection.place, Connection.moved, Function.update_of_ne hda]
      · simp [Connection.place, Connection.moved, Function.update_of_ne hda,
          Function.update_of_ne hdb]
  have hset := returns_setBody a (c.replies b).body (c.place a b)
  rw [hreplies] at hset
  exact hset

/-- **A copy keeps the connection in step**, when its address is free. -/
theorem exec_copy (h : Synced labels c) (hab : a ≠ b) (ha : a ∉ c.outstandingReplies) :
    ∃ c', Returns (copy a b) c () c' ∧ Synced (moveLabel labels a b) c' := by
  have hright := place_replies_right c a b
  have hset := returns_setBody_place hab c
  cases hbody : (c.replies b).body with
  | multiBulk headerDone count pending =>
    rw [hbody] at hright hset
    refine ⟨{ c.moved a b with
        replies := Function.update (c.moved a b).replies b
          ⟨false, .multiBulk headerDone count []⟩ },
      (returns_takePlace hab c).bind ((returns_reply b _).bind ?_),
      synced_move (.multiBulk headerDone count []) h hab ha ?_ rfl rfl⟩
    · rw [hright]
      refine hset.bind ?_
      simpa [Connection.moved] using
        returns_setBody b (.multiBulk headerDone count []) (c.moved a b)
    · simp [Connection.moved]
  | _ =>
    rw [hbody] at hright hset
    refine ⟨c.moved a b, (returns_takePlace hab c).bind ((returns_reply b _).bind ?_),
      synced_move _ h hab ha rfl rfl rfl⟩
    rw [hright]
    exact hset.bind (returns_pure () _)

/-! ### Skipping the rest of an enumerator -/

/-- `next` hands out the elements that are not null. -/
lemma returns_next {x : Option (Option Str)} {c' : Connection}
    (hx : ∀ d, x = some d → d.isSome = true)
    (hnext : ∀ R, Returns (nextOptionalWith R a) c x c') :
    Returns (next a) c (x.map fun d => d.getD []) c' := by
  have hoptional : Returns (nextOptional a) c x c' := (returns_look _ c).bind (hnext _)
  refine hoptional.bind ?_
  cases x with
  | none => exact returns_pure none c'
  | some d =>
    cases d with
    | none => cases hx none rfl
    | some out => exact returns_pure (some out) c'

/-- `next` throws at an element that is null, which has been read. -/
lemma throws_next {c' : Connection} (hnext : ∀ R, Returns (nextOptionalWith R a) c (some none) c') :
    Throws (next a) c (lit "Casting null bulk reply to string") c' := by
  have hoptional : Returns (nextOptional a) c (some none) c' := (returns_look _ c).bind (hnext _)
  exact hoptional.throws (throws_throw _ c')

/-- A loop over an enumerator stops behind the first null element. -/
lemma throws_collect {xs ys : List (Option Str)} {ws more : Str}
    (hxs : ∀ d ∈ xs, BulkFits d ∧ d.isSome = true)
    (ho : c.replies a = ⟨true, .multiBulk true (xs ++ none :: ys).length []⟩)
    (hstream : c.stream = ⟨ws ++ ((xs ++ none :: ys).flatMap bulkBytes ++ more), false⟩)
    (hws : Blank ws) {k : ℕ} (hk : xs.length < k) :
    Throws (collect (next a) k) c (lit "Casting null bulk reply to string")
      (c.set a ⟨true, .multiBulk true ys.length []⟩ (crlf ++ (ys.flatMap bulkBytes ++ more))) := by
  induction xs generalizing c ws k with
  | nil =>
    cases k with
    | zero => cases hk
    | succ k =>
      have ho' : c.replies a = ⟨true, .multiBulk true (ys.length + 1) []⟩ := ho
      refine (throws_next fun R => ?_).bind
      exact (exec_nextOptionalWith_started ho').trans
        (returns_readItem_cons ho' (by simpa using hstream) hws trivial)
  | cons d xs ih =>
    cases k with
    | zero => cases hk
    | succ k =>
      obtain ⟨⟨hd, hsome⟩, hxs⟩ := List.forall_mem_cons.1 hxs
      have ho' : c.replies a = ⟨true, .multiBulk true ((xs ++ none :: ys).length + 1) []⟩ := ho
      rw [List.cons_append, List.flatMap_cons, List.append_assoc] at hstream
      have hitem := returns_next (a := a) (x := some d) (by simpa using hsome) fun R =>
        (exec_nextOptionalWith_started ho').trans (returns_readItem_cons ho' hstream hws hd)
      have hrest := ih hxs (c := c.set a ⟨true, .multiBulk true (xs ++ none :: ys).length []⟩
        (crlf ++ ((xs ++ none :: ys).flatMap bulkBytes ++ more))) (set_self _ _ _ _) rfl blank_crlf
        (by simpa using hk)
      rw [set_set] at hrest
      exact hitem.throws hrest.bind

variable {front rest : List ℕ} {seen items : List (Option Str)}

/-- **The rest of a list without null elements is skipped**, and the enumerator leaves the list. -/
lemma returns_skipRest (h : Front labels c front (a :: rest)) (hitems : ∀ d ∈ items, BulkFits d)
    (ho : c.replies a = ⟨true, .multiBulk true items.length []⟩)
    (hlabel : labels a = some ⟨.multiBulk (seen ++ items), seen⟩) (hnull : none ∉ items) :
    ∃ c', Returns (skipRest a) c () c' ∧ Quiet (c'.replies a) ∧
      (∀ b, b ≠ a → c'.replies b = c.replies b) ∧
      Synced (Function.update labels a
        (some ⟨.multiBulk (seen ++ items), seen ++ items⟩)) c' := by
  obtain ⟨ws, hws, hstream⟩ := h.stream
  rw [List.flatMap_cons, Connection.left, ho, hlabel, left_started] at hstream
  have hsome : ∀ d ∈ items, BulkFits d ∧ d.isSome = true := fun d hd =>
    ⟨hitems d hd, Option.isSome_iff_ne_none.2 fun hnone => hnull (hnone ▸ hd)⟩
  have hnext : ∀ c x c', (∀ d, x = some d → d.isSome = true) →
      (∀ R, Returns (nextOptionalWith R a) c x c') →
      Returns (next a) c (x.map fun d => d.getD []) c' := fun _ _ _ => returns_next
  obtain ⟨ws', hws', hread⟩ := returns_collect (P := fun d => d.isSome = true) hnext hsome ho
    hstream hws (k := items.length + 1) (by omega)
  have ht : Tracks ⟨false, .multiBulk true 0 []⟩
      (some ⟨.multiBulk ((seen ++ items) ++ []), seen ++ items⟩) :=
    .drained false (seen ++ items) []
  rw [List.append_nil] at ht
  have hfront := h.read ht (.inl (.inl rfl)) hws'
  rw [(quiet_of_conn rfl).left_eq ht, List.nil_append] at hfront
  refine ⟨_, (returns_reply a c).bind ?_, .inl ?_, fun b hb => Function.update_of_ne hb _ _,
    (hfront.leave (by simp)).synced⟩
  · rw [ho]
    simp only [ReplyObject.remaining, List.length_nil, Int.toNat_natCast, Nat.zero_add]
    exact hread.bind (returns_pure () _)
  · simp [Connection.leave]

/-- A null element stops the skipping; what is behind it stays in the stream. -/
lemma throws_skipRest {xs ys : List (Option Str)} (h : Front labels c front (a :: rest))
    (hitems : ∀ d ∈ xs ++ none :: ys, BulkFits d)
    (ho : c.replies a = ⟨true, .multiBulk true (xs ++ none :: ys).length []⟩)
    (hlabel : labels a = some ⟨.multiBulk (seen ++ (xs ++ none :: ys)), seen⟩) (hnull : none ∉ xs) :
    ∃ c', Throws (skipRest a) c (lit "Casting null bulk reply to string") c' ∧
      c'.replies a = ⟨true, .multiBulk true ys.length []⟩ ∧
      (∀ b, b ≠ a → c'.replies b = c.replies b) ∧
      Synced (Function.update labels a
        (some ⟨.multiBulk (seen ++ (xs ++ none :: ys)), seen ++ (xs ++ [none])⟩)) c' := by
  obtain ⟨ws, hws, hstream⟩ := h.stream
  rw [List.flatMap_cons, Connection.left, ho, hlabel, left_started] at hstream
  have hsome : ∀ d ∈ xs, BulkFits d ∧ d.isSome = true := fun d hd =>
    ⟨hitems d (List.mem_append_left _ hd),
      Option.isSome_iff_ne_none.2 fun hnone => hnull (hnone ▸ hd)⟩
  have hlength : (xs ++ none :: ys).length = xs.length + (ys.length + 1) := by simp
  have hread := throws_collect hsome ho hstream hws (k := (xs ++ none :: ys).length + 1) (by omega)
  have hys : ∀ d ∈ ys, BulkFits d := fun d hd =>
    hitems d (List.mem_append_right _ (List.mem_cons_of_mem _ hd))
  have ht : Tracks ⟨true, .multiBulk true ys.length []⟩
      (some ⟨.multiBulk ((seen ++ (xs ++ [none])) ++ ys), seen ++ (xs ++ [none])⟩) := .started hys
  have hbusy : ¬ Quiet (c.replies a) := by
    rw [ho]
    rintro (hconn | ⟨x, hx⟩)
    · cases hconn
    · have := (Body.multiBulk.inj hx).2.1
      omega
  have hfront := h.read ht (.inr hbusy) blank_crlf
  have hsplit : (seen ++ (xs ++ [none])) ++ ys = seen ++ (xs ++ none :: ys) := by simp
  rw [left_started, hsplit] at hfront
  refine ⟨_, (returns_reply a c).throws ?_, set_self _ _ _ _,
    fun b hb => Function.update_of_ne hb _ _, hfront.synced⟩
  rw [ho]
  simp only [ReplyObject.remaining, List.length_nil, Int.toNat_natCast, Nat.zero_add]
  exact hread.bind

/-! ### Taking an object out of the list -/

/-- A text that is empty or starts with what is not space. -/
def Starts (s : Str) : Prop := ∀ ch, s.head? = some ch → isSpace ch = false

lemma starts_nil : Starts [] := by
  intro ch hch
  cases hch

lemma Starts.append {s t : Str} (hs : Starts s) (ht : Starts t) : Starts (s ++ t) := by
  cases s with
  | nil => exact ht
  | cons x s => exact hs

lemma Starts.flatMap {α : Type} {f : α → Str} (hf : ∀ x, Starts (f x)) (l : List α) :
    Starts (l.flatMap f) := by
  induction l with
  | nil => exact starts_nil
  | cons x l ih =>
    rw [List.flatMap_cons]
    exact (hf x).append ih

lemma starts_bulkBytes (d : Option Str) : Starts (bulkBytes d) := by
  intro ch hch
  cases d <;> (cases hch; rfl)

lemma starts_bytes (answer : Reply) : Starts answer.bytes := by
  cases answer with
  | bulk data => exact starts_bulkBytes data
  | _ => intro ch hch; cases hch; rfl

lemma starts_left (o : ReplyObject) (label : Option Label) : Starts (left o label) := by
  unfold left
  split
  · exact .flatMap starts_bulkBytes _
  · exact starts_bytes _
  · exact starts_nil

/-- Texts that start with what is not space are not hidden in space. -/
lemma blank_append_ne {ws ws' s t : Str} (hws : Blank ws) (hws' : Blank ws') (ht : t ≠ [])
    (hstarts : Starts (s ++ t)) : ws ++ (s ++ t) ≠ ws' ++ s := by
  intro heq
  have hlength := congrArg List.length heq
  simp only [List.length_append] at hlength
  have hpos := List.length_pos_iff.2 ht
  cases hst : s ++ t with
  | nil => exact ht (List.append_eq_nil_iff.1 hst).2
  | cons ch more =>
    rw [hst] at heq hstarts
    have hdrop := congrArg (List.dropWhile isSpace) heq
    rw [dropWhile_blank hws (hstarts ch rfl), List.dropWhile_append_of_pos hws', ← hst] at hdrop
    have hle := (List.dropWhile_sublist isSpace (l := s)).length_le
    rw [← hdrop, List.length_append] at hle
    omega

/-- The connection after the object at `a` is gone. -/
def Connection.drop (c : Connection) (a : ℕ) : Connection :=
  { c with
    replies := Function.update c.replies a { c.replies a with conn := false }
    outstandingReplies := c.outstandingReplies.erase a }

lemma Tracks.quiet_iff {o : ReplyObject} {label : Option Label} (h : Tracks o label) :
    Quiet o ↔ left o label = [] := by
  refine ⟨fun hq => hq.left_eq h, fun hleft => ?_⟩
  by_contra hq
  rcases h.cases_of_not_quiet hq with ⟨kind, answer, -, rfl, rfl⟩ | ⟨seen, d, rest, -, rfl, rfl⟩
  · rw [left_initial] at hleft
    exact answer.bytes_ne_nil hleft
  · rw [left_started, List.flatMap_cons] at hleft
    exact bulkBytes_ne_nil d (List.append_eq_nil_iff.1 hleft).1

/-- **The connection stays in step without an object if and only if the object has nothing to
read.** -/
theorem synced_drop_iff (h : Synced labels c) :
    Synced (Function.update labels a none) (c.drop a) ↔ Quiet (c.replies a) := by
  refine ⟨fun hdrop => ?_, fun hq => ?_⟩
  · by_contra hq
    have hconn : (c.replies a).conn = true := by
      by_contra hconn
      exact hq (.inl (Bool.not_eq_true _ ▸ hconn))
    obtain ⟨front, rest, hlist⟩ := List.append_of_mem (h.listed a hconn)
    have hnodup := h.nodup
    rw [hlist] at hnodup
    obtain ⟨ws, hws, hstream⟩ := h.stream
    obtain ⟨ws', hws', hstream'⟩ := hdrop.stream
    have hsame : ∀ l : List ℕ, a ∉ l → l.flatMap ((c.drop a).left (Function.update labels a none)) =
        l.flatMap (c.left labels) := fun l hl => flatMap_left_update rfl hl
    obtain ⟨hfront, hrest⟩ := notMem_of_nodup_middle hnodup
    have hlist' : (c.drop a).outstandingReplies = front ++ rest := by
      rw [Connection.drop, hlist, erase_middle hnodup]
    -- the stream is the same, but nobody is left to read the answer of the object
    have heq : c.stream = (c.drop a).stream := rfl
    rw [hstream, hstream', hlist, hlist', List.flatMap_append, List.flatMap_append,
      hsame front hfront, hsame rest hrest, List.flatMap_cons] at heq
    have hrests := congrArg Stream.rest heq
    simp only [← List.append_assoc] at hrests
    have hcancel := List.append_cancel_right hrests
    rw [List.append_assoc] at hcancel
    refine blank_append_ne hws hws' (fun hleft => hq ((h.tracks a).quiet_iff.2 hleft)) ?_ hcancel
    exact (Starts.flatMap (fun b => starts_left _ _) front).append (starts_left _ _)
  · have hidle := h.replace hq (.idle (c.replies a).body) (quiet_of_conn rfl)
      (fun hconn => by cases hconn)
    exact hidle.leave (by simp)

/-! ### Destructors -/

/-- The answer of an object can be read to its end by its destructor: an enumerator has read the
head of its list and has no null element to read except the last one, and no other object has an
error in front of it. -/
def Connection.Released (labels : ℕ → Option Label) (c : Connection) (a : ℕ) : Prop :=
  (c.replies a).conn = true →
    match c.replies a, labels a with
    | ⟨_, .multiBulk headerDone count _⟩, some ⟨.multiBulk items, _⟩ =>
      headerDone = true ∧ none ∉ (lastItems count items).dropLast
    | _, _ => c.firstError labels (c.inFront a) = none

/-- An enumerator can be overwritten: it has read the head of its list, and has no null element to
read. -/
def Connection.Skippable (labels : ℕ → Option Label) (c : Connection) (a : ℕ) : Prop :=
  (c.replies a).conn = true →
    match c.replies a, labels a with
    | ⟨_, .multiBulk headerDone count _⟩, some ⟨.multiBulk items, _⟩ =>
      headerDone = true ∧ none ∉ lastItems count items
    | _, _ => False

lemma exec_readRest_simple (hkind : (c.replies a).body.kind ≠ .multiBulk) :
    exec (readRest a) c = exec (result a) c := by
  rw [readRest, (returns_reply a c).exec_bind]
  cases hbody : (c.replies a).body with
  | multiBulk => exact (hkind (by rw [hbody]; rfl)).elim
  | _ => rfl

/-- An enumerator of which nothing was announced, or nothing is left, reads nothing. -/
lemma returns_readRest_of_count {o : ReplyObject} {headerDone : Bool} {count : ℤ}
    {pending : List (Option Str)} (ho : c.replies a = o)
    (hbody : o.body = .multiBulk headerDone count pending) (hcount : o.conn = true → count ≤ 0) :
    Returns (readRest a) c () c := by
  refine (returns_reply a c).bind ?_
  rw [ho, hbody]
  dsimp only
  rw [if_neg fun h => by have := hcount h.1; omega]
  exact returns_pure () c

lemma Tracks.cases_of_simple {o : ReplyObject} {label : Option Label} (h : Tracks o label)
    (hconn : o.conn = true) (hkind : o.body.kind ≠ .multiBulk) :
    ∃ kind answer, kind ≠ .multiBulk ∧ Kind.Matches kind answer ∧ o = ⟨true, kind.initial⟩ ∧
      label = some ⟨answer, []⟩ := by
  cases h with
  | idle | stored | thrown => cases hconn
  | @unread kind answer h =>
    exact ⟨kind, answer, by simpa using hkind, h, rfl, rfl⟩
  | started | drained => exact (hkind rfl).elim

lemma released_of_simple (hkind : (c.replies a).body.kind ≠ .multiBulk) :
    c.Released labels a ↔
      ((c.replies a).conn = true → c.firstError labels (c.inFront a) = none) := by
  unfold Connection.Released
  generalize c.replies a = o at hkind ⊢
  obtain ⟨conn, body⟩ := o
  cases body with
  | multiBulk => exact (hkind rfl).elim
  | _ => rfl

lemma released_of_conn (hconn : (c.replies a).conn = false) : c.Released labels a := by
  intro htrue
  rw [hconn] at htrue
  cases htrue

/-- An object that is not an enumerator reads its answer, or throws the first error in front. -/
lemma exec_readRest_of_simple (h : Synced labels c) (hkind : (c.replies a).body.kind ≠ .multiBulk) :
    ∃ x c₁, exec (readRest a) c = some (x, c₁) ∧ Synced labels c₁ ∧
      (x = .ok () → Quiet (c₁.replies a)) ∧ (Quiet (c₁.replies a) ↔ c.Released labels a) := by
  rw [exec_readRest_simple hkind, released_of_simple hkind]
  by_cases hconn : (c.replies a).conn = true
  · obtain ⟨kind, answer, hne, hm, ho, hlabel⟩ := (h.tracks a).cases_of_simple hconn hkind
    rcases exec_result h ho hlabel hne hm with
      ⟨hnone, c₁, front, rest, hread, hfront, hstored⟩ |
      ⟨line, hsome, c₁, front, mid, rest, hread, hfront, hsame⟩
    · have hquiet : Quiet (c₁.replies a) := .inl (by rw [hstored])
      exact ⟨_, c₁, hread, hfront.synced, fun _ => hquiet, fun _ _ => hnone, fun _ => hquiet⟩
    -- an error in front leaves the own answer where it is
    · have hbusy : ¬ Quiet (c₁.replies a) := fun hq =>
        hq.not_fresh (by rw [hsame, ho]; exact ⟨rfl, by simp⟩)
      refine ⟨.error (errorText line), c₁, hread, hfront.synced, nofun,
        fun hq => (hbusy hq).elim, fun hnone => ?_⟩
      rw [hnone hconn] at hsome
      cases hsome
  · rw [Bool.not_eq_true] at hconn
    refine ⟨.ok (), c, returns_result_of_conn hconn, h, fun _ => .inl hconn, fun _ htrue => ?_,
      fun _ => .inl hconn⟩
    rw [hconn] at htrue
    cases htrue

lemma Tracks.cases_of_enumerator {o : ReplyObject} {label : Option Label} (h : Tracks o label)
    (hconn : o.conn = true) (hkind : o.body.kind = .multiBulk) :
    ∃ items seen, label = some ⟨.multiBulk items, seen⟩ := by
  cases h with
  | idle | stored | thrown => cases hconn
  | @unread kind answer h =>
    obtain rfl : kind = .multiBulk := by simpa using hkind
    cases answer with
    | multiBulk items => exact ⟨items, [], rfl⟩
    | _ => exact h.elim
  | @started seen rest => exact ⟨seen ++ rest, seen, rfl⟩
  | drained conn seen pending => exact ⟨seen ++ pending, seen, rfl⟩

lemma released_of_items {headerDone : Bool} {count : ℤ} {pending : List (Option Str)}
    (ho : c.replies a = ⟨true, .multiBulk headerDone count pending⟩)
    (hlabel : labels a = some ⟨.multiBulk items, seen⟩) :
    c.Released labels a ↔ headerDone = true ∧ none ∉ (lastItems count items).dropLast := by
  unfold Connection.Released
  rw [ho, hlabel]
  exact ⟨fun h => h rfl, fun h _ => h⟩

lemma skippable_of_items {headerDone : Bool} {count : ℤ} {pending : List (Option Str)}
    (ho : c.replies a = ⟨true, .multiBulk headerDone count pending⟩)
    (hlabel : labels a = some ⟨.multiBulk items, seen⟩) :
    c.Skippable labels a ↔ headerDone = true ∧ none ∉ lastItems count items := by
  unfold Connection.Skippable
  rw [ho, hlabel]
  exact ⟨fun h => h rfl, fun h _ => h⟩

/-- What the destructor of an enumerator reads, and when it reads it without an exception. -/
lemma exec_readRest_of_items (h : Synced labels c) (hconn : (c.replies a).conn = true)
    (hlabel : labels a = some ⟨.multiBulk items, seen⟩) : ∃ x c₁ label,
    exec (readRest a) c = some (x, c₁) ∧ Synced (Function.update labels a label) c₁ ∧
    (Quiet (c₁.replies a) ↔ c.Released labels a) ∧
    (c.Skippable labels a → x = .ok () ∧ Quiet (c₁.replies a)) ∧
    ∀ b, b ≠ a → c₁.replies b = c.replies b := by
  have hself : Synced (Function.update labels a (labels a)) c := by rwa [Function.update_eq_self]
  have ht := h.tracks a
  rw [hlabel] at ht
  rcases ht.cases_of_items with ⟨ho, rfl, -, -⟩ | ⟨rest, rfl, hitems, ho⟩ | ⟨conn, pending, rfl, ho⟩
  · have hfresh : Fresh (c.replies a) := by
      rw [ho]
      exact ⟨rfl, rfl⟩
    -- the loop of the destructor is not entered while `count` is zero
    rw [released_of_items ho hlabel, skippable_of_items ho hlabel]
    exact ⟨.ok (), c, labels a, returns_readRest_of_count ho rfl (fun _ => Int.le_refl 0), hself,
      ⟨fun hq => (hq.not_fresh hfresh).elim, fun hdone => (Bool.false_ne_true hdone.1).elim⟩,
      fun hdone => (Bool.false_ne_true hdone.1).elim, fun _ _ => rfl⟩
  -- a null element stops the loop, and what is behind it stays unread
  · obtain ⟨front, after, hfront⟩ := exists_front_of_not_fresh h hconn
      (by rw [ho]; rintro ⟨-, hbody⟩; cases hbody)
    rw [released_of_items ho hlabel, skippable_of_items ho hlabel, lastItems_append]
    have hskip : rest ≠ [] → exec (readRest a) c = exec (skipRest a) c := by
      intro hne
      have hpos := List.length_pos_iff.2 hne
      rw [readRest, (returns_reply a c).exec_bind, ho]
      dsimp only
      rw [if_pos ⟨rfl, by omega⟩]
    by_cases hnull : none ∈ rest
    · obtain ⟨xs, ys, rfl, hxs⟩ := List.eq_append_cons_of_mem hnull
      obtain ⟨c₁, hread, ho₁, hframe, hsynced⟩ := throws_skipRest hfront hitems ho hlabel hxs
      refine ⟨_, c₁, _, (hskip (by simp)).trans hread, hsynced, ?_,
        fun h => (h.2 hnull).elim, hframe⟩
      rw [ho₁, List.dropLast_append_cons]
      cases ys with
      | nil => simpa [Quiet] using hxs
      | cons d ys => simp [Quiet]; omega
    · cases rest with
      | nil =>
        have hquiet : Quiet (c.replies a) := .inr ⟨[], by rw [ho]; rfl⟩
        exact ⟨.ok (), c, labels a, returns_readRest_of_count ho rfl (fun _ => Int.le_refl 0),
          hself, ⟨fun _ => ⟨rfl, by simp⟩, fun _ => hquiet⟩, fun _ => ⟨rfl, hquiet⟩,
          fun _ _ => rfl⟩
      | cons d rest =>
        obtain ⟨c₁, hread, hquiet, hframe, hsynced⟩ :=
          returns_skipRest hfront hitems ho hlabel hnull
        have hlast : none ∉ (d :: rest).dropLast := fun hmem =>
          hnull ((List.dropLast_sublist _).subset hmem)
        exact ⟨_, c₁, _, (hskip (by simp)).trans hread, hsynced,
          ⟨fun _ => ⟨rfl, hlast⟩, fun _ => hquiet⟩, fun _ => ⟨rfl, hquiet⟩, hframe⟩
  · obtain rfl : conn = true := by rwa [ho] at hconn
    have hquiet : Quiet (c.replies a) := .inr ⟨pending, by rw [ho]⟩
    refine ⟨.ok (), c, labels a, returns_readRest_of_count ho rfl (fun _ => Int.le_refl 0), hself,
      ⟨fun _ => ?_, fun _ => hquiet⟩, fun _ => ⟨rfl, hquiet⟩, fun _ _ => rfl⟩
    rw [released_of_items ho hlabel]
    simp [lastItems]

/-- What a destructor reads, before its object leaves the list. -/
lemma exec_readRest (h : Synced labels c) (a : ℕ) : ∃ x c₁ label,
    exec (readRest a) c = some (x, c₁) ∧ Synced (Function.update labels a label) c₁ ∧
    (Quiet (c₁.replies a) ↔ c.Released labels a) := by
  have hself : ∀ c₁, Synced labels c₁ → Synced (Function.update labels a (labels a)) c₁ :=
    fun c₁ h => by rwa [Function.update_eq_self]
  by_cases hkind : (c.replies a).body.kind = .multiBulk
  · by_cases hconn : (c.replies a).conn = true
    · obtain ⟨items, seen, hlabel⟩ := (h.tracks a).cases_of_enumerator hconn hkind
      obtain ⟨x, c₁, label, hread, hsynced, hquiet, -, -⟩ := exec_readRest_of_items h hconn hlabel
      exact ⟨x, c₁, label, hread, hsynced, hquiet⟩
    · rw [Bool.not_eq_true] at hconn
      cases hbody : (c.replies a).body with
      | multiBulk headerDone count pending =>
        refine ⟨.ok (), c, labels a, returns_readRest_of_count rfl hbody fun htrue => ?_, hself c h,
          fun _ => released_of_conn hconn, fun _ => .inl hconn⟩
        rw [hconn] at htrue
        cases htrue
      | _ => rw [hbody] at hkind; cases hkind
  · obtain ⟨x, c₁, hread, hsynced, -, hquiet⟩ := exec_readRest_of_simple h hkind
    exact ⟨x, c₁, labels a, hread, hself c₁ hsynced, hquiet⟩

/-- **The destructor keeps the connection in step if and only if it can read the answer of its
object to the end.** -/
theorem exec_destroy (h : Synced labels c) (a : ℕ) : ∃ c', Returns (destroy a) c () c' ∧
    (Synced (Function.update labels a none) c' ↔ c.Released labels a) := by
  obtain ⟨x, c₁, label, hread, hsynced, hquiet⟩ := exec_readRest h a
  have hdrop := synced_drop_iff (a := a) hsynced
  rw [Function.update_idem, hquiet] at hdrop
  refine ⟨c₁.drop a, ?_, hdrop⟩
  have hattempt : Returns (attempt (readRest a)) c () c₁ := by
    cases x with
    | ok _ => exact Returns.attempt hread
    | error e => exact Throws.attempt hread
  exact hattempt.bind ((returns_unlink a c₁).bind (returns_setConn a false _))

/-! ### Assignments -/

/-- The connection stays in step when a reply moves to an object that has nothing to read. -/
lemma synced_moved (h : Synced labels c) (hab : a ≠ b) (hq : Quiet (c.replies a)) :
    Synced (moveLabel labels a b) ((c.leave a).moved a b) := by
  have hdrop := (synced_drop_iff h).2 hq
  have hb : (c.drop a).replies b = c.replies b := Function.update_of_ne hab.symm _ _
  have ha : a ∉ (c.drop a).outstandingReplies := List.Nodup.not_mem_erase h.nodup
  have hlabels : moveLabel (Function.update labels a none) a b = moveLabel labels a b := by
    rw [moveLabel, moveLabel, Function.update_idem, Function.update_of_ne hab.symm]
  rw [← hlabels]
  refine synced_move (c.replies b).body hdrop hab ha ?_ ?_ rfl
  · rw [hb, Connection.drop, Function.update_idem]
    rfl
  · rw [Connection.movedList, hb]
    rfl

/-- **An assignment keeps the connection in step**, also when the reply that was to be read first
throws. -/
theorem exec_assign (h : Synced labels c) (hab : a ≠ b)
    (hkind : (c.replies a).body.kind ≠ .multiBulk) : ∃ x c', exec (assign a b) c = some (x, c') ∧
      (x = .ok () → Synced (moveLabel labels a b) c') ∧ (x ≠ .ok () → Synced labels c') := by
  obtain ⟨x, c₁, hread, hsynced, hquiet, -⟩ := exec_readRest_of_simple h hkind
  cases x with
  | ok u =>
    refine ⟨.ok (), (c₁.leave a).moved a b, ?_, fun _ => synced_moved hsynced hab (hquiet rfl),
      fun hne => (hne rfl).elim⟩
    refine (Returns.exec_bind hread _).trans ?_
    refine (returns_unlink a c₁).bind ((returns_takePlace hab _).bind ((returns_reply b _).bind ?_))
    rw [place_replies_right]
    exact returns_setBody_place hab _
  | error e =>
    exact ⟨.error e, c₁, Throws.bind hread, nofun, fun _ => hsynced⟩

/-- **The assignment of an enumerator keeps the connection in step** under two conditions: the one
that is overwritten can be skipped, and the other one has nothing pending. -/
theorem exec_assignEnumerator (h : Synced labels c) (hab : a ≠ b) (hskip : c.Skippable labels a)
    (hkind : (c.replies a).body.kind = .multiBulk) {headerDone : Bool} {count : ℤ}
    (hbody : (c.replies b).body = .multiBulk headerDone count []) :
    ∃ c', Returns (assignEnumerator a b) c () c' ∧ Synced (moveLabel labels a b) c' := by
  have hrest : ∃ c₁ label, Returns (readRest a) c () c₁ ∧ c₁.replies b = c.replies b ∧
      Quiet (c₁.replies a) ∧ Synced (Function.update labels a label) c₁ := by
    by_cases hconn : (c.replies a).conn = true
    · obtain ⟨items, seen, hlabel⟩ := (h.tracks a).cases_of_enumerator hconn hkind
      obtain ⟨x, c₁, label, hread, hsynced, -, hok, hframe⟩ :=
        exec_readRest_of_items h hconn hlabel
      obtain ⟨rfl, hquiet⟩ := hok hskip
      exact ⟨c₁, label, hread, hframe b hab.symm, hquiet, hsynced⟩
    · rw [Bool.not_eq_true] at hconn
      obtain ⟨headerDone, count, pending, ho⟩ :
          ∃ headerDone count pending, (c.replies a).body = .multiBulk headerDone count pending := by
        cases ho : (c.replies a).body with
        | multiBulk headerDone count pending => exact ⟨headerDone, count, pending, rfl⟩
        | _ => rw [ho] at hkind; cases hkind
      refine ⟨c, labels a, returns_readRest_of_count rfl ho fun htrue => ?_, rfl, .inl hconn,
        by rwa [Function.update_eq_self]⟩
      rw [hconn] at htrue
      cases htrue
  obtain ⟨c₁, label, hread, hsame, hquiet, hsynced⟩ := hrest
  have hmoved := synced_moved hsynced hab hquiet
  rw [moveLabel, Function.update_idem, Function.update_of_ne hab.symm] at hmoved
  refine ⟨(c₁.leave a).moved a b, hread.bind ((returns_unlink a c₁).bind
    ((returns_takePlace hab _).bind ((returns_reply b _).bind ?_))), hmoved⟩
  have hset := returns_setBody_place hab (c₁.leave a)
  have hb : ((c₁.leave a).replies b).body = .multiBulk headerDone count [] := by
    rw [← hbody, ← hsame]
    rfl
  rw [hb] at hset
  rw [place_replies_right, hb]
  exact hset

end Moving

end ChannelServer.Redis
