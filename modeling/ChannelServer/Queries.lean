/-
The texts of the statements.

`db_connector` prints its statements with `sprintf` into a buffer of 100 bytes, the ids between
quotes as they are.  `Stmt.query` is the text of a statement, and `Stmt.Faithful` says that this
text fits into the buffer, that MySQL reads it as the statement that is meant, and that the rows it
reads or changes are those of the id.  The rest of the model takes this for granted: a statement
has the effect `Stmt.exec`.  `queries_faithful_iff` says for which ids it may.

`mysqlRules` are the rules for string literals with a backslash as escape, as they are unless the
server is told otherwise.  Comments are left out, since they begin outside of a literal: none of
the texts has one before its first id, and what comes after an id that is not clean does not help
to read it back (`scan_eq`).
-/
import ChannelServer.Lib.Quoting
import ChannelServer.Machine

namespace ChannelServer

open Quoting

/-! ### String literals of MySQL -/

/-- What a backslash and the character after it denote in a string literal. -/
def mysqlValue (c : UInt8) : Str :=
  if c = 48 then [0]
  else if c = 98 then [8]
  else if c = 110 then [10]
  else if c = 114 then [13]
  else if c = 116 then [9]
  else if c = 90 then [26]
  else if c = 37 ∨ c = 95 then [92, c]
  else [c]

/-- The rules of MySQL: literals between single or double quotes, with a backslash as escape. -/
def mysqlRules : Rules UInt8 where
  quotes := [39, 34]
  escape := 92
  value := mysqlValue
  escape_not_mem := by simp
  value_quote := by simp [mysqlValue]
  value_escape := by simp [mysqlValue]
  value_other := by
    intro c hc he
    unfold mysqlValue
    split_ifs
    · exact Or.inr ⟨0, by simp, by simp, rfl⟩
    · exact Or.inr ⟨8, by simp, by simp, rfl⟩
    · exact Or.inr ⟨10, by simp, by simp, rfl⟩
    · exact Or.inr ⟨13, by simp, by simp, rfl⟩
    · exact Or.inr ⟨9, by simp, by simp, rfl⟩
    · exact Or.inr ⟨26, by simp, by simp, rfl⟩
    · exact Or.inl rfl
    · exact Or.inr ⟨c, hc, he, rfl⟩

/-- The quote that the statements use. -/
def singleQuote : UInt8 := 39

/-! ### The statements -/

/-- `c_str()`, as far as it is printed: the characters before the first NUL. -/
def cStr (s : Str) : Str := s.takeWhile (· ≠ 0)

/-- `sprintf` with a format whose only directive is `%s`. -/
def sprintf : Str → List Str → Str
  | [], _ => []
  | [c], _ => [c]
  | c :: d :: format, args =>
      if c = 37 ∧ d = 115 then
        match args with
        | arg :: args => cStr arg ++ sprintf format args
        | [] => sprintf format []
      else c :: sprintf (d :: format) args

/-- The format of a statement. -/
def Stmt.format : Stmt → Str
  | selectUserInfo _ => lit "SELECT win,lose,rating FROM user_info WHERE id='%s'"
  | selectFriends _ => lit "SELECT id_2 FROM friend_info WHERE id_1='%s'"
  | selectFriend _ _ => lit "SELECT * FROM friend_info WHERE id_1 = '%s' and id_2 = '%s'"
  | insertFriend _ _ => lit "INSERT INTO friend_info (id_1,id_2) VALUES ('%s','%s')"
  | deleteFriend _ _ => lit "DELETE FROM friend_info WHERE id_1='%s' AND id_2='%s'"

/-- The ids of a statement. -/
def Stmt.ids : Stmt → List Str
  | selectUserInfo id => [id]
  | selectFriends id₁ => [id₁]
  | selectFriend id₁ id₂ => [id₁, id₂]
  | insertFriend id₁ id₂ => [id₁, id₂]
  | deleteFriend id₁ id₂ => [id₁, id₂]

/-- The text that is sent to the database. -/
def Stmt.query (q : Stmt) : Str := sprintf q.format q.ids

/-- The statement that is meant, as pieces of text with an id after each of them. -/
def Stmt.pieces : Stmt → List (Str × Str)
  | selectUserInfo id => [(lit "SELECT win,lose,rating FROM user_info WHERE id=", id)]
  | selectFriends id₁ => [(lit "SELECT id_2 FROM friend_info WHERE id_1=", id₁)]
  | selectFriend id₁ id₂ =>
      [(lit "SELECT * FROM friend_info WHERE id_1 = ", id₁), (lit " and id_2 = ", id₂)]
  | insertFriend id₁ id₂ =>
      [(lit "INSERT INTO friend_info (id_1,id_2) VALUES (", id₁), (lit ",", id₂)]
  | deleteFriend id₁ id₂ =>
      [(lit "DELETE FROM friend_info WHERE id_1=", id₁), (lit " AND id_2=", id₂)]

/-- The text after the last id. -/
def Stmt.last : Stmt → Str
  | insertFriend _ _ => lit ")"
  | _ => []

/-- The length of the buffer for a statement. -/
def queryLength : ℕ := 100

/-- The text is read as the statement: its literals denote the ids. -/
def Stmt.ReadAs (q : Stmt) (query : Str) : Prop :=
  lex mysqlRules query = some (tokens q.pieces q.last)

/-- The id whose rows a statement is about. -/
def Stmt.requestId : Stmt → Str
  | selectUserInfo id => id
  | selectFriends id₁ => id₁
  | selectFriend id₁ _ => id₁
  | insertFriend id₁ _ => id₁
  | deleteFriend id₁ _ => id₁

/-- The statement reads and changes rows of the id only. -/
structure Stmt.Confined (q : Stmt) (id : Str) : Prop where
  userRows : ∀ t, ∀ row ∈ (q.exec t).1.userRows, row.id = id
  friendRows : ∀ t, ∀ row ∈ (q.exec t).1.friendRows, row.1 = id
  userInfo : ∀ t, (q.exec t).2.userInfo = t.userInfo
  friendInfo : ∀ t, (q.exec t).2.friendInfo.filter (·.1 ≠ id) = t.friendInfo.filter (·.1 ≠ id)

/-- The text and its NUL fit into the buffer, the text is read as the statement that is meant, and
what it is read as is confined to the rows of the id. -/
structure Stmt.Faithful (q : Stmt) : Prop where
  fits : q.query.length + 1 ≤ queryLength
  reads : q.ReadAs q.query
  confined : ∀ q' : Stmt, q'.ReadAs q.query → q'.Confined q.requestId

/-- The number of bytes that a statement leaves for its ids. -/
def Stmt.room : Stmt → ℕ
  | selectUserInfo _ => 50
  | selectFriends _ => 57
  | selectFriend _ _ => 44
  | insertFriend _ _ => 49
  | deleteFriend _ _ => 50

/-! ### Texts that are read as they are meant -/

/-- The format for pieces of text. -/
def formatOf : List (Str × Str) → Str → Str
  | [], last => last
  | (text, _) :: ps, last =>
      text ++ singleQuote :: 37 :: 115 :: singleQuote :: formatOf ps last

section Texts

variable {q : Stmt} {c : UInt8} {id text l last : Str} {args : List Str} {ps : List (Str × Str)}

lemma Stmt.format_eq (q : Stmt) : q.format = formatOf q.pieces q.last := by
  cases q <;> exact of_decide_eq_true rfl

lemma Stmt.ids_eq (q : Stmt) : q.ids = q.pieces.map Prod.snd := by cases q <;> rfl

/-- The pieces of text have no quotes, escapes and directives. -/
lemma Stmt.pieces_plain (q : Stmt) :
    ∀ text ∈ q.pieces.map Prod.fst, text ≠ [] ∧ PlainText mysqlRules 0 text ∧ 37 ∉ text := by
  cases q <;> exact of_decide_eq_true rfl

lemma Stmt.last_plain (q : Stmt) : PlainText mysqlRules 0 q.last ∧ 37 ∉ q.last := by
  cases q <;> exact of_decide_eq_true rfl

lemma sprintf_cons (h : c ≠ 37) : sprintf (c :: l) args = c :: sprintf l args := by
  cases l with
  | nil => rfl
  | cons d l => exact if_neg fun hcd => h hcd.1

lemma sprintf_text (h : 37 ∉ text) : sprintf (text ++ l) args = text ++ sprintf l args := by
  induction text with
  | nil => rfl
  | cons c text ih =>
    rw [List.mem_cons, not_or] at h
    rw [List.cons_append, sprintf_cons (Ne.symm h.1), ih h.2]
    rfl

lemma sprintf_directive : sprintf (37 :: 115 :: l) (id :: args) = cStr id ++ sprintf l args := rfl

/-- The ids are printed between the quotes of the format. -/
lemma sprintf_formatOf (hps : ∀ p ∈ ps, 37 ∉ p.1) (hlast : 37 ∉ last) :
    sprintf (formatOf ps last) (ps.map Prod.snd) = render singleQuote 0 ps last := by
  induction ps with
  | nil =>
    have htext : sprintf (last ++ []) [] = last ++ sprintf [] [] := sprintf_text hlast
    simpa [formatOf, render, sprintf] using htext
  | cons p ps ih =>
    obtain ⟨text, id⟩ := p
    obtain ⟨htext, hps⟩ := List.forall_mem_cons.1 hps
    have hquote : singleQuote ≠ 37 := by decide
    rw [formatOf, List.map_cons, sprintf_text htext, sprintf_cons hquote, sprintf_directive,
      sprintf_cons hquote, ih hps, render, cStr]

lemma Stmt.query_eq (q : Stmt) : q.query = render singleQuote 0 q.pieces q.last := by
  rw [Stmt.query, q.format_eq, q.ids_eq]
  exact sprintf_formatOf (fun p hp => (q.pieces_plain p.1 (List.mem_map_of_mem hp)).2.2)
    q.last_plain.2

lemma cStr_eq (h : 0 ∉ id) : cStr id = id := by
  refine List.takeWhile_eq_self_iff.2 fun x hx => ?_
  have hne : x ≠ 0 := by
    rintro rfl
    exact h hx
  simpa using hne

/-- Each id adds its length to the text. -/
lemma length_render (hps : ∀ p ∈ ps, 0 ∉ p.2) :
    (render singleQuote 0 ps last).length =
      (render singleQuote 0 (ps.map fun p => (p.1, [])) last).length +
        (ps.map Prod.snd).flatten.length := by
  induction ps with
  | nil => simp [render]
  | cons p ps ih =>
    obtain ⟨text, id⟩ := p
    obtain ⟨hid, hps⟩ := List.forall_mem_cons.1 hps
    have hcut : id.takeWhile (· ≠ 0) = id := cStr_eq hid
    simp only [render, hcut, List.map_cons, List.takeWhile_nil, List.flatten_cons,
      List.length_append, List.length_cons, List.length_nil, ih hps]
    omega

/-- The buffer is full when the text has its NUL, and as many bytes of ids as there is room for. -/
lemma Stmt.room_eq (q : Stmt) :
    (render singleQuote 0 (q.pieces.map fun p => (p.1, [])) q.last).length + q.room + 1 =
      queryLength := by
  cases q <;> rfl

/-- The text fits when there is room for the ids. -/
lemma Stmt.fits_iff (h : ∀ id ∈ q.ids, 0 ∉ id) :
    q.query.length + 1 ≤ queryLength ↔ q.ids.flatten.length ≤ q.room := by
  have hps : ∀ p ∈ q.pieces, 0 ∉ p.2 := by rwa [q.ids_eq, List.forall_mem_map] at h
  have hroom := q.room_eq
  rw [q.query_eq, length_render hps, q.ids_eq]
  omega

/-- The text is read as it is meant when the ids are. -/
lemma Stmt.reads_iff (q : Stmt) :
    q.ReadAs q.query ↔ ∀ id ∈ q.ids, 0 ∉ id ∧ Clean mysqlRules singleQuote id := by
  have hps : ∀ p ∈ q.pieces, p.1 ≠ [] ∧ PlainText mysqlRules 0 p.1 := fun p hp => by
    obtain ⟨hne, hplain, -⟩ := q.pieces_plain p.1 (List.mem_map_of_mem hp)
    exact ⟨hne, hplain⟩
  rw [Stmt.ReadAs, q.query_eq, lex_render_iff (by decide) hps q.last_plain.1, q.ids_eq,
    List.forall_mem_map]

/-- A statement is known from its pieces. -/
lemma Stmt.pieces_inj {q' : Stmt} (h : q.pieces = q'.pieces) : q = q' := by
  have hids : q.ids = q'.ids := by rw [q.ids_eq, q'.ids_eq, h]
  have hlengths := congrArg (List.map fun p => p.1.length) h
  -- the lengths of the texts tell the statements apart
  cases q <;> cases q' <;> try exact absurd hlengths (of_decide_eq_true rfl)
  all_goals simpa [Stmt.ids] using hids

/-- A text is read as one statement at most. -/
lemma Stmt.ReadAs.unique {q' : Stmt} {query : Str} (h : q.ReadAs query) (h' : q'.ReadAs query) :
    q = q' :=
  Stmt.pieces_inj (tokens_inj (Option.some.inj (h.symm.trans h'))).1

/-! ### Rows of the id -/

lemma Stmt.confined (q : Stmt) : q.Confined q.requestId where
  userRows t row h := by
    cases q with
    | selectUserInfo id => exact of_decide_eq_true (List.mem_filter.1 h).2
    | _ => cases h
  friendRows t row h := by
    cases q with
    | selectFriends id₁ => exact of_decide_eq_true (List.mem_filter.1 h).2
    | selectFriend id₁ id₂ =>
      have hrow : row = (id₁, id₂) := of_decide_eq_true (List.mem_filter.1 h).2
      rw [hrow]
      rfl
    | _ => cases h
  userInfo t := by cases q <;> rfl
  friendInfo t := by
    cases q with
    | insertFriend id₁ id₂ => simp [Stmt.exec, Stmt.requestId]
    | deleteFriend id₁ id₂ =>
      -- a row of another id is none of the rows that are deleted
      rw [Stmt.exec, List.filter_filter]
      refine List.filter_congr fun row _ => ?_
      have hother : row.1 ≠ id₁ → row ≠ (id₁, id₂) := mt (congrArg Prod.fst)
      rw [← Bool.decide_and]
      exact decide_eq_decide.2 (and_iff_left_of_imp hother)
    | _ => rfl

/-! ### Faithful texts -/

lemma Stmt.Faithful.clean_ids (h : q.Faithful) :
    ∀ id ∈ q.ids, 0 ∉ id ∧ Clean mysqlRules singleQuote id := q.reads_iff.1 h.reads

lemma Stmt.Faithful.ids_room (h : q.Faithful) : q.ids.flatten.length ≤ q.room :=
  (Stmt.fits_iff fun id hid => (h.clean_ids id hid).1).1 h.fits

/-- Such ids are enough: a text that is read as its statement is read as no other one. -/
lemma Stmt.faithful_of_ids (hids : ∀ id ∈ q.ids, 0 ∉ id ∧ Clean mysqlRules singleQuote id)
    (hroom : q.ids.flatten.length ≤ q.room) : q.Faithful := by
  have hreads := q.reads_iff.2 hids
  refine ⟨(Stmt.fits_iff fun id hid => (hids id hid).1).2 hroom, hreads, fun q' hq' => ?_⟩
  obtain rfl := hreads.unique hq'
  exact q.confined

/-- **A text is faithful exactly when it is read back and has room.**  The ids have neither a NUL
nor a quote, each backslash of an id stands before a `%` or `_`, and together they are no longer
than the room that the statement leaves. -/
theorem queries_faithful_iff (q : Stmt) :
    q.Faithful ↔
      (∀ id ∈ q.ids, 0 ∉ id ∧ Clean mysqlRules singleQuote id) ∧
        q.ids.flatten.length ≤ q.room := by
  constructor
  · intro h
    exact ⟨h.clean_ids, h.ids_room⟩
  · rintro ⟨hids, hroom⟩
    exact Stmt.faithful_of_ids hids hroom

/-- The condition on the ids decides it. -/
instance (q : Stmt) : Decidable q.Faithful :=
  decidable_of_iff ((∀ id ∈ q.ids, 0 ∉ id ∧ Clean mysqlRules singleQuote id) ∧
      q.ids.flatten.length ≤ q.room)
    ⟨fun h => Stmt.faithful_of_ids h.1 h.2, fun h => ⟨h.clean_ids, h.ids_room⟩⟩

/-- An id with a quote in it, and the pieces that MySQL reads: all rows meet the condition. -/
def injected : Str × List (Str × Str) :=
  (lit "x' OR 'a'='a",
    [(lit "SELECT win,lose,rating FROM user_info WHERE id=", lit "x"), (lit " OR ", lit "a"),
      (lit "=", lit "a")])

/-- A statement may be read as another one, and its text may be too long for the buffer. -/
theorem query_injected :
    lex mysqlRules (Stmt.selectUserInfo injected.1).query = some (tokens injected.2 []) ∧
      ¬ (Stmt.selectUserInfo injected.1).Faithful ∧
      ¬ (Stmt.selectUserInfo (List.replicate 51 97)).Faithful := by
  have hread : lex mysqlRules (Stmt.selectUserInfo injected.1).query =
      some (tokens injected.2 []) := by
    have hquery : (Stmt.selectUserInfo injected.1).query = render singleQuote 0 injected.2 [] := by
      decide +kernel
    rw [hquery]
    exact (lex_render_iff (by decide) (by decide +kernel) (by decide)).2 (by decide +kernel)
  refine ⟨hread, fun h => ?_, fun h => ?_⟩
  · have hpieces := (tokens_inj (Option.some.inj (h.reads.symm.trans hread))).1
    exact absurd hpieces (by decide +kernel)
  · exact absurd h.fits (by decide +kernel)

end Texts

/-! ### The texts of an event -/

/-- The statements whose texts the handler of a packet prints, as long as they succeed. -/
def Server.statements (s : Server) (n : SessionId) : Packet → List Stmt
  | .friendsReq message =>
      match message.type with
      | .add =>
          if (s.sess n).friendsCount < 20 then
            [.selectFriend (s.sess n).userId message.targetId,
              .insertFriend (s.sess n).userId message.targetId]
          else []
      | .del =>
          if (s.sess n).friendsCount > 0 then [.deleteFriend (s.sess n).userId message.targetId]
          else []
      | .search =>
          if s.userIdMap message.targetId = none then [.selectUserInfo message.targetId] else []
  | .joinReq message =>
      match s.redis message.token with
      | some id =>
          if (s.sess n).isOpen ∧ s.userIdMap id = none then
            [.selectUserInfo id, .selectFriends id]
          else []
      | none => []
  | _ => []

/-- The statements whose texts are printed in an event. -/
def Server.texts (s : Server) : Event → List Stmt
  | .packet _ =>
      match s.current with
      | some (n, packet :: _) => s.statements n packet
      | _ => []
  | _ => []

/-- All texts that are printed in an event are faithful. -/
def Server.FaithfulTexts (s : Server) (e : Event) : Prop := ∀ q ∈ s.texts e, q.Faithful

instance (s : Server) (e : Event) : Decidable (s.FaithfulTexts e) :=
  inferInstanceAs (Decidable (∀ q ∈ s.texts e, q.Faithful))

end ChannelServer
