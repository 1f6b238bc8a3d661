/-
Texts with string literals.

A string literal is enclosed by a quote.  Inside of it the doubled quote denotes one quote, and an
escape character changes the meaning of the character after it.  `scan` reads a literal, and `lex`
splits a text into the characters outside of literals and the values of the literals.

A program that writes a value between quotes, as it is, hopes that the literal denotes this value.
`Clean` says when it does, and `scan_eq` that there is no other case: a value with a quote, or with
an escape that has a meaning, is never read back as itself, whatever follows.  The reason is
`scan_lag`: once a character of the value is lost, the reader is behind the writer for good.

The values may also be cut at a first character `stop`, like the strings that a C program prints.
`lex_render_iff` is the result for a text with any number of literals.
-/
import Mathlib.Data.List.Induction
import Mathlib.Data.List.TakeWhile

namespace Quoting

/-- The rules of a language for its string literals: the quotes, the escape character, and what
this character denotes together with the one after it. -/
structure Rules (α : Type) where
  quotes : List α
  escape : α
  value : α → List α
  escape_not_mem : escape ∉ quotes
  value_quote : ∀ q ∈ quotes, value q = [q]
  value_escape : value escape = [escape]
  value_other : ∀ c, c ∉ quotes → c ≠ escape →
    value c = [escape, c] ∨ ∃ x, x ∉ quotes ∧ x ≠ escape ∧ value c = [x]

/-- The parts of a text. -/
inductive Token (α : Type)
  | char (a : α)
  | literal (value : List α)
deriving DecidableEq, Repr

section Rules

variable {α : Type} {R : Rules α} {q b : α}

lemma Rules.escape_ne (hq : q ∈ R.quotes) : R.escape ≠ q := by
  rintro rfl
  exact R.escape_not_mem hq

/-- What the escape makes of a character that is neither the quote nor the escape. -/
lemma Rules.value_plain (hq : q ∈ R.quotes) (hb : b ≠ q) (he : b ≠ R.escape) :
    R.value b = [R.escape, b] ∨ ∃ x, x ≠ q ∧ x ≠ R.escape ∧ R.value b = [x] := by
  by_cases hquote : b ∈ R.quotes
  · exact Or.inr ⟨b, hb, he, R.value_quote b hquote⟩
  · rcases R.value_other b hquote he with hkept | ⟨x, hx, hxe, hvalue⟩
    · exact Or.inl hkept
    · refine Or.inr ⟨x, ?_, hxe, hvalue⟩
      rintro rfl
      exact hx hq

/-- What follows a literal begins with neither a quote nor an escape. -/
def Apart (R : Rules α) (q : α) (t : List α) : Prop := ∀ c ∈ t.head?, c ≠ q ∧ c ≠ R.escape

lemma Apart.ne_quote {t : List α} (h : Apart R q t) : ∀ c ∈ t.head?, c ≠ q :=
  fun c hc => (h c hc).1

end Rules

variable {α : Type} [DecidableEq α]

section Definitions

variable (R : Rules α) (q : α)

/-- Read a literal, after its opening quote `q`: its value, and what follows its closing quote. -/
def scan : List α → Option (List α × List α)
  | [] => none
  | [a] => if a = q then some ([], []) else none
  | a :: b :: rest =>
      if a = q then
        if b = q then (scan rest).map fun p => (q :: p.1, p.2) else some ([], b :: rest)
      else if a = R.escape then (scan rest).map fun p => (R.value b ++ p.1, p.2)
      else (scan (b :: rest)).map fun p => (a :: p.1, p.2)

/-- A value that a literal denotes when it is written as it is: it has no quote, and each escape
keeps itself and the character after it. -/
def Clean : List α → Prop
  | [] => True
  | [a] => a ≠ q ∧ a ≠ R.escape
  | a :: b :: rest =>
      if a = R.escape then R.value b = [R.escape, b] ∧ Clean rest else a ≠ q ∧ Clean (b :: rest)

instance decidableClean : (w : List α) → Decidable (Clean R q w)
  | [] => inferInstanceAs (Decidable True)
  | [a] => inferInstanceAs (Decidable (a ≠ q ∧ a ≠ R.escape))
  | a :: b :: rest =>
      have := decidableClean rest
      have := decidableClean (b :: rest)
      inferInstanceAs (Decidable (if a = R.escape then R.value b = [R.escape, b] ∧ Clean R q rest
        else a ≠ q ∧ Clean R q (b :: rest)))

end Definitions

section Scan

variable {R : Rules α} {q a b : α} {l t u v w z r : List α}

/-! ### One character -/

lemma scan_plain (hq : a ≠ q) (he : a ≠ R.escape) :
    scan R q (a :: l) = (scan R q l).map fun p => (a :: p.1, p.2) := by
  cases l with
  | nil => simp [scan, hq]
  | cons b l => rw [scan, if_neg hq, if_neg he]

lemma scan_double : scan R q (q :: q :: l) = (scan R q l).map fun p => (q :: p.1, p.2) := by
  rw [scan, if_pos rfl, if_pos rfl]

lemma scan_escape (he : R.escape ≠ q) :
    scan R q (R.escape :: b :: l) = (scan R q l).map fun p => (R.value b ++ p.1, p.2) := by
  rw [scan, if_neg he, if_pos rfl]

lemma scan_close (h : ∀ c ∈ t.head?, c ≠ q) : scan R q (q :: t) = some ([], t) := by
  cases t with
  | nil => simp [scan]
  | cons c t => rw [scan, if_pos rfl, if_neg (h c rfl)]

/-- The first character of a value, when the text begins with a character without a meaning. -/
lemma scan_apart (ht : Apart R q t) (h : scan R q t = some (v, r)) :
    ∃ c v', v = c :: v' ∧ t.head? = some c := by
  cases t with
  | nil => cases h
  | cons c t =>
    obtain ⟨hq, he⟩ := ht c rfl
    rw [scan_plain hq he] at h
    obtain ⟨p, -, hp⟩ := Option.map_eq_some_iff.1 h
    exact ⟨c, p.1, (Prod.mk.inj hp).1.symm, rfl⟩

/-- What is read first, of a text that begins with two characters. -/
inductive FirstRead (R : Rules α) (q a b : α) (l : List α) : List α → List α → Prop
  | closed (ha : a = q) (hb : b ≠ q) : FirstRead R q a b l [] (b :: l)
  /-- Two quotes or escapes are read as one. -/
  | lost {v r : List α} (ha : a = q ∨ a = R.escape) (hb : b = q ∨ b = R.escape)
      (h : scan R q l = some (v, r)) : FirstRead R q a b l (b :: v) r
  | kept {v r : List α} (ha : a = R.escape) (hb : b ≠ q ∧ b ≠ R.escape)
      (hvalue : R.value b = [R.escape, b]) (h : scan R q l = some (v, r)) :
      FirstRead R q a b l (R.escape :: b :: v) r
  | changed {x : α} {v r : List α} (ha : a = R.escape) (hx : x ≠ q ∧ x ≠ R.escape)
      (h : scan R q l = some (v, r)) : FirstRead R q a b l (x :: v) r
  | plain {v r : List α} (ha : a ≠ q ∧ a ≠ R.escape) (h : scan R q (b :: l) = some (v, r)) :
      FirstRead R q a b l (a :: v) r

lemma scan_cons_cons (hq : q ∈ R.quotes) (h : scan R q (a :: b :: l) = some (v, r)) :
    FirstRead R q a b l v r := by
  by_cases haq : a = q
  · subst haq
    by_cases hb : b = a
    · subst hb
      rw [scan_double] at h
      obtain ⟨p, hp, heq⟩ := Option.map_eq_some_iff.1 h
      obtain ⟨rfl, rfl⟩ := Prod.mk.inj heq
      exact .lost (Or.inl rfl) (Or.inl rfl) hp
    · rw [scan_close (by simpa using hb)] at h
      obtain ⟨rfl, rfl⟩ := Prod.mk.inj (Option.some.inj h)
      exact .closed rfl hb
  · by_cases hae : a = R.escape
    · subst hae
      rw [scan_escape (R.escape_ne hq)] at h
      obtain ⟨p, hp, heq⟩ := Option.map_eq_some_iff.1 h
      obtain ⟨rfl, rfl⟩ := Prod.mk.inj heq
      by_cases hb : b = q ∨ b = R.escape
      · have hvalue : R.value b = [b] := by
          rcases hb with rfl | rfl
          · exact R.value_quote b hq
          · exact R.value_escape
        rw [hvalue]
        exact .lost (Or.inr rfl) hb hp
      · rw [not_or] at hb
        rcases R.value_plain hq hb.1 hb.2 with hvalue | ⟨x, hxq, hxe, hvalue⟩ <;> rw [hvalue]
        · exact .kept rfl hb hvalue hp
        · exact .changed rfl ⟨hxq, hxe⟩ hp
    · rw [scan_plain haq hae] at h
      obtain ⟨p, hp, heq⟩ := Option.map_eq_some_iff.1 h
      obtain ⟨rfl, rfl⟩ := Prod.mk.inj heq
      exact .plain ⟨haq, hae⟩ hp

/-! ### The reader stays behind -/

omit [DecidableEq α] in
lemma head_of_append {P : α → Prop} (hu : ∀ x ∈ u, P x) (hb : P b) (h : u ++ b :: l = a :: t) :
    P a := by
  cases u with
  | nil =>
    obtain ⟨rfl, -⟩ := List.cons.inj h
    exact hb
  | cons x u =>
    obtain ⟨rfl, -⟩ := List.cons.inj h
    exact hu x List.mem_cons_self

/-- The value of `w` does not begin with further quotes and escapes: whoever reads `w` after these
has lost them. -/
lemma scan_lag (hq : q ∈ R.quotes) (ht : Apart R q t) (hu : u ≠ [])
    (hspecial : ∀ x ∈ u, x = q ∨ x = R.escape) :
    scan R q (w ++ q :: t) ≠ some (u ++ (w ++ z), r) := by
  induction w using List.twoStepInduction generalizing u with
  | nil =>
    intro h
    rw [List.nil_append, scan_close ht.ne_quote] at h
    simp [hu] at h
  | singleton a =>
    intro h
    obtain ⟨x, u, rfl⟩ := List.exists_cons_of_ne_nil hu
    obtain ⟨hx, hu'⟩ := List.forall_mem_cons.1 hspecial
    generalize hv : x :: u ++ ([a] ++ z) = v at h
    cases scan_cons_cons hq h with
    | closed _ hb => exact hb rfl
    | lost ha _ h =>
      -- the closing quote was read as a part of the value, which then goes on with a special one
      obtain ⟨c, v', rfl, hc⟩ := scan_apart ht h
      obtain ⟨hcq, hce⟩ := ht c hc
      exact (head_of_append hu' ha (List.cons.inj hv).2).elim hcq hce
    | kept _ hb _ _ => exact hb.1 rfl
    | changed _ hy _ =>
      obtain rfl := (List.cons.inj hv).1
      exact hx.elim hy.1 hy.2
    | plain ha _ =>
      obtain rfl := (List.cons.inj hv).1
      exact hx.elim ha.1 ha.2
  | cons_cons a b w ih _ =>
    intro h
    obtain ⟨x, u, rfl⟩ := List.exists_cons_of_ne_nil hu
    obtain ⟨hx, hu'⟩ := List.forall_mem_cons.1 hspecial
    generalize hv : x :: u ++ (a :: b :: w ++ z) = v at h
    cases scan_cons_cons hq h with
    | closed _ _ => cases hv
    | @lost v' _ ha hb h =>
      -- the reader is behind by two more characters
      have hv' : v' = (u ++ [a, b]) ++ (w ++ z) := (List.cons.inj hv).2.symm.trans (by simp)
      rw [hv'] at h
      refine ih (by simp) ?_ h
      simpa [or_imp, forall_and] using ⟨hu', ha, hb⟩
    | kept ha hb _ _ =>
      exact (head_of_append hu' (Or.inr ha) (List.cons.inj hv).2).elim hb.1 hb.2
    | changed _ hy _ =>
      obtain rfl := (List.cons.inj hv).1
      exact hx.elim hy.1 hy.2
    | plain ha _ =>
      obtain rfl := (List.cons.inj hv).1
      exact hx.elim ha.1 ha.2

/-! ### Values that are read back -/

/-- A clean value is read back, whatever follows its closing quote, unless it is a quote. -/
lemma scan_clean (hq : q ∈ R.quotes) (ht : ∀ c ∈ t.head?, c ≠ q) (hw : Clean R q w) :
    scan R q (w ++ q :: t) = some (w, t) := by
  have he : R.escape ≠ q := R.escape_ne hq
  induction w using List.twoStepInduction with
  | nil => exact scan_close ht
  | singleton a =>
    obtain ⟨haq, hae⟩ := hw
    rw [List.singleton_append, scan_plain haq hae, scan_close ht]
    rfl
  | cons_cons a b w ih ih' =>
    rw [Clean] at hw
    split_ifs at hw with hae
    · obtain ⟨hkept, hw⟩ := hw
      subst hae
      rw [List.cons_append, List.cons_append, scan_escape he, ih hw, hkept]
      rfl
    · obtain ⟨haq, hw⟩ := hw
      rw [List.cons_append, scan_plain haq hae, ih' b hw]
      rfl

/-- **Only clean values are read back.**  When a text that begins with `w` and a closing quote is
read as `w ++ z`, then `w` is clean and `z` is empty; here `z` must not begin like what follows the
closing quote. -/
theorem scan_eq (hq : q ∈ R.quotes) (ht : Apart R q t) (hz : ∀ c ∈ z.head?, c ∉ t.head?)
    (h : scan R q (w ++ q :: t) = some (w ++ z, r)) : Clean R q w ∧ z = [] ∧ r = t := by
  induction w using List.twoStepInduction generalizing r with
  | nil =>
    rw [List.nil_append, scan_close ht.ne_quote] at h
    obtain ⟨hz, hr⟩ := Prod.mk.inj (Option.some.inj h)
    exact ⟨trivial, hz.symm, hr.symm⟩
  | singleton a =>
    generalize hv : [a] ++ z = v at h
    cases scan_cons_cons hq h with
    | closed _ hb => exact absurd rfl hb
    | lost _ _ h =>
      -- the closing quote was read as a part of the value, so that `z` was read from what follows
      obtain ⟨c, v', rfl, hc⟩ := scan_apart ht h
      have hz' : z = c :: v' := (List.cons.inj hv).2
      exact absurd hc (hz c (by simp [hz']))
    | kept _ hb _ _ => exact absurd rfl hb.1
    | changed ha hy _ => exact absurd ((List.cons.inj hv).1.symm.trans ha) hy.2
    | plain ha h =>
      rw [scan_close ht.ne_quote] at h
      obtain ⟨rfl, rfl⟩ := Prod.mk.inj (Option.some.inj h)
      exact ⟨ha, (List.cons.inj hv).2, rfl⟩
  | cons_cons a b w ih ih' =>
    generalize hv : a :: b :: w ++ z = v at h
    cases scan_cons_cons hq h with
    | closed _ _ => cases hv
    | lost _ hb h =>
      have hv' : _ = [b] ++ (w ++ z) := (List.cons.inj hv).2.symm
      rw [hv'] at h
      exact absurd h (scan_lag hq ht (by simp) (by simpa using hb))
    | kept ha _ hvalue h =>
      rw [← (List.cons.inj (List.cons.inj hv).2).2] at h
      obtain ⟨hw, hz, hr⟩ := ih h
      refine ⟨?_, hz, hr⟩
      rw [Clean, if_pos ha]
      exact ⟨hvalue, hw⟩
    | changed ha hy _ => exact absurd ((List.cons.inj hv).1.symm.trans ha) hy.2
    | plain ha h =>
      rw [← (List.cons.inj hv).2] at h
      obtain ⟨hw, hz, hr⟩ := ih' b h
      refine ⟨?_, hz, hr⟩
      rw [Clean, if_neg ha.2]
      exact ⟨ha.1, hw⟩

/-- What follows a literal is shorter than the text. -/
lemma scan_length (h : scan R q l = some (v, r)) : r.length < l.length + 1 := by
  induction l using List.twoStepInduction generalizing v with
  | nil => cases h
  | singleton a =>
    obtain ⟨-, h⟩ := Option.ite_none_right_eq_some.1 h
    obtain ⟨-, rfl⟩ := Prod.mk.inj (Option.some.inj h)
    simp
  | cons_cons a b l ih ih' =>
    have hmap : ∀ {f : List α → List α} {l' : List α},
        (scan R q l').map (fun p => (f p.1, p.2)) = some (v, r) →
          ∃ v', scan R q l' = some (v', r) := by
      intro f l' h
      obtain ⟨p, hp, heq⟩ := Option.map_eq_some_iff.1 h
      obtain ⟨-, rfl⟩ := Prod.mk.inj heq
      exact ⟨p.1, hp⟩
    rw [scan] at h
    split_ifs at h
    · obtain ⟨v', hv⟩ := hmap h
      have := ih hv
      simp only [List.length_cons]
      omega
    · obtain ⟨-, rfl⟩ := Prod.mk.inj (Option.some.inj h)
      simp
    · obtain ⟨v', hv⟩ := hmap h
      have := ih hv
      simp only [List.length_cons]
      omega
    · obtain ⟨v', hv⟩ := hmap h
      have := ih' b hv
      simp only [List.length_cons] at this ⊢
      omega

end Scan

/-! ### Texts -/

/-- Split a text into characters and literals; `none` when a literal does not end. -/
def lex (R : Rules α) : List α → Option (List (Token α))
  | [] => some []
  | a :: rest =>
      if a ∈ R.quotes then
        match _h : scan R a rest with
        | none => none
        | some p => (lex R p.2).map (.literal p.1 :: ·)
      else (lex R rest).map (.char a :: ·)
termination_by l => l.length
decreasing_by
  · exact scan_length _h
  · simp

/-- The text of a program that prints values between quotes: the pieces of text with the value
after each of them, and the last piece. -/
def render (q stop : α) : List (List α × List α) → List α → List α
  | [], last => last
  | (text, w) :: ps, last => text ++ q :: (w.takeWhile (· ≠ stop) ++ q :: render q stop ps last)

/-- What this text is meant to be. -/
def tokens : List (List α × List α) → List α → List (Token α)
  | [], last => last.map .char
  | (text, w) :: ps, last => text.map .char ++ .literal w :: tokens ps last

/-- A text without quotes, escapes and the character at which values are cut. -/
def PlainText (R : Rules α) (stop : α) (l : List α) : Prop :=
  ∀ a ∈ l, a ∉ R.quotes ∧ a ≠ R.escape ∧ a ≠ stop

instance (R : Rules α) (stop : α) (l : List α) : Decidable (PlainText R stop l) :=
  inferInstanceAs (Decidable (∀ a ∈ l, _))

section Texts

variable {R : Rules α} {q stop : α} {l text w last : List α} {ps : List (List α × List α)}

lemma lex_quote (hq : q ∈ R.quotes) :
    lex R (q :: l) = (scan R q l).bind fun p => (lex R p.2).map (.literal p.1 :: ·) := by
  rw [lex, if_pos hq]
  split
  · rename_i h
    rw [h]
    rfl
  · rename_i h
    rw [h]
    rfl

lemma lex_text (h : ∀ a ∈ text, a ∉ R.quotes) :
    lex R (text ++ l) = (lex R l).map (text.map .char ++ ·) := by
  induction text with
  | nil => simp
  | cons a text ih =>
    obtain ⟨ha, htext⟩ := List.forall_mem_cons.1 h
    rw [List.cons_append, lex, if_neg ha, ih htext, Option.map_map]
    rfl

/-- A text begins with a character without a meaning. -/
lemma head_render (hps : ∀ p ∈ ps, p.1 ≠ [] ∧ PlainText R stop p.1)
    (hlast : PlainText R stop last) :
    ∀ c ∈ (render q stop ps last).head?, c ∉ R.quotes ∧ c ≠ R.escape ∧ c ≠ stop := by
  intro c hc
  cases ps with
  | nil => exact hlast c (List.mem_of_mem_head? hc)
  | cons p ps =>
    obtain ⟨hne, htext⟩ := hps p List.mem_cons_self
    obtain ⟨a, text, htext'⟩ := List.exists_cons_of_ne_nil hne
    rw [render, htext'] at hc
    obtain rfl := Option.some.inj hc
    exact htext a (by simp [htext'])

omit [DecidableEq α] in
/-- The first literal of two equal texts is the same, and so is what is around it. -/
lemma literal_inj {text' w' : List α} {ts ts' : List (Token α)}
    (h : text.map .char ++ .literal w :: ts = text'.map .char ++ .literal w' :: ts') :
    text = text' ∧ w = w' ∧ ts = ts' := by
  induction text generalizing text' with
  | nil =>
    cases text' with
    | nil =>
      obtain ⟨hw, rfl⟩ := List.cons.inj h
      exact ⟨rfl, Token.literal.inj hw, rfl⟩
    | cons a text' => cases (List.cons.inj h).1
  | cons a text ih =>
    cases text' with
    | nil => cases (List.cons.inj h).1
    | cons b text' =>
      obtain ⟨hab, h⟩ := List.cons.inj h
      obtain ⟨rfl, hw, hts⟩ := ih h
      exact ⟨by rw [Token.char.inj hab], hw, hts⟩

omit [DecidableEq α] in
/-- The pieces of a text can be told from its tokens. -/
lemma tokens_inj {ps' : List (List α × List α)} {last' : List α}
    (h : tokens ps last = tokens ps' last') : ps = ps' ∧ last = last' := by
  have hno : ∀ {l : List α} {w : List α}, .literal w ∉ l.map Token.char := by simp
  induction ps generalizing ps' with
  | nil =>
    cases ps' with
    | nil => exact ⟨rfl, (List.map_inj_right fun _ _ => Token.char.inj).1 h⟩
    | cons p ps' =>
      rw [tokens, tokens] at h
      exact absurd (h ▸ List.mem_append_right _ List.mem_cons_self) hno
  | cons p ps ih =>
    cases ps' with
    | nil =>
      rw [tokens, tokens] at h
      exact absurd (h ▸ List.mem_append_right _ List.mem_cons_self) hno
    | cons p' ps' =>
      obtain ⟨text, w⟩ := p
      obtain ⟨text', w'⟩ := p'
      obtain ⟨rfl, rfl, hrest⟩ := literal_inj h
      obtain ⟨rfl, rfl⟩ := ih hrest
      exact ⟨rfl, rfl⟩

/-- One literal of a text. -/
lemma lex_literal_iff (hq : q ∈ R.quotes)
    (hl : ∀ c ∈ l.head?, c ∉ R.quotes ∧ c ≠ R.escape ∧ c ≠ stop) {ts : List (Token α)} :
    lex R (q :: (w.takeWhile (· ≠ stop) ++ q :: l)) = some (.literal w :: ts) ↔
      (stop ∉ w ∧ Clean R q w) ∧ lex R l = some ts := by
  have hapart : Apart R q l := fun c hc => ⟨fun hcq => (hl c hc).1 (hcq ▸ hq), (hl c hc).2.1⟩
  rw [lex_quote hq]
  constructor
  · intro h
    obtain ⟨p, hscan, hp⟩ := Option.bind_eq_some_iff.1 h
    obtain ⟨ts', hts, heq⟩ := Option.map_eq_some_iff.1 hp
    obtain ⟨hvalue, rfl⟩ := List.cons.inj heq
    obtain ⟨v, r⟩ := p
    obtain rfl : v = w := Token.literal.inj hvalue
    -- what is cut off begins with `stop`, and the text after the literal does not
    have hcut : v.takeWhile (· ≠ stop) ++ v.dropWhile (· ≠ stop) = v :=
      List.takeWhile_append_dropWhile
    have hz : ∀ c ∈ (v.dropWhile (· ≠ stop)).head?, c ∉ l.head? := by
      intro c hc hcl
      have hstop := List.head?_dropWhile_not (· ≠ stop) v
      rw [show (v.dropWhile (· ≠ stop)).head? = some c from hc] at hstop
      exact (hl c hcl).2.2 (by simpa using hstop)
    have hscan' : scan R q (v.takeWhile (· ≠ stop) ++ q :: l) =
        some (v.takeWhile (· ≠ stop) ++ v.dropWhile (· ≠ stop), r) := by rw [hscan, hcut]
    obtain ⟨hclean, hnil, rfl⟩ := scan_eq hq hapart hz hscan'
    rw [hnil, List.append_nil] at hcut
    rw [hcut] at hclean
    refine ⟨⟨fun hmem => ?_, hclean⟩, hts⟩
    simpa using List.dropWhile_eq_nil_iff.1 hnil stop hmem
  · rintro ⟨⟨hstop, hclean⟩, hts⟩
    have hcut : w.takeWhile (· ≠ stop) = w := by
      refine List.takeWhile_eq_self_iff.2 fun x hx => ?_
      have hne : x ≠ stop := by
        rintro rfl
        exact hstop hx
      simpa using hne
    rw [hcut, scan_clean hq hapart.ne_quote hclean]
    simp [hts]

/-- **Texts with literals.**  A text is read as it is meant exactly when its values are clean, and
not cut. -/
theorem lex_render_iff (hq : q ∈ R.quotes) (hps : ∀ p ∈ ps, p.1 ≠ [] ∧ PlainText R stop p.1)
    (hlast : PlainText R stop last) :
    lex R (render q stop ps last) = some (tokens ps last) ↔
      ∀ p ∈ ps, stop ∉ p.2 ∧ Clean R q p.2 := by
  induction ps with
  | nil =>
    have htext := lex_text (l := []) fun a ha => (hlast a ha).1
    rw [List.append_nil, lex] at htext
    simpa [render, tokens] using htext
  | cons p ps ih =>
    obtain ⟨text, w⟩ := p
    obtain ⟨⟨-, htext⟩, hps⟩ := List.forall_mem_cons.1 hps
    have hl := head_render (q := q) hps hlast
    rw [render, lex_text fun a ha => (htext a ha).1, tokens, List.forall_mem_cons, ← ih hps,
      ← lex_literal_iff hq hl]
    constructor
    · intro h
      obtain ⟨ts, hts, heq⟩ := Option.map_eq_some_iff.1 h
      rw [hts, List.append_cancel_left heq]
    · intro h
      rw [h]
      rfl

end Texts

end Quoting
