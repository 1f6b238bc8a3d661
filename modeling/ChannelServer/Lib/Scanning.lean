/-
Formatted input from a stream of bytes, as the extractors of the C++ library read it.

A stream holds the bytes that have arrived and have not been read, and a flag that stays set once
an extraction has failed.  An extraction that needs a byte that has not arrived waits for it, and
has no result.  From a failed stream nothing is read, and the variable keeps its value.

The main results are

* `extractInt_decimal`: a number that was written in decimal is read again, and the byte behind it
  is not touched;
* `extractChar_append`, `getLine_append` and `read_append`: how much of a stream the other
  extractors take;
* `extractInt_grow` and its siblings: a result does not depend on what arrives later.
-/
import Mathlib.Algebra.Ring.Int.Defs
import Mathlib.Algebra.Ring.Nat
import Mathlib.Data.Int.Notation
import Mathlib.Data.List.Basic

namespace Scanning

/-- `isspace` for ASCII. -/
def isSpace (c : UInt8) : Bool := c == 32 || (9 ≤ c && c ≤ 13)

/-- `isdigit`. -/
def isDigit (c : UInt8) : Bool := 48 ≤ c && c ≤ 57

/-- The bytes that have arrived, and whether an extraction has failed. -/
structure Stream where
  rest : List UInt8
  fail : Bool
deriving DecidableEq, Repr

/-- An extraction; `none` when it waits for bytes. -/
abbrev Reader (α : Type) := StateT Stream Option α

/-- Nothing but space. -/
def Blank (ws : List UInt8) : Prop := ∀ c ∈ ws, isSpace c = true

/-! ### Numbers -/

/-- The number that a list of digits stands for. -/
def value (ds : List UInt8) : ℕ := ds.foldl (fun v d => 10 * v + (d.toNat - 48)) 0

/-- The decimal digits of a number. -/
def digits (n : ℕ) : List UInt8 := (Nat.toDigits 10 n).map fun c => UInt8.ofNat c.toNat

/-- A number as it is printed. -/
def decimal (z : ℤ) : List UInt8 :=
  if z < 0 then 45 :: digits z.natAbs else digits z.natAbs

lemma toNat_of_isDigit {c : Char} (h : c.isDigit = true) :
    48 ≤ c.toNat ∧ c.toNat ≤ 57 := by
  simpa [Char.isDigit, UInt32.le_iff_toNat_le] using h

lemma toNat_digit {c : Char} (h : c.isDigit = true) : (UInt8.ofNat c.toNat).toNat = c.toNat := by
  have := toNat_of_isDigit h
  rw [UInt8.toNat_ofNat']
  omega

lemma value_digits (n : ℕ) : value (digits n) = n := by
  have hdigit : ∀ c ∈ Nat.toDigits 10 n, c.isDigit = true := fun c hc =>
    Nat.isDigit_of_mem_toDigits (by decide) (by decide) hc
  have hfold : ∀ (l : List Char) v, (∀ c ∈ l, c.isDigit = true) →
      l.foldl (fun v c => 10 * v + ((UInt8.ofNat c.toNat).toNat - 48)) v =
        l.foldl (fun v c => 10 * v + (c.toNat - 48)) v := by
    intro l v hl
    induction l generalizing v with
    | nil => rfl
    | cons c l ih =>
      rw [List.foldl_cons, List.foldl_cons, toNat_digit (hl c List.mem_cons_self)]
      exact ih _ fun d hd => hl d (List.mem_cons_of_mem c hd)
  rw [value, digits, List.foldl_map, hfold _ _ hdigit]
  exact Nat.ofDigitChars_ten_toDigits

lemma isDigit_of_mem_digits {n : ℕ} {d : UInt8} (h : d ∈ digits n) : isDigit d = true := by
  obtain ⟨c, hc, rfl⟩ := List.mem_map.1 h
  have hdigit := Nat.isDigit_of_mem_toDigits (by decide) (by decide) hc
  have := toNat_of_isDigit hdigit
  simp only [isDigit, Bool.and_eq_true, decide_eq_true_eq, UInt8.le_iff_toNat_le,
    toNat_digit hdigit]
  exact this

lemma digits_ne_nil (n : ℕ) : digits n ≠ [] := by simp [digits]

lemma length_digits_le {n k : ℕ} (hk : 0 < k) (h : n < 10 ^ k) : (digits n).length ≤ k := by
  rw [digits, List.length_map]
  exact (Nat.length_toDigits_le_iff (by decide) hk).2 h

/-! ### Extractors -/

/-- `stream >> code`. -/
def extractChar (code : UInt8) : Reader UInt8 := fun s =>
  if s.fail then some (code, s)
  else
    match s.rest.dropWhile isSpace with
    | [] => none
    | c :: rest => some (c, ⟨rest, false⟩)

/-- The digits in front of a text as a number with a sign, for a type of numbers with given bounds.
An extraction that finds no digits, or a number out of bounds, fails. -/
def extractDigits (min max sign : ℤ) (text : List UInt8) : Option (ℤ × Stream) :=
  match text.dropWhile isDigit with
  | [] => none
  | c :: rest =>
    let ds := text.takeWhile isDigit
    if ds = [] then some (0, ⟨c :: rest, true⟩)
    else if sign * value ds < min then some (min, ⟨c :: rest, true⟩)
    else if max < sign * value ds then some (max, ⟨c :: rest, true⟩)
    else some (sign * value ds, ⟨c :: rest, false⟩)

/-- `stream >> number`. -/
def extractInt (min max number : ℤ) : Reader ℤ := fun s =>
  if s.fail then some (number, s)
  else
    match s.rest.dropWhile isSpace with
    | [] => none
    | c :: rest =>
      if c = 45 then extractDigits min max (-1) rest
      else if c = 43 then extractDigits min max 1 rest
      else extractDigits min max 1 (c :: rest)

/-- `getline(stream, line, delimiter)`. -/
def getLine (delimiter : UInt8) (line : List UInt8) : Reader (List UInt8) := fun s =>
  if s.fail then some (line, s)
  else
    match s.rest.dropWhile (· ≠ delimiter) with
    | [] => none
    | _ :: rest => some (s.rest.takeWhile (· ≠ delimiter), ⟨rest, false⟩)

/-- `stream.get()`, for a byte that is not used. -/
def get : Reader Unit := fun s =>
  if s.fail then some ((), s)
  else
    match s.rest with
    | [] => none
    | _ :: rest => some ((), ⟨rest, false⟩)

/-- `stream.read(data, data.size())`. -/
def read (data : List UInt8) : Reader (List UInt8) := fun s =>
  if s.fail then some (data, s)
  else if s.rest.length < data.length then none
  else some (s.rest.take data.length, ⟨s.rest.drop data.length, false⟩)

/-! ### What the extractors take -/

variable {ws rest line data : List UInt8} {c code delimiter : UInt8}

lemma blank_nil : Blank [] := by
  intro c hc
  cases hc

lemma dropWhile_blank (hws : Blank ws) (hc : isSpace c = false) :
    (ws ++ c :: rest).dropWhile isSpace = c :: rest := by
  rw [List.dropWhile_append_of_pos hws]
  simp [hc]

/-- An extractor of characters skips the space in front. -/
theorem extractChar_append (hws : Blank ws) (hc : isSpace c = false) :
    extractChar code ⟨ws ++ c :: rest, false⟩ = some (c, ⟨rest, false⟩) := by
  simp only [extractChar, dropWhile_blank hws hc, Bool.false_eq_true, if_false]

lemma isSpace_of_isDigit (h : isDigit c = true) : isSpace c = false := by
  simp only [isDigit, isSpace, Bool.and_eq_true, decide_eq_true_eq, UInt8.le_iff_toNat_le,
    Bool.or_eq_false_iff, Bool.and_eq_false_iff, decide_eq_false_iff_not, beq_eq_false_iff_ne,
    ne_eq, ← UInt8.toNat_inj] at h ⊢
  simp only [UInt8.reduceToNat] at h ⊢
  omega

lemma extractDigits_digits {min max sign : ℤ} {n : ℕ} (hmin : min ≤ sign * n)
    (hmax : sign * n ≤ max) (hc : isDigit c = false) :
    extractDigits min max sign (digits n ++ c :: rest) = some (sign * n, ⟨c :: rest, false⟩) := by
  have hds : ∀ d ∈ digits n, isDigit d = true := fun d hd => isDigit_of_mem_digits hd
  have htake : (digits n ++ c :: rest).takeWhile isDigit = digits n := by
    rw [List.takeWhile_append_of_pos hds]
    simp [hc]
  have hdrop : (digits n ++ c :: rest).dropWhile isDigit = c :: rest := by
    rw [List.dropWhile_append_of_pos hds]
    simp [hc]
  rw [extractDigits, hdrop]
  simp only [htake, value_digits]
  rw [if_neg (digits_ne_nil n), if_neg (by omega), if_neg (by omega)]

/-- A number that was written is read again, up to the byte behind it. -/
theorem extractInt_decimal {min max number z : ℤ} (hmin : min ≤ z) (hmax : z ≤ max)
    (hc : isDigit c = false) :
    extractInt min max number ⟨decimal z ++ c :: rest, false⟩ = some (z, ⟨c :: rest, false⟩) := by
  by_cases hz : z < 0
  · have hspace : (decimal z ++ c :: rest).dropWhile isSpace =
        45 :: (digits z.natAbs ++ c :: rest) := by
      rw [decimal, if_pos hz]
      rfl
    have habs : -1 * (z.natAbs : ℤ) = z := by omega
    simp only [extractInt, hspace, Bool.false_eq_true, if_false, if_true]
    rw [extractDigits_digits (by omega) (by omega) hc, habs]
  · obtain ⟨d, ds, hds⟩ := List.exists_cons_of_ne_nil (digits_ne_nil z.natAbs)
    have hd : isDigit d = true := isDigit_of_mem_digits (n := z.natAbs) (by rw [hds]; simp)
    have hspace : (decimal z ++ c :: rest).dropWhile isSpace = d :: (ds ++ c :: rest) := by
      rw [decimal, if_neg hz, hds]
      exact dropWhile_blank blank_nil (isSpace_of_isDigit hd)
    have hminus : d ≠ 45 := by
      rintro rfl
      cases hd
    have hplus : d ≠ 43 := by
      rintro rfl
      cases hd
    have habs : 1 * (z.natAbs : ℤ) = z := by omega
    simp only [extractInt, hspace, Bool.false_eq_true, if_false, if_neg hminus, if_neg hplus]
    rw [← List.cons_append, ← hds, extractDigits_digits (by omega) (by omega) hc, habs]

/-- A line is read with the delimiter behind it. -/
theorem getLine_append (hline : delimiter ∉ line) {old : List UInt8} :
    getLine delimiter old ⟨line ++ delimiter :: rest, false⟩ = some (line, ⟨rest, false⟩) := by
  have hpos : ∀ c ∈ line, (decide (c ≠ delimiter)) = true := by
    intro c hc
    simp only [ne_eq, decide_not, Bool.not_eq_true', decide_eq_false_iff_not]
    rintro rfl
    exact hline hc
  have htake : (line ++ delimiter :: rest).takeWhile (fun c => decide (c ≠ delimiter)) = line := by
    rw [List.takeWhile_append_of_pos hpos]
    simp
  have hdrop : (line ++ delimiter :: rest).dropWhile (fun c => decide (c ≠ delimiter)) =
      delimiter :: rest := by
    rw [List.dropWhile_append_of_pos hpos]
    simp
  simp only [getLine, Bool.false_eq_true, if_false, htake, hdrop]

/-- As many bytes are read as there is room for, whatever they are. -/
theorem read_append (hlength : line.length = data.length) :
    read data ⟨line ++ rest, false⟩ = some (line, ⟨rest, false⟩) := by
  simp [read, ← hlength]

/-! ### More bytes -/

/-- The stream after more bytes have arrived. -/
def Stream.grow (more : List UInt8) (s : Stream) : Stream := { s with rest := s.rest ++ more }

section Grow

variable {α : Type} {more : List UInt8} {s s' : Stream} {p : UInt8 → Bool} {l : List UInt8}

lemma dropWhile_append_cons (h : l.dropWhile p = c :: rest) :
    (l ++ more).dropWhile p = c :: (rest ++ more) := by
  rw [List.dropWhile_append, h]
  rfl

lemma takeWhile_append_cons (h : l.dropWhile p = c :: rest) :
    (l ++ more).takeWhile p = l.takeWhile p := by
  have hlength := congrArg List.length (List.takeWhile_append_dropWhile (p := p) (l := l))
  rw [List.length_append, h, List.length_cons] at hlength
  rw [List.takeWhile_append, if_neg (by omega)]

/-- An extraction that has a result has the same one when more bytes arrive. -/
theorem extractChar_grow {a : UInt8} (h : extractChar code s = some (a, s')) :
    extractChar code (s.grow more) = some (a, s'.grow more) := by
  obtain ⟨l, fail⟩ := s
  cases fail with
  | true =>
    cases h
    rfl
  | false =>
    cases hdrop : l.dropWhile isSpace with
    | nil => simp [extractChar, hdrop] at h
    | cons c rest =>
      simp only [extractChar, hdrop, Bool.false_eq_true, if_false, Option.some.injEq,
        Prod.mk.injEq] at h
      obtain ⟨rfl, rfl⟩ := h
      simp [extractChar, Stream.grow, dropWhile_append_cons hdrop]

lemma extractDigits_grow {min max sign z : ℤ} {text : List UInt8}
    (h : extractDigits min max sign text = some (z, s')) :
    extractDigits min max sign (text ++ more) = some (z, s'.grow more) := by
  cases hdrop : text.dropWhile isDigit with
  | nil => simp [extractDigits, hdrop] at h
  | cons c rest =>
    simp only [extractDigits, hdrop] at h
    simp only [extractDigits, dropWhile_append_cons hdrop, takeWhile_append_cons hdrop]
    split_ifs at h ⊢ <;> (cases h; rfl)

theorem extractInt_grow {min max number z : ℤ} (h : extractInt min max number s = some (z, s')) :
    extractInt min max number (s.grow more) = some (z, s'.grow more) := by
  obtain ⟨l, fail⟩ := s
  cases fail with
  | true =>
    cases h
    rfl
  | false =>
    cases hdrop : l.dropWhile isSpace with
    | nil => simp [extractInt, hdrop] at h
    | cons c rest =>
      simp only [extractInt, hdrop, Bool.false_eq_true, if_false] at h
      simp only [extractInt, Stream.grow, dropWhile_append_cons hdrop, Bool.false_eq_true, if_false]
      rw [← List.cons_append]
      split_ifs at h ⊢ <;> exact extractDigits_grow h

theorem getLine_grow {out : List UInt8} (h : getLine delimiter line s = some (out, s')) :
    getLine delimiter line (s.grow more) = some (out, s'.grow more) := by
  obtain ⟨l, fail⟩ := s
  cases fail with
  | true =>
    cases h
    rfl
  | false =>
    cases hdrop : l.dropWhile (fun c => decide (c ≠ delimiter)) with
    | nil => simp only [getLine, hdrop, Bool.false_eq_true, if_false, reduceCtorEq] at h
    | cons c rest =>
      simp only [getLine, hdrop, Bool.false_eq_true, if_false, Option.some.injEq,
        Prod.mk.injEq] at h
      obtain ⟨rfl, rfl⟩ := h
      simp only [getLine, Stream.grow, dropWhile_append_cons hdrop, takeWhile_append_cons hdrop,
        Bool.false_eq_true, if_false]

theorem get_grow (h : get s = some ((), s')) : get (s.grow more) = some ((), s'.grow more) := by
  obtain ⟨l, fail⟩ := s
  cases fail with
  | true =>
    cases h
    rfl
  | false =>
    cases l with
    | nil => cases h
    | cons c rest =>
      cases h
      rfl

theorem read_grow {out : List UInt8} (h : read data s = some (out, s')) :
    read data (s.grow more) = some (out, s'.grow more) := by
  obtain ⟨l, fail⟩ := s
  cases fail with
  | true =>
    cases h
    rfl
  | false =>
    simp only [read, Bool.false_eq_true, if_false] at h
    split_ifs at h with hshort
    cases h
    have hlong : data.length ≤ l.length := by omega
    show (if (l ++ more).length < data.length then none
      else some ((l ++ more).take data.length, Stream.mk ((l ++ more).drop data.length) false)) = _
    rw [if_neg (by rw [List.length_append]; omega), List.take_append_of_le_length hlong,
      List.drop_append_of_le_length hlong]
    rfl

end Grow

end Scanning
