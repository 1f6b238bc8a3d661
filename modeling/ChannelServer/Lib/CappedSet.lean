/-
A finite set with a cap, kept as a list with a counter.

A request inserts or erases one element, and the storage may refuse it.  On the set, a request is
granted when the storage allows it, when it would change the set, and, for an insertion, when the
set is below its cap; a request that is not granted changes nothing.

`Counted` keeps the elements as a list of rows, and next to it a counter of its own.  The cap, and
whether there is anything to erase, are decided on the counter alone; whether an element is there
is decided on the rows.  The counter and the rows are changed one after the other, and nothing
compares them.

The main results are `Represents.granted_iff`, that the checks on a list without duplicates and on
a counter that agrees with it decide as those on the set, and `Represents.after`, that list and
counter still represent the set after every sequence of requests, allowed or refused in any
pattern.  Several clients can share the rows, with a counter each; `Counted.step_comm` says that
their requests commute when they are for different elements.
-/
import Mathlib.Data.Finset.Card

namespace CappedSet

variable {α : Type}

/-- What a request asks for. -/
inductive Op (α : Type)
  | insert (a : α)
  | erase (a : α)
deriving DecidableEq, Repr

/-- The element of a request. -/
def Op.elem : Op α → α
  | insert a => a
  | erase a => a

/-- The request for the image of its element. -/
def Op.map {β : Type} (f : α → β) : Op α → Op β
  | insert a => insert (f a)
  | erase a => erase (f a)

/-- A request; `ok` tells whether the storage allows it. -/
structure Request (α : Type) where
  op : Op α
  ok : Bool
deriving DecidableEq, Repr

variable [DecidableEq α]

/-! ### The set -/

/-- The requests that are granted. -/
def Granted (cap : ℕ) (F : Finset α) (r : Request α) : Prop :=
  match r.op with
  | .insert a => F.card < cap ∧ a ∉ F ∧ r.ok = true
  | .erase a => a ∈ F ∧ r.ok = true

instance (cap : ℕ) (F : Finset α) (r : Request α) : Decidable (Granted cap F r) := by
  unfold Granted
  cases r.op <;> infer_instance

/-- The set after a request that is granted. -/
def Op.apply (F : Finset α) : Op α → Finset α
  | .insert a => Insert.insert a F
  | .erase a => F.erase a

/-- The set after a request. -/
def step (cap : ℕ) (F : Finset α) (r : Request α) : Finset α :=
  if Granted cap F r then r.op.apply F else F

/-- The set after a sequence of requests. -/
def after (cap : ℕ) (F : Finset α) (rs : List (Request α)) : Finset α := rs.foldl (step cap) F

/-! ### The list with its counter -/

/-- The rows and the counter. -/
structure Counted (α : Type) where
  rows : List α
  count : ℤ
deriving DecidableEq, Repr

namespace Counted

/-- The checks, in the order in which they are made. -/
def granted (cap : ℕ) (c : Counted α) (r : Request α) : Bool :=
  match r.op with
  | .insert a => decide (c.count < cap) && (decide (a ∉ c.rows) && r.ok)
  | .erase a => decide (0 < c.count) && (decide (a ∈ c.rows) && r.ok)

lemma granted_insert {cap : ℕ} {c : Counted α} {a : α} {ok : Bool} :
    c.granted cap ⟨.insert a, ok⟩ = true ↔ c.count < cap ∧ a ∉ c.rows ∧ ok = true := by
  simp [granted]

lemma granted_erase {cap : ℕ} {c : Counted α} {a : α} {ok : Bool} :
    c.granted cap ⟨.erase a, ok⟩ = true ↔ 0 < c.count ∧ a ∈ c.rows ∧ ok = true := by
  simp [granted]

/-- The change of the rows and of the counter. -/
def change (c : Counted α) : Op α → Counted α
  | .insert a => ⟨c.rows ++ [a], c.count + 1⟩
  | .erase a => ⟨c.rows.filter (· ≠ a), c.count - 1⟩

/-- The rows and the counter after a request. -/
def step (cap : ℕ) (c : Counted α) (r : Request α) : Counted α :=
  if c.granted cap r = true then c.change r.op else c

/-- The rows and the counter after a sequence of requests. -/
def after (cap : ℕ) (c : Counted α) (rs : List (Request α)) : Counted α := rs.foldl (step cap) c

end Counted

/-- The rows list the elements of the set once each, and the counter is their number. -/
structure Represents (c : Counted α) (F : Finset α) : Prop where
  nodup : c.rows.Nodup
  mem_iff : ∀ a, a ∈ c.rows ↔ a ∈ F
  count_eq : c.count = F.card

variable {c : Counted α} {F : Finset α}

/-- A list without duplicates, counted once. -/
lemma represents_of_nodup {rows : List α} (h : rows.Nodup) :
    Represents ⟨rows, rows.length⟩ rows.toFinset where
  nodup := h
  mem_iff _ := List.mem_toFinset.symm
  count_eq := by rw [List.toFinset_card_of_nodup h]

namespace Represents

/-- The checks on the counter and on the rows decide what the set decides. -/
lemma granted_iff (h : Represents c F) (cap : ℕ) (r : Request α) :
    c.granted cap r = true ↔ Granted cap F r := by
  obtain ⟨op, ok⟩ := r
  cases op with
  | insert a =>
    have hcap : c.count < cap ↔ F.card < cap := by
      rw [h.count_eq]
      exact Int.ofNat_lt
    rw [Counted.granted_insert, hcap, h.mem_iff a]
    rfl
  | erase a =>
    -- a set with an element is not empty, so the check of the counter never decides
    have hpos : a ∈ F → 0 < c.count := fun ha => by
      have hcard : 0 < F.card := Finset.card_pos.2 ⟨a, ha⟩
      rw [h.count_eq]
      exact Int.natCast_pos.2 hcard
    rw [Counted.granted_erase, h.mem_iff a]
    exact ⟨fun hc => hc.2, fun hF => ⟨hpos hF.1, hF⟩⟩

lemma insert {a : α} (h : Represents c F) (ha : a ∉ F) :
    Represents (c.change (.insert a)) (Insert.insert a F) where
  nodup := by
    have hrows : a ∉ c.rows := fun hmem => ha ((h.mem_iff a).1 hmem)
    refine List.nodup_append.2 ⟨h.nodup, List.nodup_singleton a, fun b hb b' hb' => ?_⟩
    obtain rfl := List.mem_singleton.1 hb'
    rintro rfl
    exact hrows hb
  mem_iff b := by
    rw [Finset.mem_insert, ← h.mem_iff b]
    simp [Counted.change, or_comm]
  count_eq := by
    show c.count + 1 = _
    rw [Finset.card_insert_of_notMem ha, h.count_eq]
    rfl

lemma erase {a : α} (h : Represents c F) (ha : a ∈ F) :
    Represents (c.change (.erase a)) (F.erase a) where
  nodup := h.nodup.filter _
  mem_iff b := by
    rw [Finset.mem_erase, ← h.mem_iff b]
    simp [Counted.change, and_comm]
  count_eq := by
    have hcard : (F.erase a).card + 1 = F.card := Finset.card_erase_add_one ha
    show c.count - 1 = _
    rw [h.count_eq]
    omega

/-- One request keeps the representation. -/
theorem step (h : Represents c F) (cap : ℕ) (r : Request α) :
    Represents (c.step cap r) (CappedSet.step cap F r) := by
  unfold Counted.step CappedSet.step
  by_cases hr : Granted cap F r
  · rw [if_pos hr, if_pos ((h.granted_iff cap r).2 hr)]
    obtain ⟨op, ok⟩ := r
    cases op with
    | insert a => exact h.insert hr.2.1
    | erase a => exact h.erase hr.1
  · rw [if_neg hr, if_neg fun hc => hr ((h.granted_iff cap r).1 hc)]
    exact h

end Represents

/-- **Refinement.**  Rows and counter that represent a set do so after every sequence of
requests. -/
theorem Represents.after (h : Represents c F) (cap : ℕ) (rs : List (Request α)) :
    Represents (c.after cap rs) (CappedSet.after cap F rs) := by
  induction rs generalizing c F with
  | nil => exact h
  | cons r rs ih => exact ih (h.step cap r)

/-! ### Several counters over one list -/

section Shared

variable {c' : Counted α} {rows : List α} {k k' : ℤ} {cap : ℕ} {op op' : Op α} {r r' : Request α}
  {b : α}

lemma Counted.mem_change_of_ne (h : op.elem ≠ b) : b ∈ (c.change op).rows ↔ b ∈ c.rows := by
  cases op with
  | insert a =>
    have hab : b ≠ a := fun heq => h heq.symm
    simp [change, hab]
  | erase a =>
    have hab : b ≠ a := fun heq => h heq.symm
    simp [change, hab]

/-- A request leaves the other elements as they are. -/
lemma Counted.mem_step_of_ne (h : r.op.elem ≠ b) : b ∈ (c.step cap r).rows ↔ b ∈ c.rows := by
  unfold step
  split
  · exact mem_change_of_ne h
  · exact Iff.rfl

/-- The checks depend on the counter and, of the rows, on the element of the request only. -/
lemma Counted.granted_congr (hmem : r.op.elem ∈ c'.rows ↔ r.op.elem ∈ c.rows)
    (hcount : c'.count = c.count) : c'.granted cap r = c.granted cap r := by
  obtain ⟨op, ok⟩ := r
  cases op with
  | insert a =>
    rw [Bool.eq_iff_iff, granted_insert, granted_insert, hcount]
    exact and_congr_right fun _ => and_congr_left fun _ => not_congr hmem
  | erase a =>
    rw [Bool.eq_iff_iff, granted_erase, granted_erase, hcount]
    exact and_congr_right fun _ => and_congr_left fun _ => hmem

lemma Counted.change_comm (hne : op.elem ≠ op'.elem) :
    (change ⟨(change ⟨rows, k⟩ op).rows, k'⟩ op').rows.Perm
      (change ⟨(change ⟨rows, k'⟩ op').rows, k⟩ op).rows := by
  cases op with
  | insert a =>
    cases op' with
    | insert b =>
      simp only [change, List.append_assoc]
      exact (List.Perm.swap b a []).append_left rows
    | erase b =>
      have hab : a ≠ b := hne
      simp [change, hab]
  | erase a =>
    cases op' with
    | insert b =>
      have hba : b ≠ a := fun heq => hne heq.symm
      simp [change, hba]
    | erase b =>
      simp only [change, List.filter_filter, Bool.and_comm]
      exact List.Perm.refl _

/-- **Requests for different elements commute**, also when each has a counter of its own. -/
theorem Counted.step_comm (hne : r.op.elem ≠ r'.op.elem) :
    (step cap ⟨(step cap ⟨rows, k⟩ r).rows, k'⟩ r').rows.Perm
      (step cap ⟨(step cap ⟨rows, k'⟩ r').rows, k⟩ r).rows := by
  have hr' : granted cap ⟨(step cap ⟨rows, k⟩ r).rows, k'⟩ r' = granted cap ⟨rows, k'⟩ r' :=
    granted_congr (mem_step_of_ne hne) rfl
  have hr : granted cap ⟨(step cap ⟨rows, k'⟩ r').rows, k⟩ r = granted cap ⟨rows, k⟩ r :=
    granted_congr (mem_step_of_ne hne.symm) rfl
  by_cases h : granted cap ⟨rows, k⟩ r = true
  · by_cases h' : granted cap ⟨rows, k'⟩ r' = true
    · have hlater' := hr'.trans h'
      have hlater := hr.trans h
      simp only [step, if_pos h, if_pos h'] at hlater hlater' ⊢
      rw [if_pos hlater, if_pos hlater']
      exact change_comm hne
    · simp only [step, if_pos h, if_neg h'] at hr' ⊢
      rw [if_neg (hr' ▸ h')]
  · by_cases h' : granted cap ⟨rows, k'⟩ r' = true
    · simp only [step, if_neg h, if_pos h'] at hr ⊢
      rw [if_neg (hr ▸ h)]
    · simp only [step, if_neg h, if_neg h']
      exact List.Perm.refl _

end Shared

end CappedSet
