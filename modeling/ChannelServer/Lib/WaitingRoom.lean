/-
Pairing the people in a queue, and the waiting room that it refines.

A queue of people is served by looking at its first two entries.  Entries go stale: a
person in the queue may meanwhile have left, which is only noticed when the entry comes to
the front.  `serve` takes the first two entries off the queue and returns them as a pair if
both are waiting and distinct; otherwise it drops what it found to be of no use.

A queue that is served whenever somebody arrives never needs more than one place, and then
behaves like a waiting room with one chair.  The main results are

* `serve_toList`: serving a queue of at most one entry after an arrival is `arrive`, the
  step of the waiting room;
* `serve_pair` and `mem_serve_of_waiting`: a pair that is formed is waiting, and nobody who
  waits is dropped without being paired.
-/
import Mathlib.Data.List.Basic

namespace WaitingRoom

variable {α : Type} [DecidableEq α]

/-- Serve a queue once: the pair that is formed, if any, and what remains in the queue. -/
def serve (waiting : α → Bool) : List α → Option (α × α) × List α
  | a :: b :: rest =>
      if waiting a then
        if waiting b ∧ a ≠ b then (some (a, b), rest) else (none, a :: rest)
      else (none, b :: rest)
  | q => (none, q)

/-- The step of a waiting room with one chair: `b` arrives while `a` may sit in the chair.
Returns who sits in the chair then, and the pair that leaves together. -/
def arrive (waiting : α → Bool) (chair : Option α) (b : α) : Option α × Option (α × α) :=
  match chair with
  | none => (some b, none)
  | some a =>
      if waiting a = false then (some b, none)
      else if a = b ∨ waiting b = false then (some a, none)
      else (none, some (a, b))

variable {waiting : α → Bool} {q : List α} {a b x : α}

/-- Serving a queue of at most one entry after an arrival is the step of the waiting room. -/
theorem serve_toList (waiting : α → Bool) (chair : Option α) (b : α) :
    serve waiting (chair.toList ++ [b]) =
      ((arrive waiting chair b).2, (arrive waiting chair b).1.toList) := by
  cases chair with
  | none => rfl
  | some a =>
    simp only [Option.toList_some, List.singleton_append, serve, arrive]
    cases ha : waiting a
    · simp
    · by_cases hab : a = b
      · simp [hab]
      · cases hb : waiting b <;> simp [hab]

omit [DecidableEq α] in
/-- A queue of at most one entry is the list of its first entry. -/
lemma eq_toList_head? (h : q.length ≤ 1) : q = q.head?.toList := by
  match q, h with
  | [], _ => rfl
  | [a], _ => rfl
  | a :: b :: rest, h => simp at h

lemma serve_length_le (h : q.length ≤ 2) : (serve waiting q).2.length ≤ 1 := by
  match q, h with
  | [], _ => simp [serve]
  | [a], _ => simp [serve]
  | [a, b], _ =>
    rw [serve]
    split_ifs <;> simp
  | a :: b :: c :: rest, h => simp at h

/-- Serving a queue brings no new entries into it. -/
lemma serve_subset : (serve waiting q).2 ⊆ q := by
  match q with
  | [] => exact List.Subset.refl _
  | [a] => exact List.Subset.refl _
  | a :: b :: rest =>
    rw [serve]
    split_ifs
    · exact fun x hx => List.mem_cons_of_mem _ (List.mem_cons_of_mem _ hx)
    · exact List.cons_subset_cons a (List.subset_cons_self b rest)
    · exact List.subset_cons_self a _

/-- A pair that is formed consists of the first two entries, both waiting and distinct. -/
theorem serve_pair (h : (serve waiting q).1 = some (a, b)) :
    waiting a = true ∧ waiting b = true ∧ a ≠ b ∧ q = a :: b :: (serve waiting q).2 := by
  match q, h with
  | [], h => cases h
  | [c], h => cases h
  | c :: d :: rest, h =>
    rw [serve] at h ⊢
    split_ifs at h ⊢ with hc hd
    obtain ⟨rfl, rfl⟩ := Prod.mk.inj (Option.some.inj h)
    exact ⟨hc, hd.1, hd.2, rfl⟩

/-- When no pair is formed, nobody who waits leaves the queue. -/
theorem mem_serve_of_waiting (h : (serve waiting q).1 = none) (hx : x ∈ q)
    (hw : waiting x = true) : x ∈ (serve waiting q).2 := by
  match q, h, hx with
  | [], _, hx => exact hx
  | [c], _, hx => exact hx
  | c :: d :: rest, h, hx =>
    rw [serve] at h ⊢
    rcases List.mem_cons.1 hx with rfl | hx'
    · split_ifs at h ⊢ with hd
      exact List.mem_cons_self
    · rcases List.mem_cons.1 hx' with rfl | hrest
      · split_ifs at h ⊢ with hc hd
        · -- `x` is waiting, so it was dropped as a second entry of the first one
          have hcx : c = x := by
            by_contra hne
            exact hd ⟨hw, hne⟩
          rw [hcx]
          exact List.mem_cons_self
        · exact List.mem_cons_self
      · split_ifs at h ⊢ <;> exact List.mem_cons_of_mem _ hrest

omit [DecidableEq α] in
lemma append_singleton_eq_cons_iff {l : List α} : l ++ [b] = x :: l ↔ x = b ∧ ∀ y ∈ l, y = b := by
  induction l generalizing x with
  | nil => simp [eq_comm]
  | cons z l ih =>
    rw [List.cons_append, List.cons.injEq, ih, List.forall_mem_cons]
    constructor
    · rintro ⟨rfl, rfl, hl⟩
      exact ⟨rfl, rfl, hl⟩
    · rintro ⟨rfl, rfl, hl⟩
      exact ⟨rfl, rfl, hl⟩

/-- When an arrival leaves no trace in the queue: it drops an entry of its own, or it does not wait
behind somebody who does, and all other entries are its own as well. -/
theorem serve_append_eq_iff : serve waiting (q ++ [b]) = (none, q) ↔
    ∃ x rest, q = x :: rest ∧ (∀ y ∈ rest, y = b) ∧
      (x = b ∨ waiting b = false ∧ waiting x = true) := by
  cases q with
  | nil => simp [serve]
  | cons x rest =>
    obtain ⟨y, tail, hy⟩ : ∃ y tail, rest ++ [b] = y :: tail :=
      List.exists_cons_of_ne_nil (by simp)
    rw [List.cons_append, hy, serve]
    have hrest : (∀ z ∈ rest, z = b) → y = b ∧ tail = rest := fun hall => by
      have hb : rest ++ [b] = b :: rest := append_singleton_eq_cons_iff.2 ⟨rfl, hall⟩
      exact List.cons.inj (hy.symm.trans hb)
    constructor
    · intro h
      refine ⟨x, rest, rfl, ?_⟩
      split_ifs at h with hx hpair
      · cases (Prod.mk.inj h).1
      · -- the second entry was dropped
        obtain rfl : tail = rest := (List.cons.inj (Prod.mk.inj h).2).2
        obtain ⟨rfl, hall⟩ := append_singleton_eq_cons_iff.1 hy
        refine ⟨hall, ?_⟩
        by_cases hyw : waiting y = true
        · exact Or.inl (by_contra fun hne => hpair ⟨hyw, hne⟩)
        · exact Or.inr ⟨Bool.eq_false_iff.2 hyw, hx⟩
      · -- the first entry was dropped
        have hcons := (Prod.mk.inj h).2
        rw [← hy] at hcons
        obtain ⟨rfl, hall⟩ := append_singleton_eq_cons_iff.1 hcons
        exact ⟨hall, Or.inl rfl⟩
    · rintro ⟨x', rest', heq, hall, hx⟩
      obtain ⟨rfl, rfl⟩ := List.cons.inj heq
      obtain ⟨rfl, rfl⟩ := hrest hall
      rcases hx with rfl | ⟨hb, hx⟩
      · simp
      · simp [hb, hx]

end WaitingRoom
