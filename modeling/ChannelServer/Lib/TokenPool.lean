/-
A pool of tokens.

The tokens of a pool are handed out one by one: a holder takes the first token that is free, and
puts it back at the end.  A pool is exclusive when no token is free twice, held twice, or free
and held, and none is lost.  Taking and putting back keep a pool exclusive, and when nobody holds
a token, all of them are free, in some order.
-/
import Mathlib.Data.List.Perm.Basic
import Mathlib.Logic.Function.Basic

/-- The tokens that are free, and who holds which of the others. -/
structure TokenPool (ι κ : Type) where
  free : List κ
  held : ι → Option κ

namespace TokenPool

variable {ι κ : Type} {p q : TokenPool ι κ} {i : ι} {k : κ} {all : List κ}

/-- Each of the tokens in the list is free once, or held once. -/
structure Exclusive (all : List κ) (p : TokenPool ι κ) : Prop where
  nodup : p.free.Nodup
  apart : ∀ i k, p.held i = some k → k ∉ p.free
  unique : ∀ i j k, p.held i = some k → p.held j = some k → i = j
  mem : ∀ k, k ∈ all ↔ k ∈ p.free ∨ ∃ i, p.held i = some k

/-- A pool that nobody has used. -/
lemma exclusive_init (hall : all.Nodup) : Exclusive all (⟨all, fun _ => none⟩ : TokenPool ι κ) where
  nodup := hall
  apart _ _ h := by cases h
  unique _ _ _ h := by cases h
  mem k := by simp

/-- When nobody holds a token, all of them are free. -/
lemma Exclusive.perm (hp : p.Exclusive all) (hall : all.Nodup) (hnone : ∀ i, p.held i = none) :
    p.free.Perm all := by
  refine (List.perm_ext_iff_of_nodup hp.nodup hall).2 fun k => ?_
  rw [hp.mem k]
  simp [hnone]

variable [DecidableEq ι]

/-- A holder takes the first free token. -/
theorem Exclusive.take {rest : List κ} (hp : p.Exclusive all) (hi : p.held i = none)
    (hfree : p.free = k :: rest) : Exclusive all ⟨rest, Function.update p.held i (some k)⟩ := by
  have hnodup := hp.nodup
  rw [hfree, List.nodup_cons] at hnodup
  -- the token was free, so nobody else holds it
  have hother : ∀ j, p.held j ≠ some k := fun j hj => hp.apart j k hj (by simp [hfree])
  refine ⟨hnodup.2, fun j l hj => ?_, fun j j' l hj hj' => ?_, fun l => ?_⟩
  · by_cases hji : j = i
    · subst hji
      obtain rfl : k = l := by simpa using hj
      exact hnodup.1
    · have hj' : p.held j = some l := by simpa [hji] using hj
      intro hmem
      exact hp.apart j l hj' (by simp [hfree, hmem])
  · by_cases hji : j = i <;> by_cases hji' : j' = i
    · rw [hji, hji']
    · subst hji
      obtain rfl : k = l := by simpa using hj
      exact absurd (by simpa [hji'] using hj') (hother j')
    · subst hji'
      obtain rfl : k = l := by simpa using hj'
      exact absurd (by simpa [hji] using hj) (hother j)
    · exact hp.unique j j' l (by simpa [hji] using hj) (by simpa [hji'] using hj')
  · rw [hp.mem l, hfree]
    constructor
    · rintro (hl | ⟨j, hj⟩)
      · rcases List.mem_cons.1 hl with rfl | hl
        · exact Or.inr ⟨i, Function.update_self _ _ _⟩
        · exact Or.inl hl
      · have hji : j ≠ i := by
          rintro rfl
          exact absurd (hj.symm.trans hi) (by simp)
        exact Or.inr ⟨j, (Function.update_of_ne hji _ _).trans hj⟩
    · rintro (hl | ⟨j, hj⟩)
      · exact Or.inl (List.mem_cons_of_mem _ hl)
      · by_cases hji : j = i
        · subst hji
          obtain rfl : k = l := by simpa using hj
          exact Or.inl List.mem_cons_self
        · exact Or.inr ⟨j, by simpa [hji] using hj⟩

/-- A holder puts its token back. -/
theorem Exclusive.give (hp : p.Exclusive all) (hi : p.held i = some k) :
    Exclusive all ⟨p.free ++ [k], Function.update p.held i none⟩ := by
  have hheld : ∀ j l, Function.update p.held i none j = some l → j ≠ i ∧ p.held j = some l := by
    intro j l hj
    by_cases hji : j = i
    · subst hji
      simp at hj
    · exact ⟨hji, by simpa [hji] using hj⟩
  refine ⟨?_, fun j l hj => ?_, fun j j' l hj hj' => ?_, fun l => ?_⟩
  · rw [List.nodup_append]
    refine ⟨hp.nodup, by simp, fun l hl l' hl' => ?_⟩
    obtain rfl := List.mem_singleton.1 hl'
    rintro rfl
    exact hp.apart i l hi hl
  · obtain ⟨hji, hj'⟩ := hheld j l hj
    intro hmem
    rcases List.mem_append.1 hmem with hmem | hmem
    · exact hp.apart j l hj' hmem
    · obtain rfl := List.mem_singleton.1 hmem
      exact hji (hp.unique j i l hj' hi)
  · exact hp.unique j j' l (hheld j l hj).2 (hheld j' l hj').2
  · rw [hp.mem l, List.mem_append, List.mem_singleton]
    constructor
    · rintro (hl | ⟨j, hj⟩)
      · exact Or.inl (Or.inl hl)
      · by_cases hji : j = i
        · subst hji
          exact Or.inl (Or.inr (Option.some.inj (hj.symm.trans hi)))
        · exact Or.inr ⟨j, (Function.update_of_ne hji _ _).trans hj⟩
    · rintro ((hl | rfl) | ⟨j, hj⟩)
      · exact Or.inl hl
      · exact Or.inr ⟨i, hi⟩
      · exact Or.inr ⟨j, (hheld j l hj).2⟩

end TokenPool
