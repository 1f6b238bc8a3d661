/-
Threads that carry ghost values.

The programs of `ChannelServer/Lib/Interleave.lean` share one state.  What a thread has done so
far, and what it owns for the moment, is not always written there; a ghost value of each thread
records it.  A program is tracked when each of its actions changes the ghost value of its thread
by a given relation, under what the ghost value says about the state before the action.

The main result is `Threads.next_tracked`: when the invariant of all ghost values with the state
implies what each thread assumes, and the relation preserves it, then an action of a thread
keeps the invariant, and all threads tracked.
-/
import ChannelServer.Lib.Interleave

namespace Resumption

variable {ι σ φ α β γ : Type}

/-- Started with a ghost value, each action of the program changes it by `T`, when the state
before the action is as the ghost value says; the program returns with `Q`. -/
def Tracked (P : γ → σ → Prop) (T : γ → σ → σ → γ → Prop) (Q : α → γ → Prop) :
    Prog σ φ α → γ → Prop
  | .ret a, g => Q a g
  | .act f k, g => ∀ s b t, P g s → f s = .ok b t → ∃ g', T g s t g' ∧ Tracked P T Q (k b) g'

section Rules

variable {P : γ → σ → Prop} {T : γ → σ → σ → γ → Prop} {Q Q' : α → γ → Prop} {S : β → γ → Prop}
  {g : γ}

lemma tracked_pure {a : α} (h : Q a g) : Tracked P T Q (pure a : Prog σ φ α) g := h

/-- The rule of sequential composition. -/
theorem Tracked.bind {p : Prog σ φ α} {f : α → Prog σ φ β} (hp : Tracked P T Q p g)
    (hf : ∀ a g', Q a g' → Tracked P T S (f a) g') : Tracked P T S (p >>= f) g := by
  change Tracked P T S (Prog.bind p f) g
  induction p generalizing g with
  | ret a => exact hf a g hp
  | act h k ih =>
    intro s b t hs hst
    obtain ⟨g', hT, hk⟩ := hp s b t hs hst
    exact ⟨g', hT, ih b hk⟩

/-- The rule of one action. -/
lemma tracked_act {f : σ → Res σ φ α}
    (h : ∀ s a t, P g s → f s = .ok a t → ∃ g', T g s t g' ∧ Q a g') :
    Tracked P T Q (.act f .ret) g := h

lemma tracked_atomic {f : σ → α × σ} (h : ∀ s, P g s → ∃ g', T g s (f s).2 g' ∧ Q (f s).1 g') :
    Tracked P T Q (Prog.atomic f : Prog σ φ α) g := by
  refine tracked_act fun s a t hs hf => ?_
  obtain ⟨rfl, rfl⟩ := Res.ok.inj hf
  exact h s hs

lemma tracked_fail (e : φ) : Tracked P T Q (Prog.fail e : Prog σ φ α) g := by
  refine tracked_act fun s a t _ hf => ?_
  cases hf

lemma tracked_ite {c : Prop} [Decidable c] {p q : Prog σ φ α} (hp : Tracked P T Q p g)
    (hq : Tracked P T Q q g) : Tracked P T Q (if c then p else q) g := by
  split
  · exact hp
  · exact hq

end Rules

/-- **An action of a thread** keeps the invariant of the ghost values, and all threads tracked. -/
theorem Threads.next_tracked [DecidableEq ι] {P : γ → σ → Prop} {T : γ → σ → σ → γ → Prop}
    {Q : α → γ → Prop} {I : (ι → γ) → σ → Prop} (hP : ∀ G s i, I G s → P (G i) s)
    (hI : ∀ G s t i g, I G s → T (G i) s t g → I (Function.update G i g) t)
    {c d : Threads ι σ φ α} {i : ι} {G : ι → γ} (hc : ∀ j, Tracked P T Q (c.prog j) (G j))
    (h0 : I G c.state) (h : c.next i = some d) :
    ∃ g, T (G i) c.state d.state g ∧ I (Function.update G i g) d.state ∧
      ∀ j, Tracked P T Q (d.prog j) (Function.update G i g j) := by
  obtain ⟨δ, f, k, b, t, hi, hf, rfl⟩ := Threads.next_eq_some h
  have htracked := hc i
  rw [hi] at htracked
  obtain ⟨g, hT, hk⟩ := htracked c.state b t (hP G c.state i h0) hf
  refine ⟨g, hT, hI G c.state t i g h0 hT, fun j => ?_⟩
  by_cases hj : j = i
  · subst hj
    rw [Threads.set_prog_self, Function.update_self]
    exact hk
  · rw [Threads.set_prog_of_ne _ hj, Function.update_of_ne hj]
    exact hc j

end Resumption
