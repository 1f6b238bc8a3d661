/-
Runs of a state machine.

A state machine is given by its initial states and a labelled step relation.  A state is
reached when a run leads to it; the runs may be restricted to steps that meet a condition
on the label and on the state before the step, so that a law that only holds of some runs
can be stated with its condition.

The main results are `Reached.invariant`, the induction rule for a run, and
`Reached.of_exec`, which turns the evaluation of a deterministic machine on a list of
labels into a run.  A `Trace` is a run together with the states it went through, for laws
about what has been the case since some moment of the past.
-/
import Mathlib.Logic.Basic

namespace Runs

variable {σ ε : Type*}

/-- The states that are reached by runs all of whose steps meet the condition `ok`. -/
inductive Reached (init : σ → Prop) (step : σ → ε → σ → Prop) (ok : σ → ε → Prop) : σ → Prop
  | start {s : σ} (h : init s) : Reached init step ok s
  | step {s s' : σ} {e : ε} (h : Reached init step ok s) (hok : ok s e) (hs : step s e s') :
      Reached init step ok s'

namespace Reached

variable {init : σ → Prop} {step : σ → ε → σ → Prop} {ok ok' : σ → ε → Prop}

/-- The induction rule: a property of the initial states that every step preserves holds of
every state that is reached.  The step may use that the state before it is reached. -/
theorem invariant {I : σ → Prop} (h0 : ∀ s, init s → I s)
    (hstep : ∀ s e s', Reached init step ok s → I s → ok s e → step s e s' → I s')
    {s : σ} (h : Reached init step ok s) : I s := by
  induction h with
  | start hi => exact h0 _ hi
  | step hr hok hs ih => exact hstep _ _ _ hr ih hok hs

/-- A weaker condition on the steps allows more runs. -/
lemma mono (hok : ∀ s e, ok s e → ok' s e) {s : σ} (h : Reached init step ok s) :
    Reached init step ok' s := by
  induction h with
  | start hi => exact .start hi
  | step _ hk hs ih => exact .step ih (hok _ _ hk) hs

/-- Forget the condition. -/
lemma unconditional {s : σ} (h : Reached init step ok s) :
    Reached init step (fun _ _ => True) s := h.mono fun _ _ _ => trivial

end Reached

/-! ### Runs with their past -/

/-- A run that leads to a state, with the states it went through before, the latest first. -/
inductive Trace (init : σ → Prop) (step : σ → ε → σ → Prop) : List σ → σ → Prop
  | start {s : σ} (h : init s) : Trace init step [] s
  | step {past : List σ} {s s' : σ} {e : ε} (h : Trace init step past s) (hs : step s e s') :
      Trace init step (s :: past) s'

section Trace

variable {init : σ → Prop} {step : σ → ε → σ → Prop} {ok : σ → ε → Prop}

/-- A state that is reached has a past. -/
lemma Reached.exists_trace {s : σ} (h : Reached init step ok s) :
    ∃ past, Trace init step past s := by
  induction h with
  | start hi => exact ⟨[], .start hi⟩
  | step _ _ hs ih =>
    obtain ⟨past, hpast⟩ := ih
    exact ⟨_ :: past, .step hpast hs⟩

end Trace

/-- Run a deterministic machine on a list of labels. -/
def exec (next : σ → ε → Option σ) : σ → List ε → Option σ
  | s, [] => some s
  | s, e :: es => (next s e).bind fun t => exec next t es

/-- The evaluation of a deterministic machine is a run of it. -/
theorem Reached.of_exec {init : σ → Prop} {step : σ → ε → σ → Prop} {ok : σ → ε → Prop}
    {next : σ → ε → Option σ} (hnext : ∀ s e t, next s e = some t → ok s e ∧ step s e t)
    {s t : σ} {es : List ε} (hs : Reached init step ok s) (h : exec next s es = some t) :
    Reached init step ok t := by
  induction es generalizing s with
  | nil =>
    obtain rfl : s = t := Option.some.inj h
    exact hs
  | cons e es ih =>
    cases hn : next s e with
    | none => simp [exec, hn] at h
    | some u =>
      have hu : exec next u es = some t := by simpa [exec, hn] using h
      obtain ⟨hok, hstep⟩ := hnext s e u hn
      exact ih (.step hs hok hstep) hu

end Runs
