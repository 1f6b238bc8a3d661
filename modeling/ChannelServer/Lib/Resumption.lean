/-
Programs as trees of atomic actions.

A program of a multi-threaded system is a tree: a leaf carries the result, and an
inner node carries one atomic action on the shared state together with the
continuation of the program for each result of the action.  An action may also be
disabled in a state (a lock that is taken) or fail (a null pointer that is
dereferenced).  The same tree has two meanings: `Prog.run` executes it on its own, from
beginning to end, and `ChannelServer/Lib/Interleave.lean` executes several trees with
their actions interleaved.

The main results are

* `Prog.run_bind`: the outcome of a sequential composition;
* `Prog.Within.run`: a program all of whose actions stay within a reflexive and
  transitive relation stays within that relation as a whole;
* `Prog.Avoids.run`: a program none of whose actions fails in some way does not do so as a whole,
  and `Prog.failure_bind_of_done` and its companions for the failure of a composition;
* `Prog.Triple.bind` and its companions: the rules of pre- and postconditions.
-/
import Mathlib.Logic.Relation

namespace Resumption

variable {σ φ α β γ : Type}

/-- The effect of one atomic action in one state: a result and a next state, a refusal
to act in this state, or a failure. -/
inductive Res (σ φ β : Type) : Type
  | ok (b : β) (s : σ)
  | wait
  | fail (e : φ)

/-- A program over the state `σ` with failures `φ` and results `α`. -/
inductive Prog (σ φ α : Type) : Type 1
  | ret (a : α) : Prog σ φ α
  | act {β : Type} (f : σ → Res σ φ β) (k : β → Prog σ φ α) : Prog σ φ α

/-- What the execution of a whole program comes to. -/
inductive Out (σ φ α : Type) : Type
  | done (a : α) (s : σ)
  | blocked (s : σ)
  | failed (e : φ)

namespace Out

/-- Continue with the result and the state of an execution that has finished. -/
def bind (o : Out σ φ α) (f : α → σ → Out σ φ β) : Out σ φ β :=
  match o with
  | done a s => f a s
  | blocked s => blocked s
  | failed e => failed e

@[simp] lemma bind_done (a : α) (s : σ) (f : α → σ → Out σ φ β) :
    (done a s).bind f = f a s := rfl

@[simp] lemma bind_blocked (s : σ) (f : α → σ → Out σ φ β) :
    (blocked s : Out σ φ α).bind f = blocked s := rfl

@[simp] lemma bind_failed (e : φ) (f : α → σ → Out σ φ β) :
    (failed e : Out σ φ α).bind f = failed e := rfl

lemma bind_eq_done {o : Out σ φ α} {f : α → σ → Out σ φ β} {b : β} {t : σ} :
    o.bind f = done b t ↔ ∃ a s, o = done a s ∧ f a s = done b t := by
  cases o <;> simp [and_assoc]

/-- The value and the state with which the execution returns. -/
def result : Out σ φ α → Option (α × σ)
  | done a s => some (a, s)
  | blocked _ => none
  | failed _ => none

lemma result_eq_some {o : Out σ φ α} {a : α} {s : σ} :
    o.result = some (a, s) ↔ o = done a s := by
  cases o <;> simp [result]

/-- The state in which the execution is blocked. -/
def blockedAt : Out σ φ α → Option σ
  | done _ _ => none
  | blocked s => some s
  | failed _ => none

lemma blockedAt_eq_some {o : Out σ φ α} {s : σ} : o.blockedAt = some s ↔ o = blocked s := by
  cases o <;> simp [blockedAt]

/-- The failure with which the execution ends. -/
def failure : Out σ φ α → Option φ
  | done _ _ => none
  | blocked _ => none
  | failed e => some e

lemma failure_eq_some {o : Out σ φ α} {e : φ} : o.failure = some e ↔ o = failed e := by
  cases o <;> simp [failure]

end Out

namespace Prog

/-- Run `f` on the result of `p`. -/
def bind : Prog σ φ α → (α → Prog σ φ β) → Prog σ φ β
  | ret a, f => f a
  | act g k, f => act g (fun b => bind (k b) f)

instance : Monad (Prog σ φ) where
  pure := ret
  bind := bind

/-- One atomic action that always succeeds: it reads the state and replaces it. -/
def atomic (f : σ → β × σ) : Prog σ φ β := act (fun s => Res.ok (f s).1 (f s).2) ret

/-- Read the state. -/
def read (f : σ → β) : Prog σ φ β := atomic fun s => (f s, s)

/-- Replace the state. -/
def modify (f : σ → σ) : Prog σ φ Unit := atomic fun s => ((), f s)

/-- Fail. -/
def fail (e : φ) : Prog σ φ β := act (fun _ => Res.fail e) ret

/-- Execute a program from beginning to end. -/
def run : Prog σ φ α → σ → Out σ φ α
  | ret a, s => Out.done a s
  | act f k, s =>
      match f s with
      | Res.ok b s' => run (k b) s'
      | Res.wait => Out.blocked s
      | Res.fail e => Out.failed e

/-! ### The monad laws -/

lemma bind_ret (p : Prog σ φ α) : bind p ret = p := by
  induction p with
  | ret a => rfl
  | act f k ih => simp [bind, ih]

lemma bind_assoc (p : Prog σ φ α) (f : α → Prog σ φ β) (g : β → Prog σ φ γ) :
    bind (bind p f) g = bind p (fun a => bind (f a) g) := by
  induction p with
  | ret a => rfl
  | act h k ih => simp [bind, ih]

instance : LawfulMonad (Prog σ φ) :=
  LawfulMonad.mk' (Prog σ φ) (fun p => bind_ret p) (fun _ _ => rfl) bind_assoc

/-! ### Execution -/

@[simp] lemma run_pure (a : α) (s : σ) : run (pure a : Prog σ φ α) s = Out.done a s := rfl

@[simp] lemma run_bind (p : Prog σ φ α) (f : α → Prog σ φ β) (s : σ) :
    run (p >>= f) s = (run p s).bind fun a s' => run (f a) s' := by
  change run (bind p f) s = _
  induction p generalizing s with
  | ret a => rfl
  | act g k ih =>
    simp only [bind, run]
    cases g s with
    | ok b s' => exact ih b s'
    | wait => rfl
    | fail e => rfl

/-- A composition finishes when its two parts finish one after the other. -/
lemma run_bind_eq_done {p : Prog σ φ α} {f : α → Prog σ φ β} {s t : σ} {b : β} :
    run (p >>= f) s = Out.done b t ↔
      ∃ a u, run p s = Out.done a u ∧ run (f a) u = Out.done b t := by
  rw [run_bind, Out.bind_eq_done]

/-- A composition returns when its first part does and the second part does from there. -/
lemma returns_bind {p : Prog σ φ α} {f : α → Prog σ φ β} {s t : σ} {a : α} {Q : σ → Prop}
    (hp : run p s = Out.done a t) (hf : ∃ b u, run (f a) t = Out.done b u ∧ Q u) :
    ∃ b u, run (p >>= f) s = Out.done b u ∧ Q u := by
  obtain ⟨b, u, hu, hQ⟩ := hf
  exact ⟨b, u, run_bind_eq_done.2 ⟨a, t, hp, hu⟩, hQ⟩

@[simp] lemma run_atomic (f : σ → β × σ) (s : σ) :
    run (atomic f : Prog σ φ β) s = Out.done (f s).1 (f s).2 := rfl

@[simp] lemma run_read (f : σ → β) (s : σ) :
    run (read f : Prog σ φ β) s = Out.done (f s) s := rfl

@[simp] lemma run_modify (f : σ → σ) (s : σ) :
    run (modify f : Prog σ φ Unit) s = Out.done () (f s) := rfl

@[simp] lemma run_fail (e : φ) (s : σ) :
    run (fail e : Prog σ φ β) s = Out.failed e := rfl

@[simp] lemma run_ite (c : Prop) [Decidable c] (p q : Prog σ φ α) (s : σ) :
    run (if c then p else q) s = if c then run p s else run q s := by
  split <;> rfl

/-! ### Programs that stay within a relation -/

/-- Every action of the program, in every state, stays within the relation `R`. -/
def Within (R : σ → σ → Prop) : Prog σ φ α → Prop
  | ret _ => True
  | act f k => (∀ s b s', f s = Res.ok b s' → R s s') ∧ ∀ b, Within R (k b)

variable {R : σ → σ → Prop}

lemma within_pure (a : α) : Within R (pure a : Prog σ φ α) := trivial

lemma within_bind {p : Prog σ φ α} {f : α → Prog σ φ β} (hp : Within R p)
    (hf : ∀ a, Within R (f a)) : Within R (p >>= f) := by
  change Within R (bind p f)
  induction p with
  | ret a => exact hf a
  | act g k ih => exact ⟨hp.1, fun b => ih b (hp.2 b)⟩

lemma within_ite {c : Prop} [Decidable c] {p q : Prog σ φ α} (hp : Within R p)
    (hq : Within R q) : Within R (if c then p else q) := by
  split
  · exact hp
  · exact hq

lemma within_atomic {f : σ → β × σ} (h : ∀ s, R s (f s).2) :
    Within R (atomic f : Prog σ φ β) := by
  refine ⟨fun s b s' hs => ?_, fun _ => trivial⟩
  obtain ⟨-, rfl⟩ := Res.ok.inj hs
  exact h s

lemma within_modify {f : σ → σ} (h : ∀ s, R s (f s)) :
    Within R (modify f : Prog σ φ Unit) := within_atomic h

lemma within_read (hR : ∀ s, R s s) (f : σ → β) : Within R (read f : Prog σ φ β) :=
  within_atomic hR

lemma within_fail (e : φ) : Within R (fail e : Prog σ φ β) :=
  ⟨fun _ _ _ h => (nomatch h), fun _ => trivial⟩

lemma Within.mono {R' : σ → σ → Prop} (hRR' : ∀ s t, R s t → R' s t) {p : Prog σ φ α}
    (h : Within R p) : Within R' p := by
  induction p with
  | ret a => trivial
  | act f k ih => exact ⟨fun s b s' hs => hRR' _ _ (h.1 s b s' hs), fun b => ih b (h.2 b)⟩

/-- A program that stays within a reflexive and transitive relation step by step stays
within it as a whole. -/
theorem Within.run (hrefl : ∀ s, R s s) (htrans : ∀ a b c, R a b → R b c → R a c)
    {p : Prog σ φ α} (h : Within R p) {s s' : σ} {a : α} (hr : run p s = Out.done a s') :
    R s s' := by
  induction p generalizing s with
  | ret b =>
    obtain ⟨-, rfl⟩ := Out.done.inj hr
    exact hrefl s
  | act f k ih =>
    rw [Prog.run] at hr
    cases hf : f s with
    | ok b t =>
      rw [hf] at hr
      exact htrans _ _ _ (h.1 s b t hf) (ih b (h.2 b) hr)
    | wait => rw [hf] at hr; cases hr
    | fail e => rw [hf] at hr; cases hr

/-- Every execution of the program that finishes relates its two states by `R`. -/
def Along (R : σ → σ → Prop) (p : Prog σ φ α) : Prop :=
  ∀ s a s', run p s = Out.done a s' → R s s'

lemma along_pure (hrefl : ∀ s, R s s) (a : α) : Along R (pure a : Prog σ φ α) := by
  intro s b s' h
  obtain ⟨-, rfl⟩ := Out.done.inj h
  exact hrefl s

lemma along_bind (htrans : ∀ a b c, R a b → R b c → R a c) {p : Prog σ φ α}
    {f : α → Prog σ φ β} (hp : Along R p) (hf : ∀ a, Along R (f a)) : Along R (p >>= f) := by
  intro s b s' h
  obtain ⟨a, u, hu, h⟩ := run_bind_eq_done.1 h
  exact htrans _ _ _ (hp s a u hu) (hf a u b s' h)

/-- One action relates its two states. -/
lemma along_act {f : σ → Res σ φ α} (h : ∀ s b s', f s = Res.ok b s' → R s s') :
    Along R (act f ret) := by
  intro s b s' hr
  rw [run] at hr
  cases hf : f s with
  | ok c t =>
    rw [hf] at hr
    obtain ⟨-, rfl⟩ := Out.done.inj hr
    exact h s c t hf
  | wait => rw [hf] at hr; cases hr
  | fail e => rw [hf] at hr; cases hr

/-! ### Programs that avoid a failure -/

/-- No action of the program, in any state, fails with `e`. -/
def Avoids (e : φ) : Prog σ φ α → Prop
  | ret _ => True
  | act f k => (∀ s, f s ≠ Res.fail e) ∧ ∀ b, Avoids e (k b)

section Avoids

variable {e e' : φ}

lemma avoids_pure (a : α) : Avoids e (pure a : Prog σ φ α) := trivial

lemma avoids_bind {p : Prog σ φ α} {f : α → Prog σ φ β} (hp : Avoids e p)
    (hf : ∀ a, Avoids e (f a)) : Avoids e (p >>= f) := by
  change Avoids e (bind p f)
  induction p with
  | ret a => exact hf a
  | act g k ih => exact ⟨hp.1, fun b => ih b (hp.2 b)⟩

lemma avoids_ite {c : Prop} [Decidable c] {p q : Prog σ φ α} (hp : Avoids e p)
    (hq : Avoids e q) : Avoids e (if c then p else q) := by
  split
  · exact hp
  · exact hq

/-- One action that does not fail with `e`. -/
lemma avoids_act {f : σ → Res σ φ β} (h : ∀ s, f s ≠ Res.fail e) : Avoids e (act f ret) :=
  ⟨h, fun _ => trivial⟩

lemma avoids_atomic (f : σ → β × σ) : Avoids e (atomic f : Prog σ φ β) :=
  avoids_act fun _ h => nomatch h

lemma avoids_fail (h : e' ≠ e) : Avoids e (fail e' : Prog σ φ β) :=
  avoids_act fun _ he => h (Res.fail.inj he)

/-- A program that avoids a failure action by action avoids it as a whole. -/
theorem Avoids.run {p : Prog σ φ α} (h : Avoids e p) (s : σ) : run p s ≠ Out.failed e := by
  induction p generalizing s with
  | ret a => exact fun hr => nomatch hr
  | act f k ih =>
    intro hr
    rw [Prog.run] at hr
    cases hf : f s with
    | ok b t =>
      rw [hf] at hr
      exact ih b (h.2 b) t hr
    | wait => rw [hf] at hr; cases hr
    | fail e' =>
      rw [hf] at hr
      obtain rfl := Out.failed.inj hr
      exact h.1 s hf

end Avoids

/-- No action of the program fails. -/
abbrev Unfailing (p : Prog σ φ α) : Prop := ∀ e, Avoids e p

section Unfailing

variable {p : Prog σ φ α} {f : α → Prog σ φ β} {s t : σ}

lemma unfailing_pure (a : α) : Unfailing (pure a : Prog σ φ α) := fun _ => avoids_pure a

lemma unfailing_bind (hp : Unfailing p) (hf : ∀ a, Unfailing (f a)) : Unfailing (p >>= f) :=
  fun e => avoids_bind (hp e) fun a => hf a e

lemma unfailing_ite {c : Prop} [Decidable c] {q : Prog σ φ α} (hp : Unfailing p)
    (hq : Unfailing q) : Unfailing (if c then p else q) := fun e => avoids_ite (hp e) (hq e)

lemma unfailing_atomic (g : σ → β × σ) : Unfailing (atomic g : Prog σ φ β) :=
  fun _ => avoids_atomic g

lemma Unfailing.failure (h : Unfailing p) (s : σ) : (run p s).failure = none := by
  cases hr : run p s with
  | done a t => rfl
  | blocked t => rfl
  | failed e => exact absurd hr ((h e).run s)

/-- The failure of a composition whose first part returns. -/
lemma failure_bind_of_done {a : α} (h : run p s = Out.done a t) :
    (run (p >>= f) s).failure = (run (f a) t).failure := by
  rw [run_bind, h, Out.bind_done]

/-- The failure of a composition whose first part fails. -/
lemma failure_bind_of_failure {e : φ} (h : (run p s).failure = some e) :
    (run (p >>= f) s).failure = some e := by
  rw [run_bind, Out.failure_eq_some.1 h]
  rfl

/-- The failure of a composition whose second part does not fail. -/
lemma failure_bind_left (hf : ∀ a, Unfailing (f a)) :
    (run (p >>= f) s).failure = (run p s).failure := by
  rw [run_bind]
  cases run p s with
  | done a t => exact (hf a).failure t
  | blocked t => rfl
  | failed e => rfl

end Unfailing

/-! ### Pre- and postconditions -/

/-- Executed in a state that meets `P`, the program is never blocked, and when it finishes,
its result and its state meet `Q`.  It may fail. -/
def Triple (P : σ → Prop) (p : Prog σ φ α) (Q : α → σ → Prop) : Prop :=
  ∀ s, P s →
    match run p s with
    | Out.done a t => Q a t
    | Out.blocked _ => False
    | Out.failed _ => True

section Triple

variable {P P' : σ → Prop} {Q Q' : α → σ → Prop} {S : β → σ → Prop} {p : Prog σ φ α}

lemma Triple.not_blocked (h : Triple P p Q) {s t : σ} (hs : P s) : run p s ≠ Out.blocked t := by
  intro hr
  have := h s hs
  rw [hr] at this
  exact this

lemma Triple.of_done (h : Triple P p Q) {s t : σ} {a : α} (hs : P s)
    (hr : run p s = Out.done a t) : Q a t := by
  have := h s hs
  rwa [hr] at this

lemma triple_pure {a : α} (h : ∀ s, P s → Q a s) : Triple P (pure a : Prog σ φ α) Q := h

/-- The rule of sequential composition. -/
theorem Triple.bind {f : α → Prog σ φ β} (hp : Triple P p Q) (hf : ∀ a, Triple (Q a) (f a) S) :
    Triple P (p >>= f) S := by
  intro s hs
  have h := hp s hs
  rw [run_bind]
  cases hr : run p s with
  | done a t =>
    rw [hr] at h
    exact hf a t h
  | blocked t =>
    rw [hr] at h
    exact h.elim
  | failed e => trivial

lemma Triple.conseq (h : Triple P p Q) (hP : ∀ s, P' s → P s) (hQ : ∀ a s, Q a s → Q' a s) :
    Triple P' p Q' := by
  intro s hs
  have h := h s (hP s hs)
  cases hr : run p s with
  | done a t =>
    rw [hr] at h
    exact hQ a t h
  | blocked t =>
    rw [hr] at h
    exact h
  | failed e => trivial

lemma triple_atomic {f : σ → α × σ} (h : ∀ s, P s → Q (f s).1 (f s).2) :
    Triple P (atomic f : Prog σ φ α) Q := h

lemma triple_fail {e : φ} : Triple P (fail e : Prog σ φ α) Q := fun _ _ => trivial

lemma triple_ite {c : Prop} [Decidable c] {q : Prog σ φ α} (hp : c → Triple P p Q)
    (hq : ¬ c → Triple P q Q) : Triple P (if c then p else q) Q := by
  split
  · exact hp ‹_›
  · exact hq ‹_›

end Triple

end Prog

end Resumption
