/-
Calls that return, throw or wait.

A call acts on a state.  It returns a value or throws an exception, and in both cases the state
may have changed; or it waits for something that has not happened, and then it has no outcome.
`Returns` and `Throws` describe the two outcomes of a call in a given state, with one rule for each
way in which calls are put together.
-/
import Mathlib.Logic.Basic

namespace Throwing

variable {σ τ ε α β : Type}

/-- A call on the state `σ` with exceptions `ε`; `none` while it waits. -/
abbrev Call (σ ε α : Type) := ExceptT ε (StateT σ Option) α

/-- The outcome of a call. -/
def exec (p : Call σ ε α) (s : σ) : Option (Except ε α × σ) := p.run.run s

/-- The call returns `a` and leaves the state `s'`. -/
def Returns (p : Call σ ε α) (s : σ) (a : α) (s' : σ) : Prop := exec p s = some (.ok a, s')

/-- The call throws `e` and leaves the state `s'`. -/
def Throws (p : Call σ ε α) (s : σ) (e : ε) (s' : σ) : Prop := exec p s = some (.error e, s')

/-- Look at the state. -/
def look (f : σ → α) : Call σ ε α := fun s => some (.ok (f s), s)

/-- Replace the state. -/
def change (f : σ → σ) : Call σ ε Unit := fun s => some (.ok (), f s)

/-- An action that may wait. -/
def await (f : StateT σ Option α) : Call σ ε α := fun s => (f s).map fun r => (.ok r.1, r.2)

/-- A call on a part of the state. -/
def zoom (get : τ → σ) (set : σ → τ → τ) (p : Call σ ε α) : Call τ ε α := fun t =>
  (exec p (get t)).map fun r => (r.1, set r.2 t)

/-- `try { p } catch (...) {}`. -/
def attempt (p : Call σ ε Unit) : Call σ ε Unit := fun s =>
  (exec p s).map fun r => (.ok (), r.2)

variable {p : Call σ ε α} {f : α → Call σ ε β} {s t u : σ} {a : α} {b : β} {e : ε}

lemma exec_bind (p : Call σ ε α) (f : α → Call σ ε β) (s : σ) :
    exec (p >>= f) s = (exec p s).bind fun r =>
      match r with
      | (.ok a, t) => exec (f a) t
      | (.error e, t) => some (.error e, t) := by
  show (StateT.bind p.run _ s) = _
  unfold StateT.bind exec
  cases h : p.run.run s with
  | none =>
    have h' : p.run s = none := h
    simp [h']
  | some r =>
    have h' : p.run s = some r := h
    obtain ⟨a | a, t⟩ := r <;> simp only [h', Option.bind_eq_bind, Option.bind_some] <;> rfl

lemma returns_pure (a : α) (s : σ) : Returns (pure a : Call σ ε α) s a s := rfl

lemma throws_throw (e : ε) (s : σ) : Throws (throw e : Call σ ε α) s e s := rfl

lemma returns_look (f : σ → α) (s : σ) : Returns (look f : Call σ ε α) s (f s) s := rfl

lemma returns_change (f : σ → σ) (s : σ) : Returns (change f : Call σ ε Unit) s () (f s) := rfl

lemma returns_await {f : StateT σ Option α} (h : f s = some (a, t)) :
    Returns (await f : Call σ ε α) s a t := by
  unfold Returns exec
  show (f s).map _ = _
  rw [h]
  rfl

/-- A composition whose first part returns goes on with the second one. -/
lemma Returns.exec_bind (hp : Returns p s a t) (f : α → Call σ ε β) :
    exec (p >>= f) s = exec (f a) t := by
  unfold Returns at hp
  rw [Throwing.exec_bind, hp, Option.bind_some]

/-- A composition returns when its two parts do. -/
lemma Returns.bind (hp : Returns p s a t) (hf : Returns (f a) t b u) :
    Returns (p >>= f) s b u :=
  (hp.exec_bind f).trans hf

/-- A composition throws when its first part does. -/
lemma Throws.bind (hp : Throws p s e t) : Throws (p >>= f) s e t := by
  unfold Throws at hp ⊢
  rw [exec_bind, hp, Option.bind_some]

/-- A composition throws when its second part does. -/
lemma Returns.throws (hp : Returns p s a t) (hf : Throws (f a) t e u) : Throws (p >>= f) s e u :=
  (hp.exec_bind f).trans hf

lemma Returns.zoom {get : τ → σ} {set : σ → τ → τ} {x : τ} (h : Returns p (get x) a t) :
    Returns (zoom get set p) x a (set t x) := by
  unfold Returns at h
  show (exec p (get x)).map _ = _
  rw [h]
  rfl

lemma Throws.zoom {get : τ → σ} {set : σ → τ → τ} {x : τ} (h : Throws p (get x) e t) :
    Throws (zoom get set p) x e (set t x) := by
  unfold Throws at h
  show (exec p (get x)).map _ = _
  rw [h]
  rfl

lemma Returns.attempt {p : Call σ ε Unit} (h : Returns p s () t) : Returns (attempt p) s () t := by
  unfold Returns at h
  show (exec p s).map _ = _
  rw [h]
  rfl

/-- An exception is caught, with the state as it was thrown. -/
lemma Throws.attempt {p : Call σ ε Unit} (h : Throws p s e t) : Returns (attempt p) s () t := by
  unfold Throws at h
  show (exec p s).map _ = _
  rw [h]
  rfl

/-- A call has one outcome. -/
lemma exec_unique {x y : Except ε α} (h : exec p s = some (x, t)) (h' : exec p s = some (y, u)) :
    x = y ∧ t = u :=
  Prod.mk.inj (Option.some.inj (h.symm.trans h'))

/-! ### More of the state -/

/-- The outcome of the call does not change when the state grows. -/
def Steady (grow : σ → σ) (p : Call σ ε α) : Prop :=
  ∀ s x s', exec p s = some (x, s') → exec p (grow s) = some (x, grow s')

section Steady

variable {grow : σ → σ}

lemma steady_pure (a : α) : Steady grow (pure a : Call σ ε α) := by
  intro s x s' h
  cases h
  rfl

lemma steady_throw (e : ε) : Steady grow (throw e : Call σ ε α) := by
  intro s x s' h
  cases h
  rfl

/-- A look at what does not grow. -/
lemma steady_look {f : σ → α} (hf : ∀ s, f (grow s) = f s) :
    Steady grow (look f : Call σ ε α) := by
  intro s x s' h
  cases h
  exact congrArg (fun a => some (Except.ok a, grow s)) (hf s)

lemma steady_change {f : σ → σ} (hf : ∀ s, f (grow s) = grow (f s)) :
    Steady grow (change f : Call σ ε Unit) := by
  intro s x s' h
  cases h
  exact congrArg (fun t => some (Except.ok (), t)) (hf s)

lemma steady_await {f : StateT σ Option α}
    (hf : ∀ s a s', f s = some (a, s') → f (grow s) = some (a, grow s')) :
    Steady grow (await f : Call σ ε α) := by
  intro s x s' h
  obtain ⟨⟨a, t⟩, hfs, heq⟩ := Option.map_eq_some_iff.1 h
  obtain ⟨rfl, rfl⟩ := Prod.mk.inj heq
  exact returns_await (hf s a t hfs)

/-- A composition is steady when its parts are. -/
lemma Steady.bind (hp : Steady grow p) (hf : ∀ a, Steady grow (f a)) : Steady grow (p >>= f) := by
  intro s x s' h
  rw [exec_bind] at h ⊢
  obtain ⟨⟨y, t⟩, hps, hrest⟩ := Option.bind_eq_some_iff.1 h
  rw [hp s y t hps, Option.bind_some]
  cases y with
  | ok a => exact hf a t x s' hrest
  | error e =>
    cases hrest
    rfl

/-- A test in front of a call, which throws. -/
lemma Steady.guard {c : Prop} [Decidable c] (e : ε) {g : Unit → Call σ ε β}
    (hg : Steady grow (g ())) : Steady grow (if c then throw e >>= g else g ()) := by
  split
  · exact (steady_throw e).bind fun _ => hg
  · exact hg

lemma Steady.ite {c : Prop} [Decidable c] {q : Call σ ε α} (hp : Steady grow p)
    (hq : Steady grow q) : Steady grow (if c then p else q) := by
  split
  · exact hp
  · exact hq

/-- A call on a part that grows along. -/
lemma Steady.zoom {get : τ → σ} {set : σ → τ → τ} {grow' : τ → τ} (hp : Steady grow p)
    (hget : ∀ t, get (grow' t) = grow (get t))
    (hset : ∀ s t, set (grow s) (grow' t) = grow' (set s t)) :
    Steady grow' (zoom get set p) := by
  intro t x t' h
  obtain ⟨⟨y, s⟩, hps, heq⟩ := Option.map_eq_some_iff.1 h
  obtain ⟨rfl, rfl⟩ := Prod.mk.inj heq
  show (exec p (get (grow' t))).map _ = _
  rw [hget, hp _ _ _ hps, Option.map_some, hset]

lemma Steady.attempt {p : Call σ ε Unit} (hp : Steady grow p) : Steady grow (attempt p) := by
  intro s x s' h
  obtain ⟨⟨y, t⟩, hps, heq⟩ := Option.map_eq_some_iff.1 h
  obtain ⟨rfl, rfl⟩ := Prod.mk.inj heq
  show (exec p (grow s)).map _ = _
  rw [hp s y t hps]
  rfl

lemma Steady.forM {β : Type} {f : β → Call σ ε Unit} (hf : ∀ b, Steady grow (f b)) (l : List β) :
    Steady grow (l.forM f) := by
  induction l with
  | nil => exact steady_pure ()
  | cons b l ih => exact (hf b).bind fun _ => ih

end Steady

end Throwing
