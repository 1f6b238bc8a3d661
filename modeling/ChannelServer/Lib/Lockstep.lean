/-
Programs executed in lockstep.

Two executions of one program from different states are in lockstep when they perform the same
actions with the same results.  `Prog.Lockstep R p Q` says so for all pairs of states that are
related by `R`, with `Q` relating the final states for each result; it comes with the usual
rules.  Most actions have a simpler reason for it: they commute with the function `h` that maps
one state to the other.  A program is `Steady` when all its actions do so, and
`Steady.lockstep` brings such programs under the rules.

At the level of a state machine, `Runs.Path` is a run with its list of labels, and
`Runs.Path.lockstep` follows a run from another state.
-/
import ChannelServer.Lib.Resumption
import ChannelServer.Lib.Runs

namespace Resumption

variable {σ φ α β γ : Type}

/-- Change the state of an effect. -/
def Res.map (h : σ → σ) : Res σ φ β → Res σ φ β
  | ok b s => ok b (h s)
  | wait => wait
  | fail e => fail e

/-- Two executions that come to the same, with states related by `Q`. -/
inductive Out.Alike (Q : α → σ → σ → Prop) : Out σ φ α → Out σ φ α → Prop
  | done {a : α} {s t : σ} (h : Q a s t) : Alike Q (done a s) (done a t)
  | blocked {s t : σ} : Alike Q (blocked s) (blocked t)
  | failed {e : φ} : Alike Q (failed e) (failed e)

namespace Out.Alike

variable {Q Q' : α → σ → σ → Prop} {S : β → σ → σ → Prop} {o o' : Out σ φ α}

/-- When one execution finishes, the other one finishes with the same result. -/
lemma of_done {a : α} {s : σ} (h : Alike Q (.done a s) o) : ∃ t, o = .done a t ∧ Q a s t := by
  cases h with
  | done hq => exact ⟨_, rfl, hq⟩

lemma bind {f g : α → σ → Out σ φ β} (h : Alike Q o o')
    (hf : ∀ a s t, Q a s t → Alike S (f a s) (g a t)) : Alike S (o.bind f) (o'.bind g) := by
  cases h with
  | done hq => exact hf _ _ _ hq
  | blocked => exact .blocked
  | failed => exact .failed

lemma mono (h : Alike Q o o') (hQ : ∀ a s t, o = .done a s → Q a s t → Q' a s t) :
    Alike Q' o o' := by
  cases h with
  | done hq => exact .done (hQ _ _ _ rfl hq)
  | blocked => exact .blocked
  | failed => exact .failed

end Out.Alike

namespace Prog

/-! ### Lockstep -/

/-- From states related by `R`, the executions of the program come to the same, with states
related by `Q`. -/
def Lockstep (R : σ → σ → Prop) (p : Prog σ φ α) (Q : α → σ → σ → Prop) : Prop :=
  ∀ s t, R s t → Out.Alike Q (p.run s) (p.run t)

section Lockstep

variable {R R' : σ → σ → Prop} {Q Q' : α → σ → σ → Prop} {S : β → σ → σ → Prop}
  {p : Prog σ φ α}

lemma lockstep_pure {a : α} (h : ∀ s t, R s t → Q a s t) :
    Lockstep R (pure a : Prog σ φ α) Q := fun s t hst => .done (h s t hst)

/-- The rule of sequential composition. -/
theorem Lockstep.bind {f : α → Prog σ φ β} (hp : Lockstep R p Q)
    (hf : ∀ a, Lockstep (Q a) (f a) S) : Lockstep R (p >>= f) S := by
  intro s t hst
  rw [run_bind, run_bind]
  exact (hp s t hst).bind fun a s' t' => hf a s' t'

lemma Lockstep.conseq (h : Lockstep R p Q) (hR : ∀ s t, R' s t → R s t)
    (hQ : ∀ a s t, Q a s t → Q' a s t) : Lockstep R' p Q' :=
  fun s t hst => (h s t (hR s t hst)).mono fun a s' t' _ => hQ a s' t'

lemma lockstep_ite {c : Prop} [Decidable c] {q : Prog σ φ α} (hp : c → Lockstep R p Q)
    (hq : ¬ c → Lockstep R q Q) : Lockstep R (if c then p else q) Q := by
  split
  · exact hp ‹_›
  · exact hq ‹_›

/-- A part of the precondition that is not about the states. -/
lemma lockstep_and {c : Prop} (h : c → Lockstep R p Q) : Lockstep (fun s t => R s t ∧ c) p Q :=
  fun s t hst => h hst.2 s t hst.1

/-- From equal states. -/
lemma lockstep_eq (p : Prog σ φ α) : Lockstep Eq p fun _ => Eq := by
  rintro s _ rfl
  cases p.run s with
  | done a t => exact .done rfl
  | blocked t => exact .blocked
  | failed e => exact .failed

/-- A case distinction on the pair of states. -/
lemma Lockstep.or (h : Lockstep R p Q) (h' : Lockstep R' p Q) :
    Lockstep (fun s t => R s t ∨ R' s t) p Q := by
  rintro s t (hst | hst)
  · exact h s t hst
  · exact h' s t hst

end Lockstep

/-! ### Programs that commute with a change of the state -/

/-- Every action of the program commutes with `h` and preserves `I`, in the states that meet
`I`. -/
def Steady (h : σ → σ) (I : σ → Prop) : Prog σ φ α → Prop
  | ret _ => True
  | act f k => (∀ s, I s → f (h s) = (f s).map h) ∧
      (∀ s b t, I s → f s = Res.ok b t → I t) ∧ ∀ b, Steady h I (k b)

/-- The second of two states is the image of the first one, which meets `I`. -/
def Under (h : σ → σ) (I : σ → Prop) (s t : σ) : Prop := t = h s ∧ I s

section Steady

variable {h : σ → σ} {I : σ → Prop}

lemma steady_pure (a : α) : Steady h I (pure a : Prog σ φ α) := trivial

lemma Steady.bind {p : Prog σ φ α} {f : α → Prog σ φ β} (hp : Steady h I p)
    (hf : ∀ a, Steady h I (f a)) : Steady h I (p >>= f) := by
  change Steady h I (Prog.bind p f)
  induction p with
  | ret a => exact hf a
  | act g k ih => exact ⟨hp.1, hp.2.1, fun b => ih b (hp.2.2 b)⟩

lemma steady_ite {c : Prop} [Decidable c] {p q : Prog σ φ α} (hp : Steady h I p)
    (hq : Steady h I q) : Steady h I (if c then p else q) := by
  split
  · exact hp
  · exact hq

lemma steady_atomic {f : σ → β × σ} (hf : ∀ s, I s → f (h s) = ((f s).1, h (f s).2))
    (hI : ∀ s, I s → I (f s).2) : Steady h I (atomic f : Prog σ φ β) := by
  refine ⟨fun s hs => ?_, fun s b t hs heq => ?_, fun _ => trivial⟩
  · simp only [hf s hs, Res.map]
  · obtain ⟨-, rfl⟩ := Res.ok.inj heq
    exact hI s hs

lemma steady_modify {f : σ → σ} (hf : ∀ s, I s → f (h s) = h (f s)) (hI : ∀ s, I s → I (f s)) :
    Steady h I (modify f : Prog σ φ Unit) :=
  steady_atomic (fun s hs => by rw [hf s hs]) hI

lemma steady_read {f : σ → β} (hf : ∀ s, I s → f (h s) = f s) :
    Steady h I (read f : Prog σ φ β) :=
  steady_atomic (fun s hs => by rw [hf s hs]) fun _ hs => hs

lemma steady_fail (e : φ) : Steady h I (fail e : Prog σ φ β) :=
  ⟨fun _ _ => rfl, fun _ _ _ _ heq => (nomatch heq), fun _ => trivial⟩

/-- The executions of a steady program from a state and from its image are in lockstep. -/
theorem Steady.lockstep {p : Prog σ φ α} (hp : Steady h I p) :
    Lockstep (Under h I) p fun _ => Under h I := by
  rintro s _ ⟨rfl, hs⟩
  induction p generalizing s with
  | ret a => exact .done ⟨rfl, hs⟩
  | act f k ih =>
    simp only [run, hp.1 s hs]
    cases hf : f s with
    | ok b t => exact ih b (hp.2.2 b) t (hp.2.1 s b t hs hf)
    | wait => exact .blocked
    | fail e => exact .failed

/-- What is known about the executions of a steady program from one state. -/
theorem Steady.lockstep_of {p : Prog σ φ α} (hp : Steady h I p) {P : σ → Prop}
    {Q : α → σ → Prop} (hQ : ∀ s a t, P s → I s → p.run s = Out.done a t → Q a t) :
    Lockstep (fun s t => Under h I s t ∧ P s) p fun a s t => Under h I s t ∧ Q a s := by
  rintro s t ⟨hst, hP⟩
  exact (hp.lockstep s t hst).mono fun a s' t' hrun hst' => ⟨hst', hQ s a s' hP hst.2 hrun⟩

end Steady

end Prog

end Resumption

namespace Runs

variable {σ ε : Type*}

/-- A run from one state to another one with the list of its labels, all of whose steps meet the
condition `ok`. -/
inductive Path (step : σ → ε → σ → Prop) (ok : σ → ε → Prop) : σ → List ε → σ → Prop
  | nil (s : σ) : Path step ok s [] s
  | cons {s t u : σ} {e : ε} {es : List ε} (hok : ok s e) (hs : step s e t)
      (h : Path step ok t es u) : Path step ok s (e :: es) u

/-- A run is followed from a related state, when every step is. -/
theorem Path.lockstep {step : σ → ε → σ → Prop} {ok : σ → ε → Prop} {R : σ → σ → Prop}
    (hstep : ∀ s t e s', R s t → ok s e → step s e s' → ∃ t', step t e t' ∧ R s' t')
    {s t s' : σ} {es : List ε} (hst : R s t) (h : Path step ok s es s') :
    ∃ t', Path step (fun _ _ => True) t es t' ∧ R s' t' := by
  induction h generalizing t with
  | nil s => exact ⟨t, .nil t, hst⟩
  | cons hok hs _ ih =>
    obtain ⟨t₁, hs₁, hR⟩ := hstep _ _ _ _ hst hok hs
    obtain ⟨t', hpath, hR'⟩ := ih hR
    exact ⟨t', .cons trivial hs₁ hpath, hR'⟩

/-- The evaluation of a deterministic machine is a path. -/
theorem Path.of_exec {step : σ → ε → σ → Prop} {ok : σ → ε → Prop} {next : σ → ε → Option σ}
    (hnext : ∀ s e t, next s e = some t → ok s e ∧ step s e t) {s t : σ} {es : List ε}
    (h : exec next s es = some t) : Path step ok s es t := by
  induction es generalizing s with
  | nil =>
    obtain rfl : s = t := Option.some.inj h
    exact .nil s
  | cons e es ih =>
    obtain ⟨u, hu, h⟩ := Option.bind_eq_some_iff.1 h
    obtain ⟨hok, hstep⟩ := hnext s e u hu
    exact .cons hok hstep (ih h)

end Runs
