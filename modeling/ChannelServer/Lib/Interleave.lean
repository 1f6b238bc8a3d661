/-
Programs whose actions are interleaved.

Several threads share one state, and each of them runs a program of
`ChannelServer/Lib/Resumption.lean`.  A step of the system is one action of one thread, in
any order, so that the executions are the sequentially consistent ones.

A property of all schedules is proved thread by thread.  Every thread names a relation that
it guarantees of its own actions and a relation that it relies on for the actions of the
others; `RelyTriple` is a pre- and postcondition of one thread under these two relations.
The main results are

* `Threads.Reaches.invariant`: when each thread meets its `RelyTriple` and guarantees what
  the others rely on, an invariant of the guarantees holds in every state reached, and
  `Threads.Reaches.post`: a thread that has returned has met its postcondition;
* `RelyTriple.bind` and its companions: the rules for the programs of one thread;
* `Threads.reaches_of_run`: a thread may run a part of its program without interruption,
  from which schedules are composed.
-/
import Mathlib.Logic.Function.Basic
import ChannelServer.Lib.Resumption
import ChannelServer.Lib.Runs

namespace Resumption

variable {ι σ φ α β : Type}

/-- What each thread has still to run, and the state that the threads share. -/
structure Threads (ι σ φ α : Type) where
  prog : ι → Prog σ φ α
  state : σ

namespace Threads

variable [DecidableEq ι]

/-- The threads after an action of the thread `i`. -/
def set (c : Threads ι σ φ α) (i : ι) (p : Prog σ φ α) (s : σ) : Threads ι σ φ α :=
  ⟨Function.update c.prog i p, s⟩

@[simp] lemma set_state (c : Threads ι σ φ α) (i : ι) (p : Prog σ φ α) (s : σ) :
    (c.set i p s).state = s := rfl

@[simp] lemma set_prog_self (c : Threads ι σ φ α) (i : ι) (p : Prog σ φ α) (s : σ) :
    (c.set i p s).prog i = p := Function.update_self _ _ _

lemma set_prog_of_ne (c : Threads ι σ φ α) {i j : ι} (h : j ≠ i) (p : Prog σ φ α) (s : σ) :
    (c.set i p s).prog j = c.prog j := Function.update_of_ne h _ _

lemma set_set (c : Threads ι σ φ α) (i : ι) (p q : Prog σ φ α) (s t : σ) :
    (c.set i p s).set i q t = c.set i q t := by
  unfold set
  rw [Function.update_idem]

lemma set_self (c : Threads ι σ φ α) (i : ι) : c.set i (c.prog i) c.state = c := by
  unfold set
  rw [Function.update_eq_self]

/-- One thread does its next action. -/
inductive Step : Threads ι σ φ α → Threads ι σ φ α → Prop
  | act {c : Threads ι σ φ α} {i : ι} {β : Type} {f : σ → Res σ φ β} {k : β → Prog σ φ α}
      {b : β} {s : σ} (hi : c.prog i = .act f k) (hf : f c.state = .ok b s) :
      Step c (c.set i (k b) s)

/-- Some schedule leads from the first system to the second one. -/
abbrev Reaches : Threads ι σ φ α → Threads ι σ φ α → Prop := Relation.ReflTransGen Step

/-- A thread may run the first part of its program without interruption. -/
theorem reaches_of_run {c : Threads ι σ φ α} {i : ι} {p : Prog σ φ β} {k : β → Prog σ φ α}
    {b : β} {s : σ} (hi : c.prog i = p >>= k) (hr : p.run c.state = .done b s) :
    c.Reaches (c.set i (k b) s) := by
  induction p generalizing c with
  | ret b' =>
    obtain ⟨rfl, rfl⟩ := Out.done.inj hr
    have hself : c.set i (k b') c.state = c := by
      have hk : c.prog i = k b' := hi
      rw [← hk, set_self]
    rw [hself]
  | act f l ih =>
    rw [Prog.run] at hr
    cases hf : f c.state with
    | ok x t =>
      rw [hf] at hr
      have hstep : Step c (c.set i (l x >>= k) t) := .act hi hf
      have hrest := ih x (c := c.set i (l x >>= k) t) (set_prog_self _ _ _ _) hr
      rw [set_set] at hrest
      exact .head hstep hrest
    | wait => rw [hf] at hr; cases hr
    | fail e => rw [hf] at hr; cases hr

/-- The same after some other actions. -/
lemma Reaches.run {c : Threads ι σ φ α} {i : ι} {p : Prog σ φ β} {k : β → Prog σ φ α} {b : β}
    {s t : σ} (h : c.Reaches (c.set i (p >>= k) s)) (hr : p.run s = .done b t) :
    c.Reaches (c.set i (k b) t) := by
  have hrest := reaches_of_run (c := c.set i (p >>= k) s) (set_prog_self _ _ _ _) hr
  rw [set_set] at hrest
  exact h.trans hrest

/-! ### Schedules -/

/-- The thread has run its whole program. -/
def returned (c : Threads ι σ φ α) (i : ι) : Bool :=
  match c.prog i with
  | .ret _ => true
  | .act _ _ => false

/-- The result of a thread that has run its whole program. -/
def result (c : Threads ι σ φ α) (i : ι) : Option α :=
  match c.prog i with
  | .ret a => some a
  | .act _ _ => none

omit [DecidableEq ι] in
lemma prog_of_result {c : Threads ι σ φ α} {i : ι} {a : α} (h : c.result i = some a) :
    c.prog i = .ret a := by
  unfold result at h
  split at h
  · rename_i b hb
    rw [hb, Option.some.inj h]
  · cases h

/-- The action of one thread, when it is enabled. -/
def next (c : Threads ι σ φ α) (i : ι) : Option (Threads ι σ φ α) :=
  match c.prog i with
  | .ret _ => none
  | .act f k =>
      match f c.state with
      | .ok b s => some (c.set i (k b) s)
      | _ => none

/-- One step of a thread, with the action it does. -/
lemma next_eq_some {c d : Threads ι σ φ α} {i : ι} (h : c.next i = some d) :
    ∃ (β : Type) (f : σ → Res σ φ β) (k : β → Prog σ φ α) (b : β) (t : σ),
      c.prog i = .act f k ∧ f c.state = .ok b t ∧ d = c.set i (k b) t := by
  unfold next at h
  split at h
  · cases h
  · rename_i β f k hi
    split at h
    · rename_i b t hf
      exact ⟨β, f, k, b, t, hi, hf, (Option.some.inj h).symm⟩
    · cases h

lemma step_of_next {c d : Threads ι σ φ α} {i : ι} (h : c.next i = some d) : Step c d := by
  obtain ⟨β, f, k, b, t, hi, hf, rfl⟩ := next_eq_some h
  exact .act hi hf

/-- The threads act in the order of a list: its evaluation is a schedule. -/
theorem reaches_of_exec {c d : Threads ι σ φ α} {is : List ι}
    (h : Runs.exec next c is = some d) : c.Reaches d := by
  induction is generalizing c with
  | nil =>
    obtain rfl : c = d := Option.some.inj h
    exact .refl
  | cons i is ih =>
    obtain ⟨e, he, hrest⟩ := Option.bind_eq_some_iff.1 h
    exact .head (step_of_next he) (ih hrest)

end Threads

/-! ### Rely and guarantee -/

/-- From the state `s`, whatever the other threads do within `R` between any two of its
actions, the program stays within `G` and ends in `Q`. -/
def Assured (R G : σ → σ → Prop) (Q : α → σ → Prop) : Prog σ φ α → σ → Prop
  | .ret a, s => ∀ s', R s s' → Q a s'
  | .act f k, s => ∀ s', R s s' → ∀ b t, f s' = .ok b t → G s' t ∧ Assured R G Q (k b) t

/-- Started in a state that meets `P`, the program stays within `G` and ends in `Q`, when
the other threads stay within `R`. -/
def RelyTriple (R G : σ → σ → Prop) (P : σ → Prop) (p : Prog σ φ α) (Q : α → σ → Prop) :
    Prop := ∀ s, P s → Assured R G Q p s

/-- What holds in a state still holds after the other threads acted. -/
def Stable (R : σ → σ → Prop) (P : σ → Prop) : Prop := ∀ s t, P s → R s t → P t

section Rules

variable {R G : σ → σ → Prop} {P : σ → Prop} {Q Q' : α → σ → Prop} {S : β → σ → Prop}

/-- The other threads may act before the program starts. -/
lemma Assured.of_rely (htrans : ∀ s t u, R s t → R t u → R s u) {p : Prog σ φ α} {s t : σ}
    (h : Assured R G Q p s) (hst : R s t) : Assured R G Q p t := by
  cases p with
  | ret a => exact fun u hu => h u (htrans s t u hst hu)
  | act f k => exact fun u hu => h u (htrans s t u hst hu)

lemma assured_bind (hrefl : ∀ s, R s s) {p : Prog σ φ α} {f : α → Prog σ φ β}
    (hf : ∀ a t, Q a t → Assured R G S (f a) t) {s : σ} (h : Assured R G Q p s) :
    Assured R G S (p >>= f) s := by
  change Assured R G S (Prog.bind p f) s
  induction p generalizing s with
  | ret a => exact hf a s (h s (hrefl s))
  | act g k ih =>
    intro s' hs' b t hg
    obtain ⟨hG, hk⟩ := h s' hs' b t hg
    exact ⟨hG, ih b hk⟩

/-- The rule of sequential composition. -/
theorem RelyTriple.bind (hrefl : ∀ s, R s s) {p : Prog σ φ α} {f : α → Prog σ φ β}
    (hp : RelyTriple R G P p Q) (hf : ∀ a, RelyTriple R G (Q a) (f a) S) :
    RelyTriple R G P (p >>= f) S := fun s hs => assured_bind hrefl (fun a => hf a) (hp s hs)

lemma rely_pure {a : α} (hstable : Stable R (Q a)) (h : ∀ s, P s → Q a s) :
    RelyTriple R G P (pure a : Prog σ φ α) Q := fun s hs s' hs' => hstable s s' (h s hs) hs'

/-- The rule of one action. -/
theorem rely_act {f : σ → Res σ φ α} (hP : Stable R P) (hQ : ∀ a, Stable R (Q a))
    (h : ∀ s a t, P s → f s = .ok a t → G s t ∧ Q a t) :
    RelyTriple R G P (.act f .ret) Q := by
  intro s hs s' hs' a t hf
  obtain ⟨hG, hq⟩ := h s' a t (hP s s' hs hs') hf
  exact ⟨hG, fun u hu => hQ a t u hq hu⟩

lemma rely_atomic {f : σ → α × σ} (hP : Stable R P) (hQ : ∀ a, Stable R (Q a))
    (h : ∀ s, P s → G s (f s).2 ∧ Q (f s).1 (f s).2) :
    RelyTriple R G P (Prog.atomic f : Prog σ φ α) Q := by
  refine rely_act hP hQ fun s a t hs hf => ?_
  obtain ⟨rfl, rfl⟩ := Res.ok.inj hf
  exact h s hs

/-- A fact that does not depend on the state may be assumed. -/
lemma rely_of_imp {c : Prop} {p : Prog σ φ α} (h : c → RelyTriple R G P p Q) :
    RelyTriple R G (fun s => P s ∧ c) p Q := fun s hs => h hs.2 s hs.1

lemma rely_ite {c : Prop} [Decidable c] {p q : Prog σ φ α} (hp : c → RelyTriple R G P p Q)
    (hq : ¬ c → RelyTriple R G P q Q) : RelyTriple R G P (if c then p else q) Q := by
  split
  · exact hp ‹_›
  · exact hq ‹_›

/-- A program all of whose actions stay within `G` needs nothing of the other threads. -/
theorem rely_of_within {p : Prog σ φ α} (h : Prog.Within G p) :
    RelyTriple R G P p fun _ _ => True := by
  have hall : ∀ s, Assured R G (fun _ _ => True) p s := by
    induction p with
    | ret a => exact fun _ _ _ => trivial
    | act f k ih => exact fun _ s' _ b t hf => ⟨h.1 s' b t hf, ih b (h.2 b) t⟩
  exact fun s _ => hall s

/-- A program whose actions stay within a part `W` of `G` keeps what `W` and the other threads
preserve. -/
theorem rely_of_keeps {W : σ → σ → Prop} (hWG : ∀ s t, W s t → G s t) (hP : Stable R P)
    (hW : Stable W P) {p : Prog σ φ α} (h : Prog.Within W p) :
    RelyTriple R G P p fun _ => P := by
  have hall : ∀ s, P s → Assured R G (fun _ => P) p s := by
    induction p with
    | ret a => exact fun s hs s' hs' => hP s s' hs hs'
    | act f k ih =>
      intro s hs s' hs' b t hf
      have hstep := h.1 s' b t hf
      exact ⟨hWG _ _ hstep, ih b (h.2 b) t (hW _ _ (hP s s' hs hs') hstep)⟩
  exact hall

end Rules

/-! ### All threads together -/

section Parallel

variable [DecidableEq ι] {R G : ι → σ → σ → Prop} {Q : ι → α → σ → Prop}

/-- One step keeps every thread assured, and stays within the guarantee of one of them. -/
theorem Threads.Step.assured (htrans : ∀ i s t u, R i s t → R i t u → R i s u)
    (hGR : ∀ i j s t, j ≠ i → G i s t → R j s t) {c d : Threads ι σ φ α} (h : c.Step d)
    (hc : ∀ i, Assured (R i) (G i) (Q i) (c.prog i) c.state)
    (hrefl : ∀ i s, R i s s) :
    (∃ i, G i c.state d.state) ∧ ∀ i, Assured (R i) (G i) (Q i) (d.prog i) d.state := by
  cases h with
  | @act i γ f k b s hi hf =>
    have hi' := hc i
    rw [hi] at hi'
    obtain ⟨hG, hk⟩ := hi' c.state (hrefl i _) b s hf
    refine ⟨⟨i, hG⟩, fun j => ?_⟩
    by_cases hj : j = i
    · subst hj
      rw [Threads.set_prog_self]
      exact hk
    · rw [Threads.set_prog_of_ne _ hj]
      exact (hc j).of_rely (htrans j) (hGR i j _ _ hj hG)

/-- Every thread is assured in every state that a schedule reaches. -/
theorem Threads.Reaches.assured {I : σ → Prop} {P : ι → σ → Prop}
    (hrefl : ∀ i s, R i s s) (htrans : ∀ i s t u, R i s t → R i t u → R i s u)
    (hGR : ∀ i j s t, j ≠ i → G i s t → R j s t) (hI : ∀ i s t, I s → G i s t → I t)
    {c d : Threads ι σ φ α} (hc : ∀ i, RelyTriple (R i) (G i) (P i) (c.prog i) (Q i))
    (hP : ∀ i, P i c.state) (h0 : I c.state) (h : c.Reaches d) :
    (∀ i, Assured (R i) (G i) (Q i) (d.prog i) d.state) ∧ I d.state := by
  induction h with
  | refl => exact ⟨fun i => hc i _ (hP i), h0⟩
  | tail _ hstep ih =>
    obtain ⟨hassured, hinv⟩ := ih
    obtain ⟨⟨i, hG⟩, hnext⟩ := hstep.assured htrans hGR hassured hrefl
    exact ⟨hnext, hI i _ _ hinv hG⟩

/-- **The rule of parallel composition.**  When every thread meets its triple and guarantees
what the others rely on, a property that the guarantees preserve holds in every state that
any schedule reaches. -/
theorem Threads.Reaches.invariant {I : σ → Prop} {P : ι → σ → Prop}
    (hrefl : ∀ i s, R i s s) (htrans : ∀ i s t u, R i s t → R i t u → R i s u)
    (hGR : ∀ i j s t, j ≠ i → G i s t → R j s t) (hI : ∀ i s t, I s → G i s t → I t)
    {c d : Threads ι σ φ α} (hc : ∀ i, RelyTriple (R i) (G i) (P i) (c.prog i) (Q i))
    (hP : ∀ i, P i c.state) (h0 : I c.state) (h : c.Reaches d) : I d.state :=
  (Reaches.assured hrefl htrans hGR hI hc hP h0 h).2

/-- The postcondition of a thread that has returned. -/
theorem Threads.Reaches.post {P : ι → σ → Prop}
    (hrefl : ∀ i s, R i s s) (htrans : ∀ i s t u, R i s t → R i t u → R i s u)
    (hGR : ∀ i j s t, j ≠ i → G i s t → R j s t)
    {c d : Threads ι σ φ α} (hc : ∀ i, RelyTriple (R i) (G i) (P i) (c.prog i) (Q i))
    (hP : ∀ i, P i c.state) (h : c.Reaches d) {i : ι} {a : α} (hi : d.result i = some a) :
    Q i a d.state := by
  have hassured := (Reaches.assured (I := fun _ => True) hrefl htrans hGR
    (fun _ _ _ _ _ => trivial) hc hP trivial h).1 i
  rw [Threads.prog_of_result hi] at hassured
  exact hassured d.state (hrefl i d.state)

end Parallel

end Resumption
