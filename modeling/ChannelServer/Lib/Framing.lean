/-
Cutting a stream into frames.

A frame announces its own length: a `Framing` reads it off the front of a buffer, as soon
as enough of the frame has arrived.  `split` cuts the complete frames off a buffer and
leaves the rest; a receiver keeps the rest and splits it again when the next chunk has been
appended to it (`feed`).

The main results are

* `split_append`: a buffer may be split in two steps;
* `feed_eq_split`: the frames that a receiver finds, and the rest that it keeps, do not
  depend on the chunks in which the stream arrives;
* `split_of_prefix`: of a stream of frames, those are found that have arrived as a whole.
-/
import Mathlib.Data.List.Basic

namespace Streams

variable {α : Type*}

/-- A rule by which the front of a buffer tells the length of the first frame. -/
structure Framing (α : Type*) where
  length? : List α → Option ℕ
  length_pos : ∀ {buf : List α} {n : ℕ}, length? buf = some n → 0 < n
  length_append : ∀ {buf : List α} {n : ℕ} (more : List α), length? buf = some n →
    length? (buf ++ more) = some n

namespace Framing

variable (F : Framing α)

/-- The first frame of the buffer has not arrived as a whole. -/
def Incomplete (buf : List α) : Prop := ∀ n, F.length? buf = some n → buf.length < n

/-- The buffer is one frame. -/
def IsFrame (f : List α) : Prop := F.length? f = some f.length

/-- Cut the complete frames off a buffer. -/
def split (buf : List α) : List (List α) × List α :=
  match _h : F.length? buf with
  | some n =>
      if n ≤ buf.length then
        (buf.take n :: (split (buf.drop n)).1, (split (buf.drop n)).2)
      else ([], buf)
  | none => ([], buf)
termination_by buf.length
decreasing_by
  all_goals
    have := F.length_pos _h
    rw [List.length_drop]
    omega

/-- A receiver with the rest `rest` reads the chunks one after the other. -/
def feed : List α → List (List α) → List (List α) × List α
  | rest, [] => ([], rest)
  | rest, chunk :: chunks =>
      let (frames, rest) := F.split (rest ++ chunk)
      let (more, rest) := feed rest chunks
      (frames ++ more, rest)

/-- The frames that have arrived as a whole with the first `m` letters. -/
def arrived : List (List α) → ℕ → List (List α)
  | [], _ => []
  | f :: fs, m => if f.length ≤ m then f :: arrived fs (m - f.length) else []

variable {F} {f buf : List α} {fs : List (List α)}

/-! ### Splitting -/

lemma split_of_incomplete (h : F.Incomplete buf) : F.split buf = ([], buf) := by
  rw [split]
  split
  · rename_i n hn
    rw [if_neg (by have := h n hn; omega)]
  · rfl

lemma split_of_length {n : ℕ} (h : F.length? buf = some n) (hn : n ≤ buf.length) :
    F.split buf = (buf.take n :: (F.split (buf.drop n)).1, (F.split (buf.drop n)).2) := by
  rw [split]
  split
  · rename_i m hm
    obtain rfl := Option.some.inj (h.symm.trans hm)
    rw [if_pos hn]
  · rename_i hnone
    rw [hnone] at h
    cases h

/-- The first frame is cut off. -/
lemma split_frame (hf : F.IsFrame f) (rest : List α) :
    F.split (f ++ rest) = (f :: (F.split rest).1, (F.split rest).2) := by
  have h := split_of_length (F.length_append rest hf) (by simp)
  rwa [List.take_left, List.drop_left] at h

/-- A buffer of whole frames is cut into these. -/
lemma split_frames (hfs : ∀ f ∈ fs, F.IsFrame f) : F.split fs.flatten = (fs, []) := by
  induction fs with
  | nil => exact split_of_incomplete fun n hn => F.length_pos hn
  | cons f fs ih =>
    rw [List.flatten_cons, split_frame (hfs f List.mem_cons_self),
      ih fun g hg => hfs g (List.mem_cons_of_mem _ hg)]

/-- Either the first frame is incomplete, or it can be cut off. -/
lemma incomplete_or (buf : List α) :
    F.Incomplete buf ∨ ∃ n, F.length? buf = some n ∧ 0 < n ∧ n ≤ buf.length := by
  by_cases h : F.Incomplete buf
  · exact Or.inl h
  · simp only [Incomplete, not_forall, Nat.not_lt] at h
    obtain ⟨n, hn, hle⟩ := h
    exact Or.inr ⟨n, hn, F.length_pos hn, hle⟩

/-- An induction along the frames that can be cut off. -/
lemma split_induction {P : List α → Prop} (incomplete : ∀ buf, F.Incomplete buf → P buf)
    (frame : ∀ buf n, F.length? buf = some n → n ≤ buf.length → P (buf.drop n) → P buf)
    (buf : List α) : P buf := by
  generalize hk : buf.length = k
  induction k using Nat.strongRecOn generalizing buf with
  | _ k ih =>
    rcases incomplete_or (F := F) buf with h | ⟨n, hn, hpos, hle⟩
    · exact incomplete buf h
    · refine frame buf n hn hle (ih (buf.drop n).length ?_ _ rfl)
      rw [List.length_drop]
      omega

/-- The rest that is left is incomplete. -/
lemma split_incomplete (buf : List α) : F.Incomplete (F.split buf).2 := by
  induction buf using split_induction (F := F) with
  | incomplete buf h =>
    rw [split_of_incomplete h]
    exact h
  | frame buf n hn hle ih =>
    rw [split_of_length hn hle]
    exact ih

/-- Nothing is lost. -/
lemma split_flatten (buf : List α) : (F.split buf).1.flatten ++ (F.split buf).2 = buf := by
  induction buf using split_induction (F := F) with
  | incomplete buf h =>
    rw [split_of_incomplete h]
    rfl
  | frame buf n hn hle ih =>
    rw [split_of_length hn hle, List.flatten_cons, List.append_assoc, ih, List.take_append_drop]

/-- A buffer may be split in two steps. -/
theorem split_append (a b : List α) :
    F.split (a ++ b) = ((F.split a).1 ++ (F.split ((F.split a).2 ++ b)).1,
      (F.split ((F.split a).2 ++ b)).2) := by
  induction a using split_induction (F := F) with
  | incomplete a h =>
    rw [split_of_incomplete h]
    rfl
  | frame a n hn hle ih =>
    have hlen : n ≤ (a ++ b).length := by
      rw [List.length_append]
      omega
    rw [split_of_length (F.length_append b hn) hlen, split_of_length hn hle,
      List.take_append_of_le_length hle, List.drop_append_of_le_length hle, ih]
    rfl

/-! ### Chunks -/

lemma feed_nil (rest : List α) : F.feed rest [] = ([], rest) := rfl

lemma feed_cons (rest chunk : List α) (chunks : List (List α)) :
    F.feed rest (chunk :: chunks) =
      ((F.split (rest ++ chunk)).1 ++ (F.feed (F.split (rest ++ chunk)).2 chunks).1,
        (F.feed (F.split (rest ++ chunk)).2 chunks).2) := rfl

/-- **Chunks do not matter**: a receiver finds the frames of the whole stream. -/
theorem feed_eq_split {rest : List α} (h : F.Incomplete rest) (chunks : List (List α)) :
    F.feed rest chunks = F.split (rest ++ chunks.flatten) := by
  induction chunks generalizing rest with
  | nil =>
    rw [feed_nil, List.flatten_nil, List.append_nil, split_of_incomplete h]
  | cons chunk chunks ih =>
    rw [feed_cons, ih (split_incomplete _), List.flatten_cons, ← List.append_assoc,
      split_append (rest ++ chunk)]

/-! ### Streams of frames -/

@[simp] lemma arrived_nil (m : ℕ) : arrived ([] : List (List α)) m = [] := rfl

lemma arrived_cons_of_le {m : ℕ} (h : f.length ≤ m) :
    arrived (f :: fs) m = f :: arrived fs (m - f.length) := if_pos h

lemma arrived_cons_of_lt {m : ℕ} (h : m < f.length) : arrived (f :: fs) m = [] :=
  if_neg (by omega)

/-- The frames that have arrived are the first ones, and the next one is incomplete. -/
lemma exists_arrived (fs : List (List α)) (m : ℕ) :
    ∃ k, arrived fs m = fs.take k ∧ (k < fs.length → m < (fs.take (k + 1)).flatten.length) := by
  induction fs generalizing m with
  | nil => exact ⟨0, rfl, fun h => absurd h (Nat.not_lt_zero 0)⟩
  | cons f fs ih =>
    by_cases hle : f.length ≤ m
    · obtain ⟨k, hk, hnext⟩ := ih (m - f.length)
      refine ⟨k + 1, by rw [arrived_cons_of_le hle, hk, List.take_succ_cons], fun hlt => ?_⟩
      have := hnext (Nat.lt_of_succ_lt_succ hlt)
      rw [List.take_succ_cons, List.flatten_cons, List.length_append]
      omega
    · refine ⟨0, arrived_cons_of_lt (Nat.lt_of_not_le hle), fun _ => ?_⟩
      rw [List.take_succ_cons, List.take_zero, List.flatten_cons, List.flatten_nil, List.append_nil]
      omega

/-- All prefixes of a stream announce the length of its first frame. -/
lemma IsFrame.eq_length (hf : F.IsFrame f) {p rest : List α} (hp : p <+: f ++ rest) {n : ℕ}
    (hn : F.length? p = some n) : n = f.length := by
  obtain ⟨more, hmore⟩ := hp
  have h := F.length_append more hn
  rw [hmore, F.length_append rest hf] at h
  exact (Option.some.inj h).symm

/-- **A stream of frames**: a prefix of it is split into the frames that have arrived, and
what is there of the next one. -/
theorem split_of_prefix (hfs : ∀ f ∈ fs, F.IsFrame f) {p : List α} (hp : p <+: fs.flatten) :
    F.split p = (arrived fs p.length, p.drop (arrived fs p.length).flatten.length) := by
  induction fs generalizing p with
  | nil =>
    obtain rfl : p = [] := List.prefix_nil.1 hp
    exact split_of_incomplete fun n hn => F.length_pos hn
  | cons f fs ih =>
    have hf : F.IsFrame f := hfs f List.mem_cons_self
    rw [List.flatten_cons] at hp
    by_cases hle : f.length ≤ p.length
    · -- the frame has arrived as a whole
      obtain ⟨q, rfl⟩ := List.prefix_of_prefix_length_le (List.prefix_append f fs.flatten) hp hle
      have hq : q <+: fs.flatten := (List.prefix_append_right_inj f).1 hp
      have hlen : (f ++ q).length - f.length = q.length := by
        rw [List.length_append]
        omega
      rw [split_frame hf, ih (fun g hg => hfs g (List.mem_cons_of_mem _ hg)) hq,
        arrived_cons_of_le hle, hlen, List.flatten_cons, List.length_append,
        List.drop_length_add_append]
    · have hincomplete : F.Incomplete p := by
        intro n hn
        rw [hf.eq_length hp hn]
        omega
      rw [split_of_incomplete hincomplete, arrived_cons_of_lt (by omega)]
      rfl

/-- What is left of a prefix of a stream begins the stream of the remaining frames, and is
shorter than the next one of them. -/
lemma exists_remaining (hfs : ∀ f ∈ fs, F.IsFrame f) {p more : List α}
    (hp : p ++ more <+: fs.flatten) :
    ∃ fs', fs' <:+ fs ∧ (F.split p).2 ++ more <+: fs'.flatten ∧
      ((F.split p).2 = [] ∨ ∃ f ∈ fs', (F.split p).2.length < f.length) := by
  induction fs generalizing p with
  | nil =>
    obtain ⟨rfl, rfl⟩ := List.append_eq_nil_iff.1 (List.prefix_nil.1 hp)
    have hsplit : F.split ([] : List α) = ([], []) :=
      split_of_incomplete fun n hn => F.length_pos hn
    rw [hsplit]
    exact ⟨[], List.suffix_rfl, List.prefix_rfl, Or.inl rfl⟩
  | cons f fs ih =>
    have hf : F.IsFrame f := hfs f List.mem_cons_self
    have hp' : p <+: f ++ fs.flatten := (List.prefix_append p more).trans hp
    by_cases hle : f.length ≤ p.length
    · obtain ⟨q, rfl⟩ := List.prefix_of_prefix_length_le (List.prefix_append f fs.flatten) hp' hle
      rw [List.flatten_cons, List.append_assoc] at hp
      obtain ⟨fs', hsuffix, hrest, hshort⟩ :=
        ih (fun g hg => hfs g (List.mem_cons_of_mem _ hg)) ((List.prefix_append_right_inj f).1 hp)
      rw [split_frame hf]
      exact ⟨fs', hsuffix.trans (List.suffix_cons f fs), hrest, hshort⟩
    · have hincomplete : F.Incomplete p := by
        intro n hn
        rw [hf.eq_length hp' hn]
        omega
      rw [split_of_incomplete hincomplete]
      exact ⟨f :: fs, List.suffix_rfl, hp, Or.inr ⟨f, List.mem_cons_self, Nat.lt_of_not_le hle⟩⟩

end Framing

end Streams
