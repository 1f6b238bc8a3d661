/-
Records of tagged fields.

A record is written as a sequence of fields, each of them a tag and a content.  A `Parser` reads
such a sequence into a value: it looks up the field with the tag that comes next, lets it read its
content, and goes on, until no tag follows.

* `Parser.loop` is the plain loop.
* `Parser.dispatch` is the loop of a generated parser: behind a field it first asks whether one of
  the tags follows that usually do, and then continues with their fields directly, and behind the
  last field it first asks whether the input has ended.  `dispatch_eq_loop` says that these
  shortcuts change nothing, on any input.
* `Parser.Reads` says what reading a piece of the input does to the value.  Pieces compose
  (`Reads.append`, `Reads.flatten`), and `loop_reorder` says in which way they may be reordered:
  only pieces whose effects do not commute have to stay in their order.
-/
import Mathlib.Data.List.Basic

namespace Records

variable {α τ M : Type*}

/-- What a parser asks of its input.  The answers of `expectTag` and `expectAtEnd` may be negative
at any time. -/
structure Input (α τ : Type*) where
  readTag : List α → Option (τ × List α)
  expectTag : τ → List α → Option (List α)
  expectAtEnd : List α → Bool
  length_of_readTag : ∀ {l : List α} {t : τ} {rest : List α},
    readTag l = some (t, rest) → rest.length < l.length
  readTag_of_expectTag : ∀ {l : List α} {t : τ} {rest : List α},
    expectTag t l = some rest → readTag l = some (t, rest)
  nil_of_expectAtEnd : ∀ {l : List α}, expectAtEnd l = true → l = []

/-- Reading the content of a field into a value: the value afterwards, and the rest of the input,
unless the content cannot be read. -/
@[ext]
structure Reader (α M : Type*) where
  run : M → List α → M × Option (List α)
  length_le : ∀ {m : M} {l : List α} {m' : M} {rest : List α},
    run m l = (m', some rest) → rest.length ≤ l.length

/-- A field of a record.  Behind it the tags `next` are tried, and then, when `last` is set, the end
of the input. -/
structure Field (α τ M : Type*) where
  tag : τ
  reader : Reader α M
  next : List τ
  last : Bool

/-- A parser of records.  A tag that belongs to no field ends the record or is skipped. -/
structure Parser (α τ M : Type*) where
  input : Input α τ
  fields : List (Field α τ M)
  stops : τ → Bool
  skip : τ → Reader α M

/-- How a parser ends: a content could not be read, or no field follows, at the end of the input
or before it. -/
inductive Outcome
  | failed
  | stopped (atEnd : Bool)
deriving DecidableEq, Repr

namespace Parser

variable [DecidableEq τ] (P : Parser α τ M)

/-- The field that a tag leads to. -/
def lookup? (t : τ) : Option (Field α τ M) :=
  match P.fields.find? (·.tag = t) with
  | some f => some f
  | none => if P.stops t then none else some ⟨t, P.skip t, [], false⟩

variable {P} in
lemma lookup?_of_mem (hnodup : (P.fields.map (·.tag)).Nodup) {f : Field α τ M}
    (hf : f ∈ P.fields) : P.lookup? f.tag = some f := by
  have hfind : ∀ fs : List (Field α τ M), (fs.map (·.tag)).Nodup → f ∈ fs →
      fs.find? (·.tag = f.tag) = some f := by
    intro fs hfs hmem
    induction fs with
    | nil => cases hmem
    | cons g fs ih =>
      rw [List.map_cons, List.nodup_cons] at hfs
      rcases List.mem_cons.1 hmem with rfl | hmem
      · rw [List.find?_cons_of_pos (by simp)]
      · have hne : g.tag ≠ f.tag := fun h => hfs.1 (h ▸ List.mem_map_of_mem hmem)
        rw [List.find?_cons_of_neg (by simpa using hne), ih hfs.2 hmem]
  rw [lookup?, hfind P.fields hnodup hf]

/-! ### The two loops -/

/-- The plain loop. -/
def loop (m : M) (l : List α) : M × Outcome :=
  match _h : P.input.readTag l with
  | none => (m, .stopped l.isEmpty)
  | some (t, content) =>
      match P.lookup? t with
      | none => (m, .stopped false)
      | some f =>
          match _hf : f.reader.run m content with
          | (m, none) => (m, .failed)
          | (m, some rest) => loop m rest
termination_by l.length
decreasing_by
  have := P.input.length_of_readTag _h
  have := f.reader.length_le _hf
  omega

/-- The field whose tag was tried behind the field `f`, and found. -/
def jump? (f : Field α τ M) (l : List α) : Option (Field α τ M × List α) :=
  f.next.findSome? fun t =>
    (P.input.expectTag t l).bind fun content => (P.lookup? t).map fun g => (g, content)

lemma jump?_eq_some {f g : Field α τ M} {l content : List α}
    (h : P.jump? f l = some (g, content)) :
    ∃ t, P.input.readTag l = some (t, content) ∧ P.lookup? t = some g := by
  obtain ⟨t, _, ht⟩ := List.exists_of_findSome?_eq_some h
  obtain ⟨c, hc, hg⟩ := Option.bind_eq_some_iff.1 ht
  obtain ⟨g', hg', heq⟩ := Option.map_eq_some_iff.1 hg
  obtain ⟨rfl, rfl⟩ := Prod.mk.inj heq
  exact ⟨t, P.input.readTag_of_expectTag hc, hg'⟩

mutual

/-- The loop with shortcuts: read a tag, and look up its field. -/
def dispatch (m : M) (l : List α) : M × Outcome :=
  match _h : P.input.readTag l with
  | none => (m, .stopped l.isEmpty)
  | some (t, content) =>
      match P.lookup? t with
      | none => (m, .stopped false)
      | some f => parseField f m content
termination_by 2 * l.length
decreasing_by
  have := P.input.length_of_readTag _h
  omega

/-- The loop with shortcuts: read the content of a field, and try what usually follows it. -/
def parseField (f : Field α τ M) (m : M) (l : List α) : M × Outcome :=
  match _hf : f.reader.run m l with
  | (m, none) => (m, .failed)
  | (m, some rest) =>
      match _hj : P.jump? f rest with
      | some (g, content) => parseField g m content
      | none =>
          if f.last && P.input.expectAtEnd rest then (m, .stopped true) else dispatch m rest
termination_by 2 * l.length + 1
decreasing_by
  · have := f.reader.length_le _hf
    obtain ⟨t, ht, -⟩ := P.jump?_eq_some _hj
    have := P.input.length_of_readTag ht
    omega
  · have := f.reader.length_le _hf
    omega

end

/-- The plain loop behind the content of a field. -/
def resume : M × Option (List α) → M × Outcome
  | (m, none) => (m, .failed)
  | (m, some rest) => P.loop m rest

variable {P}

lemma loop_of_none {m : M} {l : List α} (h : P.input.readTag l = none) :
    P.loop m l = (m, .stopped l.isEmpty) := by
  rw [loop]
  split
  · rfl
  · rename_i ht
    rw [h] at ht
    cases ht

lemma loop_of_tag {m : M} {l content : List α} {t : τ}
    (h : P.input.readTag l = some (t, content)) :
    P.loop m l = match P.lookup? t with
      | none => (m, .stopped false)
      | some f => P.resume (f.reader.run m content) := by
  rw [loop]
  split
  · rename_i ht
    rw [h] at ht
    cases ht
  · rename_i t' content' ht
    obtain ⟨rfl, rfl⟩ := Prod.mk.inj (Option.some.inj (h.symm.trans ht))
    cases P.lookup? t with
    | none => rfl
    | some f =>
      dsimp only
      split <;> rename_i hf <;> rw [hf] <;> rfl

lemma loop_nil (m : M) : P.loop m [] = (m, .stopped true) := by
  refine loop_of_none ?_
  by_contra h
  obtain ⟨⟨t, rest⟩, ht⟩ := Option.ne_none_iff_exists'.1 h
  exact absurd (P.input.length_of_readTag ht) (Nat.not_lt_zero _)

/-- The plain loop depends on the tags that are read and on their fields. -/
lemma loop_congr {P' : Parser α τ M} (hread : ∀ l, P'.input.readTag l = P.input.readTag l)
    (hlookup : ∀ t, P'.lookup? t = P.lookup? t) (m : M) (l : List α) :
    P'.loop m l = P.loop m l := by
  induction hk : l.length using Nat.strongRecOn generalizing m l with
  | _ k ih =>
    cases ht : P.input.readTag l with
    | none => rw [loop_of_none ht, loop_of_none ((hread l).trans ht)]
    | some p =>
      obtain ⟨t, content⟩ := p
      have hcontent := P.input.length_of_readTag ht
      rw [loop_of_tag ht, loop_of_tag ((hread l).trans ht), hlookup]
      cases P.lookup? t with
      | none => rfl
      | some f =>
        dsimp only
        rcases hf : f.reader.run m content with ⟨m', _ | rest⟩
        · rfl
        · have hrest := f.reader.length_le hf
          exact ih rest.length (by omega) m' rest rfl

private lemma shortcuts (k : ℕ) :
    (∀ m (l : List α), 2 * l.length ≤ k → P.dispatch m l = P.loop m l) ∧
      ∀ f m (l : List α), 2 * l.length + 1 ≤ k →
        P.parseField f m l = P.resume (f.reader.run m l) := by
  induction k using Nat.strongRecOn with
  | _ k ih =>
    constructor
    · intro m l hk
      rw [dispatch]
      split
      · rename_i h
        rw [loop_of_none h]
      · rename_i t content h
        have hlt := P.input.length_of_readTag h
        rw [loop_of_tag h]
        cases P.lookup? t with
        | none => rfl
        | some f => exact (ih (k - 1) (by omega)).2 f m content (by omega)
    · intro f m l hk
      rw [parseField]
      split
      · rename_i hf
        rw [hf]
        rfl
      · rename_i m' rest hf
        have hle := f.reader.length_le hf
        rw [hf, resume]
        split
        · -- a tag was expected, and it is the one that the plain loop reads
          rename_i g content hj
          obtain ⟨t, ht, hg⟩ := P.jump?_eq_some hj
          have hlt := P.input.length_of_readTag ht
          rw [loop_of_tag ht, hg]
          exact (ih (k - 1) (by omega)).2 g m' content (by omega)
        · split
          · rename_i hend
            obtain rfl := P.input.nil_of_expectAtEnd (Bool.and_eq_true_iff.1 hend).2
            rw [loop_nil]
          · exact (ih (k - 1) (by omega)).1 m' rest (by omega)

/-- **The shortcuts change nothing.** -/
theorem dispatch_eq_loop (m : M) (l : List α) : P.dispatch m l = P.loop m l :=
  (shortcuts _).1 m l (Nat.le_refl _)

/-! ### Pieces -/

/-- Reading the piece `c` changes the value by `u`, whatever follows. -/
def Reads (P : Parser α τ M) (c : List α) (u : M → M) : Prop :=
  ∀ m rest, P.loop m (c ++ rest) = P.loop (u m) rest

namespace Reads

variable {c d : List α} {u v : M → M}

lemma nil : P.Reads [] id := fun _ _ => rfl

lemma append (hc : P.Reads c u) (hd : P.Reads d v) : P.Reads (c ++ d) (v ∘ u) := by
  intro m rest
  rw [List.append_assoc, hc, hd]
  rfl

/-- The pieces of a list, one after the other. -/
lemma flatten {ι : Type*} {piece : ι → List α} (update : ι → M → M) {is : List ι}
    (h : ∀ i ∈ is, P.Reads (piece i) (update i)) :
    P.Reads (is.flatMap piece) fun m => is.foldl (fun m i => update i m) m := by
  induction is with
  | nil => exact nil
  | cons i is ih =>
    rw [List.flatMap_cons]
    exact (h i List.mem_cons_self).append (ih fun j hj => h j (List.mem_cons_of_mem i hj))

/-- A tag and a content that its field reads. -/
lemma of_lookup {t : τ} {f : Field α τ M} (ht : ∀ rest, P.input.readTag (c ++ rest) =
    some (t, d ++ rest)) (hf : P.lookup? t = some f)
    (hd : ∀ m rest, f.reader.run m (d ++ rest) = (u m, some rest)) : P.Reads c u := by
  intro m rest
  rw [loop_of_tag (ht rest), hf]
  dsimp only
  rw [hd]
  rfl

/-- A piece that is the whole input. -/
lemma loop_eq (h : P.Reads c u) (m : M) : P.loop m c = (u m, .stopped true) := by
  have := h m []
  rwa [List.append_nil, loop_nil] at this

end Reads

end Parser

/-! ### Reordering -/

section Reorder

variable {ι κ : Type*} [DecidableEq κ] {key : ι → κ} {update : ι → M → M}

/-- An update moves in front of others that it commutes with. -/
lemma foldl_move {i : ι} {front back : List ι}
    (hcomm : ∀ j ∈ front, ∀ m, update i (update j m) = update j (update i m)) (m : M) :
    (front ++ i :: back).foldl (fun m i => update i m) m =
      (i :: (front ++ back)).foldl (fun m i => update i m) m := by
  induction front generalizing m with
  | nil => rfl
  | cons j front ih =>
    have hrest := ih (fun k hk => hcomm k (List.mem_cons_of_mem j hk)) (update j m)
    rw [List.cons_append, List.foldl_cons, hrest, List.foldl_cons, List.foldl_cons,
      hcomm j List.mem_cons_self, List.cons_append, List.foldl_cons]

/-- The first element with a key stands behind elements with other keys. -/
lemma exists_front {i : ι} {is rest : List ι} {k : κ}
    (h : is.filter (key · = k) = i :: rest) :
    ∃ front back, is = front ++ i :: back ∧ (∀ j ∈ front, key j ≠ k) ∧
      back.filter (key · = k) = rest := by
  obtain ⟨front, back, rfl, hfront, -, hback⟩ := List.filter_eq_cons_iff.1 h
  refine ⟨front, back, rfl, fun j hj => ?_, hback⟩
  simpa using hfront j hj

/-- **Reordering**: when updates with different keys commute, the result of a list of updates only
depends on the order of the updates with each key. -/
theorem foldl_reorder
    (hcomm : ∀ i j, key i ≠ key j → ∀ m, update i (update j m) = update j (update i m))
    {is js : List ι} (h : ∀ k, is.filter (key · = k) = js.filter (key · = k)) (m : M) :
    is.foldl (fun m i => update i m) m = js.foldl (fun m i => update i m) m := by
  induction is generalizing js m with
  | nil =>
    cases js with
    | nil => rfl
    | cons j js => simpa using h (key j)
  | cons i is ih =>
    have hi := h (key i)
    rw [List.filter_cons_of_pos (by simp)] at hi
    obtain ⟨front, back, rfl, hfront, hback⟩ := exists_front hi.symm
    rw [foldl_move fun j hj m => hcomm i j (hfront j hj).symm m, List.foldl_cons, List.foldl_cons]
    refine ih (fun k => ?_) _
    by_cases hk : key i = k
    · subst hk
      have hnone : front.filter (key · = key i) = [] := by
        simpa [List.filter_eq_nil_iff] using hfront
      rw [List.filter_append, hnone, List.nil_append, hback]
    · have hother := h k
      rwa [List.filter_cons_of_neg (by simpa using hk), List.filter_append,
        List.filter_cons_of_neg (by simpa using hk), ← List.filter_append] at hother

/-- The pieces of an input may be reordered when their effects commute. -/
theorem Parser.loop_reorder [DecidableEq τ] {P : Parser α τ M} {piece : ι → List α}
    (hreads : ∀ i, P.Reads (piece i) (update i))
    (hcomm : ∀ i j, key i ≠ key j → ∀ m, update i (update j m) = update j (update i m))
    {is js : List ι} (h : ∀ k, is.filter (key · = k) = js.filter (key · = k)) (m : M) :
    P.loop m (is.flatMap piece) = P.loop m (js.flatMap piece) := by
  rw [(Reads.flatten update fun i _ => hreads i).loop_eq,
    (Reads.flatten update fun i _ => hreads i).loop_eq, foldl_reorder hcomm h]

end Reorder

end Records
