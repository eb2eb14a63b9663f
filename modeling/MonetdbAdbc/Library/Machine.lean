import Mathlib.Logic.Basic
import Mathlib.Data.List.Basic

/-!
# Machines

A machine answers an input with an output and moves to a new state.  A run feeds a
machine a list of inputs.  `final` is the state a run ends in and `outputs` lists what
the machine answered along the way.

`Along P` says that every step of a run satisfies `P`, a property of the state before
the step and of the input.  `invariant` carries an invariant through a run whose steps
satisfy a condition, and `outputs_eq_of_simulation` compares two machines whose states are
related.
-/

universe u v w x y

/-- A machine with states `σ`, inputs `ι` and outputs `ω`. -/
structure Machine (σ : Type u) (ι : Type v) (ω : Type w) where
  /-- The answer to an input and the state after it. -/
  step : σ → ι → ω × σ

namespace Machine

variable {σ : Type u} {ι : Type v} {ω : Type w} {τ : Type x}

/-- The state after one input. -/
def next (m : Machine σ ι ω) (s : σ) (i : ι) : σ :=
  (m.step s i).2

/-- The answer to one input. -/
def output (m : Machine σ ι ω) (s : σ) (i : ι) : ω :=
  (m.step s i).1

/-- The state a run ends in. -/
def final (m : Machine σ ι ω) : σ → List ι → σ
  | s, [] => s
  | s, i :: is => m.final (m.next s i) is

/-- The answers along a run, in order. -/
def outputs (m : Machine σ ι ω) : σ → List ι → List ω
  | _, [] => []
  | s, i :: is => m.output s i :: m.outputs (m.next s i) is

/-- Every step of a run satisfies `P` at the state before it and its input. -/
def Along (m : Machine σ ι ω) (P : σ → ι → Prop) : σ → List ι → Prop
  | _, [] => True
  | s, i :: is => P s i ∧ m.Along P (m.next s i) is

@[simp]
theorem final_nil (m : Machine σ ι ω) (s : σ) :
  m.final s [] = s
  := rfl

@[simp]
theorem final_cons (m : Machine σ ι ω) (s : σ) (i : ι) (is : List ι) :
  m.final s (i :: is) = m.final (m.next s i) is
  := rfl

@[simp]
theorem outputs_cons (m : Machine σ ι ω) (s : σ) (i : ι) (is : List ι) :
  m.outputs s (i :: is) = m.output s i :: m.outputs (m.next s i) is
  := rfl

/-- A run over `is ++ js` ends where the run over `js` from the end of `is` ends. -/
theorem final_append (m : Machine σ ι ω) (s : σ) (is js : List ι) :
  m.final s (is ++ js) = m.final (m.final s is) js
  := by
  induction is generalizing s with
  | nil => rfl
  | cons i is ih =>
      rw [List.cons_append, final_cons, final_cons]
      apply ih

theorem outputs_append (m : Machine σ ι ω) (s : σ) (is js : List ι) :
  m.outputs s (is ++ js) = m.outputs s is ++ m.outputs (m.final s is) js
  := by
  induction is generalizing s with
  | nil => rfl
  | cons i is ih =>
      rw [List.cons_append, outputs_cons, ih]
      rfl

/-- A condition holds along `is ++ js` when it holds along `is` and along `js` from the
end of `is`. -/
theorem along_append (m : Machine σ ι ω) (P : σ → ι → Prop) (s : σ) (is js : List ι) :
  m.Along P s (is ++ js) ↔ m.Along P s is ∧ m.Along P (m.final s is) js
  := by
  induction is generalizing s with
  | nil =>
      rw [List.nil_append, final_nil]
      apply (and_iff_right trivial).symm
  | cons i is ih =>
      rw [List.cons_append, final_cons]
      simp only [Along]
      rw [ih, and_assoc]

/-- A condition holds along a run when it holds at every place the run can be split. -/
theorem along_iff (m : Machine σ ι ω) (P : σ → ι → Prop) (s : σ) (is : List ι) :
  m.Along P s is ↔ ∀ pre i post, is = pre ++ i :: post → P (m.final s pre) i
  := by
  constructor
  · rintro h pre i post rfl
    obtain ⟨-, h⟩ := (m.along_append P s pre (i :: post)).mp h
    apply h.1
  · intro h
    induction is generalizing s with
    | nil => trivial
    | cons i is ih =>
        constructor
        · apply h [] i is rfl
        · apply ih
          rintro pre j post rfl
          apply h (i :: pre) j post rfl

/-- An invariant that every step satisfying `P` preserves holds at the end of a run along
which `P` holds. -/
theorem invariant (m : Machine σ ι ω) {P : σ → ι → Prop} {I : σ → Prop}
    (hstep : ∀ s i, I s → P s i → I (m.next s i))
    {s : σ} {is : List ι} (hs : I s) (h : m.Along P s is) :
  I (m.final s is)
  := by
  induction is generalizing s with
  | nil => apply hs
  | cons i is ih =>
      apply ih
      · apply hstep s i hs h.1
      · apply h.2

/-- An invariant that every step preserves holds at the end of every run. -/
theorem invariant_of_next (m : Machine σ ι ω) {I : σ → Prop} (hstep : ∀ s i, I s → I (m.next s i))
    {s : σ} (hs : I s) (is : List ι) :
  I (m.final s is)
  := by
  induction is generalizing s with
  | nil => apply hs
  | cons i is ih => apply ih (hstep s i hs)

/-- While an invariant holds that every step preserves, and that determines the answer to an
input, a run answers each of its inputs so. -/
theorem outputs_eq_map (m : Machine σ ι ω) {I : σ → Prop} {f : ι → ω}
    (hstep : ∀ s i, I s → m.output s i = f i ∧ I (m.next s i)) {s : σ} (hs : I s) (is : List ι) :
  m.outputs s is = is.map f
  := by
  induction is generalizing s with
  | nil => rfl
  | cons i is ih =>
      obtain ⟨hout, hnext⟩ := hstep s i hs
      rw [outputs_cons, List.map_cons, hout, ih hnext]

/-- A condition on inputs alone holds along a run when every input satisfies it. -/
theorem along_of_forall (m : Machine σ ι ω) {P : ι → Prop} {is : List ι} (h : ∀ i ∈ is, P i)
    (s : σ) :
  m.Along (fun _ i => P i) s is
  := by
  induction is generalizing s with
  | nil => trivial
  | cons i is ih =>
      constructor
      · apply h i List.mem_cons_self
      · apply ih (fun j hj => h j (List.mem_cons_of_mem i hj))

/-- Two machines over the same inputs, one step of which keeps their states related and
gives the same answer, end in related states and give the same answers. -/
theorem outputs_eq_of_simulation
    (m : Machine σ ι ω) (n : Machine τ ι ω) (R : σ → τ → Prop) {P : ι → Prop}
    (hstep : ∀ s t i, R s t → P i → m.output s i = n.output t i ∧ R (m.next s i) (n.next t i))
    {s : σ} {t : τ} {is : List ι} (h : R s t) (hP : ∀ i ∈ is, P i) :
  m.outputs s is = n.outputs t is ∧ R (m.final s is) (n.final t is)
  := by
  induction is generalizing s t with
  | nil => exact ⟨rfl, h⟩
  | cons i is ih =>
      obtain ⟨hout, hnext⟩ := hstep s t i h (hP i List.mem_cons_self)
      obtain ⟨houts, hfinal⟩ := ih hnext (fun j hj => hP j (List.mem_cons_of_mem i hj))
      constructor
      · rw [outputs_cons, outputs_cons, hout, houts]
      · apply hfinal

/-- A machine that is given its inputs through `g`. -/
def comap {κ : Type y} (m : Machine σ ι ω) (g : κ → ι) : Machine σ κ ω where
  step s k := m.step s (g k)

theorem final_map {κ : Type y} (m : Machine σ ι ω) (g : κ → ι) (s : σ) (ks : List κ) :
  m.final s (ks.map g) = (m.comap g).final s ks
  := by
  induction ks generalizing s with
  | nil => rfl
  | cons k ks ih => apply ih

theorem outputs_map {κ : Type y} (m : Machine σ ι ω) (g : κ → ι) (s : σ) (ks : List κ) :
  m.outputs s (ks.map g) = (m.comap g).outputs s ks
  := by
  induction ks generalizing s with
  | nil => rfl
  | cons k ks ih =>
      rw [List.map_cons, outputs_cons, outputs_cons]
      congr 1
      apply ih

end Machine
