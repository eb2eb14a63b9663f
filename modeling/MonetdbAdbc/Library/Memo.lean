import Mathlib.Logic.Function.Basic

/-!
# Memoised computations

A `Stored` computation reads and writes a store and may raise an error; what it wrote stays
written when it raises.  `Computes I r c` says that `c` comes out as `r` from every store that
satisfies the invariant `I`, and keeps `I`, so that the store cannot be observed through `c`.
There is a rule for each way to put computations together.

`remember` answers from the store when it can and otherwise keeps what was computed; an error
is not kept.  A `Memo` is a table of answers to questions, which are kept under keys, and
`Computes.memoise` is the rule for it: a memoised computation computes what the computation does,
as long as the table holds only what the questions of its keys are answered with, and questions
with one key have one answer.
-/

universe u v w

/-- A computation that reads and writes a store and may raise an error. -/
def Stored (σ ε α : Type u) : Type u :=
  σ → Except ε α × σ

namespace Stored

variable {σ ε α β : Type u}

/-- Answer without a look at the store. -/
def ofExcept (r : Except ε α) : Stored σ ε α := fun s => (r, s)

/-- Go on with the answer, unless an error was raised. -/
def bind (c : Stored σ ε α) (f : α → Stored σ ε β) : Stored σ ε β := fun s =>
  match c s with
  | (.ok a, s) => f a s
  | (.error e, s) => (.error e, s)

/-- Go on after an error that was raised. -/
def tryCatch (c : Stored σ ε α) (handler : ε → Stored σ ε α) : Stored σ ε α := fun s =>
  match c s with
  | (.ok a, s) => (.ok a, s)
  | (.error e, s) => handler e s

instance : Monad (Stored σ ε) where
  pure a := ofExcept (.ok a)
  bind := bind

instance : MonadExceptOf ε (Stored σ ε) where
  throw e := ofExcept (.error e)
  tryCatch := tryCatch

/-- Answer from the store if it has the answer; otherwise compute it, and keep it. -/
def remember (get : σ → Option α) (set : α → σ → σ) (c : Stored σ ε α) : Stored σ ε α := fun s =>
  match get s with
  | some a => (.ok a, s)
  | none =>
    match c s with
    | (.ok a, s) => (.ok a, set a s)
    | (.error e, s) => (.error e, s)

/-! ### What is computed -/

/-- From every store with the invariant, the computation comes out as `r` and leaves a store
with the invariant. -/
def Computes (I : σ → Prop) (r : Except ε α) (c : Stored σ ε α) : Prop :=
  ∀ s, I s → (c s).1 = r ∧ I (c s).2

variable {I : σ → Prop} {r : Except ε α} {c : Stored σ ε α}

theorem computes_ofExcept :
  Computes I r (ofExcept r)
  := fun _ h => ⟨rfl, h⟩

theorem Computes.bind {f : α → Stored σ ε β} {t : α → Except ε β} (hc : Computes I r c)
    (hf : ∀ a, r = .ok a → Computes I (t a) (f a)) :
  Computes I (r >>= t) (c >>= f)
  := by
  intro s hs
  obtain ⟨hr, hI⟩ := hc s hs
  change (Stored.bind c f s).1 = _ ∧ I (Stored.bind c f s).2
  rw [Stored.bind]
  cases hcs : c s with
  | mk r' s' =>
      rw [hcs] at hr hI
      obtain rfl : r' = r := hr
      cases r' with
      | error e => exact ⟨rfl, hI⟩
      | ok a => apply hf a rfl s' hI

theorem Computes.tryCatch {handler : ε → Stored σ ε α} {t : ε → Except ε α}
    (hc : Computes I r c) (hhandler : ∀ e, r = .error e → Computes I (t e) (handler e)) :
  Computes I (MonadExcept.tryCatch r t) (MonadExcept.tryCatch c handler)
  := by
  intro s hs
  obtain ⟨hr, hI⟩ := hc s hs
  change (Stored.tryCatch c handler s).1 = _ ∧ I (Stored.tryCatch c handler s).2
  rw [Stored.tryCatch]
  cases hcs : c s with
  | mk r' s' =>
      rw [hcs] at hr hI
      obtain rfl : r' = r := hr
      cases r' with
      | ok a => exact ⟨rfl, hI⟩
      | error e => apply hhandler e rfl s' hI

/-- What the store has is right, and stays right when the answer is kept. -/
theorem Computes.remember {get : σ → Option α} {set : α → σ → σ} (hc : Computes I r c)
    (hget : ∀ s a, I s → get s = some a → r = .ok a)
    (hset : ∀ s a, I s → r = .ok a → I (set a s)) :
  Computes I r (Stored.remember get set c)
  := by
  intro s hs
  rw [Stored.remember]
  cases hhit : get s with
  | some a => exact ⟨(hget s a hs hhit).symm, hs⟩
  | none =>
      obtain ⟨hr, hI⟩ := hc s hs
      cases hcs : c s with
      | mk r' s' =>
          rw [hcs] at hr hI
          obtain rfl : r' = r := hr
          cases r' with
          | error e => exact ⟨rfl, hI⟩
          | ok a => exact ⟨rfl, hset s' a hI rfl⟩

end Stored

/-! ### Tables of answers -/

/-- A table of answers, which are kept under keys. -/
structure Memo (κ : Type v) (β : Type u) where
  /-- The answer under a key, if the table has one. -/
  get? : κ → Option β

namespace Memo

variable {κ : Type v} {β ε : Type u} {ι : Type w}

/-- The table without answers. -/
def empty : Memo κ β where
  get? _ := none

/-- The table with one more answer. -/
def insert [DecidableEq κ] (m : Memo κ β) (k : κ) (b : β) : Memo κ β where
  get? := Function.update m.get? k (some b)

/-- Questions that are kept under one key have one answer. -/
def Separates (key : ι → κ) (spec : ι → Except ε β) : Prop :=
  ∀ q q', key q = key q' → spec q = spec q'

/-- Under the key of a question, the table has only what the question is answered with. -/
def Faithful (key : ι → κ) (spec : ι → Except ε β) (m : Memo κ β) : Prop :=
  ∀ q b, m.get? (key q) = some b → spec q = .ok b

variable {key : ι → κ} {spec : ι → Except ε β}

theorem separates_of_injective (h : Function.Injective key) (spec : ι → Except ε β) :
  Separates key spec
  := fun _ _ hkey => congrArg spec (h hkey)

theorem faithful_empty :
  Faithful key spec empty
  := by rintro q b ⟨⟩

theorem Faithful.insert [DecidableEq κ] (hkey : Separates key spec) {m : Memo κ β}
    (h : m.Faithful key spec) {q : ι} {b : β} (hb : spec q = .ok b) :
  (m.insert (key q) b).Faithful key spec
  := by
  intro q' b' hget
  by_cases hq : key q' = key q
  · have hself : (m.insert (key q) b).get? (key q') = some b := by
      rw [hq]
      apply Function.update_self
    rw [hkey q' q hq, hb, Option.some.inj (hself.symm.trans hget)]
  · have hother : (m.insert (key q) b).get? (key q') = m.get? (key q') :=
      Function.update_of_ne hq _ _
    apply h q' b' (hother.symm.trans hget)

end Memo

/-! ### Computations with a table -/

namespace Stored

variable {σ ε β : Type u} {κ : Type v} [DecidableEq κ] {ι : Type w}

/-- A part of a store that can be replaced. -/
structure Part (σ : Type u) (τ : Type v) where
  get : σ → τ
  modify : (τ → τ) → σ → σ
  get_modify : ∀ f s, get (modify f s) = f (get s)

/-- Answer from what a table in the store has under a key, if there is a table. -/
def memoise (part : Part σ (Option (Memo κ β))) (k : κ) (c : Stored σ ε β) : Stored σ ε β :=
  remember (fun s => (part.get s).bind fun m => m.get? k)
    (fun b s => part.modify (Option.map fun m => m.insert k b) s) c

/-- The table in the store, if there is one, holds only what the questions of its keys are
answered with, and the rest of the store satisfies `I`. -/
def Keeps (part : Part σ (Option (Memo κ β))) (key : ι → κ) (spec : ι → Except ε β)
    (I : σ → Prop) (s : σ) : Prop :=
  (∀ m, part.get s = some m → m.Faithful key spec) ∧ I s

variable {part : Part σ (Option (Memo κ β))} {key : ι → κ} {spec : ι → Except ε β} {I : σ → Prop}

/-- A memoised computation computes the answer that the computation computes. -/
theorem Computes.memoise {q : ι} {c : Stored σ ε β} (hkey : Memo.Separates key spec)
    (hpart : ∀ f s, I s → I (part.modify f s))
    (hc : Computes (Keeps part key spec I) (spec q) c) :
  Computes (Keeps part key spec I) (spec q) (Stored.memoise part (key q) c)
  := by
  apply hc.remember
  · rintro s b ⟨hs, -⟩ hget
    obtain ⟨m, hm, hget⟩ := Option.bind_eq_some_iff.mp hget
    apply hs m hm q b hget
  · rintro s b ⟨hs, hI⟩ hb
    constructor
    · intro m hm
      rw [part.get_modify] at hm
      obtain ⟨m, hm', rfl⟩ := Option.map_eq_some_iff.mp hm
      apply (hs m hm').insert hkey hb
    · apply hpart _ s hI

end Stored
