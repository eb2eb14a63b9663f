import Mathlib.Order.Defs.Unbundled
import MonetdbAdbc.Library.Memo

/-!
# What computations leave behind

`Leaves R c` says that the computation `c` takes every store to one that `R` relates it to,
whether it raises or not.  There is a rule for each way to put computations together, where
`R` is reflexive and transitive.

`bracket` acquires something, uses it and releases it, also when the use raises.  What its
use leaves is another relation than what it leaves itself, and the two ends turn the one into
the other.
-/

universe u

namespace Stored

variable {σ ε α β : Type u}

/-- The store. -/
def get : Stored σ ε σ := fun s => (.ok s, s)

/-- Change the store, and come out as `r`. -/
def modify (f : σ → σ) (r : Except ε α) : Stored σ ε α := fun s => (r, f s)

/-- Acquire something, use it, and release it whatever the use came out as.  An error of the
release takes the place of an error of the use. -/
def bracket (acquire : Stored σ ε α) (use : α → Stored σ ε β) (release : α → Stored σ ε PUnit) :
    Stored σ ε β := fun s =>
  match acquire s with
  | (.error e, s) => (.error e, s)
  | (.ok a, s) =>
    match use a s with
    | (r, s) =>
      match release a s with
      | (.error e, s) => (.error e, s)
      | (.ok _, s) => (r, s)

/-- A sequence that comes out as a value has done its first part, and is its second part from
there. -/
theorem bind_eq_ok {c : Stored σ ε α} {f : α → Stored σ ε β} {s : σ} {b : β}
    (h : ((c >>= f) s).1 = .ok b) :
  ∃ a s', c s = (.ok a, s') ∧ (c >>= f) s = f a s'
  := by
  change (Stored.bind c f s).1 = _ at h
  change ∃ a s', c s = (.ok a, s') ∧ Stored.bind c f s = f a s'
  rw [Stored.bind] at h ⊢
  cases hc : c s with
  | mk r s' =>
      rw [hc] at h
      cases r with
      | error e => cases h
      | ok a => exact ⟨a, s', rfl, rfl⟩

/-- A bracket that comes out as a value has acquired and used what it releases. -/
theorem bracket_eq_ok {acquire : Stored σ ε α} {use : α → Stored σ ε β}
    {release : α → Stored σ ε PUnit} {s : σ} {b : β}
    (h : (bracket acquire use release s).1 = .ok b) :
  ∃ a s', acquire s = (.ok a, s') ∧ (use a s').1 = .ok b ∧
    (bracket acquire use release s).2 = (release a (use a s').2).2
  := by
  rw [bracket] at h ⊢
  cases hacquire : acquire s with
  | mk r s' =>
      rw [hacquire] at h
      cases r with
      | error e => cases h
      | ok a =>
          refine ⟨a, s', rfl, ?_⟩
          dsimp only at h ⊢
          cases hrelease : release a (use a s').2 with
          | mk r' s'' =>
              rw [hrelease] at h
              cases r' with
              | error e => cases h
              | ok _ => exact ⟨h, rfl⟩

/-- The computation takes every store to a related one. -/
def Leaves (R : σ → σ → Prop) (c : Stored σ ε α) : Prop :=
  ∀ s, R s (c s).2

variable {R : σ → σ → Prop}

theorem leaves_modify {f : σ → σ} (h : ∀ s, R s (f s)) (r : Except ε α) :
  Leaves R (modify f r)
  := h

theorem leaves_ofExcept [Std.Refl R] (r : Except ε α) :
  Leaves R (ofExcept r : Stored σ ε α)
  := fun s => Std.Refl.refl s

theorem leaves_get [Std.Refl R] :
  Leaves R (get : Stored σ ε σ)
  := fun s => Std.Refl.refl s

section Sequences

variable [IsTrans σ R]

theorem Leaves.bind {c : Stored σ ε α} {f : α → Stored σ ε β} (hc : Leaves R c)
    (hf : ∀ a, Leaves R (f a)) :
  Leaves R (c >>= f)
  := by
  intro s
  have hs := hc s
  change R s (Stored.bind c f s).2
  rw [Stored.bind]
  cases hcs : c s with
  | mk r s' =>
      rw [hcs] at hs
      cases r with
      | error e => apply hs
      | ok a => apply IsTrans.trans _ _ _ hs (hf a s')

theorem Leaves.tryCatch {c : Stored σ ε α} {handler : ε → Stored σ ε α} (hc : Leaves R c)
    (hhandler : ∀ e, Leaves R (handler e)) :
  Leaves R (Stored.tryCatch c handler)
  := by
  intro s
  have hs := hc s
  rw [Stored.tryCatch]
  cases hcs : c s with
  | mk r s' =>
      rw [hcs] at hs
      cases r with
      | error e => apply IsTrans.trans _ _ _ hs (hhandler e s')
      | ok a => apply hs

end Sequences

/-- What happens between the two ends of a bracket, as seen from outside. -/
theorem Leaves.bracket {Q : σ → σ → Prop} {acquire : Stored σ ε α} {use : α → Stored σ ε β}
    {release : α → Stored σ ε PUnit}
    (herror : ∀ s e s', acquire s = (.error e, s') → R s s')
    (hok : ∀ s a s', acquire s = (.ok a, s') → ∀ s'', Q s' s'' → R s (release a s'').2)
    (huse : ∀ a, Leaves Q (use a)) :
  Leaves R (bracket acquire use release)
  := by
  intro s
  rw [Stored.bracket]
  cases hacquire : acquire s with
  | mk r s' =>
      cases r with
      | error e => apply herror s e s' hacquire
      | ok a =>
          have hreleased := hok s a s' hacquire (use a s').2 (huse a s')
          dsimp only
          cases hrelease : release a (use a s').2 with
          | mk r' s'' =>
              rw [hrelease] at hreleased
              cases r' <;> apply hreleased

end Stored
