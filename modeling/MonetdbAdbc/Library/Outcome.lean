import Mathlib.Data.List.Forall2

/-!
# Outcomes

Two computations that may fail agree along a relation when both fail, or both succeed
with related values.  Which error is raised does not matter.  `Agree.mapM` lifts the
agreement of two functions at every element to lists.
-/

universe u v w

namespace Outcome

variable {ε : Type u} {δ : Type w} {α : Type v} {β : Type v} {γ : Type v}

/-- Both computations fail, or both succeed with values related by `R`. -/
def Agree (R : α → β → Prop) : Except ε α → Except δ β → Prop
  | .ok a, .ok b => R a b
  | .error _, .error _ => True
  | _, _ => False

@[simp]
theorem agree_ok (R : α → β → Prop) (a : α) (b : β) :
  Agree R (.ok a : Except ε α) (.ok b : Except δ β) ↔ R a b
  := Iff.rfl

@[simp]
theorem agree_error (R : α → β → Prop) (e : ε) (d : δ) :
  Agree R (.error e) (.error d)
  := trivial

@[simp]
theorem not_agree_ok_error (R : α → β → Prop) (a : α) (d : δ) :
  ¬ Agree R (.ok a : Except ε α) (.error d)
  := not_false

@[simp]
theorem not_agree_error_ok (R : α → β → Prop) (e : ε) (b : β) :
  ¬ Agree R (.error e) (.ok b : Except δ β)
  := not_false

theorem Agree.refl {R : α → α → Prop} (hR : ∀ a, R a a) (x : Except ε α) :
  Agree R x x
  := by
  cases x with
  | ok a => apply hR a
  | error e => trivial

theorem Agree.symm {R : α → β → Prop} {x : Except ε α} {y : Except δ β} (h : Agree R x y) :
  Agree (fun b a => R a b) y x
  := by
  cases x <;> cases y <;> apply h

theorem Agree.trans {R : α → β → Prop} {S : β → γ → Prop} {T : α → γ → Prop}
    (hT : ∀ a b c, R a b → S b c → T a c)
    {x : Except ε α} {y : Except δ β} {z : Except ε γ} (hxy : Agree R x y) (hyz : Agree S y z) :
  Agree T x z
  := by
  cases x <;> cases y <;> cases z <;> first | apply hT _ _ _ hxy hyz | trivial

/-- The first element that fails makes the whole list fail. -/
theorem mapM_cons_error {f : α → Except ε β} {a : α} {e : ε} (h : f a = .error e) (l : List α) :
  (a :: l).mapM f = .error e
  := by
  rw [List.mapM_cons, h]
  rfl

theorem mapM_cons_ok {f : α → Except ε β} {a : α} {b : β} (h : f a = .ok b) (l : List α) :
  (a :: l).mapM f = (b :: ·) <$> l.mapM f
  := by
  rw [List.mapM_cons, h]
  rfl

/-- Functions that agree at every element of a list agree on the list. -/
theorem Agree.mapM {f g : α → Except ε β} {l : List α} (h : ∀ a ∈ l, Agree Eq (f a) (g a)) :
  Agree Eq (l.mapM f) (l.mapM g)
  := by
  induction l with
  | nil => rfl
  | cons a l ih =>
      have ha := h a List.mem_cons_self
      have hl := ih (fun b hb => h b (List.mem_cons_of_mem a hb))
      cases hf : f a with
      | error e =>
          rw [mapM_cons_error hf]
          cases hg : g a with
          | error d =>
              rw [mapM_cons_error hg]
              trivial
          | ok b =>
              rw [hf, hg] at ha
              exact absurd ha not_false
      | ok b =>
          cases hg : g a with
          | error d =>
              rw [hf, hg] at ha
              exact absurd ha not_false
          | ok c =>
              rw [hf, hg, agree_ok] at ha
              subst ha
              rw [mapM_cons_ok hf, mapM_cons_ok hg]
              cases hx : l.mapM f <;> cases hy : l.mapM g <;> rw [hx, hy] at hl
              · trivial
              · exact absurd hl not_false
              · exact absurd hl not_false
              · rw [agree_ok] at hl
                subst hl
                rfl

/-- Functions that are equal at every element of a list are equal on the list. -/
theorem mapM_congr {m : Type v → Type w} [Monad m] [LawfulMonad m] {α : Type u}
    {f g : α → m β} {l : List α} (h : ∀ a ∈ l, f a = g a) :
  l.mapM f = l.mapM g
  := by
  induction l with
  | nil => rfl
  | cons a l ih =>
      rw [List.mapM_cons, List.mapM_cons, h a List.mem_cons_self,
        ih fun b hb => h b (List.mem_cons_of_mem a hb)]

/-- A function that succeeds at every element succeeds on the list. -/
theorem mapM_eq_ok {f : α → Except ε β} {g : α → β} {l : List α} (h : ∀ a ∈ l, f a = .ok (g a)) :
  l.mapM f = .ok (l.map g)
  := by
  induction l with
  | nil => rfl
  | cons a l ih =>
      rw [mapM_cons_ok (h a List.mem_cons_self), ih (fun b hb => h b (List.mem_cons_of_mem a hb))]
      rfl

/-- A function that fails at some element fails on the list. -/
theorem mapM_eq_error {f : α → Except ε β} {l : List α} {a : α} {e : ε} (ha : a ∈ l)
    (h : f a = .error e) :
  ∃ d, l.mapM f = .error d
  := by
  induction l with
  | nil => simp at ha
  | cons b l ih =>
      cases hb : f b with
      | error d => exact ⟨d, mapM_cons_error hb l⟩
      | ok c =>
          rcases List.mem_cons.mp ha with rfl | ha
          · rw [h] at hb
            cases hb
          · obtain ⟨d, hd⟩ := ih ha
            use d
            rw [mapM_cons_ok hb, hd]
            rfl

/-- A list on which a function succeeds has as many values as elements. -/
theorem length_of_mapM_eq_ok {f : α → Except ε β} {l : List α} {m : List β}
    (h : l.mapM f = .ok m) :
  m.length = l.length
  := by
  induction l generalizing m with
  | nil =>
      cases h
      rfl
  | cons a l ih =>
      cases ha : f a with
      | error e =>
          rw [mapM_cons_error ha] at h
          cases h
      | ok b =>
          rw [mapM_cons_ok ha] at h
          cases hl : l.mapM f with
          | error e =>
              rw [hl] at h
              cases h
          | ok n =>
              rw [hl] at h
              cases h
              rw [List.length_cons, List.length_cons, ih hl]

/-- Every value of a list on which a function succeeds is that of an element. -/
theorem exists_of_mem_mapM {f : α → Except ε β} {l : List α} {m : List β} (h : l.mapM f = .ok m)
    {b : β} (hb : b ∈ m) :
  ∃ a ∈ l, f a = .ok b
  := by
  induction l generalizing m with
  | nil =>
      cases h
      cases hb
  | cons a l ih =>
      cases ha : f a with
      | error e =>
          rw [mapM_cons_error ha] at h
          cases h
      | ok b' =>
          rw [mapM_cons_ok ha] at h
          cases hl : l.mapM f with
          | error e =>
              rw [hl] at h
              cases h
          | ok n =>
              rw [hl] at h
              cases h
              rcases List.mem_cons.mp hb with rfl | hb
              · exact ⟨a, List.mem_cons_self, ha⟩
              · obtain ⟨a', ha', hf⟩ := ih hl hb
                exact ⟨a', List.mem_cons_of_mem a ha', hf⟩

/-- A list on which a function fails has an element where it fails with that error. -/
theorem exists_of_mapM_eq_error {f : α → Except ε β} {l : List α} {e : ε}
    (h : l.mapM f = .error e) :
  ∃ a ∈ l, f a = .error e
  := by
  induction l with
  | nil => cases h
  | cons a l ih =>
      cases ha : f a with
      | error d =>
          rw [mapM_cons_error ha] at h
          cases h
          exact ⟨a, List.mem_cons_self, ha⟩
      | ok b =>
          rw [mapM_cons_ok ha] at h
          cases hl : l.mapM f with
          | error d =>
              rw [hl] at h
              cases h
              obtain ⟨a', ha', hf⟩ := ih hl
              exact ⟨a', List.mem_cons_of_mem a ha', hf⟩
          | ok m =>
              rw [hl] at h
              cases h

/-- Keeping the values that a function finds, of all that it gives. -/
theorem filterMapM_eq {m : Type v → Type w} [Monad m] [LawfulMonad m] {α : Type u} {β : Type v}
    (f : α → m (Option β)) (l : List α) :
  l.filterMapM f = (List.filterMap id ·) <$> l.mapM f
  := by
  induction l with
  | nil => simp
  | cons a l ih =>
      simp only [List.filterMapM_cons, List.mapM_cons, map_bind, map_pure]
      congr 1
      funext o
      cases o with
      | none => simp [ih, bind_pure_comp]
      | some b => simp [ih, bind_pure_comp, Functor.map_map]

/-- Elements related to ones where a function has a value of the right kind: it succeeds on
the list, with values of that kind. -/
theorem exists_mapM_eq_ok {R : α → β → Prop} {Q : α → γ → Prop} {f : β → Except ε γ}
    {l : List α} {m : List β} (h : List.Forall₂ R l m)
    (hf : ∀ a b, R a b → ∃ c, f b = .ok c ∧ Q a c) :
  ∃ n, m.mapM f = .ok n ∧ List.Forall₂ Q l n
  := by
  induction h with
  | nil => exact ⟨[], rfl, .nil⟩
  | @cons a b l m hab hlm ih =>
      obtain ⟨c, hc, hac⟩ := hf a b hab
      obtain ⟨n, hn, hln⟩ := ih
      use c :: n
      rw [mapM_cons_ok hc, hn]
      exact ⟨rfl, .cons hac hln⟩

/-- Zipping the values of a list of pairs with the second elements. -/
theorem mapM_zip_pair (f : α × β → Except ε γ) (l : List α) (m : List β)
    (h : l.length = m.length) :
  ((l.zip m).mapM fun p => Prod.mk p.2 <$> f p) = (m.zip ·) <$> (l.zip m).mapM f
  := by
  induction l generalizing m with
  | nil =>
      cases m with
      | nil => rfl
      | cons b m => cases h
  | cons a l ih =>
      cases m with
      | nil => cases h
      | cons b m =>
          rw [List.zip_cons_cons, List.mapM_cons, List.mapM_cons, ih m (Nat.succ.inj h)]
          cases f (a, b) with
          | error e => rfl
          | ok c => cases (l.zip m).mapM f <;> rfl

theorem mapError_eq_ok_iff (f : ε → δ) (x : Except ε α) (a : α) :
  x.mapError f = .ok a ↔ x = .ok a
  := by
  cases x <;> simp [Except.mapError]

/-! ### Forgetting the error -/

@[simp]
theorem toOption_ok (a : α) :
  (Except.ok a : Except ε α).toOption = some a
  := rfl

@[simp]
theorem toOption_error (e : ε) :
  (Except.error e : Except ε α).toOption = none
  := rfl

theorem toOption_eq_some_iff (x : Except ε α) (a : α) :
  x.toOption = some a ↔ x = .ok a
  := by
  cases x <;> simp

theorem toOption_map (g : α → β) (x : Except ε α) :
  (g <$> x).toOption = x.toOption.map g
  := by
  cases x <;> rfl

theorem toOption_mapM (f : α → Except ε β) (l : List α) :
  (l.mapM f).toOption = l.mapM fun a => (f a).toOption
  := by
  induction l with
  | nil => rfl
  | cons a l ih =>
      rw [List.mapM_cons, List.mapM_cons, ← ih]
      cases f a with
      | error e => rfl
      | ok b => cases l.mapM f <;> rfl

/-- Mapping the values of a list on which a function succeeds. -/
theorem mapM_option_map (g : β → γ) (f : α → Option β) (l : List α) :
  (l.mapM fun a => (f a).map g) = (l.mapM f).map (List.map g)
  := by
  induction l with
  | nil => rfl
  | cons a l ih =>
      rw [List.mapM_cons, List.mapM_cons, ih]
      cases f a with
      | none => rfl
      | some b => cases l.mapM f <;> rfl

/-- The values of a function on a list are those at its elements, in order. -/
theorem forall₂_of_mapM_eq_some {f : α → Option β} {l : List α} {m : List β}
    (h : l.mapM f = some m) :
  List.Forall₂ (fun a b => f a = some b) l m
  := by
  induction l generalizing m with
  | nil =>
      cases h
      exact .nil
  | cons a l ih =>
      rw [List.mapM_cons] at h
      obtain ⟨b, hb, h⟩ := Option.bind_eq_some_iff.mp h
      obtain ⟨n, hn, h⟩ := Option.bind_eq_some_iff.mp h
      cases h
      exact .cons hb (ih hn)

/-- Every value of a function on a list is that of an element. -/
theorem exists_of_mem_mapM_some {f : α → Option β} {l : List α} {m : List β}
    (h : l.mapM f = some m) {b : β} (hb : b ∈ m) :
  ∃ a ∈ l, f a = some b
  := by
  have hvalues := forall₂_of_mapM_eq_some h
  obtain ⟨i, hi, rfl⟩ := List.getElem_of_mem hb
  have hi' : i < l.length := hvalues.length_eq ▸ hi
  exact ⟨l[i], List.getElem_mem hi', hvalues.get hi' hi⟩

/-- A function has values on a list when it has one at every element. -/
theorem isSome_mapM (f : α → Option β) (l : List α) :
  (l.mapM f).isSome ↔ ∀ a ∈ l, (f a).isSome
  := by
  induction l with
  | nil => simp
  | cons a l ih =>
      rw [List.mapM_cons, List.forall_mem_cons, ← ih]
      cases f a with
      | none => simp
      | some b => cases l.mapM f <;> simp

/-- A function that has values on a list has those of another function exactly when the two
agree at every element. -/
theorem mapM_eq_mapM_iff {f g : α → Option β} {l : List α} (hf : ∀ a ∈ l, (f a).isSome) :
  l.mapM f = l.mapM g ↔ ∀ a ∈ l, f a = g a
  := by
  constructor
  · intro h
    obtain ⟨m, hm⟩ := Option.isSome_iff_exists.mp ((isSome_mapM f l).mpr hf)
    have hvalues := forall₂_of_mapM_eq_some hm
    have hvalues' := forall₂_of_mapM_eq_some (h.symm.trans hm)
    intro a ha
    obtain ⟨i, hi, rfl⟩ := List.getElem_of_mem ha
    have hi' : i < m.length := hvalues.length_eq ▸ hi
    exact (hvalues.get hi hi').trans (hvalues'.get hi hi').symm
  · apply mapM_congr

/-- Two computations agree on what `g` keeps of their values when they give the same. -/
theorem agree_iff_toOption (g : α → β) (x : Except ε α) (y : Except δ α) :
  Agree (fun a b => g a = g b) x y ↔ x.toOption.map g = y.toOption.map g
  := by
  cases x <;> cases y <;> simp

end Outcome
