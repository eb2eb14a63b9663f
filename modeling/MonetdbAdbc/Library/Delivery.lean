import Mathlib.Data.List.Basic

/-!
# Delivering the items of a stream

A stream is a list of items, each a row or an error.  A consumer takes one row, at most
`n` rows, or all rows.  An error that is reached is raised once: it leaves the stream, and
the rows taken by the call that reached it are lost.

On a stream without errors, `takeRows_map_ok` and `takeAll_map_ok` say that a consumer
gets the rows in order.
-/

universe u v

namespace Delivery

variable {ε : Type u} {ρ : Type v}

/-- One row, if one is left. -/
def takeOne : List (Except ε ρ) → Except ε (Option ρ) × List (Except ε ρ)
  | [] => (.ok none, [])
  | .error e :: items => (.error e, items)
  | .ok row :: items => (.ok (some row), items)

/-- At most `n` rows. -/
def takeRows : Nat → List (Except ε ρ) → Except ε (List ρ) × List (Except ε ρ)
  | 0, items => (.ok [], items)
  | _ + 1, [] => (.ok [], [])
  | _ + 1, .error e :: items => (.error e, items)
  | n + 1, .ok row :: items =>
      let taken := takeRows n items
      ((row :: ·) <$> taken.1, taken.2)

/-- All rows. -/
def takeAll (items : List (Except ε ρ)) : Except ε (List ρ) × List (Except ε ρ) :=
  takeRows items.length items

@[simp]
theorem takeRows_zero (items : List (Except ε ρ)) :
  takeRows 0 items = (.ok [], items)
  := rfl

@[simp]
theorem takeRows_nil (n : Nat) :
  takeRows n ([] : List (Except ε ρ)) = (.ok [], [])
  := by
  cases n <;> rfl

theorem takeRows_error {n : Nat} (hn : 0 < n) (e : ε) (items : List (Except ε ρ)) :
  takeRows n (.error e :: items) = (.error e, items)
  := by
  cases n with
  | zero => exact absurd hn (Nat.lt_irrefl 0)
  | succ n => rfl

/-- Rows at the front of a stream are taken first. -/
theorem takeRows_append (rows : List ρ) (n : Nat) (items : List (Except ε ρ)) :
  takeRows (rows.length + n) (rows.map .ok ++ items)
    = ((rows ++ ·) <$> (takeRows n items).1, (takeRows n items).2)
  := by
  induction rows with
  | nil =>
      rw [List.length_nil, Nat.zero_add]
      show _ = (id <$> _, _)
      rw [id_map]
      rfl
  | cons row rows ih =>
      rw [List.length_cons, Nat.add_right_comm]
      simp only [List.map_cons, List.cons_append, takeRows]
      rw [ih]
      cases (takeRows n items).1 <;> rfl

/-- As many rows as there are at the front of a stream. -/
theorem takeRows_of_le {rows : List ρ} {n : Nat} (h : n ≤ rows.length)
    (items : List (Except ε ρ)) :
  takeRows n (rows.map .ok ++ items) = (.ok (rows.take n), (rows.drop n).map .ok ++ items)
  := by
  have hlength : (rows.take n).length + 0 = n := by
    rw [Nat.add_zero, List.length_take, Nat.min_eq_left h]
  have happend := takeRows_append (rows.take n) 0 ((rows.drop n).map .ok ++ items)
  rw [hlength, ← List.append_assoc, ← List.map_append, List.take_append_drop, takeRows_zero]
    at happend
  rw [happend, Functor.map, Except.instMonad]
  show (Except.ok (rows.take n ++ []), _) = _
  rw [List.append_nil]

/-- A stream without errors hands out its rows in order. -/
theorem takeRows_map_ok (rows : List ρ) (n : Nat) :
  takeRows n (rows.map (.ok : ρ → Except ε ρ)) = (.ok (rows.take n), (rows.drop n).map .ok)
  := by
  have hnil : rows.map (.ok : ρ → Except ε ρ) = rows.map .ok ++ [] := (List.append_nil _).symm
  rw [hnil]
  rcases Nat.le_total n rows.length with h | h
  · rw [takeRows_of_le h, List.append_nil]
  · obtain ⟨m, rfl⟩ := Nat.exists_eq_add_of_le h
    rw [takeRows_append, takeRows_nil, List.take_of_length_le h, List.drop_eq_nil_of_le h]
    show (Except.ok (rows ++ []), _) = _
    rw [List.append_nil]
    rfl

theorem takeAll_map_ok (rows : List ρ) :
  takeAll (rows.map (.ok : ρ → Except ε ρ)) = (.ok rows, [])
  := by
  rw [takeAll, List.length_map, takeRows_map_ok, List.take_length, List.drop_length]
  rfl

theorem takeOne_map_ok (rows : List ρ) :
  takeOne (rows.map (.ok : ρ → Except ε ρ)) = (.ok rows.head?, rows.tail.map .ok)
  := by
  cases rows <;> rfl

/-- All rows are the rows at the front and then all rows of the rest. -/
theorem takeAll_append (rows : List ρ) (items : List (Except ε ρ)) :
  takeAll (rows.map .ok ++ items)
    = ((rows ++ ·) <$> (takeAll items).1, (takeAll items).2)
  := by
  rw [takeAll, List.length_append, List.length_map]
  apply takeRows_append

end Delivery
