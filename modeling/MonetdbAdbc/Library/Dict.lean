import Mathlib.Data.List.Induction
import Mathlib.Data.List.Nodup

/-!
# Insertion-ordered dictionaries

A dictionary keeps its items in the order in which their keys were first set, and no key
occurs twice.  `alter` is the one update: it replaces the value of a key in place, or
appends a new item.

`groupBy` folds a list of rows into a dictionary, each row updating the value of its own
key.  What it leaves at a key depends only on the rows with that key
(`get?_groupBy`).
-/

universe u v w

/-- A dictionary from `κ` to `ν` that remembers the order of insertion. -/
structure Dict (κ : Type u) (ν : Type v) where
  /-- The items, oldest key first. -/
  items : List (κ × ν)
  /-- No key occurs twice. -/
  nodup : (items.map Prod.fst).Nodup

namespace Dict

variable {κ : Type u} {ν : Type v} {ρ : Type w}

/-- The dictionary without items. -/
def empty : Dict κ ν where
  items := []
  nodup := List.nodup_nil

/-- The keys, oldest first. -/
def keys (d : Dict κ ν) : List κ :=
  d.items.map Prod.fst

/-- The values, in the order of their keys. -/
def values (d : Dict κ ν) : List ν :=
  d.items.map Prod.snd

@[simp]
theorem items_empty :
  (empty : Dict κ ν).items = []
  := rfl

theorem keys_nodup (d : Dict κ ν) :
  d.keys.Nodup
  := d.nodup

/-- The values of items one by one, where their keys are those of a list. -/
theorem forall₂_map_snd {α : Type w} {R : α → ν → Prop} {items : List (κ × ν)} {l : List α}
    {key : α → κ} (hkeys : items.map Prod.fst = l.map key)
    (h : ∀ a ∈ l, ∀ v, (key a, v) ∈ items → R a v) :
  List.Forall₂ R l (items.map Prod.snd)
  := by
  induction l generalizing items with
  | nil =>
      rw [List.map_nil, List.map_eq_nil_iff] at hkeys
      rw [hkeys]
      apply List.Forall₂.nil
  | cons a l ih =>
      cases items with
      | nil => cases hkeys
      | cons p items =>
          obtain ⟨hp, hkeys⟩ := List.cons.inj hkeys
          apply List.Forall₂.cons
          · apply h a List.mem_cons_self
            rw [← hp]
            apply List.mem_cons_self
          · apply ih hkeys
            intro b hb v hv
            apply h b (List.mem_cons_of_mem a hb) v (List.mem_cons_of_mem p hv)

variable [DecidableEq κ]

/-- The value of a key, if the key is present. -/
def get? (d : Dict κ ν) (k : κ) : Option ν :=
  d.items.lookup k

@[simp]
theorem get?_empty (k : κ) :
  (empty : Dict κ ν).get? k = none
  := rfl

theorem lookup_cons_of_ne {k k' : κ} (h : k ≠ k') (v : ν) (l : List (κ × ν)) :
  ((k', v) :: l).lookup k = l.lookup k
  := by
  rw [List.lookup_cons, beq_eq_false_iff_ne.mpr h]

/-- An item of a list without repeated keys is what its key looks up. -/
theorem lookup_eq_some_iff {l : List (κ × ν)} (h : (l.map Prod.fst).Nodup) (k : κ) (v : ν) :
  l.lookup k = some v ↔ (k, v) ∈ l
  := by
  induction l with
  | nil => simp
  | cons p l ih =>
      obtain ⟨k', v'⟩ := p
      simp only [List.map_cons, List.nodup_cons] at h
      by_cases hk : k = k'
      · subst hk
        have hnot : ∀ w, (k, w) ∉ l := fun w hw => h.1 (List.mem_map_of_mem (f := Prod.fst) hw)
        simp [hnot, eq_comm]
      · simp [lookup_cons_of_ne hk, hk, ih h.2]

/-- The items of a dictionary are exactly what its keys look up. -/
theorem mem_items_iff (d : Dict κ ν) (k : κ) (v : ν) :
  (k, v) ∈ d.items ↔ d.get? k = some v
  := (lookup_eq_some_iff d.nodup k v).symm

theorem mem_keys_iff (d : Dict κ ν) (k : κ) :
  k ∈ d.keys ↔ ∃ v, d.get? k = some v
  := by
  simp only [keys, List.mem_map, Prod.exists, exists_and_right, exists_eq_right, mem_items_iff]

theorem mem_values_iff (d : Dict κ ν) (v : ν) :
  v ∈ d.values ↔ ∃ k, d.get? k = some v
  := by
  simp only [values, List.mem_map, Prod.exists, exists_eq_right, mem_items_iff]

/-- The values of a dictionary one by one, where its keys are those of a list. -/
theorem forall₂_values {α : Type w} {R : α → ν → Prop} {d : Dict κ ν} {l : List α} {key : α → κ}
    (hkeys : d.keys = l.map key) (h : ∀ a ∈ l, ∀ v, d.get? (key a) = some v → R a v) :
  List.Forall₂ R l d.values
  := by
  apply forall₂_map_snd hkeys
  intro a ha v hv
  apply h a ha v ((d.mem_items_iff _ _).mp hv)

/-! ### Updating -/

/-- Replace the value of `k` by `f` of it, or append `f none` at `k`. -/
def alterItems (k : κ) (f : Option ν → ν) : List (κ × ν) → List (κ × ν)
  | [] => [(k, f none)]
  | (k', v) :: l => if k' = k then (k', f (some v)) :: l else (k', v) :: alterItems k f l

theorem keys_alterItems (k : κ) (f : Option ν → ν) (l : List (κ × ν)) :
  (alterItems k f l).map Prod.fst
    = if k ∈ l.map Prod.fst then l.map Prod.fst else l.map Prod.fst ++ [k]
  := by
  induction l with
  | nil => rfl
  | cons p l ih =>
      obtain ⟨k', v⟩ := p
      by_cases hk : k' = k
      · simp [alterItems, hk]
      · simp only [alterItems, hk, if_false, List.map_cons, ih, List.mem_cons, Ne.symm hk,
          false_or, apply_ite (List.cons k'), List.cons_append]

theorem lookup_alterItems (k k' : κ) (f : Option ν → ν) (l : List (κ × ν)) :
  (alterItems k f l).lookup k' = if k' = k then some (f (l.lookup k)) else l.lookup k'
  := by
  induction l with
  | nil =>
      by_cases hk : k' = k
      · simp [alterItems, hk]
      · simp [alterItems, hk, lookup_cons_of_ne]
  | cons p l ih =>
      obtain ⟨k₀, v⟩ := p
      by_cases hk : k₀ = k
      · subst hk
        by_cases hk' : k' = k₀
        · simp [alterItems, hk']
        · simp [alterItems, hk', lookup_cons_of_ne]
      · rw [alterItems, if_neg hk, lookup_cons_of_ne (Ne.symm hk)]
        by_cases hk' : k' = k₀
        · subst hk'
          simp [hk]
        · rw [lookup_cons_of_ne hk', lookup_cons_of_ne hk', ih]

/-- Replace the value of `k` by `f` of it, or append `f none` at `k`. -/
def alter (d : Dict κ ν) (k : κ) (f : Option ν → ν) : Dict κ ν where
  items := alterItems k f d.items
  nodup := by
    rw [keys_alterItems]
    split
    · apply d.nodup
    · rename_i h
      apply List.Nodup.append d.nodup (List.nodup_singleton k)
      simpa using h

/-- Set the value of a key. -/
def set (d : Dict κ ν) (k : κ) (v : ν) : Dict κ ν :=
  d.alter k (fun _ => v)

theorem get?_alter (d : Dict κ ν) (k k' : κ) (f : Option ν → ν) :
  (d.alter k f).get? k' = if k' = k then some (f (d.get? k)) else d.get? k'
  := lookup_alterItems k k' f d.items

theorem get?_set (d : Dict κ ν) (k k' : κ) (v : ν) :
  (d.set k v).get? k' = if k' = k then some v else d.get? k'
  := get?_alter d k k' _

/-! ### Grouping rows -/

/-- Fold rows into a dictionary, each row updating the value of its own key. -/
def groupBy (key : ρ → κ) (step : ρ → Option ν → ν) (rows : List ρ) : Dict κ ν :=
  rows.foldl (fun d r => d.alter (key r) (step r)) empty

/-- What rows with one key leave of a value. -/
def foldGroup (step : ρ → Option ν → ν) (o : Option ν) (rows : List ρ) : Option ν :=
  rows.foldl (fun o r => some (step r o)) o

@[simp]
theorem foldGroup_nil (step : ρ → Option ν → ν) (o : Option ν) :
  foldGroup step o [] = o
  := rfl

@[simp]
theorem foldGroup_cons (step : ρ → Option ν → ν) (o : Option ν) (r : ρ) (rows : List ρ) :
  foldGroup step o (r :: rows) = foldGroup step (some (step r o)) rows
  := rfl

theorem get?_foldl_alter
    (key : ρ → κ) (step : ρ → Option ν → ν) (rows : List ρ) (d : Dict κ ν) (k : κ) :
  (rows.foldl (fun d r => d.alter (key r) (step r)) d).get? k
    = foldGroup step (d.get? k) (rows.filter (key · = k))
  := by
  induction rows generalizing d with
  | nil => rfl
  | cons r rows ih =>
      rw [List.foldl_cons, ih, get?_alter]
      by_cases hk : key r = k
      · subst hk
        simp
      · simp [hk, Ne.symm hk]

/-- What grouping leaves at a key depends only on the rows with that key. -/
theorem get?_groupBy (key : ρ → κ) (step : ρ → Option ν → ν) (rows : List ρ) (k : κ) :
  (groupBy key step rows).get? k = foldGroup step none (rows.filter (key · = k))
  := get?_foldl_alter key step rows empty k

theorem isSome_foldGroup (step : ρ → Option ν → ν) (o : Option ν) (rows : List ρ) :
  (foldGroup step o rows).isSome ↔ o.isSome ∨ rows ≠ []
  := by
  induction rows generalizing o with
  | nil => simp
  | cons r rows ih => simp [ih]

/-- The keys of grouped rows are the keys of the rows. -/
theorem mem_keys_groupBy (key : ρ → κ) (step : ρ → Option ν → ν) (rows : List ρ) (k : κ) :
  k ∈ (groupBy key step rows).keys ↔ ∃ r ∈ rows, key r = k
  := by
  rw [mem_keys_iff, get?_groupBy, ← Option.isSome_iff_exists, isSome_foldGroup]
  simp [List.filter_eq_nil_iff]

theorem sublist_keys_foldl_alter (key : ρ → κ) (step : ρ → Option ν → ν) (rows : List ρ)
    (d : Dict κ ν) :
  (rows.foldl (fun d r => d.alter (key r) (step r)) d).keys.Sublist (d.keys ++ rows.map key)
  := by
  induction rows generalizing d with
  | nil =>
      rw [List.map_nil, List.append_nil]
      apply List.Sublist.refl
  | cons r rows ih =>
      have halter : (d.alter (key r) (step r)).keys.Sublist (d.keys ++ [key r]) := by
        have hkeys : (d.alter (key r) (step r)).keys
            = if key r ∈ d.keys then d.keys else d.keys ++ [key r] := keys_alterItems _ _ _
        rw [hkeys]
        split
        · apply List.sublist_append_left
        · apply List.Sublist.refl
      apply (ih _).trans
      rw [List.map_cons, List.append_cons]
      apply halter.append_right

/-- Grouping keeps keys in the order of the rows. -/
theorem sublist_keys_groupBy (key : ρ → κ) (step : ρ → Option ν → ν) (rows : List ρ) :
  (groupBy key step rows).keys.Sublist (rows.map key)
  := sublist_keys_foldl_alter key step rows empty

/-- What every step establishes holds of the value that the rows leave. -/
theorem forall_mem_foldGroup {step : ρ → Option ν → ν} {P : ν → Prop} {rows : List ρ}
    (h : ∀ r ∈ rows, ∀ o : Option ν, (∀ v ∈ o, P v) → P (step r o)) {o : Option ν}
    (ho : ∀ v ∈ o, P v) :
  ∀ v ∈ foldGroup step o rows, P v
  := by
  induction rows generalizing o with
  | nil => apply ho
  | cons r rows ih =>
      rw [foldGroup_cons]
      apply ih
      · intro r' hr'
        apply h r' (List.mem_cons_of_mem r hr')
      · rintro v ⟨⟩
        apply h r List.mem_cons_self o ho

/-- Collecting the rows of a key in a list. -/
theorem foldGroup_append {α : Type v} (f : ρ → α) (rows : List ρ) (o : Option (List α)) :
  (foldGroup (fun r o => o.getD [] ++ [f r]) o rows).getD [] = o.getD [] ++ rows.map f
  := by
  induction rows generalizing o with
  | nil => simp
  | cons r rows ih =>
      rw [foldGroup_cons, ih, Option.getD_some, List.append_assoc]
      rfl

theorem foldGroup_append_of_ne_nil {α : Type v} (f : ρ → α) {rows : List ρ} (h : rows ≠ []) :
  foldGroup (fun r o => o.getD [] ++ [f r]) none rows = some (rows.map f)
  := by
  obtain ⟨columns, hcolumns⟩ := Option.isSome_iff_exists.mp
    ((isSome_foldGroup (fun r o => o.getD [] ++ [f r]) none rows).mpr (Or.inr h))
  have hfold := foldGroup_append f rows none
  rw [hcolumns, Option.getD_some, Option.getD_none, List.nil_append] at hfold
  rw [hcolumns, hfold]

/-- Where the step gives every value the name of its key, a key looks up a value of its
name. -/
theorem name_of_get?_groupBy {key : ρ → κ} {step : ρ → Option ν → ν} {name : ν → κ}
    (h : ∀ r o, (∀ v ∈ o, name v = key r) → name (step r o) = key r) {rows : List ρ} {k : κ}
    {v : ν} (hv : (groupBy key step rows).get? k = some v) :
  name v = k
  := by
  rw [get?_groupBy] at hv
  have hname : ∀ v ∈ foldGroup step none (rows.filter (key · = k)), name v = k := by
    apply forall_mem_foldGroup
    · intro r hr o ho
      have hk : key r = k := of_decide_eq_true (List.mem_filter.mp hr).2
      rw [← hk] at ho ⊢
      apply h r o ho
    · simp
  apply hname v hv

theorem map_values_groupBy {key : ρ → κ} {step : ρ → Option ν → ν} {name : ν → κ}
    (h : ∀ r o, (∀ v ∈ o, name v = key r) → name (step r o) = key r) (rows : List ρ) :
  (groupBy key step rows).values.map name = (groupBy key step rows).keys
  := by
  rw [values, keys, List.map_map]
  apply List.map_congr_left
  rintro ⟨k, v⟩ hmem
  apply name_of_get?_groupBy h ((mem_items_iff _ k v).mp hmem)

/-- Keeping the first row of each key. -/
theorem get?_groupBy_setDefault (key : ρ → κ) (rows : List ρ) (k : κ) :
  (groupBy key (fun r o => o.getD r) rows).get? k = rows.find? (key · = k)
  := by
  rw [get?_groupBy, ← List.head?_filter]
  cases rows.filter (key · = k) with
  | nil => rfl
  | cons r rows =>
      rw [foldGroup_cons, List.head?_cons]
      induction rows with
      | nil => rfl
      | cons r' rows ih =>
          rw [foldGroup_cons]
          apply ih

/-- Update the value of the key of a row in a dictionary, if there is one already. -/
def alterIn (key : ρ → κ) (step : ρ → Option ν → ν) (r : ρ) (o : Option (Dict κ ν)) :
    Dict κ ν :=
  (o.getD empty).alter (key r) (step r)

/-- Grouping within a group. -/
theorem foldGroup_alterIn (key : ρ → κ) (step : ρ → Option ν → ν) (rows : List ρ) :
  (foldGroup (alterIn key step) none rows).getD empty = groupBy key step rows
  := by
  have hfold : ∀ o : Option (Dict κ ν), (foldGroup (alterIn key step) o rows).getD empty
      = rows.foldl (fun d r => d.alter (key r) (step r)) (o.getD empty) := by
    induction rows with
    | nil => intro o; rfl
    | cons r rows ih =>
        intro o
        rw [foldGroup_cons, ih, List.foldl_cons]
        rfl
  apply hfold

/-! ### Reading items off a list -/

/-- Set the items of a list one after the other. -/
def ofList (l : List (κ × ν)) : Dict κ ν :=
  groupBy Prod.fst (fun p _ => p.2) l

/-- The last item of a key is the one that stays. -/
theorem get?_ofList (l : List (κ × ν)) (k : κ) :
  (ofList l).get? k = (l.filter (·.1 = k)).getLast?.map Prod.snd
  := by
  rw [ofList, get?_groupBy]
  induction l.filter (·.1 = k) using List.reverseRecOn with
  | nil => rfl
  | append_singleton l p _ => simp [foldGroup]

theorem items_foldl_set (l : List (κ × ν)) (d : Dict κ ν)
    (h : (d.items.map Prod.fst ++ l.map Prod.fst).Nodup) :
  (l.foldl (fun d p => d.alter p.1 (fun _ => p.2)) d).items = d.items ++ l
  := by
  induction l generalizing d with
  | nil => simp
  | cons p l ih =>
      have happend : ∀ (m : List (κ × ν)), p.1 ∉ m.map Prod.fst →
          alterItems p.1 (fun _ => p.2) m = m ++ [p] := by
        intro m hm
        induction m with
        | nil => rfl
        | cons q m ihm =>
            simp only [List.map_cons, List.mem_cons, not_or] at hm
            rw [alterItems, if_neg (Ne.symm hm.1), ihm hm.2, List.cons_append]
      have hp : p.1 ∉ d.items.map Prod.fst := by
        intro hmem
        rw [List.map_cons] at h
        apply (List.nodup_append.mp h).2.2 _ hmem _ List.mem_cons_self rfl
      have hitems : (d.alter p.1 (fun _ => p.2)).items = d.items ++ [p] := happend d.items hp
      rw [List.foldl_cons, ih, hitems, List.append_assoc, List.singleton_append]
      rw [hitems]
      simpa using h

/-- A list without repeated keys is the items of the dictionary it builds. -/
theorem items_ofList {l : List (κ × ν)} (h : (l.map Prod.fst).Nodup) :
  (ofList l).items = l
  := items_foldl_set l empty h

end Dict
