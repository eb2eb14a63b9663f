import Mathlib.Data.List.Sort
import Mathlib.Data.Prod.Lex
import Mathlib.Order.Lex

/-!
# Queries over lists of rows

Tables are lists of rows.  `innerJoin` and `leftJoin` pair rows, and `orderBy` sorts them
by a key; rows with equal keys keep the order of the table.

A query `SelectsBy` a column when it can be asked for each value of the column alone.
Selecting the rows whose column lies in a list is such a query, and stays one when its rows
are sorted.
-/

universe u v w x y

namespace Query

variable {α : Type u} {β : Type v} {κ : Type w} {ρ : Type u}

/-! ### Looking up a row -/

/-- Where at most one row satisfies a condition, looking it up finds that row. -/
theorem find?_eq_some_iff_of_unique {p : α → Bool} {rows : List α}
    (h : ∀ a ∈ rows, ∀ b ∈ rows, p a → p b → a = b) (a : α) :
  rows.find? p = some a ↔ a ∈ rows ∧ p a
  := by
  constructor
  · intro hfind
    exact ⟨List.mem_of_find?_eq_some hfind, List.find?_some hfind⟩
  · rintro ⟨ha, hp⟩
    have hsome : (rows.find? p).isSome := by
      rw [List.find?_isSome]
      use a
    obtain ⟨b, hb⟩ := Option.isSome_iff_exists.mp hsome
    rw [hb, h a ha b (List.mem_of_find?_eq_some hb) hp (List.find?_some hb)]

/-- Where the keys of the rows are unique, looking a key up finds its row. -/
theorem find?_eq_some_iff {ι : Type v} [DecidableEq ι] {f : α → ι} {rows : List α}
    (h : (rows.map f).Nodup) (i : ι) (a : α) :
  rows.find? (f · = i) = some a ↔ a ∈ rows ∧ f a = i
  := by
  rw [find?_eq_some_iff_of_unique, decide_eq_true_eq]
  intro a ha b hb hfa hfb
  apply List.inj_on_of_nodup_map h ha hb
  rw [of_decide_eq_true hfa, of_decide_eq_true hfb]

/-- Where the keys of the rows are unique, selecting a key finds at most one row. -/
theorem filter_eq_toList_find? {ι : Type v} [DecidableEq ι] {f : α → ι} {rows : List α}
    (h : (rows.map f).Nodup) (i : ι) :
  rows.filter (f · = i) = (rows.find? (f · = i)).toList
  := by
  induction rows with
  | nil => rfl
  | cons a rows ih =>
      obtain ⟨ha, h⟩ := List.nodup_cons.mp h
      by_cases hi : f a = i
      · have hnone : rows.filter (f · = i) = [] := by
          rw [List.filter_eq_nil_iff]
          intro b hb hfb
          apply ha
          rw [hi, ← of_decide_eq_true hfb]
          apply List.mem_map_of_mem hb
        simp [hi, hnone]
      · simp [hi, ih h]

/-- Where the keys of the rows are unique, selecting the key of a row finds that row. -/
theorem filter_eq_singleton {ι : Type v} [DecidableEq ι] {f : α → ι} {rows : List α}
    (h : (rows.map f).Nodup) {a : α} (ha : a ∈ rows) {i : ι} (hi : i = f a) :
  rows.filter (fun b => i = f b) = [a]
  := by
  have hfind := (find?_eq_some_iff h i a).mpr ⟨ha, hi.symm⟩
  simp only [eq_comm (a := i)]
  rw [filter_eq_toList_find? h, hfind]
  rfl

/-! ### Joins -/

/-- Pairs of a row of `l` and a row of `r` that satisfy `on`. -/
def innerJoin (on : α → β → Bool) (l : List α) (r : List β) : List (α × β) :=
  l.flatMap fun a => (r.filter (on a)).map (Prod.mk a)

/-- The rows of `r` joined to a row, or `none` once when there are none. -/
def optional : List β → List (Option β)
  | [] => [none]
  | b :: bs => (b :: bs).map some

/-- Every row of `l` with the rows of `r` that satisfy `on`, or with `none`. -/
def leftJoin (on : α → β → Bool) (l : List α) (r : List β) : List (α × Option β) :=
  l.flatMap fun a => (optional (r.filter (on a))).map (Prod.mk a)

theorem mem_innerJoin (on : α → β → Bool) (l : List α) (r : List β) (a : α) (b : β) :
  (a, b) ∈ innerJoin on l r ↔ a ∈ l ∧ b ∈ r ∧ on a b
  := by
  simp only [innerJoin, List.mem_flatMap, List.mem_map, List.mem_filter, Prod.mk.injEq]
  constructor
  · rintro ⟨a', ha, b', ⟨hb, hon⟩, rfl, rfl⟩
    exact ⟨ha, hb, hon⟩
  · rintro ⟨ha, hb, hon⟩
    exact ⟨a, ha, b, ⟨hb, hon⟩, rfl, rfl⟩

theorem some_mem_optional (l : List β) (b : β) :
  some b ∈ optional l ↔ b ∈ l
  := by
  cases l with
  | nil => simp [optional]
  | cons b' bs => simp only [optional, List.mem_map, Option.some.injEq, exists_eq_right]

theorem none_mem_optional (l : List β) :
  none ∈ optional l ↔ l = []
  := by
  cases l with
  | nil => simp [optional]
  | cons b bs => simp [optional]

theorem some_mem_leftJoin (on : α → β → Bool) (l : List α) (r : List β) (a : α) (b : β) :
  (a, some b) ∈ leftJoin on l r ↔ a ∈ l ∧ b ∈ r ∧ on a b
  := by
  simp only [leftJoin, List.mem_flatMap, List.mem_map, Prod.mk.injEq]
  constructor
  · rintro ⟨a', ha, o, ho, rfl, rfl⟩
    rw [some_mem_optional, List.mem_filter] at ho
    exact ⟨ha, ho⟩
  · rintro ⟨ha, hb, hon⟩
    use a, ha, some b
    rw [some_mem_optional, List.mem_filter]
    exact ⟨⟨hb, hon⟩, rfl, rfl⟩

theorem none_mem_leftJoin (on : α → β → Bool) (l : List α) (r : List β) (a : α) :
  (a, none) ∈ leftJoin on l r ↔ a ∈ l ∧ ∀ b ∈ r, ¬ on a b
  := by
  simp only [leftJoin, List.mem_flatMap, List.mem_map, Prod.mk.injEq]
  constructor
  · rintro ⟨a', ha, o, ho, rfl, rfl⟩
    rw [none_mem_optional, List.filter_eq_nil_iff] at ho
    exact ⟨ha, ho⟩
  · rintro ⟨ha, hon⟩
    use a, ha, none
    rw [none_mem_optional, List.filter_eq_nil_iff]
    exact ⟨hon, rfl, rfl⟩

theorem mem_of_mem_leftJoin {on : α → β → Bool} {l : List α} {r : List β} {p : α × Option β}
    (h : p ∈ leftJoin on l r) :
  p.1 ∈ l
  := by
  simp only [leftJoin, List.mem_flatMap, List.mem_map] at h
  obtain ⟨a, ha, o, -, rfl⟩ := h
  apply ha

/-- A left join keeps every row. -/
theorem exists_mem_leftJoin (on : α → β → Bool) {l : List α} (r : List β) {a : α} (ha : a ∈ l) :
  ∃ o, (a, o) ∈ leftJoin on l r
  := by
  by_cases h : ∃ b ∈ r, on a b
  · obtain ⟨b, hb, hon⟩ := h
    use some b
    apply (some_mem_leftJoin on l r a b).mpr ⟨ha, hb, hon⟩
  · use none
    rw [none_mem_leftJoin]
    push Not at h
    exact ⟨ha, h⟩

/-- Selecting the rows of a join by their left part. -/
theorem filter_innerJoin (on : α → β → Bool) (p : α → Bool) (l : List α) (r : List β) :
  (innerJoin on l r).filter (fun q => p q.1) = innerJoin on (l.filter p) r
  := by
  induction l with
  | nil => rfl
  | cons a l ih =>
      rw [innerJoin, List.flatMap_cons, List.filter_append, ← innerJoin, ih, List.filter_map,
        List.filter_cons]
      by_cases ha : p a <;> simp [ha, innerJoin, Function.comp_def]

/-- A join in which every row has one partner. -/
theorem innerJoin_eq_map {on : α → β → Bool} {ι : Type x} {xs : List ι} {a : ι → α} {b : ι → β}
    {r : List β} (h : ∀ i ∈ xs, r.filter (on (a i)) = [b i]) :
  innerJoin on (xs.map a) r = xs.map fun i => (a i, b i)
  := by
  induction xs with
  | nil => rfl
  | cons i xs ih =>
      have ih := ih fun j hj => h j (List.mem_cons_of_mem i hj)
      rw [List.map_cons, innerJoin, List.flatMap_cons, ← innerJoin, ih, h i List.mem_cons_self]
      rfl

/-- Selected rows of a join, in which every selected row has one partner. -/
theorem filter_innerJoin_eq_map {on : α → β → Bool} {p : α → Bool} {l : List α} {r : List β}
    {ι : Type x} {xs : List ι} {a : ι → α} {b : ι → β} (hl : l.filter p = xs.map a)
    (hr : ∀ i ∈ xs, r.filter (on (a i)) = [b i]) :
  (innerJoin on l r).filter (fun q => p q.1) = xs.map fun i => (a i, b i)
  := by
  rw [filter_innerJoin, hl]
  apply innerJoin_eq_map hr

/-- A left join in which every row has at most one partner. -/
theorem leftJoin_eq_map {on : α → β → Bool} {l : List α} {r : List β}
    (h : ∀ a ∈ l, r.filter (on a) = (r.find? (on a)).toList) :
  leftJoin on l r = l.map fun a => (a, r.find? (on a))
  := by
  induction l with
  | nil => rfl
  | cons a l ih =>
      have ih := ih fun b hb => h b (List.mem_cons_of_mem a hb)
      rw [leftJoin, List.flatMap_cons, ← leftJoin, ih, h a List.mem_cons_self, List.map_cons]
      cases r.find? (on a) <;> simp [optional]

/-! ### Sorting -/

variable [LinearOrder κ]

/-- The rows sorted by a key; rows with equal keys keep their order. -/
def orderBy (key : ρ → κ) (rows : List ρ) : List ρ :=
  rows.insertionSort fun a b => key a ≤ key b

@[simp]
theorem mem_orderBy (key : ρ → κ) (rows : List ρ) (r : ρ) :
  r ∈ orderBy key rows ↔ r ∈ rows
  := List.mem_insertionSort _

theorem orderBy_perm (key : ρ → κ) (rows : List ρ) :
  (orderBy key rows).Perm rows
  := List.perm_insertionSort _ rows

theorem orderBy_sorted (key : ρ → κ) (rows : List ρ) :
  (orderBy key rows).Pairwise fun a b => key a ≤ key b
  := by
  have : Std.Total fun a b : ρ => key a ≤ key b := ⟨fun a b => le_total (key a) (key b)⟩
  have : IsTrans ρ fun a b => key a ≤ key b := ⟨fun a b c => le_trans⟩
  apply List.pairwise_insertionSort

theorem filter_orderedInsert (key : ρ → κ) (p : ρ → Bool) (a : ρ) (l : List ρ)
    (h : l.Pairwise fun a b => key a ≤ key b) :
  (l.orderedInsert (fun a b => key a ≤ key b) a).filter p
    = if p a then (l.filter p).orderedInsert (fun a b => key a ≤ key b) a else l.filter p
  := by
  induction l with
  | nil => by_cases ha : p a <;> simp [ha]
  | cons b l ih =>
      obtain ⟨hb, hl⟩ := List.pairwise_cons.mp h
      by_cases hab : key a ≤ key b
      · rw [List.orderedInsert_cons, if_pos hab]
        by_cases ha : p a
        · have hle : ∀ c ∈ (b :: l).filter p, key a ≤ key c := by
            intro c hc
            obtain ⟨hc, -⟩ := List.mem_filter.mp hc
            rcases List.mem_cons.mp hc with rfl | hc
            · apply hab
            · apply le_trans hab (hb c hc)
          rw [List.filter_cons_of_pos ha, if_pos ha]
          cases hf : (b :: l).filter p with
          | nil => rfl
          | cons c m =>
              rw [List.orderedInsert_cons, if_pos]
              apply hle
              rw [hf]
              apply List.mem_cons_self
        · rw [List.filter_cons_of_neg ha, if_neg ha]
      · rw [List.orderedInsert_cons, if_neg hab]
        by_cases hpb : p b
        · rw [List.filter_cons_of_pos hpb, List.filter_cons_of_pos hpb, ih hl]
          by_cases ha : p a
          · simp [ha, hab]
          · simp [ha]
        · rw [List.filter_cons_of_neg hpb, List.filter_cons_of_neg hpb, ih hl]

/-- Selecting rows and sorting them commute. -/
theorem filter_orderBy (key : ρ → κ) (p : ρ → Bool) (rows : List ρ) :
  (orderBy key rows).filter p = orderBy key (rows.filter p)
  := by
  induction rows with
  | nil => rfl
  | cons a rows ih =>
      have hs : orderBy key (a :: rows)
          = (orderBy key rows).orderedInsert (fun a b => key a ≤ key b) a := rfl
      rw [hs, filter_orderedInsert key p a _ (orderBy_sorted key rows), ih]
      by_cases ha : p a
      · rw [if_pos ha, List.filter_cons_of_pos ha]
        rfl
      · rw [if_neg ha, List.filter_cons_of_neg ha]

/-- The first row of an ordered query that satisfies a condition has the least key among
the rows that satisfy it. -/
theorem find?_orderBy {key : ρ → κ} {p : ρ → Bool} {rows : List ρ} {r : ρ}
    (h : (orderBy key rows).find? p = some r) :
  r ∈ rows ∧ p r ∧ ∀ r' ∈ rows, p r' → key r ≤ key r'
  := by
  obtain ⟨hp, before, after, hsplit, hbefore⟩ := List.find?_eq_some_iff_append.mp h
  have hmem : ∀ r' : ρ, r' ∈ before ++ r :: after ↔ r' ∈ rows := by
    intro r'
    rw [← hsplit, mem_orderBy]
  have hsorted := orderBy_sorted key rows
  rw [hsplit, List.pairwise_append, List.pairwise_cons] at hsorted
  constructor
  · apply (hmem r).mp
    simp
  · constructor
    · apply hp
    · intro r' hr' hp'
      rcases List.mem_append.mp ((hmem r').mpr hr') with hr' | hr'
      · have := hbefore r' hr'
        simp [hp'] at this
      · rcases List.mem_cons.mp hr' with rfl | hr'
        · apply le_refl _
        · apply hsorted.2.1.1 r' hr'

theorem head?_orderBy_eq_none_iff (key : ρ → κ) (rows : List ρ) :
  (orderBy key rows).head? = none ↔ rows = []
  := by
  rw [List.head?_eq_none_iff, ← List.length_eq_zero_iff, (orderBy_perm key rows).length_eq,
    List.length_eq_zero_iff]

/-- The first row of an ordered query after a row is added in front of the table. -/
theorem head?_orderBy_cons (key : ρ → κ) (a : ρ) (rows : List ρ) :
  (orderBy key (a :: rows)).head?
    = match (orderBy key rows).head? with
      | none => some a
      | some b => if key a ≤ key b then some a else some b
  := by
  have hs : orderBy key (a :: rows)
      = (orderBy key rows).orderedInsert (fun a b => key a ≤ key b) a := rfl
  rw [hs]
  cases orderBy key rows with
  | nil => rfl
  | cons b l =>
      rw [List.orderedInsert_cons, apply_ite List.head?]
      rfl

/-- The first row of an ordered query splits the table: its key is less than the keys of the
rows before it and not greater than those of the rows after it. -/
theorem exists_split_of_head?_orderBy {key : ρ → κ} {rows : List ρ} {r : ρ}
    (h : (orderBy key rows).head? = some r) :
  ∃ before after, rows = before ++ r :: after ∧ (∀ a ∈ before, key r < key a) ∧
    ∀ a ∈ after, key r ≤ key a
  := by
  induction rows generalizing r with
  | nil => cases h
  | cons a rows ih =>
      rw [head?_orderBy_cons] at h
      cases hfirst : (orderBy key rows).head? with
      | none =>
          obtain rfl := (head?_orderBy_eq_none_iff key rows).mp hfirst
          rw [hfirst] at h
          obtain rfl := Option.some.inj h
          use [], []
          simp
      | some b =>
          obtain ⟨before, after, rfl, hbefore, hafter⟩ := ih hfirst
          rw [hfirst] at h
          dsimp only at h
          split at h
          · rename_i hab
            obtain rfl := Option.some.inj h
            use [], before ++ b :: after, rfl
            constructor
            · simp
            · intro c hc
              obtain hc | hc := List.mem_append.mp hc
              · apply hab.trans (hbefore c hc).le
              · obtain rfl | hc := List.mem_cons.mp hc
                · apply hab
                · apply hab.trans (hafter c hc)
          · rename_i hab
            obtain rfl := Option.some.inj h
            use a :: before, after, rfl
            constructor
            · intro c hc
              obtain rfl | hc := List.mem_cons.mp hc
              · apply lt_of_not_ge hab
              · apply hbefore c hc
            · apply hafter

/-- A row that splits the table in this way is the first one of the ordered query. -/
theorem head?_orderBy_of_split {key : ρ → κ} {before after : List ρ} {r : ρ}
    (hbefore : ∀ a ∈ before, key r < key a) (hafter : ∀ a ∈ after, key r ≤ key a) :
  (orderBy key (before ++ r :: after)).head? = some r
  := by
  induction before with
  | nil =>
      rw [List.nil_append, head?_orderBy_cons]
      cases hfirst : (orderBy key after).head? with
      | none => rfl
      | some b =>
          have hb : b ∈ after := (mem_orderBy key after b).mp (List.mem_of_head? hfirst)
          apply if_pos (hafter b hb)
  | cons a before ih =>
      have hfirst := ih fun c hc => hbefore c (List.mem_cons_of_mem _ hc)
      rw [List.cons_append, head?_orderBy_cons, hfirst]
      apply if_neg (not_le.mpr (hbefore a List.mem_cons_self))

theorem head?_orderBy (key : ρ → κ) (rows : List ρ) (r : ρ) :
  (orderBy key rows).head? = some r ↔
    ∃ before after, rows = before ++ r :: after ∧ (∀ a ∈ before, key r < key a) ∧
      ∀ a ∈ after, key r ≤ key a
  := by
  constructor
  · apply exists_split_of_head?_orderBy
  · rintro ⟨before, after, rfl, hbefore, hafter⟩
    apply head?_orderBy_of_split hbefore hafter

/-- Sorting rows that are mapped to rows with keys in the same order. -/
theorem map_orderBy {σ : Type x} {κ' : Type y} [LinearOrder κ'] {key : ρ → κ} {key' : σ → κ'}
    (f : ρ → σ) (rows : List ρ)
    (h : ∀ a ∈ rows, ∀ b ∈ rows, key a ≤ key b ↔ key' (f a) ≤ key' (f b)) :
  (orderBy key rows).map f = orderBy key' (rows.map f)
  := List.map_insertionSort _ _ f rows h

/-- Sorting the same rows in another order, where the keys are unique. -/
theorem orderBy_eq_of_perm {key : ρ → κ} {rows rows' : List ρ} (h : rows.Perm rows')
    (hkeys : (rows.map key).Nodup) :
  orderBy key rows = orderBy key rows'
  := by
  have hperm : (orderBy key rows).Perm (orderBy key rows') :=
    (orderBy_perm key rows).trans (h.trans (orderBy_perm key rows').symm)
  apply hperm.eq_of_pairwise _ (orderBy_sorted key rows) (orderBy_sorted key rows')
  intro a b ha hb hab hba
  rw [mem_orderBy] at ha hb
  apply List.inj_on_of_nodup_map hkeys ha (h.mem_iff.mpr hb) (le_antisymm hab hba)

/-- Sorted lists with the same members are the same, where none is repeated. -/
theorem eq_of_sorted {l l' : List κ} (hl : l.Pairwise (· ≤ ·)) (hl' : l'.Pairwise (· ≤ ·))
    (h : l.Nodup) (h' : l'.Nodup) (hmem : ∀ a, a ∈ l ↔ a ∈ l') :
  l = l'
  := by
  have hperm : l.Perm l' := (List.perm_ext_iff_of_nodup h h').mpr hmem
  apply hperm.eq_of_pairwise _ hl hl'
  intro a b _ _ hab hba
  apply le_antisymm hab hba

/-! ### Queries that select by a column -/

variable {ι : Type x} [DecidableEq ι]

/-- A query selects by a column when its rows lie at the values that it was asked for, and
restricting it to one of them gives what it gives when asked for that value alone. -/
structure SelectsBy (column : ρ → ι) (query : List ι → List ρ) : Prop where
  within : ∀ ids, ∀ r ∈ query ids, column r ∈ ids
  filter_eq : ∀ ids t, t ∈ ids → (query ids).filter (column · = t) = query [t]

/-- Selecting the rows whose column lies in a list and that satisfy a condition. -/
theorem selectsBy_filter (column : ρ → ι) (cond : ρ → Prop) [DecidablePred cond]
    (rows : List ρ) :
  SelectsBy column fun ids => rows.filter fun r => column r ∈ ids ∧ cond r
  := by
  constructor
  · intro ids r hr
    have h := of_decide_eq_true (List.mem_filter.mp hr).2
    apply h.1
  · intro ids t ht
    rw [List.filter_filter]
    apply List.filter_congr
    intro r _
    by_cases hr : column r = t
    · simp [hr, ht]
    · simp [hr]

/-- Selecting the rows whose column lies in a list. -/
theorem selectsBy_mem (column : ρ → ι) (rows : List ρ) :
  SelectsBy column fun ids => rows.filter fun r => column r ∈ ids
  := by simpa using selectsBy_filter column (fun _ => True) rows

/-- A query that selects by a column still does when its rows are sorted. -/
theorem SelectsBy.orderBy {column : ρ → ι} {query : List ι → List ρ}
    (h : SelectsBy column query) (key : ρ → κ) :
  SelectsBy column fun ids => orderBy key (query ids)
  := by
  constructor
  · intro ids r hr
    apply h.within ids r
    apply (mem_orderBy key _ r).mp hr
  · intro ids t ht
    rw [filter_orderBy, h.filter_eq ids t ht]

end Query
