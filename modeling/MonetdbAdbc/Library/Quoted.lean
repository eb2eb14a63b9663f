import Mathlib.Algebra.GroupWithZero.Nat
import Mathlib.Data.List.Basic

/-!
# Quoted texts

A quoted text ends at the first quote that is not doubled.  `double` writes the quotes of a
text twice and `undouble` takes them back; `read` reads such a text up to its end, with escapes
or without.  Without escapes
it is the inverse of `double`.  With them it is so exactly on the texts that the escape mark
does not occur in (`read_double_iff`): an escape stands for fewer characters than it has, so a
text that is read through an escape comes out too short.
-/

universe u

namespace Quoted

variable {α : Type u} [DecidableEq α]

/-- Every quote twice. -/
def double (quote : α) (cs : List α) : List α :=
  cs.flatMap fun c => if c = quote then [quote, quote] else [c]

/-- Two quotes in a row replaced by one, from the left. -/
def undouble (quote : α) : List α → List α
  | c :: d :: cs =>
      if c = quote ∧ d = quote then quote :: undouble quote cs else c :: undouble quote (d :: cs)
  | cs => cs

/-- Escape sequences: what they begin with, and the character that a sequence stands for, with
the number of characters after the mark. -/
structure Escapes (α : Type u) where
  mark : α
  read : List α → Option (α × Nat)
  /-- A sequence has a character after the mark. -/
  pos : ∀ {cs c n}, read cs = some (c, n) → 0 < n

/-- The character that a text stands for at its first one, and the number of characters that
belong to it besides. -/
def character (escapes : Option (Escapes α)) (c : α) (cs : List α) : Option (α × Nat) :=
  match escapes with
  | none => some (c, 0)
  | some e => if c = e.mark then e.read cs else some (c, 0)

/-- A text up to the quote that ends it, and what follows; the number counts the characters
that are passed over first. -/
def read (quote : α) (escapes : Option (Escapes α)) : Nat → List α → Option (List α × List α)
  | _, [] => none
  | n + 1, _ :: cs => read quote escapes n cs
  | 0, c :: cs =>
      if c = quote then
        match cs with
        | [] => some ([], [])
        | d :: ds =>
            if d = quote then
              (read quote escapes 0 ds).map (Prod.map (quote :: ·) id)
            else
              some ([], d :: ds)
      else
        (character escapes c cs).bind fun p =>
          (read quote escapes p.2 cs).map (Prod.map (p.1 :: ·) id)

/-! ### Doubled quotes -/

variable (quote : α) (escapes : Option (Escapes α))

@[simp]
theorem double_nil :
  double quote [] = []
  := rfl

theorem double_cons_quote (cs : List α) :
  double quote (quote :: cs) = quote :: quote :: double quote cs
  := by
  simp [double]

theorem double_cons {c : α} (h : c ≠ quote) (cs : List α) :
  double quote (c :: cs) = c :: double quote cs
  := by
  simp [double, h]

variable {quote} in
theorem undouble_cons {c : α} (h : c ≠ quote) (cs : List α) :
  undouble quote (c :: cs) = c :: undouble quote cs
  := by
  cases cs with
  | nil => rfl
  | cons d cs =>
      rw [undouble]
      apply if_neg
      rintro ⟨rfl, -⟩
      apply h rfl

/-- Doubled quotes are replaced back. -/
theorem undouble_double (cs : List α) :
  undouble quote (double quote cs) = cs
  := by
  induction cs with
  | nil => rfl
  | cons c cs ih =>
      by_cases hc : c = quote
      · rw [hc, double_cons_quote, undouble, if_pos ⟨rfl, rfl⟩, ih]
      · rw [double_cons quote hc, undouble_cons hc, ih]

/-- Two quotes stand for one. -/
theorem read_quote_quote (cs : List α) :
  read quote escapes 0 (quote :: quote :: cs)
    = (read quote escapes 0 cs).map (Prod.map (quote :: ·) id)
  := by
  simp only [read, if_true]

variable {quote} in
theorem read_of_ne {c : α} (h : c ≠ quote) (cs : List α) :
  read quote escapes 0 (c :: cs) = (character escapes c cs).bind fun p =>
    (read quote escapes p.2 cs).map (Prod.map (p.1 :: ·) id)
  := by
  rw [read.eq_def]
  apply if_neg h

variable {quote} in
/-- A character that is no quote and begins no escape sequence stands for itself. -/
theorem read_cons {c : α} (h : c ≠ quote) (hmark : ∀ e, escapes = some e → c ≠ e.mark)
    (cs : List α) :
  read quote escapes 0 (c :: cs) = (read quote escapes 0 cs).map (Prod.map (c :: ·) id)
  := by
  have hcharacter : character escapes c cs = some (c, 0) := by
    cases escapes with
    | none => rfl
    | some e => rw [character, if_neg (hmark e rfl)]
  rw [read_of_ne escapes h, hcharacter, Option.bind_some]

/-- A text without escape marks is read back from its doubled form. -/
theorem read_double {cs : List α} (h : ∀ e, escapes = some e → e.mark ∉ cs) :
  read quote escapes 0 (double quote cs ++ [quote]) = some (cs, [])
  := by
  induction cs with
  | nil => rw [double_nil, List.nil_append, read, if_pos rfl]
  | cons c cs ih =>
      have hrest : ∀ e, escapes = some e → e.mark ∉ cs :=
        fun e he hmem => h e he (List.mem_cons_of_mem c hmem)
      by_cases hc : c = quote
      · subst hc
        rw [double_cons_quote, List.cons_append, List.cons_append, read_quote_quote, ih hrest]
        rfl
      · have hmark : ∀ e, escapes = some e → c ≠ e.mark := by
          rintro e he rfl
          apply h e he List.mem_cons_self
        rw [double_cons quote hc, List.cons_append, read_cons escapes hc hmark, ih hrest]
        rfl

/-! ### Escapes -/

/-- A measure of texts that counts a quote once and every other character twice, so that it
is twice the length of a text on its doubled form. -/
def weight (cs : List α) : Nat :=
  (cs.map fun c => if c = quote then 1 else 2).sum

@[simp]
theorem weight_nil :
  weight quote [] = 0
  := rfl

theorem weight_cons (c : α) (cs : List α) :
  weight quote (c :: cs) = (if c = quote then 1 else 2) + weight quote cs
  := by
  rw [weight, List.map_cons, List.sum_cons, weight]

theorem weight_append (cs ds : List α) :
  weight quote (cs ++ ds) = weight quote cs + weight quote ds
  := by
  rw [weight, List.map_append, List.sum_append, weight, weight]

theorem weight_double (cs : List α) :
  weight quote (double quote cs) = 2 * cs.length
  := by
  induction cs with
  | nil => rfl
  | cons c cs ih =>
      by_cases hc : c = quote
      · subst hc
        rw [double_cons_quote, weight_cons, weight_cons, ih, if_pos rfl, List.length_cons]
        omega
      · rw [double_cons quote hc, weight_cons, ih, if_neg hc, List.length_cons]
        omega

/-- What is read weighs at most as much as what it was read from, less the quote at the end
and the characters that were passed over. -/
theorem weight_read {n : Nat} {cs out rest : List α}
    (h : read quote escapes n cs = some (out, rest)) :
  2 * out.length + n + 1 + weight quote rest ≤ weight quote cs
  := by
  fun_induction read quote escapes n cs generalizing out rest with
  | case1 => cases h
  | case2 n c cs ih =>
      have hcs := ih h
      rw [weight_cons]
      split_ifs <;> omega
  | case3 =>
      cases h
      simp [weight_cons]
  | case4 ds ih =>
      obtain ⟨⟨out', rest'⟩, hread, hout⟩ := Option.map_eq_some_iff.mp h
      cases hout
      have hds := ih hread
      rw [weight_cons, weight_cons, if_pos rfl, List.length_cons, id]
      omega
  | case5 d ds =>
      cases h
      simp [weight_cons]
  | case6 c cs hc ih =>
      obtain ⟨p, -, h⟩ := Option.bind_eq_some_iff.mp h
      obtain ⟨⟨out', rest'⟩, hread, hout⟩ := Option.map_eq_some_iff.mp h
      cases hout
      have hcs := ih p hread
      rw [weight_cons, if_neg hc, List.length_cons, id]
      omega

/-- A text that has an escape mark and is read from its doubled form comes out too short. -/
theorem length_lt_of_read {e : Escapes α} (he : e.mark ≠ quote) {cs out rest : List α}
    (hmark : e.mark ∈ cs)
    (h : read quote (some e) 0 (double quote cs ++ [quote]) = some (out, rest)) :
  out.length < cs.length
  := by
  induction cs generalizing out with
  | nil => cases hmark
  | cons c cs ih =>
      by_cases hc : c = quote
      · subst hc
        have hmem : e.mark ∈ cs := (List.mem_cons.mp hmark).resolve_left he
        rw [double_cons_quote, List.cons_append, List.cons_append, read_quote_quote] at h
        obtain ⟨⟨out', rest'⟩, hread, hout⟩ := Option.map_eq_some_iff.mp h
        cases hout
        apply Nat.succ_lt_succ (ih hmem hread)
      · rw [double_cons quote hc, List.cons_append] at h
        by_cases hescape : c = e.mark
        · -- the sequence has a character after its mark, which is passed over
          rw [read_of_ne (some e) hc, character, if_pos hescape] at h
          obtain ⟨⟨d, n⟩, hsequence, h⟩ := Option.bind_eq_some_iff.mp h
          obtain ⟨⟨out', rest'⟩, hread, hout⟩ := Option.map_eq_some_iff.mp h
          cases hout
          have hn := e.pos hsequence
          have hweight := weight_read quote (some e) hread
          rw [weight_append, weight_double, weight_cons, if_pos rfl, weight_nil] at hweight
          rw [List.length_cons, List.length_cons]
          omega
        · have hmem : e.mark ∈ cs := (List.mem_cons.mp hmark).resolve_left (Ne.symm hescape)
          have hne : ∀ e', some e = some e' → c ≠ e'.mark := by
            rintro e' ⟨⟩
            apply hescape
          rw [read_cons (some e) hc hne] at h
          obtain ⟨⟨out', rest'⟩, hread, hout⟩ := Option.map_eq_some_iff.mp h
          cases hout
          apply Nat.succ_lt_succ (ih hmem hread)

/-- With escapes, a text is read back from its doubled form exactly when it has no escape
mark. -/
theorem read_double_iff {e : Escapes α} (he : e.mark ≠ quote) (cs : List α) :
  read quote (some e) 0 (double quote cs ++ [quote]) = some (cs, []) ↔ e.mark ∉ cs
  := by
  constructor
  · intro h hmark
    apply Nat.lt_irrefl cs.length
    apply length_lt_of_read quote he hmark h
  · intro h
    apply read_double
    rintro e' ⟨⟩
    apply h

end Quoted
