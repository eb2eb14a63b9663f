import Mathlib.Data.List.Basic

/-!
# Parsers

A parser reads something off the front of a list of tokens, or fails.  `Reads p ts a rest` says
that `p` reads `a` off the tokens `ts` when `rest` comes after them; whether an optional part is
there, or how long a repetition goes on, depends on what comes after.  There is a rule for each
way to put parsers together.
-/

universe u v

/-- What reads an `α` off the front of a list of tokens. -/
def Parser (τ : Type u) (α : Type v) : Type (max u v) :=
  List τ → Option (α × List τ)

namespace Parser

variable {τ : Type u} {α β : Type v}

/-- Read nothing. -/
def succeed (a : α) : Parser τ α := fun ts => some (a, ts)

/-- Read one after the other. -/
def andThen (p : Parser τ α) (f : α → Parser τ β) : Parser τ β := fun ts =>
  (p ts).bind fun r => f r.1 r.2

/-- Read a token that is something. -/
def token (f : τ → Option α) : Parser τ α
  | [] => none
  | t :: ts => (f t).map fun a => (a, ts)

/-- Read with the second parser what the first one fails on. -/
def orElse (p q : Parser τ α) : Parser τ α := fun ts =>
  (p ts).or (q ts)

/-- Read with the parser if it does not fail. -/
def optional (p : Parser τ α) : Parser τ (Option α) := fun ts =>
  match p ts with
  | some (a, ts) => some (some a, ts)
  | none => some (none, ts)

/-- Read with the parser as often as it does not fail, and at most so many times. -/
def upTo (p : Parser τ α) : Nat → Parser τ (List α)
  | 0 => succeed []
  | n + 1 => andThen (optional p) fun
    | none => succeed []
    | some a => andThen (upTo p n) fun as => succeed (a :: as)

/-- Read with the parser as often as it does not fail. -/
def many (p : Parser τ α) : Parser τ (List α) := fun ts => upTo p ts.length ts

/-- Read just these tokens. -/
def exactly [DecidableEq τ] : List τ → Parser τ PUnit
  | [] => succeed ⟨⟩
  | t :: ts => andThen (token fun u => if u = t then some PUnit.unit else none) fun _ => exactly ts

/-- Read these tokens if they are there. -/
def flag [DecidableEq τ] (ts : List τ) : Parser τ Bool :=
  andThen (optional (exactly ts)) fun r => succeed r.isSome

/-- Read with the parser that is listed for the first token. -/
def keyed [DecidableEq τ] (table : List (τ × Parser τ α)) : Parser τ α
  | [] => none
  | t :: ts => (table.lookup t).bind fun p => p ts

/-- Read with the parser once or more, with a token in between. -/
def separated [DecidableEq τ] (separator : τ) (p : Parser τ α) : Parser τ (List α) :=
  andThen p fun a =>
    andThen (many (andThen (exactly [separator]) fun _ => p)) fun as => succeed (a :: as)

/-- Read up to a token at which to stop. -/
def takeUntil (stop : τ → Bool) : Parser τ (List τ) := fun ts =>
  some (ts.takeWhile fun t => !stop t, ts.dropWhile fun t => !stop t)

/-- Read all tokens. -/
def all (p : Parser τ α) (ts : List τ) : Option α :=
  (p ts).bind fun r => if r.2.isEmpty then some r.1 else none

instance : Monad (Parser τ) where
  pure := succeed
  bind := andThen

/-- The parser reads `a` off the tokens, with the rest after them. -/
def Reads (p : Parser τ α) (ts : List τ) (a : α) (rest : List τ) : Prop :=
  p (ts ++ rest) = some (a, rest)

/-- The parser fails on the tokens. -/
def Fails (p : Parser τ α) (ts : List τ) : Prop :=
  p ts = none

variable {p q : Parser τ α} {f : α → Parser τ β} {ts us rest : List τ} {a : α} {b : β}

theorem reads_pure (a : α) (rest : List τ) :
  Reads (pure a : Parser τ α) [] a rest
  := rfl

theorem Reads.bind {l m : List τ} (hp : Reads p l a (m ++ rest)) (hf : Reads (f a) m b rest) :
  Reads (p >>= f) (l ++ m) b rest
  := by
  change (p (l ++ m ++ rest)).bind _ = _
  rw [List.append_assoc, hp]
  apply hf

theorem Reads.map (h : Reads p ts a rest) (g : α → β) :
  Reads (g <$> p) ts (g a) rest
  := by
  change (p (ts ++ rest)).bind _ = _
  rw [h]
  rfl

/-- What is read last is returned in some form. -/
theorem Reads.returns (h : Reads p ts a rest) (g : α → β) :
  Reads (p >>= fun a => pure (g a)) ts (g a) rest
  := h.map g

theorem reads_token {f : τ → Option α} {t : τ} (h : f t = some a) (rest : List τ) :
  Reads (token f) [t] a rest
  := by
  change (f t).map _ = _
  rw [h]
  rfl

theorem fails_token {f : τ → Option α} (h : ∀ t, ts.head? = some t → f t = none) :
  Fails (token f) ts
  := by
  cases ts with
  | nil => rfl
  | cons t ts =>
      change (f t).map _ = _
      rw [h t rfl]
      rfl

theorem Fails.bind (h : Fails p ts) (f : α → Parser τ β) :
  Fails (p >>= f) ts
  := by
  change (p ts).bind _ = _
  rw [h]
  rfl

/-- What comes after a part that is read fails. -/
theorem Reads.bind_fails (hp : Reads p ts a rest) (hf : Fails (f a) rest) :
  Fails (p >>= f) (ts ++ rest)
  := by
  change (p (ts ++ rest)).bind _ = _
  rw [hp]
  apply hf

theorem Reads.orElse_left (h : Reads p ts a rest) (q : Parser τ α) :
  Reads (orElse p q) ts a rest
  := by
  change (p (ts ++ rest)).or _ = _
  rw [h]
  rfl

theorem Reads.orElse_right (h : Reads q ts a rest) (hp : Fails p (ts ++ rest)) :
  Reads (orElse p q) ts a rest
  := by
  change (p (ts ++ rest)).or _ = _
  rw [hp, Option.none_or]
  apply h

theorem Fails.orElse (hp : Fails p ts) (hq : Fails q ts) :
  Fails (Parser.orElse p q) ts
  := by
  change (p ts).or _ = _
  rw [hp, Option.none_or]
  apply hq

theorem Reads.optional (h : Reads p ts a rest) :
  Reads (Parser.optional p) ts (some a) rest
  := by
  rw [Reads, Parser.optional, h]

theorem reads_optional_none (h : Fails p rest) :
  Reads (Parser.optional p) [] none rest
  := by
  rw [Reads, List.nil_append, Parser.optional, h]

/-- What comes before a token at which to stop is read. -/
theorem reads_takeUntil {stop : τ → Bool} (h : ∀ t ∈ ts, stop t = false)
    (hrest : ∀ t, rest.head? = some t → stop t) :
  Reads (takeUntil stop) ts ts rest
  := by
  have hts : ∀ t ∈ ts, (!stop t) = true := by
    intro t ht
    rw [h t ht]
    rfl
  rw [Reads, takeUntil, List.takeWhile_append_of_pos hts, List.dropWhile_append_of_pos hts]
  cases rest with
  | nil => simp
  | cons t rest =>
      have hstop := hrest t rfl
      simp [hstop]

/-- What may come after each part, `Q`, may come after the parts that are before it. -/
theorem follows_flatMap {Q : List τ → Prop} {parts : List (List τ × α)}
    (hparts : ∀ part ∈ parts, ∀ rest, Q rest → Q (part.1 ++ rest)) (hrest : Q rest) :
  Q (parts.flatMap Prod.fst ++ rest)
  := by
  induction parts with
  | nil => apply hrest
  | cons part parts ih =>
      rw [List.flatMap_cons, List.append_assoc]
      apply hparts part List.mem_cons_self
      apply ih
      intro part' hpart'
      apply hparts part' (List.mem_cons_of_mem part hpart')

/-- A repetition reads parts that are not empty, up to where the parser fails.  Each part is read
before what may come after it, `Q`. -/
theorem reads_upTo {Q : List τ → Prop} {parts : List (List τ × α)} {n : Nat}
    (hn : parts.length ≤ n)
    (hparts : ∀ part ∈ parts, ∀ rest, Q rest → Reads p part.1 part.2 rest ∧ Q (part.1 ++ rest))
    (hQ : Q rest) (hrest : Fails p rest) :
  Reads (upTo p n) (parts.flatMap Prod.fst) (parts.map Prod.snd) rest
  := by
  induction parts generalizing n with
  | nil =>
      cases n with
      | zero => apply reads_pure
      | succ n =>
          apply Reads.bind (l := []) (m := [])
          · apply reads_optional_none hrest
          · apply reads_pure
  | cons part parts ih =>
      cases n with
      | zero => cases hn
      | succ n =>
          have htail : ∀ part' ∈ parts, ∀ rest, Q rest →
              Reads p part'.1 part'.2 rest ∧ Q (part'.1 ++ rest) :=
            fun part' h => hparts part' (List.mem_cons_of_mem part h)
          have hfollows : Q (parts.flatMap Prod.fst ++ rest) :=
            follows_flatMap (fun part' h rest hr => (htail part' h rest hr).2) hQ
          rw [List.flatMap_cons]
          apply Reads.bind
          · apply (hparts part List.mem_cons_self _ hfollows).1.optional
          · rw [← List.append_nil (parts.flatMap Prod.fst)]
            apply Reads.bind
            · apply ih (Nat.le_of_succ_le_succ hn) htail
            · apply reads_pure

theorem reads_many_follows {Q : List τ → Prop} {parts : List (List τ × α)}
    (hne : ∀ part ∈ parts, part.1 ≠ [])
    (hparts : ∀ part ∈ parts, ∀ rest, Q rest → Reads p part.1 part.2 rest ∧ Q (part.1 ++ rest))
    (hQ : Q rest) (hrest : Fails p rest) :
  Reads (many p) (parts.flatMap Prod.fst) (parts.map Prod.snd) rest
  := by
  apply reads_upTo _ hparts hQ hrest
  rw [List.length_append]
  apply Nat.le_add_right_of_le
  clear hparts
  induction parts with
  | nil => apply Nat.zero_le
  | cons part parts ih =>
      have hpos : 0 < part.1.length :=
        List.length_pos_of_ne_nil (hne part List.mem_cons_self)
      have hle := ih (fun part' h => hne part' (List.mem_cons_of_mem part h))
      rw [List.flatMap_cons, List.length_append, List.length_cons]
      omega

/-- A repetition of parts that are read whatever comes after them. -/
theorem reads_many {parts : List (List τ × α)} (hne : ∀ part ∈ parts, part.1 ≠ [])
    (hparts : ∀ part ∈ parts, ∀ rest, Reads p part.1 part.2 rest) (hrest : Fails p rest) :
  Reads (many p) (parts.flatMap Prod.fst) (parts.map Prod.snd) rest
  := by
  apply reads_many_follows (Q := fun _ => True) hne _ trivial hrest
  intro part hpart rest _
  exact ⟨hparts part hpart rest, trivial⟩

/-! ### Tokens that are known -/

section Exactly

variable [DecidableEq τ]

theorem reads_exactly (ts rest : List τ) :
  Reads (exactly ts) ts ⟨⟩ rest
  := by
  induction ts with
  | nil => rfl
  | cons t ts ih =>
      apply Reads.bind (l := [t])
      · apply reads_token
        apply if_pos rfl
      · apply ih

/-- What comes after known tokens is read after them. -/
theorem Reads.after {l m : List τ} {q : PUnit → Parser τ β} (h : Reads (q ⟨⟩) m b rest) :
  Reads (exactly l >>= q) (l ++ m) b rest
  := (reads_exactly l (m ++ rest)).bind h

theorem fails_exactly {t : τ} (h : rest.head? ≠ some t) (ts : List τ) :
  Fails (exactly (t :: ts)) rest
  := by
  apply Fails.bind
  apply fails_token
  rintro u hu
  apply if_neg
  rintro rfl
  apply h hu

/-- Tokens that are known are not read when those after the first are not. -/
theorem fails_exactly_cons {l : List τ} (h : Fails (exactly l : Parser τ PUnit.{v + 1}) rest)
    (t : τ) :
  Fails (exactly (t :: l) : Parser τ PUnit.{v + 1}) (t :: rest)
  := by
  have ht : Reads (token fun u => if u = t then some PUnit.unit else none) [t] ⟨⟩ rest := by
    apply reads_token
    apply if_pos rfl
  apply ht.bind_fails h

theorem reads_flag_true (ts rest : List τ) :
  Reads (flag ts) ts true rest
  := by
  have hbind : Reads (flag ts) (ts ++ []) true rest := by
    apply Reads.bind
    · apply (reads_exactly ts _).optional
    · apply reads_pure
  rwa [List.append_nil] at hbind

theorem reads_flag_false {t : τ} (h : rest.head? ≠ some t) (ts : List τ) :
  Reads (flag (t :: ts)) [] false rest
  := by
  apply Reads.bind (l := []) (m := [])
  · apply reads_optional_none (fails_exactly h ts)
  · apply reads_pure

/-- Tokens that may be left out are read when they are not confused with what follows. -/
theorem reads_flag {t : τ} (h : rest.head? ≠ some t) (ts : List τ) (present : Bool) :
  Reads (flag (t :: ts)) (if present then t :: ts else []) present rest
  := by
  cases present with
  | true => apply reads_flag_true
  | false => apply reads_flag_false h

theorem reads_keyed {table : List (τ × Parser τ α)} {t : τ} (ht : table.lookup t = some p)
    (hp : Reads p ts a rest) :
  Reads (keyed table) (t :: ts) a rest
  := by
  change (table.lookup t).bind _ = _
  rw [ht]
  apply hp

theorem fails_keyed {table : List (τ × Parser τ α)}
    (h : ∀ t, rest.head? = some t → table.lookup t = none) :
  Fails (keyed table) rest
  := by
  cases rest with
  | nil => rfl
  | cons t ts =>
      change (table.lookup t).bind _ = _
      rw [h t rfl]
      rfl

/-- A list of parts is read with the separator between them. -/
theorem reads_separated {separator : τ} {part : List τ × α} {parts : List (List τ × α)}
    (hparts : ∀ p' ∈ part :: parts, ∀ rest, Reads p p'.1 p'.2 rest)
    (hrest : rest.head? ≠ some separator) :
  Reads (separated separator p) (part.1 ++ parts.flatMap fun p' => separator :: p'.1)
    (part.2 :: parts.map Prod.snd) rest
  := by
  apply Reads.bind
  · apply hparts part List.mem_cons_self
  · rw [← List.append_nil (parts.flatMap _)]
    apply Reads.bind
    · have hmany : Reads (many (andThen (exactly [separator]) fun _ => p))
          ((parts.map fun p' => (separator :: p'.1, p'.2)).flatMap Prod.fst)
          ((parts.map fun p' => (separator :: p'.1, p'.2)).map Prod.snd) rest := by
        apply reads_many
        · intro p' hp'
          obtain ⟨q, -, rfl⟩ := List.mem_map.mp hp'
          apply List.cons_ne_nil
        · intro p' hp' rest
          obtain ⟨q, hq, rfl⟩ := List.mem_map.mp hp'
          apply Reads.after (l := [separator])
          apply hparts q (List.mem_cons_of_mem part hq)
        · apply Fails.bind
          apply fails_exactly hrest
      rw [List.flatMap_map, List.map_map] at hmany
      apply hmany
    · apply reads_pure

end Exactly

/-- The whole of the tokens is read. -/
theorem Reads.all (h : Reads p ts a []) :
  p.all ts = some a
  := by
  rw [Reads, List.append_nil] at h
  rw [Parser.all, h]
  rfl

end Parser
