import MonetdbAdbc.Library.Machine
import MonetdbAdbc.Library.Quoted

/-!
# Lexing

A text is read into words, quoted texts and single characters, with spaces between them where
they are needed.  A quoted text ends at the first quote that is neither doubled nor escaped; what
kind of quoted text it is, and so whether it has escapes, depends on the quote and on the word
right before it, if there is one.  A text in which a comment begins is not read.

The lexer is a machine that takes one character after the other, so that a text is read in
parts: two parts are read one after the other when the first is closed or the second begins with
a character that breaks off whatever is before it (`lex_append`).
-/

universe u v

namespace Lexer

/-- What a text consists of. -/
inductive Token (α : Type u) (κ : Type v) where
  | word (cs : List α)
  | quoted (kind : κ) (cs : List α)
  | symbol (c : α)
deriving DecidableEq, Repr

/-- The lexical rules of a language. -/
structure Rules (α : Type u) (κ : Type v) where
  isSpace : α → Bool
  isWord : α → Bool
  isQuote : α → Bool
  /-- What a character of a word is read as. -/
  fold : α → α
  /-- The kind of a quoted text, by the word right before it and its quote. -/
  kind : List α → α → Option κ
  /-- In a quoted text of the kind, the character after this one is read as it is. -/
  isEscape : κ → α → Bool
  /-- What a comment begins with: one or two characters. -/
  comments : List (α × Option α)
  space_not_word : ∀ c, isSpace c → isWord c = false
  quote_not_word : ∀ c, isQuote c → isWord c = false

variable {α : Type u} {κ : Type v} [DecidableEq α] (rules : Rules α κ)

/-- What the lexer has before it: nothing, a part of a word, a character that a comment may begin
with, a part of a quoted text, which may go on with an escaped character, a quoted text that may
have ended, or a comment. -/
inductive State where
  | idle
  | word (cs : List α)
  | opening (c : α)
  | inside (quote : { c // rules.isQuote c }) (kind : κ) (cs : List α)
  | escaped (quote : { c // rules.isQuote c }) (kind : κ) (cs : List α)
  | closing (quote : { c // rules.isQuote c }) (kind : κ) (cs : List α)
  | comment
deriving DecidableEq

/-- A character after which nothing is left over of what was before it. -/
def start (c : α) : List (Token α κ) × State rules :=
  if hquote : rules.isQuote c then
    match rules.kind [] c with
    | some kind => ([], .inside ⟨c, hquote⟩ kind [])
    | none => ([.symbol c], .idle)
  else if rules.isSpace c then
    ([], .idle)
  else if rules.isWord c then
    ([], .word [c])
  else if (c, none) ∈ rules.comments then
    ([], .comment)
  else if rules.comments.any fun p => p.1 = c then
    ([], .opening c)
  else
    ([.symbol c], .idle)

/-- Some tokens, before what a character leads to. -/
def State.emit (ts : List (Token α κ)) (p : List (Token α κ) × State rules) :
    List (Token α κ) × State rules :=
  (ts ++ p.1, p.2)

/-- One character. -/
def step : State rules → α → List (Token α κ) × State rules
  | .idle, c => start rules c
  | .word cs, c =>
    if rules.isWord c then
      ([], .word (cs ++ [c]))
    else if hquote : rules.isQuote c then
      match rules.kind cs c with
      | some kind => ([], .inside ⟨c, hquote⟩ kind [])
      | none => State.emit rules [.word (cs.map rules.fold)] (start rules c)
    else
      State.emit rules [.word (cs.map rules.fold)] (start rules c)
  | .opening before, c =>
    if (before, some c) ∈ rules.comments then
      ([], .comment)
    else
      State.emit rules [.symbol before] (start rules c)
  | .inside quote kind cs, c =>
    if c = quote then
      ([], .closing quote kind cs)
    else if rules.isEscape kind c then
      ([], .escaped quote kind (cs ++ [c]))
    else
      ([], .inside quote kind (cs ++ [c]))
  | .escaped quote kind cs, c =>
    ([], .inside quote kind (cs ++ [c]))
  | .closing quote kind cs, c =>
    if c = quote then
      ([], .inside quote kind (cs ++ [c]))
    else
      State.emit rules [.quoted kind cs] (start rules c)
  | .comment, _ =>
    ([], .comment)

/-- The lexer, which answers a character with the tokens that it ends. -/
def machine : Machine (State rules) α (List (Token α κ)) where
  step := step rules

/-- The token that ends with the text; a quoted text must have its closing quote, and there must
be no comment. -/
def State.flush : State rules → Option (List (Token α κ))
  | .idle => some []
  | .word cs => some [.word (cs.map rules.fold)]
  | .opening c => some [.symbol c]
  | .inside _ _ _ => none
  | .escaped _ _ _ => none
  | .closing _ kind cs => some [.quoted kind cs]
  | .comment => none

/-- The tokens of a text that is read on from a state. -/
def lexFrom (s : State rules) (cs : List α) : Option (List (Token α κ)) :=
  (State.flush rules ((machine rules).final s cs)).map fun ts =>
    ((machine rules).outputs s cs).flatten ++ ts

/-- The tokens of a text. -/
def lex (cs : List α) : Option (List (Token α κ)) :=
  lexFrom rules .idle cs

/-- Nothing is left over at the end of the text. -/
def Closed (cs : List α) : Prop :=
  (machine rules).final .idle cs = .idle

instance [DecidableEq κ] : DecidablePred (Closed rules) :=
  fun cs => inferInstanceAs (Decidable ((machine rules).final .idle cs = .idle))

/-- The text ends whatever word, symbol or quoted text is right before it. -/
def Breaks : List α → Bool
  | [] => true
  | c :: _ => !rules.isWord c && !rules.isQuote c && rules.comments.all fun p => p.2 ≠ some c

variable {rules}

/-! ### Reading in parts -/

theorem breaks_append {as bs : List α} (has : Breaks rules as)
    (hbs : as = [] → Breaks rules bs) :
  Breaks rules (as ++ bs)
  := by
  cases as with
  | nil => apply hbs rfl
  | cons c cs => apply has

/-- A character that breaks off what is before it is read as at the beginning. -/
theorem step_of_breaks {s : State rules} {ts : List (Token α κ)} (hs : s.flush rules = some ts)
    {c : α} (hword : rules.isWord c = false) (hquote : rules.isQuote c = false)
    (hcomment : ∀ p ∈ rules.comments, p.2 ≠ some c) :
  step rules s c = State.emit rules ts (start rules c)
  := by
  cases s with
  | idle =>
      obtain rfl := Option.some.inj hs
      rfl
  | word cs =>
      obtain rfl := Option.some.inj hs
      simp [step, hword, hquote]
  | opening before =>
      obtain rfl := Option.some.inj hs
      have hnone : (before, some c) ∉ rules.comments := fun hmem => hcomment _ hmem rfl
      simp [step, hnone]
  | inside quote kind cs => cases hs
  | escaped quote kind cs => cases hs
  | comment => cases hs
  | closing quote kind cs =>
      obtain rfl := Option.some.inj hs
      have hne : c ≠ quote := by
        rintro rfl
        rw [quote.property] at hquote
        cases hquote
      simp [step, hne]

theorem lexFrom_cons (s : State rules) (c : α) (cs : List α) :
  lexFrom rules s (c :: cs)
    = (lexFrom rules (step rules s c).2 cs).map fun ts => (step rules s c).1 ++ ts
  := by
  rw [lexFrom, lexFrom, Option.map_map, Machine.final_cons, Machine.outputs_cons,
    List.flatten_cons]
  simp only [Function.comp_def, List.append_assoc]
  rfl

theorem lexFrom_append (s : State rules) (as bs : List α) :
  lexFrom rules s (as ++ bs)
    = (lexFrom rules ((machine rules).final s as) bs).map fun ts =>
        ((machine rules).outputs s as).flatten ++ ts
  := by
  rw [lexFrom, lexFrom, Option.map_map, Machine.final_append, Machine.outputs_append,
    List.flatten_append]
  simp only [Function.comp_def, List.append_assoc]

/-- A text that breaks off what is before it is read as on its own. -/
theorem lexFrom_of_breaks {s : State rules} {ts : List (Token α κ)}
    (hs : s.flush rules = some ts) {cs : List α} (h : Breaks rules cs) :
  lexFrom rules s cs = (lex rules cs).map fun us => ts ++ us
  := by
  cases cs with
  | nil =>
      change (s.flush rules).map _ = _
      rw [hs]
      simp [lex, lexFrom, Machine.outputs, State.flush]
  | cons c cs =>
      simp only [Breaks, Bool.and_eq_true, Bool.not_eq_true', List.all_eq_true,
        decide_eq_true_eq] at h
      rw [lex, lexFrom_cons, lexFrom_cons, step_of_breaks hs h.1.1 h.1.2 h.2, Option.map_map]
      simp only [State.emit, Function.comp_def, List.append_assoc]
      rfl

/-- Two texts are read one after the other when the first one is closed or the second one breaks
it off. -/
theorem lex_append {as bs : List α} {ts us : List (Token α κ)} (has : lex rules as = some ts)
    (hbs : lex rules bs = some us) (h : Closed rules as ∨ Breaks rules bs) :
  lex rules (as ++ bs) = some (ts ++ us)
  := by
  obtain ⟨ts', hflush, rfl⟩ := Option.map_eq_some_iff.mp has
  rw [lex, lexFrom_append]
  by_cases hclosed : Closed rules as
  · rw [Closed] at hclosed
    rw [hclosed] at hflush ⊢
    obtain rfl := Option.some.inj hflush
    change (lex rules bs).map _ = _
    rw [hbs, List.append_nil]
    rfl
  · rw [lexFrom_of_breaks hflush (h.resolve_left hclosed), hbs, Option.map_some, Option.map_some,
      List.append_assoc]

/-! ### Words and quoted texts -/

/-- A word goes on as long as there are characters of words. -/
theorem final_word {before cs : List α} (h : ∀ c ∈ cs, rules.isWord c) :
  (machine rules).final (.word before) cs = .word (before ++ cs) ∧
    ((machine rules).outputs (.word before) cs).flatten = []
  := by
  induction cs generalizing before with
  | nil => simp [Machine.outputs]
  | cons c cs ih =>
      have hstep : step rules (.word before) c = ([], .word (before ++ [c])) :=
        if_pos (h c List.mem_cons_self)
      have hcs : ∀ d ∈ cs, rules.isWord d := fun d hd => h d (List.mem_cons_of_mem c hd)
      obtain ⟨hfinal, houtputs⟩ := @ih (before ++ [c]) hcs
      rw [Machine.final_cons, Machine.outputs_cons]
      simp only [Machine.next, Machine.output, machine] at hfinal houtputs ⊢
      rw [hstep, hfinal, List.flatten_cons, houtputs]
      simp

/-- A word that is read from the beginning. -/
theorem final_idle_word {cs : List α} (hne : cs ≠ []) (h : ∀ c ∈ cs, rules.isWord c) :
  (machine rules).final .idle cs = .word cs ∧ ((machine rules).outputs .idle cs).flatten = []
  := by
  obtain ⟨c, cs, rfl⟩ := List.exists_cons_of_ne_nil hne
  have hword := h c List.mem_cons_self
  have hspace : ¬ rules.isSpace c := by
    intro hspace
    rw [rules.space_not_word c hspace] at hword
    cases hword
  have hquote : ¬ rules.isQuote c := by
    intro hquote
    rw [rules.quote_not_word c hquote] at hword
    cases hword
  have hstep : step rules .idle c = ([], .word [c]) := by
    simp [step, start, hword, hspace, hquote]
  have hcs : ∀ d ∈ cs, rules.isWord d := fun d hd => h d (List.mem_cons_of_mem c hd)
  obtain ⟨hfinal, houtputs⟩ := @final_word _ _ _ _ [c] cs hcs
  rw [Machine.final_cons, Machine.outputs_cons]
  simp only [Machine.next, Machine.output, machine] at hfinal houtputs ⊢
  rw [hstep, hfinal, List.flatten_cons, houtputs]
  simp

theorem lex_word {cs : List α} (hne : cs ≠ []) (h : ∀ c ∈ cs, rules.isWord c) :
  lex rules cs = some [.word (cs.map rules.fold)]
  := by
  obtain ⟨hfinal, houtputs⟩ := final_idle_word hne h
  rw [lex, lexFrom, hfinal, houtputs]
  rfl

/-- A word after a symbol that a comment may begin with. -/
theorem lex_symbol_word {c : α} (hstart : start rules c = ([], .opening c)) {cs : List α}
    (hne : cs ≠ []) (h : ∀ d ∈ cs, rules.isWord d)
    (hcomment : ∀ d ∈ cs, (c, some d) ∉ rules.comments) :
  lex rules (c :: cs) = some [.symbol c, .word (cs.map rules.fold)]
  := by
  have hword := lex_word hne h
  obtain ⟨d, cs, rfl⟩ := List.exists_cons_of_ne_nil hne
  have hfirst : step rules .idle c = ([], .opening c) := hstart
  have hsecond : step rules (.opening c) d = State.emit rules [.symbol c] (start rules d) :=
    if_neg (hcomment d List.mem_cons_self)
  rw [lex, lexFrom_cons] at hword
  obtain ⟨ts, hts, hword⟩ := Option.map_eq_some_iff.mp hword
  rw [lex, lexFrom_cons, hfirst, lexFrom_cons, hsecond, State.emit, ← hword]
  simp only [step] at hts ⊢
  rw [hts]
  rfl

/-- Between its quotes, a doubled text is read back if its kind has no escapes. -/
theorem lexFrom_inside (quote : { c // rules.isQuote c }) {kind : κ}
    (hescape : ∀ c, rules.isEscape kind c = false) (before cs : List α) :
  lexFrom rules (.inside quote kind before) (Quoted.double quote.val cs ++ [quote.val])
    = some [.quoted kind (before ++ cs)]
  := by
  induction cs generalizing before with
  | nil =>
      rw [Quoted.double_nil, List.nil_append, lexFrom_cons]
      simp [step, lexFrom, Machine.outputs, State.flush]
  | cons c cs ih =>
      by_cases hc : c = quote.val
      · rw [hc, Quoted.double_cons_quote, List.cons_append, List.cons_append, lexFrom_cons,
          lexFrom_cons]
        simp only [step, if_pos]
        rw [ih]
        simp
      · rw [Quoted.double_cons _ hc, List.cons_append, lexFrom_cons]
        simp only [step, if_neg hc, hescape, Bool.false_eq_true, if_false]
        rw [ih]
        simp

/-- A doubled text in quotes, of a kind without escapes, after the word that its kind depends
on. -/
theorem lex_quoted {before : List α} (h : ∀ c ∈ before, rules.isWord c)
    (quote : { c // rules.isQuote c }) {kind : κ} (hkind : rules.kind before quote = some kind)
    (hescape : ∀ c, rules.isEscape kind c = false) (cs : List α) :
  lex rules (before ++ quote.val :: (Quoted.double quote.val cs ++ [quote.val]))
    = some [.quoted kind cs]
  := by
  have hword : rules.isWord quote.val = false := rules.quote_not_word _ quote.property
  have hstep : ∃ s, (machine rules).final .idle before = s ∧
      ((machine rules).outputs .idle before).flatten = [] ∧
      step rules s quote.val = ([], .inside quote kind []) := by
    cases before with
    | nil => exact ⟨_, rfl, rfl, by simp [step, start, quote.property, hkind]⟩
    | cons c before =>
        obtain ⟨hfinal, houtputs⟩ := final_idle_word (List.cons_ne_nil c before) h
        exact ⟨_, hfinal, houtputs, by simp [step, hword, quote.property, hkind]⟩
  obtain ⟨s, hfinal, houtputs, hstep⟩ := hstep
  rw [lex, lexFrom_append, houtputs, hfinal, lexFrom_cons, hstep, lexFrom_inside _ hescape]
  simp

end Lexer
