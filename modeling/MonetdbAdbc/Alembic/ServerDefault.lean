import MonetdbAdbc.Compiler.Literal

/-!
# Comparing server defaults

Alembic compares the text of a column's default with the text that the catalog has.  A string
default comes back from MonetDB in quotes, so the unquoted forms are compared: a literal
counts as the string that it stands for.  Two literals therefore compare equal when they stand
for the same string, two expressions when they have the same text, and a literal compares
equal to an expression that is spelled like its string (`compareServerDefault_iff`).

A text is unquoted as soon as it begins and ends with a quote, which is so of some expressions
as well, such as a concatenation of literals.
-/

namespace MonetDB

/-! ### Comparing texts -/

/-- `_unquote_string_default`. -/
def unquoteStringDefault (value : String) : String :=
  if 2 ≤ value.toList.length ∧ isQuoted value then
    String.ofList (Quoted.undouble '\'' value.toList.tail.dropLast)
  else
    value

/-- `compare_server_default`. -/
def compareServerDefault (renderedMetadataDefault renderedInspectorDefault : Option String) :
    Bool :=
  renderedInspectorDefault.map unquoteStringDefault
    ≠ renderedMetadataDefault.map unquoteStringDefault

/-! ### Defaults -/

/-- A server default: none, a string literal, or another SQL expression. -/
inductive ServerDefault where
  | absent
  | literal (value : String)
  | expression (text : String) (other : ∀ value, text ≠ quoteLiteral value)

namespace ServerDefault

/-- The text of a default. -/
def text : ServerDefault → Option String
  | absent => none
  | literal value => some (quoteLiteral value)
  | expression text _ => some text

/-- The string of a literal, and the text of an expression. -/
def bare : ServerDefault → Option String
  | absent => none
  | literal value => some value
  | expression text _ => some text

/-- An expression that begins and ends with a quote, such as a concatenation of literals. -/
def IsQuotedExpression : ServerDefault → Prop
  | expression text _ => 2 ≤ text.toList.length ∧ isQuoted text
  | _ => False

end ServerDefault

/-- A literal is unquoted to the string that it stands for. -/
theorem unquoteStringDefault_quoteLiteral (value : String) :
  unquoteStringDefault (quoteLiteral value) = value
  := by
  have hlength : 2 ≤ (quoteLiteral value).toList.length := by
    rw [toList_quoteLiteral, List.length_cons, List.length_append, List.length_singleton]
    omega
  rw [unquoteStringDefault, if_pos ⟨hlength, isQuoted_quoteLiteral value⟩, toList_quoteLiteral,
    List.tail_cons, List.dropLast_concat, Quoted.undouble_double, String.ofList_toList]

namespace ServerDefault

/-- The unquoted text of a default that is not a quoted expression. -/
theorem unquote_text {a : ServerDefault} (h : ¬ a.IsQuotedExpression) :
  a.text.map unquoteStringDefault = a.bare
  := by
  cases a with
  | absent => rfl
  | literal value => rw [text, Option.map_some, unquoteStringDefault_quoteLiteral, bare]
  | expression text other =>
      apply congrArg some
      apply if_neg h

end ServerDefault

theorem compareServerDefault_eq_false_iff (metadata inspector : Option String) :
  compareServerDefault metadata inspector = false ↔
    metadata.map unquoteStringDefault = inspector.map unquoteStringDefault
  := by rw [compareServerDefault, decide_eq_false_iff_not, not_not, eq_comm]

/-- Two defaults compare equal exactly when both are absent or both have the same bare text,
unless one of them is a quoted expression and the other a different default. -/
theorem compareServerDefault_iff (a b : ServerDefault)
    (h : a.IsQuotedExpression ∨ b.IsQuotedExpression → a = b ∨ a = .absent ∨ b = .absent) :
  compareServerDefault a.text b.text = false ↔ a.bare = b.bare
  := by
  rw [compareServerDefault_eq_false_iff]
  by_cases hquoted : a.IsQuotedExpression ∨ b.IsQuotedExpression
  · obtain rfl | rfl | rfl := h hquoted
    · exact iff_of_true rfl rfl
    · cases b <;> simp [ServerDefault.text, ServerDefault.bare]
    · cases a <;> simp [ServerDefault.text, ServerDefault.bare]
  · obtain ⟨ha, hb⟩ := not_or.mp hquoted
    rw [ServerDefault.unquote_text ha, ServerDefault.unquote_text hb]

/-- A text that is not quoted is no literal. -/
theorem ne_quoteLiteral {text : String} (h : ¬ isQuoted text) (value : String) :
  text ≠ quoteLiteral value
  := by
  rintro rfl
  apply h (isQuoted_quoteLiteral value)

/-- A literal and the keyword that it spells. -/
theorem compareServerDefault_literal :
  compareServerDefault (ServerDefault.literal "x").text
      (ServerDefault.expression "x" (ne_quoteLiteral (by decide))).text = false
  := by
  apply (compareServerDefault_iff _ _ _).mpr
  · rfl
  · rintro (h | h)
    · cases h
    · exact absurd h.2 (by decide)

/-- The literal that spells a keyword compares equal to the keyword, and the literal that spells
a concatenation without its outer quotes to the concatenation. -/
theorem compareServerDefault_keyword :
  compareServerDefault (some "CURRENT_TIMESTAMP") (some "'CURRENT_TIMESTAMP'") = false
    ∧ compareServerDefault (some "'a' || 'b'") (some "'a'' || ''b'") = false
    ∧ ¬ ∀ a b : ServerDefault, compareServerDefault a.text b.text = false ↔ a = b
  := by
  refine ⟨by decide +kernel, by decide +kernel, ?_⟩
  intro h
  have hequal := (h (.expression "CURRENT_TIMESTAMP" (ne_quoteLiteral (by decide +kernel)))
    (.literal "CURRENT_TIMESTAMP")).mp (by decide +kernel)
  cases hequal

end MonetDB
