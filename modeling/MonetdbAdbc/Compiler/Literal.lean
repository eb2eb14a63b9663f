import MonetdbAdbc.Json.Path
import MonetdbAdbc.Library.Quoted

/-!
# String literals

A literal processor writes a string in quotes, doubling those inside.  MonetDB reads
backslash escapes in such a literal unless it is prefixed by `R`.  `renderLiteralValue` puts
the prefix when the Python value is a `str`; a value of another kind that renders to a
string, such as a JSON path given as a tuple, goes without it.  The literal then denotes the
string exactly when the string has no backslash (`denotes_renderLiteralValue_iff`).
-/

namespace MonetDB

/-! ### Rendering -/

/-- A string in quotes, with those inside doubled. -/
def quoteLiteral (s : String) : String :=
  "'" ++ String.ofList (Quoted.double '\'' s.toList) ++ "'"

/-- A type of values that are sent as strings. -/
structure StringType (α : Type) where
  /-- `isinstance(value, str)`. -/
  isStr : α → Bool
  /-- What is sent for a bound parameter. -/
  bindProcessor : α → String
  /-- What stands for the value in SQL text. -/
  literalProcessor : α → String
  /-- A literal is the string that is bound, in quotes. -/
  quotes : ∀ value, literalProcessor value = quoteLiteral (bindProcessor value)

/-- The SQL text that begins and ends with a quote. -/
def isQuoted (rendered : String) : Bool :=
  "'".toList.isPrefixOf rendered.toList && rendered.toList.getLast? = some '\''

variable {α : Type} (T : StringType α)

/-- `MonetDBCompiler.render_literal_value`. -/
def renderLiteralValue (value : α) : String :=
  let rendered := T.literalProcessor value
  if T.isStr value && isQuoted rendered then "R" ++ rendered else rendered

/-- Strings: the values are `str`. -/
def plainString : StringType String where
  isStr _ := true
  bindProcessor s := s
  literalProcessor := quoteLiteral
  quotes _ := rfl

/-- `MonetDBJSONPathType` and `MonetDBJSONIndexType`: a path is a `str` when it is a key by
itself. -/
def jsonPathType : StringType PathValue where
  isStr
    | .single (.key _) => true
    | _ => false
  bindProcessor := pathProcessor
  literalProcessor path := quoteLiteral (pathProcessor path)
  quotes _ := rfl

/-! ### Lexing -/

/-- Escape sequences that begin with a backslash. -/
abbrev BackslashEscapes := { e : Quoted.Escapes Char // e.mark = '\\' }

/-- The string that a literal stands for, and the text after it. -/
def lexString (escapes : BackslashEscapes) : List Char → Option (List Char × List Char)
  | 'R' :: '\'' :: cs => Quoted.read '\'' none 0 cs
  | '\'' :: cs => Quoted.read '\'' (some escapes.val) 0 cs
  | _ => none

/-- The text is one string literal, for the string. -/
def Denotes (escapes : BackslashEscapes) (text s : String) : Prop :=
  lexString escapes text.toList = some (s.toList, [])

/-- The escape sequences for a line break and a tab; any other character stands for itself. -/
def controlEscapes : BackslashEscapes where
  val := {
    mark := '\\'
    read
      | 'n' :: _ => some ('\n', 1)
      | 't' :: _ => some ('\t', 1)
      | c :: _ => some (c, 1)
      | [] => none
    pos := by
      intro cs c n h
      split at h <;> cases h <;> decide }
  property := rfl

/-! ### What a rendered literal denotes -/

theorem toList_quoteLiteral (s : String) :
  (quoteLiteral s).toList = '\'' :: (Quoted.double '\'' s.toList ++ ['\''])
  := by
  simp only [quoteLiteral, String.toList_append, String.toList_ofList]
  rfl

theorem isQuoted_quoteLiteral (s : String) :
  isQuoted (quoteLiteral s)
  := by
  rw [isQuoted, toList_quoteLiteral, ← List.cons_append, List.getLast?_concat]
  rfl

/-- A literal with the prefix stands for the string that was quoted. -/
theorem denotes_raw (escapes : BackslashEscapes) (s : String) :
  Denotes escapes ("R" ++ quoteLiteral s) s
  := by
  rw [Denotes, String.toList_append, toList_quoteLiteral]
  apply Quoted.read_double
  rintro e ⟨⟩

/-- A literal without it stands for the string that was quoted when there is no backslash. -/
theorem denotes_plain_iff (escapes : BackslashEscapes) (s : String) :
  Denotes escapes (quoteLiteral s) s ↔ '\\' ∉ s.toList
  := by
  rw [Denotes, toList_quoteLiteral, ← escapes.property]
  apply Quoted.read_double_iff
  rw [escapes.property]
  decide

/-- The literal of a value denotes the string that is bound for it exactly when the value is a
`str` or the string has no backslash. -/
theorem denotes_renderLiteralValue_iff (escapes : BackslashEscapes) (value : α) :
  Denotes escapes (renderLiteralValue T value) (T.bindProcessor value)
    ↔ T.isStr value ∨ '\\' ∉ (T.bindProcessor value).toList
  := by
  rw [renderLiteralValue, T.quotes, isQuoted_quoteLiteral, Bool.and_true]
  split_ifs with hstr
  · simp only [hstr, true_or, iff_true]
    apply denotes_raw
  · rw [denotes_plain_iff, or_iff_right hstr]

/-- A JSON path given as a tuple whose key has a backslash is read as another path. -/
theorem jsonPath_escaped :
  renderLiteralValue jsonPathType (.several [.key "a\\nb"]) = "'$.a\\nb'"
    ∧ lexString controlEscapes "'$.a\\nb'".toList = some ("$.a\nb".toList, [])
    ∧ pathProcessor (.several [.key "a\\nb"]) = "$.a\\nb"
    ∧ ¬ ∀ path, Denotes controlEscapes (renderLiteralValue jsonPathType path) (pathProcessor path)
  := by
  have hlex : lexString controlEscapes "'$.a\\nb'".toList = some ("$.a\nb".toList, []) := by
    decide +kernel
  have hrender : renderLiteralValue jsonPathType (.several [.key "a\\nb"]) = "'$.a\\nb'" := by
    decide +kernel
  refine ⟨hrender, hlex, by decide, ?_⟩
  intro h
  have hdenotes := h (.several [.key "a\\nb"])
  rw [Denotes, hrender, hlex] at hdenotes
  revert hdenotes
  decide +kernel

end MonetDB
