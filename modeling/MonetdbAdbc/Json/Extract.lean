import MonetdbAdbc.Json.Path

/-!
# Extracting from JSON documents

`jsonExtract` compiles the indexing of a JSON expression by a path.  `JSON.FILTER` answers
with the empty array when a path addresses nothing, so its result is compared with `'[]'` and
replaced by `NULL`; a scalar is unwrapped by `JSON.TEXT`, with JSON null replaced as well.

The expression has the value that the path addresses exactly when that value is not itself an
empty array (`jsonExtract_iff`).  `MonetJson` is what MonetDB contributes.
-/

namespace MonetDB

/-! ### Documents -/

/-- JSON values.  A number is a mantissa with a power of ten. -/
inductive Json where
  | null
  | bool (b : Bool)
  | number (mantissa exponent : Int)
  | string (s : String)
  | array (length : Nat) (items : Fin length → Json)
  | object (names : List String) (distinct : names.Nodup) (values : Fin names.length → Json)

namespace Json

/-- The array without items. -/
def emptyArray : Json :=
  .array 0 Fin.elim0

def isEmptyArray : Json → Bool
  | .array 0 _ => true
  | _ => false

/-- What a step leads to. -/
def child? : Json → PathElement → Option Json
  | .array length items, .index i =>
      if h : 0 ≤ i ∧ i.toNat < length then some (items ⟨i.toNat, h.2⟩) else none
  | .object names _ values, .key name =>
      if h : names.idxOf name < names.length then some (values ⟨names.idxOf name, h⟩) else none
  | _, _ => none

/-- What a path addresses. -/
def at? (v : Json) (path : List PathElement) : Option Json :=
  path.foldlM child? v

/-- The text of a string, a number or a boolean, given that of numbers and booleans. -/
def scalar? (text : Json → String) : Json → Option String
  | .string s => some s
  | .bool b => some (text (.bool b))
  | .number mantissa exponent => some (text (.number mantissa exponent))
  | _ => none

@[simp]
theorem at?_nil (v : Json) :
  v.at? [] = some v
  := rfl

theorem at?_append (v : Json) (path path' : List PathElement) :
  v.at? (path ++ path') = (v.at? path).bind fun w => w.at? path'
  := List.foldlM_append

/-- An empty array has nothing in it. -/
theorem at?_of_isEmptyArray {v : Json} (h : v.isEmptyArray) {path : List PathElement} {w : Json}
    (hw : v.at? path = some w) :
  w.isEmptyArray
  := by
  cases path with
  | nil =>
      cases hw
      apply h
  | cons element path =>
      have hchild : v.child? element = none := by
        rw [isEmptyArray.eq_def] at h
        split at h
        · cases element with
          | key name => rfl
          | index i => exact dif_neg fun hi => Nat.not_lt_zero _ hi.2
        · cases h
      rw [at?, List.foldlM_cons, hchild] at hw
      cases hw

end Json

/-! ### What MonetDB contributes -/

/-- The JSON functions of MonetDB. -/
structure MonetJson where
  /-- The text of a JSON value. -/
  text : Json → String
  /-- `JSON.FILTER` on a document. -/
  filter : Json → String → Json
  /-- `JSON.TEXT`. -/
  jsonText : Json → String
  /-- Only the empty array has the text of one. -/
  text_eq_brackets : ∀ v, text v = "[]" ↔ v.isEmptyArray
  /-- Only JSON null has its text. -/
  text_eq_null : ∀ v, text v = "null" ↔ v = .null
  /-- A scalar is unwrapped. -/
  jsonText_scalar : ∀ v s, v.scalar? text = some s → jsonText v = s

/-- `JSON.FILTER` gives the value that a path addresses, and an empty array when it addresses
none. -/
def MonetJson.Filters (M : MonetJson) (path : PathValue) : Prop :=
  ∀ v, M.filter v (pathProcessor path) = (v.at? path.elements).getD .emptyArray

/-! ### Expressions -/

/-- A JSON column, indexed by paths. -/
inductive JsonExpr where
  | column
  | getitem (left : JsonExpr) (path : PathValue)

/-- SQL expressions of type JSON. -/
inductive JsonSql where
  | column
  /-- `JSON.FILTER(document, CAST(path AS STRING))`. -/
  | filter (document : JsonSql) (path : String)
  /-- `NULLIF(expression, text)`. -/
  | nullif (expression : JsonSql) (text : String)

/-- SQL expressions that unwrap a scalar. -/
inductive ScalarSql where
  /-- `JSON.TEXT(expression)`. -/
  | jsonText (expression : JsonSql)
  /-- `CASE scrutinee WHEN text THEN NULL ELSE otherwise END`. -/
  | caseNull (scrutinee : JsonSql) (text : String) (otherwise : ScalarSql)

/-- What indexing is compiled to. -/
inductive ExtractSql where
  | json (expression : JsonSql)
  | scalar (expression : ScalarSql)
  /-- A cast to the type of the accessor. -/
  | cast (expression : ExtractSql)

/-- The type of an indexing: JSON, or that of an accessor such as `as_string`. -/
inductive ResultKind where
  | json
  | scalar
deriving DecidableEq, Repr

/-- `_json_extract` once the cast is applied. -/
def extract (left : JsonSql) (right : String) (type : ResultKind) : ExtractSql :=
  let filtered := .nullif (.filter left right) "[]"
  match type with
  | .json => .json filtered
  | .scalar => .scalar (.caseNull filtered "null" (.jsonText filtered))

/-- `_json_extract`. -/
def jsonExtract (left : JsonSql) (right : String) (type : ResultKind) (castApplied : Bool) :
    ExtractSql :=
  if !castApplied && type ≠ .json then
    .cast (extract left right type)
  else
    extract left right type

/-- The SQL that a JSON expression is compiled to. -/
def JsonExpr.compile : JsonExpr → JsonSql
  | .column => .column
  | .getitem left path => .nullif (.filter left.compile (pathProcessor path)) "[]"

/-- The steps of all paths, in order. -/
def JsonExpr.elements : JsonExpr → List PathElement
  | .column => []
  | .getitem left path => left.elements ++ path.elements

/-- The paths of an expression. -/
def JsonExpr.paths : JsonExpr → List PathValue
  | .column => []
  | .getitem left path => left.paths ++ [path]

/-! ### Values -/

section

variable (M : MonetJson) (document : Option Json)

/-- The value of a JSON expression, given that of the column. -/
def JsonSql.eval : JsonSql → Option Json
  | .column => document
  | .filter expression path => (expression.eval).map fun v => M.filter v path
  | .nullif expression text => (expression.eval).filter fun v => M.text v ≠ text

/-- The text that a scalar expression yields; a null is equal to nothing. -/
def ScalarSql.eval : ScalarSql → Option String
  | .jsonText expression => (expression.eval M document).map M.jsonText
  | .caseNull scrutinee text otherwise =>
      if (scrutinee.eval M document).map M.text = some text then none else otherwise.eval

/-- The text that an indexing yields before an outer cast. -/
def ExtractSql.eval : ExtractSql → Option String
  | .json expression => (expression.eval M document).map M.text
  | .scalar expression => expression.eval M document
  | .cast expression => expression.eval

/-- The text of a scalar, or what `JSON.TEXT` gives for an array or an object. -/
def MonetJson.scalarText (v : Json) : String :=
  (v.scalar? M.text).getD (M.jsonText v)

/-- What an indexing has to yield for the addressed value: its text, or its scalar text with
null for JSON null. -/
def MonetJson.addressedText : ResultKind → Json → Option String
  | .json, v => some (M.text v)
  | .scalar, .null => none
  | .scalar, v => some (M.scalarText v)

end

/-! ### Extraction -/

section

variable (M : MonetJson) (document : Option Json)

theorem MonetJson.jsonText_eq (v : Json) :
  M.jsonText v = M.scalarText v
  := by
  rw [MonetJson.scalarText]
  cases hv : v.scalar? M.text with
  | none => rfl
  | some s => apply M.jsonText_scalar v s hv

/-- A scalar is unwrapped, and JSON null is null. -/
theorem MonetJson.ite_eq_null (v : Json) :
  (if some (M.text v) = some "null" then none else some (M.jsonText v))
    = M.addressedText .scalar v
  := by
  split
  · rename_i h
    rw [Option.some_inj, M.text_eq_null] at h
    rw [h]
    rfl
  · rename_i h
    rw [Option.some_inj, M.text_eq_null] at h
    rw [M.jsonText_eq]
    cases v with
    | null => exact absurd rfl h
    | _ => rfl

/-- An empty array has a text of either kind. -/
theorem MonetJson.exists_addressedText {v : Json} (h : v.isEmptyArray) (type : ResultKind) :
  ∃ s, M.addressedText type v = some s
  := by
  cases type with
  | json => exact ⟨_, rfl⟩
  | scalar =>
      cases v with
      | null => cases h
      | _ => exact ⟨_, rfl⟩

/-- The value that an expression without the last comparison has is the addressed one, except
that an empty array may have become null on the way. -/
structure Follows (value addressed : Option Json) : Prop where
  sound : ∀ v, value = some v → addressed = some v
  complete : ∀ v, addressed = some v → ¬ v.isEmptyArray → value = some v

/-- Comparing with `'[]'` removes the empty arrays. -/
theorem filter_ne_brackets (value : Option Json) :
  (value.filter fun v => M.text v ≠ "[]") = value.filter fun v => !v.isEmptyArray
  := by
  congr 1
  funext v
  have hiff := M.text_eq_brackets v
  cases hv : v.isEmptyArray <;> simp [hv, hiff]

/-- Filtering a value that follows the addressed one yields what the path addresses from
there, with null for an empty array. -/
theorem eval_nullif_filter {left : JsonSql} {path : PathValue} (hpath : M.Filters path)
    {addressed : Option Json} (h : Follows (left.eval M document) addressed) :
  (JsonSql.nullif (.filter left (pathProcessor path)) "[]").eval M document
    = (addressed.bind fun v => v.at? path.elements).filter fun v => !v.isEmptyArray
  := by
  rw [JsonSql.eval, JsonSql.eval, filter_ne_brackets]
  cases hvalue : left.eval M document with
  | some v =>
      rw [h.sound v hvalue, Option.map_some, Option.bind_some, hpath v]
      cases v.at? path.elements with
      | none => rfl
      | some w => rfl
  | none =>
      rw [Option.map_none, Option.filter_none]
      cases haddressed : addressed with
      | none => rfl
      | some v =>
          -- the addressed value was an empty array, and nothing is addressed in it
          have hempty : v.isEmptyArray := by
            by_contra hne
            rw [h.complete v haddressed hne] at hvalue
            cases hvalue
          rw [Option.bind_some]
          cases hat : v.at? path.elements with
          | none => rfl
          | some w => rw [Option.filter_some, Json.at?_of_isEmptyArray hempty hat]; rfl

/-- The value of a JSON expression follows the one that its paths address. -/
theorem follows_compile {e : JsonExpr} (hpaths : ∀ path ∈ e.paths, M.Filters path) :
  Follows (e.compile.eval M document) (document.bind fun v => v.at? e.elements)
  := by
  induction e with
  | column =>
      rw [JsonExpr.compile, JsonSql.eval, JsonExpr.elements]
      simp only [Json.at?_nil, Option.bind_fun_some]
      exact ⟨fun _ h => h, fun _ h _ => h⟩
  | getitem left path ih =>
      have hleft := ih fun p hp => hpaths p (List.mem_append_left _ hp)
      have hpath := hpaths path (List.mem_append_right _ (List.mem_singleton_self path))
      rw [JsonExpr.compile, eval_nullif_filter M document hpath hleft, Option.bind_assoc]
      simp only [JsonExpr.elements, Json.at?_append]
      constructor
      · intro v hv
        apply (Option.filter_eq_some_iff.mp hv).1
      · intro v hv hne
        rw [Option.filter_eq_some_iff]
        exact ⟨hv, by simpa using hne⟩

/-- What is compiled for an indexing yields the addressed value of the kind asked for, or null
for an empty array. -/
theorem eval_extract (left : JsonExpr) (path : PathValue) (type : ResultKind)
    (hpaths : ∀ p ∈ left.paths ++ [path], M.Filters p) :
  (extract left.compile (pathProcessor path) type).eval M document
    = ((document.bind fun v => v.at? (left.elements ++ path.elements)).filter
        fun v => !v.isEmptyArray).bind (M.addressedText type)
  := by
  have hleft := follows_compile M document (e := left)
    fun p hp => hpaths p (List.mem_append_left _ hp)
  have hpath := hpaths path (List.mem_append_right _ (List.mem_singleton_self path))
  have hfiltered := eval_nullif_filter M document hpath hleft
  rw [Option.bind_assoc] at hfiltered
  simp only [← Json.at?_append] at hfiltered
  cases type with
  | json =>
      rw [extract, ExtractSql.eval, hfiltered, Option.map_eq_bind]
      rfl
  | scalar =>
      rw [extract, ExtractSql.eval, ScalarSql.eval, ScalarSql.eval, hfiltered]
      cases Option.filter _ _ with
      | none => rfl
      | some v => rw [Option.map_some, Option.map_some, Option.bind_some, M.ite_eq_null]

/-- An indexing yields the addressed value, or null when the path addresses nothing, exactly
when the addressed value is not an empty array. -/
theorem jsonExtract_iff (left : JsonExpr) (path : PathValue) (type : ResultKind)
    (hpaths : ∀ p ∈ left.paths ++ [path], M.Filters p) :
  (jsonExtract left.compile (pathProcessor path) type false).eval M document
      = (document.bind fun v => v.at? (left.elements ++ path.elements)).bind
          (M.addressedText type)
    ↔ ∀ v, (document.bind fun v => v.at? (left.elements ++ path.elements)) = some v →
        ¬ v.isEmptyArray
  := by
  have hcast : (jsonExtract left.compile (pathProcessor path) type false).eval M document
      = (extract left.compile (pathProcessor path) type).eval M document := by
    rw [jsonExtract]
    split <;> rfl
  rw [hcast, eval_extract M document left path type hpaths]
  cases document.bind fun v => v.at? (left.elements ++ path.elements) with
  | none => simp
  | some v =>
      rw [Option.filter_some, Option.bind_some]
      cases hempty : v.isEmptyArray with
      | false => simp [hempty]
      | true =>
          obtain ⟨s, hs⟩ := M.exists_addressedText hempty type
          simp [hempty, hs]

end

/-! ### Compact texts -/

/-- A string in quotes, with the quotes and backslashes in it escaped. -/
def quotedChars (s : String) : List Char :=
  '"' :: ((s.toList.flatMap fun c => if c = '"' ∨ c = '\\' then ['\\', c] else [c]) ++ ['"'])

/-- A number with its exponent, if that is not zero. -/
def numberChars (mantissa exponent : Int) : List Char :=
  intDigits mantissa ++ if exponent = 0 then [] else 'e' :: intDigits exponent

/-- The text of a JSON value, without white space. -/
def Json.chars : Json → List Char
  | .null => ['n', 'u', 'l', 'l']
  | .bool true => ['t', 'r', 'u', 'e']
  | .bool false => ['f', 'a', 'l', 's', 'e']
  | .number mantissa exponent => numberChars mantissa exponent
  | .string s => quotedChars s
  | .array _ items => '[' :: ([','].intercalate (List.ofFn fun i => (items i).chars) ++ [']'])
  | .object names _ values =>
      '{' :: ([','].intercalate (List.ofFn fun i => quotedChars names[i] ++ ':' :: (values i).chars)
        ++ ['}'])

theorem notMem_numberChars {c : Char} (hdigit : ¬ c.isDigit) (hsign : c ≠ '-') (hexp : c ≠ 'e')
    (mantissa exponent : Int) :
  c ∉ numberChars mantissa exponent
  := by
  rw [numberChars, List.mem_append, not_or]
  refine ⟨notMem_intDigits hdigit hsign mantissa, ?_⟩
  split_ifs
  · apply List.not_mem_nil
  · rw [List.mem_cons, not_or]
    exact ⟨hexp, notMem_intDigits hdigit hsign exponent⟩

theorem intDigits_ne_nil (i : Int) :
  intDigits i ≠ []
  := by
  cases i with
  | ofNat n => apply Nat.toDigits_ne_nil
  | negSucc n => apply List.cons_ne_nil

theorem Json.chars_ne_nil (v : Json) :
  v.chars ≠ []
  := by
  cases v with
  | number mantissa exponent =>
      rw [chars, numberChars]
      apply List.append_ne_nil_of_left_ne_nil
      apply intDigits_ne_nil
  | bool b => cases b <;> apply List.cons_ne_nil
  | _ => apply List.cons_ne_nil

/-- Only the empty array is written `[]`. -/
theorem Json.chars_eq_brackets_iff (v : Json) :
  v.chars = ['[', ']'] ↔ v.isEmptyArray
  := by
  cases v with
  | null => decide
  | bool b => cases b <;> decide
  | number mantissa exponent =>
      have hbracket := notMem_numberChars (c := '[') (by decide) (by decide) (by decide)
        mantissa exponent
      constructor
      · intro h
        rw [chars] at h
        rw [h] at hbracket
        exact absurd List.mem_cons_self hbracket
      · rintro ⟨⟩
  | string s => simp [chars, quotedChars, isEmptyArray]
  | object names distinct values => simp [chars, isEmptyArray]
  | array length items =>
      cases length with
      | zero => simp [chars, isEmptyArray]
      | succ n =>
          have hitem := List.length_pos_iff.mpr (items 0).chars_ne_nil
          constructor
          · intro h
            have hlength := congrArg List.length h
            simp only [chars, List.ofFn_succ, intercalate_cons, List.length_cons,
              List.length_append, List.length_nil] at hlength
            omega
          · rintro ⟨⟩

/-- Only JSON null is written `null`. -/
theorem Json.chars_eq_null_iff (v : Json) :
  v.chars = ['n', 'u', 'l', 'l'] ↔ v = .null
  := by
  cases v with
  | null => simp [chars]
  | bool b => cases b <;> simp [chars]
  | number mantissa exponent =>
      have hletter := notMem_numberChars (c := 'n') (by decide) (by decide) (by decide)
        mantissa exponent
      constructor
      · intro h
        rw [chars] at h
        rw [h] at hletter
        exact absurd List.mem_cons_self hletter
      · rintro ⟨⟩
  | string s => simp [chars, quotedChars]
  | object names distinct values => simp [chars]
  | array length items => simp [chars]

/-- The JSON functions on compact texts, with the largest grammar of paths. -/
def compactJson : MonetJson where
  text v := String.ofList v.chars
  filter v path := ((PathGrammar.anyKey.parse path).bind v.at?).getD .emptyArray
  jsonText v := (v.scalar? fun w => String.ofList w.chars).getD (String.ofList v.chars)
  text_eq_brackets v := by
    rw [← v.chars_eq_brackets_iff, ← String.toList_inj, String.toList_ofList]
    rfl
  text_eq_null v := by
    rw [← v.chars_eq_null_iff, ← String.toList_inj, String.toList_ofList]
    rfl
  jsonText_scalar v s h := by rw [h, Option.getD_some]

/-- Paths that are rendered faithfully are read as they are meant. -/
theorem compactJson_filters {path : PathValue} (h : PathGrammar.anyKey.Renders path) :
  compactJson.Filters path
  := by
  intro v
  simp only [compactJson, h.parse_eq, Option.bind_some]

/-- A document with an object in an object. -/
def nestedDocument : Json :=
  .object ["sub"] (by decide) fun _ => .object ["k"] (by decide) fun _ => .string "v"

/-- Nested keys, unwrapped by an accessor. -/
theorem jsonExtract_nested :
  (jsonExtract (JsonExpr.getitem .column (.single (.key "sub"))).compile
      (pathProcessor (.single (.key "k"))) .scalar false).eval compactJson (some nestedDocument)
    = some "v"
  := by
  have hiff := jsonExtract_iff compactJson (some nestedDocument)
    (.getitem .column (.single (.key "sub"))) (.single (.key "k")) .scalar (by
      intro p hp
      apply compactJson_filters
      rcases List.mem_cons.mp hp with rfl | hp
      · exact PathGrammar.renders_key (by decide) (by decide)
      · rcases List.mem_singleton.mp hp with rfl
        exact PathGrammar.renders_key (by decide) (by decide))
  apply (hiff.mpr _).trans
  · rfl
  · intro v hv
    cases hv
    decide

/-- An empty array that a path addresses is taken for a miss. -/
theorem jsonExtract_emptyArray :
  let document := Json.object ["a"] (by decide) fun _ => .emptyArray
  let path := PathValue.single (.key "a")
  compactJson.Filters path
    ∧ (jsonExtract .column (pathProcessor path) .json false).eval compactJson (some document) = none
    ∧ (document.at? path.elements).bind (compactJson.addressedText .json) = some "[]"
  := by
  intro document path
  refine ⟨?_, by decide +kernel, by decide +kernel⟩
  apply compactJson_filters
  exact PathGrammar.renders_key (by decide) (by decide)

end MonetDB
