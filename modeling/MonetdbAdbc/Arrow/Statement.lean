import MonetdbAdbc.Arrow.Basic

/-!
# Statements of the Arrow helpers

`compileArrowStatement` compiles a statement and binds its values outside of SQLAlchemy's
execution.  `executeOnce` is what SQLAlchemy does when the statement is executed without
parameters on the same connection.  Both yield SQL text with the values of its placeholders.

They agree exactly when no map of the statement's own changes its schema names on a connection
without one and the values that SQLAlchemy fills in for columns with a default in Python are
bound as null is (`compileArrowStatement_eq_iff`).
-/

namespace MonetDB

/-! ### What SQLAlchemy contributes -/

/-- A `schema_translate_map`; `None` and the empty map are not told apart. -/
abbrev SchemaTranslateMap := List (Option String × Option String)

/-- `ExpandedState`. -/
structure ExpandedState (V : Type) where
  statement : String
  parameters : String → V
  processors : String → Option (V → V)
  positiontup : Option (List String)

/-- A compiled statement, with values of type `V`. -/
structure CompiledStatement (V : Type) where
  /-- `construct_params`. -/
  parameters : String → V
  /-- `_bind_processors`. -/
  bindProcessors : String → Option (V → V)
  /-- The values that are filled in for the prefetch columns, under the names of their
  parameters. -/
  prefetch : String → Option V
  /-- `_process_parameters_for_postcompile`. -/
  expand : (String → V) → ExpandedState V
  /-- The parameter of a prefetch column is null. -/
  null : V
  parameters_prefetch : ∀ {name value}, prefetch name = some value → parameters name = null
  /-- A prefetch column has a placeholder. -/
  placeholder : ∀ p {name value}, prefetch name = some value →
    name ∈ (expand p).positiontup.getD []
  /-- Expansion leaves the parameters of prefetch columns as they are. -/
  expand_prefetch : ∀ p {name value}, prefetch name = some value →
    (expand p).parameters name = p name ∧ (expand p).processors name = none
  /-- Expansion depends on other parameters only. -/
  expand_congr : ∀ {p q : String → V}, (∀ name, prefetch name = none → p name = q name) →
    (expand p).statement = (expand q).statement ∧
      (expand p).positiontup = (expand q).positiontup ∧
      (expand p).processors = (expand q).processors ∧
      ∀ name, prefetch name = none → (expand p).parameters name = (expand q).parameters name

/-- A statement that can be executed. -/
structure Executable (V : Type) where
  /-- The statement's own execution option, if it has one. -/
  schemaTranslateMap : Option SchemaTranslateMap
  /-- The schema names as they are rendered by a map, in the order of the text.  Without a map
  every schema is rendered as it is. -/
  schemaNames : SchemaTranslateMap → List (Option String)
  /-- `compile`, with the schema names rendered. -/
  compile : SchemaTranslateMap → CompiledStatement V
  /-- The map matters to the compiled statement through the schema names only. -/
  compile_congr : ∀ {m m' : SchemaTranslateMap},
    schemaNames m = schemaNames m' → compile m = compile m'
  /-- The schema names stand in the text. -/
  schemaNames_eq : ∀ {m m' : SchemaTranslateMap} {p q : String → V},
    ((compile m).expand p).statement = ((compile m').expand q).statement →
      schemaNames m = schemaNames m'

/-- The execution options of a connection. -/
structure ExecutionOptions where
  schemaTranslateMap : Option SchemaTranslateMap
deriving Repr

variable {V : Type}

/-- `dict.update`. -/
def update (processors others : String → Option (V → V)) (name : String) : Option (V → V) :=
  (others name).or (processors name)

/-- `processors[name](value) if name in processors else value`. -/
def applyProcessor (processors : String → Option (V → V)) (name : String) (value : V) : V :=
  match processors name with
  | some processor => processor value
  | none => value

/-- The values of the placeholders, in order. -/
def ExpandedState.ordered (expanded : ExpandedState V) (processors : String → Option (V → V)) :
    List V :=
  (expanded.positiontup.getD []).map fun name =>
    applyProcessor (update processors expanded.processors) name (expanded.parameters name)

/-! ### The two ways to bind -/

/-- A statement for the Arrow helpers: SQL text, or a statement of SQLAlchemy. -/
inductive ArrowStatement (V : Type) where
  | text (sql : String)
  | executable (statement : Executable V)

/-- `compile_arrow_statement`. -/
def compileArrowStatement (options : ExecutionOptions) : ArrowStatement V → String × List V
  | .text sql => (sql, [])
  | .executable statement =>
      let compiled := statement.compile (options.schemaTranslateMap.getD [])
      let expanded := compiled.expand compiled.parameters
      (expanded.statement, expanded.ordered compiled.bindProcessors)

/-- The map that SQLAlchemy translates by: that of the connection, or else the statement's. -/
def effectiveMap (options : ExecutionOptions) (statement : Executable V) : SchemaTranslateMap :=
  (options.schemaTranslateMap.or statement.schemaTranslateMap).getD []

/-- `_process_execute_defaults`: the parameters with the defaults of the prefetch columns. -/
def CompiledStatement.filled (compiled : CompiledStatement V) (name : String) : V :=
  (compiled.prefetch name).getD (compiled.parameters name)

/-- What SQLAlchemy passes to the cursor for a single execution without parameters. -/
def executeOnce (options : ExecutionOptions) (statement : Executable V) : String × List V :=
  let compiled := statement.compile (effectiveMap options statement)
  let expanded := compiled.expand compiled.filled
  (expanded.statement, expanded.ordered compiled.bindProcessors)

/-! ### When they agree -/

namespace CompiledStatement

variable (compiled : CompiledStatement V)

/-- A value as it is bound for a prefetch column. -/
def bound (name : String) (value : V) : V :=
  applyProcessor compiled.bindProcessors name value

theorem filled_of_none {name : String} (h : compiled.prefetch name = none) :
  compiled.filled name = compiled.parameters name
  := by
  rw [filled, h, Option.getD_none]

theorem filled_of_some {name : String} {value : V} (h : compiled.prefetch name = some value) :
  compiled.filled name = value
  := by
  rw [filled, h, Option.getD_some]

/-- Filling in the defaults leaves the expansion of the other parameters as it is. -/
theorem expand_filled :
  (compiled.expand compiled.filled).statement = (compiled.expand compiled.parameters).statement ∧
    (compiled.expand compiled.filled).positiontup
      = (compiled.expand compiled.parameters).positiontup ∧
    (compiled.expand compiled.filled).processors
      = (compiled.expand compiled.parameters).processors ∧
    ∀ name, compiled.prefetch name = none → (compiled.expand compiled.filled).parameters name
      = (compiled.expand compiled.parameters).parameters name
  := by
  apply compiled.expand_congr
  intro name hname
  apply compiled.filled_of_none hname

/-- The value of a prefetch column is bound by the processor of its parameter. -/
theorem applyProcessor_prefetch (p : String → V) {name : String} {value : V}
    (h : compiled.prefetch name = some value) :
  applyProcessor (update compiled.bindProcessors (compiled.expand p).processors) name
      ((compiled.expand p).parameters name)
    = compiled.bound name (p name)
  := by
  obtain ⟨hparameter, hprocessor⟩ := compiled.expand_prefetch p h
  rw [bound, applyProcessor, applyProcessor, update, hparameter, hprocessor, Option.none_or]

/-- The two ways bind the same values exactly when each default is bound as null is. -/
theorem ordered_eq_iff :
  (compiled.expand compiled.parameters).ordered compiled.bindProcessors
      = (compiled.expand compiled.filled).ordered compiled.bindProcessors
    ↔ ∀ name value, compiled.prefetch name = some value →
        compiled.bound name value = compiled.bound name compiled.null
  := by
  obtain ⟨-, hpositions, hprocessors, hparameters⟩ := compiled.expand_filled
  rw [ExpandedState.ordered, ExpandedState.ordered, hpositions, List.map_inj_left]
  constructor
  · intro h name value hvalue
    have hequal := h name (compiled.placeholder _ hvalue)
    rw [compiled.applyProcessor_prefetch _ hvalue, compiled.applyProcessor_prefetch _ hvalue,
      compiled.parameters_prefetch hvalue, compiled.filled_of_some hvalue] at hequal
    apply hequal.symm
  · intro h name _
    cases hvalue : compiled.prefetch name with
    | none => rw [hprocessors, hparameters name hvalue]
    | some value =>
        rw [compiled.applyProcessor_prefetch _ hvalue, compiled.applyProcessor_prefetch _ hvalue,
          compiled.parameters_prefetch hvalue, compiled.filled_of_some hvalue,
          h name value hvalue]

end CompiledStatement

/-- The two ways go by the same map on a connection that has one, and else by none and by the
map of the statement. -/
theorem schemaNames_eq_iff (options : ExecutionOptions) (statement : Executable V) :
  statement.schemaNames (options.schemaTranslateMap.getD [])
      = statement.schemaNames (effectiveMap options statement)
    ↔ (options.schemaTranslateMap = none →
        statement.schemaNames (statement.schemaTranslateMap.getD []) = statement.schemaNames [])
  := by
  rw [effectiveMap]
  cases options.schemaTranslateMap with
  | none => simp only [Option.getD_none, Option.none_or, true_implies, eq_comm]
  | some map => simp only [Option.getD_some, Option.some_or, reduceCtorEq, false_implies]

/-- The Arrow helpers bind what SQLAlchemy's execution binds exactly when the connection has a
map or that of the statement leaves its schema names as they are, and every default that
SQLAlchemy fills in is bound as null is. -/
theorem compileArrowStatement_eq_iff (options : ExecutionOptions) (statement : Executable V) :
  let compiled := statement.compile (effectiveMap options statement)
  compileArrowStatement options (.executable statement) = executeOnce options statement
    ↔ (options.schemaTranslateMap = none →
        statement.schemaNames (statement.schemaTranslateMap.getD []) = statement.schemaNames [])
      ∧ ∀ name value, compiled.prefetch name = some value →
          compiled.bound name value = compiled.bound name compiled.null
  := by
  intro compiled
  have hsame : statement.compile (options.schemaTranslateMap.getD []) = compiled →
      (compileArrowStatement options (.executable statement) = executeOnce options statement
        ↔ ∀ name value, compiled.prefetch name = some value →
            compiled.bound name value = compiled.bound name compiled.null) := by
    intro hcompile
    rw [compileArrowStatement, executeOnce, hcompile, Prod.mk.injEq, ← compiled.ordered_eq_iff]
    apply and_iff_right
    apply compiled.expand_filled.1.symm
  rw [← schemaNames_eq_iff]
  constructor
  · intro h
    have hnames := statement.schemaNames_eq (congrArg Prod.fst h)
    exact ⟨hnames, (hsame (statement.compile_congr hnames)).mp h⟩
  · rintro ⟨hnames, hdefaults⟩
    apply (hsame (statement.compile_congr hnames)).mpr hdefaults

/-! ### An insertion with a default -/

/-- The text of an insertion into a table `items`. -/
def insertText (schema : Option String) : String :=
  "INSERT INTO " ++ (schema.elim "" fun name => name ++ ".")
    ++ "items (id, created) VALUES (?, ?)"

theorem insertText_injective {schema schema' : Option String}
    (h : insertText schema = insertText schema') :
  schema = schema'
  := by
  have hprefix : (schema.elim "" fun name => name ++ ".").toList
      = (schema'.elim "" fun name => name ++ ".").toList := by
    have hlist := congrArg String.toList h
    simp only [insertText, String.toList_append] at hlist
    apply List.append_cancel_left (List.append_cancel_right hlist)
  cases schema with
  | none =>
      cases schema' with
      | none => rfl
      | some name => simp at hprefix
  | some name =>
      cases schema' with
      | none => simp at hprefix
      | some name' =>
          simp only [Option.elim_some, String.toList_append] at hprefix
          rw [String.toList_inj.mp (List.append_cancel_right hprefix)]

/-- The compiled insertion: `id` is given, `created` has a default. -/
def compiledInsert (schema : Option String) : CompiledStatement PyValue where
  parameters name := if name = "id" then .int 1 else .none
  bindProcessors _ := none
  prefetch name := if name = "created" then some (.str "now") else none
  expand p := ⟨insertText schema, p, fun _ => none, some ["id", "created"]⟩
  null := .none
  parameters_prefetch h := by
    split at h
    · rename_i hname
      rw [hname]
      rfl
    · cases h
  placeholder _ _ _ h := by
    split at h
    · rename_i hname
      rw [hname]
      apply List.mem_cons_of_mem _ (List.mem_singleton_self _)
    · cases h
  expand_prefetch _ _ _ _ := ⟨rfl, rfl⟩
  expand_congr h := ⟨rfl, rfl, rfl, h⟩

/-- How a schema is rendered by a map when the default schema is `sys`: a schema that is mapped
to none, or to the empty name, becomes the default one. -/
def renderedSchema (map : SchemaTranslateMap) (schema : Option String) : Option String :=
  match map.lookup schema with
  | some none => some "sys"
  | some (some name) => if name = "" then some "sys" else some name
  | none => schema

/-- `insert(items).values(id=1)`, where the table is in the schema `app`. -/
def insertItem : Executable PyValue where
  schemaTranslateMap := none
  schemaNames map := [renderedSchema map (some "app")]
  compile map := compiledInsert (renderedSchema map (some "app"))
  compile_congr h := congrArg compiledInsert (List.head_eq_of_cons_eq h)
  schemaNames_eq h := congrArg (fun name => [name]) (insertText_injective h)

/-- The same statement with a map of its own. -/
def insertArchived : Executable PyValue :=
  { insertItem with schemaTranslateMap := some [(some "app", some "archive")] }

/-- The default of a column is bound as null, and the map of a statement is not applied. -/
theorem compileArrowStatement_insertItem :
  compileArrowStatement ⟨none⟩ (.executable insertItem)
      = (insertText (some "app"), [.int 1, .none])
    ∧ executeOnce ⟨none⟩ insertItem = (insertText (some "app"), [.int 1, .str "now"])
    ∧ (compileArrowStatement ⟨none⟩ (.executable insertArchived)).1 = insertText (some "app")
    ∧ (executeOnce ⟨none⟩ insertArchived).1 = insertText (some "archive")
    ∧ ¬ ∀ (options : ExecutionOptions) (statement : Executable PyValue),
        compileArrowStatement options (.executable statement) = executeOnce options statement
  := by
  have hbound : compileArrowStatement ⟨none⟩ (.executable insertItem)
      = (insertText (some "app"), [.int 1, .none]) := rfl
  have hfilled : executeOnce ⟨none⟩ insertItem
      = (insertText (some "app"), [.int 1, .str "now"]) := rfl
  refine ⟨hbound, hfilled, rfl, rfl, ?_⟩
  intro h
  have hequal := h ⟨none⟩ insertItem
  rw [hbound, hfilled] at hequal
  cases congrArg Prod.snd hequal

end MonetDB
