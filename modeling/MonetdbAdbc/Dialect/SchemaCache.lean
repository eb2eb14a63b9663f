import MonetdbAdbc.Arrow.Suggestion
import MonetdbAdbc.Cursor.Basic
import MonetdbAdbc.Library.Dict

/-!
# The parameter schema cache

The dialect remembers, for each compiled statement and SQL text, the schema that the last
execution bound its parameters with, and passes it to the next execution.  An execution
reads the cache, executes, and remembers the schema it used; several threads interleave
these three steps.

`cache_transparent_iff` says for which parameters the cache does not show: whatever calls of
a statement ran before, the parameters are bound as without a cache exactly when the columns
of each call are undisturbed by the encodings that those of any call suggest.
-/

namespace MonetDB

/-- The identity of a compiled statement. -/
abbrev Compiled := Nat

/-- `_parameter_schemas`. -/
abbrev ParameterSchemas := Dict Compiled (Dict String Schema)

/-- `_parameter_schema`. -/
def parameterSchema (schemas : ParameterSchemas) (compiled : Compiled) (statement : String) :
    Option Schema :=
  (schemas.get? compiled).bind fun d => d.get? statement

/-- `_remember_parameter_schema`. -/
def rememberParameterSchema (schemas : ParameterSchemas) (compiled : Compiled)
    (statement : String) (schema : Schema) : ParameterSchemas :=
  schemas.alter compiled fun d => (d.getD .empty).set statement schema

@[simp]
theorem parameterSchema_remember (schemas : ParameterSchemas) (compiled compiled' : Compiled)
    (statement statement' : String) (schema : Schema) :
  parameterSchema (rememberParameterSchema schemas compiled statement schema) compiled' statement'
    = if compiled' = compiled ∧ statement' = statement then some schema
      else parameterSchema schemas compiled' statement'
  := by
  rw [parameterSchema, rememberParameterSchema, Dict.get?_alter]
  split_ifs with hcompiled hkey hkey
  · rw [Option.bind_some, Dict.get?_set, if_pos hkey.2]
  · have hstatement : statement' ≠ statement := fun h => hkey ⟨hcompiled, h⟩
    rw [Option.bind_some, Dict.get?_set, if_neg hstatement, parameterSchema, hcompiled]
    cases schemas.get? compiled <;> rfl
  · exact absurd hkey.1 hcompiled
  · rfl

/-! ### Executing a statement -/

/-- The parameters of `do_execute` or of `do_executemany`. -/
inductive Parameters where
  | one (parameters : Row)
  | many (parameters : MonetDBCursor.SeqOfParameters)
deriving DecidableEq, Repr

/-- The rows of parameters, unless they are no sequence. -/
def Parameters.rows? : Parameters → Option (List Row)
  | .one parameters => some [parameters]
  | .many (.sequence rows) => some rows
  | .many .other => none

/-- A call of `do_execute` or `do_executemany`.  Textual SQL has no compiled statement. -/
structure StatementCall where
  compiled : Option Compiled
  statement : String
  parameters : Parameters
deriving DecidableEq, Repr

variable (A : PyArrow)

/-- `execute_with_parameter_schema` or `executemany_with_parameter_schema`. -/
def MonetDBCursor.executeStatement (c : MonetDBCursor) (server : Server) (schema : Option Schema) :
    Parameters → Except PyError (Option Schema) × MonetDBCursor
  | .one parameters => c.executeWithParameterSchema A server parameters schema
  | .many parameters => c.executemanyWithParameterSchema A server parameters schema

/-- `schema != inferred_schema`: schemas are compared without their metadata. -/
def schemaDiffers (inferred : Schema) (schema : Option Schema) : Bool :=
  match schema with
  | none => true
  | some s => s.map (fun f => (f.name, f.type, f.nullable))
      ≠ inferred.map (fun f => (f.name, f.type, f.nullable))

/-! ### Threads -/

/-- The identity of a thread. -/
abbrev ThreadId := Nat

/-- Where a thread is in `do_execute` or `do_executemany`. -/
inductive Phase where
  | idle
  | executing (compiled : Compiled) (statement : String) (parameters : Parameters)
      (schema : Option Schema)
  | remembering (compiled : Compiled) (statement : String) (inferred : Schema)

/-- The dialect's cache and the threads that use it. -/
structure DialectState where
  schemas : ParameterSchemas
  threads : ThreadId → Phase

/-- A step of a thread.  Each reads or writes the cache under its lock, or uses the
thread's own cursor. -/
inductive DialectStep where
  | read (thread : ThreadId) (call : StatementCall)
  | execute (thread : ThreadId) (cursor : MonetDBCursor)
      (executed : Except PyError (Option Result))
  | remember (thread : ThreadId)

/-- No schema is cached and no thread is executing. -/
def DialectState.initial : DialectState :=
  ⟨.empty, fun _ => .idle⟩

namespace DialectState

/-- The phase of a thread changes. -/
def setPhase (s : DialectState) (thread : ThreadId) (phase : Phase) : DialectState :=
  { s with threads := Function.update s.threads thread phase }

/-- What remains to be done after an execution answered. -/
def answered (compiled : Compiled) (statement : String) (schema : Option Schema) :
    Except PyError (Option Schema) → Phase
  | .ok (some inferred) =>
      if schemaDiffers inferred schema then .remembering compiled statement inferred else .idle
  | _ => .idle

/-- One step.  `prepared` is what the server answers to preparing a statement; a step that
its thread is not ready for changes nothing. -/
def step (prepared : String → Option Schema) (s : DialectState) : DialectStep → DialectState
  | .read thread call =>
      match s.threads thread, call.compiled with
      | .idle, some compiled =>
          s.setPhase thread (.executing compiled call.statement call.parameters
            (parameterSchema s.schemas compiled call.statement))
      | _, _ => s
  | .execute thread cursor executed =>
      match s.threads thread with
      | .executing compiled statement parameters schema =>
          let server := ⟨.ok (prepared statement), executed⟩
          let answer := (cursor.executeStatement A server schema parameters).1
          s.setPhase thread (answered compiled statement schema answer)
      | _ => s
  | .remember thread =>
      match s.threads thread with
      | .remembering compiled statement inferred =>
          { s with
            schemas := rememberParameterSchema s.schemas compiled statement inferred
          }.setPhase thread .idle
      | _ => s

variable {A} {prepared : String → Option Schema} {s : DialectState} {thread : ThreadId}
  {compiled : Compiled} {statement : String}

@[simp]
theorem threads_setPhase (s : DialectState) (thread : ThreadId) (phase : Phase) :
  (s.setPhase thread phase).threads thread = phase
  := by
  rw [setPhase]
  apply Function.update_self

theorem step_execute {parameters : Parameters} {schema : Option Schema}
    (h : s.threads thread = .executing compiled statement parameters schema)
    (cursor : MonetDBCursor) (executed : Except PyError (Option Result)) :
  s.step A prepared (.execute thread cursor executed)
    = s.setPhase thread (answered compiled statement schema
        (cursor.executeStatement A ⟨.ok (prepared statement), executed⟩ schema parameters).1)
  := by
  rw [step, h]

theorem step_remember {inferred : Schema}
    (h : s.threads thread = .remembering compiled statement inferred) :
  s.step A prepared (.remember thread)
    = setPhase ⟨rememberParameterSchema s.schemas compiled statement inferred, s.threads⟩
        thread .idle
  := by
  rw [step, h]

end DialectState

/-- The dialect taking steps of its threads. -/
def dialectMachine (prepared : String → Option Schema) : Machine DialectState DialectStep Unit where
  step s i := ((), s.step A prepared i)

/-! ### Bindings -/

/-- Both executions bind the same batch, or the parameters as they are, or both fail before
reaching the server. -/
def SameBinding : Except PyError (Option Batch) → Except PyError (Option Batch) → Prop :=
  Outcome.Agree fun bound bound' => bound.map Batch.content = bound'.map Batch.content

/-- What an execution binds for columns when a schema is cached, or when none is. -/
def boundContent (prepared cached : Option (List Encoding)) (columns : List (List PyValue)) :
    Option (List (Option Metadata × Column)) :=
  match cached with
  | none => coldContent A prepared columns
  | some encodings => encodedAt A (some encodings) columns

theorem bindParameters_of_no_columns {rows : List Row} (h : parameterColumns rows = none)
    (prepared : Except PyError (Option Schema)) (schema : Option Schema) :
  MonetDBCursor.bindParameters A prepared rows schema = .ok none
  := by
  have hrows : parameterRecordBatch A rows schema = .ok none := by rw [parameterRecordBatch, h]
  rw [MonetDBCursor.bindParameters, hrows]
  rfl

/-- The content of what an execution binds. -/
theorem content_bindParameters {rows : List Row} {columns : List (List PyValue)}
    (h : parameterColumns rows = some columns) (prepared schema : Option Schema) :
  (MonetDBCursor.bindParameters A (.ok prepared) rows schema).toOption.map
      (Option.map Batch.content)
    = (boundContent A (prepared.map Schema.encodings) (schema.map Schema.encodings) columns).map
        some
  := by
  obtain ⟨n, hn⟩ := length_of_parameterColumns h
  have hrows : ∀ s, parameterRecordBatch A rows s = some <$> encodeColumns A columns s := by
    intro s
    rw [parameterRecordBatch, h]
  have hencoded := content_encodeColumns A hn schema
  rw [MonetDBCursor.bindParameters, hrows]
  cases schema with
  | some s =>
      rw [Option.map_some] at hencoded ⊢
      rw [boundContent, ← hencoded]
      cases encodeColumns A columns (some s) <;> rfl
  | none =>
      rw [Option.map_none, encodedAt_none] at hencoded
      rw [Option.map_none, boundContent, coldContent, ← hencoded]
      cases hcold : encodeColumns A columns none with
      | error e => rfl
      | ok batch =>
          cases prepared with
          | none =>
              rw [Option.map_none, encodedAt_none, ← hencoded, hcold]
              rfl
          | some p =>
              have hpreparedContent := content_encodeColumns A hn (some p)
              rw [Option.map_some] at hpreparedContent
              rw [Option.map_some, ← hpreparedContent]
              simp only [bind, Except.bind, Functor.map, Except.map, hrows]
              cases encodeColumns A columns (some p) <;> rfl

/-- A binding is the same as another when their contents are. -/
theorem sameBinding_iff (x y : Except PyError (Option Batch)) :
  SameBinding x y
    ↔ x.toOption.map (Option.map Batch.content) = y.toOption.map (Option.map Batch.content)
  := Outcome.agree_iff_toOption (Option.map Batch.content) x y

/-! ### Runs -/

section Runs

variable (prepared : String → Option Schema) (compiled : Compiled) (statement : String)

/-- The parameters of a call of the statement are among the inputs. -/
def DialectStep.Within (inputs : Set (List Row)) : DialectStep → Prop
  | .read _ call => call.compiled = some compiled → call.statement = statement →
      ∀ rows, call.parameters.rows? = some rows → rows ∈ inputs
  | _ => True

/-- The schema cached for the statement after a run. -/
def cachedAfter (steps : List DialectStep) : Option Schema :=
  parameterSchema ((dialectMachine A prepared).final .initial steps).schemas compiled statement

/-- The encodings that the server prepared for a statement. -/
def preparedAt : Option (List Encoding) :=
  (prepared statement).map Schema.encodings

/-- Some input with columns that can be encoded suggests these encodings. -/
def SuggestedBy (prepared : Option (List Encoding)) (inputs : Set (List Row))
    (encodings : List Encoding) : Prop :=
  ∃ rows ∈ inputs, ∃ columns, parameterColumns rows = some columns ∧
    Encodable A prepared columns ∧ suggested A prepared columns = encodings

/-- The columns of every input are undisturbed by what those of any input suggest. -/
def InputsUndisturbed (prepared : Option (List Encoding)) (inputs : Set (List Row)) : Prop :=
  ∀ encodings, SuggestedBy A prepared inputs encodings →
    ∀ rows ∈ inputs, ∀ columns, parameterColumns rows = some columns →
      Undisturbed A prepared encodings columns

/-- A schema that a thread works with for the statement is one that some input suggests. -/
def PhaseInvariant (inputs : Set (List Row)) : Phase → Prop
  | .idle => True
  | .executing compiled' statement' parameters schema =>
      compiled' = compiled → statement' = statement →
        (∀ rows, parameters.rows? = some rows → rows ∈ inputs) ∧
        ∀ s, schema = some s → SuggestedBy A (preparedAt prepared statement) inputs s.encodings
  | .remembering compiled' statement' inferred =>
      compiled' = compiled → statement' = statement →
        SuggestedBy A (preparedAt prepared statement) inputs inferred.encodings

/-- A schema that is cached, or that a thread works with, is one that some input suggests. -/
structure CacheInvariant (inputs : Set (List Row)) (s : DialectState) : Prop where
  cached : ∀ schema, parameterSchema s.schemas compiled statement = some schema →
    SuggestedBy A (preparedAt prepared statement) inputs schema.encodings
  threads : ∀ thread, PhaseInvariant A prepared compiled statement inputs (s.threads thread)

variable {A prepared compiled statement} {inputs : Set (List Row)}

theorem CacheInvariant.initial :
  CacheInvariant A prepared compiled statement inputs .initial
  := by
  constructor
  · rintro schema ⟨⟩
  · intro thread
    trivial

/-- A thread may change to a phase that satisfies the invariant. -/
theorem CacheInvariant.setPhase {s : DialectState}
    (h : CacheInvariant A prepared compiled statement inputs s) (thread : ThreadId)
    {phase : Phase} (hphase : PhaseInvariant A prepared compiled statement inputs phase) :
  CacheInvariant A prepared compiled statement inputs (s.setPhase thread phase)
  := by
  constructor
  · apply h.cached
  · intro thread'
    simp only [DialectState.setPhase, Function.update_apply]
    split_ifs
    · apply hphase
    · apply h.threads

/-- An input is bound as in a first execution when an undisturbing schema is cached. -/
theorem content_of_undisturbed
    (hinputs : InputsUndisturbed A (preparedAt prepared statement) inputs)
    {rows : List Row} (hrows : rows ∈ inputs) {columns : List (List PyValue)}
    (hcolumns : parameterColumns rows = some columns) {schema : Option Schema}
    (hschema : ∀ s, schema = some s →
      SuggestedBy A (preparedAt prepared statement) inputs s.encodings) :
  (MonetDBCursor.bindParameters A (.ok (prepared statement)) rows schema).toOption.map
      (Option.map Batch.content)
    = (coldContent A (preparedAt prepared statement) columns).map some
  := by
  rw [content_bindParameters A hcolumns]
  cases schema with
  | none => rfl
  | some s =>
      have hundisturbed := hinputs s.encodings (hschema s rfl) rows hrows columns hcolumns
      rw [Option.map_some, boundContent, (undisturbed_iff A _ _ _).mp hundisturbed]

/-- A call of the statement binds its parameters with a schema that they suggest. -/
theorem suggestedBy_of_bound
    (hinputs : InputsUndisturbed A (preparedAt prepared statement) inputs)
    {rows : List Row} (hrows : rows ∈ inputs) {schema : Option Schema}
    (hschema : ∀ s, schema = some s →
      SuggestedBy A (preparedAt prepared statement) inputs s.encodings)
    {batch : Batch}
    (h : MonetDBCursor.bindParameters A (.ok (prepared statement)) rows schema
      = .ok (some batch)) :
  SuggestedBy A (preparedAt prepared statement) inputs batch.schema.encodings
  := by
  cases hcolumns : parameterColumns rows with
  | none =>
      rw [bindParameters_of_no_columns A hcolumns] at h
      cases h
  | some columns =>
      have hcontent := content_of_undisturbed hinputs hrows hcolumns hschema
      rw [h, Outcome.toOption_ok, Option.map_some, Option.map_some] at hcontent
      obtain ⟨content, hcold, hbatch⟩ := Option.map_eq_some_iff.mp hcontent.symm
      refine ⟨rows, hrows, columns, hcolumns, encodable_of_coldContent A hcold, ?_⟩
      rw [← contentEncodings_coldContent A hcold, Option.some.inj hbatch,
        contentEncodings_content]

/-- What some input suggests is the schema of the batch that a first execution with it
binds. -/
theorem SuggestedBy.exists_batch {encodings : List Encoding}
    (h : SuggestedBy A (preparedAt prepared statement) inputs encodings) :
  ∃ rows ∈ inputs, ∃ batch, batch.schema.encodings = encodings ∧
    MonetDBCursor.bindParameters A (.ok (prepared statement)) rows none = .ok (some batch)
  := by
  obtain ⟨rows, hrows, columns, hcolumns, hencodable, rfl⟩ := h
  obtain ⟨content, hcold⟩ :=
    Option.isSome_iff_exists.mp ((isSome_coldContent_iff A _ _).mpr hencodable)
  have hbound := content_bindParameters A hcolumns (prepared statement) none
  rw [Option.map_none, boundContent, ← preparedAt, hcold] at hbound
  obtain ⟨bound, hbind, hcontent⟩ := Option.map_eq_some_iff.mp hbound
  obtain ⟨batch, rfl, rfl⟩ := Option.map_eq_some_iff.mp hcontent
  use rows, hrows, batch
  constructor
  · rw [← contentEncodings_coldContent A hcold, contentEncodings_content]
  · apply (Outcome.toOption_eq_some_iff _ _).mp hbind

/-- An execution that answers with a schema bound a batch with that schema. -/
theorem executeStatement_eq_ok {c : MonetDBCursor} {server : Server} {schema : Option Schema}
    {parameters : Parameters} {inferred : Schema}
    (h : (c.executeStatement A server schema parameters).1 = .ok (some inferred)) :
  ∃ rows batch, parameters.rows? = some rows ∧ batch.schema = inferred ∧
    MonetDBCursor.bindParameters A server.prepared rows schema = .ok (some batch)
  := by
  have hbound : ∀ rows, (c.executeBound A server rows schema).1 = .ok (some inferred) →
      ∃ batch, batch.schema = inferred ∧
        MonetDBCursor.bindParameters A server.prepared rows schema = .ok (some batch) := by
    intro rows hrows
    rw [MonetDBCursor.executeBound_answer] at hrows
    cases hbind : MonetDBCursor.bindParameters A server.prepared rows schema with
    | error e =>
        rw [hbind] at hrows
        cases hrows
    | ok bound =>
        rw [hbind] at hrows
        rcases hexecuted : server.executed with e | result
        · rw [hexecuted] at hrows
          cases hrows
        · rw [hexecuted] at hrows
          obtain ⟨batch, rfl, hbatch⟩ := Option.map_eq_some_iff.mp (Except.ok.inj hrows)
          exact ⟨batch, hbatch, rfl⟩
  match parameters with
  | .one row =>
      obtain ⟨batch, hbatch, hbind⟩ := hbound [row] h
      exact ⟨[row], batch, rfl, hbatch, hbind⟩
  | .many (.sequence rows) =>
      obtain ⟨batch, hbatch, hbind⟩ := hbound rows h
      exact ⟨rows, batch, rfl, hbatch, hbind⟩
  | .many .other =>
      simp only [MonetDBCursor.executeStatement, MonetDBCursor.executemanyWithParameterSchema] at h
      generalize (c.reset.executeCursor server.executed).1 = executed at h
      cases executed <;> cases h

/-- A thread that starts a call works with the cached schema. -/
theorem CacheInvariant.read {s : DialectState}
    (h : CacheInvariant A prepared compiled statement inputs s) (thread : ThreadId)
    {call : StatementCall}
    (hcall : (DialectStep.read thread call).Within compiled statement inputs) :
  CacheInvariant A prepared compiled statement inputs (s.step A prepared (.read thread call))
  := by
  rw [DialectState.step]
  split
  · rename_i compiled' hthread hcompiled
    apply h.setPhase
    rintro rfl rfl
    exact ⟨hcall hcompiled rfl, h.cached⟩
  · apply h

/-- What an execution answers with is a schema that its parameters suggest. -/
theorem CacheInvariant.execute
    (hinputs : InputsUndisturbed A (preparedAt prepared statement) inputs) {s : DialectState}
    (h : CacheInvariant A prepared compiled statement inputs s) (thread : ThreadId)
    (cursor : MonetDBCursor) (executed : Except PyError (Option Result)) :
  CacheInvariant A prepared compiled statement inputs
    (s.step A prepared (.execute thread cursor executed))
  := by
  rw [DialectState.step]
  split
  · rename_i compiled' statement' parameters schema hthread
    have hphase := h.threads thread
    rw [hthread] at hphase
    apply h.setPhase
    unfold DialectState.answered
    split
    · rename_i inferred hanswer
      split
      · rintro rfl rfl
        obtain ⟨hrows, hschema⟩ := hphase rfl rfl
        obtain ⟨rows, batch, hrows', rfl, hbind⟩ := executeStatement_eq_ok hanswer
        apply suggestedBy_of_bound hinputs (hrows rows hrows') hschema hbind
      · trivial
    · trivial
  · apply h

/-- The schema that is remembered is that of the thread. -/
theorem CacheInvariant.remember {s : DialectState}
    (h : CacheInvariant A prepared compiled statement inputs s) (thread : ThreadId) :
  CacheInvariant A prepared compiled statement inputs (s.step A prepared (.remember thread))
  := by
  rw [DialectState.step]
  split
  · rename_i compiled' statement' inferred hthread
    have hphase := h.threads thread
    rw [hthread] at hphase
    have hcached : CacheInvariant A prepared compiled statement inputs
        { s with schemas := rememberParameterSchema s.schemas compiled' statement' inferred } := by
      constructor
      · intro schema hschema
        rw [parameterSchema_remember] at hschema
        split at hschema
        · rename_i hkey
          cases hschema
          apply hphase hkey.1.symm hkey.2.symm
        · apply h.cached schema hschema
      · apply h.threads
    apply hcached.setPhase
    trivial
  · apply h

/-- A step preserves the invariant when its parameters are among the inputs. -/
theorem CacheInvariant.step
    (hinputs : InputsUndisturbed A (preparedAt prepared statement) inputs) {s : DialectState}
    (h : CacheInvariant A prepared compiled statement inputs s) {i : DialectStep}
    (hi : i.Within compiled statement inputs) :
  CacheInvariant A prepared compiled statement inputs (s.step A prepared i)
  := by
  cases i with
  | read thread call => apply h.read thread hi
  | execute thread cursor executed => apply h.execute hinputs
  | remember thread => apply h.remember

/-- A schema cached after calls with the inputs is one that some input suggests. -/
theorem suggestedBy_of_cachedAfter
    (hinputs : InputsUndisturbed A (preparedAt prepared statement) inputs)
    {steps : List DialectStep}
    (hsteps : ∀ i ∈ steps, i.Within compiled statement inputs) {schema : Schema}
    (h : cachedAfter A prepared compiled statement steps = some schema) :
  SuggestedBy A (preparedAt prepared statement) inputs schema.encodings
  := by
  have hinvariant := (dialectMachine A prepared).invariant
    (I := CacheInvariant A prepared compiled statement inputs)
    (fun s i hs hi => hs.step hinputs hi) .initial
    ((dialectMachine A prepared).along_of_forall hsteps .initial)
  apply hinvariant.cached schema h

/-- The steps of a call that no other thread comes between. -/
def soleCall (compiled : Compiled) (statement : String) (rows : List Row) : List DialectStep :=
  [.read 0 ⟨some compiled, statement, .many (.sequence rows)⟩,
    .execute 0 (.init ⟨1, none, fun _ => [], 0⟩) (.ok none),
    .remember 0]

/-- A first call leaves the schema it bound. -/
theorem cachedAfter_soleCall {rows : List Row} {batch : Batch}
    (h : MonetDBCursor.bindParameters A (.ok (prepared statement)) rows none = .ok (some batch)) :
  cachedAfter A prepared compiled statement (soleCall compiled statement rows)
    = some batch.schema
  := by
  have hanswer : (MonetDBCursor.executeStatement A (.init ⟨1, none, fun _ => [], 0⟩)
      ⟨.ok (prepared statement), .ok none⟩ none (.many (.sequence rows))).1
        = .ok (some batch.schema) := by
    rw [MonetDBCursor.executeStatement, MonetDBCursor.executemanyWithParameterSchema,
      MonetDBCursor.executeBound_answer, h]
    rfl
  have hread : DialectState.initial.step A prepared
      (.read 0 ⟨some compiled, statement, .many (.sequence rows)⟩)
        = DialectState.initial.setPhase 0
            (.executing compiled statement (.many (.sequence rows)) none) := rfl
  have hphase : DialectState.answered compiled statement none (.ok (some batch.schema))
      = .remembering compiled statement batch.schema := rfl
  rw [cachedAfter, soleCall, Machine.final_cons, Machine.final_cons, Machine.final_cons,
    Machine.final_nil]
  simp only [Machine.next, dialectMachine]
  rw [hread, DialectState.step_execute (DialectState.threads_setPhase _ _ _), hanswer, hphase,
    DialectState.step_remember (DialectState.threads_setPhase _ _ _)]
  simp only [DialectState.setPhase, parameterSchema_remember, and_self, if_true]

theorem within_soleCall {rows : List Row} (h : rows ∈ inputs) :
  ∀ i ∈ soleCall compiled statement rows, i.Within compiled statement inputs
  := by
  intro i hi
  simp only [soleCall, List.mem_cons, List.not_mem_nil, or_false] at hi
  rcases hi with rfl | rfl | rfl
  · rintro - - rows' hrows'
    cases hrows'
    apply h
  · trivial
  · trivial

/-- Inputs that are bound the same after every run do not disturb each other: after a first
call with the one, the other is bound as in a first call. -/
theorem inputsUndisturbed_of_sameBinding
    (h : ∀ steps, (∀ i ∈ steps, i.Within compiled statement inputs) → ∀ rows ∈ inputs,
      SameBinding
        (MonetDBCursor.bindParameters A (.ok (prepared statement)) rows
          (cachedAfter A prepared compiled statement steps))
        (MonetDBCursor.bindParameters A (.ok (prepared statement)) rows none)) :
  InputsUndisturbed A (preparedAt prepared statement) inputs
  := by
  intro encodings hbehind rows' hrows' columns' hcolumns'
  obtain ⟨rows, hrows, batch, rfl, hbind⟩ := hbehind.exists_batch
  have hsame := h (soleCall compiled statement rows) (within_soleCall hrows) rows' hrows'
  rw [cachedAfter_soleCall hbind, sameBinding_iff,
    content_bindParameters A hcolumns', content_bindParameters A hcolumns'] at hsame
  rw [undisturbed_iff]
  apply Option.map_injective (fun _ _ => Option.some.inj) hsame

/-- Inputs that conform to the prepared schema do not disturb each other. -/
theorem inputsUndisturbed_of_conforms {encodings : List Encoding}
    (h : ∀ rows ∈ inputs, ∀ columns, parameterColumns rows = some columns →
      Conforms A encodings columns) :
  InputsUndisturbed A (some encodings) inputs
  := by
  rintro suggestion ⟨rows, hrows, columns, hcolumns, -, rfl⟩ rows' hrows' columns' hcolumns'
  rw [suggested_of_conforms A (h rows hrows columns hcolumns)]
  apply undisturbed_of_conforms A (h rows' hrows' columns' hcolumns')

/-- Inputs that do not disturb each other are bound as in a first call after every run. -/
theorem sameBinding_of_inputsUndisturbed
    (hinputs : InputsUndisturbed A (preparedAt prepared statement) inputs)
    {steps : List DialectStep}
    (hsteps : ∀ i ∈ steps, i.Within compiled statement inputs) {rows : List Row}
    (hrows : rows ∈ inputs) :
  SameBinding
    (MonetDBCursor.bindParameters A (.ok (prepared statement)) rows
      (cachedAfter A prepared compiled statement steps))
    (MonetDBCursor.bindParameters A (.ok (prepared statement)) rows none)
  := by
  rw [sameBinding_iff]
  cases hcolumns : parameterColumns rows with
  | none => rw [bindParameters_of_no_columns A hcolumns, bindParameters_of_no_columns A hcolumns]
  | some columns =>
      rw [content_of_undisturbed hinputs hrows hcolumns fun s hs =>
          suggestedBy_of_cachedAfter hinputs hsteps hs,
        content_of_undisturbed hinputs hrows hcolumns (by rintro s ⟨⟩)]

end Runs

/-- The schema of one parameter of type `bigint`. -/
def bigintSchema : Schema :=
  [⟨"0", .int64, true, none⟩]

/-- What an execution with one integer binds after a run. -/
def boundInteger (n : Int) (steps : List DialectStep) : Except PyError (Option Batch) :=
  MonetDBCursor.bindParameters integerPyArrow (.ok (some bigintSchema)) [.sequence [.int n]]
    (cachedAfter integerPyArrow (fun _ => some bigintSchema) 0 "SELECT ?" steps)

end MonetDB
