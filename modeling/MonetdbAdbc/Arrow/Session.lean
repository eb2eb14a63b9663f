import Mathlib.Algebra.GroupWithZero.Nat
import Mathlib.Logic.Function.Iterate
import MonetdbAdbc.Arrow.Statement
import MonetdbAdbc.Connection.Commit
import MonetdbAdbc.Dialect.Isolation
import MonetdbAdbc.Library.Effects
import MonetdbAdbc.Library.Outcome

/-!
# The Arrow helpers on a session

`fetch_arrow_table`, `open_arrow_batch_reader` and `ingest_arrow` work on the ADBC session
behind a connection of SQLAlchemy.  They begin the transaction of the connection before they
touch the session, so that its commit and its rollback reach what they wrote.  A call of the
driver may have written although it failed.

A client may call the helpers in any order, one inside the reader of another, and may catch
what they raise; an `ArrowProgram` is such a client.  `ArrowProgram.run_transaction` says that
every call it makes is made in the transaction of SQLAlchemy, that what these calls wrote is
committed or rolled back as a whole, and that every cursor it opened is closed.
-/

namespace MonetDB

/-! ### The connection -/

/-- How an ingest treats the table. -/
inductive IngestMode where
  | append
  | create
  | replace
  | createAppend
deriving DecidableEq, Repr

/-- What happens on a session, with parameters `V`, Arrow data `D` and values of options `O`. -/
inductive SessionEvent (V D O : Type) where
  | opened (options : List (String × O))
  | executed (sql : String) (parameters : List V)
  | fetched
  | ingested (tableName : String) (data : D) (mode : IngestMode) (dbSchemaName : Option String)
      (temporary : Bool)
  | closed
  /-- `table.create(connection)`: SQLAlchemy's own statements. -/
  | created (name : String) (schema : Option String)

/-- A call on a session: how often it wrote, and whether the connection of SQLAlchemy was in a
transaction. -/
structure SessionCall (V D O : Type) where
  event : SessionEvent V D O
  writes : Nat
  inTransaction : Bool

/-- `driver_connection`. -/
inductive DriverConnection where
  | monetdb (connection : MonetDBConnection)
  | other (typeName : String)
deriving DecidableEq, Repr

/-- A connection of SQLAlchemy. -/
structure SqlConnection (V D O : Type) where
  /-- `in_transaction`. -/
  inTransaction : Bool
  driver : DriverConnection
  options : ExecutionOptions
  /-- `schema_for_object`, of a table in a schema. -/
  schemaForObject : Option String → Option String
  /-- The calls on the session so far. -/
  calls : List (SessionCall V D O)

/-- The errors that the helpers raise. -/
inductive ArrowError where
  | valueError (message : String)
  | typeError (message : String)
  | driver (error : AdbcError)
  /-- SQLAlchemy raised an error of its own. -/
  | sqlalchemy (message : String)
deriving DecidableEq, Repr

/-- The session after a write. -/
def DriverConnection.write : DriverConnection → DriverConnection
  | .monetdb connection =>
      .monetdb { connection with rawConnection := connection.rawConnection.write }
  | .other typeName => .other typeName

variable {V D O R α : Type}

/-- The connection after a call on its session. -/
def SqlConnection.record (s : SqlConnection V D O) (event : SessionEvent V D O) (writes : Nat) :
    SqlConnection V D O :=
  { s with
    driver := DriverConnection.write^[writes] s.driver
    calls := s.calls ++ [⟨event, writes, s.inTransaction⟩] }

/-- What a helper does with a connection. -/
abbrev ArrowAction (V D O α : Type) := Stored (SqlConnection V D O) ArrowError α

/-! ### Cursors -/

/-- The outcome of a call of the driver, and how often it wrote; a call that fails may have
written before. -/
structure Driven (α : Type) where
  result : Except AdbcError α
  writes : Nat := 0

/-- Raise what the driver raised. -/
def ofDriver : Except AdbcError α → Except ArrowError α :=
  Except.mapError .driver

/-- A call on the session. -/
def sessionCall (event : SessionEvent V D O) (o : Driven α) : ArrowAction V D O α :=
  Stored.modify (fun s => s.record event o.writes) (ofDriver o.result)

/-- Opening a cursor. -/
def openCursor (options : List (String × O)) (outcome : Except AdbcError Unit) :
    ArrowAction V D O Unit :=
  match outcome with
  | .ok () => sessionCall (.opened options) ⟨.ok (), 0⟩
  | .error e => throw (.driver e)

/-- Closing a cursor. -/
def closeCursor (outcome : Except AdbcError Unit) : ArrowAction V D O Unit :=
  sessionCall .closed ⟨outcome, 0⟩

/-- `with adbc_connection.cursor() as cursor`. -/
def withCursor (options : List (String × O)) (opened closed : Except AdbcError Unit)
    (use : ArrowAction V D O α) : ArrowAction V D O α :=
  Stored.bracket (openCursor options opened) (fun _ => use) (fun _ => closeCursor closed)

/-! ### The helpers -/

/-- `connection.begin()`, which SQLAlchemy may refuse. -/
def begin (outcome : Except ArrowError Unit) : ArrowAction V D O Unit :=
  Stored.modify (fun s => { s with inTransaction := outcome.isOk || s.inTransaction }) outcome

/-- `raw_adbc_connection`. -/
def rawAdbcConnection (begun : Except ArrowError Unit) : ArrowAction V D O Unit := do
  if ¬ (← Stored.get).inTransaction then
    begin begun
  match (← Stored.get).driver with
  | .monetdb _ => return
  | .other typeName =>
      throw (.typeError ("expected an ADBC DB-API connection, got " ++ typeName))

/-- `_arrow_execute_parameters`. -/
def arrowExecuteParameters (statement : ArrowStatement V) (compiled : List V)
    (explicit : Option (List V)) : Except ArrowError (List V) :=
  match statement, explicit with
  | .executable _, some _ =>
      .error (.valueError
        "parameters cannot override bind values in a compiled SQLAlchemy statement")
  | _, explicit => .ok (explicit.getD compiled)

/-- The outcomes of the calls that a query makes. -/
structure QueryOutcomes (R : Type) where
  begun : Except ArrowError Unit := .ok ()
  opened : Except AdbcError Unit := .ok ()
  executed : Driven Unit
  fetched : Driven R
  closed : Except AdbcError Unit := .ok ()

/-- What the query helpers do with their cursor before they read the result. -/
def arrowExecute (statement : ArrowStatement V) (compiled : String × List V)
    (parameters : Option (List V)) (o : Driven Unit) : ArrowAction V D O Unit := do
  let parameters ← Stored.ofExcept (arrowExecuteParameters statement compiled.2 parameters)
  sessionCall (.executed compiled.1 parameters) o

/-- `fetch_arrow_table`. -/
def fetchArrowTable (statement : ArrowStatement V) (parameters : Option (List V))
    (o : QueryOutcomes R) : ArrowAction V D O R := do
  let compiled := compileArrowStatement (← Stored.get).options statement
  rawAdbcConnection o.begun
  withCursor [] o.opened o.closed do
    arrowExecute statement compiled parameters o.executed
    sessionCall .fetched o.fetched

/-- `open_arrow_batch_reader`, around what is done with the reader. -/
def openArrowBatchReader (statement : ArrowStatement V) (parameters : Option (List V))
    (o : QueryOutcomes R) (use : R → ArrowAction V D O α) : ArrowAction V D O α := do
  let compiled := compileArrowStatement (← Stored.get).options statement
  rawAdbcConnection o.begun
  withCursor [] o.opened o.closed do
    arrowExecute statement compiled parameters o.executed
    use (← sessionCall .fetched o.fetched)

/-- The table of an ingest: its name, or a `Table` of SQLAlchemy. -/
inductive IngestTable where
  | name (tableName : String)
  | table (name : String) (schema : Option String)
deriving DecidableEq, Repr

/-- The arguments of `ingest_arrow`. -/
structure IngestRequest (D O : Type) where
  table : IngestTable
  data : D
  mode : IngestMode := .append
  schemaName : Option String := none
  temporary : Bool := false
  create : Bool := false
  statementOptions : List (String × O) := []

/-- The outcomes of the calls that an ingest makes. -/
structure IngestOutcomes where
  begun : Except ArrowError Unit := .ok ()
  created : Driven Unit := ⟨.ok (), 0⟩
  opened : Except AdbcError Unit := .ok ()
  ingested : Driven Int
  closed : Except AdbcError Unit := .ok ()

/-- The checks of `ingest_arrow`, and the name and the schema that the driver is given. -/
def ingestTarget (schemaForObject : Option String → Option String) (r : IngestRequest D O) :
    Except ArrowError (String × Option String) :=
  match r.table with
  | .table name schema =>
      if r.schemaName.isSome then
        .error (.valueError "schema_name cannot override a SQLAlchemy Table schema")
      else if r.mode ≠ .append ∧ ¬ r.create then
        .error (.valueError ("non-append ADBC modes with a SQLAlchemy Table would discard its "
          ++ "constraints; use create=True with mode='append' or pass the table name as a string"))
      else if r.create ∧ r.mode ≠ .append then
        .error (.valueError "create=True requires mode='append'")
      else if r.create ∧ r.temporary then
        .error (.valueError "create=True cannot be combined with temporary=True")
      else
        .ok (name, schemaForObject schema)
  | .name tableName =>
      if r.create then
        .error (.typeError "create=True requires a SQLAlchemy Table")
      else
        .ok (tableName, r.schemaName)

/-- `ingest_arrow`. -/
def ingestArrow (r : IngestRequest D O) (o : IngestOutcomes) : ArrowAction V D O Int := do
  rawAdbcConnection o.begun
  let (tableName, schemaName) ← Stored.ofExcept (ingestTarget (← Stored.get).schemaForObject r)
  if r.create then
    sessionCall (.created tableName schemaName) o.created
  withCursor r.statementOptions o.opened o.closed
    (sessionCall (.ingested tableName r.data r.mode schemaName r.temporary) o.ingested)

/-! ### Clients -/

/-- A client of the helpers. -/
inductive ArrowProgram (V D O R : Type) where
  | done
  | raise (error : ArrowError)
  | seq (first second : ArrowProgram V D O R)
  /-- `try` and `except`. -/
  | attempt (body : ArrowProgram V D O R)
  | fetchTable (statement : ArrowStatement V) (parameters : Option (List V)) (o : QueryOutcomes R)
  | batchReader (statement : ArrowStatement V) (parameters : Option (List V)) (o : QueryOutcomes R)
      (body : ArrowProgram V D O R)
  | ingest (request : IngestRequest D O) (o : IngestOutcomes)

/-- What a client does. -/
def ArrowProgram.run : ArrowProgram V D O R → ArrowAction V D O Unit
  | .done => return
  | .raise error => throw error
  | .seq first second => do
      first.run
      second.run
  | .attempt body => Stored.tryCatch body.run fun _ => return
  | .fetchTable statement parameters o => do
      let _ ← fetchArrowTable statement parameters o
  | .batchReader statement parameters o body =>
      openArrowBatchReader statement parameters o fun _ => body.run
  | .ingest request o => do
      let _ ← ingestArrow request o

/-! ### Cursors are closed -/

/-- Cursors that are closed in the reverse order in which they were opened, with statements on
open cursors only; `inside` says that one is open already. -/
inductive Balanced : Bool → List (SessionEvent V D O) → Prop
  | nil (inside : Bool) : Balanced inside []
  | executed (sql : String) (parameters : List V) : Balanced true [.executed sql parameters]
  | fetched : Balanced true [.fetched]
  | ingested (tableName : String) (data : D) (mode : IngestMode) (dbSchemaName : Option String)
      (temporary : Bool) : Balanced true [.ingested tableName data mode dbSchemaName temporary]
  | created (inside : Bool) (name : String) (schema : Option String) :
      Balanced inside [.created name schema]
  | cursor (inside : Bool) (options : List (String × O)) {events : List (SessionEvent V D O)}
      (h : Balanced true events) : Balanced inside (.opened options :: (events ++ [.closed]))
  | append {inside : Bool} {events events' : List (SessionEvent V D O)}
      (h : Balanced inside events) (h' : Balanced inside events') :
      Balanced inside (events ++ events')

/-- How often calls wrote. -/
def totalWrites (calls : List (SessionCall V D O)) : Nat :=
  (calls.map SessionCall.writes).sum

/-- Calls that a helper adds to those on a session, all of them in the transaction of
SQLAlchemy; what the session holds besides is what they wrote. -/
structure Adds (added : List (SessionCall V D O)) (s s' : SqlConnection V D O) : Prop where
  calls : s'.calls = s.calls ++ added
  driver : s'.driver = DriverConnection.write^[totalWrites added] s.driver
  inTransaction : ∀ call ∈ added, call.inTransaction

/-- What a helper leaves of a connection: the calls that it adds close the cursors that they
open. -/
structure Continues (inside : Bool) (s s' : SqlConnection V D O) : Prop where
  options : s'.options = s.options
  schemaForObject : s'.schemaForObject = s.schemaForObject
  inTransaction : s.inTransaction → s'.inTransaction
  adds : ∃ calls, Adds calls s s' ∧ Balanced inside (calls.map SessionCall.event)

/-- What a helper leaves of a connection that has begun its transaction. -/
def Within (inside : Bool) (s s' : SqlConnection V D O) : Prop :=
  s.inTransaction → Continues inside s s'

theorem totalWrites_append (calls calls' : List (SessionCall V D O)) :
  totalWrites (calls ++ calls') = totalWrites calls + totalWrites calls'
  := by
  rw [totalWrites, List.map_append, List.sum_append, totalWrites, totalWrites]

theorem Adds.refl (s : SqlConnection V D O) :
  Adds [] s s
  := ⟨(List.append_nil _).symm, rfl, List.forall_mem_nil _⟩

theorem Adds.trans {calls calls' : List (SessionCall V D O)} {s s' s'' : SqlConnection V D O}
    (h : Adds calls s s') (h' : Adds calls' s' s'') :
  Adds (calls ++ calls') s s''
  := by
  constructor
  · rw [h'.calls, h.calls, List.append_assoc]
  · rw [h'.driver, h.driver, totalWrites_append, Nat.add_comm, Function.iterate_add_apply]
  · apply List.forall_mem_append.mpr ⟨h.inTransaction, h'.inTransaction⟩

/-- A call that is made in a transaction. -/
theorem adds_record {s : SqlConnection V D O} (hs : s.inTransaction)
    (event : SessionEvent V D O) (writes : Nat) :
  Adds [⟨event, writes, s.inTransaction⟩] s (s.record event writes)
  := by
  constructor
  · rfl
  · rfl
  · intro call hcall
    rw [List.mem_singleton.mp hcall]
    apply hs

theorem Continues.refl (inside : Bool) (s : SqlConnection V D O) :
  Continues inside s s
  := ⟨rfl, rfl, id, ⟨[], .refl s, .nil inside⟩⟩

theorem Continues.trans {inside : Bool} {s s' s'' : SqlConnection V D O}
    (h : Continues inside s s') (h' : Continues inside s' s'') :
  Continues inside s s''
  := by
  obtain ⟨calls, hcalls, hbalanced⟩ := h.adds
  obtain ⟨calls', hcalls', hbalanced'⟩ := h'.adds
  constructor
  · rw [h'.options, h.options]
  · rw [h'.schemaForObject, h.schemaForObject]
  · intro hs
    apply h'.inTransaction (h.inTransaction hs)
  · use calls ++ calls', hcalls.trans hcalls'
    rw [List.map_append]
    apply hbalanced.append hbalanced'

instance (inside : Bool) : Std.Refl (α := SqlConnection V D O) (Continues inside) where
  refl := .refl inside

instance (inside : Bool) : IsTrans (SqlConnection V D O) (Continues inside) where
  trans _ _ _ h h' := h.trans h'

instance (inside : Bool) : Std.Refl (α := SqlConnection V D O) (Within inside) where
  refl s _ := .refl inside s

instance (inside : Bool) : IsTrans (SqlConnection V D O) (Within inside) where
  trans _ _ _ h h' hs := (h hs).trans (h' ((h hs).inTransaction hs))

/-- A call that is balanced by itself. -/
theorem leaves_sessionCall {inside : Bool} {event : SessionEvent V D O}
    (h : Balanced inside [event]) (o : Driven α) :
  Stored.Leaves (Within inside) (sessionCall event o)
  := by
  apply Stored.leaves_modify
  intro s hs
  exact ⟨rfl, rfl, id, ⟨_, adds_record hs event o.writes, h⟩⟩

/-- A cursor is closed whatever is done with it. -/
theorem leaves_withCursor {inside : Bool} (options : List (String × O))
    (opened closed : Except AdbcError Unit) {use : ArrowAction V D O α}
    (h : Stored.Leaves (Within true) use) :
  Stored.Leaves (Within inside) (withCursor options opened closed use)
  := by
  refine Stored.Leaves.bracket (Q := Within true) ?_ ?_ ?_
  · intro s e s' hopen hs
    cases opened with
    | ok => cases hopen
    | error _ =>
        cases hopen
        apply Continues.refl
  · intro s _ s' hopen s'' hused hs
    cases opened with
    | error _ => cases hopen
    | ok =>
        cases hopen
        have hcontinues := hused hs
        obtain ⟨calls, hcalls, hbalanced⟩ := hcontinues.adds
        have hclose := adds_record (hcontinues.inTransaction hs) .closed 0
        have hadds := ((adds_record hs (.opened options) 0).trans hcalls).trans hclose
        refine ⟨hcontinues.options, hcontinues.schemaForObject, hcontinues.inTransaction,
          ⟨_, hadds, ?_⟩⟩
        rw [List.map_append, List.map_append]
        apply hbalanced.cursor inside options
  · intro _
    apply h

/-- The transaction is begun before a connection is used. -/
theorem leaves_rawAdbcConnection {inside : Bool} (begun : Except ArrowError Unit)
    {c : ArrowAction V D O α} (h : Stored.Leaves (Within inside) c) :
  Stored.Leaves (Continues inside) (rawAdbcConnection begun >>= fun _ => c)
  := by
  have hused : ∀ s : SqlConnection V D O, s.inTransaction →
      Continues inside s ((rawAdbcConnection begun >>= fun _ => c) s).2 := by
    rintro ⟨inTransaction, driver, options, schemaForObject, calls⟩ hs
    obtain rfl : inTransaction = true := hs
    cases driver with
    | monetdb connection => apply h ⟨true, .monetdb connection, options, schemaForObject, calls⟩ rfl
    | other typeName => apply Continues.refl
  rintro ⟨inTransaction, driver, options, schemaForObject, calls⟩
  cases inTransaction with
  | true => apply hused _ rfl
  | false =>
      cases begun with
      | error e => apply Continues.refl
      | ok =>
          have hbegin : Continues inside ⟨false, driver, options, schemaForObject, calls⟩
              ⟨true, driver, options, schemaForObject, calls⟩ :=
            ⟨rfl, rfl, fun _ => rfl, ⟨[], ⟨(List.append_nil _).symm, rfl, List.forall_mem_nil _⟩,
              .nil inside⟩⟩
          apply hbegin.trans
          apply hused ⟨true, driver, options, schemaForObject, calls⟩ rfl

/-- What needs no transaction to have begun is fine where it has. -/
theorem Leaves.within {inside : Bool} {c : ArrowAction V D O α}
    (h : Stored.Leaves (Continues inside) c) :
  Stored.Leaves (Within inside) c
  := fun s _ => h s

theorem leaves_arrowExecute (statement : ArrowStatement V) (compiled : String × List V)
    (parameters : Option (List V)) (o : Driven Unit) :
  Stored.Leaves (Within true) (arrowExecute (D := D) (O := O) statement compiled parameters o)
  := by
  refine (Stored.leaves_ofExcept _).bind fun parameters => ?_
  apply leaves_sessionCall (.executed _ _)

theorem leaves_fetchArrowTable {inside : Bool} (statement : ArrowStatement V)
    (parameters : Option (List V)) (o : QueryOutcomes R) :
  Stored.Leaves (Continues inside) (fetchArrowTable (D := D) (O := O) statement parameters o)
  := by
  refine Stored.leaves_get.bind fun s => ?_
  apply leaves_rawAdbcConnection
  apply leaves_withCursor
  refine (leaves_arrowExecute statement _ parameters o.executed).bind fun _ => ?_
  apply leaves_sessionCall .fetched

theorem leaves_openArrowBatchReader {inside : Bool} (statement : ArrowStatement V)
    (parameters : Option (List V)) (o : QueryOutcomes R) {use : R → ArrowAction V D O α}
    (h : ∀ r, Stored.Leaves (Within true) (use r)) :
  Stored.Leaves (Continues inside) (openArrowBatchReader statement parameters o use)
  := by
  refine Stored.leaves_get.bind fun s => ?_
  apply leaves_rawAdbcConnection
  apply leaves_withCursor
  refine (leaves_arrowExecute statement _ parameters o.executed).bind fun _ => ?_
  refine (leaves_sessionCall .fetched _).bind fun r => ?_
  apply h r

theorem leaves_ingestArrow {inside : Bool} (request : IngestRequest D O) (o : IngestOutcomes) :
  Stored.Leaves (Continues inside) (ingestArrow (V := V) request o)
  := by
  apply leaves_rawAdbcConnection
  refine Stored.leaves_get.bind fun s => ?_
  refine (Stored.leaves_ofExcept _).bind fun target => ?_
  obtain ⟨tableName, schemaName⟩ := target
  have hcursor : Stored.Leaves (Within inside)
      (withCursor request.statementOptions o.opened o.closed
        (sessionCall (V := V) (.ingested tableName request.data request.mode schemaName
          request.temporary) o.ingested)) :=
    leaves_withCursor _ _ _ (leaves_sessionCall (.ingested _ _ _ _ _) _)
  dsimp only
  by_cases hcreate : request.create
  · rw [if_pos hcreate]
    exact (leaves_sessionCall (.created inside _ _) o.created).bind fun _ => hcursor
  · rw [if_neg hcreate]
    exact hcursor

/-- Every client makes its calls in the transaction, and closes the cursors it opens. -/
theorem ArrowProgram.leaves_run {inside : Bool} (program : ArrowProgram V D O R) :
  Stored.Leaves (Continues inside) program.run
  := by
  induction program generalizing inside with
  | done => apply Stored.leaves_ofExcept
  | raise error => apply Stored.leaves_ofExcept
  | seq first second ihFirst ihSecond => exact ihFirst.bind fun _ => ihSecond
  | attempt body ih => exact ih.tryCatch fun _ => Stored.leaves_ofExcept _
  | fetchTable statement parameters o =>
      refine (leaves_fetchArrowTable statement parameters o).bind fun _ => ?_
      apply Stored.leaves_ofExcept
  | batchReader statement parameters o body ih =>
      apply leaves_openArrowBatchReader
      intro _
      apply Leaves.within ih
  | ingest request o =>
      refine (leaves_ingestArrow request o).bind fun _ => ?_
      apply Stored.leaves_ofExcept

/-! ### The transaction -/

namespace Session

/-- A write of a session that is not in autocommit mode, as the option reads it. -/
theorem write_of_option {s : Session} (h : s.option = false) :
  s.write.option = false ∧ s.write.durable = s.durable ∧ s.write.pending = s.pending ++ [s.clock]
  := by
  obtain ⟨mode, transaction, durable, clock, calls⟩ := s
  cases transaction with
  | some t => exact ⟨h, rfl, rfl⟩
  | none =>
      have hmode : mode = false := by simpa [Session.option] using h
      subst hmode
      exact ⟨rfl, rfl, rfl⟩

/-- Such a session collects its writes in the open transaction. -/
theorem iterate_write {s : Session} (h : s.option = false) (n : Nat) :
  (write^[n] s).option = false ∧ (write^[n] s).durable = s.durable ∧
    (write^[n] s).clock = s.clock + n ∧
    (write^[n] s).pending = s.pending ++ List.range' s.clock n
  := by
  induction n with
  | zero => simp [h]
  | succ n ih =>
      obtain ⟨hoption, hdurable, hclock, hpending⟩ := ih
      obtain ⟨hoption', hdurable', hpending'⟩ := write_of_option hoption
      rw [Function.iterate_succ_apply', clock_write, hclock, hdurable', hdurable, hpending',
        hpending, hclock, List.range'_1_concat, List.append_assoc]
      exact ⟨hoption', rfl, rfl, rfl⟩

end Session

namespace MonetDBConnection

variable {c : MonetDBConnection} {o : RawOutcomes}

/-- A commit that succeeds makes the open transaction durable. -/
theorem commit_of_option (hoption : c.rawConnection.option = false) (hread : o.getOption = .ok ())
    (hcommit : o.commit = .ok ()) :
  (c.commit o).1 = .ok () ∧
    (c.commit o).2.rawConnection.durable = c.rawConnection.durable ++ c.rawConnection.pending
  := by
  rw [commit_fst, commit_snd, hread, hoption, hcommit, afterCommit, hcommit]
  exact ⟨rfl, rfl⟩

/-- A rollback that succeeds discards the open transaction. -/
theorem rollback_of_option (hclosed : c.closed = false) (hoption : c.rawConnection.option = false)
    (hread : o.getOption = .ok ()) (hrollback : o.rollback = .ok ()) :
  (c.rollback o).1 = .ok () ∧
    (c.rollback o).2.rawConnection.durable = c.rawConnection.durable ∧
    (c.rollback o).2.rawConnection.pending = []
  := by
  rw [rollback_eq, hclosed, hread, hoption, hrollback, afterRollback, hrollback]
  exact ⟨rfl, rfl, rfl⟩

end MonetDBConnection

theorem DriverConnection.iterate_write (c : MonetDBConnection) (n : Nat) :
  write^[n] (.monetdb c) = .monetdb { c with rawConnection := Session.write^[n] c.rawConnection }
  := by
  induction n with
  | zero => rfl
  | succ n ih =>
      rw [Function.iterate_succ_apply', ih, Function.iterate_succ_apply']
      rfl

/-! ### Ingests are made -/

/-- A connection that is used has begun its transaction. -/
theorem rawAdbcConnection_ok {begun : Except ArrowError Unit} {s s' : SqlConnection V D O}
    (h : rawAdbcConnection begun s = (.ok (), s')) :
  s' = { s with inTransaction := true }
  := by
  obtain ⟨inTransaction, driver, options, schemaForObject, calls⟩ := s
  cases inTransaction <;> cases begun <;> cases driver <;> cases h <;> rfl

theorem openCursor_ok {options : List (String × O)} {outcome : Except AdbcError Unit}
    {s s' : SqlConnection V D O} (h : openCursor options outcome s = (.ok (), s')) :
  s' = s.record (.opened options) 0
  := by
  cases outcome with
  | error e => cases h
  | ok _ => exact (congrArg Prod.snd h).symm

/-- A cursor on which one call was made that did not fail. -/
theorem withCursor_sessionCall_ok {options : List (String × O)}
    {opened closed : Except AdbcError Unit} {event : SessionEvent V D O} {o : Driven α}
    {s : SqlConnection V D O} {a : α}
    (h : (withCursor options opened closed (sessionCall event o) s).1 = .ok a) :
  o.result = .ok a ∧
    (withCursor options opened closed (sessionCall event o) s).2.calls = s.calls
      ++ [⟨.opened options, 0, s.inTransaction⟩, ⟨event, o.writes, s.inTransaction⟩,
        ⟨.closed, 0, s.inTransaction⟩]
  := by
  obtain ⟨_, s', hopen, hcall, hleft⟩ := Stored.bracket_eq_ok h
  obtain rfl := openCursor_ok hopen
  have hraised : Except.mapError ArrowError.driver o.result = .ok a := hcall
  constructor
  · apply (Outcome.mapError_eq_ok_iff _ _ _).mp hraised
  · rw [withCursor, hleft]
    simp only [closeCursor, sessionCall, Stored.modify, SqlConnection.record, List.append_assoc,
      List.cons_append, List.nil_append]

/-- The calls of an ingest that does not fail. -/
def ingestCalls (r : IngestRequest D O) (o : IngestOutcomes) (tableName : String)
    (schemaName : Option String) : List (SessionCall V D O) :=
  (if r.create then [⟨.created tableName schemaName, o.created.writes, true⟩] else [])
    ++ [⟨.opened r.statementOptions, 0, true⟩,
      ⟨.ingested tableName r.data r.mode schemaName r.temporary, o.ingested.writes, true⟩,
      ⟨.closed, 0, true⟩]

/-- An ingest that does not fail has made its calls. -/
theorem ingestArrow_ok {r : IngestRequest D O} {o : IngestOutcomes} {s : SqlConnection V D O}
    {rows : Int} (h : (ingestArrow r o s).1 = .ok rows) :
  ∃ tableName schemaName, ingestTarget s.schemaForObject r = .ok (tableName, schemaName) ∧
    o.ingested.result = .ok rows ∧
    (ingestArrow r o s).2.calls = s.calls ++ ingestCalls r o tableName schemaName
  := by
  obtain ⟨_, s₁, hconnection, hrun⟩ := Stored.bind_eq_ok h
  obtain rfl := rawAdbcConnection_ok hconnection
  have h₁ := h
  rw [ingestArrow, hrun] at h₁ ⊢
  obtain ⟨_, s₂, hget, hrun⟩ := Stored.bind_eq_ok h₁
  cases hget
  rw [hrun] at h₁ ⊢
  obtain ⟨⟨tableName, schemaName⟩, s₃, htarget, hrun⟩ := Stored.bind_eq_ok h₁
  obtain ⟨hnames, rfl⟩ := Prod.mk.inj htarget
  rw [hrun] at h₁ ⊢
  use tableName, schemaName, hnames
  rw [ingestCalls]
  dsimp only at h₁ ⊢
  by_cases hcreate : r.create
  · rw [if_pos hcreate] at h₁ ⊢
    obtain ⟨_, s₄, hcreated, hrun⟩ := Stored.bind_eq_ok h₁
    obtain ⟨-, rfl⟩ := Prod.mk.inj hcreated
    rw [hrun] at h₁ ⊢
    obtain ⟨hresult, hcalls⟩ := withCursor_sessionCall_ok h₁
    use hresult
    rw [hcalls, if_pos hcreate, ← List.append_assoc]
    rfl
  · rw [if_neg hcreate] at h₁ ⊢
    obtain ⟨hresult, hcalls⟩ := withCursor_sessionCall_ok h₁
    use hresult
    rw [hcalls, if_neg hcreate]
    rfl

/-- What a client does through the helpers is done in one transaction: SQLAlchemy has begun it
before each of its calls, its commit makes all that they wrote durable and its rollback discards
all of it.  Every cursor is closed, whatever fails on the way, and an ingest that does not fail
has been made. -/
theorem ArrowProgram.run_transaction (program : ArrowProgram V D O R) (s : SqlConnection V D O)
    {c : MonetDBConnection} (hdriver : s.driver = .monetdb c) (hclosed : c.closed = false)
    (hoption : c.rawConnection.option = false) :
  ∃ added c', (program.run s).2.calls = s.calls ++ added ∧
    Balanced false (added.map SessionCall.event) ∧
    (∀ call ∈ added, call.inTransaction) ∧
    (∀ r o, program = .ingest r o → (program.run s).1 = .ok () →
      ∃ tableName schemaName, ingestTarget s.schemaForObject r = .ok (tableName, schemaName) ∧
        added = ingestCalls r o tableName schemaName) ∧
    (program.run s).2.driver = .monetdb c' ∧
    c'.rawConnection.durable = c.rawConnection.durable ∧
    c'.rawConnection.pending = c.rawConnection.pending
      ++ List.range' c.rawConnection.clock (totalWrites added) ∧
    ∀ o : RawOutcomes, o.getOption = .ok () →
      (o.commit = .ok () → (doCommit c' o).1 = .ok () ∧
        (doCommit c' o).2.rawConnection.durable = c.rawConnection.durable
          ++ c.rawConnection.pending
          ++ List.range' c.rawConnection.clock (totalWrites added)) ∧
      (o.rollback = .ok () → (doRollback c' o).1 = .ok () ∧
        (doRollback c' o).2.rawConnection.durable = c.rawConnection.durable ∧
        (doRollback c' o).2.rawConnection.pending = [])
  := by
  have hcontinues : Continues false s (program.run s).2 := program.leaves_run s
  obtain ⟨added, hadds, hbalanced⟩ := hcontinues.adds
  have hwritten := hadds.driver
  rw [hdriver, DriverConnection.iterate_write] at hwritten
  obtain ⟨hoption', hdurable, -, hpending⟩ := Session.iterate_write hoption (totalWrites added)
  let c' : MonetDBConnection :=
    { c with rawConnection := Session.write^[totalWrites added] c.rawConnection }
  refine ⟨added, c', hadds.calls, hbalanced, hadds.inTransaction, ?_, hwritten, hdurable,
    hpending, fun o hread => ⟨fun hcommit => ?_, fun hrollback => ?_⟩⟩
  · rintro r o rfl hok
    obtain ⟨rows, s', hingest, hrun⟩ := Stored.bind_eq_ok hok
    have hresult : (ingestArrow (V := V) r o s).1 = .ok rows := congrArg Prod.fst hingest
    obtain ⟨tableName, schemaName, htarget, -, hcalls⟩ := ingestArrow_ok hresult
    have hleft : ((ArrowProgram.ingest r o : ArrowProgram V D O R).run s).2
        = (ingestArrow (V := V) r o s).2 := by
      rw [hingest]
      apply congrArg Prod.snd hrun
    have hsame : s.calls ++ added = s.calls ++ ingestCalls r o tableName schemaName := by
      rw [← hadds.calls, hleft, hcalls]
    exact ⟨tableName, schemaName, htarget, List.append_cancel_left hsame⟩
  · obtain ⟨hok, hcommitted⟩ := MonetDBConnection.commit_of_option (c := c') hoption' hread hcommit
    refine ⟨hok, hcommitted.trans ?_⟩
    rw [hdurable, hpending, List.append_assoc]
  · obtain ⟨hok, hdurable', hpending'⟩ :=
      MonetDBConnection.rollback_of_option (c := c') hclosed hoption' hread hrollback
    exact ⟨hok, hdurable'.trans hdurable, hpending'⟩

/-- A client that creates and fills a table, and fills another one while it reads; the second
ingest fails when it has written twice. -/
def copyingProgram : ArrowProgram Nat String Nat Nat :=
  .seq
    (.ingest { table := .table "t" none, data := "rows", create := true }
      { created := ⟨.ok (), 1⟩, ingested := ⟨.ok 3, 3⟩ })
    (.attempt (.batchReader (.text "SELECT a FROM t") none
      { executed := ⟨.ok (), 0⟩, fetched := ⟨.ok 3, 0⟩ }
      (.ingest { table := .name "u", data := "rows" }
        { ingested := ⟨.error ⟨.integrityError, .integrity, none, [], ""⟩, 2⟩ })))

/-- A connection that has not been used. -/
def freshConnection : SqlConnection Nat String Nat where
  inTransaction := false
  driver := .monetdb ⟨⟨false, none, [], 0, []⟩, false, false⟩
  options := ⟨none⟩
  schemaForObject := id
  calls := []

theorem copyingProgram_transaction :
  ∃ added c', (copyingProgram.run freshConnection).2.calls = added ∧
    Balanced false (added.map SessionCall.event) ∧ (∀ call ∈ added, call.inTransaction) ∧
    (copyingProgram.run freshConnection).2.driver = .monetdb c' ∧
    c'.rawConnection.durable = [] ∧
    (doCommit c' {}).2.rawConnection.durable = [0, 1, 2, 3, 4, 5]
  := by
  obtain ⟨added, c', hcalls, hbalanced, hinside, -, hdriver, hdurable, -, h⟩ :=
    copyingProgram.run_transaction freshConnection rfl rfl rfl
  refine ⟨added, c', hcalls, hbalanced, hinside, hdriver, hdurable, ?_⟩
  have hwrites : totalWrites added = 6 := by
    rw [← List.nil_append added]
    apply (congrArg totalWrites hcalls).symm.trans
    decide
  have hcommitted := ((h {} rfl).1 rfl).2
  rw [hwrites] at hcommitted
  apply hcommitted

end MonetDB
