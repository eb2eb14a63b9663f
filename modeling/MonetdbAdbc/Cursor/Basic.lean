import MonetdbAdbc.Arrow.Convert
import MonetdbAdbc.Arrow.Parameters
import MonetdbAdbc.Library.Machine

/-!
# The cursor

`MonetDBCursor` wraps the cursor of the ADBC driver manager.  It buffers the rows of one
record batch and reads the batches one at a time.

The driver manager's cursor is outside the modelled code.  `AdbcCursor` has of it what the
wrapper uses: the result of the last execution, if it has one, whose record batch reader
is an object of its own, so that a reader taken from an earlier result is a different one.
What the server answers to a statement is part of the call that executes it.
-/

namespace MonetDB

/-- A result row, a tuple in the source. -/
abbrev Tuple := List PyValue

/-! ### The cursor of the driver manager -/

/-- The identity of a record batch reader. -/
abbrev ReaderId := Nat

/-- A result set as the server sends it. -/
structure Result where
  description : List Field
  stream : List Batch

/-- What the server answers to preparing and to executing a statement.  An execution may
have no result set. -/
structure Server where
  prepared : Except PyError (Option Schema)
  executed : Except PyError (Option Result)

/-- The cursor of the driver manager.  `readers` holds the batches that each reader has
not handed out yet; readers from `fresh` on do not exist yet. -/
structure AdbcCursor where
  arraysize : Int
  result : Option (List Field × ReaderId)
  readers : ReaderId → List Batch
  fresh : ReaderId

namespace AdbcCursor

/-- `cursor.description`. -/
def description (cursor : AdbcCursor) : Option (List Field) :=
  cursor.result.map Prod.fst

/-- The cursor without a result, as preparing or executing a statement leaves it first. -/
def clear (cursor : AdbcCursor) : AdbcCursor :=
  { cursor with result := none }

/-- `cursor.execute(..)` and `cursor.executemany(..)`.  A result comes with a new reader. -/
def execute (cursor : AdbcCursor) :
    Except PyError (Option Result) → Except PyError Unit × AdbcCursor
  | .error e => (.error e, cursor.clear)
  | .ok none => (.ok (), cursor.clear)
  | .ok (some result) =>
      (.ok (), {
        cursor with
        result := some (result.description, cursor.fresh)
        readers := Function.update cursor.readers cursor.fresh result.stream
        fresh := cursor.fresh + 1 })

/-- A reader after handing out all but `rest` of its batches. -/
def advance (cursor : AdbcCursor) (reader : ReaderId) (rest : List Batch) : AdbcCursor :=
  { cursor with readers := Function.update cursor.readers reader rest }

end AdbcCursor

/-! ### The wrapper -/

/-- `MonetDBCursor`. -/
structure MonetDBCursor where
  cursor : AdbcCursor
  reader : Option ReaderId
  batch : List Tuple
  index : Nat

namespace MonetDBCursor

variable {S : Scalars} (N : Numpy S) (A : PyArrow)

/-- `MonetDBCursor(cursor)`. -/
def init (cursor : AdbcCursor) : MonetDBCursor :=
  ⟨cursor, none, [], 0⟩

/-- `_reset`. -/
def reset (c : MonetDBCursor) : MonetDBCursor :=
  { c with reader := none, batch := [], index := 0 }

/-- `description`: an empty description is reported as none. -/
def description (c : MonetDBCursor) : Option (List Field) :=
  c.cursor.description.filter fun fields => !fields.isEmpty

/-- `arraysize = value`. -/
def setArraysize (c : MonetDBCursor) (value : Int) : MonetDBCursor :=
  { c with cursor := { c.cursor with arraysize := value } }

/-! ### Executing -/

/-- The end of every execution: the wrapped cursor executes. -/
def executeCursor (c : MonetDBCursor) (executed : Except PyError (Option Result)) :
    Except PyError Unit × MonetDBCursor :=
  let done := c.cursor.execute executed
  (done.1, { c with cursor := done.2 })

/-- `execute`. -/
def execute (c : MonetDBCursor) (executed : Except PyError (Option Result)) :
    Except PyError Unit × MonetDBCursor :=
  c.reset.executeCursor executed

/-- `executemany`. -/
def executemany (c : MonetDBCursor) (executed : Except PyError (Option Result)) :
    Except PyError Unit × MonetDBCursor :=
  c.reset.executeCursor executed

/-- The rows are turned into a batch without a schema, so the server is asked for one. -/
def prepares (rows : List Row) (schema : Option Schema) : Bool :=
  match schema, parameterRecordBatch A rows none with
  | none, .ok (some _) => true
  | _, _ => false

/-- What an execution with a parameter schema binds: a batch, or the rows themselves. -/
def bindParameters (prepared : Except PyError (Option Schema)) (rows : List Row)
    (schema : Option Schema) : Except PyError (Option Batch) := do
  match ← parameterRecordBatch A rows schema with
  | none => pure none
  | some batch =>
      match schema with
      | some _ => pure (some batch)
      | none =>
          match ← prepared with
          | none => pure (some batch)
          | some preparedSchema =>
              match ← parameterRecordBatch A rows (some preparedSchema) with
              | some batch => pure (some batch)
              | none => .error .assertionError

/-- What `execute_with_parameter_schema` and `executemany_with_parameter_schema` share. -/
def executeBound (c : MonetDBCursor) (server : Server) (rows : List Row)
    (schema : Option Schema) : Except PyError (Option Schema) × MonetDBCursor :=
  let c := c.reset
  let c := if prepares A rows schema then { c with cursor := c.cursor.clear } else c
  match bindParameters A server.prepared rows schema with
  | .error e => (.error e, c)
  | .ok batch =>
      let done := c.executeCursor server.executed
      ((fun _ => batch.map Batch.schema) <$> done.1, done.2)

/-- What an execution with a parameter schema answers. -/
theorem executeBound_answer (c : MonetDBCursor) (server : Server) (rows : List Row)
    (schema : Option Schema) :
  (c.executeBound A server rows schema).1
    = (bindParameters A server.prepared rows schema >>= fun bound =>
        (fun _ => bound.map Batch.schema) <$> server.executed)
  := by
  rw [executeBound]
  cases bindParameters A server.prepared rows schema with
  | error e => rfl
  | ok bound =>
      rcases server.executed with e | _ | result <;> rfl

/-- `execute_with_parameter_schema`. -/
def executeWithParameterSchema (c : MonetDBCursor) (server : Server) (parameters : Row)
    (schema : Option Schema) : Except PyError (Option Schema) × MonetDBCursor :=
  c.executeBound A server [parameters] schema

/-- The parameters of `executemany`: a sequence of rows, or an object that is none. -/
inductive SeqOfParameters where
  | sequence (rows : List Row)
  | other
deriving DecidableEq, Repr

/-- `executemany_with_parameter_schema`. -/
def executemanyWithParameterSchema (c : MonetDBCursor) (server : Server)
    (seqOfParameters : SeqOfParameters) (schema : Option Schema) :
    Except PyError (Option Schema) × MonetDBCursor :=
  match seqOfParameters with
  | .other =>
      let done := c.reset.executeCursor server.executed
      ((fun _ => none) <$> done.1, done.2)
  | .sequence rows => c.executeBound A server rows schema

/-! ### Reading batches -/

/-- The reader in use, or that of the result. -/
def openReader (c : MonetDBCursor) : Option ReaderId :=
  match c.reader with
  | some reader => some reader
  | none => c.cursor.result.map Prod.snd

/-- The batches that were not read yet. -/
def unread (c : MonetDBCursor) : List Batch :=
  (c.openReader.map c.cursor.readers).getD []

/-- The loop of `_next_batch`: the rows of the next batch that has any, and the batches
after it. -/
def readBatches : List Batch → Except PyError (Option (List Tuple)) × List Batch
  | [] => (.ok none, [])
  | batch :: batches =>
      if batch.numRows = 0 then
        readBatches batches
      else
        (some <$> batchToRows N batch, batches)

/-- `_next_batch`. -/
def nextBatch (c : MonetDBCursor) : Except PyError Bool × MonetDBCursor :=
  match c.openReader with
  | none => (.ok false, c)
  | some reader =>
      let read := readBatches N (c.cursor.readers reader)
      let c := { c with reader := some reader, cursor := c.cursor.advance reader read.2 }
      match read.1 with
      | .error e => (.error e, c)
      | .ok none => (.ok false, c)
      | .ok (some rows) => (.ok true, { c with batch := rows, index := 0 })

/-- A batch that was read is not read again. -/
theorem length_readBatches {batches : List Batch} {rows : List Tuple} {rest : List Batch}
    (h : readBatches N batches = (.ok (some rows), rest)) :
  rest.length < batches.length
  := by
  induction batches with
  | nil => cases h
  | cons batch batches ih =>
      rw [readBatches] at h
      rw [List.length_cons]
      split at h
      · apply Nat.lt_succ_of_lt
        apply ih h
      · cases (Prod.mk.inj h).2
        apply Nat.lt_succ_self

/-- `_next_batch` leaves fewer batches when it finds one. -/
theorem length_unread_nextBatch {c d : MonetDBCursor} (h : nextBatch N c = (.ok true, d)) :
  d.unread.length < c.unread.length
  := by
  rw [nextBatch] at h
  split at h
  · cases h
  · rename_i reader hreader
    cases hread : readBatches N (c.cursor.readers reader) with
    | mk answer rest =>
        simp only [hread] at h
        match answer with
        | .error e => cases h
        | .ok none => cases h
        | .ok (some rows) =>
            cases h
            rw [unread, unread, hreader]
            simpa [openReader, AdbcCursor.advance] using length_readBatches N hread

/-! ### Fetching -/

/-- The buffered rows that were not returned yet. -/
def buffered (c : MonetDBCursor) : List Tuple :=
  c.batch.drop c.index

/-- `fetchone`. -/
def fetchone (c : MonetDBCursor) : Except PyError (Option Tuple) × MonetDBCursor :=
  if h : c.index < c.batch.length then
    (.ok (some c.batch[c.index]), { c with index := c.index + 1 })
  else
    match hnext : nextBatch N c with
    | (.error e, d) => (.error e, d)
    | (.ok false, d) => (.ok none, d)
    | (.ok true, d) =>
        have := length_unread_nextBatch N hnext
        fetchone d
termination_by c.unread.length

/-- The rows of the buffer that `fetchmany` takes in one step. -/
def take (c : MonetDBCursor) (count : Int) (rows : List Tuple) : Nat :=
  min (count - rows.length).toNat (c.batch.length - c.index)

/-- The loop of `fetchmany`. -/
def fetchmanyLoop (count : Int) (rows : List Tuple) (c : MonetDBCursor) :
    Except PyError (List Tuple) × MonetDBCursor :=
  if (rows.length : Int) < count then
    if c.batch.length ≤ c.index then
      match hnext : nextBatch N c with
      | (.error e, d) => (.error e, d)
      | (.ok false, d) => (.ok rows, d)
      | (.ok true, d) =>
          have := length_unread_nextBatch N hnext
          let n := d.take count rows
          fetchmanyLoop count (rows ++ (d.batch.drop d.index).take n)
            { d with index := d.index + n }
    else
      let n := c.take count rows
      fetchmanyLoop count (rows ++ (c.batch.drop c.index).take n) { c with index := c.index + n }
  else
    (.ok rows, c)
termination_by (c.unread.length, (count - rows.length).toNat)
decreasing_by
  · apply Prod.Lex.left
    exact this
  · apply Prod.Lex.right
    simp only [take, List.length_append, List.length_take, List.length_drop]
    omega

/-- `fetchmany`. -/
def fetchmany (size : Option Int) (c : MonetDBCursor) :
    Except PyError (List Tuple) × MonetDBCursor :=
  fetchmanyLoop N (size.getD c.cursor.arraysize) [] c

/-- The loop of `fetchall`. -/
def fetchallLoop (rows : List Tuple) (c : MonetDBCursor) :
    Except PyError (List Tuple) × MonetDBCursor :=
  match hnext : nextBatch N c with
  | (.error e, d) => (.error e, d)
  | (.ok false, d) => (.ok rows, d)
  | (.ok true, d) =>
      have := length_unread_nextBatch N hnext
      fetchallLoop (rows ++ d.batch) { d with index := d.batch.length }
termination_by c.unread.length
decreasing_by exact this

/-- `fetchall`. -/
def fetchall (c : MonetDBCursor) : Except PyError (List Tuple) × MonetDBCursor :=
  fetchallLoop N c.buffered { c with index := c.batch.length }

end MonetDBCursor

/-! ### Runs -/

/-- A call that fetches rows, or that sets how many `fetchmany` fetches. -/
inductive Fetch where
  | setArraysize (value : Int)
  | fetchone
  | fetchmany (size : Option Int)
  | fetchall
deriving DecidableEq, Repr

/-- A call on a cursor. -/
inductive CursorCall where
  | execute (executed : Except PyError (Option Result))
  | executemany (executed : Except PyError (Option Result))
  | executeWithParameterSchema (server : Server) (parameters : Row) (schema : Option Schema)
  | executemanyWithParameterSchema (server : Server)
      (seqOfParameters : MonetDBCursor.SeqOfParameters) (schema : Option Schema)
  | fetch (f : Fetch)

/-- What a call returns. -/
inductive CursorAnswer where
  | raised (e : PyError)
  | done
  | executed (schema : Option Schema)
  | row (row : Option Tuple)
  | rows (rows : List Tuple)
deriving DecidableEq

/-- The answer of a call that may raise. -/
def CursorAnswer.of {α : Type} (f : α → CursorAnswer) : Except PyError α → CursorAnswer
  | .error e => .raised e
  | .ok a => f a

section Runs

variable {S : Scalars} (N : Numpy S) (A : PyArrow)

/-- A cursor answering a fetch. -/
def fetchStep (c : MonetDBCursor) : Fetch → CursorAnswer × MonetDBCursor
  | .setArraysize value => (.done, c.setArraysize value)
  | .fetchone => (c.fetchone N).map (.of .row) id
  | .fetchmany size => (c.fetchmany N size).map (.of .rows) id
  | .fetchall => (c.fetchall N).map (.of .rows) id

/-- A cursor answering calls. -/
def cursorMachine : Machine MonetDBCursor CursorCall CursorAnswer where
  step c
    | .execute executed => (c.execute executed).map (.of fun _ => .done) id
    | .executemany executed => (c.executemany executed).map (.of fun _ => .done) id
    | .executeWithParameterSchema server parameters schema =>
        (c.executeWithParameterSchema A server parameters schema).map (.of .executed) id
    | .executemanyWithParameterSchema server seqOfParameters schema =>
        (c.executemanyWithParameterSchema A server seqOfParameters schema).map (.of .executed) id
    | .fetch f => fetchStep N c f

end Runs

end MonetDB
