import MonetdbAdbc.Library.Machine

/-!
# The connection

`MonetDBConnection` wraps a connection of the ADBC driver manager.  The `Session` is the
driver's side of it: the autocommit mode, the transaction that is open, the writes that
are durable, and the raw calls made so far.  Writes are numbered in the order in which they
are made.

The outcomes of the raw calls are part of the call of the wrapper that makes them, and so
is what the driver does where its documentation leaves it open: whether a failed rollback
ended the transaction, and what becomes of an open transaction when the mode is switched.
-/

namespace MonetDB

/-! ### Errors of the driver -/

/-- The exception classes of the driver manager. -/
inductive AdbcErrorClass where
  | interfaceError
  | databaseError
  | dataError
  | operationalError
  | integrityError
  | internalError
  | programmingError
  | notSupportedError
deriving DecidableEq, Repr

/-- `AdbcStatusCode`. -/
inductive AdbcStatusCode where
  | unknown
  | notImplemented
  | notFound
  | alreadyExists
  | invalidArgument
  | invalidState
  | invalidData
  | integrity
  | internal
  | io
  | cancelled
  | timeout
  | unauthenticated
  | unauthorized
deriving DecidableEq, Repr

/-- A Python `str` or `bytes` with an ASCII text. -/
inductive Text where
  | str (text : String)
  | bytes (text : String)
deriving DecidableEq, Repr

/-- `adbc_driver_manager.Error`. -/
structure AdbcError where
  errorClass : AdbcErrorClass
  statusCode : AdbcStatusCode
  sqlstate : Option String := none
  details : List (Text × Text) := []
  message : String := ""
deriving DecidableEq, Repr

/-- `_TERMINAL_ERROR_DETAIL`. -/
def terminalErrorDetail : String := "adbc.monetdb.connection_terminal"

/-- `is_terminal_connection_error`. -/
def isTerminalConnectionError (error : AdbcError) : Bool :=
  error.details.any fun p =>
    (p.1 = .str terminalErrorDetail ∨ p.1 = .bytes terminalErrorDetail) ∧ p.2 = .bytes "true"

/-- The SQLSTATE is of a class, given by its first two characters. -/
def AdbcError.hasClass (error : AdbcError) (sqlstateClass : String) : Bool :=
  error.sqlstate.any fun sqlstate => sqlstateClass.toList.isPrefixOf sqlstate.toList

/-- A failed commit with this error has ended the transaction. -/
def AdbcError.endsTransaction (error : AdbcError) : Bool :=
  error.hasClass "40" || isTerminalConnectionError error

/-- An error as it is raised, with the notes that were added to it. -/
structure Raised where
  error : AdbcError
  notes : List String := []
deriving DecidableEq, Repr

/-! ### The session -/

/-- A write, by its number. -/
abbrev Write := Nat

/-- An open transaction. -/
structure Transaction where
  /-- It was started by SQL and not by the driver. -/
  startedBySql : Bool
  writes : List Write
deriving DecidableEq, Repr

/-- A call of the raw connection. -/
inductive RawCall where
  | getOption
  | commit
  | rollback
  | close
  | setAutocommit (value : Bool)
deriving DecidableEq, Repr

/-- The driver's side of a connection. -/
structure Session where
  /-- The autocommit mode. -/
  mode : Bool
  transaction : Option Transaction
  durable : List Write
  /-- The number of the next write. -/
  clock : Write
  calls : List RawCall
deriving DecidableEq, Repr

/-- What becomes of an open transaction. -/
inductive Fate where
  | kept
  | committed
  | discarded
deriving DecidableEq, Repr

/-- The outcomes of the raw calls that one call of the wrapper may make. -/
structure RawOutcomes where
  getOption : Except AdbcError Unit := .ok ()
  commit : Except AdbcError Unit := .ok ()
  rollback : Except AdbcError Unit := .ok ()
  /-- A failed rollback has ended the transaction all the same. -/
  rollbackEnds : Bool := false
  close : Except AdbcError Unit := .ok ()
  setAutocommit : Except AdbcError Unit := .ok ()
  /-- What switching the mode does to an open transaction. -/
  switched : Fate := .kept

namespace Session

/-- The writes of the open transaction. -/
def pending (s : Session) : List Write :=
  (s.transaction.map Transaction.writes).getD []

/-- The session after a raw call was made. -/
def record (s : Session) (call : RawCall) : Session :=
  { s with calls := s.calls ++ [call] }

/-- The session after its transaction ended without a commit. -/
def discard (s : Session) : Session :=
  { s with transaction := none }

/-- The session after its transaction was committed. -/
def commitPending (s : Session) : Session :=
  { s with transaction := none, durable := s.durable ++ s.pending }

/-- What the autocommit option reads. -/
def option (s : Session) : Bool :=
  s.mode && !s.transaction.any Transaction.startedBySql

/-- A write: part of the open transaction, or durable at once in autocommit mode, or the
first one of a new transaction. -/
def write (s : Session) : Session :=
  let s' := { s with clock := s.clock + 1 }
  match s.transaction with
  | some t => { s' with transaction := some { t with writes := t.writes ++ [s.clock] } }
  | none =>
      if s.mode then
        { s' with durable := s.durable ++ [s.clock] }
      else
        { s' with transaction := some ⟨false, [s.clock]⟩ }

/-- `START TRANSACTION` sent as SQL. -/
def startTransaction (s : Session) : Session :=
  match s.transaction with
  | some _ => s
  | none => { s with transaction := some ⟨true, []⟩ }

/-- `raw_connection.commit()`. -/
def commit (s : Session) (outcome : Except AdbcError Unit) : Session :=
  match outcome with
  | .ok () => (s.record .commit).commitPending
  | .error e => if e.endsTransaction then (s.record .commit).discard else s.record .commit

/-- `raw_connection.rollback()`. -/
def rollback (s : Session) (outcome : Except AdbcError Unit) (ends : Bool) : Session :=
  match outcome with
  | .ok () => (s.record .rollback).discard
  | .error _ => if ends then (s.record .rollback).discard else s.record .rollback

/-- `raw_connection.close()`. -/
def close (s : Session) (outcome : Except AdbcError Unit) : Session :=
  match outcome with
  | .ok () => (s.record .close).discard
  | .error _ => s.record .close

/-- `raw_connection.adbc_connection.set_autocommit(value)`. -/
def setAutocommit (s : Session) (value : Bool) (outcome : Except AdbcError Unit) (fate : Fate) :
    Session :=
  let s := s.record (.setAutocommit value)
  match outcome, fate with
  | .error _, _ => s
  | .ok (), .kept => { s with mode := value }
  | .ok (), .committed => { s.commitPending with mode := value }
  | .ok (), .discarded => { s.discard with mode := value }

end Session

/-! ### The wrapper -/

/-- `MonetDBConnection`. -/
structure MonetDBConnection where
  rawConnection : Session
  isClosed : Bool := false
  isDefunct : Bool := false
deriving DecidableEq, Repr

namespace MonetDBConnection

/-- `closed`. -/
def closed (c : MonetDBConnection) : Bool :=
  c.isClosed || c.isDefunct

/-- `autocommit`. -/
def autocommit (c : MonetDBConnection) (o : RawOutcomes) :
    Except AdbcError Bool × MonetDBConnection :=
  ((fun _ => c.rawConnection.option) <$> o.getOption,
    { c with rawConnection := c.rawConnection.record .getOption })

/-- `close`. -/
def close (c : MonetDBConnection) (o : RawOutcomes) : Except AdbcError Unit × MonetDBConnection :=
  if c.isClosed then
    (.ok (), c)
  else
    let closed := {
      c with
      rawConnection := c.rawConnection.close o.close
      isClosed := true
      isDefunct := true }
    match o.close with
    | .ok () => (.ok (), closed)
    | .error e => (if isTerminalConnectionError e then .ok () else .error e, closed)

/-- The errors after which `commit` rolls back: a `ProgrammingError` with the status
`INVALID_STATE` and an SQLSTATE of class 25. -/
def rollsBack (error : AdbcError) : Bool :=
  error.errorClass = .programmingError ∧ error.statusCode = .invalidState ∧ error.hasClass "25"

/-- What `commit` does after the raw commit failed: it may roll back, and close when that
fails. -/
def cleanUp (c : MonetDBConnection) (o : RawOutcomes) (error : AdbcError) :
    Raised × MonetDBConnection :=
  if rollsBack error then
    let rolled := {
      c with rawConnection := c.rawConnection.rollback o.rollback o.rollbackEnds }
    match o.rollback with
    | .ok () => (⟨error, []⟩, rolled)
    | .error rollbackError =>
        let note := "automatic rollback also failed: " ++ rollbackError.message
        match rolled.close o with
        | (.ok (), closed) => (⟨error, [note]⟩, closed)
        | (.error closeError, closed) =>
            (⟨error, [note, "connection cleanup also failed: " ++ closeError.message]⟩, closed)
  else
    (⟨error, []⟩, c)

/-- `commit`. -/
def commit (c : MonetDBConnection) (o : RawOutcomes) : Except Raised Unit × MonetDBConnection :=
  match c.autocommit o with
  | (.error e, c) => (.error ⟨e, []⟩, c)
  | (.ok true, c) => (.ok (), c)
  | (.ok false, c) =>
      let committed := { c with rawConnection := c.rawConnection.commit o.commit }
      match o.commit with
      | .ok () => (.ok (), committed)
      | .error e =>
          let cleaned := committed.cleanUp o e
          (.error cleaned.1, cleaned.2)

/-- `rollback`. -/
def rollback (c : MonetDBConnection) (o : RawOutcomes) :
    Except AdbcError Unit × MonetDBConnection :=
  if c.closed then
    (.ok (), c)
  else
    let raises (e : AdbcError) (c : MonetDBConnection) :
        Except AdbcError Unit × MonetDBConnection :=
      (.error e, if isTerminalConnectionError e then { c with isDefunct := true } else c)
    match c.autocommit o with
    | (.error e, c) => raises e c
    | (.ok true, c) => (.ok (), c)
    | (.ok false, c) =>
        let rolled := {
          c with rawConnection := c.rawConnection.rollback o.rollback o.rollbackEnds }
        match o.rollback with
        | .ok () => (.ok (), rolled)
        | .error e => raises e rolled

/-- `set_autocommit`. -/
def setAutocommit (c : MonetDBConnection) (value : Bool) (o : RawOutcomes) :
    Except AdbcError Unit × MonetDBConnection :=
  match c.autocommit o with
  | (.error e, c) => (.error e, c)
  | (.ok current, c) =>
      if current = value then
        (.ok (), c)
      else
        (o.setAutocommit, {
          c with
          rawConnection := c.rawConnection.setAutocommit value o.setAutocommit o.switched })

/-! ### What a call leaves -/

section Calls

variable (c : MonetDBConnection) (o : RawOutcomes)

/-- The wrapper after the option was read. -/
def afterOption : MonetDBConnection :=
  { c with rawConnection := c.rawConnection.record .getOption }

/-- The wrapper after the raw commit. -/
def afterCommit : MonetDBConnection :=
  { c with rawConnection := (c.rawConnection.record .getOption).commit o.commit }

/-- The wrapper after the raw rollback. -/
def afterRollback : MonetDBConnection :=
  { c with rawConnection := c.rawConnection.rollback o.rollback o.rollbackEnds }

/-- The wrapper after `rollback` caught an error: defunct, if that is terminal. -/
def afterRaise (e : AdbcError) : MonetDBConnection :=
  if isTerminalConnectionError e then { c with isDefunct := true } else c

@[simp]
theorem rawConnection_afterRaise (e : AdbcError) :
  (c.afterRaise e).rawConnection = c.rawConnection
  := by
  rw [afterRaise]
  split <;> rfl

@[simp]
theorem isClosed_afterRaise (e : AdbcError) :
  (c.afterRaise e).isClosed = c.isClosed
  := by
  rw [afterRaise]
  split <;> rfl

@[simp]
theorem closed_afterRaise (e : AdbcError) :
  (c.afterRaise e).closed = (isTerminalConnectionError e || c.closed)
  := by
  rw [afterRaise]
  split_ifs with hterminal
  · simp [closed, hterminal]
  · simp [hterminal]

/-- A wrapper that was not closed is closed and defunct after `close`, whatever the raw
close did. -/
theorem close_snd :
  (c.close o).2 = if c.isClosed then c else ⟨c.rawConnection.close o.close, true, true⟩
  := by
  rw [close]
  split
  · rfl
  · cases hclose : o.close <;> rfl

/-- Only the failure of a rollback makes `commit` close the wrapper. -/
theorem cleanUp_snd (error : AdbcError) :
  (c.cleanUp o error).2
    = if rollsBack error then
        match o.rollback with
        | .ok () => c.afterRollback o
        | .error _ => ((c.afterRollback o).close o).2
      else c
  := by
  rw [cleanUp]
  split
  · dsimp only
    cases hrollback : o.rollback with
    | ok => simp only [afterRollback, hrollback]
    | error e =>
        simp only [afterRollback, hrollback]
        split
        · rename_i hclose
          rw [hclose]
        · rename_i hclose
          rw [hclose]
  · rfl

/-- What `commit` leaves. -/
theorem commit_snd :
  (c.commit o).2
    = match o.getOption with
      | .error _ => c.afterOption
      | .ok () =>
          if c.rawConnection.option then
            c.afterOption
          else
            match o.commit with
            | .ok () => c.afterCommit o
            | .error e => ((c.afterCommit o).cleanUp o e).2
  := by
  rw [commit, autocommit]
  cases hoption : o.getOption with
  | error e => rfl
  | ok =>
      dsimp only [Functor.map, Except.map]
      cases hread : c.rawConnection.option with
      | true => rfl
      | false =>
          dsimp only
          cases hcommit : o.commit with
          | ok => simp only [afterCommit, hcommit, Bool.false_eq_true, if_false]
          | error e => simp only [afterCommit, hcommit, Bool.false_eq_true, if_false]

/-- A condition that the raw rollback and `close` preserve is preserved by the clean-up. -/
theorem cleanUp_preserves {I : MonetDBConnection → Prop} (error : AdbcError)
    (hrollback : ∀ d : MonetDBConnection, I d → I (d.afterRollback o))
    (hclose : ∀ d : MonetDBConnection, I d → I (d.close o).2) (hc : I c) :
  I (c.cleanUp o error).2
  := by
  rw [cleanUp_snd]
  split
  · split
    · apply hrollback c hc
    · apply hclose _ (hrollback c hc)
  · apply hc

/-- A condition that the raw calls of `commit` and its clean-up preserve is preserved by
`commit`. -/
theorem commit_preserves {I : MonetDBConnection → Prop} (hoption : I c.afterOption)
    (hcommit : I (c.afterCommit o))
    (hrollback : ∀ d : MonetDBConnection, I d → I (d.afterRollback o))
    (hclose : ∀ d : MonetDBConnection, I d → I (d.close o).2) :
  I (c.commit o).2
  := by
  rw [commit_snd]
  split
  · apply hoption
  · split
    · apply hoption
    · split
      · apply hcommit
      · apply cleanUp_preserves _ _ _ hrollback hclose hcommit

/-- What `commit` raises. -/
theorem commit_fst :
  (c.commit o).1
    = match o.getOption with
      | .error e => .error ⟨e, []⟩
      | .ok () =>
          if c.rawConnection.option then
            .ok ()
          else
            match o.commit with
            | .ok () => .ok ()
            | .error e => .error ((c.afterCommit o).cleanUp o e).1
  := by
  rw [commit, autocommit]
  cases hoption : o.getOption with
  | error e => rfl
  | ok =>
      dsimp only [Functor.map, Except.map]
      cases hread : c.rawConnection.option with
      | true => rfl
      | false =>
          dsimp only
          cases hcommit : o.commit with
          | ok => rfl
          | error e => simp only [afterCommit, hcommit, Bool.false_eq_true, if_false]

/-- What `rollback` raises and leaves. -/
theorem rollback_eq :
  c.rollback o
    = if c.closed then
        (.ok (), c)
      else
        match o.getOption with
        | .error e => (.error e, c.afterOption.afterRaise e)
        | .ok () =>
            if c.rawConnection.option then
              (.ok (), c.afterOption)
            else
              match o.rollback with
              | .ok () => (.ok (), c.afterOption.afterRollback o)
              | .error e => (.error e, (c.afterOption.afterRollback o).afterRaise e)
  := by
  rw [rollback, autocommit]
  split
  · rfl
  · cases o.getOption with
    | error e => rfl
    | ok =>
        dsimp only [Functor.map, Except.map]
        cases c.rawConnection.option with
        | true => rfl
        | false =>
            simp only [afterRollback, afterOption]
            cases o.rollback <;> rfl

/-- What `rollback` leaves of the raw connection. -/
theorem rawConnection_rollback :
  (c.rollback o).2.rawConnection
    = if c.closed then
        c.rawConnection
      else
        match o.getOption with
        | .error _ => c.rawConnection.record .getOption
        | .ok () =>
            if c.rawConnection.option then
              c.rawConnection.record .getOption
            else
              (c.rawConnection.record .getOption).rollback o.rollback o.rollbackEnds
  := by
  rw [rollback_eq]
  split
  · rfl
  · split
    · apply rawConnection_afterRaise
    · split
      · rfl
      · split
        · rfl
        · apply rawConnection_afterRaise

/-- `rollback` does not close the raw connection. -/
theorem isClosed_rollback :
  (c.rollback o).2.isClosed = c.isClosed
  := by
  rw [rollback_eq]
  split
  · rfl
  · split
    · apply isClosed_afterRaise
    · split
      · rfl
      · split
        · rfl
        · apply isClosed_afterRaise

/-- What `set_autocommit` leaves of the raw connection. -/
theorem rawConnection_setAutocommit (value : Bool) :
  (c.setAutocommit value o).2.rawConnection
    = match o.getOption with
      | .error _ => c.rawConnection.record .getOption
      | .ok () =>
          if c.rawConnection.option = value then
            c.rawConnection.record .getOption
          else
            (c.rawConnection.record .getOption).setAutocommit value o.setAutocommit o.switched
  := by
  rw [setAutocommit, autocommit]
  cases hoption : o.getOption with
  | error e => rfl
  | ok =>
      dsimp only [Functor.map, Except.map]
      split <;> rfl

/-- `set_autocommit` does not close the wrapper. -/
theorem closed_setAutocommit (value : Bool) :
  (c.setAutocommit value o).2.closed = c.closed
  := by
  rw [setAutocommit, autocommit]
  cases o.getOption with
  | error e => rfl
  | ok =>
      dsimp only [Functor.map, Except.map]
      split <;> rfl

end Calls

end MonetDBConnection

/-! ### Runs -/

/-- A write or a transaction start on the session, or a call of the wrapper. -/
inductive ConnectionCall where
  | write
  | startTransaction
  | commit (o : RawOutcomes)
  | rollback (o : RawOutcomes)
  | close (o : RawOutcomes)
  | setAutocommit (value : Bool) (o : RawOutcomes)

/-- A connection answering calls. -/
def connectionMachine : Machine MonetDBConnection ConnectionCall (Except Raised Unit) where
  step c
    | .write => (.ok (), { c with rawConnection := c.rawConnection.write })
    | .startTransaction => (.ok (), { c with rawConnection := c.rawConnection.startTransaction })
    | .commit o => c.commit o
    | .rollback o => (c.rollback o).map (Except.mapError fun e => ⟨e, []⟩) id
    | .close o => (c.close o).map (Except.mapError fun e => ⟨e, []⟩) id
    | .setAutocommit value o => (c.setAutocommit value o).map (Except.mapError fun e => ⟨e, []⟩) id

end MonetDB
