import MonetdbAdbc.Connection.Commit

/-!
# Isolation levels

The dialect has two isolation levels, which are the two autocommit modes of the driver.  The
autocommit option reads false in autocommit mode too while a transaction is open that was
started by SQL; and `set_autocommit` does nothing when the option reads the value that is
asked for.  A request for `SERIALIZABLE` in such a transaction is therefore dropped: the mode
stays as it was, and the connection is back in autocommit mode when the transaction ends.

`isolationLevel_iff` says that this is the only way in which the level requested last is not
in force.
-/

namespace MonetDB

/-- `IsolationLevel`, as far as `get_isolation_level_values` accepts it. -/
inductive IsolationLevel where
  | serializable
  | autocommit
deriving DecidableEq, Repr

/-- `get_isolation_level`. -/
def getIsolationLevel (dbapiConnection : MonetDBConnection) (o : RawOutcomes) :
    Except AdbcError IsolationLevel × MonetDBConnection :=
  (dbapiConnection.autocommit o).map
    (Functor.map fun autocommit => if autocommit then .autocommit else .serializable) id

/-- `set_isolation_level`. -/
def setIsolationLevel (dbapiConnection : MonetDBConnection) (level : IsolationLevel)
    (o : RawOutcomes) : Except AdbcError Unit × MonetDBConnection :=
  dbapiConnection.setAutocommit (level = .autocommit) o

/-- `do_commit`. -/
def doCommit (dbapiConnection : MonetDBConnection) (o : RawOutcomes) :
    Except Raised Unit × MonetDBConnection :=
  dbapiConnection.commit o

/-- `do_rollback`. -/
def doRollback (dbapiConnection : MonetDBConnection) (o : RawOutcomes) :
    Except AdbcError Unit × MonetDBConnection :=
  dbapiConnection.rollback o

/-! ### The mode of a session -/

namespace Session

variable (s : Session)

/-- A transaction is open that was started by SQL. -/
def inSqlTransaction : Bool :=
  s.transaction.any Transaction.startedBySql

theorem option_eq :
  s.option = (s.mode && !s.inSqlTransaction)
  := rfl

@[simp]
theorem mode_record (call : RawCall) :
  (s.record call).mode = s.mode
  := rfl

@[simp]
theorem mode_write :
  s.write.mode = s.mode
  := by
  rw [write]
  split
  · rfl
  · split <;> rfl

@[simp]
theorem mode_startTransaction :
  s.startTransaction.mode = s.mode
  := by
  rw [startTransaction]
  split <;> rfl

@[simp]
theorem mode_commit (outcome : Except AdbcError Unit) :
  (s.commit outcome).mode = s.mode
  := by
  rw [Session.commit.eq_def]
  split
  · rfl
  · split <;> rfl

@[simp]
theorem mode_rollback (outcome : Except AdbcError Unit) (ends : Bool) :
  (s.rollback outcome ends).mode = s.mode
  := by
  rw [Session.rollback.eq_def]
  split
  · rfl
  · split <;> rfl

/-- Only a successful `set_autocommit` changes the mode. -/
theorem mode_setAutocommit (value : Bool) (fate : Fate) :
  (s.setAutocommit value (.ok ()) fate).mode = value
  := by cases fate <;> rfl

end Session

/-! ### Runs -/

/-- A write or a transaction start on the session, or a call of the dialect, where every raw
call succeeds. -/
inductive IsolationCall where
  | write
  | startTransaction
  /-- `set_isolation_level`, with what switching the mode does to an open transaction. -/
  | setIsolationLevel (level : IsolationLevel) (switched : Fate)
  | doCommit
  | doRollback
deriving DecidableEq, Repr

/-- The call requests an isolation level. -/
def IsolationCall.requests : IsolationCall → Bool
  | .setIsolationLevel _ _ => true
  | _ => false

/-- The dialect's calls on a connection. -/
def isolationMachine : Machine MonetDBConnection IsolationCall Unit where
  step c
    | .write => ((), { c with rawConnection := c.rawConnection.write })
    | .startTransaction => ((), { c with rawConnection := c.rawConnection.startTransaction })
    | .setIsolationLevel level switched =>
        ((), (setIsolationLevel c level { switched := switched }).2)
    | .doCommit => ((), (doCommit c {}).2)
    | .doRollback => ((), (doRollback c {}).2)

/-- A request is dropped: for `SERIALIZABLE`, in a transaction that was started by SQL in
autocommit mode. -/
def Drops (c : MonetDBConnection) (level : IsolationLevel) : Prop :=
  level = .serializable ∧ c.rawConnection.mode ∧ c.rawConnection.inSqlTransaction

/-- A level is in force: it is the one that is read, and the mode is that of the level. -/
structure InForce (c : MonetDBConnection) (level : IsolationLevel) : Prop where
  reads : (getIsolationLevel c {}).1 = .ok level
  mode : c.rawConnection.mode = decide (level = .autocommit)

/-- A request that is not dropped puts the mode of its level in force. -/
theorem mode_setIsolationLevel (c : MonetDBConnection) (level : IsolationLevel) (switched : Fate) :
  (setIsolationLevel c level { switched := switched }).2.rawConnection.mode
      = decide (level = .autocommit) ↔
    ¬ Drops c level
  := by
  rw [setIsolationLevel, MonetDBConnection.rawConnection_setAutocommit, Session.option_eq, Drops]
  dsimp only
  cases level with
  | serializable =>
      cases hmode : c.rawConnection.mode with
      | false => simp [hmode]
      | true =>
          cases hsql : c.rawConnection.inSqlTransaction with
          | false => simp [Session.mode_setAutocommit]
          | true => simp [hmode]
  | autocommit =>
      split_ifs with hoption
      · simp only [Session.mode_record]
        simp at hoption
        simp [hoption]
      · simp [Session.mode_setAutocommit]

/-- Calls other than requests keep the mode. -/
theorem mode_next (c : MonetDBConnection) {call : IsolationCall} (h : ¬ call.requests) :
  (isolationMachine.next c call).rawConnection.mode = c.rawConnection.mode
  := by
  cases call with
  | write => apply Session.mode_write
  | startTransaction => apply Session.mode_startTransaction
  | setIsolationLevel level switched => exact absurd rfl h
  | doCommit =>
      simp only [Machine.next, isolationMachine, doCommit, MonetDBConnection.commit_snd]
      split_ifs
      · apply Session.mode_record
      · apply Session.mode_commit
  | doRollback =>
      simp only [Machine.next, isolationMachine, doRollback,
        MonetDBConnection.rawConnection_rollback]
      split_ifs
      · rfl
      · apply Session.mode_record
      · apply Session.mode_rollback

/-- A level is in force outside transactions started by SQL when the mode is that of the
level. -/
theorem inForce_iff {c : MonetDBConnection} (h : ¬ c.rawConnection.inSqlTransaction)
    (level : IsolationLevel) :
  InForce c level ↔ c.rawConnection.mode = decide (level = .autocommit)
  := by
  constructor
  · intro hforce
    apply hforce.mode
  · intro hmode
    constructor
    · have hoption : c.rawConnection.option = c.rawConnection.mode := by
        rw [Session.option_eq, eq_false_of_ne_true h, Bool.not_false, Bool.and_true]
      simp only [getIsolationLevel, MonetDBConnection.autocommit, Prod.map, hoption, hmode]
      cases level <;> rfl
    · apply hmode

/-- After a run, outside transactions started by SQL, the level requested last is in force
exactly when that request was not dropped. -/
theorem isolationLevel_iff (c : MonetDBConnection) (before after : List IsolationCall)
    (level : IsolationLevel) (switched : Fate) (hlast : ∀ call ∈ after, ¬ call.requests) :
  let d := isolationMachine.final c (before ++ .setIsolationLevel level switched :: after)
  ¬ d.rawConnection.inSqlTransaction →
    (InForce d level ↔ ¬ Drops (isolationMachine.final c before) level)
  := by
  intro d hd
  have hmode : d.rawConnection.mode
      = (isolationMachine.next (isolationMachine.final c before)
          (.setIsolationLevel level switched)).rawConnection.mode := by
    simp only [d, Machine.final_append, Machine.final_cons]
    apply isolationMachine.invariant (P := fun _ call => ¬ call.requests)
      (I := fun c' => c'.rawConnection.mode = _)
    · intro c' call hc' hcall
      rw [mode_next c' hcall, hc']
    · rfl
    · apply isolationMachine.along_of_forall hlast
  rw [inForce_iff hd, hmode]
  apply mode_setIsolationLevel

/-- A request for `SERIALIZABLE` outside a transaction is in force after the next one. -/
theorem isolationLevel_serializable :
  InForce (isolationMachine.final manualConnection
    [.setIsolationLevel .autocommit .kept, .setIsolationLevel .serializable .kept,
      .startTransaction, .doCommit]) .serializable
  := by
  apply (isolationLevel_iff manualConnection [.setIsolationLevel .autocommit .kept]
    [.startTransaction, .doCommit] .serializable .kept (by decide) (by decide)).mpr
  rintro ⟨-, -, hsql⟩
  revert hsql
  decide

/-- In autocommit mode, a request for `SERIALIZABLE` in a transaction started by SQL is not in
force after its commit. -/
theorem serializable_dropped :
  let d := isolationMachine.final manualConnection
    [.setIsolationLevel .autocommit .kept, .startTransaction,
      .setIsolationLevel .serializable .kept, .doCommit]
  ¬ d.rawConnection.inSqlTransaction ∧ (getIsolationLevel d {}).1 = .ok .autocommit
    ∧ ¬ InForce d .serializable
  := by
  intro d
  refine ⟨by decide, rfl, ?_⟩
  intro h
  cases h.reads

end MonetDB
