import MonetdbAdbc.Connection.Lifecycle

/-!
# Errors of a failing commit

A failing `commit` raises the error of the raw commit, with the failures of its own clean-up
as notes.  `is_disconnect` judges an error together with the connection on which it was
raised: when the clean-up could not roll back, the connection is closed and the pool
discards it, whatever the error is.
-/

namespace MonetDB

/-- `is_disconnect`. -/
def isDisconnect (e : AdbcError) (connection : Option MonetDBConnection) : Bool :=
  e.statusCode = .io || isTerminalConnectionError e || connection.any MonetDBConnection.closed

/-- The note that a failed rollback leaves. -/
def rollbackNote (rollbackError : AdbcError) : String :=
  "automatic rollback also failed: " ++ rollbackError.message

/-- The note that a failed close leaves. -/
def closeNote (closeError : AdbcError) : String :=
  "connection cleanup also failed: " ++ closeError.message

namespace MonetDBConnection

variable (c : MonetDBConnection) (o : RawOutcomes)

/-- The notes for what `close` raises: it is silent when the wrapper is closed already, and
about terminal errors. -/
def closeNotes : List String :=
  if c.isClosed then
    []
  else
    match o.close with
    | .ok () => []
    | .error closeError =>
        if isTerminalConnectionError closeError then [] else [closeNote closeError]

/-- The notes that the clean-up of a failing commit leaves. -/
def cleanUpNotes : List String :=
  match o.rollback with
  | .ok () => []
  | .error rollbackError => rollbackNote rollbackError :: c.closeNotes o

/-- The raw calls that the clean-up of a failing commit makes: it rolls back, and closes when
that fails unless the wrapper is closed already. -/
def cleanUpCalls : List RawCall :=
  match o.rollback with
  | .ok () => [.rollback]
  | .error _ => if c.isClosed then [.rollback] else [.rollback, .close]

/-- What `close` raises. -/
theorem close_fst :
  (c.close o).1
    = if c.isClosed then
        .ok ()
      else
        match o.close with
        | .ok () => .ok ()
        | .error e => if isTerminalConnectionError e then .ok () else .error e
  := by
  rw [close]
  split
  · rfl
  · cases hclose : o.close <;> rfl

theorem calls_close :
  (c.close o).2.rawConnection.calls
    = c.rawConnection.calls ++ if c.isClosed then [] else [.close]
  := by
  rw [close_snd]
  split
  · rw [List.append_nil]
  · apply Session.calls_close

/-- The clean-up leaves its notes on the error. -/
theorem cleanUp_fst {e : AdbcError} (h : rollsBack e) :
  (c.cleanUp o e).1 = ⟨e, c.cleanUpNotes o⟩
  := by
  rw [cleanUp, if_pos h, cleanUpNotes]
  cases hrollback : o.rollback with
  | ok => rfl
  | error rollbackError =>
      have hraised := close_fst (c.afterRollback o) o
      rw [afterRollback, hrollback] at hraised
      dsimp only at hraised ⊢
      rw [closeNotes]
      generalize hclose : MonetDBConnection.close _ o = closed at hraised ⊢
      obtain ⟨answer, d⟩ := closed
      dsimp only at hraised
      subst hraised
      split_ifs with hclosed
      · rfl
      · cases o.close with
        | ok => rfl
        | error closeError =>
            dsimp only
            split_ifs <;> rfl

theorem calls_cleanUp {e : AdbcError} (h : rollsBack e) :
  (c.cleanUp o e).2.rawConnection.calls = c.rawConnection.calls ++ c.cleanUpCalls o
  := by
  have hrolled : (c.afterRollback o).rawConnection.calls = c.rawConnection.calls ++ [.rollback] :=
    Session.calls_rollback _ _ _
  rw [cleanUp_snd, if_pos h, cleanUpCalls]
  cases o.rollback with
  | ok => apply hrolled
  | error rollbackError =>
      dsimp only
      rw [calls_close, hrolled, List.append_assoc]
      congr 1
      have hclosed : (c.afterRollback o).isClosed = c.isClosed := rfl
      rw [hclosed]
      split_ifs <;> rfl

/-- When it could not roll back, the clean-up leaves the wrapper closed. -/
theorem closed_cleanUp {e rollbackError : AdbcError} (h : rollsBack e)
    (hrollback : o.rollback = .error rollbackError) :
  (c.cleanUp o e).2.closed
  := by
  rw [cleanUp_snd, if_pos h, hrollback]
  apply closed_of_isClosed
  apply isClosed_close

end MonetDBConnection

/-! ### A failing commit -/

open MonetDBConnection

/-- How a commit reports that the raw commit failed with an error. -/
structure ReportsFailure (c : MonetDBConnection) (o : RawOutcomes) (e : AdbcError) : Prop where
  /-- It raises that error. -/
  raises : ∃ notes, (c.commit o).1 = .error ⟨e, notes⟩
  /-- If it rolls back after that error, it makes the raw calls of the clean-up. -/
  calls : rollsBack e → (c.commit o).2.rawConnection.calls
    = c.rawConnection.calls ++ [.getOption, .commit] ++ c.cleanUpCalls o
  /-- Its notes are then those of the clean-up. -/
  notes : rollsBack e → (c.commit o).1 = .error ⟨e, c.cleanUpNotes o⟩
  /-- Otherwise it makes no more raw calls and leaves no note. -/
  silent : ¬ rollsBack e → (c.commit o).1 = .error ⟨e, []⟩ ∧
    (c.commit o).2.rawConnection.calls = c.rawConnection.calls ++ [.getOption, .commit]
  /-- When the rollback was attempted and failed, the error is a disconnect. -/
  disconnects : ∀ rollbackError, rollsBack e → o.rollback = .error rollbackError →
    isDisconnect e (some (c.commit o).2)

/-- A failing commit reports the error of the raw commit, whatever its clean-up does. -/
theorem commit_failure (c : MonetDBConnection) (o : RawOutcomes) {e : AdbcError}
    (hoption : o.getOption = .ok ()) (hread : c.rawConnection.option = false)
    (hcommit : o.commit = .error e) :
  ReportsFailure c o e
  := by
  have hfst : (c.commit o).1 = .error ((c.afterCommit o).cleanUp o e).1 := by
    rw [commit_fst, hoption, hcommit, hread]
    rfl
  have hsnd : (c.commit o).2 = ((c.afterCommit o).cleanUp o e).2 := by
    rw [commit_snd, hoption, hcommit, hread]
    rfl
  have hcalls : (c.afterCommit o).rawConnection.calls
      = c.rawConnection.calls ++ [.getOption, .commit] := by
    simp [afterCommit]
  rw [← Bool.not_eq_true] at hread
  constructor
  · use ((c.afterCommit o).cleanUp o e).1.notes
    rw [hfst]
    by_cases hrolls : rollsBack e
    · rw [cleanUp_fst _ _ hrolls]
    · rw [cleanUp, if_neg hrolls]
  · intro hrolls
    rw [hsnd, calls_cleanUp _ _ hrolls, hcalls]
    rfl
  · intro hrolls
    rw [hfst, cleanUp_fst _ _ hrolls]
    rfl
  · intro hrolls
    rw [hfst, hsnd, cleanUp, if_neg hrolls]
    exact ⟨rfl, hcalls⟩
  · intro rollbackError hrolls hrollback
    rw [hsnd, isDisconnect, Option.any_some, closed_cleanUp _ _ hrolls hrollback, Bool.or_true]

/-- A commit that needed a rollback, where rolling back and closing fail as well. -/
theorem commit_failure_uncleaned :
  ReportsFailure manualConnection
    { commit := .error rollbackRequired, rollback := .error commitTimedOut
      close := .error commitTimedOut } rollbackRequired
  := by
  apply commit_failure
  · rfl
  · rfl
  · rfl

end MonetDB
