import MonetdbAdbc.Connection.Commit

/-!
# The life of a connection

A wrapper is closed when it was closed or became defunct, and stays so.  The raw connection
is closed once at most: `close` calls the raw `close` only when it has not done so before,
whether it is called from outside or by a failing `commit`.  `lifecycle` states this of
every run of a new wrapper.
-/

namespace MonetDB

/-! ### Raw calls -/

namespace Session

variable (s : Session)

/-- How often the raw connection was closed. -/
def closes : Nat :=
  s.calls.count .close

@[simp]
theorem calls_write :
  s.write.calls = s.calls
  := by
  rw [write]
  split
  · rfl
  · split <;> rfl

@[simp]
theorem calls_startTransaction :
  s.startTransaction.calls = s.calls
  := by
  rw [startTransaction]
  split <;> rfl

@[simp]
theorem calls_commit (outcome : Except AdbcError Unit) :
  (s.commit outcome).calls = s.calls ++ [.commit]
  := by
  rw [Session.commit.eq_def]
  split
  · rfl
  · split <;> rfl

@[simp]
theorem calls_rollback (outcome : Except AdbcError Unit) (ends : Bool) :
  (s.rollback outcome ends).calls = s.calls ++ [.rollback]
  := by
  rw [Session.rollback.eq_def]
  split
  · rfl
  · split <;> rfl

@[simp]
theorem calls_close (outcome : Except AdbcError Unit) :
  (s.close outcome).calls = s.calls ++ [.close]
  := by
  rw [Session.close.eq_def]
  split <;> rfl

@[simp]
theorem calls_setAutocommit (value : Bool) (outcome : Except AdbcError Unit) (fate : Fate) :
  (s.setAutocommit value outcome fate).calls = s.calls ++ [.setAutocommit value]
  := by
  rw [Session.setAutocommit.eq_def]
  split <;> rfl

@[simp]
theorem calls_record (call : RawCall) :
  (s.record call).calls = s.calls ++ [call]
  := rfl

end Session

/-! ### Closing once -/

namespace MonetDBConnection

/-- The raw connection was closed `n` times before, and once more if the wrapper was
closed. -/
def ClosedOnce (n : Nat) (c : MonetDBConnection) : Prop :=
  c.rawConnection.closes = n + c.isClosed.toNat

variable {n : Nat} {c : MonetDBConnection}

/-- Raw calls other than `close` do not count. -/
theorem ClosedOnce.of_calls {d : MonetDBConnection} (h : c.ClosedOnce n) (calls : List RawCall)
    (hcalls : d.rawConnection.calls = c.rawConnection.calls ++ calls) (hclose : .close ∉ calls)
    (hclosed : d.isClosed = c.isClosed) :
  d.ClosedOnce n
  := by
  rw [ClosedOnce, Session.closes, hcalls, List.count_append, List.count_eq_zero.mpr hclose, hclosed]
  apply h

theorem ClosedOnce.close (h : c.ClosedOnce n) (o : RawOutcomes) :
  (c.close o).2.ClosedOnce n
  := by
  rw [close_snd]
  split
  · apply h
  · rename_i hopen
    rw [ClosedOnce, eq_false_of_ne_true hopen] at h
    rw [ClosedOnce, Session.closes, Session.calls_close, List.count_append, ← Session.closes, h]
    rfl

theorem ClosedOnce.commit (h : c.ClosedOnce n) (o : RawOutcomes) :
  (c.commit o).2.ClosedOnce n
  := by
  have hoption : c.afterOption.ClosedOnce n := by
    apply h.of_calls [.getOption] (Session.calls_record _ _)
    · simp
    · rfl
  apply commit_preserves c o hoption
  · apply hoption.of_calls [.commit] (Session.calls_commit _ _)
    · simp
    · rfl
  · intro d hd
    apply hd.of_calls [.rollback] (Session.calls_rollback _ _ _)
    · simp
    · rfl
  · intro d hd
    apply hd.close

theorem ClosedOnce.rollback (h : c.ClosedOnce n) (o : RawOutcomes) :
  (c.rollback o).2.ClosedOnce n
  := by
  have hcalls := congrArg Session.calls (rawConnection_rollback c o)
  have hclosed := isClosed_rollback c o
  split at hcalls
  · apply h.of_calls [] (by simpa using hcalls) (by simp) hclosed
  · split at hcalls
    · apply h.of_calls [.getOption] (by simpa using hcalls) (by simp) hclosed
    · split at hcalls
      · apply h.of_calls [.getOption] (by simpa using hcalls) (by simp) hclosed
      · apply h.of_calls [.getOption, .rollback] (by simpa using hcalls) (by simp) hclosed

/-- `set_autocommit` does not close the raw connection. -/
theorem isClosed_setAutocommit (c : MonetDBConnection) (value : Bool) (o : RawOutcomes) :
  (c.setAutocommit value o).2.isClosed = c.isClosed
  := by
  rw [setAutocommit, autocommit]
  cases o.getOption with
  | error e => rfl
  | ok =>
      dsimp only [Functor.map, Except.map]
      split <;> rfl

theorem ClosedOnce.setAutocommit (h : c.ClosedOnce n) (value : Bool) (o : RawOutcomes) :
  (c.setAutocommit value o).2.ClosedOnce n
  := by
  have hcalls := congrArg Session.calls (rawConnection_setAutocommit c o value)
  have hclosed := isClosed_setAutocommit c value o
  split at hcalls
  · apply h.of_calls [.getOption] (by simpa using hcalls) (by simp) hclosed
  · split at hcalls
    · apply h.of_calls [.getOption] (by simpa using hcalls) (by simp) hclosed
    · apply h.of_calls [.getOption, .setAutocommit value] (by simpa using hcalls) (by simp) hclosed

theorem closedOnce_next (h : c.ClosedOnce n) (call : ConnectionCall) :
  (connectionMachine.next c call).ClosedOnce n
  := by
  cases call with
  | write =>
      apply h.of_calls (d := { c with rawConnection := c.rawConnection.write }) [] _ (by simp) rfl
      simp
  | startTransaction =>
      apply h.of_calls (d := { c with rawConnection := c.rawConnection.startTransaction }) [] _
        (by simp) rfl
      simp
  | commit o => apply h.commit
  | rollback o => apply h.rollback
  | close o => apply h.close
  | setAutocommit value o => apply h.setAutocommit

/-! ### Staying closed -/

theorem closed_of_isClosed (h : c.isClosed) :
  c.closed
  := by
  rw [closed, h]
  rfl

theorem isClosed_close (c : MonetDBConnection) (o : RawOutcomes) :
  (c.close o).2.isClosed
  := by
  rw [close_snd]
  split
  · assumption
  · rfl

theorem isClosed_commit (h : c.isClosed) (o : RawOutcomes) :
  (c.commit o).2.isClosed
  := by
  apply commit_preserves (I := fun d => d.isClosed) c o h h
  · intro d hd
    apply hd
  · intro d _
    apply isClosed_close

theorem isClosed_next (h : c.isClosed) (call : ConnectionCall) :
  (connectionMachine.next c call).isClosed
  := by
  cases call with
  | write => apply h
  | startTransaction => apply h
  | commit o => apply isClosed_commit h
  | rollback o => apply (isClosed_rollback c o).trans h
  | close o => apply isClosed_close
  | setAutocommit value o => apply (isClosed_setAutocommit c value o).trans h

/-- What a `rollback` that raises leaves of `closed`. -/
theorem closed_of_rollback_error {o : RawOutcomes} {e : AdbcError}
    (h : (c.rollback o).1 = .error e) :
  (c.rollback o).2.closed = (isTerminalConnectionError e || c.closed)
  := by
  have hrollback := rollback_eq c o
  split at hrollback
  · rw [hrollback] at h
    cases h
  · split at hrollback
    · rw [hrollback] at h ⊢
      cases h
      apply closed_afterRaise
    · split at hrollback
      · rw [hrollback] at h
        cases h
      · split at hrollback
        · rw [hrollback] at h
          cases h
        · rw [hrollback] at h ⊢
          cases h
          apply closed_afterRaise

end MonetDBConnection

/-! ### Runs -/

open MonetDBConnection

/-- The life of a wrapper through a run. -/
structure Lifecycle (c : MonetDBConnection) (calls : List ConnectionCall) : Prop where
  /-- A wrapper that is closed stays closed. -/
  stays : ∀ before after, calls = before ++ after → (connectionMachine.final c before).closed →
    (connectionMachine.final c calls).closed
  /-- The raw connection is closed at most once. -/
  atMostOnce : (connectionMachine.final c calls).rawConnection.closes ≤ c.rawConnection.closes + 1
  /-- The raw connection is closed once when `close` was called. -/
  once : ∀ o, .close o ∈ calls →
    (connectionMachine.final c calls).rawConnection.closes = c.rawConnection.closes + 1
  /-- `close` closes the wrapper, whatever the raw close does. -/
  closes : ∀ before o after, calls = before ++ .close o :: after →
    (connectionMachine.next (connectionMachine.final c before) (.close o)).closed
  /-- A `rollback` that raises a terminal error closes the wrapper; one that raises another
  error leaves it as it was. -/
  raises : ∀ before o after, calls = before ++ .rollback o :: after →
    let d := connectionMachine.final c before
    ∀ r, connectionMachine.output d (.rollback o) = .error r →
      (connectionMachine.next d (.rollback o)).closed
        = (isTerminalConnectionError r.error || d.closed)
  /-- Once the wrapper is closed, `rollback` makes no raw call and raises nothing. -/
  silent : ∀ before o after, calls = before ++ .rollback o :: after →
    let d := connectionMachine.final c before
    d.closed → connectionMachine.step d (.rollback o) = (.ok (), d)

/-- The raw connection is closed as often as a new wrapper is. -/
theorem closedOnce_final (s : Session) (calls : List ConnectionCall) :
  (connectionMachine.final { rawConnection := s } calls).ClosedOnce s.closes
  := by
  apply connectionMachine.invariant_of_next (I := ClosedOnce s.closes)
  · intro c call hc
    apply closedOnce_next hc
  · rfl

/-- A run that calls `close` closes the wrapper. -/
theorem isClosed_final {c : MonetDBConnection} {calls : List ConnectionCall} {o : RawOutcomes}
    (h : .close o ∈ calls) :
  (connectionMachine.final c calls).isClosed
  := by
  obtain ⟨before, after, rfl⟩ := List.append_of_mem h
  rw [Machine.final_append, Machine.final_cons]
  apply connectionMachine.invariant_of_next (I := fun c => c.isClosed)
  · intro c call hc
    apply isClosed_next hc
  · apply isClosed_close

/-- The life of a new wrapper, in any run and whatever its raw calls do. -/
theorem lifecycle (s : Session) (calls : List ConnectionCall) :
  Lifecycle { rawConnection := s } calls
  := by
  have hcount := closedOnce_final s calls
  rw [ClosedOnce] at hcount
  constructor
  · rintro before after rfl hclosed
    rw [Machine.final_append]
    apply connectionMachine.invariant_of_next (I := fun c => c.closed) _ hclosed
    intro c call hc
    apply closed_next hc
  · rw [hcount]
    apply Nat.add_le_add_left
    apply Bool.toNat_le
  · intro o ho
    rw [hcount, isClosed_final ho]
    rfl
  · intro before o after _
    apply closed_of_isClosed
    apply isClosed_close
  · intro before o after _ d r hraised
    simp only [Machine.output, connectionMachine, Prod.map] at hraised
    cases hrollback : (d.rollback o).1 with
    | ok =>
        rw [hrollback] at hraised
        cases hraised
    | error e =>
        rw [hrollback] at hraised
        cases hraised
        apply closed_of_rollback_error hrollback
  · intro before o after _ d hclosed
    simp only [connectionMachine, rollback, hclosed, if_true]
    rfl

end MonetDB
