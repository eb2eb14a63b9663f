import MonetdbAdbc.Connection.Basic

/-!
# Failed commits

A commit that raises should leave no transaction open, or else the wrapper closed, so that
what it did not commit is not committed later.  `commit_ends_iff` says when one call of
`commit` does so.  `failed_commits_stay_uncommitted` carries this through runs: while every
commit is such a call, no later commit makes a write durable that was made before a commit
that raised.
-/

namespace MonetDB

/-! ### The session -/

namespace Session

/-- Every write of the open transaction, and every write to come, has at least this
number. -/
structure Since (first : Write) (s : Session) : Prop where
  clock : first ≤ s.clock
  pending : ∀ w ∈ s.pending, first ≤ w

variable {first : Write} {s : Session}

theorem Since.record (h : s.Since first) (call : RawCall) :
  (s.record call).Since first
  := ⟨h.clock, h.pending⟩

theorem Since.discard (h : s.Since first) :
  s.discard.Since first
  := ⟨h.clock, by rintro w ⟨⟩⟩

theorem Since.commitPending (h : s.Since first) :
  s.commitPending.Since first
  := ⟨h.clock, by rintro w ⟨⟩⟩

/-- The session of an ended transaction has writes to come only. -/
theorem since_of_no_transaction (h : s.transaction = none) :
  s.Since s.clock
  := by
  constructor
  · apply Nat.le_refl
  · intro w hw
    rw [pending, h] at hw
    cases hw

/-- A write adds its own number at most to the open transaction. -/
theorem mem_pending_write {w : Write} (h : w ∈ s.write.pending) :
  w ∈ s.pending ∨ w = s.clock
  := by
  rw [Session.write] at h
  cases ht : s.transaction with
  | none =>
      rw [ht] at h
      by_cases hmode : s.mode
      · simp [Session.pending, hmode] at h
      · simp only [Session.pending, hmode] at h
        exact .inr (List.mem_singleton.mp h)
  | some t =>
      rw [ht] at h
      rcases List.mem_append.mp h with h | h
      · left
        rw [Session.pending, ht]
        apply h
      · exact .inr (List.mem_singleton.mp h)

theorem clock_write (s : Session) :
  s.write.clock = s.clock + 1
  := by
  rw [Session.write]
  split
  · rfl
  · split <;> rfl

theorem Since.write (h : s.Since first) :
  s.write.Since first
  := by
  constructor
  · rw [clock_write]
    apply Nat.le_succ_of_le h.clock
  · intro w hw
    rcases mem_pending_write hw with hw | rfl
    · apply h.pending w hw
    · apply h.clock

theorem Since.startTransaction (h : s.Since first) :
  s.startTransaction.Since first
  := by
  rw [Session.startTransaction]
  split
  · apply h
  · exact ⟨h.clock, by rintro w ⟨⟩⟩

theorem Since.commit (h : s.Since first) (outcome : Except AdbcError Unit) :
  (s.commit outcome).Since first
  := by
  rw [Session.commit.eq_def]
  split
  · apply (h.record _).commitPending
  · split
    · apply (h.record _).discard
    · apply h.record _

theorem Since.rollback (h : s.Since first) (outcome : Except AdbcError Unit) (ends : Bool) :
  (s.rollback outcome ends).Since first
  := by
  rw [Session.rollback.eq_def]
  split
  · apply (h.record _).discard
  · split
    · apply (h.record _).discard
    · apply h.record _

theorem Since.close (h : s.Since first) (outcome : Except AdbcError Unit) :
  (s.close outcome).Since first
  := by
  rw [Session.close.eq_def]
  split
  · apply (h.record _).discard
  · apply h.record _

theorem Since.setAutocommit (h : s.Since first) (value : Bool) (outcome : Except AdbcError Unit)
    (fate : Fate) :
  (s.setAutocommit value outcome fate).Since first
  := by
  have hrecord := h.record (.setAutocommit value)
  rw [Session.setAutocommit.eq_def]
  split
  · apply hrecord
  · exact ⟨hrecord.clock, hrecord.pending⟩
  · exact ⟨hrecord.commitPending.clock, hrecord.commitPending.pending⟩
  · exact ⟨hrecord.discard.clock, hrecord.discard.pending⟩

/-- A commit makes only writes of the open transaction durable. -/
theorem mem_durable_commit {outcome : Except AdbcError Unit} {w : Write}
    (h : w ∈ (s.commit outcome).durable) :
  w ∈ s.durable ∨ w ∈ s.pending
  := by
  rw [Session.commit.eq_def] at h
  split at h
  · apply List.mem_append.mp h
  · split at h
    · exact .inl h
    · exact .inl h

theorem durable_rollback (outcome : Except AdbcError Unit) (ends : Bool) :
  (s.rollback outcome ends).durable = s.durable
  := by
  rw [Session.rollback.eq_def]
  split
  · rfl
  · split <;> rfl

theorem durable_close (outcome : Except AdbcError Unit) :
  (s.close outcome).durable = s.durable
  := by
  rw [Session.close.eq_def]
  split <;> rfl

end Session

/-! ### The wrapper -/

namespace MonetDBConnection

variable {first : Write} {c : MonetDBConnection}

theorem since_close (h : c.rawConnection.Since first) (o : RawOutcomes) :
  (c.close o).2.rawConnection.Since first
  := by
  rw [close_snd]
  split
  · apply h
  · apply h.close

theorem since_commit (h : c.rawConnection.Since first) (o : RawOutcomes) :
  (c.commit o).2.rawConnection.Since first
  := by
  apply commit_preserves (I := fun d => d.rawConnection.Since first)
  · apply h.record
  · apply (h.record _).commit
  · intro d hd
    apply hd.rollback
  · intro d hd
    apply since_close hd

theorem since_rollback (h : c.rawConnection.Since first) (o : RawOutcomes) :
  (c.rollback o).2.rawConnection.Since first
  := by
  rw [rawConnection_rollback]
  split
  · apply h
  · split
    · apply h.record
    · split
      · apply h.record
      · apply (h.record _).rollback

theorem since_setAutocommit (h : c.rawConnection.Since first) (value : Bool) (o : RawOutcomes) :
  (c.setAutocommit value o).2.rawConnection.Since first
  := by
  rw [rawConnection_setAutocommit]
  split
  · apply h.record
  · split
    · apply h.record
    · apply (h.record _).setAutocommit

/-- A closed wrapper stays closed. -/
theorem closed_close (h : c.closed) (o : RawOutcomes) :
  (c.close o).2.closed
  := by
  rw [close_snd]
  split
  · apply h
  · rfl

theorem closed_commit (h : c.closed) (o : RawOutcomes) :
  (c.commit o).2.closed
  := by
  apply commit_preserves (I := fun d => d.closed) c o h h
  · intro d hd
    apply hd
  · intro d hd
    apply closed_close hd

theorem closed_rollback (h : c.closed) (o : RawOutcomes) :
  (c.rollback o).2.closed
  := by
  rw [rollback, if_pos h]
  apply h

theorem closed_next (h : c.closed) (call : ConnectionCall) :
  (connectionMachine.next c call).closed
  := by
  cases call with
  | write => apply h
  | startTransaction => apply h
  | commit o => apply closed_commit h
  | rollback o => apply closed_rollback h
  | close o => apply closed_close h
  | setAutocommit value o => apply (closed_setAutocommit c o value).trans h

theorem durable_close (c : MonetDBConnection) (o : RawOutcomes) :
  (c.close o).2.rawConnection.durable = c.rawConnection.durable
  := by
  rw [close_snd]
  split
  · rfl
  · apply Session.durable_close

theorem durable_cleanUp (c : MonetDBConnection) (o : RawOutcomes) (e : AdbcError) :
  (c.cleanUp o e).2.rawConnection.durable = c.rawConnection.durable
  := by
  apply cleanUp_preserves (I := fun d => d.rawConnection.durable = c.rawConnection.durable)
  · intro d hd
    apply (Session.durable_rollback _ _).trans hd
  · intro d hd
    apply (durable_close d o).trans hd
  · rfl

/-- A commit makes only writes of the open transaction durable. -/
theorem mem_durable_commit {o : RawOutcomes} {w : Write}
    (h : w ∈ (c.commit o).2.rawConnection.durable) :
  w ∈ c.rawConnection.durable ∨ w ∈ c.rawConnection.pending
  := by
  have hcommit : w ∈ (c.afterCommit o).rawConnection.durable →
      w ∈ c.rawConnection.durable ∨ w ∈ c.rawConnection.pending := Session.mem_durable_commit
  rw [commit_snd] at h
  split at h
  · exact .inl h
  · split at h
    · exact .inl h
    · split at h
      · apply hcommit h
      · rw [durable_cleanUp] at h
        apply hcommit h

/-! ### One commit -/

/-- The condition under which `commit` raises only with the transaction ended: the wrapper
is closed already, or no transaction is open, or the option can be read, and if it reads
false then the raw commit succeeds, or fails with an error that ended the transaction or
that `commit` rolls back after. -/
def CommitEnds (c : MonetDBConnection) (o : RawOutcomes) : Prop :=
  c.closed ∨ c.rawConnection.transaction = none ∨
    o.getOption = .ok () ∧
      (c.rawConnection.option ∨ ∀ e, o.commit = .error e → e.endsTransaction ∨ rollsBack e)

/-- The clean-up leaves no transaction open or the wrapper closed when the error makes it
roll back. -/
theorem cleanUp_ends (c : MonetDBConnection) (o : RawOutcomes) {e : AdbcError} (h : rollsBack e) :
  (c.cleanUp o e).2.rawConnection.transaction = none ∨ (c.cleanUp o e).2.closed
  := by
  rw [cleanUp_snd, if_pos h]
  cases hrollback : o.rollback with
  | ok =>
      left
      simp only [afterRollback, hrollback]
      rfl
  | error rollbackError =>
      right
      dsimp only
      rw [close_snd]
      split
      · rename_i hclosed
        simp only [closed, hclosed, Bool.true_or]
      · rfl

/-- A failed raw commit ends the transaction or leaves it as it was. -/
theorem transaction_afterCommit {o : RawOutcomes} {e : AdbcError} (h : o.commit = .error e) :
  (c.afterCommit o).rawConnection.transaction = none
    ↔ e.endsTransaction ∨ c.rawConnection.transaction = none
  := by
  rw [afterCommit, h]
  simp only [Session.commit]
  split
  · rename_i hends
    exact ⟨fun _ => .inl hends, fun _ => rfl⟩
  · rename_i hends
    exact ⟨.inr, fun h => h.resolve_left hends⟩

/-- The transaction has ended or the wrapper is closed after the clean-up, exactly when it
was so before the commit or the error ended the transaction or makes `commit` roll back. -/
theorem cleanUp_ends_iff (c : MonetDBConnection) {o : RawOutcomes} {e : AdbcError}
    (h : o.commit = .error e) :
  (((c.afterCommit o).cleanUp o e).2.rawConnection.transaction = none ∨
      ((c.afterCommit o).cleanUp o e).2.closed) ↔
    c.closed ∨ c.rawConnection.transaction = none ∨ e.endsTransaction ∨ rollsBack e
  := by
  by_cases hrolls : rollsBack e
  · constructor
    · intro _
      exact .inr (.inr (.inr hrolls))
    · intro _
      apply cleanUp_ends _ o hrolls
  · have hclosed : (c.afterCommit o).closed = c.closed := rfl
    rw [cleanUp_snd, if_neg hrolls, transaction_afterCommit h, hclosed]
    constructor
    · rintro ((h | h) | h)
      · exact .inr (.inr (.inl h))
      · exact .inr (.inl h)
      · exact .inl h
    · rintro (h | h | h | h)
      · exact .inr h
      · exact .inl (.inr h)
      · exact .inl (.inl h)
      · exact absurd h hrolls

/-- A commit that raises ends the transaction or closes the wrapper exactly under this
condition. -/
theorem commit_ends_iff (c : MonetDBConnection) (o : RawOutcomes) :
  (∀ r, (c.commit o).1 = .error r →
      (c.commit o).2.rawConnection.transaction = none ∨ (c.commit o).2.closed)
    ↔ CommitEnds c o
  := by
  rw [commit_fst, commit_snd, CommitEnds]
  cases hoption : o.getOption with
  | error e =>
      constructor
      · intro h
        obtain h | h := h _ rfl
        · exact .inr (.inl h)
        · exact .inl h
      · rintro (h | h | ⟨⟨⟩, -⟩) r -
        · exact .inr h
        · exact .inl h
  | ok =>
      by_cases hread : c.rawConnection.option
      · simp only [hread, if_true]
        constructor
        · intro _
          exact .inr (.inr ⟨trivial, .inl trivial⟩)
        · rintro - r ⟨⟩
      · simp only [hread, Bool.false_eq_true, if_false, false_or, true_and]
        cases hcommit : o.commit with
        | ok =>
            constructor
            · intro _
              right
              right
              rintro e ⟨⟩
            · rintro - r ⟨⟩
        | error e =>
            dsimp only
            rw [cleanUp_ends_iff c hcommit]
            constructor
            · intro h
              obtain h | h | h := h _ rfl
              · exact .inl h
              · exact .inr (.inl h)
              · right
                right
                rintro e' ⟨⟩
                apply h
            · rintro (h | h | h) r -
              · exact .inl h
              · exact .inr (.inl h)
              · exact .inr (.inr (h e rfl))

end MonetDBConnection

/-! ### Runs -/

open MonetDBConnection

/-- Every commit of a run is one that raises only with the transaction ended. -/
def CommitCondition (c : MonetDBConnection) : ConnectionCall → Prop
  | .commit o => CommitEnds c o
  | _ => True

/-- No write from before `first` can become durable any more, unless the wrapper is
closed. -/
def ClosedOrSince (first : Write) (c : MonetDBConnection) : Prop :=
  c.closed ∨ c.rawConnection.Since first

/-- Every call preserves this. -/
theorem closedOrSince_next {first : Write} {c : MonetDBConnection} (h : ClosedOrSince first c)
    (call : ConnectionCall) :
  ClosedOrSince first (connectionMachine.next c call)
  := by
  rcases h with h | h
  · left
    apply closed_next h
  · right
    cases call with
    | write => apply h.write
    | startTransaction => apply h.startTransaction
    | commit o => apply since_commit h
    | rollback o => apply since_rollback h
    | close o => apply since_close h
    | setAutocommit value o => apply since_setAutocommit h

/-- Along a run whose commits satisfy the condition, a commit that raises leaves no
transaction open or the wrapper closed, and while the wrapper is not closed no later commit
makes a write durable that was made before it. -/
theorem failed_commits_stay_uncommitted (c : MonetDBConnection) (calls : List ConnectionCall)
    (h : connectionMachine.Along CommitCondition c calls)
    (before after : List ConnectionCall) (o : RawOutcomes)
    (hcalls : calls = before ++ .commit o :: after) (r : Raised)
    (hraised : connectionMachine.output (connectionMachine.final c before) (.commit o)
      = .error r) :
  let failed := connectionMachine.next (connectionMachine.final c before) (.commit o)
  (failed.rawConnection.transaction = none ∨ failed.closed) ∧
    ∀ between o' rest, after = between ++ .commit o' :: rest →
      let d := connectionMachine.final failed between
      d.closed = false →
        ∀ w ∈ (connectionMachine.next d (.commit o')).rawConnection.durable,
          w ∉ d.rawConnection.durable → failed.rawConnection.clock ≤ w
  := by
  intro failed
  have hcondition := (connectionMachine.along_iff _ _ _).mp h before (.commit o) after hcalls
  have hended := (commit_ends_iff _ o).mpr hcondition r hraised
  refine ⟨hended, ?_⟩
  rintro between o' rest - d hopen w hw hnew
  have hfailed : ClosedOrSince failed.rawConnection.clock failed := by
    rcases hended with hnone | hclosed
    · exact .inr (Session.since_of_no_transaction hnone)
    · exact .inl hclosed
  have hd : ClosedOrSince failed.rawConnection.clock d :=
    connectionMachine.invariant_of_next (I := ClosedOrSince failed.rawConnection.clock)
      (fun s i hs => closedOrSince_next hs i) hfailed between
  rcases hd with hclosed | hsince
  · rw [hopen] at hclosed
    cases hclosed
  · rcases mem_durable_commit hw with hold | hpending
    · exact absurd hold hnew
    · apply hsince.pending w hpending

/-- A new connection in manual mode. -/
def manualConnection : MonetDBConnection :=
  { rawConnection := ⟨false, none, [], 0, []⟩ }

/-- The error of a commit that needs a rollback. -/
def rollbackRequired : AdbcError :=
  ⟨.programmingError, .invalidState, some "25005", [], "ROLLBACK is required"⟩

/-- The error of a commit that timed out. -/
def commitTimedOut : AdbcError :=
  ⟨.operationalError, .timeout, some "HYT00", [], "timed out"⟩

/-- After a commit that needed a rollback, the next commit commits new writes only. -/
theorem rollback_required_then_commit :
  let failed := connectionMachine.final manualConnection
    [.write, .commit { commit := .error rollbackRequired }]
  let d := connectionMachine.final failed [.write]
  ∀ w ∈ (connectionMachine.next d (.commit {})).rawConnection.durable,
    w ∉ d.rawConnection.durable → failed.rawConnection.clock ≤ w
  := by
  intro failed d
  have h := failed_commits_stay_uncommitted manualConnection
    [.write, .commit { commit := .error rollbackRequired }, .write, .commit {}]
    ⟨trivial, .inr (.inr ⟨rfl, .inr (by rintro e ⟨⟩; exact .inr rfl)⟩), trivial,
      .inr (.inr ⟨rfl, .inr (by rintro e ⟨⟩)⟩), trivial⟩
    [.write] [.write, .commit {}] { commit := .error rollbackRequired } rfl ⟨rollbackRequired, []⟩
    rfl
  apply h.2 [.write] {} [] rfl rfl

/-- After a commit that timed out the transaction is open and the wrapper is not closed, and
the next commit makes the write durable that the failed commit did not. -/
theorem timed_out_commit_is_committed_later :
  let m := connectionMachine
  let failing := ConnectionCall.commit { commit := .error commitTimedOut }
  let failed := m.final manualConnection [.write, failing]
  m.output (m.final manualConnection [.write]) failing = .error ⟨commitTimedOut, []⟩
    ∧ failed.rawConnection.transaction = some ⟨false, [0]⟩ ∧ failed.closed = false
    ∧ (m.next failed (.commit {})).rawConnection.durable = [0]
  := by
  refine ⟨rfl, rfl, rfl, rfl⟩

end MonetDB
