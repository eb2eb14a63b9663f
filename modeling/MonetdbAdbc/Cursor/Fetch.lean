import MonetdbAdbc.Arrow.Pylist
import MonetdbAdbc.Cursor.Basic
import MonetdbAdbc.Library.Delivery

/-!
# What fetches return

The rows a cursor has left to return are its `remaining` items: the rest of its buffer and
then the rows of the batches it did not read yet.  The fetches take from these items
(`delivers_fetchone`, `delivers_fetchmany`, `delivers_fetchall`), so a cursor answers
fetches like the stream of its remaining items (`outputs_fetch`).  After an execution the
remaining items are those of the new result (`remaining_of_executed`).
-/

namespace MonetDB

variable {S : Scalars} (N : Numpy S) (A : PyArrow)

/-- The items of a batch: its rows, or the error of converting them.  A batch without rows
is not converted. -/
def Batch.items (batch : Batch) : List (Except PyError Tuple) :=
  if batch.numRows = 0 then
    []
  else
    match batchToRows N batch with
    | .ok rows => rows.map .ok
    | .error e => [.error e]

/-- The items of a stream of batches. -/
def streamItems (stream : List Batch) : List (Except PyError Tuple) :=
  stream.flatMap (Batch.items N)

namespace MonetDBCursor

/-- The items a cursor has left to return. -/
def remaining (c : MonetDBCursor) : List (Except PyError Tuple) :=
  c.buffered.map .ok ++ streamItems N c.unread

/-! ### Reading batches -/

theorem readBatches_spec (batches : List Batch) :
  match readBatches N batches with
  | (.error e, rest) => streamItems N batches = .error e :: streamItems N rest
  | (.ok none, rest) => streamItems N batches = [] ∧ rest = []
  | (.ok (some rows), rest) => streamItems N batches = rows.map .ok ++ streamItems N rest
  := by
  induction batches with
  | nil => exact ⟨rfl, rfl⟩
  | cons batch batches ih =>
      rw [readBatches, streamItems, List.flatMap_cons, ← streamItems]
      split_ifs with hrows
      · rw [Batch.items, if_pos hrows, List.nil_append]
        apply ih
      · rw [Batch.items, if_neg hrows]
        cases batchToRows N batch with
        | error e => rfl
        | ok rows => rfl

/-- Where `_next_batch` leads: it raises the error at the front of the unread items, or
finds that there are none, or buffers the rows at the front. -/
theorem nextBatch_spec {c d : MonetDBCursor} {answer : Except PyError Bool}
    (h : nextBatch N c = (answer, d)) :
  d.cursor.arraysize = c.cursor.arraysize ∧
    match answer with
    | .error e =>
        d.buffered = c.buffered ∧ streamItems N c.unread = .error e :: streamItems N d.unread
    | .ok false =>
        d.buffered = c.buffered ∧ streamItems N c.unread = [] ∧ streamItems N d.unread = []
    | .ok true =>
        d.index = 0 ∧ streamItems N c.unread = d.batch.map .ok ++ streamItems N d.unread
  := by
  rw [nextBatch] at h
  cases hopen : c.openReader with
  | none =>
      rw [hopen] at h
      cases h
      have hunread : c.unread = [] := by rw [unread, hopen]; rfl
      rw [hunread]
      exact ⟨rfl, rfl, rfl, rfl⟩
  | some reader =>
      have hunread : c.unread = c.cursor.readers reader := by rw [unread, hopen]; rfl
      have hspec := readBatches_spec N (c.cursor.readers reader)
      rw [hopen] at h
      rw [hunread]
      cases hread : readBatches N (c.cursor.readers reader) with
      | mk read rest =>
          rw [hread] at hspec
          simp only [hread] at h
          have hrest : ∀ b n, unread
              ⟨c.cursor.advance reader rest, some reader, b, n⟩ = rest := by
            intro b n
            simp [unread, openReader, AdbcCursor.advance]
          cases read with
          | error e =>
              cases h
              exact ⟨rfl, rfl, by rw [hrest]; apply hspec⟩
          | ok found =>
              cases found with
              | none =>
                  cases h
                  refine ⟨rfl, rfl, hspec.1, ?_⟩
                  rw [hrest, hspec.2]
                  rfl
              | some rows =>
                  cases h
                  exact ⟨rfl, rfl, by rw [hrest]; apply hspec⟩

/-! ### Fetching -/

/-- A call returns what taking from the remaining items gives, and leaves the cursor with
the items that are left. -/
structure Delivers {α : Type} (c : MonetDBCursor) (got : Except PyError α × MonetDBCursor)
    (taken : Except PyError α × List (Except PyError Tuple)) : Prop where
  answer : got.1 = taken.1
  left : remaining N got.2 = taken.2
  arraysize : got.2.cursor.arraysize = c.cursor.arraysize

/-- A cursor whose buffer is used up has the unread items left. -/
theorem remaining_of_buffered_eq_nil {c : MonetDBCursor} (h : c.buffered = []) :
  remaining N c = streamItems N c.unread
  := by
  rw [remaining, h]
  rfl

/-- A new buffer and the unread batches are what was unread. -/
theorem remaining_of_index_eq_zero {c : MonetDBCursor} (h : c.index = 0) :
  remaining N c = c.batch.map .ok ++ streamItems N c.unread
  := by
  rw [remaining, buffered, h]
  rfl

/-- The buffer of a cursor whose index is at its end is used up. -/
theorem buffered_eq_nil {c : MonetDBCursor} (h : c.batch.length ≤ c.index) :
  c.buffered = []
  := List.drop_eq_nil_of_le h

/-- Where `_next_batch` leads when the buffer is used up: it raises the error at the front of
the remaining items, or finds that there are none, or keeps them in a new buffer. -/
theorem remaining_nextBatch {c d : MonetDBCursor} {answer : Except PyError Bool}
    (hnil : c.buffered = []) (h : nextBatch N c = (answer, d)) :
  match answer with
  | .error e => remaining N c = .error e :: remaining N d
  | .ok false => remaining N c = [] ∧ remaining N d = []
  | .ok true => remaining N c = remaining N d ∧ d.index = 0
  := by
  obtain ⟨-, hspec⟩ := nextBatch_spec N h
  rw [remaining_of_buffered_eq_nil N hnil]
  match answer with
  | .error e =>
      rw [remaining_of_buffered_eq_nil N (hspec.1.trans hnil)]
      apply hspec.2
  | .ok false =>
      rw [remaining_of_buffered_eq_nil N (hspec.1.trans hnil)]
      apply hspec.2
  | .ok true =>
      rw [remaining_of_index_eq_zero N hspec.1]
      exact ⟨hspec.2, hspec.1⟩

theorem arraysize_nextBatch {c d : MonetDBCursor} {answer : Except PyError Bool}
    (h : nextBatch N c = (answer, d)) :
  d.cursor.arraysize = c.cursor.arraysize
  := (nextBatch_spec N h).1

/-- `fetchone` when the buffer is used up. -/
theorem fetchone_eq {c d : MonetDBCursor} {answer : Except PyError Bool}
    (h : ¬ c.index < c.batch.length) (hnext : nextBatch N c = (answer, d)) :
  c.fetchone N
    = match answer with
      | .error e => (.error e, d)
      | .ok false => (.ok none, d)
      | .ok true => d.fetchone N
  := by
  rw [fetchone, dif_neg h]
  split <;> rename_i hread <;> rw [hnext] at hread <;> cases hread <;> rfl

theorem delivers_fetchone (c : MonetDBCursor) :
  Delivers N c (c.fetchone N) (Delivery.takeOne (remaining N c))
  := by
  induction c using fetchone.induct N with
  | case1 c h =>
      have hbuffered : c.buffered = c.batch[c.index] :: c.batch.drop (c.index + 1) :=
        List.drop_eq_getElem_cons h
      rw [fetchone, dif_pos h, remaining, hbuffered]
      exact ⟨rfl, rfl, rfl⟩
  | case2 c h e d hnext =>
      have hremaining := remaining_nextBatch N (buffered_eq_nil (Nat.le_of_not_lt h)) hnext
      rw [fetchone_eq N h hnext, hremaining]
      exact ⟨rfl, rfl, arraysize_nextBatch N hnext⟩
  | case3 c h d hnext =>
      have hremaining := remaining_nextBatch N (buffered_eq_nil (Nat.le_of_not_lt h)) hnext
      rw [fetchone_eq N h hnext, hremaining.1]
      exact ⟨rfl, hremaining.2, arraysize_nextBatch N hnext⟩
  | case4 c h d hnext _ ih =>
      have hremaining := remaining_nextBatch N (buffered_eq_nil (Nat.le_of_not_lt h)) hnext
      rw [fetchone_eq N h hnext, hremaining.1]
      exact ⟨ih.answer, ih.left, ih.arraysize.trans (arraysize_nextBatch N hnext)⟩

/-- One step of `fetchmany` takes rows of the buffer. -/
theorem takeRows_step (c : MonetDBCursor) (count : Int) (rows : List Tuple)
    (hrows : (rows.length : Int) < count) (hindex : c.index ≤ c.batch.length) :
  let n := c.take count rows
  let taken := rows ++ c.buffered.take n
  let d := { c with index := c.index + n }
  Delivery.takeRows (count - rows.length).toNat (remaining N c)
    = ((c.buffered.take n ++ ·) <$>
        (Delivery.takeRows (count - taken.length).toNat (remaining N d)).1,
      (Delivery.takeRows (count - taken.length).toNat (remaining N d)).2)
  := by
  intro n taken d
  have hlength : (c.buffered.take n).length = n := by
    simp only [buffered, List.length_take, List.length_drop, n, take]
    omega
  have hcount : (count - rows.length).toNat
      = (c.buffered.take n).length + (count - taken.length).toNat := by
    simp only [taken, List.length_append, hlength]
    simp only [n, take]
    omega
  have hremaining : remaining N c = (c.buffered.take n).map .ok ++ remaining N d := by
    have hbuffered : d.buffered = c.buffered.drop n := by
      simp only [buffered, d, List.drop_drop]
    rw [remaining, remaining, hbuffered, ← List.append_assoc, ← List.map_append,
      List.take_append_drop]
    rfl
  rw [hcount, hremaining]
  apply Delivery.takeRows_append

/-- The rows a step took come before those of the steps after it. -/
theorem Delivers.prepend {c d : MonetDBCursor} {taken rows : List Tuple}
    {got : Except PyError (List Tuple) × MonetDBCursor}
    {rest : Except PyError (List Tuple) × List (Except PyError Tuple)}
    (h : Delivers N d got ((rows ++ taken ++ ·) <$> rest.1, rest.2))
    (hsize : d.cursor.arraysize = c.cursor.arraysize) :
  Delivers N c got ((rows ++ ·) <$> ((taken ++ ·) <$> rest.1), rest.2)
  := by
  refine ⟨?_, h.left, h.arraysize.trans hsize⟩
  rw [h.answer]
  cases rest.1 with
  | error e => rfl
  | ok more =>
      show Except.ok (rows ++ taken ++ more) = Except.ok (rows ++ (taken ++ more))
      rw [List.append_assoc]

/-- The loop of `fetchmany` when the buffer is used up. -/
theorem fetchmanyLoop_eq {count : Int} {rows : List Tuple} {c d : MonetDBCursor}
    {answer : Except PyError Bool} (hrows : (rows.length : Int) < count)
    (hindex : c.batch.length ≤ c.index) (hnext : nextBatch N c = (answer, d)) :
  fetchmanyLoop N count rows c
    = match answer with
      | .error e => (.error e, d)
      | .ok false => (.ok rows, d)
      | .ok true =>
        fetchmanyLoop N count (rows ++ d.buffered.take (d.take count rows))
          { d with index := d.index + d.take count rows }
  := by
  rw [fetchmanyLoop, if_pos hrows, if_pos hindex]
  split <;> rename_i hread <;> rw [hnext] at hread <;> cases hread <;> rfl

theorem delivers_fetchmanyLoop (count : Int) (rows : List Tuple) (c : MonetDBCursor) :
  let taken := Delivery.takeRows (count - rows.length).toNat (remaining N c)
  Delivers N c (fetchmanyLoop N count rows c) ((rows ++ ·) <$> taken.1, taken.2)
  := by
  induction rows, c using fetchmanyLoop.induct N count with
  | case1 rows c hrows hindex e d hnext =>
      have hremaining := remaining_nextBatch N (buffered_eq_nil hindex) hnext
      rw [fetchmanyLoop_eq N hrows hindex hnext, hremaining, Delivery.takeRows_error (by omega)]
      exact ⟨rfl, rfl, arraysize_nextBatch N hnext⟩
  | case2 rows c hrows hindex d hnext =>
      have hremaining := remaining_nextBatch N (buffered_eq_nil hindex) hnext
      rw [fetchmanyLoop_eq N hrows hindex hnext, hremaining.1, Delivery.takeRows_nil]
      refine ⟨?_, hremaining.2, arraysize_nextBatch N hnext⟩
      show Except.ok rows = Except.ok (rows ++ [])
      rw [List.append_nil]
  | case3 rows c hrows hindex d hnext _ n ih =>
      have hremaining := remaining_nextBatch N (buffered_eq_nil hindex) hnext
      have hstep := takeRows_step N d count rows hrows (hremaining.2 ▸ Nat.zero_le _)
      rw [fetchmanyLoop_eq N hrows hindex hnext, hremaining.1]
      intro taken
      simp only [taken, hstep]
      have hsize := arraysize_nextBatch N hnext
      apply Delivers.prepend N ih hsize
  | case4 rows c hrows hindex n ih =>
      have hstep := takeRows_step N c count rows hrows (Nat.le_of_not_le hindex)
      rw [fetchmanyLoop, if_pos hrows, if_neg hindex]
      intro taken
      simp only [taken, hstep]
      exact Delivers.prepend N ih rfl
  | case5 rows c hrows =>
      have hzero : (count - rows.length).toNat = 0 := by omega
      rw [fetchmanyLoop, if_neg hrows, hzero, Delivery.takeRows_zero]
      refine ⟨?_, rfl, rfl⟩
      show Except.ok rows = Except.ok (rows ++ [])
      rw [List.append_nil]

theorem delivers_fetchmany (size : Option Int) (c : MonetDBCursor) :
  Delivers N c (c.fetchmany N size)
    (Delivery.takeRows (size.getD c.cursor.arraysize).toNat (remaining N c))
  := by
  have hloop := delivers_fetchmanyLoop N (size.getD c.cursor.arraysize) [] c
  simp only [List.length_nil, Int.ofNat_zero, Int.sub_zero, List.nil_append, id_map'] at hloop
  apply hloop

/-- A step of the loop of `fetchall`. -/
theorem fetchallLoop_eq {rows : List Tuple} {c d : MonetDBCursor} {answer : Except PyError Bool}
    (hnext : nextBatch N c = (answer, d)) :
  fetchallLoop N rows c
    = match answer with
      | .error e => (.error e, d)
      | .ok false => (.ok rows, d)
      | .ok true => fetchallLoop N (rows ++ d.batch) { d with index := d.batch.length }
  := by
  rw [fetchallLoop]
  split <;> rename_i hread <;> rw [hnext] at hread <;> cases hread <;> rfl

theorem delivers_fetchallLoop (rows : List Tuple) (c : MonetDBCursor) (hnil : c.buffered = []) :
  let taken := Delivery.takeAll (remaining N c)
  Delivers N c (fetchallLoop N rows c) ((rows ++ ·) <$> taken.1, taken.2)
  := by
  induction rows, c using fetchallLoop.induct N with
  | case1 rows c e d hnext =>
      have hremaining := remaining_nextBatch N hnil hnext
      rw [fetchallLoop_eq N hnext, hremaining]
      exact ⟨rfl, rfl, arraysize_nextBatch N hnext⟩
  | case2 rows c d hnext =>
      have hremaining := remaining_nextBatch N hnil hnext
      rw [fetchallLoop_eq N hnext, hremaining.1]
      refine ⟨?_, hremaining.2, arraysize_nextBatch N hnext⟩
      show Except.ok rows = Except.ok (rows ++ [])
      rw [List.append_nil]
  | case3 rows c d hnext _ ih =>
      have hremaining := remaining_nextBatch N hnil hnext
      have hused : buffered { d with index := d.batch.length } = [] :=
        buffered_eq_nil (Nat.le_refl _)
      have hnew := ih hused
      rw [remaining_of_buffered_eq_nil N hused] at hnew
      rw [fetchallLoop_eq N hnext, hremaining.1, remaining_of_index_eq_zero N hremaining.2,
        Delivery.takeAll_append]
      have hsize := arraysize_nextBatch N hnext
      apply Delivers.prepend N hnew hsize

theorem delivers_fetchall (c : MonetDBCursor) :
  Delivers N c (c.fetchall N) (Delivery.takeAll (remaining N c))
  := by
  have hused : buffered { c with index := c.batch.length } = [] := buffered_eq_nil (Nat.le_refl _)
  have hloop := delivers_fetchallLoop N c.buffered _ hused
  rw [remaining_of_buffered_eq_nil N hused] at hloop
  rw [remaining, Delivery.takeAll_append]
  exact ⟨hloop.answer, hloop.left, hloop.arraysize⟩

end MonetDBCursor

/-! ### Runs -/

/-- The stream of items answering fetches, with the number of rows `fetchmany` fetches. -/
def deliveryMachine :
    Machine (Int × List (Except PyError Tuple)) Fetch CursorAnswer where
  step s
    | .setArraysize value => (.done, (value, s.2))
    | .fetchone => (Delivery.takeOne s.2).map (.of .row) (Prod.mk s.1)
    | .fetchmany size =>
        (Delivery.takeRows (size.getD s.1).toNat s.2).map (.of .rows) (Prod.mk s.1)
    | .fetchall => (Delivery.takeAll s.2).map (.of .rows) (Prod.mk s.1)

/-- The number of rows `fetchmany` fetches and the items a cursor has left. -/
def MonetDBCursor.delivery (c : MonetDBCursor) : Int × List (Except PyError Tuple) :=
  (c.cursor.arraysize, c.remaining N)

/-- A call that delivers answers, and changes what is left, like the stream of items. -/
theorem MonetDBCursor.Delivers.map {α : Type} {c : MonetDBCursor}
    {got : Except PyError α × MonetDBCursor}
    {taken : Except PyError α × List (Except PyError Tuple)} (h : Delivers N c got taken)
    (f : Except PyError α → CursorAnswer) :
  (got.map f id).map id (delivery N) = taken.map f (Prod.mk c.cursor.arraysize)
  := by
  simp only [Prod.map, id, delivery, h.answer, h.left, h.arraysize]

/-- A cursor answers one fetch like its remaining items. -/
theorem fetchStep_delivers (c : MonetDBCursor) (f : Fetch) :
  (fetchStep N c f).map id (MonetDBCursor.delivery N) = deliveryMachine.step (c.delivery N) f
  := by
  cases f with
  | setArraysize value => rfl
  | fetchone => apply (MonetDBCursor.delivers_fetchone N c).map
  | fetchmany size => apply (MonetDBCursor.delivers_fetchmany N size c).map
  | fetchall => apply (MonetDBCursor.delivers_fetchall N c).map

/-- A cursor answers fetches like its remaining items. -/
theorem outputs_fetch (c : MonetDBCursor) (fetches : List Fetch) :
  (cursorMachine N A).outputs c (fetches.map .fetch)
      = deliveryMachine.outputs (c.delivery N) fetches
    ∧ ((cursorMachine N A).final c (fetches.map .fetch)).delivery N
      = deliveryMachine.final (c.delivery N) fetches
  := by
  rw [Machine.outputs_map, Machine.final_map]
  have hsim := Machine.outputs_eq_of_simulation ((cursorMachine N A).comap CursorCall.fetch)
    deliveryMachine (fun c s => c.delivery N = s) (P := fun _ => True)
  apply hsim _ rfl (fun _ _ => trivial)
  rintro c _ f rfl -
  have hstep := fetchStep_delivers N c f
  exact ⟨congrArg Prod.fst hstep, congrArg Prod.snd hstep⟩

/-! ### Streams that convert -/

/-- A stream whose batches all convert has their rows as items. -/
theorem streamItems_of_mapM {stream : List Batch} {batches : List (List Tuple)}
    (h : stream.mapM (batchToRows N) = .ok batches) :
  streamItems N stream = batches.flatten.map .ok
  := by
  induction stream generalizing batches with
  | nil =>
      cases h
      rfl
  | cons batch stream ih =>
      cases hbatch : batchToRows N batch with
      | error e =>
          rw [Outcome.mapM_cons_error hbatch] at h
          cases h
      | ok rows =>
          rw [Outcome.mapM_cons_ok hbatch] at h
          cases hstream : stream.mapM (batchToRows N) with
          | error e =>
              rw [hstream] at h
              cases h
          | ok rest =>
              rw [hstream] at h
              cases h
              rw [streamItems, List.flatMap_cons, ← streamItems, ih hstream, List.flatten_cons,
                List.map_append, Batch.items]
              split_ifs with hrows
              · rw [batchToRows_of_numRows_eq_zero hrows hbatch]
                rfl
              · rw [hbatch]

/-- What a fetch returns when `rows` are left. -/
def Fetch.expected (arraysize : Int) (rows : List Tuple) : Fetch → CursorAnswer
  | .setArraysize _ => .done
  | .fetchone => .row rows.head?
  | .fetchmany size => .rows (rows.take (size.getD arraysize).toNat)
  | .fetchall => .rows rows

/-- The rows an answer returns. -/
def CursorAnswer.returned : CursorAnswer → List Tuple
  | .row r => r.toList
  | .rows rs => rs
  | _ => []

/-- The number of rows `fetchmany` fetches after a fetch. -/
def Fetch.arraysize (arraysize : Int) : Fetch → Int
  | .setArraysize value => value
  | _ => arraysize

/-- A fetch returns the first of the rows that are left. -/
theorem returned_expected (f : Fetch) (arraysize : Int) (rows : List Tuple) :
  let returned := (f.expected arraysize rows).returned
  returned ++ rows.drop returned.length = rows
  := by
  cases f with
  | setArraysize value => rfl
  | fetchone => cases rows <;> rfl
  | fetchmany size =>
      simp only [Fetch.expected, CursorAnswer.returned, List.length_take]
      rcases Nat.le_total (size.getD arraysize).toNat rows.length with h | h
      · rw [Nat.min_eq_left h, List.take_append_drop]
      · rw [Nat.min_eq_right h, List.drop_length, List.append_nil, List.take_of_length_le h]
  | fetchall =>
      simp only [Fetch.expected, CursorAnswer.returned, List.drop_length, List.append_nil]

/-- A stream without errors answers a fetch as expected and keeps the other rows. -/
theorem deliveryMachine_step (arraysize : Int) (rows : List Tuple) (f : Fetch) :
  deliveryMachine.step (arraysize, rows.map .ok) f
    = (f.expected arraysize rows, f.arraysize arraysize,
        (rows.drop (f.expected arraysize rows).returned.length).map .ok)
  := by
  cases f with
  | setArraysize value => rfl
  | fetchone =>
      simp only [deliveryMachine, Delivery.takeOne_map_ok]
      cases rows <;> rfl
  | fetchmany size =>
      simp only [deliveryMachine, Delivery.takeRows_map_ok, Prod.map, CursorAnswer.of,
        Fetch.expected, Fetch.arraysize, CursorAnswer.returned, List.length_take]
      rcases Nat.le_total (size.getD arraysize).toNat rows.length with h | h
      · rw [Nat.min_eq_left h]
      · rw [Nat.min_eq_right h, List.drop_length, List.drop_eq_nil_of_le h]
  | fetchall =>
      simp only [deliveryMachine, Delivery.takeAll_map_ok, Prod.map, CursorAnswer.of,
        Fetch.expected, Fetch.arraysize, CursorAnswer.returned, List.drop_length]
      rfl

/-- A stream without errors returns its rows in order and keeps those it did not return. -/
theorem deliveryMachine_run (arraysize : Int) (rows : List Tuple) (fetches : List Fetch) :
  let s : Int × List (Except PyError Tuple) := (arraysize, rows.map .ok)
  let returned := (deliveryMachine.outputs s fetches).flatMap CursorAnswer.returned
  returned ++ rows.drop returned.length = rows
    ∧ (deliveryMachine.final s fetches).2 = (rows.drop returned.length).map .ok
  := by
  induction fetches generalizing arraysize rows with
  | nil => exact ⟨rfl, rfl⟩
  | cons f fetches ih =>
      have hstep := deliveryMachine_step arraysize rows f
      have houtput := congrArg Prod.fst hstep
      have hnext := congrArg Prod.snd hstep
      have hfirst := returned_expected f arraysize rows
      rw [← Machine.output] at houtput
      rw [← Machine.next] at hnext
      dsimp only at houtput hnext hfirst ih ⊢
      rw [Machine.outputs_cons, Machine.final_cons, hnext, List.flatMap_cons, houtput]
      generalize (f.expected arraysize rows).returned = first at hfirst ih ⊢
      obtain ⟨hrows, hleft⟩ := ih (f.arraysize arraysize) (rows.drop first.length)
      rw [List.length_append, ← List.drop_drop, List.append_assoc, hrows]
      exact ⟨hfirst, hleft⟩

/-! ### Executing -/

/-- What the wrapped cursor answers when the call makes it execute. -/
def CursorCall.executed? : CursorCall → Option (Except PyError (Option Result))
  | .execute executed => some executed
  | .executemany executed => some executed
  | .executeWithParameterSchema server _ _ => some server.executed
  | .executemanyWithParameterSchema server _ _ => some server.executed
  | .fetch _ => none

/-- The batches of a result, if there is one. -/
def resultStream (result : Option Result) : List Batch :=
  (result.map Result.stream).getD []

namespace MonetDBCursor

/-- Nothing is buffered and no reader is in use. -/
structure IsReset (c : MonetDBCursor) : Prop where
  reader : c.reader = none
  batch : c.batch = []

theorem isReset_reset (c : MonetDBCursor) :
  c.reset.IsReset
  := ⟨rfl, rfl⟩

/-- An execution leaves the items of its result. -/
theorem remaining_executeCursor {c : MonetDBCursor} (h : c.IsReset) (result : Option Result) :
  (c.executeCursor (.ok result)).2.remaining N = streamItems N (resultStream result)
  := by
  rw [remaining_of_buffered_eq_nil]
  · congr 1
    rw [unread, openReader]
    simp only [executeCursor, h.reader]
    cases result with
    | none => rfl
    | some result => simp [AdbcCursor.execute, resultStream]
  · simp only [buffered, executeCursor, h.batch, List.drop_nil]

/-- Binding and executing leaves the items of the result unless it raises. -/
theorem remaining_executeBound (c : MonetDBCursor) {server : Server} {result : Option Result}
    (hserver : server.executed = .ok result) (rows : List Row) (schema : Option Schema)
    {answer : Option Schema} (h : (c.executeBound A server rows schema).1 = .ok answer) :
  (c.executeBound A server rows schema).2.remaining N = streamItems N (resultStream result)
  := by
  rw [executeBound] at h ⊢
  generalize hprepared : (if prepares A rows schema
    then { c.reset with cursor := c.reset.cursor.clear } else c.reset) = d at h ⊢
  have hreset : d.IsReset := by
    rw [← hprepared]
    split_ifs
    · exact ⟨rfl, rfl⟩
    · apply c.isReset_reset
  cases hbind : bindParameters A server.prepared rows schema with
  | error e =>
      rw [hbind] at h
      cases h
  | ok batch =>
      rw [hserver]
      apply remaining_executeCursor N hreset

end MonetDBCursor

/-- A call that executes and does not raise leaves the items of its result. -/
theorem remaining_of_executed (c : MonetDBCursor) {call : CursorCall} {result : Option Result}
    (hcall : call.executed? = some (.ok result))
    (hdone : ∀ e, (cursorMachine N A).output c call ≠ .raised e) :
  ((cursorMachine N A).next c call).remaining N = streamItems N (resultStream result)
  := by
  have hbound : ∀ server rows schema, server.executed = .ok result →
      (∀ e, CursorAnswer.of .executed (c.executeBound A server rows schema).1 ≠ .raised e) →
      (c.executeBound A server rows schema).2.remaining N
        = streamItems N (resultStream result) := by
    intro server rows schema hserver hraise
    cases hanswer : (c.executeBound A server rows schema).1 with
    | error e =>
        rw [hanswer] at hraise
        exact absurd rfl (hraise e)
    | ok answer => apply MonetDBCursor.remaining_executeBound N A c hserver rows schema hanswer
  cases call with
  | execute executed =>
      cases Option.some.inj hcall
      apply MonetDBCursor.remaining_executeCursor N c.isReset_reset
  | executemany executed =>
      cases Option.some.inj hcall
      apply MonetDBCursor.remaining_executeCursor N c.isReset_reset
  | executeWithParameterSchema server parameters schema =>
      apply hbound server [parameters] schema (Option.some.inj hcall) hdone
  | executemanyWithParameterSchema server seqOfParameters schema =>
      cases seqOfParameters with
      | sequence rows => apply hbound server rows schema (Option.some.inj hcall) hdone
      | other =>
          have hserver : server.executed = .ok result := Option.some.inj hcall
          simp only [Machine.next, cursorMachine, Prod.map, id,
            MonetDBCursor.executemanyWithParameterSchema, hserver]
          apply MonetDBCursor.remaining_executeCursor N c.isReset_reset
  | fetch f => cases hcall

/-- After an execution that did not raise, fetches in any order return the items of its
result.  When the batches of the result convert, the rows returned so far are the first
rows of the result, and the next fetch returns what it asks for of the others. -/
theorem fetches_return_result (c : MonetDBCursor) (history : List CursorCall)
    {call : CursorCall} {result : Option Result}
    (hcall : call.executed? = some (.ok result))
    (hdone : ∀ e, (cursorMachine N A).output ((cursorMachine N A).final c history) call
      ≠ .raised e)
    (fetches : List Fetch) (f : Fetch) :
  let m := cursorMachine N A
  let executed := m.final c (history ++ [call])
  let answers := m.outputs executed (fetches.map .fetch)
  let d := m.final executed (fetches.map .fetch)
  let stream := resultStream result
  answers = deliveryMachine.outputs (executed.cursor.arraysize, streamItems N stream) fetches
    ∧ ∀ batches, stream.mapM (batchToRows N) = .ok batches →
        let rows := batches.flatten
        let returned := answers.flatMap CursorAnswer.returned
        let left := rows.drop returned.length
        returned ++ left = rows ∧ m.output d (.fetch f) = f.expected d.cursor.arraysize left
  := by
  intro m executed answers d stream
  have hremaining : executed.remaining N = streamItems N stream := by
    have hfinal : executed = m.next (m.final c history) call := by
      simp only [executed, Machine.final_append, Machine.final_cons, Machine.final_nil]
    rw [hfinal]
    apply remaining_of_executed N A _ hcall hdone
  have hdelivery : executed.delivery N = (executed.cursor.arraysize, streamItems N stream) := by
    rw [MonetDBCursor.delivery, hremaining]
  obtain ⟨hanswers, hd⟩ := outputs_fetch N A executed fetches
  rw [hdelivery] at hanswers hd
  refine ⟨hanswers, ?_⟩
  intro batches hbatches rows returned left
  obtain ⟨hrows, hleft⟩ := deliveryMachine_run executed.cursor.arraysize rows fetches
  rw [← streamItems_of_mapM N hbatches, ← hanswers] at hrows hleft
  refine ⟨hrows, ?_⟩
  have hstate : d.delivery N = (d.cursor.arraysize, left.map .ok) := by
    rw [MonetDBCursor.delivery]
    congr 1
    apply (congrArg Prod.snd hd).trans hleft
  have hstep := congrArg Prod.fst (fetchStep_delivers N d f)
  rw [hstate, deliveryMachine_step] at hstep
  apply hstep

/-- A batch with one column of integers. -/
def integerBatch (values : List Int) : Batch where
  columns := [(⟨"0", .int64, true, none⟩,
    ⟨.int64, values.map fun n => some (.value (.int n)), by
      intro c hc
      obtain ⟨n, -, hn⟩ := List.mem_map.mp hc
      cases hn
      trivial⟩)]
  numRows := values.length
  aligned := by
    intro p hp
    cases List.mem_singleton.mp hp
    apply List.length_map
  typed := by
    intro p hp
    cases List.mem_singleton.mp hp
    rfl

/-- Three rows in two batches, with an empty batch between them, fetched after one row. -/
theorem fetches_return_three_rows :
  let m := cursorMachine utcNumpy integerPyArrow
  let call := CursorCall.execute
    (.ok (some ⟨[], [integerBatch [1, 2], integerBatch [], integerBatch [3]]⟩))
  let executed := m.final (.init ⟨1, none, fun _ => [], 0⟩) [call]
  m.output (m.final executed [.fetch .fetchone]) (.fetch (.fetchmany (some 5)))
    = .rows [[.int 2], [.int 3]]
  := by
  intro m call executed
  have hcall : call.executed? = some (.ok (some _)) := rfl
  have h := fetches_return_result utcNumpy integerPyArrow (.init ⟨1, none, fun _ => [], 0⟩) []
    hcall (fun e h => by cases h) [.fetchone] (.fetchmany (some 5))
  have hanswers : m.outputs executed [.fetch .fetchone] = [.row (some [.int 1])] := h.1
  obtain ⟨-, hnext⟩ := h.2 [[[.int 1], [.int 2]], [], [[.int 3]]] rfl
  rw [List.nil_append, List.map_singleton, hanswers] at hnext
  apply hnext

end MonetDB
