import MonetdbAdbc.Arrow.Convert

/-!
# When the fast conversion agrees with `to_pylist`

`columnToPylist` and `toPylist` have the same outcome exactly on the `Convertible`
columns (`columnToPylist_agrees_iff`).  A naive date or timestamp column is convertible
when Python represents each of its values.  A timestamp column with a time zone is
convertible unless it is empty and its zone has no time zone object.
-/

namespace MonetDB

variable {S : Scalars} (N : Numpy S)

/-- Python has a date or a datetime for a count of units. -/
def Represents : DataType → Int → Prop
  | .date32, n => IsDay n
  | .timestamp u _, n => ∃ k, u.micros? = some k ∧ IsInstant (k * n)
  | _, _ => True

/-- The columns on which the fast conversion and `to_pylist` have the same outcome. -/
structure Convertible (S : Scalars) (col : Column) : Prop where
  /-- Python represents every value of a naive date or timestamp column. -/
  represents : isDatetime64 col.type → col.type.tz = none →
    ∀ n, some (.ticks n) ∈ col.cells → Represents col.type n
  /-- The zone of an empty timestamp column has a time zone object. -/
  resolves : isDatetime64 col.type → ∀ z, col.type.tz = some z → col.cells = [] →
    ∃ timezone, S.stringToTzinfo z = .ok timezone

/-! ### Slots -/

/-- The slots of a column that goes through `datetime64` are counts of units. -/
theorem Column.exists_ticks {col : Column} (h : isDatetime64 col.type) {c : Cell}
    (hc : some c ∈ col.cells) :
  ∃ n, c = .ticks n
  := by
  have hfits := col.fits c hc
  cases c with
  | ticks n => exact ⟨n, rfl⟩
  | value v =>
      cases htype : col.type <;> rw [htype] at h hfits
      case date32 => exact absurd hfits not_false
      case timestamp => exact absurd hfits not_false
      all_goals cases h

/-- The types that go through `datetime64` are days and timestamps in seconds,
milliseconds and microseconds. -/
theorem isDatetime64_cases {type : DataType} (h : isDatetime64 type) :
  type = .date32 ∨ ∃ u z k, type = .timestamp u z ∧ u.micros? = some k
  := by
  cases type with
  | date32 =>
      left
      rfl
  | timestamp u z =>
      right
      cases u with
      | s => exact ⟨.s, z, _, rfl, rfl⟩
      | ms => exact ⟨.ms, z, _, rfl, rfl⟩
      | us => exact ⟨.us, z, _, rfl, rfl⟩
      | ns => cases h
  | _ => cases h

/-- Units in a datetime number at least one microsecond. -/
theorem TimeUnit.one_le_micros {u : TimeUnit} {k : Int} (h : u.micros? = some k) :
  1 ≤ k
  := by
  cases u <;> cases h <;> decide

/-- No instant has the bit pattern of "not a time". -/
theorem ne_notATime {u : TimeUnit} {k n : Int} (hk : u.micros? = some k)
    (h : IsInstant (k * n)) :
  n ≠ notATime
  := by
  rintro rfl
  obtain ⟨hmin, -⟩ := h
  have hone := TimeUnit.one_le_micros hk
  have hle : k * notATime ≤ 1 * notATime := by
    apply Int.mul_le_mul_of_nonpos_right hone
    decide
  have hlt : 1 * notATime < minInstant := by decide
  omega

/-! ### Naive dates and timestamps -/

/-- A value Python represents converts to the same object both ways. -/
theorem slotToPy_of_represents {type : DataType} (h : isDatetime64 type) (hz : type.tz = none)
    {n : Int} (hn : Represents type n) :
  slotToPy S type (some (.ticks n)) = .ok (datetime64Item type (some (.ticks n)))
  := by
  rcases isDatetime64_cases h with rfl | ⟨u, z, k, rfl, hk⟩
  · simp only [Represents] at hn
    simp only [slotToPy, asPy, datetime64Item, if_pos hn]
  · obtain ⟨k', hk', ht⟩ := hn
    rw [hk] at hk'
    cases hk'
    simp only [DataType.tz] at hz
    subst hz
    simp only [slotToPy, asPy, datetime64Item, hk, toInstant, if_pos ht,
      if_neg (ne_notATime hk ht)]
    rfl

/-- A value Python does not represent makes `to_pylist` fail. -/
theorem slotToPy_of_not_represents {type : DataType} (h : isDatetime64 type)
    (hz : type.tz = none) {n : Int} (hn : ¬ Represents type n) :
  slotToPy S type (some (.ticks n)) = .error .overflowError
  := by
  rcases isDatetime64_cases h with rfl | ⟨u, z, k, rfl, hk⟩
  · simp only [Represents] at hn
    simp only [slotToPy, asPy, if_neg hn]
  · have ht : ¬ IsInstant (k * n) := fun ht => hn ⟨k, hk, ht⟩
    simp only [DataType.tz] at hz
    subst hz
    simp only [slotToPy, asPy, hk, toInstant, if_neg ht]
    rfl

/-- A naive date or timestamp column goes through NumPy. -/
theorem columnToPylist_of_naive {col : Column} (h : isDatetime64 col.type)
    (hz : col.type.tz = none) :
  columnToPylist N col = .ok (col.cells.map (datetime64Item col.type))
  := by
  have hsafe : numpySafe col.type = true ∧ col.type.isTemporal = true
      ∧ col.type.isInteger = false ∧ col.type.isFloating = false := by
    rcases isDatetime64_cases h with ht | ⟨u, z, k, ht, hk⟩
    · rw [ht]
      exact ⟨rfl, rfl, rfl, rfl⟩
    · rw [ht]
      cases u <;> cases hk <;> exact ⟨rfl, rfl, rfl, rfl⟩
  obtain ⟨hsafe, htemporal, hint, hfloat⟩ := hsafe
  simp [columnToPylist, numpyTolist, hz, hsafe, htemporal, hint, hfloat, h]

/-- On a naive date or timestamp column the two conversions agree exactly when Python
represents every value. -/
theorem agree_of_naive_iff {col : Column} (h : isDatetime64 col.type)
    (hz : col.type.tz = none) :
  Outcome.Agree Eq (columnToPylist N col) (toPylist S col)
    ↔ ∀ n, some (.ticks n) ∈ col.cells → Represents col.type n
  := by
  rw [columnToPylist_of_naive N h hz]
  constructor
  · intro hagree n hn
    by_contra hnot
    obtain ⟨e, he⟩ := Outcome.mapM_eq_error hn (slotToPy_of_not_represents (S := S) h hz hnot)
    rw [toPylist, he] at hagree
    apply hagree
  · intro hall
    have hslots : ∀ o ∈ col.cells,
        slotToPy S col.type o = .ok (datetime64Item col.type o) := by
      intro o ho
      cases o with
      | none =>
          rcases isDatetime64_cases h with ht | ⟨u, z, k, ht, hk⟩
          · rw [ht]
            rfl
          · rw [ht]
            rfl
      | some c =>
          obtain ⟨n, rfl⟩ := col.exists_ticks h ho
          apply slotToPy_of_represents h hz (hall n ho)
    rw [toPylist, Outcome.mapM_eq_ok hslots, Outcome.agree_ok]

/-! ### Timestamps with a time zone -/

/-- How `_timestamp_to_pylist` attaches a time zone to a value. -/
def attachTimezone (S : Scalars) (timezone : TzInfo) : PyValue → Except PyError PyValue :=
  if S.utcoffset timezone = some 0 then
    replaceTzinfo timezone
  else
    replaceAstimezone S timezone

theorem timestampToPylist_eq {col : Column} (h : isDatetime64 col.type) {z : String}
    (hz : col.type.tz = some z) :
  timestampToPylist N col
    = S.stringToTzinfo z >>= fun timezone =>
        col.cells.mapM fun o => attachTimezone S timezone (datetime64Item col.type o)
  := by
  simp only [timestampToPylist, numpyTolist, h, if_true, hz, Option.getD_some]
  cases S.stringToTzinfo z with
  | error e => rfl
  | ok timezone =>
      by_cases hzero : S.utcoffset timezone = some 0
      · have hattach : attachTimezone S timezone = replaceTzinfo timezone := if_pos hzero
        simp only [hattach, bind, Except.bind, if_pos hzero, List.mapM_map]
        rfl
      · have hattach : attachTimezone S timezone = replaceAstimezone S timezone := if_neg hzero
        simp only [hattach, bind, Except.bind, if_neg hzero, List.mapM_map]
        rfl

/-- Attaching the time zone to the naive datetime agrees with converting the scalar; for
an instant outside the years of Python both fail. -/
theorem agree_attachTimezone {u : TimeUnit} {z : String} {k : Int} (hk : u.micros? = some k)
    {timezone : TzInfo} (hz : S.stringToTzinfo z = .ok timezone) (n : Int) :
  Outcome.Agree Eq
    (attachTimezone S timezone (datetime64Item (.timestamp u (some z)) (some (.ticks n))))
    (slotToPy S (.timestamp u (some z)) (some (.ticks n)))
  := by
  by_cases ht : IsInstant (k * n)
  · have hitem : datetime64Item (.timestamp u (some z)) (some (.ticks n))
        = .datetime (k * n) none := by
      simp only [datetime64Item, hk, if_pos ht, if_neg (ne_notATime hk ht)]
    have hslot : slotToPy S (.timestamp u (some z)) (some (.ticks n))
        = S.astimezone timezone (k * n) >>= fun wall => pure (.datetime wall (some timezone)) := by
      simp only [slotToPy, asPy, hk, hz, toInstant, if_pos ht]
      rfl
    rw [hitem, hslot]
    by_cases hzero : S.utcoffset timezone = some 0
    · rw [attachTimezone, if_pos hzero, S.astimezone_of_zero timezone hzero _ ht]
      rfl
    · rw [attachTimezone, if_neg hzero]
      apply Outcome.Agree.refl
      intro v
      rfl
  · have hslot : slotToPy S (.timestamp u (some z)) (some (.ticks n))
        = .error .overflowError := by
      simp only [slotToPy, asPy, hk, hz, toInstant, if_neg ht]
      rfl
    have hattach : ∃ e, attachTimezone S timezone
        (datetime64Item (.timestamp u (some z)) (some (.ticks n))) = .error e := by
      simp only [datetime64Item, hk, if_neg ht, attachTimezone]
      by_cases hn : n = notATime <;> by_cases hzero : S.utcoffset timezone = some 0 <;>
        simp [hn, hzero, replaceTzinfo, replaceAstimezone]
    obtain ⟨e, he⟩ := hattach
    rw [hslot, he]
    trivial

/-- An empty timestamp column converts to the empty list once its zone is found. -/
theorem agree_of_empty {col : Column} (h : isDatetime64 col.type) {z : String}
    (hz : col.type.tz = some z) (hempty : col.cells = []) :
  Outcome.Agree Eq (timestampToPylist N col) (toPylist S col)
    ↔ ∃ timezone, S.stringToTzinfo z = .ok timezone
  := by
  rw [timestampToPylist_eq N h hz, toPylist, hempty]
  cases S.stringToTzinfo z with
  | error e =>
      constructor
      · exact fun hagree => absurd hagree not_false
      · rintro ⟨timezone, ⟨⟩⟩
  | ok timezone =>
      constructor
      · exact fun _ => ⟨timezone, rfl⟩
      · exact fun _ => rfl

/-- A timestamp column with a slot and no null converts with the same outcome both ways,
whether or not its zone is found. -/
theorem agree_of_nonempty {col : Column} (h : isDatetime64 col.type) {z : String}
    (hz : col.type.tz = some z) (hnull : col.nullCount = 0) (hne : col.cells ≠ []) :
  Outcome.Agree Eq (timestampToPylist N col) (toPylist S col)
  := by
  rcases isDatetime64_cases h with ht | ⟨u, z', k, ht, hk⟩
  · rw [ht] at hz
    cases hz
  · have hz' : z' = some z := by
      rw [ht] at hz
      apply hz
    subst hz'
    have hticks : ∀ o ∈ col.cells, ∃ n, o = some (.ticks n) := by
      intro o ho
      obtain ⟨c, rfl⟩ := Column.exists_of_nullCount_eq_zero hnull ho
      obtain ⟨n, rfl⟩ := col.exists_ticks h ho
      exact ⟨n, rfl⟩
    rw [timestampToPylist_eq N h hz, toPylist]
    cases htz : S.stringToTzinfo z with
    | error e =>
        obtain ⟨o, ho⟩ := List.exists_mem_of_ne_nil _ hne
        obtain ⟨n, rfl⟩ := hticks o ho
        have hslot : slotToPy S col.type (some (.ticks n)) = .error e := by
          simp only [ht, slotToPy, asPy, hk, htz]
          rfl
        obtain ⟨d, hd⟩ := Outcome.mapM_eq_error ho hslot
        rw [hd]
        trivial
    | ok timezone =>
        apply Outcome.Agree.mapM
        intro o ho
        obtain ⟨n, rfl⟩ := hticks o ho
        rw [ht]
        apply agree_attachTimezone hk htz

/-- On a timestamp column with a time zone the two conversions agree unless the column is
empty and its zone is not found. -/
theorem agree_of_timezone_iff {col : Column} (h : isDatetime64 col.type) {z : String}
    (hz : col.type.tz = some z) :
  Outcome.Agree Eq (columnToPylist N col) (toPylist S col)
    ↔ (col.cells = [] → ∃ timezone, S.stringToTzinfo z = .ok timezone)
  := by
  have hsafe : numpySafe col.type = true ∧ col.type.isTimestamp = true := by
    rcases isDatetime64_cases h with ht | ⟨u, z', k, ht, hk⟩
    · rw [ht] at hz
      cases hz
    · rw [ht]
      cases u <;> cases hk <;> exact ⟨rfl, rfl⟩
  by_cases hnull : col.nullCount = 0
  · have hfast : columnToPylist N col = timestampToPylist N col := by
      simp [columnToPylist, hsafe, hz, hnull]
    rw [hfast]
    by_cases hempty : col.cells = []
    · rw [agree_of_empty N h hz hempty]
      constructor
      · exact fun hres _ => hres
      · exact fun hres => hres hempty
    · constructor
      · exact fun _ hnil => absurd hnil hempty
      · exact fun _ => agree_of_nonempty N h hz hnull hempty
  · have hslow : columnToPylist N col = toPylist S col := by
      simp [columnToPylist, hsafe, hz, hnull]
    have hne : col.cells ≠ [] := by
      rintro hnil
      apply hnull
      rw [Column.nullCount, hnil]
      rfl
    rw [hslow]
    constructor
    · exact fun _ hnil => absurd hnil hne
    · exact fun _ => Outcome.Agree.refl (fun _ => rfl) _

/-! ### All columns -/

/-- A column of a type that does not go through `datetime64` converts with the same
outcome both ways. -/
theorem agree_of_not_datetime64 {col : Column} (h : ¬ isDatetime64 col.type) :
  Outcome.Agree Eq (columnToPylist N col) (toPylist S col)
  := by
  by_cases hsafe : numpySafe col.type
  · have hnotTimestamp : col.type.isTimestamp = false := by
      cases htype : col.type with
      | timestamp u z =>
          rw [htype] at h hsafe
          cases u <;> first | exact absurd rfl h | cases hsafe
      | _ => rfl
    have hpath : columnToPylist N col
        = if (decide (col.length = 1) && !col.type.isTemporal)
              || (decide (col.nullCount ≠ 0) && nullsChangeType col.type) then
            toPylist S col
          else
            numpyTolist N col := by
      simp [columnToPylist, nullsChangeType, hnotTimestamp, hsafe]
    rw [hpath]
    split
    · apply Outcome.Agree.refl
      intro v
      rfl
    · rename_i hslow
      have hnulls : nullsChangeType col.type → col.nullCount = 0 := by
        intro hchange
        by_contra hnull
        apply hslow
        simp [hchange, hnull]
      rw [numpyTolist, if_neg h, N.tolist_eq col hsafe h hnulls]
      apply Outcome.Agree.refl
      intro v
      rfl
  · have hpath : columnToPylist N col = toPylist S col := by
      simp [columnToPylist, hsafe]
    rw [hpath]
    apply Outcome.Agree.refl
    intro v
    rfl

/-- The fast conversion has the outcome of `to_pylist` exactly on the convertible
columns. -/
theorem columnToPylist_agrees_iff (col : Column) :
  Outcome.Agree Eq (columnToPylist N col) (toPylist S col) ↔ Convertible S col
  := by
  by_cases h : isDatetime64 col.type
  · cases hz : col.type.tz with
    | none =>
        rw [agree_of_naive_iff N h hz]
        constructor
        · intro hall
          constructor
          · exact fun _ _ => hall
          · intro _ z hz'
            rw [hz] at hz'
            cases hz'
        · exact fun hcol => hcol.represents h hz
    | some z =>
        rw [agree_of_timezone_iff N h hz]
        constructor
        · intro hres
          constructor
          · intro _ hz'
            rw [hz] at hz'
            cases hz'
          · intro _ z' hz'
            rw [hz] at hz'
            cases hz'
            apply hres
        · exact fun hcol => hcol.resolves h z hz
  · constructor
    · intro _
      constructor
      · exact fun hd => absurd hd h
      · exact fun hd => absurd hd h
    · exact fun _ => agree_of_not_datetime64 N h

/-- Scalars with the single time zone UTC, and every other slot already a value. -/
def utcScalars : Scalars where
  stringToTzinfo z := if z = "UTC" then .ok ⟨"UTC"⟩ else .error .valueError
  utcoffset _ := some 0
  astimezone _ t := .ok t
  asPy
    | _, .ticks n => .ok (.int n)
    | _, .value v => .ok v
  pyInt _ := .error .valueError
  astimezone_of_zero _ _ _ _ := rfl

/-- NumPy over `utcScalars`. -/
def utcNumpy : Numpy utcScalars where
  tolist := toPylist utcScalars
  tolist_eq _ _ _ _ := rfl

/-- A column holding the first day of the year 10000. -/
def year10000 : Column where
  type := .date32
  cells := [some (.ticks 2932897)]
  fits := by
    intro c hc
    cases List.mem_singleton.mp hc
    exact ⟨by decide, by decide⟩

/-- The fast conversion returns the raw count of a day that `to_pylist` rejects. -/
theorem columnToPylist_year10000 :
  columnToPylist utcNumpy year10000 = .ok [.int 2932897]
    ∧ toPylist utcScalars year10000 = .error .overflowError
    ∧ ¬ ∀ (S : Scalars) (N : Numpy S) (col : Column),
        Outcome.Agree Eq (columnToPylist N col) (toPylist S col)
  := by
  refine ⟨rfl, rfl, ?_⟩
  intro h
  apply h utcScalars utcNumpy year10000

end MonetDB
