import MonetdbAdbc.Catalog.Getters
import MonetdbAdbc.Compiler.DdlReading

/-!
# Referential actions

The phrase of a foreign key for `ON DELETE` or `ON UPDATE` is checked against the actions,
whatever the case of its letters, and written as it is.  MonetDB records both actions in one
number, and `RESTRICT` where the clause is missing (`ActionRecorder`).

`recordedAction_cascades` says what is recorded for a declaration whose phrases spell actions,
and `cascades_constraint` what reflection makes of the number.
-/

namespace MonetDB

/-! ### Actions -/

/-- What becomes of the rows that refer to a row. -/
inductive ForeignKeyAction where
  | noAction
  | cascade
  | restrict
  | setNull
  | setDefault
deriving DecidableEq, Repr

namespace ForeignKeyAction

/-- The words for an action. -/
def phrase : ForeignKeyAction → String
  | noAction => "NO ACTION"
  | cascade => "CASCADE"
  | restrict => "RESTRICT"
  | setNull => "SET NULL"
  | setDefault => "SET DEFAULT"

/-- The number of an action in the catalog. -/
def code : ForeignKeyAction → Int
  | noAction => 0
  | cascade => 1
  | restrict => 2
  | setNull => 3
  | setDefault => 4

/-- The alternatives of `FK_ACTION`, in its order. -/
def all : List ForeignKeyAction :=
  [restrict, cascade, setNull, noAction, setDefault]

theorem mem_all (action : ForeignKeyAction) :
  action ∈ all
  := by cases action <;> decide

end ForeignKeyAction

/-! ### Compiling -/

/-- A character as it is compared without regard to case, which takes in three letters that are
not ASCII. -/
def foldCase (c : Char) : Char :=
  if c = '\u017f' then 's' else if c = '\u0130' ∨ c = '\u0131' then 'i' else c.toLower

/-- A text without the line break at its end, which `$` in a pattern overlooks. -/
def withoutFinalBreak (text : String) : List Char :=
  if text.toList.getLast? = some '\n' then text.toList.dropLast else text.toList

/-- `FK_ACTION` matches. -/
def matchesFkAction (phrase : String) : Bool :=
  ForeignKeyAction.all.any fun action =>
    (withoutFinalBreak phrase).map foldCase = action.phrase.toList.map foldCase

/-- `CompileError`, for a phrase that does not match. -/
structure CompileError where
  phrase : String
deriving DecidableEq, Repr

/-- `validate_sql_phrase`, with `FK_ACTION`. -/
def validateSqlPhrase (phrase : String) : Except CompileError String :=
  if matchesFkAction phrase then .ok phrase else .error ⟨phrase⟩

/-- The options of a foreign key for what becomes of the rows that refer to a row. -/
structure Cascades where
  ondelete : Option String
  onupdate : Option String
deriving DecidableEq, Repr

/-- The clause of an option, if that is given. -/
def cascadeText (clause : String) : Option String → Except CompileError String
  | none => .ok ""
  | some phrase => (clause ++ ·) <$> validateSqlPhrase phrase

/-- `define_constraint_cascades`. -/
def defineConstraintCascades (constraint : Cascades) : Except CompileError String := do
  let onDelete ← cascadeText " ON DELETE " constraint.ondelete
  let onUpdate ← cascadeText " ON UPDATE " constraint.onupdate
  return onDelete ++ onUpdate

/-! ### Recording -/

/-- The tokens of an action. -/
def ForeignKeyAction.tokens : ForeignKeyAction → List SqlToken
  | noAction => [keyword "no", keyword "action"]
  | cascade => [keyword "cascade"]
  | restrict => [keyword "restrict"]
  | setNull => [keyword "set", keyword "null"]
  | setDefault => [keyword "set", keyword "default"]

/-- The tokens of a clause. -/
def clauseTokens (event : String) (action : Option ForeignKeyAction) : List SqlToken :=
  action.elim [] fun action => keyword "on" :: keyword event :: action.tokens

/-- What MonetDB records for the clauses of a foreign key: both actions in one number, and
`RESTRICT` where a clause is missing. -/
structure ActionRecorder (L : MonetLexis) where
  recordedAction : String → Option Int
  recordedAction_eq : ∀ {text : String} (onDelete onUpdate : Option ForeignKeyAction),
    lex L text = some (clauseTokens "delete" onDelete ++ clauseTokens "update" onUpdate) →
      recordedAction text = some ((onDelete.getD .restrict).code
        + 256 * (onUpdate.getD .restrict).code)

/-- The options of a foreign key that reflection reports. -/
def ReflectedForeignKeyConstraint.cascades (constraint : ReflectedForeignKeyConstraint) :
    Cascades :=
  ⟨constraint.ondelete, constraint.onupdate⟩

/-! ### Spelling -/

/-- The phrase spells an action, in any case. -/
def Spells (phrase : String) (action : ForeignKeyAction) : Prop :=
  phrase.toList.map Char.toLower = action.phrase.toList.map Char.toLower

instance (phrase : String) (action : ForeignKeyAction) : Decidable (Spells phrase action) :=
  inferInstanceAs (Decidable (_ = _))

/-- The action that a phrase spells. -/
def spelledAction (phrase : String) : Option ForeignKeyAction :=
  ForeignKeyAction.all.find? fun action => Spells phrase action

/-- Every option that is given spells an action. -/
def Cascades.Spelled (constraint : Cascades) : Prop :=
  (∀ phrase ∈ constraint.ondelete, (spelledAction phrase).isSome) ∧
    ∀ phrase ∈ constraint.onupdate, (spelledAction phrase).isSome

instance : DecidablePred Cascades.Spelled :=
  fun _ => inferInstanceAs (Decidable (_ ∧ _))

/-- The action that an option stands for. -/
def effectiveAction (option : Option String) : ForeignKeyAction :=
  (option.bind spelledAction).getD .restrict

/-! ### Spelled phrases are accepted -/

theorem spelledAction_phrase (action : ForeignKeyAction) :
  spelledAction action.phrase = some action
  := by cases action <;> decide

/-- A phrase spells one action only. -/
theorem spelledAction_eq_some_iff (phrase : String) (action : ForeignKeyAction) :
  spelledAction phrase = some action ↔ Spells phrase action
  := by
  constructor
  · intro h
    apply of_decide_eq_true (p := Spells phrase action)
    apply List.find?_some h
  · intro h
    have hsame : ∀ other, decide (Spells phrase other) = decide (Spells action.phrase other) := by
      intro other
      rw [decide_eq_decide, Spells, h, Spells]
    rw [← spelledAction_phrase action, spelledAction, funext hsame]
    rfl

theorem foldCase_eq_toLower {c : Char} (h : c.toLower.toNat < 128) :
  foldCase c = c.toLower
  := by
  rw [foldCase]
  split_ifs with hlong hdotted
  · subst hlong
    revert h
    decide
  · obtain rfl | rfl := hdotted <;> (revert h; decide)
  · rfl

/-- The letters of an action. -/
theorem ascii_of_mem_phrase {action : ForeignKeyAction} {c : Char}
    (h : c ∈ action.phrase.toList.map Char.toLower) :
  c.toNat < 128 ∧ c ≠ '\n'
  := by
  have hall : (action.phrase.toList.map Char.toLower).all
      fun c => decide (c.toNat < 128 ∧ c ≠ '\n') := by
    cases action <;> rfl
  apply of_decide_eq_true (List.all_eq_true.mp hall c h)

/-- A phrase that spells an action is accepted. -/
theorem validateSqlPhrase_of_spells {phrase : String} {action : ForeignKeyAction}
    (h : Spells phrase action) :
  validateSqlPhrase phrase = .ok phrase
  := by
  have hascii : ∀ c ∈ phrase.toList, c.toLower.toNat < 128 ∧ c.toLower ≠ '\n' := by
    intro c hc
    have hmem : c.toLower ∈ action.phrase.toList.map Char.toLower := by
      rw [← h]
      apply List.mem_map_of_mem hc
    apply ascii_of_mem_phrase hmem
  have hlast : phrase.toList.getLast? ≠ some '\n' := by
    intro hlast
    apply (hascii '\n' (List.mem_of_getLast? hlast)).2
    decide
  have hfold : ∀ c ∈ phrase.toList, foldCase c = c.toLower :=
    fun c hc => foldCase_eq_toLower (hascii c hc).1
  have haction : action.phrase.toList.map foldCase = action.phrase.toList.map Char.toLower := by
    cases action <;> decide
  apply if_pos
  rw [matchesFkAction, List.any_eq_true]
  use action, action.mem_all
  rw [decide_eq_true_eq, withoutFinalBreak, if_neg hlast, List.map_congr_left hfold, haction]
  apply h

/-! ### Spelled phrases are read -/

section Tokens

variable {L : MonetLexis}

/-- The lower case of a character is not a letter unless the character is one. -/
theorem isAlpha_or_toLower_eq (c : Char) :
  c.isAlpha ∧ c.toLower.isLower ∨ c.toLower = c
  := by
  by_cases hupper : 'A'.val ≤ c.val ∧ c.val ≤ 'Z'.val
  · left
    have hlower : c.toLower.val = c.val + 32 := congrArg Char.val (dif_pos hupper)
    have hnat : (c.val + 32).toNat = c.val.toNat + 32 := by
      have hle := UInt32.le_iff_toNat_le.mp hupper.2
      have hz : 'Z'.val.toNat = 90 := rfl
      have hshift : (32 : UInt32).toNat = 32 := rfl
      rw [UInt32.toNat_add, hshift, Nat.mod_eq_of_lt]
      omega
    constructor
    · have halpha : c.isAlpha = (c.isUpper || c.isLower) := rfl
      have hisUpper : c.isUpper := decide_eq_true hupper
      rw [halpha, hisUpper, Bool.true_or]
    · have hle := UInt32.le_iff_toNat_le.mp hupper.1
      have hge := UInt32.le_iff_toNat_le.mp hupper.2
      have ha : 'A'.val.toNat = 65 := rfl
      have hz : 'Z'.val.toNat = 90 := rfl
      have hisLower : c.toLower.isLower
          = (decide ('a'.val ≤ c.toLower.val) && decide (c.toLower.val ≤ 'z'.val)) := rfl
      simp only [hisLower, Bool.and_eq_true, decide_eq_true_eq, UInt32.le_iff_toNat_le, hlower,
        hnat]
      have ha' : 'a'.val.toNat = 97 := rfl
      have hz' : 'z'.val.toNat = 122 := rfl
      omega
  · right
    apply dif_neg hupper

theorem isWord_of_toLower {c : Char} (h : c.toLower.isLower) :
  (lexis L).isWord c
  := by
  have halpha : c.isAlpha := by
    obtain ⟨halpha, -⟩ | hself := isAlpha_or_toLower_eq c
    · apply halpha
    · have halpha : c.isAlpha = (c.isUpper || c.isLower) := rfl
      rw [hself] at h
      rw [halpha, h, Bool.or_true]
  simp [lexis, Char.isAlphanum, halpha]

/-- A word in any case is one token. -/
theorem lex_spelledWord {cs : List Char} {word : String} (hne : word ≠ "")
    (hword : word.toList.all Char.isLower) (h : cs.map Char.toLower = word.toList) :
  Lexer.lex (lexis L) cs = some [keyword word]
  := by
  have hcs : cs ≠ [] := by
    rintro rfl
    apply hne
    rw [← String.toList_inj, ← h]
    rfl
  have hletters : ∀ c ∈ cs, (lexis L).isWord c := by
    intro c hc
    apply isWord_of_toLower
    apply List.all_eq_true.mp hword
    rw [← h]
    apply List.mem_map_of_mem hc
  rw [Lexer.lex_word hcs hletters, keyword, ← h]
  rfl

/-- Two words in any case are two tokens. -/
theorem lex_spelledWords {cs : List Char} {first second : String}
    (hfirst : first ≠ "" ∧ first.toList.all Char.isLower)
    (hsecond : second ≠ "" ∧ second.toList.all Char.isLower)
    (h : cs.map Char.toLower = first.toList ++ ' ' :: second.toList) :
  Lexer.lex (lexis L) cs = some [keyword first, keyword second]
  := by
  obtain ⟨as, bs, rfl, has, hbs⟩ := List.map_eq_append_iff.mp h
  obtain ⟨c, cs, rfl, hc, hcs⟩ := List.map_eq_cons_iff.mp hbs
  have hblank : c = ' ' := by
    obtain ⟨-, hlower⟩ | hself := isAlpha_or_toLower_eq c
    · rw [hc] at hlower
      cases hlower
    · rw [← hself, hc]
  subst hblank
  have hspace : Lexer.lex (lexis L) [' '] = some [] := rfl
  have hlast := lex_spelledWord (L := L) hsecond.1 hsecond.2 hcs
  apply Lexer.lex_append (lex_spelledWord hfirst.1 hfirst.2 has) _ (.inr rfl)
  apply Lexer.lex_append hspace hlast (.inl rfl)

theorem lex_of_spells {phrase : String} {action : ForeignKeyAction} (h : Spells phrase action) :
  lex L phrase = some action.tokens
  := by
  cases action with
  | noAction =>
      have hwords : "NO ACTION".toList.map Char.toLower
          = "no".toList ++ ' ' :: "action".toList := by decide
      apply lex_spelledWords (by decide) (by decide) (h.trans hwords)
  | cascade =>
      have hword : "CASCADE".toList.map Char.toLower = "cascade".toList := by decide
      apply lex_spelledWord (by decide) (by decide) (h.trans hword)
  | restrict =>
      have hword : "RESTRICT".toList.map Char.toLower = "restrict".toList := by decide
      apply lex_spelledWord (by decide) (by decide) (h.trans hword)
  | setNull =>
      have hwords : "SET NULL".toList.map Char.toLower = "set".toList ++ ' ' :: "null".toList := by
        decide
      apply lex_spelledWords (by decide) (by decide) (h.trans hwords)
  | setDefault =>
      have hwords : "SET DEFAULT".toList.map Char.toLower
          = "set".toList ++ ' ' :: "default".toList := by decide
      apply lex_spelledWords (by decide) (by decide) (h.trans hwords)

/-! ### What is recorded and reflected -/

/-- The clause of an option that spells an action, if it is given, is accepted and has the tokens of
the action. -/
theorem cascadeText_of_spelled {clause event : String}
    (hclause : Appendable L clause [keyword "on", keyword event])
    (hclosed : Lexer.Closed (lexis L) clause.toList) (hne : clause.toList ≠ [])
    {option : Option String} (h : ∀ phrase ∈ option, (spelledAction phrase).isSome) :
  ∃ text, cascadeText clause option = .ok text ∧
    Appendable L text (clauseTokens event (option.bind spelledAction))
  := by
  cases option with
  | none => exact ⟨"", rfl, appendable_empty⟩
  | some phrase =>
      obtain ⟨action, haction⟩ := Option.isSome_iff_exists.mp (h phrase rfl)
      have hspells := (spelledAction_eq_some_iff phrase action).mp haction
      use clause ++ phrase
      constructor
      · rw [cascadeText, validateSqlPhrase_of_spells hspells]
        rfl
      · rw [Option.bind_some, haction]
        apply hclause.before hclosed hne (lex_of_spells hspells)

/-- The clauses of options that spell actions are accepted, and record the actions. -/
theorem recordedAction_cascades (R : ActionRecorder L) {constraint : Cascades}
    (h : constraint.Spelled) :
  ∃ text, defineConstraintCascades constraint = .ok text ∧
    R.recordedAction text = some ((effectiveAction constraint.ondelete).code
      + 256 * (effectiveAction constraint.onupdate).code)
  := by
  have hondelete : Appendable L " ON DELETE " [keyword "on", keyword "delete"] := ⟨rfl, rfl⟩
  have honupdate : Appendable L " ON UPDATE " [keyword "on", keyword "update"] := ⟨rfl, rfl⟩
  obtain ⟨ondelete, hdelete, hdeletelex⟩ :=
    cascadeText_of_spelled hondelete rfl (by decide) h.1
  obtain ⟨onupdate, hupdate, hupdatelex⟩ :=
    cascadeText_of_spelled honupdate rfl (by decide) h.2
  use ondelete ++ onupdate
  constructor
  · rw [defineConstraintCascades, hdelete, hupdate]
    rfl
  · apply R.recordedAction_eq _ _ (hdeletelex.append hupdatelex).tokens

end Tokens

/-- The option that is reflected for an action. -/
theorem fkOption_code (action : ForeignKeyAction) :
  fkOption action.code = if action = .noAction then none else some action.phrase
  := by cases action <;> decide

/-- Reflection reports the actions that are recorded, except `NO ACTION`. -/
theorem cascades_constraint (schema : Option String) {r : ForeignKeyRow}
    {onDelete onUpdate : ForeignKeyAction}
    (h : r.fkk.action = onDelete.code + 256 * onUpdate.code) :
  (r.constraint schema).cascades = ⟨fkOption onDelete.code, fkOption onUpdate.code⟩
  := by
  have hbytes : (onDelete.code + 256 * onUpdate.code) % 256 = onDelete.code ∧
      (onDelete.code + 256 * onUpdate.code) / 256 % 256 = onUpdate.code := by
    cases onDelete <;> cases onUpdate <;> decide
  rw [ReflectedForeignKeyConstraint.cascades, ForeignKeyRow.constraint, h, hbytes.1, hbytes.2]

/-! ### Reading the clauses -/

/-- The words for an action are read. -/
def foreignKeyAction : Parser SqlToken ForeignKeyAction :=
  .keyed [
    (keyword "no", do
      Parser.exactly [keyword "action"]
      return .noAction),
    (keyword "cascade", pure .cascade),
    (keyword "restrict", pure .restrict),
    (keyword "set", .keyed [
      (keyword "null", pure .setNull),
      (keyword "default", pure .setDefault)])]

/-- A clause is read, if it is there. -/
def cascadeClause (event : String) : Parser SqlToken (Option ForeignKeyAction) :=
  .optional do
    Parser.exactly [keyword "on", keyword event]
    foreignKeyAction

/-- Both clauses are read. -/
def cascadeClauses : Parser SqlToken (Option ForeignKeyAction × Option ForeignKeyAction) := do
  let onDelete ← cascadeClause "delete"
  let onUpdate ← cascadeClause "update"
  return (onDelete, onUpdate)

variable (L : MonetLexis) in
/-- What is recorded for a text that is read as clauses. -/
def readAction (text : String) : Option Int :=
  ((lex L text).bind cascadeClauses.all).map fun actions =>
    (actions.1.getD .restrict).code + 256 * (actions.2.getD .restrict).code

/-- The words for an action are read as the action. -/
theorem reads_foreignKeyAction (action : ForeignKeyAction) (rest : List SqlToken) :
  foreignKeyAction.Reads action.tokens action rest
  := by
  cases action with
  | noAction =>
      apply Parser.reads_keyed rfl
      apply Parser.Reads.after (m := [])
      apply Parser.reads_pure
  | cascade =>
      apply Parser.reads_keyed rfl
      apply Parser.reads_pure
  | restrict =>
      apply Parser.reads_keyed rfl
      apply Parser.reads_pure
  | setNull =>
      apply Parser.reads_keyed rfl
      apply Parser.reads_keyed rfl
      apply Parser.reads_pure
  | setDefault =>
      apply Parser.reads_keyed rfl
      apply Parser.reads_keyed rfl
      apply Parser.reads_pure

/-- A clause for one event is not taken for one for another. -/
theorem reads_cascadeClause {event : String} (action : Option ForeignKeyAction)
    {rest : List SqlToken} (h : rest = [] ∨ ∃ other ts,
      rest = keyword "on" :: keyword other :: ts ∧ other ≠ event) :
  (cascadeClause event).Reads (clauseTokens event action) action rest
  := by
  cases action with
  | some action =>
      apply Parser.Reads.optional
      apply Parser.Reads.after
      apply reads_foreignKeyAction
  | none =>
      apply Parser.reads_optional_none
      apply Parser.Fails.bind
      obtain rfl | ⟨other, ts, rfl, hother⟩ := h
      · rfl
      · apply Parser.fails_exactly_cons
        apply Parser.fails_exactly
        simpa [keyword, String.toList_inj] using hother

/-- What is recorded by a server that reads the clauses. -/
def readingRecorder (L : MonetLexis) : ActionRecorder L where
  recordedAction := readAction L
  recordedAction_eq onDelete onUpdate h := by
    have hreads : cascadeClauses.Reads
        (clauseTokens "delete" onDelete ++ clauseTokens "update" onUpdate) (onDelete, onUpdate)
        [] := by
      apply Parser.Reads.bind
      · apply reads_cascadeClause
        rw [List.append_nil]
        cases onUpdate with
        | none => exact .inl rfl
        | some action => exact .inr ⟨"update", action.tokens, rfl, by decide⟩
      · have hclause :
            (cascadeClause "update").Reads (clauseTokens "update" onUpdate) onUpdate [] :=
          reads_cascadeClause _ (.inl rfl)
        apply hclause.returns
    rw [readAction, h, Option.bind_some, hreads.all]
    rfl

end MonetDB
