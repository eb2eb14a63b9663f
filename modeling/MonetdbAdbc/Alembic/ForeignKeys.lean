import MonetdbAdbc.Compiler.Cascades

/-!
# Comparing foreign keys

Alembic compares the foreign keys that reflection reports with those of the metadata, their
options included.  A foreign key without options comes back from MonetDB with `RESTRICT`, so
`correct_for_autogen_foreignkeys` takes that option away where the metadata has none.  It pairs
the foreign keys by their signatures without options, in whatever order the common signatures
come (`correctForAutogenForeignkeys_eq`).

`autogenerate_iff` says when the options of a foreign key then compare equal: when the action
declared is the one in force, a missing option standing for `RESTRICT`, or when there is no
option in the metadata and `NO ACTION` is in force.
-/

namespace MonetDB

/-! ### Options -/

/-- `RESTRICT` is taken away where the metadata has no option. -/
def relaxOption (metadata conn : Option String) : Option String :=
  if metadata = none ∧ conn = some "RESTRICT" then none else conn

theorem relaxOption_relaxOption (metadata conn : Option String) :
  relaxOption metadata (relaxOption metadata conn) = relaxOption metadata conn
  := by
  rw [relaxOption, relaxOption]
  split_ifs <;> simp_all

/-- How Alembic compares an option: regardless of case, and with `NO ACTION` as none. -/
structure OptionComparison where
  View : Type
  view : Option String → View
  none_eq : view none = view (some ForeignKeyAction.noAction.phrase)
  view_spelled : ∀ {phrase action}, Spells phrase action →
    view (some phrase) = view (some action.phrase)
  injective : ∀ {a b : ForeignKeyAction}, view (some a.phrase) = view (some b.phrase) → a = b

/-- An option that is declared agrees with the one by which the foreign key was created: it
stands for the action that is in force, or there is none and `NO ACTION` is in force. -/
def OptionAgrees (declared created : Option String) : Prop :=
  effectiveAction declared = effectiveAction created ∨
    declared = none ∧ effectiveAction created = .noAction

variable (comparison : OptionComparison)

theorem OptionComparison.view_phrase_iff (a b : ForeignKeyAction) :
  comparison.view (some a.phrase) = comparison.view (some b.phrase) ↔ a = b
  := by
  constructor
  · apply comparison.injective
  · rintro rfl
    rfl

/-- An option that is reflected is viewed as the action in force. -/
theorem OptionComparison.view_fkOption (action : ForeignKeyAction) :
  comparison.view (fkOption action.code) = comparison.view (some action.phrase)
  := by
  rw [fkOption_code]
  split_ifs with h
  · rw [h, comparison.none_eq]
  · rfl

/-- An option compares equal to the corrected one of the connection exactly when it agrees. -/
theorem OptionComparison.view_relaxOption_iff {declared : Option String}
    (hdeclared : ∀ phrase ∈ declared, (spelledAction phrase).isSome) (created : Option String) :
  comparison.view (relaxOption declared (fkOption (effectiveAction created).code))
      = comparison.view declared
    ↔ OptionAgrees declared created
  := by
  rw [OptionAgrees]
  generalize effectiveAction created = action
  cases declared with
  | none =>
      by_cases haction : action = .restrict
      · subst haction
        simp [relaxOption, fkOption_code, effectiveAction, ForeignKeyAction.phrase]
      · have hkept : relaxOption none (fkOption action.code) = fkOption action.code := by
          apply if_neg
          rintro ⟨-, hrestrict⟩
          apply haction
          cases action <;> simp [fkOption_code, ForeignKeyAction.phrase] at hrestrict ⊢
        rw [hkept, comparison.view_fkOption, comparison.none_eq, comparison.view_phrase_iff]
        simp [effectiveAction, Ne.symm haction]
  | some phrase =>
      obtain ⟨spelled, hspelled⟩ := Option.isSome_iff_exists.mp (hdeclared phrase rfl)
      have hspells := (spelledAction_eq_some_iff phrase spelled).mp hspelled
      have hkept : relaxOption (some phrase) (fkOption action.code) = fkOption action.code := by
        apply if_neg
        rintro ⟨hnone, -⟩
        cases hnone
      rw [hkept, comparison.view_fkOption, comparison.view_spelled hspells,
        comparison.view_phrase_iff]
      simp [effectiveAction, hspelled, eq_comm]

/-! ### Foreign keys -/

/-- A `ForeignKeyConstraint` as Alembic compares it, with its signature without options. -/
structure ComparedForeignKey (κ : Type) where
  identity : Nat
  unnamedNoOptions : κ
  options : Cascades
deriving DecidableEq, Repr

variable {κ : Type}

/-! ### Correction -/

/-- What the loop does to the foreign key of the connection that it looks at. -/
def ComparedForeignKey.relax (metadataFk connFk : ComparedForeignKey κ) : ComparedForeignKey κ :=
  { connFk with
    options := {
      ondelete := relaxOption metadataFk.options.ondelete connFk.options.ondelete
      onupdate := relaxOption metadataFk.options.onupdate connFk.options.onupdate } }

theorem relax_relax (metadataFk connFk : ComparedForeignKey κ) :
  metadataFk.relax (metadataFk.relax connFk) = metadataFk.relax connFk
  := by
  simp only [ComparedForeignKey.relax, relaxOption_relaxOption]

variable [DecidableEq κ]

/-- The foreign keys by their signatures without options; the last one of a signature stays. -/
def bySignature (fks : List (ComparedForeignKey κ)) : Dict κ (ComparedForeignKey κ) :=
  .ofList (fks.map fun fk => (fk.unnamedNoOptions, fk))

/-- One pass of the loop, which changes one object of the connection's. -/
def correctSignature (connFkBySig metadataFkBySig : Dict κ (ComparedForeignKey κ))
    (connFks : List (ComparedForeignKey κ)) (signature : κ) : List (ComparedForeignKey κ) :=
  match connFkBySig.get? signature, metadataFkBySig.get? signature with
  | some connFk, some metadataFk =>
      connFks.map fun fk => if fk.identity = connFk.identity then metadataFk.relax fk else fk
  | _, _ => connFks

/-- `correct_for_autogen_foreignkeys`, given the order in which the common signatures come: the
connection's foreign keys as it leaves them. -/
def correctForAutogenForeignkeys (connFks metadataFks : List (ComparedForeignKey κ))
    (signatures : List κ) : List (ComparedForeignKey κ) :=
  signatures.foldl (correctSignature (bySignature connFks) (bySignature metadataFks)) connFks

/-- The signatures are those of both sides, in some order. -/
def CommonSignatures (connFks metadataFks : List (ComparedForeignKey κ)) (signatures : List κ) :
    Prop :=
  ∀ signature, signature ∈ signatures
    ↔ signature ∈ (bySignature connFks).keys ∧ signature ∈ (bySignature metadataFks).keys

/-- Objects of their own, with signatures of their own. -/
structure Distinct (fks : List (ComparedForeignKey κ)) : Prop where
  identities : (fks.map ComparedForeignKey.identity).Nodup
  signatures : (fks.map ComparedForeignKey.unnamedNoOptions).Nodup

theorem get?_bySignature_iff {fks : List (ComparedForeignKey κ)} (h : Distinct fks)
    (signature : κ) (fk : ComparedForeignKey κ) :
  (bySignature fks).get? signature = some fk ↔ fk ∈ fks ∧ fk.unnamedNoOptions = signature
  := by
  have hitems : (bySignature fks).items = fks.map fun fk => (fk.unnamedNoOptions, fk) := by
    apply Dict.items_ofList
    rw [List.map_map]
    apply h.signatures
  rw [← Dict.mem_items_iff, hitems, List.mem_map]
  constructor
  · rintro ⟨other, hother, hpair⟩
    obtain ⟨rfl, rfl⟩ := Prod.mk.inj hpair
    exact ⟨hother, rfl⟩
  · rintro ⟨hfk, rfl⟩
    exact ⟨fk, hfk, rfl⟩

/-- What the loop does to one object at a signature. -/
def correctObject (connFkBySig metadataFkBySig : Dict κ (ComparedForeignKey κ))
    (fk : ComparedForeignKey κ) (signature : κ) : ComparedForeignKey κ :=
  match connFkBySig.get? signature, metadataFkBySig.get? signature with
  | some connFk, some metadataFk =>
      if fk.identity = connFk.identity then metadataFk.relax fk else fk
  | _, _ => fk

/-- The loop changes every object on its own. -/
theorem foldl_correctSignature (connFkBySig metadataFkBySig : Dict κ (ComparedForeignKey κ))
    (signatures : List κ) (fks : List (ComparedForeignKey κ)) :
  signatures.foldl (correctSignature connFkBySig metadataFkBySig) fks
    = fks.map fun fk => signatures.foldl (correctObject connFkBySig metadataFkBySig) fk
  := by
  induction signatures generalizing fks with
  | nil => simp
  | cons signature signatures ih =>
      have hstep : correctSignature connFkBySig metadataFkBySig fks signature
          = fks.map fun fk => correctObject connFkBySig metadataFkBySig fk signature := by
        unfold correctSignature correctObject
        split <;> simp
      rw [List.foldl_cons, ih, hstep, List.map_map]
      rfl

section Correction

variable {connFks metadataFks : List (ComparedForeignKey κ)} {signatures : List κ}

/-- A foreign key after the loop. -/
def corrected (metadataFks : List (ComparedForeignKey κ)) (fk : ComparedForeignKey κ) :
    ComparedForeignKey κ :=
  ((bySignature metadataFks).get? fk.unnamedNoOptions).elim fk fun metadataFk =>
    metadataFk.relax fk

/-- An object is changed at its own signature only. -/
theorem correctObject_eq (hconn : Distinct connFks) {fk x : ComparedForeignKey κ}
    (hfk : fk ∈ connFks) (hx : x.identity = fk.identity) (signature : κ) :
  correctObject (bySignature connFks) (bySignature metadataFks) x signature
    = if signature = fk.unnamedNoOptions then
        ((bySignature metadataFks).get? signature).elim x fun metadataFk => metadataFk.relax x
      else x
  := by
  rw [correctObject]
  split_ifs with hsignature
  · rw [(get?_bySignature_iff hconn signature fk).mpr ⟨hfk, hsignature.symm⟩]
    cases (bySignature metadataFks).get? signature with
    | none => rfl
    | some metadataFk => apply if_pos hx
  · split
    · rename_i connFk metadataFk hget _
      obtain ⟨hmem, rfl⟩ := (get?_bySignature_iff hconn signature connFk).mp hget
      apply if_neg
      intro hidentity
      apply hsignature
      rw [List.inj_on_of_nodup_map hconn.identities hmem hfk (hidentity.symm.trans hx)]
    · rfl

/-- After some signatures, an object is changed if its own was among them. -/
theorem foldl_correctObject (hconn : Distinct connFks) {fk : ComparedForeignKey κ}
    (hfk : fk ∈ connFks) (signatures : List κ) {x : ComparedForeignKey κ}
    (hx : x = fk ∨ x = corrected metadataFks fk) :
  signatures.foldl (correctObject (bySignature connFks) (bySignature metadataFks)) x
    = if fk.unnamedNoOptions ∈ signatures then corrected metadataFks fk else x
  := by
  induction signatures generalizing x with
  | nil => simp
  | cons signature signatures ih =>
      have hidentity : x.identity = fk.identity := by
        obtain rfl | rfl := hx
        · rfl
        · rw [corrected]
          cases (bySignature metadataFks).get? fk.unnamedNoOptions <;> rfl
      rw [List.foldl_cons, correctObject_eq hconn hfk hidentity]
      by_cases hsignature : signature = fk.unnamedNoOptions
      · subst hsignature
        have hcorrected : ((bySignature metadataFks).get? fk.unnamedNoOptions).elim x
            (fun metadataFk => metadataFk.relax x) = corrected metadataFks fk := by
          rw [corrected] at hx ⊢
          cases hget : (bySignature metadataFks).get? fk.unnamedNoOptions with
          | none =>
              rw [hget] at hx
              simpa using hx
          | some metadataFk =>
              rw [hget] at hx
              obtain rfl | rfl := hx
              · rfl
              · apply relax_relax
        rw [if_pos rfl, hcorrected, ih (.inr rfl), ite_self, if_pos List.mem_cons_self]
      · rw [if_neg hsignature, ih hx]
        simp only [List.mem_cons, Ne.symm hsignature, false_or]

/-- Every foreign key of the connection is compared with the metadata's of the same signature, if
there is one, whatever the order of the signatures. -/
theorem correctForAutogenForeignkeys_eq (hconn : Distinct connFks)
    (hsignatures : CommonSignatures connFks metadataFks signatures) :
  correctForAutogenForeignkeys connFks metadataFks signatures
    = connFks.map (corrected metadataFks)
  := by
  rw [correctForAutogenForeignkeys, foldl_correctSignature]
  apply List.map_congr_left
  intro fk hfk
  rw [foldl_correctObject hconn hfk signatures (.inl rfl)]
  split_ifs with hmem
  · rfl
  · have hnone : (bySignature metadataFks).get? fk.unnamedNoOptions = none := by
      rw [Option.eq_none_iff_forall_ne_some]
      intro metadataFk hget
      apply hmem
      rw [hsignatures, Dict.mem_keys_iff, Dict.mem_keys_iff]
      exact ⟨⟨fk, (get?_bySignature_iff hconn _ fk).mpr ⟨hfk, rfl⟩⟩, metadataFk, hget⟩
    rw [corrected, hnone, Option.elim_none]

end Correction

/-! ### Autogeneration -/

variable {L : MonetLexis} (R : ActionRecorder L)

/-- The foreign keys that reflection reports for ones that were created from declarations: the
clauses are accepted, MonetDB records a number for them in a row, and that is reflected. -/
def Reflects (created : List (κ × Cascades)) (connFks : List (ComparedForeignKey κ)) : Prop :=
  List.Forall₂ (fun declaration fk => fk.unnamedNoOptions = declaration.1 ∧
      ∃ text schema, ∃ r : ForeignKeyRow, defineConstraintCascades declaration.2 = .ok text ∧
        R.recordedAction text = some r.fkk.action ∧ fk.options = (r.constraint schema).cascades)
    created connFks

/-- The options of two foreign keys compare equal. -/
def SameOptions (a b : ComparedForeignKey κ) : Prop :=
  comparison.view a.options.ondelete = comparison.view b.options.ondelete ∧
    comparison.view a.options.onupdate = comparison.view b.options.onupdate

omit [DecidableEq κ] in
/-- The options that are reflected are those of the actions in force. -/
theorem Reflects.options {created : List (κ × Cascades)} {connFks : List (ComparedForeignKey κ)}
    (h : Reflects R created connFks) (hcreated : ∀ declaration ∈ created, declaration.2.Spelled) :
  List.Forall₂ (fun declaration fk => fk.unnamedNoOptions = declaration.1 ∧ fk.options =
      ⟨fkOption (effectiveAction declaration.2.ondelete).code,
        fkOption (effectiveAction declaration.2.onupdate).code⟩)
    created connFks
  := by
  have hspelled := (List.forall₂_and_left _ _).mpr ⟨hcreated, h⟩
  apply hspelled.imp
  rintro ⟨signature, cascades⟩ fk ⟨hspelled, hsignature, text, schema, r, htext, haction, hoptions⟩
  obtain ⟨text', htext', haction'⟩ := recordedAction_cascades R hspelled
  obtain rfl := Except.ok.inj (htext.symm.trans htext')
  have hrecorded := Option.some.inj (haction.symm.trans haction')
  exact ⟨hsignature, hoptions.trans (cascades_constraint schema hrecorded)⟩

/-- Foreign keys that were created from some declarations, compared with the metadata's: their
options compare equal exactly when both options that are declared agree with the ones by which the
foreign key was created. -/
theorem autogenerate_iff {created : List (κ × Cascades)}
    {connFks metadataFks : List (ComparedForeignKey κ)} {signatures : List κ}
    (hcreated : ∀ declaration ∈ created, declaration.2.Spelled)
    (hmetadata : ∀ fk ∈ metadataFks, fk.options.Spelled)
    (hreflects : Reflects R created connFks)
    (hconn : Distinct connFks) (hdistinct : Distinct metadataFks)
    (hsignatures : CommonSignatures connFks metadataFks signatures) :
  List.Forall₂ (fun declaration connFk => ∀ metadataFk ∈ metadataFks,
      metadataFk.unnamedNoOptions = declaration.1 →
        (SameOptions comparison connFk metadataFk
          ↔ OptionAgrees metadataFk.options.ondelete declaration.2.ondelete ∧
            OptionAgrees metadataFk.options.onupdate declaration.2.onupdate))
    created (correctForAutogenForeignkeys connFks metadataFks signatures)
  := by
  rw [correctForAutogenForeignkeys_eq hconn hsignatures, List.forall₂_map_right_iff]
  apply (hreflects.options R hcreated).imp
  rintro ⟨signature, cascades⟩ fk ⟨hsignature, hoptions⟩ metadataFk hmem hsame
  have hget : (bySignature metadataFks).get? fk.unnamedNoOptions = some metadataFk :=
    (get?_bySignature_iff hdistinct _ metadataFk).mpr ⟨hmem, hsame.trans hsignature.symm⟩
  obtain ⟨hondelete, honupdate⟩ := hmetadata metadataFk hmem
  rw [corrected, hget, SameOptions, ← comparison.view_relaxOption_iff hondelete,
    ← comparison.view_relaxOption_iff honupdate]
  simp only [Option.elim_some, ComparedForeignKey.relax, hoptions]

/-- Options are compared in lower case. -/
def lowerCaseComparison : OptionComparison where
  View := Option (List Char)
  view option := option.bind fun phrase =>
    let lowered := phrase.toList.map Char.toLower
    if lowered = "no action".toList then none else some lowered
  none_eq := by decide
  view_spelled h := by
    rw [Spells] at h
    simp only [Option.bind_some, h]
  injective {a b} h := by
    revert h
    cases a <;> cases b <;> decide

/-- The clauses by which two foreign keys were created. -/
def createdCascades : List (String × Cascades) :=
  [("parent", ⟨none, some "cascade"⟩), ("owner", ⟨some "SET NULL", none⟩)]

/-- The row of a foreign key of a table to itself, with a number for its actions. -/
def treeKeyRow (action : Int) : ForeignKeyRow where
  fkk := ⟨8001, 8000, keyTypeForeign, "node_parent_fkey", 8002, action⟩
  fkc := ⟨8001, "parent", 0⟩
  pkk := { id := 8002, tableId := 8000, type := keyTypePrimary, name := "node_id_pkey" }
  pkc := ⟨8002, "id", 0⟩
  fkt := ⟨8000, "node", 2000, tableTypeTable⟩
  fs := ⟨2000, "app"⟩
  pkt := ⟨8000, "node", 2000, tableTypeTable⟩
  ps := ⟨2000, "app"⟩

/-- The two foreign keys as they are reflected. -/
def reflectedForeignKeys : List (ComparedForeignKey String) :=
  [⟨0, "parent", ⟨some "RESTRICT", some "CASCADE"⟩⟩,
    ⟨1, "owner", ⟨some "SET NULL", some "RESTRICT"⟩⟩]

/-- The metadata, in which the second foreign key has lost its option. -/
def metadataForeignKeys : List (ComparedForeignKey String) :=
  [⟨2, "owner", ⟨none, none⟩⟩, ⟨3, "parent", ⟨none, some "Cascade"⟩⟩]

/-- The two foreign keys, compared with the metadata's. -/
theorem autogenerate_created :
  List.Forall₂ (fun declaration connFk => ∀ metadataFk ∈ metadataForeignKeys,
      metadataFk.unnamedNoOptions = declaration.1 →
        (SameOptions lowerCaseComparison connFk metadataFk
          ↔ OptionAgrees metadataFk.options.ondelete declaration.2.ondelete ∧
            OptionAgrees metadataFk.options.onupdate declaration.2.onupdate))
    createdCascades
    (correctForAutogenForeignkeys reflectedForeignKeys metadataForeignKeys ["owner", "parent"])
  := by
  have hparent : (readingRecorder plainLexis).recordedAction " ON UPDATE cascade" = some 258 := by
    decide +kernel
  have howner : (readingRecorder plainLexis).recordedAction " ON DELETE SET NULL" = some 515 := by
    decide +kernel
  have hreflects : Reflects (readingRecorder plainLexis) createdCascades reflectedForeignKeys :=
    .cons ⟨rfl, " ON UPDATE cascade", none, treeKeyRow 258, by decide +kernel, hparent, by decide⟩
      (.cons ⟨rfl, " ON DELETE SET NULL", none, treeKeyRow 515, by decide +kernel, howner,
        by decide⟩ .nil)
  apply autogenerate_iff lowerCaseComparison (readingRecorder plainLexis) _ _ hreflects
    ⟨by decide, by decide⟩ ⟨by decide, by decide⟩
  · intro signature
    have hconn : (bySignature reflectedForeignKeys).keys = ["parent", "owner"] := by decide
    have hmetadata : (bySignature metadataForeignKeys).keys = ["owner", "parent"] := by decide
    rw [hconn, hmetadata]
    simp [or_comm]
  · decide +kernel
  · decide +kernel

end MonetDB
