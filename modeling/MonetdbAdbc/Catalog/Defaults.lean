import Mathlib.Data.List.TakeWhile
import MonetdbAdbc.Catalog.Reflection
import MonetdbAdbc.Library.Dict

/-!
# Defaults that draw from a sequence

The default of an `AUTO_INCREMENT` column is a text that names its sequence.
`autoincrementDefault` reads the names off the text, and it is the inverse of
`nextValueFor` on names that are not empty and have no quote in them.

`sequenceReflection` looks up the sequences that a list of defaults names, all at once.
What it finds at a name that is among them depends on the catalog and the name only.
-/

namespace MonetDB

/-! ### Reading a default -/

/-- `[^"]+"`: the characters up to a quote, at least one, and what follows the quote. -/
def upToQuote (cs : List Char) : Option (List Char × List Char) :=
  match cs.takeWhile (· ≠ '"'), cs.dropWhile (· ≠ '"') with
  | c :: name, _ :: rest => some (c :: name, rest)
  | _, _ => none

/-- `AUTOINCREMENT_DEFAULT.fullmatch`, with the schema and the sequence it captures. -/
def autoincrementDefault (default : String) : Option (String × String) := do
  let rest ← "next value for \"".toList.isPrefixOf? default.toList
  let (schema, rest) ← upToQuote rest
  let rest ← ".\"".toList.isPrefixOf? rest
  let (sequence, rest) ← upToQuote rest
  if rest = [] then some (String.ofList schema, String.ofList sequence) else none

theorem upToQuote_eq_some_iff (cs name rest : List Char) :
  upToQuote cs = some (name, rest) ↔ cs = name ++ '"' :: rest ∧ name ≠ [] ∧ '"' ∉ name
  := by
  constructor
  · intro h
    unfold upToQuote at h
    split at h
    · rename_i c name' q rest' htake hdrop
      obtain ⟨rfl, rfl⟩ : c :: name' = name ∧ rest' = rest := by simpa using h
      have hcs := List.takeWhile_append_dropWhile (p := fun c => decide (c ≠ '"')) (l := cs)
      have hq : q = '"' := by
        have := List.head?_dropWhile_not (fun c => decide (c ≠ '"')) cs
        rw [hdrop] at this
        simpa using this
      rw [htake, hdrop, hq] at hcs
      refine ⟨hcs.symm, List.cons_ne_nil _ _, ?_⟩
      intro hmem
      rw [← htake] at hmem
      have := List.mem_takeWhile_imp hmem
      simp at this
    · simp at h
  · rintro ⟨rfl, hne, hquote⟩
    have hall : ∀ c ∈ name, (decide (c ≠ '"')) = true := by
      intro c hc
      apply decide_eq_true
      rintro rfl
      apply hquote hc
    unfold upToQuote
    rw [List.takeWhile_append_of_pos hall, List.dropWhile_append_of_pos hall]
    cases name with
    | nil => exact absurd rfl hne
    | cons c name => simp

/-- A name that a default can hold: it is not empty and has no quote. -/
def Quotable (name : String) : Prop :=
  name ≠ "" ∧ '"' ∉ name.toList

theorem toList_append_five (a b c d e : String) :
  (a ++ b ++ c ++ d ++ e).toList
    = a.toList ++ (b.toList ++ (c.toList ++ (d.toList ++ e.toList)))
  := by simp only [String.toList_append, List.append_assoc]

theorem toList_nextValueFor (schema sequence : String) :
  (nextValueFor schema sequence).toList
    = "next value for \"".toList
      ++ (schema.toList ++ '"' :: (".\"".toList ++ (sequence.toList ++ '"' :: [])))
  := by
  have hdot : "\".\"".toList = '"' :: ".\"".toList := by simp
  have hquote : "\"".toList = ['"'] := by simp
  have h := toList_append_five "next value for \"" schema "\".\"" sequence "\""
  rw [hdot, hquote] at h
  apply h

/-- Reading a default is inverse to writing one. -/
theorem autoincrementDefault_eq_some_iff (default schema sequence : String) :
  autoincrementDefault default = some (schema, sequence) ↔
    default = nextValueFor schema sequence ∧ Quotable schema ∧ Quotable sequence
  := by
  have htoList : default = nextValueFor schema sequence ↔
      default.toList = (nextValueFor schema sequence).toList := String.toList_inj.symm
  rw [htoList, toList_nextValueFor]
  simp only [autoincrementDefault, Option.bind_eq_bind, Option.bind_eq_some_iff,
    List.isPrefixOf?_eq_some_iff_append_eq, Prod.exists, upToQuote_eq_some_iff]
  constructor
  · rintro ⟨_, hdefault, schemaName, _, ⟨rfl, hs, hs'⟩, _, rfl, sequenceName, rest,
      ⟨rfl, hq, hq'⟩, h⟩
    split at h
    · rename_i hrest
      obtain ⟨rfl, rfl⟩ : String.ofList schemaName = schema ∧
          String.ofList sequenceName = sequence := by simpa using h
      subst hrest
      simp only [Quotable, String.toList_ofList, ne_eq, String.ofList_eq_empty_iff]
      exact ⟨hdefault.symm, ⟨hs, hs'⟩, hq, hq'⟩
    · simp at h
  · rintro ⟨hdefault, ⟨hs, hs'⟩, hq, hq'⟩
    rw [ne_eq, ← String.toList_eq_nil_iff] at hs hq
    refine ⟨_, hdefault.symm, schema.toList, _, ⟨rfl, hs, hs'⟩, _, rfl, sequence.toList, [],
      ⟨rfl, hq, hq'⟩, ?_⟩
    simp

/-! ### Sequences -/

/-- `ReflectedIdentity`. -/
structure ReflectedIdentity where
  always : Bool
  onNull : Bool
  start : Int
  increment : Int
  minvalue : Int
  maxvalue : Int
  nominvalue : Bool
  nomaxvalue : Bool
  cycle : Bool
  cache : Int
  order : Bool
deriving DecidableEq, Repr

/-- The identity options of a sequence. -/
def SequenceRow.identity (seq : SequenceRow) : ReflectedIdentity where
  always := false
  onNull := false
  start := seq.start
  increment := seq.increment
  minvalue := seq.minvalue
  maxvalue := seq.maxvalue
  nominvalue := false
  nomaxvalue := false
  cycle := seq.cycle
  cache := seq.cacheinc
  order := false

variable (catalog : Catalog)

/-- A sequence depends on itself by a dependency of the type that marks it as generated. -/
def Catalog.generated (seq : SequenceRow) : Bool :=
  catalog.dependencies.any fun d =>
    d.id = seq.id ∧ d.dependId = seq.id ∧ d.dependType = 14

/-- Every sequence with its schema. -/
def Catalog.qualifiedSequences : List (SequenceRow × SchemaRow) :=
  Query.innerJoin (fun seq n => seq.schemaId = n.id) catalog.sequences catalog.schemas

/-- The schema and the name of a sequence. -/
def sequenceKey (r : SequenceRow × SchemaRow) : String × String :=
  (r.2.name, r.1.name)

/-- `_sequence_reflection`. -/
def sequenceReflection (defaults : List (Option String)) :
    Dict (String × String) (Bool × ReflectedIdentity) :=
  let references := defaults.filterMap fun default => default.bind autoincrementDefault
  if references.isEmpty then
    Dict.empty
  else
    let names := references.map Prod.snd
    let rows := catalog.qualifiedSequences.filter fun r => r.1.name ∈ names
    Dict.ofList ((rows.filter fun r => sequenceKey r ∈ references).map fun r =>
      (sequenceKey r, catalog.generated r.1, r.1.identity))

/-- The sequence of a name, with its schema. -/
def Catalog.sequence? (key : String × String) : Option (SequenceRow × SchemaRow) :=
  (catalog.qualifiedSequences.filter fun r => sequenceKey r = key).getLast?

/-- What the defaults of a request find at a name that is among them. -/
theorem get?_sequenceReflection {defaults : List (Option String)} {default : String}
    (hdefault : some default ∈ defaults) {key : String × String}
    (hkey : autoincrementDefault default = some key) :
  (sequenceReflection catalog defaults).get? key
    = (catalog.sequence? key).map fun r => (catalog.generated r.1, r.1.identity)
  := by
  have hmem : key ∈ defaults.filterMap fun default => default.bind autoincrementDefault := by
    rw [List.mem_filterMap]
    use some default
    exact ⟨hdefault, hkey⟩
  have hname : key.2 ∈ (defaults.filterMap fun default =>
      default.bind autoincrementDefault).map Prod.snd := List.mem_map_of_mem hmem
  unfold sequenceReflection
  dsimp only
  rw [if_neg, Dict.get?_ofList, List.filter_map, List.getLast?_map, List.filter_filter,
    List.filter_filter, Catalog.sequence?, Option.map_map]
  · congr 2
    apply List.filter_congr
    intro r _
    by_cases hr : sequenceKey r = key
    · have hr' : r.1.name = key.2 := congrArg Prod.snd hr
      simp [hr, hmem, hr', hname]
    · simp [hr]
  · rw [List.isEmpty_iff]
    apply List.ne_nil_of_mem hmem

theorem Catalog.mem_qualifiedSequences (seq : SequenceRow) (n : SchemaRow) :
  (seq, n) ∈ catalog.qualifiedSequences ↔
    seq ∈ catalog.sequences ∧ n ∈ catalog.schemas ∧ seq.schemaId = n.id
  := by
  rw [qualifiedSequences, Query.mem_innerJoin, decide_eq_true_eq]

/-- No two sequences have the same schema and name. -/
theorem Catalog.sequence_unique {r r' : SequenceRow × SchemaRow}
    (hr : r ∈ catalog.qualifiedSequences) (hr' : r' ∈ catalog.qualifiedSequences)
    (h : sequenceKey r = sequenceKey r') :
  r = r'
  := by
  obtain ⟨seq, n⟩ := r
  obtain ⟨seq', n'⟩ := r'
  rw [mem_qualifiedSequences] at hr hr'
  obtain ⟨hseq, hn, hid⟩ := hr
  obtain ⟨hseq', hn', hid'⟩ := hr'
  obtain ⟨hschema, hname⟩ := Prod.mk.inj h
  obtain rfl := catalog.schema_eq_of_name hn hn' hschema
  rw [catalog.sequence_eq_of_name hseq hseq' (hid.trans hid'.symm) hname]

/-- A name finds the sequence of the catalog that has it. -/
theorem Catalog.sequence?_eq_some_iff (key : String × String) (r : SequenceRow × SchemaRow) :
  catalog.sequence? key = some r ↔ r ∈ catalog.qualifiedSequences ∧ sequenceKey r = key
  := by
  have hsound : ∀ r, catalog.sequence? key = some r →
      r ∈ catalog.qualifiedSequences ∧ sequenceKey r = key := by
    intro r h
    have hmem := List.mem_of_getLast? h
    rwa [List.mem_filter, decide_eq_true_eq] at hmem
  constructor
  · apply hsound
  · rintro ⟨hr, hkey⟩
    have hmem : r ∈ catalog.qualifiedSequences.filter fun r => sequenceKey r = key := by
      rw [List.mem_filter, decide_eq_true_eq]
      exact ⟨hr, hkey⟩
    obtain ⟨r', hr'⟩ := Option.isSome_iff_exists.mp
      (List.getLast?_isSome.mpr (List.ne_nil_of_mem hmem))
    obtain ⟨hmem', hkey'⟩ := hsound r' hr'
    rw [← catalog.sequence_unique hmem' hr (hkey'.trans hkey.symm)]
    apply hr'

end MonetDB
