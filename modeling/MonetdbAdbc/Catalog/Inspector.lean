import MonetdbAdbc.Catalog.Lookups
import MonetdbAdbc.Library.Memo

/-!
# An inspector

An inspector passes one `info_cache` to everything that it asks the dialect for.  The lookups
keep their answers in it (`reflection.cache`), and some ask others that do so too: `has_table`
asks for the identity of the table, and `has_index` for the indexes.  An answer is kept, an error
is not.  The batched getters keep only what their requests resolve to.

The key of an answer is made of the name of the function, of those of its arguments that are
strings, and of its keywords, and what is found under it is the answer, whatever it was kept for.
The keys of different lookups differ (`Lookup.key_injective`), so as long as the catalog does not
change, every answer is the one that is given without a cache, whatever was asked before and in
whatever order (`inspector_outputs`).
-/

namespace MonetDB

/-! ### What can be asked -/

/-- A lookup that keeps its answer, with its arguments. -/
inductive Lookup where
  | schemaId (schema : Option String)
  | tableId (tableName : String) (schema : Option String)
  | schemaNames
  | tableNames (schema : Option String)
  | tempTableNames (schema : Option String)
  | viewNames (schema : Option String)
  | viewDefinition (viewName : String) (schema : Option String)
  | sequenceNames (schema : Option String)
  | hasTable (tableName : String) (schema : Option String)
  | hasSequence (sequenceName : String) (schema : Option String)
  | hasIndex (tableName indexName : String) (schema : Option String)
deriving DecidableEq, Repr

/-- What a lookup is answered with: an identity, a definition, names, or whether there is one. -/
inductive LookupValue where
  | id (id : ObjectId)
  | definition (text : String)
  | names (names : List String)
  | flag (found : Bool)
deriving DecidableEq, Repr

/-- A kind of object that there are getters for. -/
inductive GetterKind where
  | columns
  | pkConstraint
  | foreignKeys
  | indexes
  | uniqueConstraints
  | checkConstraints
  | tableComment
deriving DecidableEq, Repr

/-- What a getter answers with for one table. -/
abbrev GetterKind.Answer : GetterKind → Type
  | columns => List ReflectedColumn
  | pkConstraint => ReflectedPrimaryKeyConstraint
  | foreignKeys => List ReflectedForeignKeyConstraint
  | indexes => List ReflectedIndex
  | uniqueConstraints => List ReflectedUniqueConstraint
  | checkConstraints => List ReflectedCheckConstraint
  | tableComment => ReflectedTableComment

/-- A call of an inspector. -/
inductive InspectorCall where
  | lookup (k : Lookup)
  | single (kind : GetterKind) (tableName : String) (schema : Option String)
  | multi (kind : GetterKind) (kw : Request)
deriving DecidableEq, Repr

/-- What a call is answered with. -/
abbrev InspectorCall.Answer : InspectorCall → Type
  | lookup _ => LookupValue
  | single kind _ _ => kind.Answer
  | multi kind _ => List (TableKey × kind.Answer)

variable (catalog : Catalog) (query : TableRow → Option String)

/-- The batched getter of a kind of object. -/
def multiGetter : (kind : GetterKind) → MultiGetter kind.Answer
  | .columns => getMultiColumns catalog
  | .pkConstraint => getMultiPkConstraint catalog
  | .foreignKeys => getMultiForeignKeys catalog
  | .indexes => getMultiIndexes catalog
  | .uniqueConstraints => getMultiUniqueConstraints catalog
  | .checkConstraints => getMultiCheckConstraints catalog
  | .tableComment => getMultiTableComment catalog

/-- The getter of a kind of object for a single table. -/
def singleGetter : (kind : GetterKind) → SingleGetter kind.Answer
  | .columns => getColumns catalog
  | .pkConstraint => getPkConstraint catalog
  | .foreignKeys => getForeignKeys catalog
  | .indexes => getIndexes catalog
  | .uniqueConstraints => getUniqueConstraints catalog
  | .checkConstraints => getCheckConstraints catalog
  | .tableComment => getTableComment catalog

/-! ### Answers without a cache -/

/-- The answer of a lookup that is passed no `info_cache`. -/
def plainLookup : Lookup → Except ReflectionError LookupValue
  | .schemaId schema => .id <$> schemaId catalog schema
  | .tableId tableName schema => .id <$> tableId catalog tableName schema
  | .schemaNames => .ok (.names (getSchemaNames catalog))
  | .tableNames schema => .names <$> getTableNames catalog schema
  | .tempTableNames schema => .ok (.names (getTempTableNames catalog schema))
  | .viewNames schema => .names <$> getViewNames catalog schema
  | .viewDefinition viewName schema =>
      .definition <$> getViewDefinition catalog query viewName schema
  | .sequenceNames schema => .names <$> getSequenceNames catalog schema
  | .hasTable tableName schema => .ok (.flag (hasTable catalog tableName schema))
  | .hasSequence sequenceName schema => .ok (.flag (hasSequence catalog sequenceName schema))
  | .hasIndex tableName indexName schema =>
      .flag <$> hasIndex catalog tableName indexName schema

/-- The answer of a call that is passed no `info_cache`. -/
def plainAnswer : (call : InspectorCall) → Except ReflectionError call.Answer
  | .lookup k => plainLookup catalog query k
  | .single kind tableName schema => (singleGetter catalog kind tableName schema none).1
  | .multi kind kw => .ok (multiGetter catalog kind kw none).1

/-! ### Keys -/

/-- A call of a lookup as `reflection.cache` gets it: the name of the function, its arguments less
the connection, and its keywords less `info_cache`.  An argument that has a default becomes a
keyword. -/
structure CachedCall where
  function : String
  args : List (Option String)
  kw : List (String × Option String)
deriving DecidableEq, Repr

/-- The call of a lookup. -/
def Lookup.call : Lookup → CachedCall
  | schemaId schema => ⟨"_schema_id", [schema], []⟩
  | tableId tableName schema => ⟨"_table_id", [some tableName], [("schema", schema)]⟩
  | schemaNames => ⟨"get_schema_names", [], []⟩
  | tableNames schema => ⟨"get_table_names", [], [("schema", schema)]⟩
  | tempTableNames schema => ⟨"get_temp_table_names", [], [("schema", schema)]⟩
  | viewNames schema => ⟨"get_view_names", [], [("schema", schema)]⟩
  | viewDefinition viewName schema =>
      ⟨"get_view_definition", [some viewName], [("schema", schema)]⟩
  | sequenceNames schema => ⟨"get_sequence_names", [], [("schema", schema)]⟩
  | hasTable tableName schema => ⟨"has_table", [some tableName], [("schema", schema)]⟩
  | hasSequence sequenceName schema =>
      ⟨"has_sequence", [some sequenceName], [("schema", schema)]⟩
  | hasIndex tableName indexName schema =>
      ⟨"has_index", [some tableName, some indexName], [("schema", schema)]⟩

/-- The key under which `reflection.cache` keeps the answer of a call.  Of its arguments, it has
only those that are strings. -/
structure CacheKey where
  function : String
  strings : List String
  kw : List (String × Option String)
deriving DecidableEq, Repr

/-- The key of a call. -/
def CachedCall.key (call : CachedCall) : CacheKey where
  function := call.function
  strings := call.args.filterMap id
  kw := call.kw

/-- The key of a lookup. -/
def Lookup.key (k : Lookup) : CacheKey :=
  k.call.key

/-- An argument is a string or is left out, and nothing else is. -/
theorem strings_injective {schema schema' : Option String}
    (h : [schema].filterMap id = [schema'].filterMap id) :
  schema = schema'
  := by cases schema <;> cases schema' <;> simp_all

/-- No two lookups have the same key. -/
theorem Lookup.key_injective :
  Function.Injective Lookup.key
  := by
  intro k k' h
  obtain ⟨hfunction, hstrings, hkw⟩ := CacheKey.mk.inj h
  -- the functions have names of their own, which leaves lookups of the same kind
  cases k <;> cases k' <;> try cases hfunction
  case schemaId.schemaId => rw [strings_injective hstrings]
  all_goals simp_all [call]

/-! ### Answers with a cache -/

/-- The `info_cache`, which is there for both parts or for neither: the answers of lookups, and
what requests resolved to, under keys that are no lookup's. -/
structure InspectorCache where
  answers : Option (Memo CacheKey LookupValue)
  resolved : Option InfoCache

/-- The answers of lookups, as a part of the cache. -/
def InspectorCache.lookups :
    Stored.Part InspectorCache (Option (Memo CacheKey LookupValue)) where
  get := answers
  modify f cache := { cache with answers := f cache.answers }
  get_modify _ _ := rfl

/-- Something that is asked of the dialect with the `info_cache`. -/
abbrev Inspects (α : Type) := Stored InspectorCache ReflectionError α

/-- A getter, with the resolved requests of the cache. -/
def inspectSingle {α : Type} (single : SingleGetter α) (tableName : String)
    (schema : Option String) : Inspects α := fun cache =>
  let (answer, resolved) := single tableName schema cache.resolved
  (answer, { cache with resolved })

/-- A batched getter, with the resolved requests of the cache. -/
def inspectMulti {α : Type} (multi : MultiGetter α) (kw : Request) :
    Inspects (List (TableKey × α)) := fun cache =>
  let (entries, resolved) := multi kw cache.resolved
  (.ok entries, { cache with resolved })

/-- The body of a lookup.  `_schema_id` is asked without the cache by all of them. -/
def lookupBody : Lookup → Inspects LookupValue
  | .hasTable tableName schema => do
    try
      let _ ← Stored.memoise InspectorCache.lookups (Lookup.tableId tableName schema).key
        (.ofExcept (plainLookup catalog query (.tableId tableName schema)))
      pure (.flag true)
    catch _ => pure (.flag false)
  | .hasIndex tableName indexName schema => do
    try
      let indexes ← inspectSingle (getIndexes catalog) tableName schema
      pure (.flag (indexes.any fun index => index.name = indexName))
    catch e => .ofExcept (.flag <$> withoutIndexes e)
  | k => .ofExcept (plainLookup catalog query k)

/-- A call with the cache. -/
def inspect : (call : InspectorCall) → Inspects call.Answer
  | .lookup k => Stored.memoise InspectorCache.lookups k.key (lookupBody catalog query k)
  | .single kind tableName schema => inspectSingle (singleGetter catalog kind) tableName schema
  | .multi kind kw => inspectMulti (multiGetter catalog kind) kw

/-- Calls over an unchanged catalog, one after the other, with what each is answered. -/
def inspectorMachine : Machine InspectorCache InspectorCall
    (Σ call : InspectorCall, Except ReflectionError call.Answer) where
  step cache call := (inspect catalog query call cache).map (Sigma.mk call) id

/-! ### The cache cannot be observed -/

/-- The invariant of the cache: answers of lookups that it holds are those without a cache, and
its resolved requests come from earlier requests. -/
abbrev InspectorCache.Sound : InspectorCache → Prop :=
  Stored.Keeps lookups Lookup.key (plainLookup catalog query) fun cache =>
    Earlier catalog cache.resolved

variable {catalog}

theorem Earlier.next {infoCache : Option InfoCache} (h : Earlier catalog infoCache)
    (kw : Request) :
  Earlier catalog ((reflectionMachine catalog).next infoCache kw)
  := by
  obtain ⟨start, requests, hstart, rfl⟩ := h
  use start, requests ++ [kw], hstart
  rw [Machine.final_append]
  rfl

theorem earlier_none :
  Earlier catalog none
  := ⟨none, [], .inl rfl, rfl⟩

section Getters

variable {α : Type} {multi : MultiGetter α} {single : SingleGetter α} {schema : Option String}
  {entry : ObjectId → α}

theorem computes_inspectSingle (h : AnswersByTable catalog multi single schema entry)
    (tableName : String) :
  Stored.Computes (InspectorCache.Sound catalog query) (single tableName schema none).1
    (inspectSingle single tableName schema)
  := by
  rintro cache ⟨hanswers, hearlier⟩
  refine ⟨?_, hanswers, ?_⟩
  · change (single tableName schema cache.resolved).1 = _
    rw [h.one_eq catalog hearlier, h.one_eq catalog earlier_none]
  · change Earlier catalog (single tableName schema cache.resolved).2
    rw [h.one_cache]
    apply hearlier.next

theorem computes_inspectMulti {kw : Request}
    (h : AnswersByTable catalog multi single kw.schema entry) :
  Stored.Computes (InspectorCache.Sound catalog query) (.ok (multi kw none).1)
    (inspectMulti multi kw)
  := by
  rintro cache ⟨hanswers, hearlier⟩
  refine ⟨?_, hanswers, ?_⟩
  · change Except.ok (multi kw cache.resolved).1 = _
    rw [h.batched kw _ rfl hearlier, h.batched kw _ rfl earlier_none,
      hearlier.resolveRequest_fst, earlier_none.resolveRequest_fst]
  · change Earlier catalog (multi kw cache.resolved).2
    rw [h.cache]
    apply hearlier.next

end Getters

variable (catalog)

theorem answersByTable_kind (kind : GetterKind) (schema : Option String) :
  ∃ entry, AnswersByTable catalog (multiGetter catalog kind) (singleGetter catalog kind) schema
    entry
  := by
  cases kind with
  | columns => exact ⟨_, answersByTable_columns catalog schema⟩
  | pkConstraint => exact ⟨_, answersByTable_pkConstraint catalog schema⟩
  | foreignKeys => exact ⟨_, answersByTable_foreignKeys catalog schema⟩
  | indexes => exact ⟨_, answersByTable_indexes catalog schema⟩
  | uniqueConstraints => exact ⟨_, answersByTable_uniqueConstraints catalog schema⟩
  | checkConstraints => exact ⟨_, answersByTable_checkConstraints catalog schema⟩
  | tableComment => exact ⟨_, answersByTable_tableComment catalog schema⟩

theorem separates_key :
  Memo.Separates Lookup.key (plainLookup catalog query)
  := Memo.separates_of_injective Lookup.key_injective _

/-- `has_table` keeps the identity of the table as well, if it finds one. -/
theorem computes_hasTable (tableName : String) (schema : Option String) :
  Stored.Computes (InspectorCache.Sound catalog query)
    (plainLookup catalog query (.hasTable tableName schema))
    (lookupBody catalog query (.hasTable tableName schema))
  := by
  have hid : Stored.Computes (InspectorCache.Sound catalog query)
      (plainLookup catalog query (.tableId tableName schema))
      (Stored.memoise InspectorCache.lookups (Lookup.tableId tableName schema).key
        (.ofExcept (plainLookup catalog query (.tableId tableName schema)))) :=
    Stored.Computes.memoise (separates_key catalog query) (fun _ _ h => h)
      Stored.computes_ofExcept
  have hanswer : Stored.Computes (InspectorCache.Sound catalog query) _
      (lookupBody catalog query (.hasTable tableName schema)) :=
    (hid.bind fun _ _ => Stored.computes_ofExcept).tryCatch fun _ _ => Stored.computes_ofExcept
  convert hanswer using 1
  rw [plainLookup, plainLookup, hasTable]
  cases tableId catalog tableName schema <;> rfl

/-- `has_index` leaves in the cache what asking for the indexes does. -/
theorem computes_hasIndex (tableName indexName : String) (schema : Option String) :
  Stored.Computes (InspectorCache.Sound catalog query)
    (plainLookup catalog query (.hasIndex tableName indexName schema))
    (lookupBody catalog query (.hasIndex tableName indexName schema))
  := by
  have hindexes :=
    computes_inspectSingle query (answersByTable_indexes catalog schema) tableName
  have hanswer : Stored.Computes (InspectorCache.Sound catalog query) _
      (lookupBody catalog query (.hasIndex tableName indexName schema)) :=
    (hindexes.bind fun _ _ => Stored.computes_ofExcept).tryCatch fun _ _ =>
      Stored.computes_ofExcept
  convert hanswer using 1
  rw [plainLookup, hasIndex]
  cases (getIndexes catalog tableName schema none).1 <;> rfl

/-- A lookup, whether or not it asks others, computes the answer without a cache. -/
theorem computes_lookupBody (k : Lookup) :
  Stored.Computes (InspectorCache.Sound catalog query) (plainLookup catalog query k)
    (lookupBody catalog query k)
  := by
  cases k with
  | hasTable tableName schema => apply computes_hasTable
  | hasIndex tableName indexName schema => apply computes_hasIndex
  | _ => apply Stored.computes_ofExcept

/-- A call with the cache computes the answer without it. -/
theorem computes_inspect (call : InspectorCall) :
  Stored.Computes (InspectorCache.Sound catalog query) (plainAnswer catalog query call)
    (inspect catalog query call)
  := by
  cases call with
  | lookup k =>
      apply (computes_lookupBody catalog query k).memoise (separates_key catalog query)
        fun _ _ h => h
  | single kind tableName schema =>
      obtain ⟨entry, h⟩ := answersByTable_kind catalog kind schema
      apply computes_inspectSingle query h
  | multi kind kw =>
      obtain ⟨entry, h⟩ := answersByTable_kind catalog kind kw.schema
      apply computes_inspectMulti query h

/-- An inspector that was just made: it has an empty `info_cache`, or none is passed. -/
def InspectorCache.New (cache : InspectorCache) : Prop :=
  cache = ⟨none, none⟩ ∨ cache = ⟨some .empty, some .empty⟩

theorem InspectorCache.New.sound {cache : InspectorCache} (h : cache.New) :
  cache.Sound catalog query
  := by
  obtain rfl | rfl := h
  · exact ⟨by rintro m ⟨⟩, earlier_none⟩
  · refine ⟨?_, ⟨some .empty, [], .inr rfl, rfl⟩⟩
    rintro m ⟨⟩
    apply Memo.faithful_empty

/-- Whatever is asked of an inspector, in whatever order, every answer is the one that is given
without a cache. -/
theorem inspector_outputs {cache : InspectorCache} (h : cache.New)
    (calls : List InspectorCall) :
  (inspectorMachine catalog query).outputs cache calls
    = calls.map fun call => ⟨call, plainAnswer catalog query call⟩
  := by
  apply Machine.outputs_eq_map _ _ (h.sound catalog query)
  intro cache call hsound
  obtain ⟨hanswer, hnext⟩ := computes_inspect catalog query call cache hsound
  exact ⟨congrArg (Sigma.mk call) hanswer, hnext⟩

/-- An inspector of a catalog in which a permanent and a temporary table have the same name. -/
theorem inspector_outputs_collision :
  (inspectorMachine collisionCatalog fun _ => none).outputs ⟨some .empty, some .empty⟩
      [.lookup (.hasTable "t" none), .lookup (.tableId "t" none),
        .single .tableComment "t" none]
    = [⟨.lookup (.hasTable "t" none), .ok (.flag true)⟩,
        ⟨.lookup (.tableId "t" none), .ok (.id 8000)⟩,
        ⟨.single .tableComment "t" none, .ok (⟨none⟩ : ReflectedTableComment)⟩]
  := inspector_outputs collisionCatalog _ (.inr rfl) _

end MonetDB
