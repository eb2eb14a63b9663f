import Mathlib.Data.List.Basic
import Mathlib.Data.Nat.Init
import MonetdbAdbc.Library.Outcome

/-!
# JSON paths

`jsonPath` renders a path of object keys and array indices as MonetDB reads it: `$`, then
for each step a dot and a bare key, or a dot and an index in brackets.  There are no quotes
around a key, so a path is read back exactly when its keys are bare.  `pathProcessor` takes
a single key that begins with `$` for a path that is rendered already
(`parse_pathProcessor`).

`PathGrammar` is what MonetDB accepts as a bare key.
-/

namespace MonetDB

/-! ### Paths -/

/-- A step of a path: a key of an object or an index of an array. -/
inductive PathElement where
  | key (name : String)
  | index (i : Int)
deriving DecidableEq, Repr

/-- A path as Python passes it: one key or index by itself, or a list or tuple of them. -/
inductive PathValue where
  | single (element : PathElement)
  | several (elements : List PathElement)
deriving DecidableEq, Repr

/-- The steps of a path. -/
def PathValue.elements : PathValue → List PathElement
  | .single element => [element]
  | .several elements => elements

/-- The characters of `str(i)`. -/
def intDigits : Int → List Char
  | .ofNat n => Nat.toDigits 10 n
  | .negSucc n => '-' :: Nat.toDigits 10 (n + 1)

/-- `f".[{element}]" if isinstance(element, int) else f".{element}"`. -/
def renderElement : PathElement → String
  | .index i => ".[" ++ String.ofList (intDigits i) ++ "]"
  | .key name => "." ++ name

/-- `_json_path`. -/
def jsonPath (value : PathValue) : String :=
  "$" ++ String.join (value.elements.map renderElement)

/-- `value.startswith("$")`. -/
def startsWithDollar (name : String) : Bool :=
  "$".toList.isPrefixOf name.toList

/-- What `_path_processor` hands to the processor of strings. -/
def pathProcessor : PathValue → String
  | .single (.key name) =>
      if startsWithDollar name then name else jsonPath (.single (.key name))
  | value => jsonPath value

/-! ### How MonetDB reads a path -/

/-- A decimal numeral. -/
def readNatural (cs : List Char) : Option Nat :=
  if cs ≠ [] ∧ cs.all Char.isDigit then some (Nat.ofDigitChars 10 cs 0) else none

/-- A decimal numeral with an optional sign. -/
def readInteger : List Char → Option Int
  | '-' :: cs => (readNatural cs).map fun n => -n
  | cs => (readNatural cs).map fun n => n

/-- An integer in brackets. -/
def readIndex : List Char → Option Int
  | '[' :: cs => if cs.getLast? = some ']' then readInteger cs.dropLast else none
  | _ => none

/-- What a bare key is. -/
structure PathGrammar where
  isKey : List Char → Bool
  /-- A bare key is not empty. -/
  ne_nil : ∀ {cs}, isKey cs → cs ≠ []
  /-- It has no dot, which separates steps. -/
  dot_notMem : ∀ {cs}, isKey cs → '.' ∉ cs
  /-- It is not an index. -/
  readIndex_eq_none : ∀ {cs}, isKey cs → readIndex cs = none

namespace PathGrammar

variable (G : PathGrammar)

/-- What stands between two dots. -/
def readElement (cs : List Char) : Option PathElement :=
  match readIndex cs with
  | some i => some (.index i)
  | none => if G.isKey cs then some (.key (String.ofList cs)) else none

/-- `$`, then steps that each follow a dot. -/
def parse (path : String) : Option (List PathElement) :=
  match path.toList with
  | '$' :: cs =>
      match cs.splitOn '.' with
      | [] :: steps => steps.mapM G.readElement
      | _ => none
  | _ => none

/-- The largest grammar: a bare key is all that has no dot and is not an index. -/
def anyKey : PathGrammar where
  isKey cs := cs ≠ [] ∧ '.' ∉ cs ∧ readIndex cs = none
  ne_nil h := (of_decide_eq_true h).1
  dot_notMem h := (of_decide_eq_true h).2.1
  readIndex_eq_none h := (of_decide_eq_true h).2.2

end PathGrammar

/-! ### What is rendered -/

/-- The characters of a step after its dot. -/
def PathElement.chars : PathElement → List Char
  | .index i => '[' :: (intDigits i ++ [']'])
  | .key name => name.toList

theorem toList_renderElement (element : PathElement) :
  (renderElement element).toList = '.' :: element.chars
  := by
  cases element with
  | key name => rw [renderElement, String.toList_append, PathElement.chars]; rfl
  | index i =>
      simp only [renderElement, String.toList_append, String.toList_ofList, PathElement.chars]
      rfl

theorem toList_jsonPath (value : PathValue) :
  (jsonPath value).toList = '$' :: value.elements.flatMap fun element => '.' :: element.chars
  := by
  rw [jsonPath, String.toList_append, String.toList_join, List.flatMap_map]
  simp only [toList_renderElement]
  rfl

/-- Lists that follow a separator each are joined by it, after an empty one. -/
theorem intercalate_cons (c : Char) (first : List Char) (steps : List (List Char)) :
  [c].intercalate (first :: steps) = first ++ steps.flatMap fun step => c :: step
  := by
  induction steps generalizing first with
  | nil => simp
  | cons step steps ih => rw [List.intercalate_cons_cons, ih, List.flatMap_cons]; simp

/-- Steps without a dot are found again between the dots. -/
theorem splitOn_flatMap {steps : List (List Char)} (h : ∀ step ∈ steps, '.' ∉ step) :
  (steps.flatMap fun step => '.' :: step).splitOn '.' = [] :: steps
  := by
  have hjoin := intercalate_cons '.' [] steps
  rw [List.nil_append] at hjoin
  rw [← hjoin]
  apply List.splitOn_intercalate
  · rw [List.forall_mem_cons]
    exact ⟨List.not_mem_nil, h⟩
  · apply List.cons_ne_nil

/-! ### Indices -/

theorem isDigit_of_mem_toDigits {n : Nat} {c : Char} (h : c ∈ Nat.toDigits 10 n) :
  c.isDigit
  := Nat.isDigit_of_mem_toDigits (by decide) (by decide) h

theorem readNatural_toDigits (n : Nat) :
  readNatural (Nat.toDigits 10 n) = some n
  := by
  have hdigits : (Nat.toDigits 10 n).all Char.isDigit := by
    rw [List.all_eq_true]
    exact fun c hc => isDigit_of_mem_toDigits hc
  rw [readNatural, if_pos ⟨Nat.toDigits_ne_nil, hdigits⟩, Nat.ofDigitChars_ten_toDigits]

theorem readInteger_intDigits (i : Int) :
  readInteger (intDigits i) = some i
  := by
  cases i with
  | negSucc n =>
      rw [intDigits, readInteger, readNatural_toDigits]
      rfl
  | ofNat n =>
      rw [intDigits, readInteger.eq_2, readNatural_toDigits]
      · rfl
      · intro cs hcs
        have hminus : ('-').isDigit := by
          apply isDigit_of_mem_toDigits (n := n)
          rw [hcs]
          apply List.mem_cons_self
        revert hminus
        decide

/-- A numeral consists of digits and a sign. -/
theorem notMem_intDigits {c : Char} (hdigit : ¬ c.isDigit) (hsign : c ≠ '-') (i : Int) :
  c ∉ intDigits i
  := by
  have hdigits : ∀ n, c ∉ Nat.toDigits 10 n := fun n hc => hdigit (isDigit_of_mem_toDigits hc)
  cases i with
  | ofNat n => apply hdigits
  | negSucc n =>
      rw [intDigits, List.mem_cons, not_or]
      exact ⟨hsign, hdigits (n + 1)⟩

theorem readIndex_chars (i : Int) :
  readIndex (PathElement.index i).chars = some i
  := by
  rw [PathElement.chars, readIndex, List.getLast?_concat, if_pos rfl, List.dropLast_concat,
    readInteger_intDigits]

/-! ### Reading what was rendered -/

namespace PathGrammar

variable (G : PathGrammar)

/-- A path is rendered faithfully when its keys are bare, unless it is a single key that is
taken for a rendered path. -/
structure Renders (value : PathValue) : Prop where
  bare : ∀ name, .key name ∈ value.elements → G.isKey name.toList
  rendered : ∀ name, value = .single (.key name) → ¬ startsWithDollar name

variable {G} in
/-- A bare key by itself is rendered faithfully unless it begins with `$`. -/
theorem renders_key {name : String} (hname : G.isKey name.toList)
    (hdollar : ¬ startsWithDollar name) :
  G.Renders (.single (.key name))
  := by
  constructor
  · intro name' hmem
    cases List.mem_singleton.mp hmem
    apply hname
  · rintro name' ⟨⟩
    apply hdollar

variable {G} in
/-- A path that is rendered faithfully is rendered, not passed on. -/
theorem Renders.pathProcessor_eq {value : PathValue} (h : G.Renders value) :
  pathProcessor value = jsonPath value
  := by
  cases value with
  | several elements => rfl
  | single element =>
      cases element with
      | index i => rfl
      | key name => rw [pathProcessor, if_neg (h.rendered name rfl)]

theorem readElement_chars {element : PathElement}
    (h : ∀ name, element = .key name → G.isKey name.toList) :
  G.readElement element.chars = some element
  := by
  cases element with
  | index i => rw [readElement, readIndex_chars]
  | key name =>
      have hname := h name rfl
      rw [readElement, PathElement.chars, G.readIndex_eq_none hname]
      dsimp only
      rw [if_pos hname, String.ofList_toList]

/-- A key that is read is bare. -/
theorem isKey_of_readElement {cs : List Char} {name : String}
    (h : G.readElement cs = some (.key name)) :
  cs = name.toList ∧ G.isKey name.toList
  := by
  rw [readElement] at h
  split at h
  · cases h
  · split at h
    · rename_i hkey
      cases h
      rw [String.toList_ofList]
      exact ⟨rfl, hkey⟩
    · cases h

/-- The steps of a string that is a path. -/
theorem exists_of_parse {path : String} {elements : List PathElement}
    (h : G.parse path = some elements) :
  ∃ steps : List (List Char), path.toList = '$' :: (steps.flatMap fun step => '.' :: step) ∧
    steps.mapM G.readElement = some elements
  := by
  rw [parse] at h
  split at h
  · rename_i cs hpath
    split at h
    · rename_i steps hsteps
      refine ⟨steps, ?_, h⟩
      have hjoin : ['.'].intercalate (cs.splitOn '.') = cs := List.intercalate_splitOn '.'
      rw [hsteps, intercalate_cons, List.nil_append] at hjoin
      rw [hpath, hjoin]
    · cases h
  · cases h

/-- Keys that are read are bare. -/
theorem isKey_of_parse {path : String} {elements : List PathElement}
    (h : G.parse path = some elements) {name : String} (hname : .key name ∈ elements) :
  G.isKey name.toList
  := by
  obtain ⟨steps, -, hsteps⟩ := G.exists_of_parse h
  obtain ⟨cs, -, hread⟩ := Outcome.exists_of_mem_mapM_some hsteps hname
  apply (G.isKey_of_readElement hread).2

/-- No string is read as a single step that is the string itself. -/
theorem parse_ne_self (name : String) :
  G.parse name ≠ some [.key name]
  := by
  intro h
  obtain ⟨steps, hchars, hsteps⟩ := G.exists_of_parse h
  have hvalues := Outcome.forall₂_of_mapM_eq_some hsteps
  rw [List.forall₂_cons_right_iff] at hvalues
  obtain ⟨cs, rest, hread, hrest, rfl⟩ := hvalues
  rw [List.forall₂_nil_right_iff] at hrest
  rw [hrest, (G.isKey_of_readElement hread).1, List.flatMap_singleton] at hchars
  have hlength := congrArg List.length hchars
  rw [List.length_cons, List.length_cons] at hlength
  omega

/-- Rendered paths with bare keys are read back. -/
theorem parse_jsonPath {value : PathValue}
    (h : ∀ name, .key name ∈ value.elements → G.isKey name.toList) :
  G.parse (jsonPath value) = some value.elements
  := by
  have hdots : ∀ step ∈ value.elements.map PathElement.chars, '.' ∉ step := by
    intro step hstep
    obtain ⟨element, helement, rfl⟩ := List.mem_map.mp hstep
    cases element with
    | key name => apply G.dot_notMem (h name helement)
    | index i =>
        have hdigits := notMem_intDigits (c := '.') (by decide) (by decide) i
        simp [PathElement.chars, hdigits]
  have hread : ∀ element ∈ value.elements,
      (G.readElement ∘ PathElement.chars) element = some element := by
    intro element helement
    apply G.readElement_chars
    rintro name rfl
    apply h name helement
  have hsplit := splitOn_flatMap hdots
  rw [List.flatMap_map] at hsplit
  simp only [parse, toList_jsonPath, hsplit, List.mapM_map]
  rw [Outcome.mapM_congr (g := some) hread]
  apply List.mapM_pure.trans
  rw [List.map_id']
  rfl

variable {G} in
/-- A path that is rendered faithfully is read back. -/
theorem Renders.parse_eq {value : PathValue} (h : G.Renders value) :
  G.parse (pathProcessor value) = some value.elements
  := by
  rw [h.pathProcessor_eq]
  apply G.parse_jsonPath h.bare

/-- What is sent to MonetDB is read back as the path exactly when the path is rendered
faithfully; two paths that are rendered faithfully are sent as different strings. -/
theorem parse_pathProcessor :
  (∀ value, G.parse (pathProcessor value) = some value.elements ↔ G.Renders value) ∧
    ∀ value value', G.Renders value → G.Renders value' →
      pathProcessor value = pathProcessor value' → value.elements = value'.elements
  := by
  have hiff : ∀ value, G.parse (pathProcessor value) = some value.elements ↔ G.Renders value := by
    intro value
    constructor
    · intro h
      constructor
      · intro name hname
        apply G.isKey_of_parse h hname
      · rintro name rfl hdollar
        rw [pathProcessor, if_pos hdollar] at h
        apply G.parse_ne_self name h
    · intro h
      apply h.parse_eq
  refine ⟨hiff, ?_⟩
  intro value value' h h' hequal
  have hread := h.parse_eq
  rw [hequal, h'.parse_eq] at hread
  apply (Option.some.inj hread).symm

/-- A key with a dot is sent as two keys, a key in brackets as an index, and a key that begins
with `$` as it is. -/
theorem pathProcessor_ambiguous :
  pathProcessor (.single (.key "a.b")) = pathProcessor (.several [.key "a", .key "b"])
    ∧ pathProcessor (.single (.key "[0]")) = pathProcessor (.single (.index 0))
    ∧ pathProcessor (.single (.key "$.a")) = pathProcessor (.single (.key "a"))
    ∧ anyKey.parse (pathProcessor (.single (.key "a.b"))) = some [.key "a", .key "b"]
    ∧ ¬ ∀ value, anyKey.parse (pathProcessor value) = some value.elements
  := by
  have hparse : anyKey.parse (pathProcessor (.single (.key "a.b"))) = some [.key "a", .key "b"] :=
    by decide
  refine ⟨by decide, by decide, by decide, hparse, ?_⟩
  intro h
  rw [h] at hparse
  revert hparse
  decide

end PathGrammar

end MonetDB
