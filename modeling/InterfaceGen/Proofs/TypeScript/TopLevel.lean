import InterfaceGen.Proofs.Text.Lines
import InterfaceGen.Proofs.TypeScript.Imports

/-!
# The top level of modules

What the text of a module shows of its top level: the imports that it begins with, and the names that
it defines. A definition stands at the front of its line.
-/

namespace InterfaceGen.TypeScript

open Text

/-! ## Imports -/

/-- Whether a line may stand above or between the imports of a module: whether it is empty, a comment
or an import. -/
def isLeading (line : List Char) : Bool :=
  line.isEmpty || "//".toList.isPrefixOf line || "import ".toList.isPrefixOf line

/-- A line may stand among the imports if it begins as one that may. -/
theorem isLeading_of_start {front line : List Char} (nonempty : front ≠ [])
    (leads : isLeading front = true) (begins : front <+: line) : isLeading line = true := by
  have kept {word : List Char} (stands : word.isPrefixOf front = true) :
      word.isPrefixOf line = true :=
    List.isPrefixOf_iff_prefix.2 ((List.isPrefixOf_iff_prefix.1 stands).trans begins)
  simp only [isLeading, Bool.or_eq_true, List.isEmpty_iff, nonempty, false_or] at leads ⊢
  rcases leads with remark | imported
  · exact .inl (.inr (kept remark))
  · exact .inr (kept imported)

/-- A line that begins with a word apart from remarks and imports ends the imports. -/
theorem isLeading_eq_false {word : String} {line : List Char} (nonempty : word ≠ "")
    (apart : Apart word "//" ∧ Apart word "import ") (begins : word.toList <+: line) :
    isLeading line = false := by
  have absent {other : String} (different : Apart word other) :
      other.toList.isPrefixOf line = false := by
    rw [Bool.eq_false_iff, ne_eq, List.isPrefixOf_iff_prefix]
    intro stands
    rcases List.prefix_or_prefix_of_prefix stands begins with within | within
    · exact different.2 within
    · exact different.1 within
  have visible : line ≠ [] := by
    rintro rfl
    exact nonempty (String.toList_eq_nil_iff.1 (List.prefix_nil.1 begins))
  rw [isLeading, absent apart.1, absent apart.2, List.isEmpty_eq_false_iff.2 visible]
  rfl

/-- The imports that a module begins with. -/
def importsOf (text : String) : List Import :=
  ((linesOf text.toList).takeWhile isLeading).filterMap Import.read?

/-- The names that an import binds, each with whether it is that of a type. -/
def Import.bindings (line : Import) : List ImportedName :=
  match line.clause with
  | .default name => [.value name]
  | .named names => names
  | .types names => names.map .type

/-- Imports read back from their lines. -/
theorem filterMap_read?_text {imports : List Import}
    (named : ∀ line ∈ imports, line.clause.Named) :
    (imports.map (·.text.toList)).filterMap Import.read? = imports := by
  rw [List.filterMap_map]
  have each : ∀ line ∈ imports, (Import.read? ∘ (·.text.toList)) line = some line :=
    fun line member => Import.read?_text (named line member)
  rw [List.filterMap_congr each, List.filterMap_some]

/-- The imports that a module begins with are those among its first lines, up to one that is no
import. -/
theorem importsOf_eq {text : String} {leading : List String} {line : String} {rest : List Char}
    (split : text.toList = textOf leading ++ (line.toList ++ '\n' :: rest))
    (leads : ∀ other ∈ leading, OneLine other ∧ isLeading other.toList = true)
    (whole : OneLine line) (ended : isLeading line.toList = false) :
    importsOf text = (leading.map (·.toList)).filterMap Import.read? := by
  have passed : ∀ other ∈ leading.map (·.toList), isLeading other = true := by
    intro other member
    obtain ⟨source, within, rfl⟩ := List.mem_map.1 member
    exact (leads source within).2
  rw [importsOf, split, linesOf_textOf_append (fun other member => (leads other member).1) whole,
    List.takeWhile_append_of_pos passed, List.takeWhile_cons_of_neg (by simp [ended]),
    List.append_nil]

/-! ## Definitions -/

/-- The words that definitions begin with. -/
def definitionWords : List String :=
  ["export async function ", "export function ", "export const ", "export type ", "function ",
    "const ", "type "]

/-- The name that a line defines. -/
def definition? (line : List Char) : Option String :=
  definitionWords.findSome? fun word =>
    (word.toList.isPrefixOf? line).map fun rest => String.ofList (rest.takeWhile isNameChar)

/-- The names that lines define, in their order. -/
def definitions (lines : List (List Char)) : List String :=
  lines.filterMap definition?

theorem definitions_append (before after : List (List Char)) :
    definitions (before ++ after) = definitions before ++ definitions after :=
  List.filterMap_append

/-- A line that begins with no word of definitions defines nothing. -/
theorem definition?_eq_none {line : List Char}
    (absent : ∀ word ∈ definitionWords, ¬ word.toList <+: line) : definition? line = none := by
  rw [definition?, List.findSome?_eq_none_iff]
  intro word known
  rw [isPrefixOf?_eq_none (absent word known), Option.map_none]

/-- A line that does not begin as the words of definitions do defines nothing. -/
theorem definition?_eq_none_of_head? {line : List Char}
    (front : line.head?.all (· ∉ ['e', 'f', 'c', 't']) = true) : definition? line = none := by
  have heads : ∀ word ∈ definitionWords,
      word.toList.head?.any (· ∈ ['e', 'f', 'c', 't']) = true := by decide
  refine definition?_eq_none fun word known begins => ?_
  obtain ⟨char, head, listed⟩ := (Option.any_eq_true ..).1 (heads word known)
  obtain ⟨rest, rfl⟩ := begins
  have outside : char ∉ ['e', 'f', 'c', 't'] := by
    simpa [List.head?_append, head] using front
  exact outside (by simpa using listed)

/-- Lines that begin with no word of definitions define nothing. -/
theorem definitions_eq_nil {lines : List String}
    (absent : ∀ line ∈ lines, ∀ word ∈ definitionWords, ¬ word.toList <+: line.toList) :
    definitions (lines.map (·.toList)) = [] := by
  rw [definitions, List.filterMap_eq_nil_iff]
  intro line member
  obtain ⟨source, within, rfl⟩ := List.mem_map.1 member
  exact definition?_eq_none (absent source within)

/-- A line that begins with a word of definitions defines the name behind the word. -/
theorem definition?_append {word name : String} (stop : String) (known : word ∈ definitionWords)
    (named : IsName name.toList) (ends : EndsName stop) (rest : List Char) :
    definition? (word.toList ++ (name.toList ++ (stop.toList ++ rest))) = some name := by
  have apart : definitionWords.Pairwise Apart := by decide
  obtain ⟨before, after, split⟩ := List.append_of_mem known
  obtain ⟨first, tail, spelled, outside⟩ := ends.exists_cons
  have taken := (run_append_stop named.2 outside (tail ++ rest)).1
  have stands := List.isPrefixOf?_eq_some_iff_append_eq.2
    (rfl : word.toList ++ (name.toList ++ (stop.toList ++ rest)) = _)
  rw [split, List.pairwise_append] at apart
  rw [definition?, List.findSome?_eq_some_iff]
  refine ⟨before, word, after, split, ?_, fun other member => ?_⟩
  · rw [stands, Option.map_some, spelled, List.cons_append, taken, String.ofList_toList]
  · have different := apart.2.2 other member word List.mem_cons_self
    rw [isPrefixOf?_eq_none, Option.map_none]
    intro begins
    rcases List.prefix_or_prefix_of_prefix begins (List.prefix_append _ _) with within | within
    · exact different.1 within
    · exact different.2 within

end InterfaceGen.TypeScript
