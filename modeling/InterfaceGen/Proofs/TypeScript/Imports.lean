import InterfaceGen.Proofs.TypeScript.Tokens
import InterfaceGen.TypeScript.Import

/-!
# Imports read back

A reader of import lines. The text of an import reads back as the import, if the names that it binds
are names.
-/

namespace InterfaceGen.TypeScript

open Text

/-! ## Readers -/

/-- Reads the items of a list up to the brace that ends it. There is at least one. -/
def listed {α : Type} (item : Reader α) : Reader (List α) := fun text =>
  match item text with
  | none => none
  | some ⟨first, rest, read⟩ =>
    match token "\x7d" rest with
    | some ⟨_, rest, closed⟩ => some ⟨[first], rest, by omega⟩
    | none =>
      match token "," rest with
      | none => none
      | some ⟨_, rest, separated⟩ =>
        match listed item rest with
        | none => none
        | some ⟨others, rest, more⟩ => some ⟨first :: others, rest, by omega⟩
termination_by text => text.length

/-- Reads a name in the list of an import. -/
def importedName : Reader ImportedName :=
  either (after (expecting "type" name) fun _ => mapped .type name) (mapped .value name)

/-- Reads what an import binds. -/
def importClause : Reader ImportClause :=
  either (after (token "\x7b") fun _ => mapped .named (listed importedName))
    (either
      (after (expecting "type" name) fun _ => after (token "\x7b") fun _ =>
        mapped .types (listed name))
      (mapped .default name))

/-- Reads an import. -/
def importLine : Reader Import :=
  after (token "import ") fun _ => after importClause fun clause => after (token "from") fun _ =>
    after quoted fun source => closing ";" ⟨clause, source⟩

/-- The import that a line is. -/
def Import.read? (line : List Char) : Option Import :=
  match importLine line with
  | some ⟨found, [], _⟩ => some found
  | _ => none

namespace ImportedName

/-- The name is one, and cannot be taken for the mark of a type. -/
def Named : ImportedName → Prop
  | value name => IsName name.toList ∧ name ≠ "type"
  | type name => IsName name.toList

instance : DecidablePred Named
  | value name => inferInstanceAs (Decidable (IsName name.toList ∧ name ≠ "type"))
  | type name => inferInstanceAs (Decidable (IsName name.toList))

end ImportedName

/-- What an import binds are names, and there is one at least. -/
def ImportClause.Named : ImportClause → Prop
  | default name => IsName name.toList ∧ name ≠ "type"
  | named names => names ≠ [] ∧ ∀ name ∈ names, name.Named
  | types names => names ≠ [] ∧ ∀ name ∈ names, IsName name.toList

/-! ## Lists -/

/-- The items of a list read back up to the brace that ends it, if each item does up to any word that
does not continue a name. -/
theorem reads_listed {α : Type} {item : Reader α} {write : α → String} :
    ∀ {items : List α}, items ≠ [] →
      (∀ value ∈ items, ∀ stop : String, EndsName stop → ∀ rest : List Char,
        Reads item (" ".toList ++ ((write value).toList ++ (stop.toList ++ rest))) value
          (stop.toList ++ rest)) →
        ∀ rest : List Char, Reads (listed item)
          (" ".toList ++ ((join ", " (items.map write)).toList ++ (" \x7d".toList ++ rest))) items
          rest
  | [], nonempty, _, _ => absurd rfl nonempty
  | [value], _, each, rest => by
      have read := each value List.mem_cons_self " \x7d" (by decide) rest
      have ended : Reads (token "\x7d") (" \x7d".toList ++ rest) () rest :=
        reads_token "\x7d" isBlanks_space rest (by decide)
      change Reads (listed item) (" ".toList ++ ((write value).toList ++ (" \x7d".toList ++ rest)))
        [value] rest
      refine ⟨Nat.lt_trans ended.shorter read.shorter, ?_⟩
      rw [listed]
      simp only [read.eq, ended.eq]
  | value :: next :: others, _, each, rest => by
      have split : (join ", " ((value :: next :: others).map write)).toList ++
          (" \x7d".toList ++ rest) = (write value).toList ++ (",".toList ++ (" ".toList ++
            ((join ", " ((next :: others).map write)).toList ++ (" \x7d".toList ++ rest)))) := by
        simp [join]
      have first := each value List.mem_cons_self "," (by decide) (" ".toList ++
        ((join ", " ((next :: others).map write)).toList ++ (" \x7d".toList ++ rest)))
      have more := reads_listed (List.cons_ne_nil next others)
        (fun value member => each value (List.mem_cons_of_mem _ member)) rest
      have separated := reads_token_front "," (" ".toList ++
        ((join ", " ((next :: others).map write)).toList ++ (" \x7d".toList ++ rest))) (by decide)
      have unfinished : token "\x7d" (",".toList ++ (" ".toList ++
          ((join ", " ((next :: others).map write)).toList ++ (" \x7d".toList ++ rest)))) = none :=
        token_eq_none_of_apart "\x7d" "," isBlanks_nil _ (by decide) (by decide)
      rw [split]
      refine ⟨Nat.lt_trans more.shorter (Nat.lt_trans separated.shorter first.shorter), ?_⟩
      rw [listed]
      simp only [first.eq, unfinished, separated.eq, more.eq]

/-! ## Names -/

/-- Another name than the expected one is not read. -/
theorem expecting_eq_none {α : Type} [DecidableEq α] {reader : Reader α} {text rest : List Char}
    {value expected : α} (read : Reads reader text value rest) (other : value ≠ expected) :
    expecting expected reader text = none := by
  obtain ⟨_, read⟩ := read
  simp only [expecting, read, if_neg other]

/-- A name in the list of an import reads back. -/
theorem reads_importedName {imported : ImportedName} (named : imported.Named) {stop : String}
    (ends : EndsName stop) (rest : List Char) :
    Reads importedName (" ".toList ++ (imported.text.toList ++ (stop.toList ++ rest))) imported
      (stop.toList ++ rest) := by
  have space : IsBlanks " ".toList := isBlanks_space
  cases imported with
  | value name =>
      have read := reads_name stop space named.1 rest ends
      exact reads_either (after_eq_none (expecting_eq_none read named.2))
        (reads_mapped ImportedName.value read)
  | type name =>
      have marker : IsName "type".toList := by decide
      have split : (ImportedName.type name).text.toList ++ (stop.toList ++ rest) =
          "type".toList ++ (" ".toList ++ (name.toList ++ (stop.toList ++ rest))) := by
        simp [ImportedName.text]
      rw [split]
      refine reads_either_first ?_
      refine reads_after (reads_expecting (reads_name " " space marker _ (by decide))) ?_
      exact reads_mapped ImportedName.type (reads_name stop space named rest ends)

/-! ## Lines -/

/-- What an import binds, as text. -/
def ImportClause.text : ImportClause → String
  | default name => name
  | named names => "\x7b " ++ join ", " (names.map (·.text)) ++ " \x7d"
  | types names => "type \x7b " ++ join ", " names ++ " \x7d"

theorem Import.text_eq (line : Import) :
    line.text = "import " ++ line.clause.text ++ " from " ++ quote line.module ++ ";" := by
  obtain ⟨clause, source⟩ := line
  cases clause <;> rfl

/-- What an import binds reads back. -/
theorem reads_importClause {clause : ImportClause} (named : clause.Named) (rest : List Char) :
    Reads importClause (clause.text.toList ++ (" ".toList ++ rest)) clause
      (" ".toList ++ rest) := by
  have space : IsBlanks " ".toList := isBlanks_space
  cases clause with
  | default name =>
      have read := reads_name " " isBlanks_nil named.1 rest (by decide)
      refine reads_either (after_eq_none (token_name_eq_none isBlanks_nil named.1 _ (by decide))) ?_
      refine reads_either (after_eq_none (expecting_eq_none read named.2)) ?_
      exact reads_mapped ImportClause.default read
  | named names =>
      have split : (ImportClause.named names).text.toList ++ (" ".toList ++ rest) =
          "\x7b".toList ++ (" ".toList ++ ((join ", " (names.map (·.text))).toList ++
            (" \x7d".toList ++ (" ".toList ++ rest)))) := by
        simp [ImportClause.text]
      rw [split]
      refine reads_either_first ?_
      refine reads_after (reads_token_front "\x7b" _ (by decide)) ?_
      refine reads_mapped ImportClause.named (reads_listed named.1 ?_ _)
      exact fun imported member stop ends rest =>
        reads_importedName (named.2 imported member) ends rest
  | types names =>
      have marker : IsName "type".toList := by decide
      have split : (ImportClause.types names).text.toList ++ (" ".toList ++ rest) =
          "type".toList ++ (" ".toList ++ ("\x7b".toList ++ (" ".toList ++
            ((join ", " (names.map id)).toList ++ (" \x7d".toList ++ (" ".toList ++ rest)))))) := by
        simp [ImportClause.text]
      rw [split]
      refine reads_either
        (after_eq_none (token_name_eq_none isBlanks_nil marker _ (by decide)))
        (reads_either_first ?_)
      refine reads_after (reads_expecting (reads_name " " isBlanks_nil marker _ (by decide))) ?_
      refine reads_after (reads_token "\x7b" space _ (by decide)) ?_
      refine reads_mapped ImportClause.types (reads_listed named.1 ?_ _)
      exact fun imported member stop ends rest =>
        reads_name stop space (named.2 imported member) rest ends

/-- The text of an import reads back as the import. -/
theorem Import.read?_text {line : Import} (named : line.clause.Named) :
    Import.read? line.text.toList = some line := by
  have space : IsBlanks " ".toList := isBlanks_space
  have split : line.text.toList = "import ".toList ++ (line.clause.text.toList ++ (" ".toList ++
      ("from".toList ++ (" ".toList ++ ((quote line.module).toList ++ (";".toList ++ [])))))) := by
    rw [line.text_eq]
    simp
  have read : Reads importLine line.text.toList line [] := by
    rw [split]
    refine reads_after (reads_token_front "import " _ (by decide)) ?_
    refine reads_after (reads_importClause named _) ?_
    refine reads_after (reads_token "from" space _ (by decide)) ?_
    refine reads_after (reads_quoted space line.module _) ?_
    exact reads_closing ";" line isBlanks_nil [] (by decide)
  rw [read?, read.eq]

/-- A line that begins with another word is no import. -/
theorem Import.read?_eq_none {word : String} {line : List Char} (visible : Visible word)
    (apart : Apart "import " word) (begins : word.toList <+: line) : Import.read? line = none := by
  obtain ⟨rest, rfl⟩ := begins
  have missed : token "import " (word.toList ++ rest) = none :=
    token_eq_none_of_apart "import " word isBlanks_nil rest visible apart
  rw [read?, importLine, after_eq_none missed]

end InterfaceGen.TypeScript
