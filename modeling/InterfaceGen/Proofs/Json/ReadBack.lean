import InterfaceGen.Json.Printer
import InterfaceGen.Json.Reader
import InterfaceGen.Proofs.Json.Quoted
import InterfaceGen.Proofs.Text.Reads

/-!
# Printed values read back

A printed value without numbers reads back as that value, whatever stands behind it, if the reader
goes as deep as the value nests. So a document that is one such value reads back.
-/

namespace InterfaceGen.Json

open Text

/-- The values without numbers that nest up to a depth. -/
inductive Nests : Nat → Json → Prop where
  | null {depth : Nat} : Nests depth .null
  | bool {depth : Nat} (value : Bool) : Nests depth (.bool value)
  | string {depth : Nat} (value : String) : Nests depth (.string value)
  | array {depth : Nat} {items : List Json} (each : ∀ item ∈ items, Nests depth item) :
      Nests (depth + 1) (.array items)
  | object {depth : Nat} {members : List (String × Json)}
      (each : ∀ member ∈ members, Nests depth member.2) : Nests (depth + 1) (.object members)

/-- A value that nests up to a depth nests up to any greater one. -/
theorem Nests.mono {depth deeper : Nat} {json : Json} (nests : Nests depth json)
    (within : depth ≤ deeper) : Nests deeper json := by
  induction nests generalizing deeper with
  | null => exact .null
  | bool value => exact .bool value
  | string value => exact .string value
  | array _ inductionHypothesis =>
      obtain ⟨inner, rfl⟩ : ∃ inner, deeper = inner + 1 := ⟨deeper - 1, by omega⟩
      exact .array fun item member => inductionHypothesis item member (by omega)
  | object _ inductionHypothesis =>
      obtain ⟨inner, rfl⟩ : ∃ inner, deeper = inner + 1 := ⟨deeper - 1, by omega⟩
      exact .object fun item member => inductionHypothesis item member (by omega)

/-! ## Spaces and symbols -/

/-- A text of the blanks that may stand between the parts of a document. -/
def IsSpaces (text : List Char) : Prop :=
  ∀ char ∈ text, isSpace char = true

-- The search for an instance would decide this by going through all characters there are.
instance (text : List Char) : Decidable (IsSpaces text) :=
  List.decidableBAll (fun char => isSpace char = true) text

theorem isSpaces_nil : IsSpaces [] :=
  nofun

theorem isSpaces_append {left right : List Char} :
    IsSpaces (left ++ right) ↔ IsSpaces left ∧ IsSpaces right := by
  simp only [IsSpaces, List.mem_append, or_imp, forall_and]

theorem isSpaces_indent (level : Nat) : IsSpaces (indent level).toList := by
  induction level with
  | zero => simp [indent, IsSpaces]
  | succ level inductionHypothesis =>
      rw [indent, String.toList_append]
      exact isSpaces_append.2 ⟨by decide, inductionHypothesis⟩

/-- Spaces are dropped up to a character that is none. -/
theorem dropSpaces_append {spaces : List Char} (all : IsSpaces spaces) {char : Char}
    (visible : isSpace char = false) (rest : List Char) :
    dropSpaces (spaces ++ char :: rest) = char :: rest := by
  rw [dropSpaces, List.dropWhile_append_of_pos all, List.dropWhile_cons_of_neg (by simp [visible])]

/-- What is read at the first character behind spaces is read with the spaces before it. -/
theorem reads_afterSpaces {α : Type} {reader : Reader α} {spaces rest tail : List Char}
    {char : Char} {value : α} (all : IsSpaces spaces) (visible : isSpace char = false)
    (read : Reads reader (char :: tail) value rest) :
    Reads (afterSpaces reader) (spaces ++ char :: tail) value rest := by
  rw [← dropSpaces_append all visible tail] at read
  obtain ⟨shorter, read⟩ := read
  refine ⟨Nat.lt_of_lt_of_le shorter (length_dropSpaces_le _), ?_⟩
  simp only [afterSpaces, read, Option.map_some, Reading.widen]

theorem reads_symbol {spaces : List Char} (all : IsSpaces spaces) {char : Char}
    (visible : isSpace char = false) (rest : List Char) :
    Reads (symbol char) (spaces ++ char :: rest) () rest := by
  refine ⟨by simp; omega, ?_⟩
  rw [symbol]
  split
  · next nothing => simp [dropSpaces_append all visible] at nothing
  · next first others front =>
      obtain ⟨rfl, rfl⟩ : char = first ∧ rest = others := by
        simpa [dropSpaces_append all visible] using front
      rw [if_pos rfl]

theorem reads_symbol_front {char : Char} (visible : isSpace char = false) (rest : List Char) :
    Reads (symbol char) (char :: rest) () rest :=
  reads_symbol isSpaces_nil visible rest

/-- No symbol is read where another character stands. -/
theorem symbol_eq_none {spaces : List Char} (all : IsSpaces spaces) {char expected : Char}
    (visible : isSpace char = false) (other : char ≠ expected) (rest : List Char) :
    symbol expected (spaces ++ char :: rest) = none := by
  rw [symbol]
  split
  · rfl
  · next first others front =>
      obtain ⟨rfl, rfl⟩ : char = first ∧ rest = others := by
        simpa [dropSpaces_append all visible] using front
      rw [if_neg other]

/-! ## Separated lists -/

/-- The text of items, each behind a gap, with a comma between each two. -/
def separated {α : Type} (gap : List Char) (write : α → List Char) : List α → List Char
  | [] => []
  | [item] => gap ++ write item
  | item :: rest => gap ++ (write item ++ ',' :: separated gap write rest)

/-- The text of items begins with the first of them behind a gap. -/
theorem exists_separated_cons {α : Type} (gap : List Char) (write : α → List Char) (first : α)
    (others : List α) :
    ∃ behind, separated gap write (first :: others) = gap ++ (write first ++ behind) := by
  cases others with
  | nil => exact ⟨[], by simp [separated]⟩
  | cons next more => exact ⟨_, rfl⟩

section List

variable {α : Type} {item : Reader α} {gap ending : List Char} {write : α → List Char}
  {close : Char}

/-- Items read back up to the bracket that closes them, if each of them does. -/
theorem reads_items (closes : isSpace close = false) (noComma : close ≠ ',')
    (ends : IsSpaces ending) (rest : List Char) {values : List α} (nonempty : values ≠ [])
    (each : ∀ value ∈ values, ∀ behind,
      Reads (afterSpaces item) (gap ++ (write value ++ behind)) value behind) :
    Reads (items close item) (separated gap write values ++ (ending ++ close :: rest)) values
      rest := by
  induction values with
  | nil => exact absurd rfl nonempty
  | cons value others inductionHypothesis =>
      have first := each value List.mem_cons_self
      cases others with
      | nil =>
          obtain ⟨shorter, read⟩ := first (ending ++ close :: rest)
          obtain ⟨shorterRest, closed⟩ := reads_symbol ends closes rest
          have text : separated gap write [value] ++ (ending ++ close :: rest) =
              gap ++ (write value ++ (ending ++ close :: rest)) := by
            simp [separated]
          rw [text]
          refine ⟨Nat.lt_trans shorterRest shorter, ?_⟩
          rw [items]
          simp only [read, closed]
      | cons next more =>
          have later := inductionHypothesis (List.cons_ne_nil next more)
            fun other member => each other (List.mem_cons_of_mem _ member)
          have comma : isSpace ',' = false := by decide
          obtain ⟨shorterRest, others⟩ := later
          obtain ⟨shorter, read⟩ :=
            first (',' :: (separated gap write (next :: more) ++ (ending ++ close :: rest)))
          obtain ⟨shorterTail, between⟩ := reads_symbol_front comma
            (separated gap write (next :: more) ++ (ending ++ close :: rest))
          have unclosed : symbol close
              (',' :: (separated gap write (next :: more) ++ (ending ++ close :: rest))) = none :=
            symbol_eq_none isSpaces_nil comma noComma.symm _
          have text : separated gap write (value :: next :: more) ++ (ending ++ close :: rest) =
              gap ++ (write value ++
                ',' :: (separated gap write (next :: more) ++ (ending ++ close :: rest))) := by
            simp [separated]
          rw [text]
          refine ⟨Nat.lt_trans shorterRest (Nat.lt_trans shorterTail shorter), ?_⟩
          rw [items]
          simp only [read, unclosed, between, others]

/-- A list that is closed at once is empty. -/
theorem reads_list_nil (closes : isSpace close = false) (rest : List Char) :
    Reads (list close item) (close :: rest) [] rest := by
  obtain ⟨shorter, closed⟩ := reads_symbol_front closes rest
  exact ⟨shorter, by simp only [list, closed]⟩

/-- A list is read as its items, if the first of them does not begin with the bracket that closes
the list. -/
theorem reads_list {values : List α} {text rest : List Char}
    (read : Reads (items close item) text values rest) (unclosed : symbol close text = none) :
    Reads (list close item) text values rest := by
  obtain ⟨shorter, read⟩ := read
  exact ⟨shorter, by simp only [list, unclosed, read]⟩

end List

/-! ## Values without parts -/

/-- A literal reads back as its text. -/
theorem reads_stringLiteral (text : String) (rest : List Char) :
    Reads stringLiteral ((quote text).toList ++ rest) text rest := by
  have read := readQuoted?_flatMap_append text.toList rest
  have literal : (quote text).toList ++ rest =
      '"' :: (text.toList.flatMap quoteChar ++ '"' :: rest) := by
    simp [toList_quote]
  rw [literal]
  refine ⟨by simp; omega, ?_⟩
  rw [stringLiteral]
  split
  · next failed => simp [read] at failed
  · next value left found =>
      obtain ⟨rfl, rfl⟩ : text.toList = value ∧ rest = left := by simpa [read] using found
      simp

/-- A word reads back as the value it stands for. -/
theorem reads_keyword {word : List Char} (nonempty : word ≠ []) (value : Json)
    (rest : List Char) : Reads (keyword word value) (word ++ rest) value rest := by
  have found : word.isPrefixOf? (word ++ rest) = some rest :=
    List.isPrefixOf?_eq_some_iff_append_eq.2 rfl
  have shorter : rest.length < (word ++ rest).length := by
    simpa using List.length_pos_iff.2 nonempty
  exact ⟨shorter, by simp only [keyword, found, dif_pos shorter]⟩

/-- The words begin with different letters and literals with quotes, so that each word is read as
what it stands for. -/
theorem reads_scalar_keyword {word : String} {json : Json}
    (listed : (word, json) ∈ [("null", Json.null), ("true", .bool true), ("false", .bool false)])
    (rest : List Char) : Reads scalar (word.toList ++ rest) json rest := by
  simp only [List.mem_cons, Prod.mk.injEq, List.not_mem_nil, or_false] at listed
  have nonempty : word.toList ≠ [] := by
    obtain ⟨rfl, -⟩ | ⟨rfl, -⟩ | ⟨rfl, -⟩ := listed <;> simp
  obtain ⟨shorter, read⟩ := reads_keyword nonempty json rest
  refine ⟨shorter, ?_⟩
  rw [scalar]
  obtain ⟨rfl, rfl⟩ | ⟨rfl, rfl⟩ | ⟨rfl, rfl⟩ := listed <;>
  · rw [read]
    rfl

theorem reads_scalar_string (text : String) (rest : List Char) :
    Reads scalar ((quote text).toList ++ rest) (.string text) rest := by
  obtain ⟨shorter, read⟩ := reads_stringLiteral text rest
  refine ⟨shorter, ?_⟩
  rw [scalar, read]
  rfl

/-- What begins with no bracket is read as a value without parts. -/
theorem reads_value_scalar (depth : Nat) {text rest : List Char} {json : Json}
    (noArray : text.head? ≠ some '[') (noObject : text.head? ≠ some '{')
    (read : Reads scalar text json rest) : Reads (value depth) text json rest := by
  have front : value depth text = scalar text := by
    cases depth with
    | zero => rfl
    | succ depth =>
        rw [value]
        · rintro _ _ - rfl
          exact noArray rfl
        · rintro _ _ - rfl
          exact noObject rfl
  rw [Reads, front]
  exact read

/-- A bracket opens an array, which nests what its items nest. -/
theorem reads_value_array {depth : Nat} {items : List Json} {text rest : List Char}
    (read : Reads (list ']' (value depth)) text items rest) :
    Reads (value (depth + 1)) ('[' :: text) (.array items) rest := by
  obtain ⟨shorter, read⟩ := read
  exact ⟨Nat.lt_succ_of_lt shorter, by rw [value, read]; rfl⟩

theorem reads_value_object {depth : Nat} {members : List (String × Json)}
    {text rest : List Char} (read : Reads (list '}' (member (value depth))) text members rest) :
    Reads (value (depth + 1)) ('{' :: text) (.object members) rest := by
  obtain ⟨shorter, read⟩ := read
  exact ⟨Nat.lt_succ_of_lt shorter, by rw [value, read]; rfl⟩

/-! ## Printed values -/

/-- The text of a member of an object. -/
def writeMember (level : Nat) (member : String × Json) : List Char :=
  (quote member.1).toList ++ ':' :: ' ' :: (member.2.print level).toList

/-- What stands before an item or a member: a new line with its indentation. -/
def lineStart (level : Nat) : List Char :=
  '\n' :: (indent level).toList

theorem isSpaces_lineStart (level : Nat) : IsSpaces (lineStart level) :=
  List.forall_mem_cons.2 ⟨by decide, isSpaces_indent level⟩

theorem toList_printItems (level : Nat) (first : Json) (rest : List Json) :
    lineStart level ++ ((first.print level).toList ++ (printItems level rest).toList) =
      separated (lineStart level) (fun item => (item.print level).toList) (first :: rest) := by
  induction rest generalizing first with
  | nil => simp [printItems, separated]
  | cons next others inductionHypothesis =>
      rw [separated, ← inductionHypothesis]
      · simp [printItems, lineStart]
      · exact List.cons_ne_nil next others

theorem toList_printMembers (level : Nat) (first : String × Json)
    (rest : List (String × Json)) :
    lineStart level ++ (writeMember level first ++ (printMembers level rest).toList) =
      separated (lineStart level) (writeMember level) (first :: rest) := by
  induction rest generalizing first with
  | nil => simp [printMembers, separated]
  | cons next others inductionHypothesis =>
      obtain ⟨name, value⟩ := next
      rw [separated, ← inductionHypothesis]
      · simp [printMembers, lineStart, writeMember]
      · exact List.cons_ne_nil _ others

theorem toList_print_array (level : Nat) (first : Json) (rest : List Json) :
    (print level (.array (first :: rest))).toList =
      '[' :: (separated (lineStart (level + 1)) (fun item => (item.print (level + 1)).toList)
        (first :: rest) ++ (lineStart level ++ [']'])) := by
  rw [← toList_printItems]
  simp [print, lineStart]

theorem toList_print_object (level : Nat) (first : String × Json)
    (rest : List (String × Json)) :
    (print level (.object (first :: rest))).toList =
      '{' :: (separated (lineStart (level + 1)) (writeMember (level + 1)) (first :: rest) ++
        (lineStart level ++ ['}'])) := by
  obtain ⟨name, value⟩ := first
  rw [← toList_printMembers]
  simp [print, lineStart, writeMember]

/-- A printed value begins with a character that is neither a space nor a closing bracket. -/
theorem exists_cons_print {depth : Nat} {json : Json} (nests : Nests depth json) (level : Nat) :
    ∃ char tail, (json.print level).toList = char :: tail ∧ isSpace char = false ∧ char ≠ ']' := by
  cases nests with
  | null => exact ⟨'n', "ull".toList, by simp [print], by decide, by decide⟩
  | bool value =>
      cases value with
      | false => exact ⟨'f', "alse".toList, by simp [print], by decide, by decide⟩
      | true => exact ⟨'t', "rue".toList, by simp [print], by decide, by decide⟩
  | string value =>
      exact ⟨'"', value.toList.flatMap quoteChar ++ ['"'], by simp [print, toList_quote],
        by decide, by decide⟩
  | @array _ items each =>
      cases items with
      | nil => exact ⟨'[', [']'], by simp [print], by decide, by decide⟩
      | cons first rest =>
          exact ⟨'[', _, toList_print_array level first rest, by decide, by decide⟩
  | @object _ members each =>
      cases members with
      | nil => exact ⟨'{', ['}'], by simp [print], by decide, by decide⟩
      | cons first rest =>
          exact ⟨'{', _, toList_print_object level first rest, by decide, by decide⟩

/-- A value that reads back does so behind spaces as well. -/
theorem reads_afterSpaces_print {reader : Reader Json} {depth level : Nat} {json : Json}
    (nests : Nests depth json) {spaces rest : List Char} (all : IsSpaces spaces)
    (read : Reads reader ((json.print level).toList ++ rest) json rest) :
    Reads (afterSpaces reader) (spaces ++ ((json.print level).toList ++ rest)) json rest := by
  obtain ⟨char, tail, front, visible, -⟩ := exists_cons_print nests level
  rw [front, List.cons_append] at read ⊢
  exact reads_afterSpaces all visible read

/-- A member reads back if its value does. -/
theorem reads_member {reader : Reader Json} {depth level : Nat} {member : String × Json}
    (nests : Nests depth member.2) {rest : List Char}
    (read : Reads reader ((member.2.print level).toList ++ rest) member.2 rest) :
    Reads (Json.member reader) (writeMember level member ++ rest) member rest := by
  have value : Reads (afterSpaces reader) (' ' :: ((member.2.print level).toList ++ rest))
      member.2 rest := reads_afterSpaces_print nests (by decide : IsSpaces [' ']) read
  obtain ⟨shorterValue, value⟩ := value
  obtain ⟨shorterColon, colon⟩ := reads_symbol_front (by decide : isSpace ':' = false)
    (' ' :: ((member.2.print level).toList ++ rest))
  obtain ⟨shorterName, name⟩ :=
    reads_stringLiteral member.1 (':' :: ' ' :: ((member.2.print level).toList ++ rest))
  have text : writeMember level member ++ rest =
      (quote member.1).toList ++ ':' :: ' ' :: ((member.2.print level).toList ++ rest) := by
    simp [writeMember]
  rw [text]
  refine ⟨Nat.lt_trans shorterValue (Nat.lt_trans shorterColon shorterName), ?_⟩
  simp only [Json.member, name, colon, value]

/-- Items on lines of their own read back in brackets, if each of them does and none of them begins
with the closing bracket. -/
theorem reads_list_separated {α : Type} {item : Reader α} {close : Char}
    {write : α → List Char} {values : List α} (level : Nat) (closes : isSpace close = false)
    (noComma : close ≠ ',') (nonempty : values ≠ [])
    (begins : ∀ value ∈ values, ∃ char tail,
      write value = char :: tail ∧ isSpace char = false ∧ char ≠ close)
    (each : ∀ value ∈ values, ∀ behind, Reads item (write value ++ behind) value behind)
    (rest : List Char) :
    Reads (list close item)
      (separated (lineStart (level + 1)) write values ++ (lineStart level ++ close :: rest)) values
      rest := by
  have gap := isSpaces_lineStart (level + 1)
  refine reads_list (reads_items closes noComma (isSpaces_lineStart level) rest nonempty ?_) ?_
  · intro value listed behind
    obtain ⟨char, tail, front, visible, -⟩ := begins value listed
    have read := each value listed behind
    rw [front, List.cons_append] at read ⊢
    exact reads_afterSpaces gap visible read
  · obtain ⟨first, others, rfl⟩ := List.exists_cons_of_ne_nil nonempty
    obtain ⟨behind, text⟩ := exists_separated_cons (lineStart (level + 1)) write first others
    obtain ⟨char, tail, front, visible, other⟩ := begins first List.mem_cons_self
    rw [text, front, List.append_assoc, List.cons_append, List.cons_append]
    exact symbol_eq_none gap visible other _

/-- A printed member begins with a quote. -/
theorem exists_cons_writeMember (level : Nat) (member : String × Json) :
    ∃ char tail, writeMember level member = char :: tail ∧ isSpace char = false ∧ char ≠ '}' :=
  ⟨'"', _, by rw [writeMember, toList_quote, List.cons_append], by decide, by decide⟩

/-- A printed value without numbers reads back as that value, whatever stands behind it. -/
theorem reads_print {depth : Nat} {json : Json} (nests : Nests depth json) (level : Nat)
    (rest : List Char) : Reads (value depth) ((json.print level).toList ++ rest) json rest := by
  induction nests generalizing level rest with
  | @null depth =>
      rw [print]
      exact reads_value_scalar depth (by simp) (by simp) (reads_scalar_keyword (by simp) rest)
  | @bool depth value =>
      rw [print]
      cases value <;>
        exact reads_value_scalar depth (by simp) (by simp) (reads_scalar_keyword (by simp) rest)
  | @string depth value =>
      rw [print]
      exact reads_value_scalar depth (by simp [toList_quote]) (by simp [toList_quote])
        (reads_scalar_string value rest)
  | @array depth items each inductionHypothesis =>
      cases items with
      | nil =>
          rw [print]
          exact reads_value_array (reads_list_nil (by decide) rest)
      | cons first others =>
          have closes : isSpace ']' = false ∧ ']' ≠ ',' := by decide
          have read := reads_list_separated level closes.1 closes.2 (List.cons_ne_nil first others)
            (fun item member => exists_cons_print (each item member) (level + 1))
            (fun item member => inductionHypothesis item member (level + 1)) rest
          rw [toList_print_array]
          simpa using reads_value_array read
  | @object depth members each inductionHypothesis =>
      cases members with
      | nil =>
          rw [print]
          exact reads_value_object (reads_list_nil (by decide) rest)
      | cons first others =>
          have closes : isSpace '}' = false ∧ '}' ≠ ',' := by decide
          have read := reads_list_separated level closes.1 closes.2 (List.cons_ne_nil first others)
            (fun member _ => exists_cons_writeMember (level + 1) member)
            (fun member listed behind => reads_member (each member listed)
              (inductionHypothesis member listed (level + 1) behind)) rest
          rw [toList_print_object]
          simpa using reads_value_object read

/-- A printed value without numbers is a document that reads back as that value, however deep beyond
the nesting of the value the reader may go. -/
theorem parse?_print {depth deeper : Nat} {json : Json} (nests : Nests depth json)
    (within : depth ≤ deeper) (level : Nat) : parse? deeper (json.print level) = some json := by
  have document : Reads (afterSpaces (value deeper)) (json.print level).toList json [] := by
    have read := reads_print (nests.mono within) level []
    simpa using reads_afterSpaces_print nests isSpaces_nil read
  rw [parse?, document.eq]
  rfl

end InterfaceGen.Json
