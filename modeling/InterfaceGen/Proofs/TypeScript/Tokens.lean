import InterfaceGen.Proofs.Json.Quoted
import InterfaceGen.Proofs.Text.Reads
import InterfaceGen.TypeScript.Literal

/-!
# Reading tokens

Readers for the tokens of generated code: fixed words, names, string literals and the keys of object
literals, each with blanks allowed before it. A token reads back from its text, and is not read
where another one stands.
-/

namespace InterfaceGen

open Text

namespace TypeScript

/-! ## Readers -/

/-- A reader that is given by what it takes and what it leaves. It has to take something. -/
def taking {α : Type} (take : List Char → Option (α × List Char)) : Reader α := fun text =>
  match take text with
  | none => none
  | some (value, rest) =>
    if shorter : rest.length < text.length then some ⟨value, rest, shorter⟩ else none

/-- Reads something and gives it another form. -/
def mapped {α β : Type} (change : α → β) (reader : Reader α) : Reader β := fun text =>
  (reader text).map (·.map change)

/-- Reads something that has to be as expected. -/
def expecting {α : Type} [DecidableEq α] (expected : α) (reader : Reader α) : Reader Unit :=
  fun text =>
    match reader text with
    | none => none
    | some ⟨value, rest, shorter⟩ => if value = expected then some ⟨(), rest, shorter⟩ else none

/-- Reads one thing and then another, which may depend on what the first one was. -/
def after {α β : Type} (first : Reader α) (next : α → Reader β) : Reader β := fun text =>
  match first text with
  | none => none
  | some reading =>
    (next reading.value reading.rest).map (·.widen (Nat.le_of_lt reading.shorter))

/-- Reads one thing or, where it does not stand, another. -/
def either {α : Type} (first second : Reader α) : Reader α := fun text =>
  match first text with
  | some reading => some reading
  | none => second text

/-- Reads a fixed word. -/
def token (word : String) : Reader Unit :=
  taking fun text => (word.toList.isPrefixOf? (dropBlanks text)).map ((), ·)

/-- Reads a word that ends something, and gives what it was. -/
def closing {α : Type} (word : String) (value : α) : Reader α :=
  mapped (fun _ => value) (token word)

/-- Reads one of some words, and gives what it stands for. -/
def oneOf {α : Type} : List (String × α) → Reader α
  | [], _ => none
  | (word, value) :: others, text =>
    match token word text with
    | some reading => some (reading.map fun _ => value)
    | none => oneOf others text

/-- Reads a name. -/
def name : Reader String :=
  taking fun text =>
    let text := dropBlanks text
    if text.takeWhile isNameChar = [] then none
    else some (String.ofList (text.takeWhile isNameChar), text.dropWhile isNameChar)

/-- Reads a string literal. -/
def quoted : Reader String :=
  taking fun text =>
    match dropBlanks text with
    | '"' :: literal =>
      (Json.readQuoted? literal).map fun (text, rest) => (String.ofList text, rest)
    | _ => none

/-- Reads a key of an object literal, which is a string literal or a name. -/
def key : Reader String :=
  either quoted name

/-! ## One thing after another -/

theorem reads_taking {α : Type} {take : List Char → Option (α × List Char)}
    {text rest : List Char} {value : α} (taken : take text = some (value, rest))
    (shorter : rest.length < text.length) : Reads (taking take) text value rest :=
  ⟨shorter, by simp [taking, taken, shorter]⟩

theorem reads_mapped {α β : Type} {reader : Reader α} {text rest : List Char} {value : α}
    (change : α → β) (read : Reads reader text value rest) :
    Reads (mapped change reader) text (change value) rest := by
  obtain ⟨shorter, read⟩ := read
  exact ⟨shorter, by rw [mapped, read]; rfl⟩

theorem reads_expecting {α : Type} [DecidableEq α] {reader : Reader α} {text rest : List Char}
    {value : α} (read : Reads reader text value rest) :
    Reads (expecting value reader) text () rest := by
  obtain ⟨shorter, read⟩ := read
  exact ⟨shorter, by simp only [expecting, read, if_true]⟩

/-- Where one thing is read and the next one behind it, both are read. -/
theorem reads_after {α β : Type} {first : Reader α} {next : α → Reader β}
    {text between rest : List Char} {value : α} {result : β}
    (opened : Reads first text value between) (read : Reads (next value) between result rest) :
    Reads (after first next) text result rest := by
  obtain ⟨shorter, opened⟩ := opened
  obtain ⟨shorterRest, read⟩ := read
  exact ⟨Nat.lt_trans shorterRest shorter, by simp [after, opened, read, Reading.widen]⟩

/-- Where the first of two things cannot be read, the second may be. -/
theorem reads_either {α : Type} {first second : Reader α} {text rest : List Char} {value : α}
    (missed : first text = none) (read : Reads second text value rest) :
    Reads (either first second) text value rest := by
  obtain ⟨shorter, read⟩ := read
  exact ⟨shorter, by simp only [either, missed, read]⟩

/-- The first of two things is preferred. -/
theorem reads_either_first {α : Type} {first second : Reader α} {text rest : List Char}
    {value : α} (read : Reads first text value rest) :
    Reads (either first second) text value rest := by
  obtain ⟨shorter, read⟩ := read
  exact ⟨shorter, by simp only [either, read]⟩

theorem after_eq_none {α β : Type} {first : Reader α} {next : α → Reader β} {text : List Char}
    (missed : first text = none) : after first next text = none := by
  simp only [after, missed]

/-- What is read by taking it is what is taken. -/
theorem take_of_reads {α : Type} {take : List Char → Option (α × List Char)}
    {text rest : List Char} {value : α} (read : Reads (taking take) text value rest) :
    take text = some (value, rest) := by
  obtain ⟨_, read⟩ := read
  simp only [taking] at read
  split at read
  · cases read
  · next taken =>
    split at read
    · cases read
      exact taken
    · cases read

/-- What is read in another form is read. -/
theorem exists_of_reads_mapped {α β : Type} {change : α → β} {reader : Reader α}
    {text rest : List Char} {result : β} (read : Reads (mapped change reader) text result rest) :
    ∃ value, Reads reader text value rest ∧ change value = result := by
  obtain ⟨_, read⟩ := read
  obtain ⟨⟨value, _, shorter⟩, found, same⟩ := Option.map_eq_some_iff.1 read
  cases same
  exact ⟨value, ⟨shorter, found⟩, rfl⟩

/-- Where two things are read, there is one behind the other. -/
theorem exists_of_reads_after {α β : Type} {first : Reader α} {next : α → Reader β}
    {text rest : List Char} {result : β} (read : Reads (after first next) text result rest) :
    ∃ value between, Reads first text value between ∧ Reads (next value) between result rest := by
  obtain ⟨_, read⟩ := read
  simp only [after] at read
  split at read
  · cases read
  · next reading found =>
    obtain ⟨⟨_, _, shorter⟩, later, same⟩ := Option.map_eq_some_iff.1 read
    cases same
    exact ⟨reading.value, reading.rest, ⟨reading.shorter, found⟩, ⟨shorter, later⟩⟩

/-! ## Words -/

/-- A word that does not begin with a blank. -/
def Visible (word : String) : Prop :=
  word.toList.head?.any (!isBlank ·) = true

/-- Two words of which neither begins with the other. -/
def Apart (word other : String) : Prop :=
  ¬ word.toList <+: other.toList ∧ ¬ other.toList <+: word.toList

/-- A word that cannot continue a name. -/
def EndsName (word : String) : Prop :=
  word.toList.head?.any (!isNameChar ·) = true

instance : DecidablePred Visible := fun word =>
  inferInstanceAs (Decidable (word.toList.head?.any (!isBlank ·) = true))

instance : DecidableRel Apart := fun word other =>
  inferInstanceAs (Decidable (¬ word.toList <+: other.toList ∧ ¬ other.toList <+: word.toList))

instance : DecidablePred EndsName := fun word =>
  inferInstanceAs (Decidable (word.toList.head?.any (!isNameChar ·) = true))

/-- Words that can be told from each other after blanks. -/
def Separable {α : Type} (words : List (String × α)) : Prop :=
  (∀ entry ∈ words, Visible entry.1) ∧ words.Pairwise fun left right => Apart left.1 right.1

theorem Visible.exists_cons {word : String} (visible : Visible word) :
    ∃ first tail, word.toList = first :: tail ∧ isBlank first = false := by
  unfold Visible at visible
  cases spelled : word.toList with
  | nil => simp [spelled] at visible
  | cons first tail => exact ⟨first, tail, rfl, by simpa [spelled] using visible⟩

theorem EndsName.exists_cons {word : String} (ends : EndsName word) :
    ∃ first tail, word.toList = first :: tail ∧ isNameChar first = false := by
  unfold EndsName at ends
  cases spelled : word.toList with
  | nil => simp [spelled] at ends
  | cons first tail => exact ⟨first, tail, rfl, by simpa [spelled] using ends⟩

/-- A word is the front of the text that it begins. -/
theorem Visible.dropBlanks_append {word : String} (visible : Visible word) {before : List Char}
    (blanks : IsBlanks before) (rest : List Char) :
    dropBlanks (before ++ (word.toList ++ rest)) = word.toList ++ rest := by
  obtain ⟨first, tail, spelled, front⟩ := visible.exists_cons
  rw [Text.dropBlanks_append blanks, spelled, List.cons_append, dropBlanks_cons front]

/-- A word is read after blanks. -/
theorem reads_token (word : String) {before : List Char} (blanks : IsBlanks before)
    (rest : List Char) (visible : Visible word) :
    Reads (token word) (before ++ (word.toList ++ rest)) () rest := by
  obtain ⟨first, tail, spelled, _⟩ := visible.exists_cons
  refine reads_taking ?_ (by simp [spelled]; omega)
  rw [visible.dropBlanks_append blanks, Option.map_eq_some_iff]
  exact ⟨rest, List.isPrefixOf?_eq_some_iff_append_eq.2 rfl, rfl⟩

/-- A word is read at the front of a text. -/
theorem reads_token_front (word : String) (rest : List Char)
    (visible : Visible word) : Reads (token word) (word.toList ++ rest) () rest :=
  reads_token word isBlanks_nil rest visible

/-- A word ends something at the front of a text. -/
theorem reads_closing {α : Type} (word : String) (value : α) {before : List Char}
    (blanks : IsBlanks before) (rest : List Char) (visible : Visible word) :
    Reads (closing word value) (before ++ (word.toList ++ rest)) value rest :=
  reads_mapped (fun _ => value) (reads_token word blanks rest visible)

theorem isPrefixOf?_eq_none {word : String} {text : List Char}
    (absent : ¬ word.toList <+: text) : word.toList.isPrefixOf? text = none := by
  rw [Option.eq_none_iff_forall_ne_some]
  intro rest found
  exact absent ⟨rest, List.isPrefixOf?_eq_some_iff_append_eq.1 found⟩

/-- No word is read where it does not stand after the blanks. -/
theorem token_eq_none {word : String} {text : List Char}
    (absent : ¬ word.toList <+: dropBlanks text) : token word text = none := by
  simp [token, taking, isPrefixOf?_eq_none absent]

/-- No word is read where another one stands that is apart from it. -/
theorem token_eq_none_of_apart (word other : String) {before : List Char}
    (blanks : IsBlanks before) (rest : List Char) (visible : Visible other)
    (apart : Apart word other) :
    token word (before ++ (other.toList ++ rest)) = none := by
  apply token_eq_none
  rw [visible.dropBlanks_append blanks]
  intro stands
  rcases List.prefix_or_prefix_of_prefix stands (List.prefix_append _ _) with within | within
  · exact apart.1 within
  · exact apart.2 within

/-- One of some words is read as what it stands for, if they can be told from each other. -/
theorem reads_oneOf {α : Type} {words : List (String × α)} (separable : Separable words)
    {word : String} {value : α} (known : (word, value) ∈ words) {before : List Char}
    (blanks : IsBlanks before) (rest : List Char) :
    Reads (oneOf words) (before ++ (word.toList ++ rest)) value rest := by
  obtain ⟨visible, apart⟩ := separable
  obtain ⟨shorter, read⟩ := reads_token word blanks rest (visible _ known)
  refine ⟨shorter, ?_⟩
  induction words with
  | nil => exact absurd known List.not_mem_nil
  | cons first others inductionHypothesis =>
      obtain ⟨firstWord, firstValue⟩ := first
      have here := visible _ known
      rw [List.pairwise_cons] at apart
      rcases List.mem_cons.1 known with same | later
      · cases same
        rw [oneOf, read]
        rfl
      · rw [oneOf, token_eq_none_of_apart firstWord word blanks rest here (apart.1 _ later)]
        exact inductionHypothesis later
          (fun entry member => visible entry (List.mem_cons_of_mem _ member)) apart.2

/-- None of some words is read where another one stands that is apart from each of them. -/
theorem oneOf_eq_none {α : Type} (words : List (String × α)) (other : String)
    {before : List Char} (blanks : IsBlanks before) (rest : List Char)
    (visible : Visible other)
    (apart : ∀ known ∈ words, Apart known.1 other) :
    oneOf words (before ++ (other.toList ++ rest)) = none := by
  induction words with
  | nil => rfl
  | cons first others inductionHypothesis =>
      obtain ⟨word, value⟩ := first
      have first := apart _ List.mem_cons_self
      rw [oneOf, token_eq_none_of_apart word other blanks rest visible first]
      exact inductionHypothesis fun known member => apart known (List.mem_cons_of_mem _ member)

/-! ## Names, literals and keys -/

/-- A name is read up to a word that does not continue it. -/
theorem reads_name {before : List Char} {characters : String} (stop : String)
    (blanks : IsBlanks before) (named : IsName characters.toList) (rest : List Char)
    (ends : EndsName stop) :
    Reads name (before ++ (characters.toList ++ (stop.toList ++ rest))) characters
      (stop.toList ++ rest) := by
  obtain ⟨first, tail, spelled, outside⟩ := ends.exists_cons
  obtain ⟨taken, dropped⟩ := run_append_stop named.2 outside (tail ++ rest)
  rw [spelled, List.cons_append]
  have length := List.length_pos_iff.2 named.1
  refine reads_taking ?_ (by simp only [List.length_append]; omega)
  simp only [dropBlanks_append blanks, dropBlanks_name_append named, taken, dropped,
    if_neg named.1, String.ofList_toList]

/-- A literal is read as its text. -/
theorem reads_quoted {before : List Char} (blanks : IsBlanks before) (text : String)
    (rest : List Char) :
    Reads quoted (before ++ ((quote text).toList ++ rest)) text rest := by
  have front : isBlank '"' = false := by decide
  refine reads_taking ?_ (by simp [quote, Json.toList_quote]; omega)
  rw [dropBlanks_append blanks, quote, Json.toList_quote]
  simp [dropBlanks_cons front, Json.readQuoted?_flatMap_append]

/-- No literal is read where another word stands. -/
theorem quoted_eq_none (word : String) {before : List Char} (blanks : IsBlanks before)
    (rest : List Char) (visible : Visible word)
    (unquoted : word.toList.head? ≠ some '"') :
    quoted (before ++ (word.toList ++ rest)) = none := by
  obtain ⟨first, tail, spelled, front⟩ := visible.exists_cons
  have literal : first ≠ '"' := by simpa [spelled] using unquoted
  simp [quoted, taking, dropBlanks_append blanks, spelled, dropBlanks_cons front, literal]

/-- A key is a name or, when it begins with a digit, the literal of one. -/
theorem objectKey_eq_or (name : String) : objectKey name = name ∨ objectKey name = quote name := by
  unfold objectKey
  split
  · split
    · exact .inr rfl
    · exact .inl rfl
  · exact .inl rfl

/-- The key of a name stays on its line. -/
theorem oneLine_objectKey {name : String} (named : IsName name.toList) :
    OneLine (objectKey name) := by
  rcases objectKey_eq_or name with plain | literal
  · rw [plain]
    exact oneLine_of_isName named
  · rw [literal]
    exact Json.oneLine_quote name

/-- A key reads back as the name it is for. -/
theorem reads_key {before : List Char} {name : String} (stop : String) (blanks : IsBlanks before)
    (named : IsName name.toList) (rest : List Char) (ends : EndsName stop) :
    Reads key (before ++ ((objectKey name).toList ++ (stop.toList ++ rest))) name
      (stop.toList ++ rest) := by
  rcases objectKey_eq_or name with plain | literal
  · obtain ⟨first, tail, spelled⟩ := List.exists_cons_of_ne_nil named.1
    have member : isNameChar first = true := named.2 first (by simp [spelled])
    have visible : Visible name := by
      simp [Visible, spelled, isBlank_eq_false_of_isNameChar member]
    have unquoted : name.toList.head? ≠ some '"' := by
      rw [spelled]
      rintro ⟨⟩
      exact absurd member (by decide)
    have noLiteral : quoted (before ++ (name.toList ++ (stop.toList ++ rest))) = none :=
      quoted_eq_none name blanks (stop.toList ++ rest) visible unquoted
    rw [plain]
    exact reads_either noLiteral (reads_name stop blanks named rest ends)
  · rw [literal]
    exact reads_either_first (reads_quoted blanks name (stop.toList ++ rest))

/-- No key is read where a word stands that is neither a name nor a literal. -/
theorem key_eq_none {before : List Char} {word : String} (blanks : IsBlanks before)
    (rest : List Char) (visible : Visible word) (ends : EndsName word)
    (unquoted : word.toList.head? ≠ some '"') :
    key (before ++ (word.toList ++ rest)) = none := by
  obtain ⟨first, tail, spelled, outside⟩ := ends.exists_cons
  have front := visible.dropBlanks_append blanks rest
  have noName : name (before ++ (word.toList ++ rest)) = none := by
    simp only [name, taking, front]
    simp [spelled, outside]
  rw [key, either, quoted_eq_none word blanks rest visible unquoted, noName]

/-- A word that is no name is not read at a name. -/
theorem token_name_eq_none {before : List Char} {name word : String} (blanks : IsBlanks before)
    (named : IsName name.toList) (rest : List Char) (ends : EndsName word) :
    token word (before ++ (name.toList ++ rest)) = none := by
  obtain ⟨first, tail, spelled, outside⟩ := ends.exists_cons
  obtain ⟨other, others, characters⟩ := List.exists_cons_of_ne_nil named.1
  apply token_eq_none
  rw [dropBlanks_append blanks, spelled, dropBlanks_name_append named, characters,
    List.cons_append, List.cons_prefix_cons]
  rintro ⟨rfl, _⟩
  simp [named.2 first (characters ▸ List.mem_cons_self)] at outside

/-- A word that is neither a name nor a literal is not read at a key. -/
theorem token_key_eq_none {before : List Char} {name word : String} (blanks : IsBlanks before)
    (named : IsName name.toList) (rest : List Char) (ends : EndsName word)
    (unquoted : word.toList.head? ≠ some '"') :
    token word (before ++ ((objectKey name).toList ++ rest)) = none := by
  rcases objectKey_eq_or name with plain | quoted
  · rw [plain]
    exact token_name_eq_none blanks named rest ends
  · obtain ⟨first, tail, spelled, _⟩ := ends.exists_cons
    have literal : first ≠ '"' := by simpa [spelled] using unquoted
    have front : isBlank '"' = false := by decide
    apply token_eq_none
    rw [dropBlanks_append blanks, spelled, quoted, quote, Json.toList_quote, List.cons_append,
      dropBlanks_cons front, List.cons_prefix_cons]
    exact fun ⟨same, _⟩ => literal same

end TypeScript

end InterfaceGen
