import InterfaceGen.Json.Quoted

/-!
# Settings in TOML

The part of TOML that a list of settings needs: lines that give a string to a key. The four kinds
of string, quoted keys, blank lines and comments are read; tables, dotted keys and values that are
no strings are not.
-/

namespace InterfaceGen.Toml

/-- The blanks that may stand within a line. -/
def isGap (char : Char) : Bool :=
  char == ' ' || char == '\t'

/-- The characters that stand for themselves in strings and comments: all but controls, of which
the tab is allowed. -/
def isPlain (char : Char) : Bool :=
  char == '\t' || (0x20 ≤ char.toNat && char.toNat != 0x7F)

/-- The text after the gap at its start. -/
def dropGap (text : List Char) : List Char :=
  text.dropWhile isGap

/-- The text after a newline at its start, if there is one. -/
def dropNewline : List Char → List Char
  | '\n' :: rest => rest
  | '\r' :: '\n' :: rest => rest
  | text => text

/-- Whether nothing but a gap comes before the end of a line that is not the last. -/
def restIsGap (text : List Char) : Bool :=
  match dropGap text with
  | '\n' :: _ | '\r' :: '\n' :: _ => true
  | _ => false

/-- The character that a short escape stands for. -/
def shortEscape? : Char → Option Char
  | '"' => some '"'
  | '\\' => some '\\'
  | 'b' => some '\x08'
  | 'f' => some '\x0c'
  | 'n' => some '\n'
  | 'r' => some '\r'
  | 't' => some '\t'
  | _ => none

/-- The character with a code written in hexadecimal digits. Surrogates are no characters. -/
def coded? (digits : List Char) : Option Char :=
  match Json.hexValue? digits with
  | none => none
  | some code => if code.isValidChar then some (Char.ofNat code) else none

/-- What was read, with one more character in front. -/
def prepend (char : Char) (read : Option (List Char × List Char)) :
    Option (List Char × List Char) :=
  read.map fun (value, rest) => (char :: value, rest)

/-- The quotes before the three that close a long string, given the text from the second quote of
a run on, and the text after the run. There are at most two. -/
def closeLong? (quote : Char) : List Char → Option (List Char × List Char)
  | a :: b :: rest =>
    if a = quote ∧ b = quote then
      match rest with
      | c :: d :: rest =>
        if c = quote ∧ d = quote then some ([quote, quote], rest)
        else if c = quote then some ([quote], d :: rest)
        else some ([], c :: d :: rest)
      | [c] => if c = quote then some ([quote], []) else some ([], [c])
      | [] => some ([], [])
    else none
  | _ => none

/-- Reads a basic string after its opening quotes. A long string may hold newlines and quotes; a
backslash at the end of its line takes all blanks and newlines after it out of the string, which
`trimming` stands for. -/
def readBasic? (long trimming : Bool) : List Char → Option (List Char × List Char)
  | [] => none
  | '"' :: rest =>
    if long then
      match closeLong? '"' rest with
      | some closed => some closed
      | none => prepend '"' (readBasic? long false rest)
    else some ([], rest)
  | '\\' :: 'u' :: a :: b :: c :: d :: rest =>
    match coded? [a, b, c, d] with
    | none => none
    | some char => prepend char (readBasic? long false rest)
  | '\\' :: 'U' :: a :: b :: c :: d :: e :: f :: g :: h :: rest =>
    match coded? [a, b, c, d, e, f, g, h] with
    | none => none
    | some char => prepend char (readBasic? long false rest)
  | '\\' :: escape :: rest =>
    match shortEscape? escape with
    | some char => prepend char (readBasic? long false rest)
    | none => if long && restIsGap (escape :: rest) then readBasic? long true rest else none
  | '\r' :: '\n' :: rest =>
    if trimming then readBasic? long true rest
    else if long then prepend '\n' (readBasic? long false rest)
    else none
  | char :: rest =>
    if trimming && (isGap char || char == '\n') then readBasic? long true rest
    else if isPlain char || (long && char == '\n') then prepend char (readBasic? long false rest)
    else none

/-- Reads a literal string after its opening quotes. All characters stand for themselves. -/
def readLiteral? (long : Bool) : List Char → Option (List Char × List Char)
  | [] => none
  | '\x27' :: rest =>
    if long then
      match closeLong? '\x27' rest with
      | some closed => some closed
      | none => prepend '\x27' (readLiteral? long rest)
    else some ([], rest)
  | '\r' :: '\n' :: rest => if long then prepend '\n' (readLiteral? long rest) else none
  | char :: rest =>
    if isPlain char || (long && char == '\n') then prepend char (readLiteral? long rest) else none

/-- Reads a string. A newline right after the opening quotes of a long string is left out. -/
def readString? : List Char → Option (List Char × List Char)
  | '"' :: '"' :: '"' :: rest => readBasic? true false (dropNewline rest)
  | '"' :: rest => readBasic? false false rest
  | '\x27' :: '\x27' :: '\x27' :: rest => readLiteral? true (dropNewline rest)
  | '\x27' :: rest => readLiteral? false rest
  | _ => none

/-- The characters of a key without quotes. -/
def isKeyChar (char : Char) : Bool :=
  char.isAlphanum || char == '_' || char == '-'

/-- Reads a key. -/
def readKey? (text : List Char) : Option (List Char × List Char) :=
  match text with
  | '"' :: rest => readBasic? false false rest
  | '\x27' :: rest => readLiteral? false rest
  | _ =>
    let key := text.takeWhile isKeyChar
    if key = [] then none else some (key, text.dropWhile isKeyChar)

/-- Reads a key, an equals sign and a string. -/
def readSetting? (text : List Char) : Option ((String × String) × List Char) :=
  match readKey? text with
  | none => none
  | some (key, rest) =>
    match dropGap rest with
    | '=' :: rest =>
      match readString? (dropGap rest) with
      | none => none
      | some (value, rest) => some ((String.ofList key, String.ofList value), rest)
    | _ => none

/-- The text after the end of the line, before which only a gap and a comment may stand. -/
def endLine? (text : List Char) : Option (List Char) :=
  let text := dropGap text
  let text := if text.head? = some '#' then text.dropWhile isPlain else text
  match text with
  | [] => some []
  | '\n' :: rest => some rest
  | '\r' :: '\n' :: rest => some rest
  | _ => none

/-- Whether a line, without the gap at its start, holds a setting. -/
def holdsSetting (line : List Char) : Bool :=
  match line with
  | [] | '#' :: _ | '\n' :: _ | '\r' :: _ => false
  | _ => true

theorem length_dropGap_le (text : List Char) : (dropGap text).length ≤ text.length :=
  (List.dropWhile_sublist isGap).length_le

theorem length_dropNewline_le (text : List Char) : (dropNewline text).length ≤ text.length := by
  unfold dropNewline
  split
  · exact Nat.le_succ _
  · exact Nat.le_succ_of_le (Nat.le_succ _)
  · exact Nat.le_refl _

theorem length_lt_of_closeLong? {quote : Char} {text value rest : List Char}
    (close : closeLong? quote text = some (value, rest)) : rest.length < text.length := by
  unfold closeLong? at close
  grind

/-- What is left after a character put in front is what was left without it. -/
theorem exists_of_prepend {char : Char} {read : Option (List Char × List Char)}
    {value rest : List Char} (result : prepend char read = some (value, rest)) :
    ∃ tail, read = some (tail, rest) := by
  simp only [prepend, Option.map_eq_some_iff, Prod.mk.injEq, Prod.exists] at result
  obtain ⟨tail, _, inner, _, rfl⟩ := result
  exact ⟨tail, inner⟩

theorem length_lt_of_readBasic? {long trimming : Bool} {text value rest : List Char}
    (read : readBasic? long trimming text = some (value, rest)) : rest.length < text.length := by
  fun_induction readBasic? long trimming text generalizing value <;>
    simp only [List.length_cons, reduceCtorEq, Option.some.injEq] at read ⊢
  case case2 closed =>
    have := length_lt_of_closeLong? (closed.trans (congrArg some read))
    omega
  case case4 =>
    rw [(Prod.mk.inj read).2]
    omega
  case case10 inductionHypothesis | case12 inductionHypothesis | case15 inductionHypothesis =>
    have := inductionHypothesis read
    omega
  all_goals
    rename_i inductionHypothesis
    obtain ⟨_, inner⟩ := exists_of_prepend read
    have := inductionHypothesis inner
    omega

theorem length_lt_of_readLiteral? {long : Bool} {text value rest : List Char}
    (read : readLiteral? long text = some (value, rest)) : rest.length < text.length := by
  fun_induction readLiteral? long text generalizing value <;>
    simp only [List.length_cons, reduceCtorEq, Option.some.injEq] at read ⊢
  case case2 closed =>
    have := length_lt_of_closeLong? (closed.trans (congrArg some read))
    omega
  case case4 =>
    rw [(Prod.mk.inj read).2]
    omega
  all_goals
    rename_i inductionHypothesis
    obtain ⟨_, inner⟩ := exists_of_prepend read
    have := inductionHypothesis inner
    omega

theorem length_lt_of_readString? {text value rest : List Char}
    (read : readString? text = some (value, rest)) : rest.length < text.length := by
  unfold readString? at read
  split at read
  · next tail =>
      have := length_lt_of_readBasic? read
      have := length_dropNewline_le tail
      simp only [List.length_cons]
      omega
  · exact Nat.lt_succ_of_lt (length_lt_of_readBasic? read)
  · next tail =>
      have := length_lt_of_readLiteral? read
      have := length_dropNewline_le tail
      simp only [List.length_cons]
      omega
  · exact Nat.lt_succ_of_lt (length_lt_of_readLiteral? read)
  · contradiction

theorem length_le_of_readKey? {text value rest : List Char}
    (read : readKey? text = some (value, rest)) : rest.length ≤ text.length := by
  unfold readKey? at read
  split at read
  · exact Nat.le_succ_of_le (Nat.le_of_lt (length_lt_of_readBasic? read))
  · exact Nat.le_succ_of_le (Nat.le_of_lt (length_lt_of_readLiteral? read))
  · simp only at read
    split at read
    · contradiction
    · rw [← (Prod.mk.inj (Option.some.inj read)).2]
      exact (List.dropWhile_sublist isKeyChar).length_le

theorem length_lt_of_readSetting? {text rest : List Char} {setting : String × String}
    (read : readSetting? text = some (setting, rest)) : rest.length < text.length := by
  unfold readSetting? at read
  split at read
  · contradiction
  · next key tail keyed =>
      have := length_le_of_readKey? keyed
      have gap := length_dropGap_le tail
      split at read
      · next tail equals =>
          rw [equals, List.length_cons] at gap
          have := length_dropGap_le tail
          split at read
          · contradiction
          · next valued =>
              have := length_lt_of_readString? valued
              rw [← (Prod.mk.inj (Option.some.inj read)).2]
              omega
      · contradiction

theorem length_le_of_endLine? {text rest : List Char} (line : endLine? text = some rest) :
    rest.length ≤ text.length := by
  have gap := length_dropGap_le text
  have comment : ((dropGap text).dropWhile isPlain).length ≤ (dropGap text).length :=
    (List.dropWhile_sublist isPlain).length_le
  simp only [endLine?] at line
  grind

/-- A line that is not the last takes at least its newline. -/
theorem length_lt_of_endLine? {text rest : List Char} (line : endLine? text = some rest)
    (more : text ≠ []) : rest.length < text.length := by
  have gap := length_dropGap_le text
  have comment : ((dropGap text).dropWhile isPlain).length ≤ (dropGap text).length :=
    (List.dropWhile_sublist isPlain).length_le
  have nonempty := List.length_pos_iff.2 more
  simp only [endLine?] at line
  grind

/-- Reads the settings of a text, in order. -/
def readSettings? (text : List Char) : Option (List (String × String)) :=
  if _ : text = [] then some []
  else if holdsSetting (dropGap text) then
    match _ : readSetting? (dropGap text) with
    | none => none
    | some (setting, rest) =>
      match _ : endLine? rest with
      | none => none
      | some rest => (readSettings? rest).map (setting :: ·)
  else
    match _ : endLine? text with
    | none => none
    | some rest => readSettings? rest
termination_by text.length
decreasing_by
  · have := length_dropGap_le text
    have := length_lt_of_readSetting? (by assumption)
    have := length_le_of_endLine? (by assumption)
    omega
  · exact length_lt_of_endLine? (by assumption) (by assumption)

/-- The settings of a document, which a byte order mark may precede. -/
def parse? (document : String) : Option (List (String × String)) :=
  match document.toList with
  | '\uFEFF' :: text => readSettings? text
  | text => readSettings? text

end InterfaceGen.Toml
