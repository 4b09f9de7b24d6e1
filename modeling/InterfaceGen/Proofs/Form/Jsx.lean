import InterfaceGen.Proofs.Form.Recovery
import Mathlib.Data.List.DropRight

/-!
# What an element shows

A reader of what stands between the tags of an element: text, and literals in braces. In text, a
reference to a character stands for the character, and lines are put together with spaces. Which
names of characters there are is left open. Text is shown as it is written if, and only if, it holds
no mark of an element or of code, no line end and no reference. Otherwise what is shown is less than
what is written.
-/

namespace InterfaceGen.Jsx

open Text TypeScript Form

/-! ## References to characters -/

/-- The value of digits in a base. -/
def number? (base : Nat) (digits : List Char) : Option Nat :=
  if digits = [] then none
  else digits.foldlM (fun value digit =>
    ((Json.hexDigit? digit).filter (· < base)).map (base * value + ·)) 0

/-- The character of a code. A code that has none stands for the replacement character. -/
def charOfCode (code : Nat) : Char :=
  if code.isValidChar then Char.ofNat code else '\uFFFD'

variable (named : String → Option Char)

/-- The character that is referred to by its code or by its name. -/
def referred? (word : List Char) : Option Char :=
  match word with
  | '#' :: 'x' :: digits => (number? 16 digits).map charOfCode
  | '#' :: digits => (number? 10 digits).map charOfCode
  | name => named (String.ofList name)

/-- Reads a reference behind its ampersand, up to its semicolon. -/
def reference : Reader Char :=
  taking fun text =>
    match text.dropWhile (· ≠ ';') with
    | [] => none
    | _ :: rest => (referred? named (text.takeWhile (· ≠ ';'))).map (·, rest)

/-- A text with the characters that it refers to. -/
def decode : List Char → List Char
  | [] => []
  | char :: text =>
    if char = '&' then
      match reference named text with
      | some ⟨referred, rest, _⟩ => referred :: decode rest
      | none => '&' :: decode text
    else char :: decode text
termination_by text => text.length

/-! ## Text -/

/-- Whether a character ends a line of code. -/
def isLineEnd (char : Char) : Bool :=
  char == '\n' || char == '\r' || char == '\u2028' || char == '\u2029'

/-- Whether a character is left out at the end of a line of code. -/
def isSpace (char : Char) : Bool :=
  (isBlank char && !isLineEnd char) || char == '\u200B' || char == '\uFEFF'

/-- Lines behind the first one without the spaces that they begin with and, up to the last one, end
with. -/
def laterLines : List (List Char) → List (List Char)
  | [] => []
  | [line] => [line.dropWhile isSpace]
  | line :: next :: rest =>
    (line.dropWhile isSpace).rdropWhile isSpace :: laterLines (next :: rest)

/-- The lines of a text that are shown. Of more than one line, those are left out that hold spaces
alone, and so are the spaces around line ends. -/
def shownLines (text : List Char) : List (List Char) :=
  match text.splitOnP isLineEnd with
  | first :: next :: rest =>
    (first.rdropWhile isSpace :: laterLines (next :: rest)).filter (· ≠ [])
  | lines => lines

/-- What is shown of a text. -/
def shown (text : List Char) : List Char :=
  [' '].intercalate ((shownLines text).map (decode named))

/-- A text in which no ampersand begins a reference. -/
def Unreferring (text : List Char) : Prop :=
  ∀ rest, '&' :: rest <:+ text → reference named rest = none

/-- A text that is shown as it is written. -/
structure IsVerbatim (text : List Char) : Prop where
  plain : IsText text
  oneLine : ∀ char ∈ text, isLineEnd char = false
  unreferring : Unreferring named text

/-! ## Children -/

/-- Reads a literal in braces. Other code is not read. -/
def container : Reader (List Char) :=
  after (token "\x7b") fun _ => after quoted fun value => closing "\x7d" value.toList

/-- Reads text up to the word that closes an element, and gives what is shown of it. -/
def lastText (close : String) : Reader (List Char) :=
  taking fun text =>
    (close.toList.isPrefixOf? (text.dropWhile isTextChar)).map
      (shown named (text.takeWhile isTextChar), ·)

/-- Reads text up to a literal in braces and the literal, and gives what is shown of both. -/
def textAndLiteral : Reader (List Char) := fun text =>
  (container (text.dropWhile isTextChar)).map fun reading =>
    (reading.map (shown named (text.takeWhile isTextChar) ++ ·)).widen
      (List.dropWhile_sublist isTextChar).length_le

/-- Reads the children of an element up to the word that closes it, and gives what they show. -/
def children (close : String) : Reader (List Char) := fun text =>
  match lastText named close text with
  | some reading => some reading
  | none =>
    match textAndLiteral named text with
    | none => none
    | some ⟨value, rest, read⟩ =>
      match children close rest with
      | none => none
      | some ⟨others, rest, more⟩ => some ⟨value ++ others, rest, by omega⟩
termination_by text => text.length

/-! ## The weight of a text -/

/-- The weight of a character. What a line end or a reference becomes weighs less. -/
def charWeight (char : Char) : Nat :=
  if isLineEnd char || char == '&' then 2 else 1

/-- The weight of a text. -/
def weight : List Char → Nat
  | [] => 0
  | char :: text => charWeight char + weight text

@[simp] theorem weight_nil : weight [] = 0 :=
  rfl

@[simp] theorem weight_cons (char : Char) (text : List Char) :
    weight (char :: text) = charWeight char + weight text :=
  rfl

@[simp] theorem weight_append (left right : List Char) :
    weight (left ++ right) = weight left + weight right := by
  induction left with
  | nil => simp
  | cons char rest inductionHypothesis =>
      rw [List.cons_append, weight_cons, weight_cons, inductionHypothesis, Nat.add_assoc]

theorem charWeight_pos (char : Char) : 1 ≤ charWeight char := by
  unfold charWeight
  split <;> omega

theorem charWeight_le (char : Char) : charWeight char ≤ 2 := by
  unfold charWeight
  split <;> omega

/-- A part of a text weighs no more than the text. -/
theorem weight_le_of_sublist {part text : List Char} (within : part.Sublist text) :
    weight part ≤ weight text := by
  induction within with
  | slnil => rfl
  | cons char _ inductionHypothesis =>
      rw [weight_cons]
      omega
  | cons_cons char _ inductionHypothesis =>
      rw [weight_cons, weight_cons]
      omega

/-! ## Decoding -/

variable {named}

/-- What stands behind a reference weighs less. -/
theorem weight_lt_of_reads_reference {text rest : List Char} {char : Char}
    (read : Reads (reference named) text char rest) : weight rest < weight text := by
  have taken := take_of_reads read
  simp only at taken
  split at taken
  · cases taken
  · next stop behind found =>
    obtain ⟨_, _, same⟩ := Option.map_eq_some_iff.1 taken
    obtain ⟨-, rfl⟩ := Prod.mk.inj same
    have part := weight_le_of_sublist
      (List.dropWhile_sublist (l := text) fun char => decide (char ≠ ';'))
    have positive := charWeight_pos stop
    rw [found, weight_cons] at part
    omega

/-- A text weighs less with a character in place of a reference. -/
theorem weight_cons_lt_of_reference {text rest decoded : List Char} {char : Char}
    {shorter : rest.length < text.length} (read : reference named text = some ⟨char, rest, shorter⟩)
    (lighter : weight decoded ≤ weight rest) : weight (char :: decoded) < weight ('&' :: text) := by
  have behind := weight_lt_of_reads_reference ⟨shorter, read⟩
  have one := charWeight_le char
  have ampersand : charWeight '&' = 2 := by decide
  simp only [weight_cons, ampersand]
  omega

theorem unreferring_cons_iff {char : Char} {text : List Char} : Unreferring named (char :: text) ↔
    (char = '&' → reference named text = none) ∧ Unreferring named text := by
  constructor
  · intro none
    refine ⟨fun ampersand => none text (ampersand ▸ List.suffix_refl _), fun rest within => ?_⟩
    exact none rest (within.trans (List.suffix_cons _ _))
  · rintro ⟨here, none⟩ rest within
    rcases List.suffix_cons_iff.1 within with whole | later
    · obtain ⟨ampersand, rfl⟩ := List.cons.inj whole
      exact here ampersand.symm
    · exact none rest later

/-- A text without references is decoded as it is. Any other weighs less then. -/
theorem decode_cases (text : List Char) :
    (Unreferring named text → decode named text = text) ∧
      (¬ Unreferring named text → weight (decode named text) < weight text) := by
  fun_induction decode named text with
  | case1 =>
      have none : Unreferring named [] := by simp [Unreferring]
      exact ⟨fun _ => rfl, absurd none⟩
  | case2 text char rest shorter read inductionHypothesis =>
      have lighter : weight (decode named rest) ≤ weight rest := by
        by_cases none : Unreferring named rest
        · rw [inductionHypothesis.1 none]
        · exact Nat.le_of_lt (inductionHypothesis.2 none)
      rw [unreferring_cons_iff]
      exact ⟨fun none => by simp [none.1 rfl] at read,
        fun _ => weight_cons_lt_of_reference read lighter⟩
  | case3 text missed inductionHypothesis | case4 char text other inductionHypothesis =>
      rw [unreferring_cons_iff, weight_cons, weight_cons]
      refine ⟨fun none => by rw [inductionHypothesis.1 none.2], fun refers => ?_⟩
      have lighter := inductionHypothesis.2 fun none => refers ⟨by simp [*], none⟩
      omega

theorem weight_decode_le (text : List Char) : weight (decode named text) ≤ weight text := by
  by_cases none : Unreferring named text
  · rw [(decode_cases text).1 none]
  · exact Nat.le_of_lt ((decode_cases text).2 none)

/-! ## Lines -/

/-- A text weighs as much as its lines and the line ends between them. -/
theorem weight_add_two (text : List Char) :
    weight text + 2 = weight (text.splitOnP isLineEnd).flatten +
      2 * (text.splitOnP isLineEnd).length := by
  induction text with
  | nil => rfl
  | cons char rest inductionHypothesis =>
      rw [List.splitOnP_cons_eq_if_modifyHead]
      cases ends : isLineEnd char with
      | true =>
          have heavy : charWeight char = 2 := by simp [charWeight, ends]
          simp only [if_true, List.flatten_cons, List.nil_append, List.length_cons, weight_cons,
            heavy]
          omega
      | false =>
          obtain ⟨first, others, split⟩ :=
            List.exists_cons_of_ne_nil (List.splitOnP_ne_nil isLineEnd rest)
          rw [split] at inductionHypothesis ⊢
          simp only [Bool.false_eq_true, if_false, List.modifyHead_cons, List.flatten_cons,
            weight_append, weight_cons, List.length_cons] at inductionHypothesis ⊢
          omega

/-- Spaces are left out of lines, but no lines. -/
theorem laterLines_sublist (lines : List (List Char)) :
    (laterLines lines).flatten.Sublist lines.flatten ∧
      (laterLines lines).length = lines.length := by
  fun_induction laterLines lines with
  | case1 => exact ⟨List.Sublist.refl _, rfl⟩
  | case2 line => exact ⟨by simpa using List.dropWhile_sublist isSpace, rfl⟩
  | case3 line next rest inductionHypothesis =>
      obtain ⟨within, length⟩ := inductionHypothesis
      have left := (List.rdropWhile_prefix isSpace (line.dropWhile isSpace)).sublist
      exact ⟨(left.trans (List.dropWhile_sublist isSpace)).append within, by simp [length]⟩

/-- Decoded lines with spaces between them weigh no more than the lines and the spaces. -/
theorem weight_intercalate_map_decode_le (lines : List (List Char)) :
    weight ([' '].intercalate (lines.map (decode named))) ≤
      weight lines.flatten + (lines.length - 1) := by
  induction lines with
  | nil => simp
  | cons first rest inductionHypothesis =>
      have here : weight (decode named first) ≤ weight first := weight_decode_le first
      have space : charWeight ' ' = 1 := by decide
      cases rest with
      | nil => simpa using here
      | cons next others =>
          simp [space] at inductionHypothesis ⊢
          omega

/-- A text on one line is shown as it is decoded. -/
theorem shown_eq_decode {text : List Char} (oneLine : ∀ char ∈ text, isLineEnd char = false) :
    shown named text = decode named text := by
  have split : text.splitOnP isLineEnd = [text] :=
    List.splitOnP_eq_singleton oneLine
  simp [shown, shownLines, split]

/-- What is shown of several lines weighs less than what is written. -/
theorem weight_shown_lt {text : List Char} {char : Char} (member : char ∈ text)
    (ends : isLineEnd char = true) : weight (shown named text) < weight text := by
  have total := weight_add_two text
  have several : 2 ≤ (text.splitOnP isLineEnd).length := by
    obtain ⟨before, behind, rfl⟩ := List.append_of_mem member
    rw [List.splitOnP_append_cons _ _ ends, List.length_append]
    have first := List.length_pos_iff.2 (List.splitOnP_ne_nil isLineEnd before)
    have second := List.length_pos_iff.2 (List.splitOnP_ne_nil isLineEnd behind)
    omega
  obtain ⟨first, next, rest, split⟩ : ∃ first next rest,
      text.splitOnP isLineEnd = first :: next :: rest := by
    match text.splitOnP isLineEnd, several with
    | first :: next :: rest, _ => exact ⟨first, next, rest, rfl⟩
  have lines : shownLines text =
      (first.rdropWhile isSpace :: laterLines (next :: rest)).filter (· ≠ []) := by
    rw [shownLines, split]
  obtain ⟨within, length⟩ := laterLines_sublist (next :: rest)
  have kept : (shownLines text).flatten.Sublist (first :: next :: rest).flatten := by
    rw [lines, List.flatten_filter_ne_nil]
    exact (List.rdropWhile_prefix isSpace first).sublist.append within
  have fewer : (shownLines text).length ≤ (first :: next :: rest).length := by
    rw [lines, List.length_cons, ← length]
    exact List.length_filter_le _ _
  have lighter := weight_le_of_sublist kept
  have joined : weight ([' '].intercalate ((shownLines text).map (decode named))) ≤
      weight (shownLines text).flatten + ((shownLines text).length - 1) :=
    weight_intercalate_map_decode_le (shownLines text)
  rw [split] at total several
  rw [shown]
  omega

/-- The text at the front of children is shown as it is written, or what is shown weighs less. -/
theorem shown_takeWhile_cases (children : List Char) :
    (shown named (children.takeWhile isTextChar) = children.takeWhile isTextChar ∧
        IsVerbatim named (children.takeWhile isTextChar)) ∨
      weight (shown named (children.takeWhile isTextChar)) <
        weight (children.takeWhile isTextChar) := by
  have plain : IsText (children.takeWhile isTextChar) := fun _ member =>
    List.mem_takeWhile_imp member
  generalize children.takeWhile isTextChar = text at plain
  by_cases oneLine : ∀ char ∈ text, isLineEnd char = false
  · rw [shown_eq_decode oneLine]
    by_cases none : Unreferring named text
    · exact .inl ⟨(decode_cases text).1 none, plain, oneLine, none⟩
    · exact .inr ((decode_cases text).2 none)
  · push Not at oneLine
    obtain ⟨char, member, ends⟩ := oneLine
    exact .inr (weight_shown_lt member (by simpa using ends))

/-! ## Children -/

/-- What a literal stands for weighs no more than what is written for it. -/
theorem weight_le_of_readQuoted? {text value rest : List Char}
    (read : Json.readQuoted? text = some (value, rest)) :
    weight value + weight rest ≤ weight text := by
  have backslash : charWeight '\\' = 1 := by decide
  have unicode : charWeight 'u' = 1 := by decide
  fun_induction Json.readQuoted? text generalizing value <;>
    simp only [reduceCtorEq, Option.some.injEq, Prod.mk.injEq, Option.map_eq_some_iff,
      Prod.exists] at read
  case case2 =>
    obtain ⟨rfl, rfl⟩ := read
    simp
  all_goals
    rename_i inductionHypothesis
    obtain ⟨others, _, inner, rfl, rfl⟩ := read
    have behind := inductionHypothesis inner
    simp only [weight_cons, backslash, unicode]
  case case6 =>
    rename_i char _ _
    have low := charWeight_le char
    omega
  case case8 =>
    rename_i unit _ _ _
    have low := charWeight_le (Char.ofNat unit)
    omega
  case case10 =>
    rename_i escape _ _ char _ _
    have low := charWeight_le char
    have positive := charWeight_pos escape
    omega
  case case12 => omega

theorem weight_le_of_reads_quoted {text rest : List Char} {value : String}
    (read : Reads quoted text value rest) : weight value.toList + weight rest ≤ weight text := by
  have taken := take_of_reads read
  have left := weight_le_of_sublist (List.dropWhile_sublist (l := text) isBlank)
  simp only at taken
  split at taken
  · next literal front =>
    obtain ⟨⟨inner, behindQuote⟩, found, same⟩ := Option.map_eq_some_iff.1 taken
    obtain ⟨rfl, rfl⟩ : String.ofList inner = value ∧ behindQuote = rest := Prod.mk.inj same
    have behind := weight_le_of_readQuoted? found
    rw [← dropBlanks, front, weight_cons] at left
    rw [String.toList_ofList]
    omega
  · cases taken

theorem weight_le_of_reads_token {word : String} {text rest : List Char}
    (read : Reads (token word) text () rest) : weight word.toList + weight rest ≤ weight text := by
  obtain ⟨_, found, same⟩ := Option.map_eq_some_iff.1 (take_of_reads read)
  cases same
  have left := weight_le_of_sublist (List.dropWhile_sublist (l := text) isBlank)
  rwa [← dropBlanks, ← List.isPrefixOf?_eq_some_iff_append_eq.1 found, weight_append] at left

/-- What a container stands for weighs less than what is written. -/
theorem weight_lt_of_reads_container {text value rest : List Char}
    (read : Reads container text value rest) : weight value + weight rest < weight text := by
  obtain ⟨_, behindBrace, opened, read⟩ := exists_of_reads_after read
  obtain ⟨literal, behindLiteral, quotes, closed⟩ := exists_of_reads_after read
  obtain ⟨_, ended, rfl⟩ := exists_of_reads_mapped closed
  have brace : weight "\x7b".toList = 1 := by decide
  have front := weight_le_of_reads_token opened
  have inner := weight_le_of_reads_quoted quotes
  have behind := weight_le_of_reads_token ended
  omega

/-- Text and a literal show something that weighs less than what is written. -/
theorem weight_lt_of_reads_textAndLiteral {text value rest : List Char}
    (read : Reads (textAndLiteral named) text value rest) :
    weight value + weight rest < weight text := by
  obtain ⟨_, read⟩ := read
  obtain ⟨⟨literal, behind, within⟩, contained, same⟩ := Option.map_eq_some_iff.1 read
  cases same
  have inBraces := weight_lt_of_reads_container ⟨within, contained⟩
  have front : weight (shown named (text.takeWhile isTextChar)) ≤
      weight (text.takeWhile isTextChar) := by
    rcases @shown_takeWhile_cases named text with ⟨same, _⟩ | lighter
    · rw [same]
    · exact Nat.le_of_lt lighter
  have total := congrArg weight (List.takeWhile_append_dropWhile (p := isTextChar) (l := text))
  rw [weight_append] at total
  change weight (_ ++ literal) + weight behind < weight text
  rw [weight_append]
  omega

/-- Children that are text are shown as they are written, or what they show weighs less. -/
theorem lastText_cases {close : String} {text value rest : List Char}
    (read : Reads (lastText named close) text value rest) :
    (text = value ++ (close.toList ++ rest) ∧ IsVerbatim named value) ∨
      weight value + weight (close.toList ++ rest) < weight text := by
  obtain ⟨_, found, same⟩ := Option.map_eq_some_iff.1 (take_of_reads read)
  cases same
  have closes := List.isPrefixOf?_eq_some_iff_append_eq.1 found
  have whole := List.takeWhile_append_dropWhile (p := isTextChar) (l := text)
  rcases @shown_takeWhile_cases named text with ⟨same, verbatim⟩ | lighter
  · rw [same, closes]
    exact .inl ⟨whole.symm, verbatim⟩
  · have total := congrArg weight whole
    rw [weight_append, ← closes] at total
    exact .inr (by omega)

/-- The children of an element are shown as they are written, or what they show weighs less. -/
theorem children_cases {close : String} {text value rest : List Char}
    (read : Reads (children named close) text value rest) :
    (text = value ++ (close.toList ++ rest) ∧ IsVerbatim named value) ∨
      weight value + weight (close.toList ++ rest) < weight text := by
  obtain ⟨shorter, read⟩ := read
  fun_induction children named close text generalizing value with
  | case1 text _ last => exact lastText_cases ⟨shorter, last.trans read⟩
  | case2 | case3 => cases read
  | case4 text _ value between within front others _ more found inductionHypothesis =>
      cases read
      have first := weight_lt_of_reads_textAndLiteral ⟨within, front⟩
      have later : weight others + weight (close.toList ++ rest) ≤ weight between := by
        rcases inductionHypothesis more found with ⟨same, _⟩ | lighter
        · rw [← weight_append, ← same]
        · exact Nat.le_of_lt lighter
      rw [weight_append]
      exact .inr (by omega)

/-- Text that is shown as it is written is read as it is. -/
theorem reads_children {text : List Char} (verbatim : IsVerbatim named text) (rest : List Char) :
    Reads (children named "</button>") (text ++ ("</button>".toList ++ rest)) text rest := by
  have split : "</button>".toList ++ rest = '<' :: ("/button>".toList ++ rest) := by
    simp
  have mark : isTextChar '<' = false := by decide
  obtain ⟨taken, dropped⟩ := run_append_stop verbatim.plain mark ("/button>".toList ++ rest)
  rw [← split] at taken dropped
  have last : Reads (lastText named "</button>") (text ++ ("</button>".toList ++ rest)) text
      rest := by
    refine reads_taking ?_ (by simp; omega)
    rw [taken, dropped, shown_eq_decode verbatim.oneLine,
      (decode_cases text).1 verbatim.unreferring, Option.map_eq_some_iff]
    exact ⟨rest, List.isPrefixOf?_eq_some_iff_append_eq.2 rfl, rfl⟩
  refine ⟨last.shorter, ?_⟩
  rw [children, last.eq]

/-- Children that begin with another element are not read. -/
theorem children_eq_none {close : String} {text : List Char}
    (other : ¬ close.toList <+: '<' :: text) : children named close ('<' :: text) = none := by
  have mark : ('<' :: text).dropWhile isTextChar = '<' :: text :=
    List.dropWhile_cons_of_neg (by decide)
  have notLast : lastText named close ('<' :: text) = none := by
    simp [lastText, taking, mark, isPrefixOf?_eq_none other]
  have noBrace : token "\x7b" ('<' :: text) = none := by
    apply token_eq_none
    rw [dropBlanks_cons (by decide)]
    simp
  have noLiteral : container (('<' :: text).dropWhile isTextChar) = none := by
    rw [mark]
    exact after_eq_none noBrace
  rw [children, notLast, textAndLiteral, noLiteral]
  rfl

/-- The text of an element is read as it is written if, and only if, it is shown so. -/
theorem reads_children_iff {text rest : List Char} :
    Reads (children named "</button>") (text ++ ("</button>".toList ++ rest)) text rest ↔
      IsVerbatim named text := by
  constructor
  · intro read
    rcases children_cases read with ⟨_, verbatim⟩ | lighter
    · exact verbatim
    · simp at lighter
  · exact fun verbatim => reads_children verbatim rest

end InterfaceGen.Jsx
