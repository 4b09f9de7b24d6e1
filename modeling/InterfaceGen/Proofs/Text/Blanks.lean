import InterfaceGen.Text.Blank
import InterfaceGen.Text.Name
import Mathlib.Data.List.TakeWhile
import Mathlib.Data.String.Basic

/-!
# Blanks and names in a text

Texts that are made of blanks alone and texts that are names, and how the operations that drop
blanks act on a text in which such parts follow one another.
-/

namespace InterfaceGen.Text

/-- A text of blanks alone. -/
def IsBlanks (text : List Char) : Prop :=
  ∀ char ∈ text, isBlank char = true

/-- A text of blanks that stays on its line. -/
def IsGap (text : List Char) : Prop :=
  ∀ char ∈ text, isBlank char = true ∧ char ≠ '\n'

/-- A text that is a name. -/
def IsName (text : List Char) : Prop :=
  text ≠ [] ∧ ∀ char ∈ text, isNameChar char = true

-- The search for an instance would decide these by going through all characters there are.
instance (text : List Char) : Decidable (IsBlanks text) :=
  List.decidableBAll (fun char => isBlank char = true) text

instance (text : List Char) : Decidable (IsGap text) :=
  List.decidableBAll (fun char => isBlank char = true ∧ char ≠ '\n') text

instance (text : List Char) : Decidable (IsName text) :=
  have := List.decidableBAll (fun char => isNameChar char = true) text
  inferInstanceAs (Decidable (text ≠ [] ∧ ∀ char ∈ text, isNameChar char = true))

theorem isName_append {left right : List Char} (front : IsName left) (back : IsName right) :
    IsName (left ++ right) :=
  ⟨by simp [front.1], List.forall_mem_append.2 ⟨front.2, back.2⟩⟩

/-- The digits of a number are a name. -/
theorem isName_toString (number : Nat) : IsName (toString number).toList := by
  refine ⟨by simp, fun char member => ?_⟩
  have within : char ∈ Nat.toDigits 10 number := by simpa using member
  have isDigit : char.isDigit = true :=
    Nat.isDigit_of_mem_toDigits (by decide) (by decide) within
  simp [isNameChar, Char.isAlphanum, isDigit]

/-- Different numbers have different digits. -/
theorem toString_inj {left right : Nat} (same : toString left = toString right) : left = right := by
  have digits : Nat.toDigits 10 left = Nat.toDigits 10 right := by
    have characters := congrArg String.toList same
    simpa using characters
  rw [← Nat.ofDigitChars_ten_toDigits (n := left), digits, Nat.ofDigitChars_ten_toDigits]

theorem IsGap.isBlanks {text : List Char} (gap : IsGap text) : IsBlanks text :=
  fun char member => (gap char member).1

theorem isBlanks_nil : IsBlanks [] :=
  nofun

theorem isBlanks_space : IsBlanks [' '] := by
  decide

theorem isBlanks_newline : IsBlanks ['\n'] := by
  decide

theorem isGap_nil : IsGap [] :=
  nofun

theorem isBlanks_append {left right : List Char} :
    IsBlanks (left ++ right) ↔ IsBlanks left ∧ IsBlanks right := by
  simp only [IsBlanks, List.mem_append, or_imp, forall_and]

/-- A word of blanks continues blanks. -/
theorem IsBlanks.append_word {text : List Char} (blanks : IsBlanks text) (word : String)
    (more : IsBlanks word.toList) : IsBlanks (text ++ word.toList) :=
  isBlanks_append.2 ⟨blanks, more⟩

/-- The code points of name characters. -/
theorem isNameChar_iff {char : Char} :
    isNameChar char = true ↔
      (65 ≤ char.toNat ∧ char.toNat ≤ 90) ∨ (97 ≤ char.toNat ∧ char.toNat ≤ 122) ∨
        (48 ≤ char.toNat ∧ char.toNat ≤ 57) ∨ char.toNat = 95 := by
  have underscore : char = '_' ↔ char.toNat = 95 :=
    ⟨fun equal => equal ▸ rfl, fun code => Char.toNat_inj.1 code⟩
  delta isNameChar Char.isAlphanum Char.isAlpha Char.isUpper Char.isLower Char.isDigit
  simp only [Bool.or_eq_true, Bool.and_eq_true, decide_eq_true_eq, beq_iff_eq,
    UInt32.le_iff_toNat_le, ge_iff_le, underscore, or_assoc]
  exact Iff.rfl

/-- No character is both a blank and part of a name. -/
theorem isBlank_eq_false_of_isNameChar {char : Char} (name : isNameChar char = true) :
    isBlank char = false := by
  rw [isNameChar_iff] at name
  simp only [isBlank, Bool.or_eq_false_iff, Bool.and_eq_false_iff, decide_eq_false_iff_not,
    beq_eq_false_iff_ne]
  omega

theorem isNameChar_eq_false_of_isBlank {char : Char} (blank : isBlank char = true) :
    isNameChar char = false :=
  Bool.eq_false_iff.2 fun name => by simp [isBlank_eq_false_of_isNameChar name] at blank

/-! ## Dropping blanks -/

@[simp] theorem dropBlanks_append {blanks : List Char} (all : IsBlanks blanks)
    (text : List Char) : dropBlanks (blanks ++ text) = dropBlanks text :=
  List.dropWhile_append_of_pos all

/-- Text that begins with no blank is left as it is. -/
@[simp] theorem dropBlanks_cons {char : Char} (visible : isBlank char = false)
    (rest : List Char) : dropBlanks (char :: rest) = char :: rest :=
  List.dropWhile_cons_of_neg (by simp [visible])

/-- A name is the front of the text that it begins. -/
theorem dropBlanks_name_append {name : List Char} (named : IsName name) (rest : List Char) :
    dropBlanks (name ++ rest) = name ++ rest := by
  obtain ⟨first, others, rfl⟩ := List.exists_cons_of_ne_nil named.1
  exact dropBlanks_cons (isBlank_eq_false_of_isNameChar (named.2 _ List.mem_cons_self)) _

theorem dropBlanks_eq_nil_iff {text : List Char} : dropBlanks text = [] ↔ IsBlanks text :=
  List.dropWhile_eq_nil_iff

/-- Blanks are dropped up to a character that is none. -/
theorem isBlank_eq_false_of_dropBlanks {text rest : List Char} {char : Char}
    (dropped : dropBlanks text = char :: rest) : isBlank char = false := by
  have head := List.head?_dropWhile_not isBlank text
  rw [dropBlanks] at dropped
  rw [dropped] at head
  simpa using head

/-- What is dropped is a run of blanks. -/
theorem exists_blanks_append_dropBlanks (text : List Char) :
    ∃ blanks, IsBlanks blanks ∧ text = blanks ++ dropBlanks text :=
  ⟨text.takeWhile isBlank, List.all_eq_true.1 List.all_takeWhile,
    List.takeWhile_append_dropWhile.symm⟩

/-- Text put behind a text that holds more than blanks stays behind it. -/
theorem dropBlanks_append_right {text : List Char} (visible : ¬ IsBlanks text)
    (rest : List Char) : dropBlanks (text ++ rest) = dropBlanks text ++ rest := by
  have nonempty : dropBlanks text ≠ [] := mt dropBlanks_eq_nil_iff.1 visible
  rw [dropBlanks, List.dropWhile_append, if_neg (by simpa [dropBlanks] using nonempty)]
  rfl

/-- Blanks behind a text do not change what stands at the front of it. -/
theorem dropBlanks_append_blanks {blanks : List Char} (all : IsBlanks blanks)
    (text : List Char) :
    (dropBlanks text = [] ∧ dropBlanks (text ++ blanks) = []) ∨
      ∃ char rest, dropBlanks text = char :: rest ∧
        dropBlanks (text ++ blanks) = char :: (rest ++ blanks) := by
  by_cases empty : IsBlanks text
  · exact .inl ⟨dropBlanks_eq_nil_iff.2 empty,
      dropBlanks_eq_nil_iff.2 (isBlanks_append.2 ⟨empty, all⟩)⟩
  · obtain ⟨char, rest, front⟩ :=
      List.exists_cons_of_ne_nil (mt dropBlanks_eq_nil_iff.1 empty)
    exact .inr ⟨char, rest, front, by rw [dropBlanks_append_right empty, front]; rfl⟩

/-! ## Up to a character that stops -/

/-- What is taken from a text is not touched by what follows a character that stops the taking. -/
theorem takeWhile_append_stop {p : Char → Bool} {stop : Char} (stops : p stop = false)
    (text rest : List Char) : (text ++ stop :: rest).takeWhile p = text.takeWhile p := by
  induction text with
  | nil => simp [stops]
  | cons char tail inductionHypothesis =>
      cases taken : p char with
      | false => simp [taken]
      | true => simp [taken, inductionHypothesis]

/-- A character that stops the dropping stays, with all that follows it. -/
theorem dropWhile_append_stop {p : Char → Bool} {stop : Char} (stops : p stop = false)
    (text rest : List Char) :
    (text ++ stop :: rest).dropWhile p = text.dropWhile p ++ stop :: rest := by
  induction text with
  | nil => simp [stops]
  | cons char tail inductionHypothesis =>
      cases dropped : p char with
      | false => simp [dropped]
      | true => simp [dropped, inductionHypothesis]

/-- A run of characters of a kind is taken up to a character that is not. -/
theorem run_append_stop {kind : Char → Bool} {run : List Char} {stop : Char}
    (inside : ∀ char ∈ run, kind char = true) (outside : kind stop = false) (tail : List Char) :
    (run ++ stop :: tail).takeWhile kind = run ∧
      (run ++ stop :: tail).dropWhile kind = stop :: tail := by
  have dropped : run.dropWhile kind = [] := List.dropWhile_eq_nil_iff.2 inside
  rw [takeWhile_append_stop outside, dropWhile_append_stop outside, dropped]
  exact ⟨List.takeWhile_eq_self_iff.2 inside, rfl⟩

theorem dropBlanks_append_stop {stop : Char} (visible : isBlank stop = false)
    (text rest : List Char) :
    dropBlanks (text ++ stop :: rest) = dropBlanks text ++ stop :: rest :=
  dropWhile_append_stop visible text rest

/-! ## Names among blanks -/

/-- A run of blanks in front of a character that is no part of a name ends a name. -/
theorem takeWhile_isNameChar_blanks {blanks : List Char} (all : IsBlanks blanks) {char : Char}
    (stop : isNameChar char = false) (rest : List Char) :
    (blanks ++ char :: rest).takeWhile isNameChar = [] := by
  cases blanks with
  | nil => simp [stop]
  | cons blank others =>
      simp [isNameChar_eq_false_of_isBlank (all blank List.mem_cons_self)]

theorem dropWhile_isNameChar_blanks {blanks : List Char} (all : IsBlanks blanks) {char : Char}
    (stop : isNameChar char = false) (rest : List Char) :
    (blanks ++ char :: rest).dropWhile isNameChar = blanks ++ char :: rest := by
  have split := List.takeWhile_append_dropWhile (p := isNameChar) (l := blanks ++ char :: rest)
  rwa [takeWhile_isNameChar_blanks all stop, List.nil_append] at split

/-- Blanks behind a text do not change the name at its front. -/
theorem takeWhile_isNameChar_append_blanks {blanks : List Char} (all : IsBlanks blanks)
    (text : List Char) :
    (text ++ blanks).takeWhile isNameChar = text.takeWhile isNameChar := by
  induction text with
  | nil =>
      cases blanks with
      | nil => rfl
      | cons blank others =>
          simp [isNameChar_eq_false_of_isBlank (all blank List.mem_cons_self)]
  | cons char rest inductionHypothesis =>
      cases name : isNameChar char with
      | false => simp [name]
      | true => simp [name, inductionHypothesis]

theorem dropWhile_isNameChar_append_blanks {blanks : List Char} (all : IsBlanks blanks)
    (text : List Char) :
    (text ++ blanks).dropWhile isNameChar = text.dropWhile isNameChar ++ blanks := by
  have whole := List.takeWhile_append_dropWhile (p := isNameChar) (l := text ++ blanks)
  have part := List.takeWhile_append_dropWhile (p := isNameChar) (l := text)
  rw [takeWhile_isNameChar_append_blanks all] at whole
  refine List.append_cancel_left (whole.trans ?_)
  rw [← List.append_assoc, part]

/-! ## Trimming -/

theorem dropBlanksRight_append_blanks {blanks : List Char} (all : IsBlanks blanks)
    (text : List Char) : dropBlanksRight (text ++ blanks) = dropBlanksRight text := by
  have reversed : ∀ char ∈ blanks.reverse, isBlank char = true :=
    fun char member => all char (List.mem_reverse.1 member)
  rw [dropBlanksRight, dropBlanksRight, List.reverse_append,
    List.dropWhile_append_of_pos reversed]

theorem exists_dropBlanksRight_append (text : List Char) :
    ∃ blanks, IsBlanks blanks ∧ text = dropBlanksRight text ++ blanks := by
  obtain ⟨blanks, all, split⟩ := exists_blanks_append_dropBlanks text.reverse
  refine ⟨blanks.reverse, by simpa [IsBlanks] using all, ?_⟩
  have turned := congrArg List.reverse split
  rwa [List.reverse_reverse, List.reverse_append] at turned

/-- Blanks behind a text do not change what is left of it. -/
theorem trim_append_blanks {blanks : List Char} (all : IsBlanks blanks) (text : List Char) :
    trim (text ++ blanks) = trim text := by
  by_cases empty : IsBlanks text
  · have whole : IsBlanks (text ++ blanks) := isBlanks_append.2 ⟨empty, all⟩
    rw [trim, trim, dropBlanks_eq_nil_iff.2 empty, dropBlanks_eq_nil_iff.2 whole]
  · rw [trim, dropBlanks_append_right empty, dropBlanksRight_append_blanks all, trim]

theorem trim_blanks_append {blanks : List Char} (all : IsBlanks blanks) (text : List Char) :
    trim (blanks ++ text) = trim text := by
  rw [trim, trim, dropBlanks_append all]

/-- A text is what is left of it when it is trimmed, between blanks. -/
theorem exists_blanks_trim (text : List Char) :
    ∃ before after, IsBlanks before ∧ IsBlanks after ∧
      text = before ++ (trim text ++ after) := by
  obtain ⟨before, allBefore, front⟩ := exists_blanks_append_dropBlanks text
  obtain ⟨after, allAfter, back⟩ := exists_dropBlanksRight_append (dropBlanks text)
  exact ⟨before, after, allBefore, allAfter, by rw [trim, ← back, ← front]⟩

/-- Trimming leaves nothing more to trim. -/
theorem trim_trim (text : List Char) : trim (trim text) = trim text := by
  obtain ⟨before, after, allBefore, allAfter, split⟩ := exists_blanks_trim text
  calc trim (trim text)
      = trim (trim text ++ after) := (trim_append_blanks allAfter _).symm
    _ = trim (before ++ (trim text ++ after)) := (trim_blanks_append allBefore _).symm
    _ = trim text := by rw [← split]

/-- Trimming leaves nothing of a text exactly if the text is blank. -/
theorem trim_eq_nil_iff {text : List Char} : trim text = [] ↔ IsBlanks text := by
  constructor
  · intro nothing
    obtain ⟨before, after, allBefore, allAfter, split⟩ := exists_blanks_trim text
    rw [split, nothing, List.nil_append]
    exact isBlanks_append.2 ⟨allBefore, allAfter⟩
  · intro blank
    exact trim_append_blanks blank []

/-- A text that trimming leaves as it is begins with no blank. -/
theorem dropBlanks_eq_self_of_trim {text : List Char} (trimmed : trim text = text) :
    dropBlanks text = text := by
  obtain ⟨after, _, back⟩ := exists_dropBlanksRight_append (dropBlanks text)
  have shorter : text.length ≤ (dropBlanks text).length := by
    have lengths := congrArg List.length back
    rw [← trim, trimmed, List.length_append] at lengths
    omega
  exact (List.dropWhile_suffix isBlank).eq_of_length_le shorter

end InterfaceGen.Text
