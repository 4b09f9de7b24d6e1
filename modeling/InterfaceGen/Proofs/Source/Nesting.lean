import InterfaceGen.Proofs.Source.Balance
import Mathlib.Data.List.Infix

/-!
# Depth of nesting

The braces that a text opens and those that it closes are counted. An open brace is closed at the
first place at which as many braces are closed as are opened from it on, and this is where the
search for the closing brace ends. What such a search passes over is balanced.
-/

namespace InterfaceGen.Source

/-- How many more braces a text opens than it closes. -/
def nesting (text : List Char) : Int :=
  text.count '{' - text.count '}'

@[simp] theorem nesting_nil : nesting [] = 0 :=
  rfl

@[simp] theorem nesting_opening : nesting ['{'] = 1 := by
  decide

@[simp] theorem nesting_closing : nesting ['}'] = -1 := by
  decide

theorem nesting_singleton {char : Char} (opens : char ≠ '{') (closes : char ≠ '}') :
    nesting [char] = 0 := by
  simp [nesting, opens, closes]

@[simp] theorem nesting_append (left right : List Char) :
    nesting (left ++ right) = nesting left + nesting right := by
  simp only [nesting, List.count_append]
  omega

theorem nesting_cons (char : Char) (rest : List Char) :
    nesting (char :: rest) = nesting [char] + nesting rest :=
  nesting_append [char] rest

theorem Braceless.nesting_eq_zero {text : List Char} (braceless : Braceless text) :
    nesting text = 0 := by
  have opens : '{' ∉ text := fun member => (braceless _ member).1 rfl
  have closes : '}' ∉ text := fun member => (braceless _ member).2 rfl
  simp [nesting, List.count_eq_zero.2 opens, List.count_eq_zero.2 closes]

/-! ## Places that close all open braces -/

/-- From a depth on, no front of a text closes all braces that are open. -/
def StaysOpen (depth : Int) (text : List Char) : Prop :=
  ∀ front, front <+: text → depth + nesting front ≠ 0

theorem staysOpen_nil {depth : Int} : StaysOpen depth [] ↔ depth ≠ 0 := by
  simp [StaysOpen]

theorem staysOpen_cons {depth : Int} {char : Char} {rest : List Char} :
    StaysOpen depth (char :: rest) ↔ depth ≠ 0 ∧ StaysOpen (depth + nesting [char]) rest := by
  constructor
  · intro stays
    refine ⟨by simpa using stays [] (List.nil_prefix), fun front front_le => ?_⟩
    rw [Int.add_assoc, ← nesting_cons]
    exact stays (char :: front) (List.prefix_cons_inj char |>.2 front_le)
  · rintro ⟨start, stays⟩ front front_le
    obtain rfl | ⟨tail, rfl, tail_le⟩ := List.prefix_cons_iff.1 front_le
    · simpa using start
    · rw [nesting_cons, ← Int.add_assoc]
      exact stays tail tail_le

/-- From a depth on, the first place in a text that closes all braces that are open, as the text
before it and the text after it. -/
def ClosesBetween (depth : Int) (text before after : List Char) : Prop :=
  ∃ close, text = before ++ close :: after ∧ depth + nesting (before ++ [close]) = 0 ∧
    StaysOpen depth before

theorem ClosesBetween.depth_ne_zero {depth : Int} {text before after : List Char}
    (closes : ClosesBetween depth text before after) : depth ≠ 0 := by
  obtain ⟨_, -, -, stays⟩ := closes
  simpa using stays [] List.nil_prefix

/-- The place is the first character of the text, or it is found behind it. -/
theorem closesBetween_cons {depth : Int} (start : depth ≠ 0) {char : Char}
    {rest before after : List Char} :
    ClosesBetween depth (char :: rest) before after ↔
      (depth + nesting [char] = 0 ∧ before = [] ∧ after = rest) ∨
        ∃ others, before = char :: others ∧
          ClosesBetween (depth + nesting [char]) rest others after := by
  constructor
  · rintro ⟨close, split, closed, stays⟩
    cases before with
    | nil =>
        obtain ⟨rfl, rfl⟩ : char = close ∧ rest = after := by simpa using split
        exact .inl ⟨closed, rfl, rfl⟩
    | cons first others =>
        obtain ⟨rfl, rfl⟩ : char = first ∧ rest = others ++ close :: after := by simpa using split
        rw [List.cons_append, nesting_cons, ← Int.add_assoc] at closed
        exact .inr ⟨others, rfl, close, rfl, closed, (staysOpen_cons.1 stays).2⟩
  · rintro (⟨closed, rfl, rfl⟩ | ⟨others, rfl, close, rfl, closed, stays⟩)
    · exact ⟨char, rfl, closed, staysOpen_nil.2 start⟩
    · refine ⟨close, rfl, ?_, staysOpen_cons.2 ⟨start, stays⟩⟩
      rw [List.cons_append, nesting_cons, ← Int.add_assoc, closed]

/-! ## The search within open braces -/

/-- The depth changes by one brace at a time, and only the last one that is open ends the search. -/
theorem splitClosing_cons {depth : Nat} (within : 1 ≤ depth) (char : Char) (rest : List Char) :
    (depth + nesting [char] = 0 ∧ splitClosing depth (char :: rest) = some ([], rest)) ∨
      ∃ inside : Nat, 1 ≤ inside ∧ (inside : Int) = depth + nesting [char] ∧
        splitClosing depth (char :: rest) =
          (splitClosing inside rest).map fun (before, after) => (char :: before, after) := by
  by_cases opens : char = '{'
  · subst opens
    exact .inr ⟨depth + 1, by omega, by simp, by simp [splitClosing]⟩
  · by_cases closes : char = '}'
    · subst closes
      by_cases last : depth ≤ 1
      · exact .inl ⟨by rw [nesting_closing]; omega, by simp [splitClosing, last]⟩
      · refine .inr ⟨depth - 1, by omega, by rw [nesting_closing]; omega, ?_⟩
        simp [splitClosing, last]
    · refine .inr ⟨depth, within, by simp [nesting_singleton opens closes], ?_⟩
      simp [splitClosing, opens, closes]

/-- The search within open braces ends at the first place that closes all of them. -/
theorem splitClosing_eq_some_iff {depth : Nat} (within : 1 ≤ depth)
    {text before after : List Char} :
    splitClosing depth text = some (before, after) ↔ ClosesBetween depth text before after := by
  induction text generalizing depth before with
  | nil => simp [splitClosing, ClosesBetween]
  | cons char rest inductionHypothesis =>
      rw [closesBetween_cons (by omega)]
      obtain ⟨closed, found⟩ | ⟨inside, deeper, depthInside, continued⟩ :=
        splitClosing_cons within char rest
      · -- Nothing is open behind the character, so no place behind it closes anything.
        have ended (others : List Char) : ¬ ClosesBetween 0 rest others after :=
          fun behind => behind.depth_ne_zero rfl
        rw [found, closed]
        simp [ended, eq_comm]
      · have stillOpen : (inside : Int) ≠ 0 := by omega
        rw [continued, ← depthInside, Option.map_eq_some_iff]
        simp only [stillOpen, false_and, false_or, ← inductionHypothesis deeper]
        constructor
        · rintro ⟨⟨others, _⟩, inner, equal⟩
          cases equal
          exact ⟨others, rfl, inner⟩
        · rintro ⟨others, rfl, inner⟩
          exact ⟨_, inner, rfl⟩

/-- The search within open braces fails exactly if no place closes all of them. -/
theorem splitClosing_eq_none_iff {depth : Nat} (within : 1 ≤ depth) {text : List Char} :
    splitClosing depth text = none ↔ StaysOpen depth text := by
  induction text generalizing depth with
  | nil => simp [splitClosing, staysOpen_nil]; omega
  | cons char rest inductionHypothesis =>
      have start : (depth : Int) ≠ 0 := by omega
      rw [staysOpen_cons, and_iff_right start]
      obtain ⟨closed, found⟩ | ⟨inside, deeper, depthInside, continued⟩ :=
        splitClosing_cons within char rest
      · have ended : ¬ StaysOpen (depth + nesting [char]) rest := fun stays =>
          stays [] List.nil_prefix (by rw [closed]; rfl)
        rw [found]
        exact iff_of_false (Option.some_ne_none _) ended
      · rw [continued, Option.map_eq_none_iff, inductionHypothesis deeper, depthInside]

/-- A text in which the search within open braces fails leaves some of them open. -/
theorem nesting_pos_of_splitClosing {depth : Nat} (within : 1 ≤ depth) {text : List Char}
    (unclosed : splitClosing depth text = none) : 0 < depth + nesting text := by
  induction text generalizing depth with
  | nil =>
      rw [nesting_nil]
      omega
  | cons char rest inductionHypothesis =>
      obtain ⟨-, found⟩ | ⟨inside, deeper, depthInside, continued⟩ :=
        splitClosing_cons within char rest
      · rw [found] at unclosed
        cases unclosed
      · rw [continued, Option.map_eq_none_iff] at unclosed
        have positive := inductionHypothesis deeper unclosed
        rw [nesting_cons]
        omega

/-- Braces that are open at once are closed one after the other. -/
theorem splitClosing_add {outer inner : Nat} (outerOpen : 1 ≤ outer) (innerOpen : 1 ≤ inner)
    (text : List Char) :
    splitClosing (inner + outer) text =
      (splitClosing inner text).bind fun (before, between) =>
        (splitClosing outer between).map fun (more, after) =>
          (before ++ '}' :: more, after) := by
  induction text generalizing inner with
  | nil => rfl
  | cons char rest inductionHypothesis =>
      by_cases opens : char = '{'
      · subst opens
        have deeper : inner + outer + 1 = inner + 1 + outer := by omega
        simp [splitClosing, deeper, inductionHypothesis (Nat.le_succ_of_le innerOpen),
          Option.map_bind, Option.bind_map, Function.comp_def]
      · by_cases closes : char = '}'
        · subst closes
          have several : ¬ inner + outer ≤ 1 := by omega
          by_cases last : inner = 1
          · subst last
            simp [splitClosing, several]
          · have more : ¬ inner ≤ 1 := by omega
            have lower : inner + outer - 1 = inner - 1 + outer := by omega
            simp [splitClosing, several, more, lower,
              @inductionHypothesis (inner - 1) (by omega), Option.map_bind,
              Option.bind_map, Function.comp_def]
        · simp [splitClosing, opens, closes, inductionHypothesis innerOpen, Option.map_bind,
            Option.bind_map, Function.comp_def]

/-- What stands before the brace that closes an open one is balanced. -/
theorem balanced_of_splitClosing {text before after : List Char}
    (split : splitClosing 1 text = some (before, after)) : Balanced before := by
  -- The braces opened within are closed within, which gives two shorter texts at each of them.
  induction length : text.length using Nat.strong_induction_on generalizing text before after with
  | _ length inductionHypothesis =>
    subst length
    cases text with
    | nil => simp [splitClosing] at split
    | cons char rest =>
        by_cases opens : char = '{'
        · subst opens
          have opened : splitClosing 1 ('{' :: rest) =
              (splitClosing (1 + 1) rest).map fun (before, after) => ('{' :: before, after) := by
            simp [splitClosing]
          rw [opened] at split
          obtain ⟨⟨_, _⟩, twice, equal⟩ := Option.map_eq_some_iff.1 split
          cases equal
          rw [splitClosing_add (Nat.le_refl 1) (Nat.le_refl 1)] at twice
          obtain ⟨⟨inner, between⟩, first, twice⟩ := Option.bind_eq_some_iff.1 twice
          obtain ⟨⟨more, _⟩, second, equal⟩ := Option.map_eq_some_iff.1 twice
          cases equal
          have lengths := congrArg List.length (eq_append_of_splitClosing first)
          rw [List.length_append, List.length_cons] at lengths
          have within := inductionHypothesis rest.length (by simp) first rfl
          have tail := inductionHypothesis between.length (by simp; omega) second rfl
          exact .nested within tail
        · by_cases closes : char = '}'
          · subst closes
            obtain ⟨rfl, rfl⟩ : [] = before ∧ rest = after := by simpa [splitClosing] using split
            exact .nil
          · rw [splitClosing] at split
            simp only [closes, opens, false_and, if_false] at split
            obtain ⟨⟨_, _⟩, inner, equal⟩ := Option.map_eq_some_iff.1 split
            cases equal
            exact .char opens closes (inductionHypothesis rest.length (by simp) inner rfl)

/-! ## Closing one brace -/

/-- From an open brace to the end of `front`, as many braces are closed as opened. -/
def Closes (front : List Char) : Prop :=
  nesting ('{' :: front) = 0

theorem closes_iff (front : List Char) : Closes front ↔ ((1 : Nat) : Int) + nesting front = 0 := by
  rw [Closes, nesting_cons, nesting_opening]
  rfl

/-- The search for the brace that closes an open one ends at the first place that closes it. -/
theorem splitClosing_one_eq_some_iff {text before after : List Char} :
    splitClosing 1 text = some (before, after) ↔
      ∃ close, text = before ++ close :: after ∧ Closes (before ++ [close]) ∧
        ∀ front, front <+: before → ¬ Closes front := by
  simp only [closes_iff]
  exact splitClosing_eq_some_iff (Nat.le_refl 1)

/-- The search for the brace that closes an open one fails exactly if no place closes it. -/
theorem splitClosing_one_eq_none_iff {text : List Char} :
    splitClosing 1 text = none ↔ ∀ front, front <+: text → ¬ Closes front := by
  simp only [closes_iff]
  exact splitClosing_eq_none_iff (Nat.le_refl 1)

/-! ## Depth within balanced texts -/

/-- A balanced text closes as many braces as it opens. -/
theorem Balanced.nesting_eq_zero {text : List Char} (balanced : Balanced text) :
    nesting text = 0 := by
  induction balanced with
  | nil => exact nesting_nil
  | char opens closes _ inductionHypothesis =>
      rw [nesting_cons, nesting_singleton opens closes, inductionHypothesis, Int.add_zero]
  | nested _ _ innerHypothesis restHypothesis =>
      rw [nesting_cons, nesting_append, nesting_cons '}', nesting_opening, nesting_closing,
        innerHypothesis, restHypothesis]
      rfl

/-- The front of a balanced text closes no more braces than it opens. -/
theorem Balanced.nesting_nonneg {text front : List Char} (balanced : Balanced text)
    (within : front <+: text) : 0 ≤ nesting front := by
  induction balanced generalizing front with
  | nil => simp [List.prefix_nil.1 within]
  | char opens closes _ inductionHypothesis =>
      obtain rfl | ⟨tail, rfl, tail_le⟩ := List.prefix_cons_iff.1 within
      · exact Int.le_refl 0
      · rw [nesting_cons, nesting_singleton opens closes, Int.zero_add]
        exact inductionHypothesis tail_le
  | @nested inner rest innerBalanced _ innerHypothesis restHypothesis =>
      obtain rfl | ⟨tail, rfl, tail_le⟩ := List.prefix_cons_iff.1 within
      · exact Int.le_refl 0
      rw [nesting_cons, nesting_opening]
      -- The front ends within the nested text, or behind it.
      obtain within | ⟨more, rfl⟩ :=
        List.prefix_or_prefix_of_prefix tail_le (List.prefix_append inner ('}' :: rest))
      · have := innerHypothesis within
        omega
      · rw [nesting_append, innerBalanced.nesting_eq_zero]
        obtain rfl | ⟨others, rfl, others_le⟩ :=
          List.prefix_cons_iff.1 ((List.prefix_append_right_inj inner).1 tail_le)
        · simp
        · have := restHypothesis others_le
          rw [nesting_cons, nesting_closing]
          omega

/-- A text is balanced exactly if it closes as many braces as it opens, and no front of it closes
more. -/
theorem balanced_iff_nesting {text : List Char} :
    Balanced text ↔ nesting text = 0 ∧ ∀ front, front <+: text → 0 ≤ nesting front := by
  constructor
  · exact fun balanced => ⟨balanced.nesting_eq_zero, fun _ => balanced.nesting_nonneg⟩
  · rintro ⟨level, within⟩
    have split : splitClosing 1 (text ++ ['}']) = some (text, []) := by
      refine splitClosing_one_eq_some_iff.2 ⟨'}', rfl, ?_, fun front front_le closes => ?_⟩
      · rw [closes_iff, nesting_append, level, nesting_closing]
        rfl
      · have := within front front_le
        rw [closes_iff] at closes
        omega
    exact balanced_of_splitClosing split

/-- Text without braces at the two ends of a balanced text may be left out. -/
theorem Balanced.of_append_braceless {before text after : List Char}
    (balanced : Balanced (before ++ (text ++ after))) (beforeBraceless : Braceless before)
    (afterBraceless : Braceless after) : Balanced text := by
  rw [balanced_iff_nesting] at balanced ⊢
  obtain ⟨level, within⟩ := balanced
  constructor
  · simpa [beforeBraceless.nesting_eq_zero, afterBraceless.nesting_eq_zero] using level
  · intro front front_le
    have longer : before ++ front <+: before ++ (text ++ after) :=
      (List.prefix_append_right_inj before).2 (front_le.trans (List.prefix_append text after))
    simpa [beforeBraceless.nesting_eq_zero] using within _ longer

/-! ## Ends of balanced texts -/

/-- The end of a balanced text: what it opens it closes, and it may close more. -/
def EndsBalanced (text : List Char) : Prop :=
  ∃ front, Balanced (front ++ text)

theorem Balanced.endsBalanced {text : List Char} (balanced : Balanced text) :
    EndsBalanced text :=
  ⟨[], balanced⟩

theorem EndsBalanced.of_suffix {text rest : List Char} (ends : EndsBalanced text)
    (within : rest <:+ text) : EndsBalanced rest := by
  obtain ⟨front, balanced⟩ := ends
  obtain ⟨more, rfl⟩ := within
  exact ⟨front ++ more, by rwa [List.append_assoc]⟩

/-- A brace that is opened at the end of a balanced text is closed there. -/
theorem EndsBalanced.exists_splitClosing {inner : List Char}
    (ends : EndsBalanced ('{' :: inner)) :
    ∃ body after, splitClosing 1 inner = some (body, after) := by
  obtain ⟨front, balanced⟩ := ends
  cases closed : splitClosing 1 inner with
  | some parts => exact ⟨parts.1, parts.2, rfl⟩
  | none =>
      have level := balanced.nesting_eq_zero
      have before := balanced.nesting_nonneg (List.prefix_append front ('{' :: inner))
      have unclosed := nesting_pos_of_splitClosing (Nat.le_refl 1) closed
      rw [nesting_append, nesting_cons, nesting_opening] at level
      omega

end InterfaceGen.Source
