import InterfaceGen.Naming.Kebab
import InterfaceGen.Proofs.Text.Case
import InterfaceGen.Proofs.Text.Lines
import InterfaceGen.Proofs.Text.Lowering

/-!
# The kebab case of names

Names are written in kebab case character by character: a character writes its lower-case form, a
hyphen, both or nothing, and what it writes depends on what follows through the next character
alone. So kebab case keeps the letters and digits of a name, and of a name that ends in one of these
it makes words with one hyphen between each two.
-/

namespace InterfaceGen

open Text

/-! ## One character -/

/-- A character of a name writes some characters behind a last one, and leaves a new last one. An
underscore asks for a hyphen; another character writes its lower-case form, or this behind a hyphen
of its own. No hyphen is written at the front or behind another one. -/
inductive Writes (written : Option Char) : Char → List Char → Option Char → Prop where
  | nothing (shut : allowsHyphen written = false) : Writes written '_' [] written
  | hyphen (able : allowsHyphen written = true) : Writes written '_' ['-'] (some '-')
  | letter {char small : Char} (letter : char ≠ '_') (lowered : lowerChar char = [small])
      (isSmall : isSmall small = true) : Writes written char [small] (some small)
  | word {char small : Char} (letter : char ≠ '_') (lowered : lowerChar char = [small])
      (isSmall : isSmall small = true) (able : allowsHyphen written = true) :
      Writes written char ['-', small] (some small)

/-- A hyphen may follow a small letter or a digit. -/
theorem allowsHyphen_of_isSmall {char : Char} (small : isSmall char = true) :
    allowsHyphen (some char) = true := by
  simp [allowsHyphen, ne_of_isSmall small]

theorem kebabFrom_underscore (previous written : Option Char) (rest : List Char) :
    kebabFrom previous written ('_' :: rest) =
      if allowsHyphen written then '-' :: kebabFrom (some '_') (some '-') rest
      else kebabFrom (some '_') written rest := by
  rw [kebabFrom, if_pos rfl]

/-- A capital writes its lower-case form, behind a hyphen where a word may begin and does. -/
theorem kebabFrom_capital {char : Char} (named : isNameChar char = true)
    (capital : char.isUpper = true) (previous written : Option Char) (rest : List Char) :
    kebabFrom previous written (char :: rest) =
      (if allowsHyphen written && startsWord previous rest then ['-'] else []) ++
        char.toLower :: kebabFrom (some char) (some char.toLower) rest := by
  have letter : char ≠ '_' := by
    rintro rfl
    exact absurd capital (by decide)
  have upper : isUppercase char = true := by rw [isUppercase_of_isNameChar char named, capital]
  rw [kebabFrom, if_neg letter, if_pos upper, lowerChar_of_isNameChar char named]
  simp

/-- A small letter or a digit writes itself. -/
theorem kebabFrom_small {char : Char} (named : isNameChar char = true) (letter : char ≠ '_')
    (small : char.isUpper = false) (previous written : Option Char) (rest : List Char) :
    kebabFrom previous written (char :: rest) = char :: kebabFrom (some char) (some char) rest := by
  have lower : ¬ isUppercase char = true := by
    rw [isUppercase_of_isNameChar char named, small]
    exact Bool.false_ne_true
  rw [kebabFrom, if_neg letter, if_neg lower]

/-- What a character of a name writes depends on what follows through the next character alone. -/
theorem exists_writes {char : Char} (named : isNameChar char = true)
    (previous written next : Option Char) :
    ∃ wrote last, Writes written char wrote last ∧ ∀ rest : List Char, rest.head? = next →
      kebabFrom previous written (char :: rest) = wrote ++ kebabFrom (some char) last rest := by
  by_cases underscore : char = '_'
  · subst underscore
    cases able : allowsHyphen written with
    | true =>
        refine ⟨_, _, .hyphen able, fun rest _ => ?_⟩
        rw [kebabFrom_underscore, if_pos able]
        rfl
    | false =>
        refine ⟨_, _, .nothing able, fun rest _ => ?_⟩
        rw [kebabFrom_underscore, able]
        rfl
  · have lowered := lowerChar_of_isNameChar char named
    have small := isSmall_toLower char named underscore
    cases capital : char.isUpper with
    | false =>
        refine ⟨_, _, .letter underscore lowered small, fun rest _ => ?_⟩
        rw [kebabFrom_small named underscore capital, toLower_of_not_isUpper capital]
        rfl
    | true =>
        by_cases begins : (allowsHyphen written &&
            (!previous.any isUppercase || next.any isLowercase)) = true
        · refine ⟨_, _, .word underscore lowered small (Bool.and_eq_true_iff.1 begins).1, ?_⟩
          intro rest follows
          rw [kebabFrom_capital named capital, startsWord, follows, if_pos begins]
          rfl
        · refine ⟨_, _, .letter underscore lowered small, fun rest follows => ?_⟩
          rw [kebabFrom_capital named capital, startsWord, follows, if_neg begins]
          rfl

/-- A character other than the underscore leaves a last one that a hyphen may follow. -/
theorem Writes.able {char : Char} {written last : Option Char} {wrote : List Char}
    (writes : Writes written char wrote last) (letter : char ≠ '_') : allowsHyphen last = true := by
  cases writes with
  | nothing => exact absurd rfl letter
  | hyphen => exact absurd rfl letter
  | letter _ _ small => exact allowsHyphen_of_isSmall small
  | word _ _ small => exact allowsHyphen_of_isSmall small

/-! ## Letters -/

/-- What a character writes is its lower-case form and hyphens, or hyphens for an underscore. -/
theorem Writes.filter_eq {char : Char} {written last : Option Char} {wrote : List Char}
    (writes : Writes written char wrote last) :
    wrote.filter (· ≠ '-') = (lowerChar char).filter (· ≠ '_') := by
  have underscore : (lowerChar '_').filter (· ≠ '_') = [] := by decide
  cases writes with
  | nothing => exact underscore.symm
  | hyphen => exact underscore.symm
  | letter _ lowered small => simp [lowered, ne_of_isSmall small]
  | word _ lowered small => simp [lowered, ne_of_isSmall small]

/-- Kebab case keeps the lower-case forms of all characters but the underscores. -/
theorem filter_kebabFrom {text : List Char} (named : ∀ char ∈ text, isNameChar char = true)
    (previous written : Option Char) :
    (kebabFrom previous written text).filter (· ≠ '-') = (lower text).filter (· ≠ '_') := by
  induction text generalizing previous written with
  | nil => rfl
  | cons char rest inductionHypothesis =>
      obtain ⟨here, later⟩ := List.forall_mem_cons.1 named
      obtain ⟨wrote, last, writes, step⟩ := exists_writes here previous written rest.head?
      rw [step rest rfl, lower_cons, List.filter_append, List.filter_append, writes.filter_eq,
        inductionHypothesis later]

/-- Kebab case is written in small letters, digits and hyphens. -/
theorem forall_mem_kebabFrom {text : List Char} (named : ∀ char ∈ text, isNameChar char = true)
    (previous written : Option Char) :
    ∀ char ∈ kebabFrom previous written text, char = '-' ∨ isSmall char = true := by
  induction text generalizing previous written with
  | nil => exact nofun
  | cons char rest inductionHypothesis =>
      obtain ⟨here, later⟩ := List.forall_mem_cons.1 named
      obtain ⟨wrote, last, writes, step⟩ := exists_writes here previous written rest.head?
      rw [step rest rfl]
      refine List.forall_mem_append.2 ⟨?_, inductionHypothesis later _ _⟩
      cases writes with
      | nothing => exact nofun
      | hyphen => simp
      | letter _ _ small => simp [small]
      | word _ _ small => simp [small]

/-- Small letters, digits and hyphens are kept as they are. -/
theorem kebabFrom_eq_self {text : List Char}
    (plain : ∀ char ∈ text, char = '-' ∨ isSmall char = true) (previous written : Option Char) :
    kebabFrom previous written text = text := by
  induction text generalizing previous written with
  | nil => rfl
  | cons char rest inductionHypothesis =>
      obtain ⟨here, later⟩ := List.forall_mem_cons.1 plain
      have kept : char ≠ '_' ∧ ¬ isUppercase char = true := by
        obtain rfl | small := here
        · decide
        · exact ⟨(ne_of_isSmall small).1, by simp [isUppercase_of_isSmall small]⟩
      rw [kebabFrom, if_neg kept.1, if_neg kept.2, inductionHypothesis later]

/-- What is in kebab case stays so. -/
theorem kebab_kebab {name : String} (named : ∀ char ∈ name.toList, isNameChar char = true) :
    kebab (kebab name) = kebab name := by
  rw [kebab, kebab, String.toList_ofList]
  rw [kebabFrom_eq_self (forall_mem_kebabFrom named none none)]

/-! ## Words -/

/-- A word in kebab case has small letters and digits, and at least one of these. -/
def IsKebabWord (word : String) : Prop :=
  word ≠ "" ∧ ∀ char ∈ word.toList, isSmall char = true

/-- The rest of a text in kebab case, of which some was read. Where this ended in a word the rest
may end at once, or begin with a hyphen. -/
inductive KebabRest : Bool → List Char → Prop where
  | done : KebabRest true []
  | letter {within : Bool} {char : Char} {rest : List Char} (small : isSmall char = true)
      (more : KebabRest true rest) : KebabRest within (char :: rest)
  | hyphen {rest : List Char} (more : KebabRest false rest) : KebabRest true ('-' :: rest)

/-- What a character writes goes on in kebab case if what is written behind it does. -/
theorem Writes.kebabRest {char : Char} {written last : Option Char} {wrote rest : List Char}
    (writes : Writes written char wrote last) (more : KebabRest (allowsHyphen last) rest) :
    KebabRest (allowsHyphen written) (wrote ++ rest) := by
  cases writes with
  | nothing => exact more
  | hyphen able =>
      rw [able]
      exact .hyphen more
  | letter _ _ small =>
      rw [allowsHyphen_of_isSmall small] at more
      exact .letter small more
  | word _ _ small able =>
      rw [allowsHyphen_of_isSmall small] at more
      rw [able]
      exact .hyphen (.letter small more)

/-- A name that does not end in an underscore goes on in kebab case, wherever it is cut. -/
theorem kebabRest_kebabFrom {front : List Char} {final : Char}
    (named : ∀ char ∈ front, isNameChar char = true) (finalNamed : isNameChar final = true)
    (letter : final ≠ '_') (previous written : Option Char) :
    KebabRest (allowsHyphen written) (kebabFrom previous written (front ++ [final])) := by
  induction front generalizing previous written with
  | nil =>
      obtain ⟨wrote, last, writes, step⟩ := exists_writes finalNamed previous written none
      rw [List.nil_append, step [] rfl]
      apply writes.kebabRest
      rw [writes.able letter]
      exact .done
  | cons char rest inductionHypothesis =>
      obtain ⟨here, later⟩ := List.forall_mem_cons.1 named
      obtain ⟨wrote, last, writes, step⟩ :=
        exists_writes here previous written (rest ++ [final]).head?
      rw [List.cons_append, step _ rfl]
      exact writes.kebabRest (inductionHypothesis later _ _)

/-- The rest of a text in kebab case is the rest of one word, and words with one hyphen before each.
Only within a word the rest of this may be empty. -/
theorem KebabRest.exists_words {within : Bool} {text : List Char} (kebab : KebabRest within text) :
    ∃ word words, text = ['-'].intercalate (word :: words) ∧ (within = false → word ≠ []) ∧
      (∀ char ∈ word, isSmall char = true) ∧
        ∀ other ∈ words, other ≠ [] ∧ ∀ char ∈ other, isSmall char = true := by
  induction kebab with
  | done => exact ⟨[], [], rfl, nofun, nofun, nofun⟩
  | @letter _ char _ small _ inductionHypothesis =>
      obtain ⟨word, words, rfl, -, smalls, others⟩ := inductionHypothesis
      refine ⟨char :: word, words, ?_, nofun, List.forall_mem_cons.2 ⟨small, smalls⟩, others⟩
      cases words <;> simp
  | hyphen _ inductionHypothesis =>
      obtain ⟨word, words, rfl, nonempty, smalls, others⟩ := inductionHypothesis
      exact ⟨[], word :: words, by simp, nofun, nofun,
        List.forall_mem_cons.2 ⟨⟨nonempty rfl, smalls⟩, others⟩⟩

/-- A text in kebab case is words with one hyphen between each two. -/
theorem KebabRest.exists_join {text : List Char} (kebab : KebabRest false text) :
    ∃ words : List String, words ≠ [] ∧ (∀ word ∈ words, IsKebabWord word) ∧
      String.ofList text = join "-" words := by
  obtain ⟨word, words, rfl, nonempty, smalls, others⟩ := kebab.exists_words
  refine ⟨(word :: words).map String.ofList, by simp, ?_, ?_⟩
  · intro name member
    obtain ⟨part, listed, rfl⟩ := List.mem_map.1 member
    have small : part ≠ [] ∧ ∀ char ∈ part, isSmall char = true := by
      obtain rfl | later := List.mem_cons.1 listed
      · exact ⟨nonempty rfl, smalls⟩
      · exact others part later
    simpa [IsKebabWord] using small
  · apply String.toList_inj.1
    rw [toList_join, String.toList_ofList, List.map_map]
    simp [Function.comp_def]

/-! ## What follows a name -/

/-- What a name writes at the front of a text depends on what follows through the next character
alone. Behind one without underscores there may be a hyphen. -/
theorem exists_kebabFrom_append {front : List Char}
    (named : ∀ char ∈ front, isNameChar char = true) (previous written next : Option Char) :
    ∃ wrote last,
      (∀ rest : List Char, rest.head? = next → kebabFrom previous written (front ++ rest) =
        wrote ++ kebabFrom (front.getLast?.or previous) last rest) ∧
      ('_' ∉ front → front ≠ [] ∨ allowsHyphen written = true → allowsHyphen last = true) := by
  induction front generalizing previous written with
  | nil => exact ⟨[], written, fun _ _ => rfl, fun _ able => able.resolve_left (absurd rfl)⟩
  | cons char others inductionHypothesis =>
      obtain ⟨here, later⟩ := List.forall_mem_cons.1 named
      obtain ⟨wrote, last, writes, step⟩ :=
        exists_writes here previous written (others.head?.or next)
      obtain ⟨wroteLater, lastLater, stepLater, able⟩ := inductionHypothesis later (some char) last
      refine ⟨wrote ++ wroteLater, lastLater, ?_, ?_⟩
      · intro rest follows
        have head : (others ++ rest).head? = others.head?.or next := by
          rw [List.head?_append, follows]
        rw [List.cons_append, step _ head, stepLater rest follows, List.getLast?_cons]
        cases others.getLast? <;> simp
      · intro letters _
        rw [List.mem_cons, not_or] at letters
        exact able letters.2 (.inr (writes.able (Ne.symm letters.1)))

end InterfaceGen
