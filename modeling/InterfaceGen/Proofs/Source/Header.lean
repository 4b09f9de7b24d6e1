import InterfaceGen.Proofs.Source.Opening
import InterfaceGen.Proofs.Text.Lines

/-!
# Headers

What a line looks like that declares a name and ends before the brace. It holds nothing else, so
that prose which merely uses the words is none. The search goes through the lines of a text.
-/

namespace InterfaceGen.Source

open Text

namespace Header

/-! ## Ways to write a header -/

/-- A text of spaces and tabs. -/
def IsSpacing (text : List Char) : Prop :=
  ∀ char ∈ text, isGap char = true

/-- The ways to write a modifier that may be left out: not at all, or with spacing behind it. -/
inductive ModifierLayout (word : List Char) : List Char → Prop where
  | absent : ModifierLayout word []
  | present {gap : List Char} (separated : gap ≠ []) (spacing : IsSpacing gap) :
      ModifierLayout word (word ++ gap)

/-- The ways to end a line behind the name of a header. -/
inductive TailLayout : List Char → Prop where
  | write {before equals after ending : List Char} (beforeEquals : IsSpacing before)
      (equal : equals = [] ∨ equals = ['=']) (afterEquals : IsSpacing after)
      (ends : ending = [] ∨ ending = ['\r']) :
      TailLayout (before ++ (equals ++ (after ++ ending)))

/-- The ways to write a line that declares a name and ends before the brace, as the part up to the
end of the name and the part behind it. -/
inductive HeaderLayout (name : List Char) : List Char → List Char → Prop where
  | write {indentation exported declared keyword gap tail : List Char}
      (indented : IsSpacing indentation) (exports : ModifierLayout "export".toList exported)
      (declares : ModifierLayout "declare".toList declared)
      (word : keyword = "interface".toList ∨ keyword = "type".toList) (separated : gap ≠ [])
      (spacing : IsSpacing gap) (named : IsName name) (trail : TailLayout tail) :
      HeaderLayout name
        (indentation ++ (exported ++ (declared ++ (keyword ++ (gap ++ name))))) tail

/-- A line is a header for a name, with `lead` up to the end of the name. -/
def IsHeader (line name lead : List Char) : Prop :=
  ∃ tail, HeaderLayout name lead tail ∧ line = lead ++ tail

theorem HeaderLayout.trail {name lead tail : List Char} (layout : HeaderLayout name lead tail) :
    TailLayout tail := by
  cases layout with
  | write _ _ _ _ _ _ _ trail => exact trail

/-- What ends a header may be replaced. -/
theorem HeaderLayout.of_tail {name lead tail other : List Char}
    (layout : HeaderLayout name lead tail) (trail : TailLayout other) :
    HeaderLayout name lead other := by
  cases layout with
  | write indented exports declares word separated spacing named _ =>
      exact .write indented exports declares word separated spacing named trail

/-- The part up to the end of the name ends with the name. -/
theorem HeaderLayout.exists_append {name lead tail : List Char}
    (layout : HeaderLayout name lead tail) : IsName name ∧ ∃ front, lead = front ++ name := by
  cases layout with
  | @write indentation exported declared keyword gap _ _ _ _ _ _ _ named _ =>
      exact ⟨named, indentation ++ (exported ++ (declared ++ (keyword ++ gap))), by simp⟩

/-! ## Spacing and modifiers -/

theorem isGap_eq_false_of_isNameChar {char : Char} (name : isNameChar char = true) :
    isGap char = false := by
  have visible := isBlank_eq_false_of_isNameChar name
  have space : char ≠ ' ' := by
    rintro rfl
    exact absurd visible (by decide)
  have tab : char ≠ '\t' := by
    rintro rfl
    exact absurd visible (by decide)
  simp [isGap, space, tab]

theorem exists_spacing_append (text : List Char) :
    ∃ gap, IsSpacing gap ∧ text = gap ++ text.dropWhile isGap :=
  ⟨text.takeWhile isGap, List.all_eq_true.1 List.all_takeWhile,
    List.takeWhile_append_dropWhile.symm⟩

/-- Spacing is dropped up to a character that is none. -/
theorem dropWhile_isGap_append {gap : List Char} (spacing : IsSpacing gap) {char : Char}
    (visible : isGap char = false) (rest : List Char) :
    (gap ++ char :: rest).dropWhile isGap = char :: rest := by
  rw [List.dropWhile_append_of_pos spacing, List.dropWhile_cons_of_neg (by simp [visible])]

/-- What `dropModifier` drops is the modifier or nothing. -/
theorem exists_append_dropModifier (word text : List Char) :
    ∃ written, ModifierLayout word written ∧ text = written ++ dropModifier word text := by
  rw [dropModifier]
  split
  · next char rest found =>
      have split := (List.isPrefixOf?_eq_some_iff_append_eq.1 found).symm
      by_cases separated : isGap char = true
      · obtain ⟨gap, spacing, restSplit⟩ := exists_spacing_append rest
        have more : IsSpacing (char :: gap) := List.forall_mem_cons.2 ⟨separated, spacing⟩
        refine ⟨word ++ char :: gap, .present (List.cons_ne_nil char gap) more, ?_⟩
        rw [if_pos separated, split]
        nth_rewrite 1 [restSplit]
        simp
      · exact ⟨[], .absent, by rw [if_neg separated]; rfl⟩
  · exact ⟨[], .absent, rfl⟩

/-- A modifier is dropped in front of text that does not begin with it. -/
theorem ModifierLayout.dropModifier_append {word written : List Char}
    (layout : ModifierLayout word written) {char : Char} (visible : isGap char = false)
    {rest : List Char} (other : ¬ word <+: char :: rest) :
    dropModifier word (written ++ char :: rest) = char :: rest := by
  cases layout with
  | absent =>
      have failed : word.isPrefixOf? (char :: rest) = none := by
        rw [Option.eq_none_iff_forall_ne_some]
        intro more found
        exact other ⟨more, List.isPrefixOf?_eq_some_iff_append_eq.1 found⟩
      simp [dropModifier, failed]
  | @present gap separated spacing =>
      obtain ⟨first, others, rfl⟩ := List.exists_cons_of_ne_nil separated
      obtain ⟨gapFirst, gapOthers⟩ := List.forall_mem_cons.1 spacing
      have found : word.isPrefixOf? (word ++ (first :: others ++ char :: rest)) =
          some (first :: (others ++ char :: rest)) :=
        List.isPrefixOf?_eq_some_iff_append_eq.2 rfl
      rw [List.append_assoc, dropModifier, found]
      simp only [if_pos gapFirst]
      exact dropWhile_isGap_append gapOthers visible rest

/-- A modifier begins with its word's first letter, and without it the text behind it begins. -/
theorem ModifierLayout.exists_cons {first : Char} {others written : List Char}
    (layout : ModifierLayout (first :: others) written) (char : Char) (rest : List Char) :
    ∃ front more, written ++ char :: rest = front :: more ∧ (front = first ∨ front = char) := by
  cases layout with
  | absent => exact ⟨char, rest, rfl, .inr rfl⟩
  | present => exact ⟨first, _, rfl, .inl rfl⟩

/-- Spacing and both modifiers are dropped in front of a keyword. Each part begins with a letter of
its own, which is no gap and begins no other part. -/
theorem dropModifiers_append {indentation exported declared : List Char}
    (indented : IsSpacing indentation) (exports : ModifierLayout "export".toList exported)
    (declares : ModifierLayout "declare".toList declared) {letter : Char}
    (begins : letter = 'i' ∨ letter = 't') (rest : List Char) :
    dropModifier "declare".toList (dropModifier "export".toList
      ((indentation ++ (exported ++ (declared ++ letter :: rest))).dropWhile isGap)) =
      letter :: rest := by
  have letterVisible : isGap letter = false := by rcases begins with rfl | rfl <;> rfl
  have undeclared : ¬ "declare".toList <+: letter :: rest := by
    rcases begins with rfl | rfl <;> exact fun same => absurd (List.cons_prefix_cons.1 same).1
      (by decide)
  obtain ⟨second, secondRest, declaredFront, secondLetter⟩ := declares.exists_cons letter rest
  have secondVisible : isGap second = false := by
    rcases secondLetter with rfl | rfl
    · rfl
    · exact letterVisible
  have unexported : ¬ "export".toList <+: second :: secondRest := by
    intro same
    obtain rfl : 'e' = second := (List.cons_prefix_cons.1 same).1
    rcases secondLetter with impossible | rfl
    · exact absurd impossible (by decide)
    · exact absurd begins (by decide)
  obtain ⟨first, firstRest, exportedFront, firstLetter⟩ := exports.exists_cons second secondRest
  have firstVisible : isGap first = false := by
    rcases firstLetter with rfl | rfl
    · rfl
    · exact secondVisible
  calc dropModifier "declare".toList (dropModifier "export".toList
        ((indentation ++ (exported ++ (declared ++ letter :: rest))).dropWhile isGap))
      = dropModifier "declare".toList (dropModifier "export".toList
          (exported ++ second :: secondRest)) := by
        rw [declaredFront, exportedFront, dropWhile_isGap_append indented firstVisible]
    _ = dropModifier "declare".toList (declared ++ letter :: rest) := by
        rw [exports.dropModifier_append secondVisible unexported, declaredFront]
    _ = letter :: rest := declares.dropModifier_append letterVisible undeclared

/-! ## Reading a header -/

/-- What ends a line behind the name of a header continues no name. -/
theorem TailLayout.isNameChar_head? {tail : List Char} (trail : TailLayout tail) :
    ∀ char ∈ tail.head?, isNameChar char = false := by
  have gapless {char : Char} (gap : isGap char = true) : isNameChar char = false :=
    Bool.eq_false_iff.2 fun name => by simp [isGap_eq_false_of_isNameChar name] at gap
  cases trail with
  | @write before equals after ending beforeEquals equal afterEquals ends =>
      cases before with
      | cons first others => simpa using gapless (beforeEquals _ List.mem_cons_self)
      | nil =>
          rcases equal with rfl | rfl
          · cases after with
            | cons first others => simpa using gapless (afterEquals _ List.mem_cons_self)
            | nil =>
                have carriageReturn : isNameChar '\r' = false := by decide
                rcases ends with rfl | rfl <;> simp [carriageReturn]
          · have sign : isNameChar '=' = false := by decide
            simp [sign]

/-- A line ends as it may behind the name of a header exactly if nothing but a carriage return is
left when spacing and an equals sign are dropped. -/
theorem tailLayout_iff {tail : List Char} :
    TailLayout tail ↔
      (dropEquals (tail.dropWhile isGap)).dropWhile isGap = [] ∨
        (dropEquals (tail.dropWhile isGap)).dropWhile isGap = ['\r'] := by
  constructor
  · rintro ⟨beforeEquals, equal, afterEquals, ends⟩
    rw [List.dropWhile_append_of_pos beforeEquals]
    rcases equal with rfl | rfl
    · rw [List.nil_append, List.dropWhile_append_of_pos afterEquals]
      rcases ends with rfl | rfl
      · exact .inl rfl
      · exact .inr (by decide)
    · have sign : isGap '=' = false := by decide
      rw [List.singleton_append, List.dropWhile_cons_of_neg (by simp [sign]), dropEquals,
        List.dropWhile_append_of_pos afterEquals]
      rcases ends with rfl | rfl
      · exact .inl rfl
      · exact .inr (by decide)
  · intro left
    obtain ⟨before, beforeEquals, beforeSplit⟩ := exists_spacing_append tail
    obtain ⟨equals, equal, equalSplit⟩ := exists_append_dropEquals (tail.dropWhile isGap)
    obtain ⟨after, afterEquals, afterSplit⟩ :=
      exists_spacing_append (dropEquals (tail.dropWhile isGap))
    rw [beforeSplit, equalSplit, afterSplit]
    exact .write beforeEquals equal afterEquals left

/-- What is read as the name of a header is written so, behind spacing. -/
theorem exists_layout_of_readName? {text name tail : List Char}
    (read : readName? text = some (name, tail)) :
    ∃ gap, gap ≠ [] ∧ IsSpacing gap ∧ IsName name ∧ TailLayout tail ∧
      text = gap ++ (name ++ tail) := by
  cases text with
  | nil => cases read
  | cons char rest =>
      obtain ⟨gap, spacing, restSplit⟩ := exists_spacing_append rest
      simp only [readName?] at read
      by_cases unnamed : (rest.dropWhile isGap).takeWhile isNameChar = []
      · simp [unnamed] at read
      by_cases separated : isGap char = true
      · rw [if_neg (by simp [separated, unnamed])] at read
        have named : IsName ((rest.dropWhile isGap).takeWhile isNameChar) :=
          ⟨unnamed, List.all_eq_true.1 List.all_takeWhile⟩
        have more : IsSpacing (char :: gap) := List.forall_mem_cons.2 ⟨separated, spacing⟩
        have written : char :: rest = char :: gap ++
            ((rest.dropWhile isGap).takeWhile isNameChar ++
              (rest.dropWhile isGap).dropWhile isNameChar) := by
          rw [List.takeWhile_append_dropWhile, List.cons_append, ← restSplit]
        split at read
        · next ended =>
            cases read
            exact ⟨char :: gap, List.cons_ne_nil _ _, more, named,
              tailLayout_iff.2 (.inl ended), written⟩
        · next ended =>
            cases read
            exact ⟨char :: gap, List.cons_ne_nil _ _, more, named,
              tailLayout_iff.2 (.inr ended), written⟩
        · cases read
      · simp [separated] at read

/-- The name of a header reads back, and what follows it is left. -/
theorem readName?_append {gap name tail : List Char} (separated : gap ≠ [])
    (spacing : IsSpacing gap) (named : IsName name) (trail : TailLayout tail) :
    readName? (gap ++ (name ++ tail)) = some (name, tail) := by
  obtain ⟨char, others, rfl⟩ := List.exists_cons_of_ne_nil separated
  obtain ⟨gapFirst, gapOthers⟩ := List.forall_mem_cons.1 spacing
  obtain ⟨first, more, rfl⟩ := List.exists_cons_of_ne_nil named.1
  have visible := isGap_eq_false_of_isNameChar (named.2 first List.mem_cons_self)
  have dropped : (others ++ (first :: more ++ tail)).dropWhile isGap = first :: more ++ tail :=
    dropWhile_isGap_append gapOthers visible _
  have ended : tail.takeWhile isNameChar = [] ∧ tail.dropWhile isNameChar = tail := by
    cases tail with
    | nil => exact ⟨rfl, rfl⟩
    | cons stop rest =>
        have outside := trail.isNameChar_head? stop rfl
        exact ⟨List.takeWhile_cons_of_neg (by simp [outside]),
          List.dropWhile_cons_of_neg (by simp [outside])⟩
  have taken : (first :: more ++ tail).takeWhile isNameChar = first :: more := by
    rw [List.takeWhile_append_of_pos named.2, ended.1, List.append_nil]
  have left : (first :: more ++ tail).dropWhile isNameChar = tail := by
    rw [List.dropWhile_append_of_pos named.2, ended.2]
  rw [List.cons_append, readName?]
  simp only [dropped, taken, left, gapFirst]
  rcases tailLayout_iff.1 trail with ended | ended <;> simp [ended]

/-- The part of a line up to the end of the name is the line without what follows. -/
theorem take_length_sub_length (lead tail : List Char) :
    (lead ++ tail).take ((lead ++ tail).length - tail.length) = lead := by
  simp

/-- A line that is read as a header is written as one. -/
theorem isHeader_of_read? {line name lead : List Char} (read : read? line = some ⟨name, lead⟩) :
    IsHeader line name lead := by
  obtain ⟨indentation, indented, indentSplit⟩ := exists_spacing_append line
  obtain ⟨exported, exports, exportSplit⟩ :=
    exists_append_dropModifier "export".toList (line.dropWhile isGap)
  obtain ⟨declared, declares, declareSplit⟩ := exists_append_dropModifier "declare".toList
    (dropModifier "export".toList (line.dropWhile isGap))
  simp only [read?] at read
  split at read
  · cases read
  · next rest keywordRead =>
      obtain ⟨keyword, word, keywordSplit⟩ := exists_keyword_of_afterKeyword? keywordRead
      split at read
      · cases read
      · next name tail nameRead =>
          obtain ⟨gap, separated, spacing, named, trail, restSplit⟩ :=
            exists_layout_of_readName? nameRead
          have split : line = (indentation ++ (exported ++ (declared ++ (keyword ++
              (gap ++ name))))) ++ tail := by
            simp only [List.append_assoc]
            rw [← restSplit, ← keywordSplit, ← declareSplit, ← exportSplit, ← indentSplit]
          rw [split, take_length_sub_length] at read
          cases read
          exact ⟨tail, .write indented exports declares word separated spacing named trail, split⟩

/-- A line that is written as a header reads back. -/
theorem HeaderLayout.read?_append {name lead tail : List Char}
    (layout : HeaderLayout name lead tail) : read? (lead ++ tail) = some ⟨name, lead⟩ := by
  have front := take_length_sub_length lead tail
  cases layout with
  | @write indentation exported declared keyword gap _ indented exports declares word separated
      spacing named trail =>
      obtain ⟨letter, rest, keywordFront, begins⟩ :
          ∃ letter rest, keyword ++ (gap ++ (name ++ tail)) = letter :: rest ∧
            (letter = 'i' ∨ letter = 't') := by
        rcases word with rfl | rfl
        · exact ⟨'i', _, rfl, .inl rfl⟩
        · exact ⟨'t', _, rfl, .inr rfl⟩
      have start := dropModifiers_append indented exports declares begins rest
      have keywordRead := afterKeyword?_append word (gap ++ (name ++ tail))
      have nameRead := readName?_append separated spacing named trail
      rw [← keywordFront] at start
      simp only [List.append_assoc] at front ⊢
      simp only [read?, start, keywordRead, nameRead, front]

/-- A header is read from a line exactly if the line is one. -/
theorem read?_eq_some_iff {line name lead : List Char} :
    read? line = some ⟨name, lead⟩ ↔ IsHeader line name lead := by
  constructor
  · exact isHeader_of_read?
  · rintro ⟨tail, layout, rfl⟩
    exact layout.read?_append

theorem read?_eq_none_iff {line : List Char} :
    read? line = none ↔ ∀ name lead, ¬ IsHeader line name lead := by
  rw [Option.eq_none_iff_forall_ne_some]
  exact ⟨fun none name lead isHeader => none ⟨name, lead⟩ (read?_eq_some_iff.2 isHeader),
    fun none header read => none header.name header.lead (read?_eq_some_iff.1 read)⟩

/-! ## Searching for a header -/

/-- The search stops at the first line that is a header, with the place behind its name. -/
theorem first?_eq_some_iff {line : Nat} {lines : List (List Char)} {name : List Char}
    {position : Position} :
    first? line lines = some (name, position) ↔
      ∃ before text after lead, lines = before ++ text :: after ∧ IsHeader text name lead ∧
        (∀ other ∈ before, ∀ name lead, ¬ IsHeader other name lead) ∧
        position = ⟨line + before.length, lead.length + 1⟩ := by
  induction lines generalizing line with
  | nil => simp [first?]
  | cons text rest inductionHypothesis =>
      rw [first?]
      cases read : read? text with
      | some header =>
          have isHeader : IsHeader text header.name header.lead := read?_eq_some_iff.1 read
          constructor
          · intro found
            obtain ⟨rfl, rfl⟩ : header.name = name ∧
                (⟨line, header.lead.length + 1⟩ : Position) = position := by simpa using found
            exact ⟨[], text, rest, header.lead, rfl, isHeader, by simp, rfl⟩
          · rintro ⟨before, other, after, lead, split, isOther, none, rfl⟩
            cases before with
            | nil =>
                obtain ⟨rfl, rfl⟩ : text = other ∧ rest = after := by simpa using split
                obtain rfl : header = ⟨name, lead⟩ :=
                  Option.some.inj (read.symm.trans (read?_eq_some_iff.2 isOther))
                rfl
            | cons first others =>
                obtain ⟨rfl, -⟩ : text = first ∧ rest = others ++ other :: after := by
                  simpa using split
                exact absurd isHeader (none _ List.mem_cons_self _ _)
      | none =>
          have noHeader := read?_eq_none_iff.1 read
          simp only [inductionHypothesis]
          constructor
          · rintro ⟨before, other, after, lead, rfl, isOther, none, rfl⟩
            refine ⟨text :: before, other, after, lead, rfl, isOther,
              List.forall_mem_cons.2 ⟨noHeader, none⟩, ?_⟩
            rw [List.length_cons, Nat.add_assoc, Nat.add_comm 1]
          · rintro ⟨before, other, after, lead, split, isOther, none, rfl⟩
            cases before with
            | nil =>
                obtain ⟨rfl, rfl⟩ : text = other ∧ rest = after := by simpa using split
                exact absurd isOther (noHeader _ _)
            | cons first others =>
                obtain ⟨rfl, rfl⟩ : text = first ∧ rest = others ++ other :: after := by
                  simpa using split
                refine ⟨others, other, after, lead, rfl, isOther,
                  (List.forall_mem_cons.1 none).2, ?_⟩
                rw [List.length_cons, Nat.add_assoc, Nat.add_comm 1]

/-- The search finds no header exactly if no line is one. -/
theorem first?_eq_none_iff {line : Nat} {lines : List (List Char)} :
    first? line lines = none ↔ ∀ text ∈ lines, ∀ name lead, ¬ IsHeader text name lead := by
  induction lines generalizing line with
  | nil => simp [first?]
  | cons text rest inductionHypothesis =>
      rw [first?, List.forall_mem_cons]
      cases read : read? text with
      | some header =>
          have isHeader : IsHeader text header.name header.lead := read?_eq_some_iff.1 read
          exact ⟨nofun, fun none => absurd isHeader (none.1 _ _)⟩
      | none =>
          have noHeader := read?_eq_none_iff.1 read
          exact inductionHypothesis.trans ⟨fun none => ⟨noHeader, none⟩, And.right⟩

end Header

end InterfaceGen.Source
