import InterfaceGen.Proofs.Form.Reader

/-!
# Values and paths read back

The code of default values and of paths reads back as what it was written for, if all names in it
are names.
-/

namespace InterfaceGen

open Text TypeScript

/-! ## Default values -/

mutual

/-- Every key in a default value is a name. -/
def Default.Keyed : Default → Prop
  | .emptyText | .zero | .unchecked | .emptyArray => True
  | .object entries => KeyedDefaults entries

/-- Every key among the entries of a default value, and within them, is a name. -/
def KeyedDefaults : List (String × Default) → Prop
  | [] => True
  | (name, value) :: rest => IsName name.toList ∧ value.Keyed ∧ KeyedDefaults rest

end

namespace Form

theorem reads_literal_scalar {word : String} {value : Default} (known : (word, value) ∈ scalars)
    {before : List Char} (blanks : IsBlanks before) (rest : List Char) :
    Reads literal (before ++ (word.toList ++ rest)) value rest := by
  have separable : Separable scalars := by
    simp [Separable, scalars, Visible, Apart, isBlank]
  obtain ⟨shorter, read⟩ := reads_oneOf separable known blanks rest
  exact ⟨shorter, by rw [literal, read]⟩

/-- An object literal is read when its entries are. -/
theorem reads_literal_object {members : List (String × Default)} {inner before rest : List Char}
    (blanks : IsBlanks before) (read : Reads entries (" ".toList ++ inner) members rest) :
    Reads literal (before ++ ("\x7b ".toList ++ inner)) (.object members) rest := by
  have composite : oneOf scalars (before ++ ("\x7b ".toList ++ inner)) = none :=
    oneOf_eq_none scalars "\x7b " blanks inner (by decide) (by decide)
  have opened : Reads (token "\x7b") (before ++ ("\x7b ".toList ++ inner)) ()
      (" ".toList ++ inner) := reads_token "\x7b" blanks (" ".toList ++ inner) (by decide)
  obtain ⟨_, opened⟩ := opened
  obtain ⟨_, read⟩ := read
  refine ⟨by omega, ?_⟩
  rw [literal]
  simp only [composite, opened, read]

/-- What stands behind the value of an entry is read after a blank. -/
theorem reads_separator (word : String) (more : Bool) (known : (word, more) ∈ separators)
    {before : List Char} (blanks : IsBlanks before) (rest : List Char) :
    Reads (oneOf separators) (before ++ (word.toList ++ rest)) more rest := by
  have separable : Separable separators := by
    simp [Separable, separators, Visible, Apart, isBlank]
  exact reads_oneOf separable known blanks rest

/-- The last entry of an object literal is read with the end of the object. -/
theorem reads_entries_last {name : String} {value : Default} {before text after rest : List Char}
    (blanks : IsBlanks before) (named : IsName name.toList)
    (read : Reads literal text value after) (ended : Reads (oneOf separators) after false rest) :
    Reads entries (before ++ ((objectKey name).toList ++ (":".toList ++ text))) [(name, value)]
      rest := by
  obtain ⟨_, keyed⟩ := reads_key ":" blanks named text (by decide)
  obtain ⟨_, colon⟩ := reads_token_front ":" text (by decide)
  obtain ⟨_, read⟩ := read
  obtain ⟨_, ended⟩ := ended
  refine ⟨by omega, ?_⟩
  rw [entries]
  simp only [keyed, colon, read, ended]

/-- An entry of an object literal is read before others. -/
theorem reads_entries_cons {name : String} {value : Default} {others : List (String × Default)}
    {before text after between rest : List Char} (blanks : IsBlanks before)
    (named : IsName name.toList) (read : Reads literal text value after)
    (separated : Reads (oneOf separators) after true between)
    (more : Reads entries between others rest) :
    Reads entries (before ++ ((objectKey name).toList ++ (":".toList ++ text)))
      ((name, value) :: others) rest := by
  obtain ⟨_, keyed⟩ := reads_key ":" blanks named text (by decide)
  obtain ⟨_, colon⟩ := reads_token_front ":" text (by decide)
  obtain ⟨_, read⟩ := read
  obtain ⟨_, separated⟩ := separated
  obtain ⟨_, more⟩ := more
  refine ⟨by omega, ?_⟩
  rw [entries]
  simp only [keyed, colon, read, separated, more]

mutual

/-- The literal of a default value reads back as the value. -/
theorem reads_literal : ∀ (value : Default), value.Keyed → ∀ {before : List Char},
    IsBlanks before → ∀ rest : List Char,
      Reads literal (before ++ (value.print.toList ++ rest)) value rest
  | .emptyText, _, _, blanks, rest =>
      reads_literal_scalar (by simp [scalars, Default.print]) blanks rest
  | .zero, _, _, blanks, rest =>
      reads_literal_scalar (by simp [scalars, Default.print]) blanks rest
  | .unchecked, _, _, blanks, rest =>
      reads_literal_scalar (by simp [scalars, Default.print]) blanks rest
  | .emptyArray, _, _, blanks, rest =>
      reads_literal_scalar (by simp [scalars, Default.print]) blanks rest
  | .object [], _, _, blanks, rest =>
      reads_literal_scalar (by simp [scalars, Default.print]) blanks rest
  | .object ((name, value) :: others), keyed, before, blanks, rest => by
      have inner := reads_entries name value others keyed.1 keyed.2.1 keyed.2.2 isBlanks_space rest
      have read := reads_literal_object blanks inner
      simpa [Default.print] using read
termination_by value => sizeOf value

/-- The text of the entries of an object literal reads back as the entries. -/
theorem reads_entries : ∀ (name : String) (value : Default) (others : List (String × Default)),
    IsName name.toList → value.Keyed → KeyedDefaults others → ∀ {before : List Char},
      IsBlanks before → ∀ rest : List Char,
        Reads entries
          (before ++ ((objectKey name).toList ++ (":".toList ++ (" ".toList ++
            (value.print.toList ++ ((Default.printRest others).toList ++
              (" \x7d".toList ++ rest)))))))
          ((name, value) :: others) rest
  | name, value, [], named, keyed, _, before, blanks, rest => by
      have read := reads_literal value keyed isBlanks_space (" \x7d".toList ++ rest)
      have ended : Reads (oneOf separators) (" \x7d".toList ++ rest) false rest :=
        reads_separator "\x7d" false (by simp [separators]) isBlanks_space rest
      have whole := reads_entries_last blanks named read ended
      simpa [Default.printRest] using whole
  | name, value, (other, otherValue) :: others, named, keyed, othersKeyed, before, blanks,
      rest => by
      have more := reads_entries other otherValue others othersKeyed.1 othersKeyed.2.1
        othersKeyed.2.2 isBlanks_space rest
      have separated := reads_separator "," true (by simp [separators]) isBlanks_nil ([' '] ++
        ((objectKey other).toList ++ (":".toList ++ (" ".toList ++ (otherValue.print.toList ++
          ((Default.printRest others).toList ++ (" \x7d".toList ++ rest)))))))
      have whole := reads_entries_cons blanks named (reads_literal value keyed isBlanks_space _)
        separated more
      simpa [Default.printRest] using whole
termination_by _ value others => sizeOf value + sizeOf others + 1

end

/-! ## Paths -/

end Form

/-- A path on which each name is one, and the anchor if it has one. -/
structure Path.Named (path : Path) : Prop where
  named : ∀ segment ∈ path.segments, IsName segment.toList
  anchored : ∀ anchor ∈ path.anchor, IsName anchor.toList

/-- A path that leads to a field. -/
structure Path.Bound (path : Path) : Prop extends path.Named where
  nonempty : path.segments ≠ []

/-- The path one name further leads to a field. -/
theorem Path.Named.child {path : Path} (named : path.Named) {name : String}
    (isName : IsName name.toList) : (path.child name).Bound where
  named := by
    intro segment member
    rcases List.mem_append.1 member with within | last
    · exact named.named segment within
    · rwa [List.mem_singleton.1 last]
  anchored := named.anchored
  nonempty := by simp [Path.child]

/-- The names of a path are recovered from its dotted form. -/
theorem Path.Bound.segments_dotted {path : Path} (bound : path.Bound) :
    Form.segments path.dotted.toList = path.segments := by
  have undotted : ∀ segment ∈ path.segments.map (·.toList), '.' ∉ segment := by
    intro segment member dot
    obtain ⟨name, within, rfl⟩ := List.mem_map.1 member
    exact absurd ((bound.named name within).2 '.' dot) (by decide)
  have nonempty : path.segments.map (·.toList) ≠ [] := by simpa using bound.nonempty
  have split := List.splitOn_intercalate '.' undotted nonempty
  rw [Form.segments, Path.dotted, toList_join]
  change (['.'].intercalate _ |>.splitOn '.').map _ = _
  rw [split]
  simp

/-- The dotted form of a path is made of the characters of paths. -/
theorem Path.Bound.isPathChar_dotted {path : Path} (bound : path.Bound) :
    ∀ char ∈ path.dotted.toList, Form.isPathChar char = true := by
  have all (segments : List String) (named : ∀ segment ∈ segments, IsName segment.toList) :
      ∀ char ∈ (join "." segments).toList, Form.isPathChar char = true := by
    induction segments with
    | nil => simp [join]
    | cons first others inductionHypothesis =>
        have here : ∀ char ∈ first.toList, Form.isPathChar char = true := by
          intro char member
          rw [Form.isPathChar, (named first List.mem_cons_self).2 char member]
          rfl
        cases others with
        | nil => simpa [join] using here
        | cons next rest =>
            have later := inductionHypothesis
              fun segment member => named segment (List.mem_cons_of_mem _ member)
            intro char member
            simp only [join, String.toList_append, List.mem_append] at member
            rcases member with (inFirst | dot) | inRest
            · exact here char inFirst
            · obtain rfl : char = '.' := by simpa using dot
              decide
            · exact later char inRest
  exact all path.segments bound.named

namespace Form

/-- A path at the root is read from its literal. -/
theorem reads_literalPath {path : Path} (bound : path.Bound) (rooted : path.anchor = none)
    {before : List Char} (blanks : IsBlanks before) (rest : List Char) :
    Reads literalPath (before ++ (path.expression.toList ++ rest)) path rest := by
  have read := reads_mapped (fun dotted => (⟨none, segments dotted.toList⟩ : Path))
    (reads_quoted blanks path.dotted rest)
  obtain ⟨anchor, names⟩ := path
  cases rooted
  rw [bound.segments_dotted] at read
  exact read

/-- A path at a variable is read from its template. -/
theorem reads_templatePath {path : Path} (bound : path.Bound) {anchor : String}
    (anchored : path.anchor = some anchor) {before : List Char} (blanks : IsBlanks before)
    (rest : List Char) :
    Reads templatePath (before ++ (path.expression.toList ++ rest)) path rest := by
  have named : IsName anchor.toList := bound.anchored anchor anchored
  have split : path.expression.toList ++ rest = "`$\x7b".toList ++ (anchor.toList ++
      ('\x7d' :: '.' :: (path.dotted.toList ++ '\x60' :: rest))) := by
    simp [Path.expression, anchored, bound.nonempty]
  have visible : Visible "`$\x7b" := by decide
  have opened := List.isPrefixOf?_eq_some_iff_append_eq.2
    (rfl : "`$\x7b".toList ++ (anchor.toList ++ ('\x7d' :: '.' :: (path.dotted.toList ++
      '\x60' :: rest))) = _)
  obtain ⟨anchorTaken, anchorDropped⟩ := run_append_stop named.2
    (by decide : isNameChar '\x7d' = false) ('.' :: (path.dotted.toList ++ '\x60' :: rest))
  obtain ⟨dottedTaken, dottedDropped⟩ := run_append_stop bound.isPathChar_dotted
    (by decide : isPathChar '\x60' = false) rest
  have whole : (⟨some anchor, path.segments⟩ : Path) = path := by
    rw [← anchored]
  rw [split]
  refine reads_taking ?_ (by simp; omega)
  simp only [visible.dropBlanks_append blanks, opened, anchorTaken, anchorDropped]
  simp [List.isPrefixOf?, dottedTaken, dottedDropped, bound.segments_dotted, whole]

/-- No path is read as a literal where another word stands. -/
theorem literalPath_eq_none (word : String) {before : List Char} (blanks : IsBlanks before)
    (rest : List Char) (visible : Visible word)
    (unquoted : word.toList.head? ≠ some '"') :
    literalPath (before ++ (word.toList ++ rest)) = none := by
  rw [literalPath, mapped, quoted_eq_none word blanks rest visible unquoted]
  rfl

/-- A path is read where an expression is expected. -/
theorem reads_path {path : Path} (bound : path.Bound) {before : List Char}
    (blanks : IsBlanks before) (rest : List Char) :
    Reads Form.path (before ++ (path.expression.toList ++ rest)) path rest := by
  cases anchored : path.anchor with
  | none => exact reads_either_first (reads_literalPath bound anchored blanks rest)
  | some anchor =>
      have split : path.expression.toList ++ rest = "`$\x7b".toList ++
          ((anchor ++ "\x7d." ++ path.dotted ++ "`").toList ++ rest) := by
        simp [Path.expression, anchored, bound.nonempty]
      have noLiteral : literalPath (before ++ (path.expression.toList ++ rest)) = none := by
        rw [split]
        exact literalPath_eq_none "`$\x7b" blanks _ (by decide) (by decide)
      exact reads_either noLiteral (reads_templatePath bound anchored blanks rest)

/-- A path is read where it is the value of an attribute. -/
theorem reads_attributePath {path : Path} (bound : path.Bound) {before : List Char}
    (blanks : IsBlanks before) (rest : List Char) :
    Reads attributePath (before ++ (path.attributeValue.toList ++ rest)) path rest := by
  cases anchored : path.anchor with
  | none =>
      have plain : path.attributeValue = path.expression := by
        simp [Path.attributeValue, anchored]
      rw [plain]
      exact reads_either_first (reads_literalPath bound anchored blanks rest)
  | some anchor =>
      have split : path.attributeValue.toList ++ rest =
          "\x7b".toList ++ (path.expression.toList ++ ("\x7d".toList ++ rest)) := by
        simp [Path.attributeValue, anchored]
      rw [split]
      refine reads_either (literalPath_eq_none "\x7b" blanks _ (by decide) (by decide)) ?_
      refine reads_after (reads_token "\x7b" blanks _ (by decide)) ?_
      refine reads_after (reads_templatePath bound anchored isBlanks_nil _) ?_
      exact reads_closing "\x7d" path isBlanks_nil rest (by decide)

end Form

end InterfaceGen
