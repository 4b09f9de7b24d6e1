import InterfaceGen.Proofs.Source.Location
import InterfaceGen.Proofs.Source.Surroundings
import Mathlib.Data.List.DropRight

/-!
# Repairing a declaration

What is missing in a text can be put where it is reported. A header becomes the first opening when
a brace is put behind its name: the text had no opening before it, and the brace gives it no other
one. An open brace that is closed nowhere is closed by braces at the end of the text, as many as the
text leaves open, and more than that change nothing.
-/

namespace InterfaceGen.Source

open Text

/-! ## Closing what is left open -/

/-- What a text leaves open is left for the text behind it to close. -/
theorem exists_splitClosing_append {depth : Nat} (within : 1 ≤ depth) {text : List Char}
    (unclosed : splitClosing depth text = none) :
    ∃ left : Nat, 1 ≤ left ∧ (left : Int) = depth + nesting text ∧
      ∀ rest, splitClosing depth (text ++ rest) =
        (splitClosing left rest).map fun (before, after) => (text ++ before, after) := by
  induction text generalizing depth with
  | nil => exact ⟨depth, within, by simp, fun rest => by simp⟩
  | cons char others inductionHypothesis =>
      obtain ⟨-, found⟩ | ⟨inside, deeper, depthInside, continued⟩ :=
        splitClosing_cons within char others
      · simp [found] at unclosed
      · rw [continued, Option.map_eq_none_iff] at unclosed
        obtain ⟨left, positive, depthLeft, behind⟩ := inductionHypothesis deeper unclosed
        refine ⟨left, positive, by rw [nesting_cons]; omega, fun rest => ?_⟩
        -- The depth behind the character is the same whatever follows.
        obtain ⟨closed, -⟩ | ⟨same, -, depthSame, longer⟩ :=
          splitClosing_cons within char (others ++ rest)
        · omega
        · obtain rfl : same = inside := by omega
          rw [List.cons_append, longer, behind, Option.map_map]
          rfl

/-- A closing brace that is not the last one closes the innermost brace. -/
theorem splitClosing_cons_closing (depth : Nat) (rest : List Char) :
    splitClosing (depth + 1 + 1) ('}' :: rest) =
      (splitClosing (depth + 1) rest).map fun (before, after) => ('}' :: before, after) := by
  simp [splitClosing]

/-- Closing braces alone close what is open as soon as there are enough of them. -/
theorem splitClosing_replicate (depth count : Nat) :
    splitClosing (depth + 1) (List.replicate count '}') =
      if count < depth + 1 then none
      else some (List.replicate depth '}', List.replicate (count - (depth + 1)) '}') := by
  induction count generalizing depth with
  | zero => simp [splitClosing]
  | succ count inductionHypothesis =>
      rw [List.replicate_succ]
      cases depth with
      | zero => simp [splitClosing]
      | succ depth =>
          rw [splitClosing_cons_closing, inductionHypothesis, Nat.add_sub_add_right]
          by_cases few : count < depth + 1
          · rw [if_pos few, if_pos (Nat.succ_lt_succ few), Option.map_none]
          · rw [if_neg few, if_neg (mt Nat.lt_of_succ_lt_succ few), Option.map_some,
              List.replicate_succ]

/-- As many closing braces as `count`. -/
def closers (count : Nat) : String :=
  String.ofList (List.replicate count '}')

@[simp] theorem toList_closers (count : Nat) :
    (closers count).toList = List.replicate count '}' :=
  String.toList_ofList

/-- A text that leaves a brace open is closed by as many closing braces as it leaves open. -/
theorem exists_splitClosing_closers {text : List Char} (unclosed : splitClosing 1 text = none) :
    ∃ depth : Nat, ((depth + 1 : Nat) : Int) = nesting ('{' :: text) ∧
      ∀ count, splitClosing 1 (text ++ (closers count).toList) =
        if count < depth + 1 then none
        else some (text ++ (closers depth).toList, (closers (count - (depth + 1))).toList) := by
  obtain ⟨left, positive, depthLeft, behind⟩ :=
    exists_splitClosing_append (Nat.le_refl 1) unclosed
  obtain ⟨depth, rfl⟩ : ∃ depth, left = depth + 1 := ⟨left - 1, by omega⟩
  refine ⟨depth, by rw [nesting_cons, nesting_opening, depthLeft]; rfl, fun count => ?_⟩
  simp only [toList_closers, behind, splitClosing_replicate]
  by_cases few : count < depth + 1
  · simp only [if_pos few, Option.map_none]
  · simp only [if_neg few, Option.map_some]

/-- A declaration whose brace is closed nowhere lacks closing braces at the end of the text, as many
as the text leaves open from that brace on. With fewer of them it lacks them as before, at the same
position, and with that many or more it is the same declaration. -/
theorem Declaration.first_append_closers {text name : String} {position : Position}
    (failed : Declaration.first text = .error (.unbalancedBraces name position)) :
    ∃ (missing : Nat) (front inner : List Char) (declaration : Declaration), 1 ≤ missing ∧
      text.toList = front ++ '{' :: inner ∧ position = Position.after front ∧
      (missing : Int) = nesting ('{' :: inner) ∧ declaration.name = name ∧
      ∀ count, Declaration.first (text ++ closers count) =
        if count < missing then .error (.unbalancedBraces name position)
        else .ok declaration := by
  cases Declaration.first_eq_iff_locates.1 failed with
  | @unbalanced before head name inner opens unclosed =>
      obtain ⟨depth, depthNesting, behind⟩ :=
        exists_splitClosing_closers (splitClosing_one_eq_none_iff.2 unclosed)
      refine ⟨depth + 1, before ++ head, inner, ⟨String.ofList name,
        String.ofList (trim (inner ++ (closers depth).toList)), byteLength (before ++ head)⟩,
        by omega, by simp [opens.split], (Position.after_eq_counted _).symm, depthNesting, rfl,
        fun count => ?_⟩
      have found := Opening.first?_followedBy opens.first?_eq (closers count).toList
      have lead := (Opening.lead_followedBy opens.first?_eq (closers count).toList).trans
        opens.toOpensAt.lead_eq
      rw [Declaration.first, String.toList_append]
      simp only [found, lead, Position.after_eq_counted]
      simp only [Opening.followedBy, behind]
      by_cases few : count < depth + 1
      · simp only [if_pos few]
      · simp only [if_neg few]

/-- Text without an opening brace gives no opening to the text before it. -/
theorem not_opensAt_append {text rest : List Char} (braceless : '{' ∉ rest)
    (unopened : ∀ before head name inner, ¬ OpensAt text before head name inner)
    (before head name inner : List Char) : ¬ OpensAt (text ++ rest) before head name inner := by
  intro opens
  obtain ⟨split, unworded, layout⟩ := opensAt_iff.1 opens
  rw [← List.append_assoc] at split
  obtain ⟨more, -, rfl⟩ | ⟨more, rfl, behind⟩ := List.append_eq_append_iff.1 split
  · exact braceless (by simp)
  · cases more with
    | nil =>
        obtain rfl : '{' :: inner = rest := behind
        exact braceless List.mem_cons_self
    | cons first others =>
        obtain ⟨rfl, rfl⟩ := List.cons.inj behind
        exact unopened _ _ _ others (opensAt_iff.2 ⟨by simp, unworded, layout⟩)

/-- A text that becomes a declaration by what stands behind it lacks no more than closing braces, if
no brace is opened there. -/
theorem Declaration.exists_unbalanced_of_first_append {text rest : String} {cause : SourceError}
    {declaration : Declaration} (braceless : '{' ∉ rest.toList)
    (failed : Declaration.first text = .error cause)
    (found : Declaration.first (text ++ rest) = .ok declaration) :
    ∃ name position, cause = .unbalancedBraces name position := by
  have unopened
      (none : ∀ before head name inner, ¬ OpensAt text.toList before head name inner) : False := by
    cases Declaration.first_eq_iff_locates.1 found with
    | found opens =>
        rw [String.toList_append] at opens
        exact not_opensAt_append braceless none _ _ _ _ opens.toOpensAt
  cases Declaration.first_eq_iff_locates.1 failed with
  | unbalanced => exact ⟨_, _, rfl⟩
  | missing none => exact (unopened none).elim
  | absent none => exact (unopened none).elim

/-! ## Openings that end at one brace -/

/-- At the end of a text, characters of a kind are dropped up to one that is not. -/
theorem rdropWhile_append_stop {kind : Char → Bool} {stop behind : List Char}
    (some : stop ≠ []) (stops : ∀ char ∈ stop, kind char = false)
    (passed : ∀ char ∈ behind, kind char = true) (before : List Char) :
    (before ++ (stop ++ behind)).rdropWhile kind = before ++ stop := by
  obtain ⟨front, last, rfl⟩ := (List.eq_nil_or_concat' stop).resolve_left some
  have stopped : ¬ kind last = true := by simp [stops last]
  have split : (before ++ (front ++ [last] ++ behind)).reverse =
      behind.reverse ++ (before ++ (front ++ [last])).reverse := by simp
  rw [List.rdropWhile, split, List.dropWhile_append_of_pos (by simpa using passed),
    ← List.rdropWhile, ← List.append_assoc, List.rdropWhile_concat_neg _ _ _ stopped]

/-- What may stand between the name and the brace of an opening. -/
def isFiller (char : Char) : Bool :=
  isBlank char || char == '='

theorem isFiller_of_isBlank {char : Char} (blank : isBlank char = true) : isFiller char = true := by
  simp [isFiller, blank]

theorem isFiller_eq_false_of_isNameChar {char : Char} (name : isNameChar char = true) :
    isFiller char = false := by
  have sign : char ≠ '=' := by
    rintro rfl
    exact absurd name (by decide)
  simp [isFiller, isBlank_eq_false_of_isNameChar name, sign]

theorem isName_of_isKeyword {keyword : List Char}
    (word : keyword = "interface".toList ∨ keyword = "type".toList) : IsName keyword := by
  obtain rfl | rfl := word
  · exact ⟨by decide, List.all_eq_true.1 (by decide)⟩
  · exact ⟨by decide, List.all_eq_true.1 (by decide)⟩

/-- From the end of the start of a declaration its keyword is reached, whatever stands before it. -/
theorem OpeningLayout.exists_keyword {name head : List Char} (layout : OpeningLayout name head) :
    ∃ keyword, (keyword = "interface".toList ∨ keyword = "type".toList) ∧ ∀ before,
      (((before ++ head).rdropWhile isFiller).rdropWhile isNameChar).rdropWhile isBlank =
        before ++ keyword := by
  cases layout with
  | @write keyword blanks beforeEquals equals afterEquals word separated lead named beforeBlanks
      equal afterBlanks =>
      refine ⟨keyword, word, fun before => ?_⟩
      have fills : ∀ char ∈ beforeEquals ++ (equals ++ afterEquals), isFiller char = true := by
        simp only [List.mem_append]
        rintro char (member | member | member)
        · exact isFiller_of_isBlank (beforeBlanks char member)
        · obtain rfl | rfl := equal
          · cases member
          · simp [isFiller, List.mem_singleton.1 member]
        · exact isFiller_of_isBlank (afterBlanks char member)
      have wordNamed := isName_of_isKeyword word
      have toName := rdropWhile_append_stop named.1
        (fun char member => isFiller_eq_false_of_isNameChar (named.2 char member)) fills
        (before ++ (keyword ++ blanks))
      have toBlanks := rdropWhile_append_stop separated
        (fun char member => isNameChar_eq_false_of_isBlank (lead char member)) named.2
        (before ++ keyword)
      have toKeyword := rdropWhile_append_stop wordNamed.1
        (fun char member => isBlank_eq_false_of_isNameChar (wordNamed.2 char member)) lead before
      simp only [List.append_assoc] at toName toBlanks toKeyword
      rw [toName, toBlanks, toKeyword]

/-- Only one declaration opens at a brace. -/
theorem OpeningLayout.eq_of_append_eq {name head other front before earlier : List Char}
    (layout : OpeningLayout name head) (otherLayout : OpeningLayout other front)
    (same : earlier ++ front = before ++ head) : earlier = before := by
  obtain ⟨keyword, word, found⟩ := layout.exists_keyword
  obtain ⟨otherKeyword, otherWord, otherFound⟩ := otherLayout.exists_keyword
  have keywords : earlier ++ otherKeyword = before ++ keyword := by
    rw [← found before, ← same, otherFound earlier]
  -- Neither keyword ends with the other.
  have ends := congrArg (fun text => text.reverse.take 2) keywords
  obtain rfl | rfl := word <;> obtain rfl | rfl := otherWord
  · exact List.append_cancel_right keywords
  · simp at ends
  · simp at ends
  · exact List.append_cancel_right keywords

/-- Of two places in a text at which the same character stands, one is before the other unless they
are the same. -/
theorem append_cons_cases {char : Char} {left right front behind : List Char}
    (same : left ++ char :: right = front ++ char :: behind) :
    left = front ∨ (∃ between, front = left ++ char :: between) ∨
      ∃ between, left = front ++ char :: between := by
  obtain ⟨more, split, tail⟩ | ⟨more, split, tail⟩ := List.append_eq_append_iff.1 same
  · cases more with
    | nil => exact .inl (by simpa using split.symm)
    | cons first others =>
        obtain ⟨rfl, -⟩ := List.cons.inj tail
        exact .inr (.inl ⟨others, split⟩)
  · cases more with
    | nil => exact .inl (by simpa using split)
    | cons first others =>
        obtain ⟨rfl, -⟩ := List.cons.inj tail
        exact .inr (.inr ⟨others, split⟩)

/-- A text in which nothing opens gets its first opening where a brace is put behind the start of a
declaration. -/
theorem OpensAt.opensFirst {before head name inner rest : List Char}
    (opens : OpensAt (before ++ (head ++ '{' :: inner)) before head name inner)
    (unopened : ∀ earlier front other behind,
      ¬ OpensAt (before ++ (head ++ rest)) earlier front other behind) :
    OpensFirst (before ++ (head ++ '{' :: inner)) before head name inner := by
  refine ⟨opens, fun {earlier front other behind} opening => ?_⟩
  obtain ⟨split, unworded, layout⟩ := opensAt_iff.1 opening
  by_contra shorter
  simp only [← List.append_assoc] at split
  obtain same | ⟨between, later⟩ | ⟨between, sooner⟩ := append_cons_cases split
  · exact shorter (opens.layout.eq_of_append_eq layout same.symm ▸ Nat.le_refl _)
  · -- The other opening goes on behind the brace, but holds none.
    rw [List.append_assoc] at later
    obtain ⟨more, -, front⟩ | ⟨more, rfl, -⟩ := List.append_eq_append_iff.1 later
    · exact layout.brace_not_mem (by simp [front])
    · exact shorter (by simp)
  · -- The other opening ends before the brace, so it stood there without it.
    refine unopened earlier front other (between ++ rest) (opensAt_iff.2 ⟨?_, unworded, layout⟩)
    rw [← List.append_assoc, sooner]
    simp

/-! ## A brace behind the name of a header -/

/-- A text put into another one at a position in it: behind the characters that stand before the
column on the line. -/
def insertAt (position : Position) (added text : List Char) : List Char :=
  ['\n'].intercalate ((linesOf text).modify (position.line - 1) fun line =>
    line.take (position.column - 1) ++ (added ++ line.drop (position.column - 1)))

/-- What joins lines puts whole lines before each of them. -/
theorem exists_intercalate_append (before after : List (List Char)) :
    ∃ front behind, WholeLines front ∧ ∀ line,
      ['\n'].intercalate (before ++ line :: after) = front ++ (line ++ behind) := by
  induction before with
  | nil =>
      cases after with
      | nil => exact ⟨[], [], .inl rfl, by simp⟩
      | cons next others =>
          exact ⟨[], '\n' :: ['\n'].intercalate (next :: others), .inl rfl, by simp⟩
  | cons first others inductionHypothesis =>
      obtain ⟨front, behind, whole, joined⟩ := inductionHypothesis
      refine ⟨first ++ '\n' :: front, behind, ?_, fun line => ?_⟩
      · obtain rfl | ⟨lines, rfl⟩ := whole.eq_nil_or_concat
        · exact wholeLines_concat first
        · simpa using wholeLines_concat (first ++ '\n' :: lines)
      · rw [List.cons_append, List.intercalate_cons_of_ne_nil (by simp), joined]
        simp

/-- A text is put in at the end of the front of a line. -/
theorem exists_insertAt {text lead tail : List Char} {before after : List (List Char)}
    (split : linesOf text = before ++ (lead ++ tail) :: after) :
    ∃ front behind, WholeLines front ∧ text = front ++ (lead ++ (tail ++ behind)) ∧
      ∀ added, insertAt ⟨before.length + 1, lead.length + 1⟩ added text =
        front ++ (lead ++ (added ++ (tail ++ behind))) := by
  obtain ⟨front, behind, whole, joined⟩ := exists_intercalate_append before after
  refine ⟨front, behind, whole, ?_, fun added => ?_⟩
  · have text : ['\n'].intercalate (linesOf text) = text := List.intercalate_splitOn '\n'
    rw [← text, split, joined, List.append_assoc]
  · have modified (change : List Char → List Char) :
        (before ++ (lead ++ tail) :: after).modify before.length change =
          before ++ change (lead ++ tail) :: after := by
      simp [List.modify_eq_take_cons_drop]
    simp [insertAt, split, modified, joined]

/-- No word ends behind a text that ends in no word when what follows ends in no word either. -/
theorem Opening.endsInWord_append {before part : List Char}
    (outside : endsInWord false before = false)
    (ends : ∀ char ∈ part.getLast?, isWord char = false) :
    endsInWord false (before ++ part) = false := by
  rw [endsInWord, List.getLast?_append]
  cases last : part.getLast? with
  | none => exact outside
  | some char => exact ends char last

namespace Header

theorem isWord_eq_false_of_isGap {char : Char} (gap : isGap char = true) :
    isWord char = false := by
  obtain rfl | rfl : char = ' ' ∨ char = '\t' := by simpa [isGap] using gap
  · decide +kernel
  · decide +kernel

theorem isBlanks_of_isSpacing {text : List Char} (spacing : IsSpacing text) : IsBlanks text := by
  intro char member
  obtain rfl | rfl : char = ' ' ∨ char = '\t' := by simpa [isGap] using spacing char member
  · decide
  · decide

theorem IsSpacing.getLast? {text : List Char} (spacing : IsSpacing text) :
    ∀ char ∈ text.getLast?, isWord char = false := fun char last =>
  isWord_eq_false_of_isGap (spacing char (List.mem_of_getLast? last))

/-- A modifier is set off by spacing. -/
theorem ModifierLayout.getLast? {word written : List Char} (layout : ModifierLayout word written) :
    ∀ char ∈ written.getLast?, isWord char = false := by
  cases layout with
  | absent => simp
  | present separated spacing =>
      rw [List.getLast?_append_of_ne_nil _ separated]
      exact spacing.getLast?

/-- Where nothing opens, a header becomes the first opening when a brace is put behind its name. -/
theorem HeaderLayout.exists_opensFirst {front name lead tail behind : List Char}
    (layout : HeaderLayout name lead tail) (whole : WholeLines front)
    (unopened : ∀ earlier head other inner,
      ¬ OpensAt (front ++ (lead ++ behind)) earlier head other inner) (inner : List Char) :
    ∃ before head, OpensFirst (front ++ (lead ++ '{' :: inner)) before head name inner := by
  cases layout with
  | @write indentation exported declared keyword gap _ indented exports declares word separated
      spacing named _ =>
      have split (rest : List Char) :
          front ++ (indentation ++ (exported ++ (declared ++ (keyword ++ (gap ++ name)))) ++ rest) =
            front ++ indentation ++ exported ++ declared ++ (keyword ++ (gap ++ name) ++ rest) := by
        simp
      have newline : isWord '\n' = false := by decide +kernel
      have lines : Opening.endsInWord false front = false := by
        obtain rfl | ends := whole
        · rfl
        · rw [Opening.endsInWord, ends, Option.elim_some, newline]
      have unworded := Opening.endsInWord_append (Opening.endsInWord_append
        (Opening.endsInWord_append lines indented.getLast?) exports.getLast?) declares.getLast?
      have layout : OpeningLayout name (keyword ++ (gap ++ name)) := by
        simpa using OpeningLayout.write word separated (isBlanks_of_isSpacing spacing) named
          isBlanks_nil (.inl rfl) isBlanks_nil
      rw [split] at unopened
      rw [split]
      exact ⟨_, _, (opensAt_iff.2 ⟨rfl, unworded, layout⟩).opensFirst unopened⟩

end Header

/-- A header that lacks its brace is repaired where it is reported: with two braces put in there it
is a declaration of its name with an empty body. -/
theorem Declaration.exists_first_insertAt {text name : String} {position : Position}
    (failed : Declaration.first text = .error (.missingOpenBrace name position)) :
    ∃ openBrace, Declaration.first
      (String.ofList (insertAt position "\x7b\x7d".toList text.toList)) =
        .ok ⟨name, "", openBrace⟩ := by
  cases Declaration.first_eq_iff_locates.1 failed with
  | @missing before after line name lead unopened split header =>
      obtain ⟨tail, layout, rfl⟩ := header
      obtain ⟨front, behind, whole, written, inserted⟩ := exists_insertAt split
      rw [written] at unopened
      obtain ⟨earlier, head, opens⟩ :=
        layout.exists_opensFirst whole unopened ('}' :: (tail ++ behind))
      have closed : splitClosing 1 ('}' :: (tail ++ behind)) = some ([], tail ++ behind) := by
        simp [splitClosing]
      refine ⟨byteLength (earlier ++ head), ?_⟩
      have repaired : insertAt ⟨before.length + 1, lead.length + 1⟩ "\x7b\x7d".toList text.toList =
          front ++ (lead ++ '{' :: '}' :: (tail ++ behind)) :=
        inserted "\x7b\x7d".toList
      rw [Declaration.first, String.toList_ofList, repaired]
      simp only [opens.first?_eq, opens.toOpensAt.lead_eq, closed]
      rfl

end InterfaceGen.Source
