import InterfaceGen.Proofs.Schema.Fronts
import InterfaceGen.Proofs.Source.Bytes
import InterfaceGen.Proofs.Source.Nesting
import InterfaceGen.Schema.Walk
import Mathlib.Data.List.Forall2

/-!
# Where fields stand

Each field that a body declares has its head in the body. The heads stand in the order in which the
walk lists the fields, apart from each other, and those of the fields of an object between its
braces. So nothing is read twice, and nothing that is not there.
-/

namespace InterfaceGen

open Text Source

/-! ## Places in a body -/

/-- A part of a text, by the byte offsets of its two ends. -/
structure Span where
  start : Nat
  stop : Nat
  deriving DecidableEq, Repr

/-- A text that ends with no character of a name. -/
def EndsApart (text : List Char) : Prop :=
  ∀ char ∈ text.getLast?, isNameChar char = false

/-- The head of a field stands at a place of a body, with the whole run of name characters as its
name. -/
inductive HeadAt (body : List Char) (name : String) (required : Bool) : Span → Prop where
  | intro {before head rest : List Char} (split : body = before ++ (head ++ rest))
      (apart : EndsApart before) (reads : HeadText name.toList required head) :
      HeadAt body name required ⟨byteLength before, byteLength before + byteLength head⟩

/-- Behind an offset, and blanks, a brace is opened at another one. -/
def OpensBehind (body : List Char) (offset opening : Nat) : Prop :=
  ∃ gap inner, IsBlanks gap ∧ Remains body offset (gap ++ '{' :: inner) ∧
    opening = offset + byteLength gap

/-- The places of the heads of fields, in the order of their walk, within a part of a body. The
fields of an object stand behind its opening brace. If this is closed, they stand before the closing
one, and the fields behind the object stand behind that. If it is not, there are none. -/
inductive Placed (body : List Char) : Nat → Nat → List Field → List Span → Prop where
  | nil {start stop : Nat} (ordered : start ≤ stop) : Placed body start stop [] []
  | leaf {start stop : Nat} {name : String} {required repeated : Bool} {shape : Shape}
      {fields : List Field} {span : Span} {spans : List Span}
      (noObject : ∀ members, shape ≠ .object members) (head : HeadAt body name required span)
      (lead : start ≤ span.start) (rest : Placed body span.stop stop fields spans) :
      Placed body start stop (⟨name, required, repeated, shape⟩ :: fields) (span :: spans)
  | closed {start stop opening closing : Nat} {name : String} {required repeated : Bool}
      {members fields : List Field} {span : Span} {inside spans : List Span}
      (head : HeadAt body name required span) (lead : start ≤ span.start)
      (opens : OpensBehind body span.stop opening)
      (closes : closingBrace? body opening = some closing)
      (inner : Placed body (opening + 1) closing members inside)
      (rest : Placed body (closing + 1) stop fields spans) :
      Placed body start stop (⟨name, required, repeated, .object members⟩ :: fields)
        (span :: (inside ++ spans))
  | unclosed {start stop opening : Nat} {name : String} {required repeated : Bool}
      {members : List Field} {span : Span} {inside : List Span}
      (head : HeadAt body name required span) (lead : start ≤ span.start)
      (opens : OpensBehind body span.stop opening)
      (unclosed : closingBrace? body opening = none)
      (inner : Placed body (opening + 1) stop members inside) :
      Placed body start stop [⟨name, required, repeated, .object members⟩] (span :: inside)

/-! ## What the places say -/

theorem HeadAt.start_lt_stop {body : List Char} {name : String} {required : Bool} {span : Span}
    (head : HeadAt body name required span) : span.start < span.stop := by
  obtain ⟨_, _, reads⟩ := head
  have nonempty := mt byteLength_eq_zero_iff.1 reads.ne_nil
  dsimp only
  omega

theorem OpensBehind.le {body : List Char} {offset opening : Nat}
    (opens : OpensBehind body offset opening) : offset ≤ opening := by
  obtain ⟨gap, inner, -, -, rfl⟩ := opens
  exact Nat.le_add_right _ _

namespace Placed

variable {body : List Char} {start stop : Nat} {fields : List Field} {spans : List Span}

/-- The places are within the part of the body. -/
theorem within (placed : Placed body start stop fields spans) :
    start ≤ stop ∧ ∀ span ∈ spans,
      start ≤ span.start ∧ span.start < span.stop ∧ span.stop ≤ stop := by
  induction placed with
  | nil ordered => exact ⟨ordered, nofun⟩
  | leaf _ head lead _ restHypothesis =>
      obtain ⟨ordered, behind⟩ := restHypothesis
      have nonempty := head.start_lt_stop
      refine ⟨by omega, List.forall_mem_cons.2 ⟨⟨lead, nonempty, ordered⟩, ?_⟩⟩
      intro span member
      have := behind span member
      omega
  | closed head lead opens _ _ _ innerHypothesis restHypothesis =>
      obtain ⟨innerOrdered, inside⟩ := innerHypothesis
      obtain ⟨ordered, behind⟩ := restHypothesis
      have nonempty := head.start_lt_stop
      have opened := opens.le
      refine ⟨by omega, List.forall_mem_cons.2 ⟨⟨lead, nonempty, by omega⟩, ?_⟩⟩
      intro span member
      rcases List.mem_append.1 member with within | later
      · have := inside span within
        omega
      · have := behind span later
        omega
  | unclosed head lead opens _ _ innerHypothesis =>
      obtain ⟨ordered, inside⟩ := innerHypothesis
      have nonempty := head.start_lt_stop
      have opened := opens.le
      refine ⟨by omega, List.forall_mem_cons.2 ⟨⟨lead, nonempty, by omega⟩, ?_⟩⟩
      intro span member
      have := inside span member
      omega

/-- Each place ends before the next one begins. -/
theorem ordered (placed : Placed body start stop fields spans) :
    spans.Pairwise fun span next => span.stop ≤ next.start := by
  induction placed with
  | nil => exact .nil
  | leaf _ _ _ rest restHypothesis =>
      refine List.pairwise_cons.2 ⟨?_, restHypothesis⟩
      intro span member
      exact (rest.within.2 span member).1
  | closed _ _ opens _ inner rest innerHypothesis restHypothesis =>
      have opened := opens.le
      have innerOrdered := inner.within.1
      refine List.pairwise_cons.2 ⟨?_, List.pairwise_append.2 ⟨innerHypothesis, restHypothesis, ?_⟩⟩
      · intro span member
        rcases List.mem_append.1 member with within | later
        · have := inner.within.2 span within
          omega
        · have := rest.within.2 span later
          omega
      · intro span within next later
        have := inner.within.2 span within
        have := rest.within.2 next later
        omega
  | unclosed _ _ opens _ inner innerHypothesis =>
      have opened := opens.le
      refine List.pairwise_cons.2 ⟨?_, innerHypothesis⟩
      intro span member
      have := inner.within.2 span member
      omega

/-- The places begin one after the other. -/
theorem starts_increase (placed : Placed body start stop fields spans) :
    (spans.map (·.start)).Pairwise (· < ·) := by
  refine List.pairwise_map.2 (placed.ordered.imp_of_mem ?_)
  intro span next member _ apart
  have := placed.within.2 span member
  omega

/-- At each place stands the head of the field that the walk lists there. -/
theorem forall₂_headAt (placed : Placed body start stop fields spans) (parent : Path) :
    List.Forall₂ (fun entry span => HeadAt body entry.2.name entry.2.required span)
      (walkFields parent fields) spans := by
  induction placed generalizing parent with
  | nil => exact .nil
  | @leaf _ _ name _ _ shape _ _ _ noObject head _ _ restHypothesis =>
      have nothing : shape.walk (parent.child name) = [] := by
        cases shape with
        | object members => exact absurd rfl (noObject members)
        | _ => rfl
      rw [walkFields, nothing]
      exact .cons head (restHypothesis parent)
  | closed head _ _ _ _ _ innerHypothesis restHypothesis =>
      exact .cons head (List.rel_append (innerHypothesis _) (restHypothesis parent))
  | unclosed head _ _ _ _ innerHypothesis =>
      rw [walkFields, walkFields, List.append_nil]
      exact .cons head (innerHypothesis _)

/-- Places within a part of a body are within a part that begins earlier. -/
theorem of_le (placed : Placed body start stop fields spans) {earlier : Nat}
    (before : earlier ≤ start) : Placed body earlier stop fields spans := by
  cases placed with
  | nil ordered => exact .nil (before.trans ordered)
  | leaf noObject head lead rest => exact .leaf noObject head (before.trans lead) rest
  | closed head lead opens closes inner rest =>
      exact .closed head (before.trans lead) opens closes inner rest
  | unclosed head lead opens unclosed inner =>
      exact .unclosed head (before.trans lead) opens unclosed inner

end Placed

/-! ## Parts of a body that are read -/

theorem endsApart_concat {char : Char} (apart : isNameChar char = false) (text : List Char) :
    EndsApart (text ++ [char]) := by
  intro last member
  obtain rfl : char = last := by simpa using member
  exact apart

/-- What stands before a text that ends apart does not matter, unless there is no text. -/
theorem EndsApart.append_left {text : List Char} (apart : EndsApart text) (nonempty : text ≠ [])
    (before : List Char) : EndsApart (before ++ text) := by
  intro last member
  rw [List.getLast?_append_of_ne_nil _ nonempty] at member
  exact apart last member

/-- Blanks behind a text end no name. -/
theorem EndsApart.append_blanks {text blanks : List Char} (apart : EndsApart text)
    (all : IsBlanks blanks) : EndsApart (text ++ blanks) := by
  cases blanks using List.reverseRecOn with
  | nil => rwa [List.append_nil]
  | append_singleton others last =>
      have blank : isBlank last = true := all last (by simp)
      rw [← List.append_assoc]
      exact endsApart_concat (isNameChar_eq_false_of_isBlank blank) _

/-- A text that is read in a body. No name ends where it begins. It goes on to the end of the body,
or the braces that are opened in it are closed in it. -/
structure IsPart (body before text after : List Char) : Prop where
  split : body = before ++ (text ++ after)
  apart : EndsApart before
  ends : after ≠ [] → EndsBalanced text

namespace IsPart

variable {body before after : List Char}

/-- Behind its front, what is left of a text is read in the body as well. -/
theorem advance {text front rest : List Char} (part : IsPart body before text after)
    (split : text = front ++ rest) (apart : EndsApart front) (shorter : rest.length < text.length) :
    IsPart body (before ++ front) rest after where
  split := by simp [part.split, split]
  apart := by
    have nonempty : front ≠ [] := by
      rintro rfl
      simp [split] at shorter
    exact apart.append_left nonempty before
  ends left := (part.ends left).of_suffix (split ▸ List.suffix_append front rest)

/-- The head at the front of a text, behind blanks, stands in the body. -/
theorem headAt {head : FieldHead} {lead front rest : List Char}
    (part : IsPart body before (lead ++ (front ++ rest)) after) (blanks : IsBlanks lead)
    (start : HeadText head.name head.required front) :
    HeadAt body (String.ofList head.name) head.required
      ⟨byteLength (before ++ lead), byteLength (before ++ lead) + byteLength front⟩ := by
  have split : body = (before ++ lead) ++ (front ++ (rest ++ after)) := by simp [part.split]
  refine .intro split (part.apart.append_blanks blanks) ?_
  rw [String.toList_ofList]
  exact start

theorem remains_opening {front inner : List Char}
    (part : IsPart body before (front ++ '{' :: inner) after) :
    Remains body (byteLength (before ++ front)) ('{' :: (inner ++ after)) :=
  ⟨before ++ front, by simp [part.split], rfl⟩

/-- The brace behind a head, and blanks, stands in the body. -/
theorem opensBehind {lead front gap inner : List Char}
    (part : IsPart body before (lead ++ (front ++ gap) ++ '{' :: inner) after)
    (trail : IsBlanks gap) :
    OpensBehind body (byteLength (before ++ lead) + byteLength front)
      (byteLength (before ++ (lead ++ (front ++ gap)))) := by
  refine ⟨gap, inner ++ after, trail, ⟨before ++ lead ++ front, ?_, ?_⟩, ?_⟩
  · simp [part.split]
  · rw [byteLength_append (before ++ lead)]
  · simp [Nat.add_assoc]

/-- A brace that is closed in a text is closed at the same place of the body. -/
theorem closingBrace?_eq_some {front inner text rest : List Char}
    (part : IsPart body before (front ++ '{' :: text) after)
    (closes : splitClosing 1 text = some (inner, rest)) :
    closingBrace? body (byteLength (before ++ front)) =
      some (byteLength (before ++ front) + 1 + byteLength inner) := by
  rw [← matchingBrace?_eq_closingBrace?, matchingBrace?_of_opening part.remains_opening,
    splitClosing_append_of_some closes after]
  rfl

/-- A brace that is not closed in a text is not closed in the body: the text goes on to its end. -/
theorem closingBrace?_eq_none {front inner : List Char}
    (part : IsPart body before (front ++ '{' :: inner) after)
    (unclosed : splitClosing 1 inner = none) :
    closingBrace? body (byteLength (before ++ front)) = none := by
  have last : after = [] := by
    by_contra left
    have ends := (part.ends left).of_suffix (List.suffix_append front ('{' :: inner))
    obtain ⟨_, _, closes⟩ := ends.exists_splitClosing
    simp [unclosed] at closes
  rw [← matchingBrace?_eq_closingBrace?, matchingBrace?_of_opening part.remains_opening, last,
    List.append_nil, unclosed]
  rfl

/-- What stands between the braces of an object is read in the body on its own. -/
theorem inner {front inner rest : List Char}
    (part : IsPart body before (front ++ '{' :: (inner ++ '}' :: rest)) after)
    (closes : splitClosing 1 (inner ++ '}' :: rest) = some (inner, rest)) :
    IsPart body (before ++ (front ++ ['{'])) inner ('}' :: (rest ++ after)) where
  split := by simp [part.split]
  apart := (endsApart_concat (by decide) front).append_left (by simp) before
  ends _ := (balanced_of_splitClosing closes).endsBalanced

end IsPart

/-- What stands between the closing brace of an object and the text behind it ends no name. -/
theorem MarkLayout.endsApart {repeated : Bool} {mark : List Char}
    (marked : MarkLayout repeated mark) : EndsApart ('}' :: mark) := by
  cases marked with
  | single => exact endsApart_concat (by decide) []
  | @array blanks lead =>
      have brackets : EndsApart ['[', ']'] := endsApart_concat (by decide) ['[']
      exact brackets.append_left (by simp) ('}' :: blanks)

theorem isNameChar_eq_false_of_endsToken {stop : Char} (ends : endsToken stop = true) :
    isNameChar stop = false := by
  simp only [endsToken, Bool.or_eq_true, beq_iff_eq] at ends
  rcases ends with rfl | rfl <;> rfl

/-- Behind a text, its opening brace takes one byte. -/
theorem byteLength_append_opening (before front : List Char) :
    byteLength (before ++ (front ++ ['{'])) = byteLength (before ++ front) + 1 := by
  rw [← List.append_assoc, byteLength_append]
  rfl

section Step

variable {body before text after : List Char} (part : IsPart body before text after)
  (placed : ∀ {before piece after : List Char}, piece.length < text.length →
    IsPart body before piece after →
      ∃ spans, Placed body (byteLength before) (byteLength (before ++ piece))
        (Field.parseBody piece) spans)

include part placed

/-- If shorter parts of a body have places in it, so does what is left behind the front of a
part. -/
theorem IsPart.exists_placed_behind (front rest : List Char) (split : text = front ++ rest)
    (apart : EndsApart front) (shorter : rest.length < text.length) :
    ∃ spans, Placed body (byteLength (before ++ front)) (byteLength (before ++ text))
      (Field.parseBody rest) spans := by
  obtain ⟨spans, behind⟩ := placed shorter (part.advance split apart shorter)
  rw [List.append_assoc, ← split] at behind
  exact ⟨spans, behind⟩

/-- If shorter parts of a body have places in it, so do the fields of a part: those of the piece at
its front, and those of the text that the piece leaves. -/
theorem IsPart.exists_placed_fields {piece : Piece} (read : Piece.read? text = some piece) :
    ∃ spans, Placed body (byteLength before) (byteLength (before ++ text)) piece.fields spans := by
  have onward := part.exists_placed_behind placed
  have shorter := Piece.length_rest_lt_of_read? read
  cases Piece.takenFrom_of_read? read with
  | @skipped line rest =>
      have newline : EndsApart (line ++ ['\n']) := endsApart_concat (by decide) line
      obtain ⟨spans, behind⟩ := onward _ rest (by simp) newline shorter
      exact ⟨spans, behind.of_le (by simp)⟩
  | @leaf head lead front gap type stop rest blanks start trail inside ends =>
      have headAt := part.headAt blanks start
      have apart : EndsApart (lead ++ (front ++ (gap ++ type)) ++ [stop]) :=
        endsApart_concat (isNameChar_eq_false_of_endsToken ends) _
      obtain ⟨spans, behind⟩ := onward _ rest (by simp) apart shorter
      refine ⟨_, .leaf (classify_cases _).1 headAt (by simp) (behind.of_le ?_)⟩
      simp only [byteLength_append]
      omega
  | @lastLeaf head lead front gap type blanks start trail inside =>
      have headAt := part.headAt blanks start
      rw [Piece.fields, Field.parseBody_blanks isBlanks_nil]
      refine ⟨_, .leaf (classify_cases _).1 headAt (by simp) (.nil ?_)⟩
      simp only [byteLength_append]
      omega
  | @object head repeated lead front gap inner mark rest blanks start trail closes marked =>
      have headAt := part.headAt blanks start
      have opened : IsPart body before
          (lead ++ (front ++ gap) ++ '{' :: (inner ++ '}' :: (mark ++ rest))) after := by
        simpa using part
      obtain ⟨inside, within⟩ := placed (Piece.length_body_lt_of_read? read) (opened.inner closes)
      rw [byteLength_append _ inner, byteLength_append_opening] at within
      have apart : EndsApart (lead ++ (front ++ gap) ++ '{' :: inner ++ '}' :: mark) :=
        marked.endsApart.append_left (by simp) _
      obtain ⟨spans, behind⟩ := onward _ rest (by simp) apart shorter
      refine ⟨_, .closed headAt (by simp) (opened.opensBehind trail)
        (opened.closingBrace?_eq_some closes) within (behind.of_le ?_)⟩
      have opening : Char.utf8Size '{' = 1 := rfl
      have closing : Char.utf8Size '}' = 1 := rfl
      simp only [byteLength_append, byteLength]
      omega
  | @openObject head lead front gap inner blanks start trail unclosed =>
      have headAt := part.headAt blanks start
      have opened : IsPart body before (lead ++ (front ++ gap) ++ '{' :: inner) after := by
        simpa using part
      have apart : EndsApart (lead ++ (front ++ gap) ++ ['{']) := endsApart_concat (by decide) _
      obtain ⟨inside, within⟩ := onward _ inner (by simp) apart
        (Piece.length_body_lt_of_read? read)
      rw [byteLength_append_opening] at within
      rw [Piece.fields, Field.parseBody_blanks isBlanks_nil]
      exact ⟨_, .unclosed headAt (by simp) (opened.opensBehind trail)
        (opened.closingBrace?_eq_none unclosed) within⟩

end Step

/-- The fields of a text that is read in a body have places in this part of it. -/
theorem IsPart.exists_placed {body before text after : List Char}
    (part : IsPart body before text after) :
    ∃ spans, Placed body (byteLength before) (byteLength (before ++ text)) (Field.parseBody text)
      spans := by
  -- The induction is on the length, since a body is read both in its objects and behind them.
  induction length : text.length using Nat.strong_induction_on
    generalizing before text after with
  | _ length inductionHypothesis =>
    subst length
    cases read : Piece.read? text with
    | none =>
        rw [Field.parseBody_eq, read]
        exact ⟨[], .nil (by simp)⟩
    | some piece =>
        rw [Field.parseBody_of_read? read]
        exact part.exists_placed_fields
          (fun shorter within => inductionHypothesis _ shorter within rfl) read

/-- Each field that a body declares has its head in the body. The heads stand in the order of the
walk, each behind the one before it, and those of the fields of an object between its braces. -/
theorem parseBody_placed (body : List Char) :
    ∃ spans, Placed body 0 (byteLength body) (Field.parseBody body) spans ∧
      (spans.map (·.start)).Pairwise (· < ·) ∧
      spans.Pairwise (fun span next => span.stop ≤ next.start) ∧
      List.Forall₂ (fun entry span => HeadAt body entry.2.name entry.2.required span)
        (walkFields .root (Field.parseBody body)) spans := by
  have part : IsPart body [] body [] :=
    ⟨by simp, by simp [EndsApart], fun left => absurd rfl left⟩
  obtain ⟨spans, placed⟩ := part.exists_placed
  exact ⟨spans, placed, placed.starts_increase, placed.ordered, placed.forall₂_headAt .root⟩

end InterfaceGen
