import InterfaceGen.Proofs.Source.Header
import InterfaceGen.Proofs.Source.Nesting
import InterfaceGen.Proofs.Text.Positions

/-!
# The first declaration

What the search for a declaration has to answer for a text, stated without the search: the first
opening and the first place that closes its brace, and where there is no opening the first header.
The search gives this answer for every text, and no other.
-/

namespace InterfaceGen.Source

open Text

/-- What the first declaration of a text is, or why there is none. -/
inductive Locates (text : List Char) : Except SourceError Declaration → Prop where
  /-- The first opening is closed, for the first time, behind its body. -/
  | found {before head name inner body after : List Char} {close : Char}
      (opens : OpensFirst text before head name inner) (split : inner = body ++ close :: after)
      (closes : Closes (body ++ [close])) (first : ∀ front, front <+: body → ¬ Closes front) :
      Locates text
        (.ok ⟨String.ofList name, String.ofList (trim body), byteLength (before ++ head)⟩)
  /-- The first opening is closed nowhere. -/
  | unbalanced {before head name inner : List Char}
      (opens : OpensFirst text before head name inner)
      (unclosed : ∀ front, front <+: inner → ¬ Closes front) :
      Locates text
        (.error (.unbalancedBraces (String.ofList name) (Position.counted (before ++ head))))
  /-- There is no opening, and a header on a line behind others that are none. -/
  | missing {before after : List (List Char)} {line name lead : List Char}
      (unopened : ∀ before head name inner, ¬ OpensAt text before head name inner)
      (split : linesOf text = before ++ line :: after) (header : Header.IsHeader line name lead)
      (first : ∀ other ∈ before, ∀ name lead, ¬ Header.IsHeader other name lead) :
      Locates text
        (.error (.missingOpenBrace (String.ofList name) ⟨before.length + 1, lead.length + 1⟩))
  /-- There is no opening, and no header. -/
  | absent (unopened : ∀ before head name inner, ¬ OpensAt text before head name inner)
      (headless : ∀ line ∈ linesOf text, ∀ name lead, ¬ Header.IsHeader line name lead) :
      Locates text (.error .noDeclaration)

/-- The text before the brace of an opening ends with the start of the declaration. -/
theorem OpensAt.lead_eq {text before head name inner : List Char}
    (opens : OpensAt text before head name inner) :
    Opening.lead ⟨name, inner⟩ text = before ++ head := by
  rw [opens.split, ← List.append_assoc]
  exact Opening.lead_append name _ inner

theorem OpensFirst.first?_eq {text before head name inner : List Char}
    (opens : OpensFirst text before head name inner) :
    Opening.first? false text = some ⟨name, inner⟩ :=
  Opening.first?_eq_some_iff_opensFirst.2 ⟨before, head, opens⟩

/-- The answer for a text is the one that the search gives. -/
theorem Locates.first_eq {text : String} {result : Except SourceError Declaration}
    (locates : Locates text.toList result) : Declaration.first text = result := by
  cases locates with
  | found opens split closes first =>
      have closed := splitClosing_one_eq_some_iff.2 ⟨_, split, closes, first⟩
      simp only [Declaration.first, opens.first?_eq, opens.toOpensAt.lead_eq, closed]
  | unbalanced opens unclosed =>
      have never := splitClosing_one_eq_none_iff.2 unclosed
      simp only [Declaration.first, opens.first?_eq, opens.toOpensAt.lead_eq, never,
        Position.after_eq_counted]
  | @missing before _ _ name lead unopened split header first =>
      have headed : Header.first? 1 (text.toList.splitOn '\n') =
          some (name, ⟨1 + before.length, lead.length + 1⟩) :=
        Header.first?_eq_some_iff.2 ⟨before, _, _, lead, split, header, first, rfl⟩
      simp only [Declaration.first, Opening.first?_eq_none_iff_not_opensAt.2 unopened, headed,
        Nat.add_comm 1]
  | absent unopened headless =>
      have never : Header.first? 1 (text.toList.splitOn '\n') = none :=
        Header.first?_eq_none_iff.2 headless
      simp only [Declaration.first, Opening.first?_eq_none_iff_not_opensAt.2 unopened, never]

/-- Every text has an answer. -/
theorem exists_locates (text : List Char) : ∃ result, Locates text result := by
  cases read : Opening.first? false text with
  | some opening =>
      obtain ⟨before, head, opens⟩ := Opening.first?_eq_some_iff_opensFirst.1 read
      cases closed : splitClosing 1 opening.inner with
      | none => exact ⟨_, .unbalanced opens (splitClosing_one_eq_none_iff.1 closed)⟩
      | some parts =>
          obtain ⟨close, split, closes, first⟩ := splitClosing_one_eq_some_iff.1 closed
          exact ⟨_, .found opens split closes first⟩
  | none =>
      have unopened := Opening.first?_eq_none_iff_not_opensAt.1 read
      cases headed : Header.first? 1 (linesOf text) with
      | none => exact ⟨_, .absent unopened (Header.first?_eq_none_iff.1 headed)⟩
      | some found =>
          obtain ⟨before, line, after, lead, split, header, first, -⟩ :=
            Header.first?_eq_some_iff.1 headed
          exact ⟨_, .missing unopened split header first⟩

/-- The search for a declaration gives for every text the first declaration there is, or the one
reason why there is none. -/
theorem Declaration.first_eq_iff_locates {text : String}
    {result : Except SourceError Declaration} :
    Declaration.first text = result ↔ Locates text.toList result := by
  constructor
  · rintro rfl
    obtain ⟨result, locates⟩ := exists_locates text.toList
    rwa [locates.first_eq]
  · exact Locates.first_eq

end InterfaceGen.Source
