import InterfaceGen.Proofs.Schema.Layout
import InterfaceGen.Proofs.Source.Opening

/-!
# Declarations read back

A declaration that is written in any layout, with any text behind it, is found and read as the name
and the fields it was written for. Every tree of fields whose types have a notation has a layout.
-/

namespace InterfaceGen

open Text Source

/-! ## Finding the declaration -/

/-- A declaration in a layout is found, with its name and its body. -/
theorem DeclarationLayout.exists_first {name : String} {fields : List Field}
    {body text : List Char} (layout : DeclarationLayout name fields body text) :
    ∃ openBrace, Declaration.first (String.ofList text) =
      .ok ⟨name, String.ofList (trim body), openBrace⟩ := by
  cases layout with
  | @declare keyword blanks before equals after body gap rest word separated lead named
      beforeEquals equal afterEquals inner trail =>
      have balanced : Balanced (body ++ gap) :=
        inner.balanced.append (braceless_of_isBlanks trail).balanced
      have read := Opening.first?_of_read? (Opening.read?_append word separated lead named
        beforeEquals equal afterEquals ((body ++ gap) ++ '}' :: rest))
      have found := Declaration.first.eq_1 (String.ofList (keyword ++ (blanks ++ (name.toList ++
        (before ++ (equals ++ (after ++ '{' :: ((body ++ gap) ++ '}' :: rest))))))))
      simp only [String.toList_ofList, read, balanced.splitClosing_closing rest,
        String.ofList_toList] at found
      exact ⟨_, found⟩

/-- What the braces of a declaration hold reads as its fields. -/
theorem DeclarationLayout.parseBody {name : String} {fields : List Field} {body text : List Char}
    (layout : DeclarationLayout name fields body text) : Field.parseBody body = fields := by
  cases layout with
  | declare _ _ _ _ _ _ _ inner trail =>
      rw [Field.parseBody_append_blanks trail, inner.parseBody]

/-! ## A layout for every tree -/

/-- The mark of an array. -/
def arrayMark (repeated : Bool) : List Char :=
  if repeated then ['[', ']'] else []

/-- A token for a type that is no object. -/
def Shape.token (repeated : Bool) : Shape → String
  | .string => if repeated then "string[]" else "string"
  | .number => if repeated then "number[]" else "number"
  | .boolean => if repeated then "boolean[]" else "boolean"
  | .object _ | .unknown => "unknown"

mutual

/-- A type as it may be written, with its end. -/
def Shape.write (repeated : Bool) : Shape → List Char
  | .object fields =>
    '{' :: (writeFields fields ++ '}' :: (arrayMark repeated ++ [';', '\n']))
  | shape => (shape.token repeated).toList ++ ['\n']

/-- Fields as they may be written, each ending its line. -/
def writeFields : List Field → List Char
  | [] => []
  | ⟨name, required, repeated, shape⟩ :: rest =>
    name.toList ++ (if required then [':'] else ['?', ':']) ++ (shape.write repeated ++
      writeFields rest)

end

/-- Each field of a level has a name, and its type a notation. -/
def Writable (fields : List Field) : Prop :=
  Named fields ∧ Describable fields

instance : DecidablePred Writable := fun fields =>
  inferInstanceAs (Decidable (Named fields ∧ Describable fields))

theorem Writable.tail {field : Field} {fields : List Field}
    (writable : Writable (field :: fields)) : Writable fields :=
  ⟨(named_cons.1 writable.1).2, (List.forall_mem_cons.1 writable.2).2⟩

/-- A head without blanks is a layout of it. -/
theorem headLayout_write {name : String} (named : IsName name.toList) (required : Bool) :
    HeadLayout name required (name.toList ++ if required then [':'] else ['?', ':']) := by
  have none : IsBlanks [] := by simp [IsBlanks]
  cases required with
  | false => exact .optional named none none none none
  | true => exact .required named none none none

theorem markLayout_write (repeated : Bool) : MarkLayout repeated (arrayMark repeated) := by
  cases repeated with
  | false => exact .single
  | true => exact .array isBlanks_nil

theorem tokenLayout_token {repeated : Bool} {shape : Shape}
    (leaf : ∀ members, shape ≠ .object members) (described : repeated = true → shape ≠ .unknown) :
    TokenLayout repeated shape (shape.token repeated).toList := by
  cases shape with
  | object members => exact absurd rfl (leaf members)
  | unknown =>
      obtain rfl : repeated = false := by simpa using described
      exact .unknown (by decide) (by decide)
  | string => cases repeated <;> exact .named (by simp [Shape.token, typeTokens])
  | number => cases repeated <;> exact .named (by simp [Shape.token, typeTokens])
  | boolean => cases repeated <;> exact .named (by simp [Shape.token, typeTokens])

/-- A field that is written on its line, before others in a layout. -/
theorem layout_leaf (required : Bool) {name : String} {repeated : Bool} {shape : Shape}
    {fields : List Field} {token text : List Char} (named : IsName name.toList)
    (type : TokenLayout repeated shape token) (rest : Layout fields text) :
    Layout (⟨name, required, repeated, shape⟩ :: fields)
      (name.toList ++ (if required then [':'] else ['?', ':']) ++
        ((token ++ ['\n']) ++ text)) := by
  have written := Layout.leaf (headLayout_write named required) type
    isGap_nil (.inr rfl) rest
  simpa using written

/-- Fields are in a layout when they are written each on its line. -/
theorem layout_writeFields : ∀ (fields : List Field), Writable fields →
    EveryLevelBelow Writable fields → Layout fields (writeFields fields)
  | [], _, _ => .nil
  | ⟨name, required, repeated, shape⟩ :: others, writable, below => by
      have named := writable.1 _ List.mem_cons_self
      have rest := layout_writeFields others writable.tail below.2
      by_cases leaf : ∀ members, shape ≠ .object members
      · have type := tokenLayout_token leaf (writable.2 _ List.mem_cons_self)
        have written := layout_leaf required named type rest
        cases shape with
        | object members => exact absurd rfl (leaf members)
        | _ => exact written
      · obtain ⟨members, rfl⟩ : ∃ members, shape = .object members := by simpa using leaf
        have inner := layout_writeFields members below.1.1 below.1.2
        have written := Layout.object (headLayout_write named required) inner
          isBlanks_nil (markLayout_write repeated) (.inr rfl) rest
        simpa [writeFields, Shape.write] using written
termination_by fields => sizeOf fields

/-- Every name and every tree of fields whose types have a notation has a layout. -/
theorem exists_declarationLayout {name : String} {fields : List Field}
    (named : IsName name.toList) (writable : (Shape.object fields).EveryLevel Writable) :
    ∃ body text, DeclarationLayout name fields body text := by
  have body := layout_writeFields fields writable.1 writable.2
  have declaration : DeclarationLayout name fields _ (_ ++ (_ ++ (_ ++ (_ ++ (_ ++ (_ ++
      '{' :: (_ ++ '}' :: []))))))) :=
    .declare (.inl rfl) (List.cons_ne_nil ' ' []) isBlanks_space named isBlanks_nil (.inl rfl)
      isBlanks_nil body isBlanks_nil
  exact ⟨_, _, declaration⟩

/-! ## Reading declarations back -/

/-- A declaration reads back as the name and the fields it was written for: there is a way to write
it, and whatever the way and whatever follows, the text gives the schema of that name and those
fields, with what its braces hold. -/
theorem ofSource_declarationLayout {name : String} {fields : List Field}
    (named : IsName name.toList) (writable : (Shape.object fields).EveryLevel Writable) :
    (∃ body text, DeclarationLayout name fields body text) ∧
      ∀ body text, DeclarationLayout name fields body text →
        Schema.ofSource (String.ofList text) =
          .ok ⟨name, fields, String.ofList (trim body)⟩ := by
  refine ⟨exists_declarationLayout named writable, fun body text layout => ?_⟩
  obtain ⟨openBrace, found⟩ := layout.exists_first
  rw [Schema.ofSource, found]
  simp only [String.toList_ofList, Field.parseBody_trim, layout.parseBody]

/-- An array of objects with its mark on a line of its own, a name that is used twice, and a last
field that nothing ends, before an open brace. -/
theorem ofSource_declarationLayout_array :
    let members : List Field := [⟨"sku", true, false, .string⟩, ⟨"2nd", false, true, .number⟩]
    let fields : List Field :=
      [⟨"items", false, true, .object members⟩, ⟨"items", true, false, .unknown⟩]
    IsName "Order".toList ∧ (Shape.object fields).EveryLevel Writable ∧
      Schema.ofSource ("type Order\u00a0=\x7b items\t? :\n\x7bsku:string;2nd ?: number[] \x7d\n" ++
          "[]items: A | B \x7d \x7b") =
        .ok ⟨"Order", fields,
          "items\t? :\n\x7bsku:string;2nd ?: number[] \x7d\n[]items: A | B"⟩ := by
  intro members fields
  have named : IsName "Order".toList := by decide
  have writable : (Shape.object fields).EveryLevel Writable := by decide
  have tab : IsBlanks ['\t'] := by decide
  have wide : IsBlanks ['\u00a0'] := by decide
  have gap : IsGap [' '] := by decide
  have sku : HeadLayout "sku" true "sku:".toList :=
    .required (by decide) isBlanks_nil isBlanks_nil isBlanks_nil
  have second : HeadLayout "2nd" false "2nd ?: ".toList :=
    .optional (by decide) isBlanks_nil isBlanks_space isBlanks_nil isBlanks_space
  have array : HeadLayout "items" false " items\t? :\n".toList :=
    .optional (by decide) isBlanks_space tab isBlanks_space isBlanks_newline
  have last : HeadLayout "items" true "items: ".toList :=
    .required (by decide) isBlanks_nil isBlanks_nil isBlanks_space
  have string : TokenLayout false .string "string".toList := .named (by decide)
  have numbers : TokenLayout true .number "number[]".toList := .named (by decide)
  have union : TokenLayout false .unknown "A | B".toList :=
    .unknown (by decide) (by decide)
  have inner : Layout members "sku:string;2nd ?: number[] ".toList :=
    .leaf sku string isGap_nil (.inl rfl) (.lastLeaf second numbers gap)
  have body : Layout fields
      " items\t? :\n\x7bsku:string;2nd ?: number[] \x7d\n[]items: A | B".toList :=
    .object array inner isBlanks_nil (.array isBlanks_newline) (.inl rfl)
      (.lastLeaf last union isGap_nil)
  have declaration : DeclarationLayout "Order" fields _ (_ ++ (_ ++ (_ ++ (_ ++ (_ ++ (_ ++
      '{' :: (_ ++ '}' :: [' ', '{']))))))) :=
    .declare (.inr rfl) (by decide) isBlanks_space named wide (.inr rfl) isBlanks_nil body
      isBlanks_space
  exact ⟨named, writable, (ofSource_declarationLayout named writable).2 _ _ declaration⟩

end InterfaceGen
