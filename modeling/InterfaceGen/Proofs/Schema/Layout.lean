import InterfaceGen.Proofs.Schema.Levels
import InterfaceGen.Proofs.Schema.Pieces
import InterfaceGen.Schema.OfSource

/-!
# Layouts

The ways to write fields, and a declaration of them, as text: with blanks between the parts, on one
line or on many. Whatever the layout, the text reads back as the fields and the name it was written
for.
-/

namespace InterfaceGen

open Text Source

/-! ## Ways to write a field -/

/-- The ways to write what comes before a type. Blanks may stand everywhere but within the name. -/
inductive HeadLayout (name : String) : Bool → List Char → Prop where
  | required {before between after : List Char} (named : IsName name.toList)
      (lead : IsBlanks before) (inside : IsBlanks between) (trail : IsBlanks after) :
      HeadLayout name true (before ++ (name.toList ++ (between ++ ':' :: after)))
  | optional {before between more after : List Char} (named : IsName name.toList)
      (lead : IsBlanks before) (inside : IsBlanks between) (marked : IsBlanks more)
      (trail : IsBlanks after) :
      HeadLayout name false
        (before ++ (name.toList ++ (between ++ '?' :: (more ++ ':' :: after))))

/-- The tokens that name a type, with whether it is an array and of which shape. -/
def typeTokens : List (String × Bool × Shape) :=
  [("string", false, .string), ("number", false, .number), ("boolean", false, .boolean),
    ("string[]", true, .string), ("number[]", true, .number), ("boolean[]", true, .boolean)]

/-- A token that can stand for a type on one line. -/
structure IsToken (token : List Char) : Prop where
  nonempty : token ≠ []
  trimmed : trim token = token
  onLine : ∀ char ∈ token, endsToken char = false
  braceless : Braceless token

instance (token : List Char) : Decidable (IsToken token) :=
  have := List.decidableBAll (fun char => endsToken char = false) token
  decidable_of_iff
    (token ≠ [] ∧ trim token = token ∧ (∀ char ∈ token, endsToken char = false) ∧ Braceless token)
    ⟨fun ⟨nonempty, trimmed, onLine, braceless⟩ => ⟨nonempty, trimmed, onLine, braceless⟩,
      fun isToken => ⟨isToken.nonempty, isToken.trimmed, isToken.onLine, isToken.braceless⟩⟩

/-- The ways to write a type that is no object. -/
inductive TokenLayout : Bool → Shape → List Char → Prop where
  | named {token : String} {repeated : Bool} {shape : Shape}
      (listed : (token, repeated, shape) ∈ typeTokens) :
      TokenLayout repeated shape token.toList
  | unknown {token : List Char} (isToken : IsToken token)
      (other : ∀ entry ∈ typeTokens, token ≠ entry.1.toList) :
      TokenLayout false .unknown token

/-- The ways to mark whether an object is an array of such. -/
inductive MarkLayout : Bool → List Char → Prop where
  | single : MarkLayout false []
  | array {before : List Char} (lead : IsBlanks before) : MarkLayout true (before ++ ['[', ']'])

/-- The ways to write fields. A type that is no object ends at a semicolon or with its line, which
the last one need not do. An object ends by itself, and may have its semicolon at the end of a
line. -/
inductive Layout : List Field → List Char → Prop where
  | nil : Layout [] []
  | leaf {name : String} {required repeated : Bool} {shape : Shape} {fields : List Field}
      {head token gap text : List Char} {stop : Char} (start : HeadLayout name required head)
      (type : TokenLayout repeated shape token) (trail : IsGap gap)
      (ends : stop = ';' ∨ stop = '\n') (rest : Layout fields text) :
      Layout (⟨name, required, repeated, shape⟩ :: fields)
        (head ++ (token ++ (gap ++ stop :: text)))
  | lastLeaf {name : String} {required repeated : Bool} {shape : Shape}
      {head token gap : List Char} (start : HeadLayout name required head)
      (type : TokenLayout repeated shape token) (trail : IsGap gap) :
      Layout [⟨name, required, repeated, shape⟩] (head ++ (token ++ gap))
  | object {name : String} {required repeated : Bool} {members fields : List Field}
      {head body gap mark close text : List Char} (start : HeadLayout name required head)
      (inner : Layout members body) (trail : IsBlanks gap) (marked : MarkLayout repeated mark)
      (ends : close = [] ∨ close = [';', '\n']) (rest : Layout fields text) :
      Layout (⟨name, required, repeated, .object members⟩ :: fields)
        (head ++ '{' :: (body ++ (gap ++ '}' :: (mark ++ (close ++ text)))))

/-- The ways to write a declaration at the front of a text, given what its braces hold. -/
inductive DeclarationLayout (name : String) (fields : List Field) :
    List Char → List Char → Prop where
  | declare {keyword blanks before equals after body gap rest : List Char}
      (word : keyword = "interface".toList ∨ keyword = "type".toList)
      (separated : blanks ≠ []) (lead : IsBlanks blanks) (named : IsName name.toList)
      (beforeEquals : IsBlanks before) (equal : equals = [] ∨ equals = ['='])
      (afterEquals : IsBlanks after) (inner : Layout fields body) (trail : IsBlanks gap) :
      DeclarationLayout name fields (body ++ gap)
        (keyword ++ (blanks ++ (name.toList ++ (before ++ (equals ++ (after ++
          '{' :: ((body ++ gap) ++ '}' :: rest)))))))

/-! ## Reading a field back -/

theorem isToken_of_mem_typeTokens {token : String} {repeated : Bool} {shape : Shape}
    (listed : (token, repeated, shape) ∈ typeTokens) : IsToken token.toList := by
  simp only [typeTokens, List.mem_cons, Prod.mk.injEq, List.not_mem_nil, or_false] at listed
  rcases listed with ⟨rfl, -⟩ | ⟨rfl, -⟩ | ⟨rfl, -⟩ | ⟨rfl, -⟩ | ⟨rfl, -⟩ | ⟨rfl, -⟩ <;> decide

theorem TokenLayout.isToken {repeated : Bool} {shape : Shape} {token : List Char}
    (type : TokenLayout repeated shape token) : IsToken token := by
  cases type with
  | named listed => exact isToken_of_mem_typeTokens listed
  | unknown isToken _ => exact isToken

/-- A token that no type has for its notation is of no known type. -/
theorem classify_eq_unknown {token : List Char}
    (unlisted : ∀ entry ∈ typeTokens, token ≠ entry.1.toList) :
    classify token = (false, .unknown) := by
  simp only [typeTokens, List.forall_mem_cons] at unlisted
  obtain ⟨string, number, boolean, strings, numbers, booleans, -⟩ := unlisted
  rw [classify, if_neg string, if_neg number, if_neg boolean, if_neg strings, if_neg numbers,
    if_neg booleans]

/-- A token is classified as the type that it was written for. -/
theorem TokenLayout.classify_eq {repeated : Bool} {shape : Shape} {token : List Char}
    (type : TokenLayout repeated shape token) : classify token = (repeated, shape) := by
  cases type with
  | named listed =>
      simp only [typeTokens, List.mem_cons, Prod.mk.injEq, List.not_mem_nil, or_false] at listed
      rcases listed with ⟨rfl, rfl, rfl⟩ | ⟨rfl, rfl, rfl⟩ | ⟨rfl, rfl, rfl⟩ | ⟨rfl, rfl, rfl⟩ |
        ⟨rfl, rfl, rfl⟩ | ⟨rfl, rfl, rfl⟩ <;> rfl
  | unknown _ unlisted => exact classify_eq_unknown unlisted

/-- A token is the front of the text that it begins. -/
theorem IsToken.exists_cons {token : List Char} (isToken : IsToken token) :
    ∃ first others, token = first :: others ∧ isBlank first = false ∧ first ≠ '{' := by
  obtain ⟨first, others, rfl⟩ := List.exists_cons_of_ne_nil isToken.nonempty
  exact ⟨first, others, rfl, isBlank_eq_false_of_dropBlanks
    (dropBlanks_eq_self_of_trim isToken.trimmed), (isToken.braceless _ List.mem_cons_self).1⟩

/-- A type that is a token takes the text up to the end of the token's part of the line. -/
theorem IsToken.ofType_append {token : List Char} (isToken : IsToken token) (head : FieldHead)
    (rest : List Char) :
    Piece.ofType head (token ++ rest) =
      .leaf head (trim (token ++ rest.takeWhile (!endsToken ·)))
        ((rest.dropWhile (!endsToken ·)).drop 1) := by
  have inside : ∀ char ∈ token, (!endsToken char) = true := by simpa using isToken.onLine
  obtain ⟨first, others, rfl, visible, opening⟩ := isToken.exists_cons
  have front : dropBlanks (first :: others ++ rest) = first :: (others ++ rest) :=
    dropBlanks_cons visible _
  rw [Piece.ofType_token front opening, ← List.cons_append, List.takeWhile_append_of_pos inside,
    List.dropWhile_append_of_pos inside]

theorem endsToken_eq_false_of_isGap {gap : List Char} (isGap : IsGap gap) :
    ∀ char ∈ gap, (!endsToken char) = true := by
  intro char member
  obtain ⟨blank, onLine⟩ := isGap char member
  have semicolon : char ≠ ';' := by
    rintro rfl
    exact absurd blank (by decide)
  simp [endsToken, semicolon, onLine]

/-- The token of a type is read without the blanks behind it. -/
theorem IsToken.ofType_stop {token gap : List Char} (isToken : IsToken token) (trail : IsGap gap)
    {stop : Char} (ends : stop = ';' ∨ stop = '\n') (head : FieldHead) (rest : List Char) :
    Piece.ofType head (token ++ (gap ++ stop :: rest)) = .leaf head token rest := by
  have stops : endsToken stop = true := by rcases ends with rfl | rfl <;> rfl
  have inside := endsToken_eq_false_of_isGap trail
  rw [isToken.ofType_append, List.takeWhile_append_of_pos inside,
    List.dropWhile_append_of_pos inside]
  simp [stops, trim_append_blanks trail.isBlanks, isToken.trimmed]

/-- The token at the end of a body is read without the blanks behind it. -/
theorem IsToken.ofType_last {token gap : List Char} (isToken : IsToken token) (trail : IsGap gap)
    (head : FieldHead) : Piece.ofType head (token ++ gap) = .leaf head token [] := by
  have inside := endsToken_eq_false_of_isGap trail
  rw [isToken.ofType_append, List.takeWhile_eq_self_iff.2 inside,
    List.dropWhile_eq_nil_iff.2 inside, trim_append_blanks trail.isBlanks, isToken.trimmed]
  rfl

/-- A head reads back, and what follows it is read as the type. -/
theorem HeadLayout.read?_append {name : String} {required : Bool} {head : List Char}
    (start : HeadLayout name required head) (rest : List Char) :
    Piece.read? (head ++ rest) = some (Piece.ofType ⟨name.toList, required⟩ rest) := by
  cases start with
  | required named lead inside trail =>
      have read := FieldHead.read?_required named inside
      simp [Piece.read?, dropBlanks_append lead, dropBlanks_name_append named, read,
        Piece.ofType_blanks_append trail]
  | optional named lead inside marked trail =>
      have read := FieldHead.read?_optional named inside marked
      simp [Piece.read?, dropBlanks_append lead, dropBlanks_name_append named, read,
        Piece.ofType_blanks_append trail]

/-! ## Reading fields back -/

/-- A field begins with a character that opens no array mark. -/
theorem HeadLayout.afterArrayMark?_append {name : String} {required : Bool} {head : List Char}
    (start : HeadLayout name required head) (rest : List Char) :
    afterArrayMark? (head ++ rest) = none := by
  have front : ∀ {before tail : List Char}, IsBlanks before → IsName name.toList →
      afterArrayMark? (before ++ (name.toList ++ tail)) = none := by
    intro before tail lead named
    rw [afterArrayMark?, dropBlanks_append lead, dropBlanks_name_append named]
    obtain ⟨first, others, cons⟩ := List.exists_cons_of_ne_nil named.1
    have nameChar := named.2 first (cons ▸ List.mem_cons_self)
    rw [cons]
    split
    · next bracket =>
        obtain rfl := (List.cons.inj bracket).1
        exact absurd nameChar (by decide)
    · rfl
  cases start with
  | required named lead _ _ => simpa using front lead named
  | optional named lead _ _ _ => simpa using front lead named

theorem Layout.afterArrayMark? {fields : List Field} {text : List Char}
    (layout : Layout fields text) : afterArrayMark? text = none := by
  cases layout with
  | nil => rfl
  | leaf start => exact start.afterArrayMark?_append _
  | lastLeaf start => exact start.afterArrayMark?_append _
  | object start => exact start.afterArrayMark?_append _

/-- Whether an object is an array of such shows behind its closing brace. -/
theorem MarkLayout.afterArrayMark?_append {repeated : Bool} {mark rest : List Char}
    (marked : MarkLayout repeated mark) (unmarked : afterArrayMark? rest = none) :
    afterArrayMark? (mark ++ rest) = if repeated then some rest else none := by
  cases marked with
  | single => exact unmarked
  | array lead =>
      have visible : isBlank '[' = false := by decide
      simp [InterfaceGen.afterArrayMark?, dropBlanks_append lead, dropBlanks_cons visible]

/-- The end of an object's line is skipped. -/
theorem parseBody_close_append {close : List Char} (ends : close = [] ∨ close = [';', '\n'])
    (rest : List Char) : Field.parseBody (close ++ rest) = Field.parseBody rest := by
  rcases ends with rfl | rfl
  · rfl
  · have visible : isBlank ';' = false := by decide
    have read : Piece.read? (';' :: '\n' :: rest) = some (.skipped rest) := by
      simp [Piece.read?, dropBlanks_cons visible, FieldHead.read?, isNameChar, afterLine?]
    exact Field.parseBody_of_read? read

theorem afterArrayMark?_close_append {close rest : List Char}
    (ends : close = [] ∨ close = [';', '\n']) (unmarked : afterArrayMark? rest = none) :
    afterArrayMark? (close ++ rest) = none := by
  rcases ends with rfl | rfl
  · exact unmarked
  · have visible : isBlank ';' = false := by decide
    simp [InterfaceGen.afterArrayMark?, dropBlanks_cons visible]

theorem braceless_of_isName {name : List Char} (named : IsName name) : Braceless name := by
  intro char member
  have nameChar := named.2 char member
  constructor <;> (rintro rfl; exact absurd nameChar (by decide))

theorem HeadLayout.balanced {name : String} {required : Bool} {head : List Char}
    (start : HeadLayout name required head) : Balanced head := by
  have named {name : List Char} (isName : IsName name) : Balanced name :=
    (braceless_of_isName isName).balanced
  have blank {blanks : List Char} (all : IsBlanks blanks) : Balanced blanks :=
    (braceless_of_isBlanks all).balanced
  cases start with
  | required isName lead inside trail =>
      exact (blank lead).append ((named isName).append ((blank inside).append
        (.char (by decide) (by decide) (blank trail))))
  | optional isName lead inside marked trail =>
      exact (blank lead).append ((named isName).append ((blank inside).append
        (.char (by decide) (by decide) ((blank marked).append
          (.char (by decide) (by decide) (blank trail))))))

/-- The braces of a layout match. -/
theorem Layout.balanced {fields : List Field} {text : List Char} (layout : Layout fields text) :
    Balanced text := by
  have blank {blanks : List Char} (all : IsBlanks blanks) : Balanced blanks :=
    (braceless_of_isBlanks all).balanced
  induction layout with
  | nil => exact .nil
  | @leaf _ _ _ _ _ _ _ _ text stop start type trail ends _ restHypothesis =>
      have ended : Balanced (stop :: text) := by
        rcases ends with rfl | rfl <;> exact .char (by decide) (by decide) restHypothesis
      exact start.balanced.append (type.isToken.braceless.balanced.append
        ((blank trail.isBlanks).append ended))
  | lastLeaf start type trail =>
      exact start.balanced.append (type.isToken.braceless.balanced.append (blank trail.isBlanks))
  | @object _ _ _ _ _ _ body gap mark close text start _ trail marked ends _ innerHypothesis
      restHypothesis =>
      have inner : Balanced (body ++ gap) := innerHypothesis.append (blank trail)
      have markBalanced : Balanced mark := by
        cases marked with
        | single => exact .nil
        | array lead =>
            exact (blank lead).append (.char (by decide) (by decide)
              (.char (by decide) (by decide) .nil))
      have closeBalanced : Balanced close := by
        rcases ends with rfl | rfl
        · exact .nil
        · exact .char (by decide) (by decide) (.char (by decide) (by decide) .nil)
      simpa using start.balanced.append
        (.nested inner (markBalanced.append (closeBalanced.append restHypothesis)))

/-- Fields read back, whatever their layout. -/
theorem Layout.parseBody {fields : List Field} {text : List Char} (layout : Layout fields text) :
    Field.parseBody text = fields := by
  induction layout with
  | nil => exact Field.parseBody_blanks (by simp [IsBlanks])
  | leaf start type trail ends _ restHypothesis =>
      rw [Field.parseBody_of_read? (start.read?_append _), type.isToken.ofType_stop trail ends,
        Piece.fields, restHypothesis, type.classify_eq]
      simp [FieldHead.declare]
  | lastLeaf start type trail =>
      rw [Field.parseBody_of_read? (start.read?_append _), type.isToken.ofType_last trail,
        Piece.fields, type.classify_eq, Field.parseBody_blanks (by simp [IsBlanks])]
      simp [FieldHead.declare]
  | @object name required repeated members fields head body gap mark close text start inner trail
      marked ends rest innerHypothesis restHypothesis =>
      have balanced : Balanced (body ++ gap) :=
        inner.balanced.append (braceless_of_isBlanks trail).balanced
      have bodyFields : Field.parseBody (body ++ gap) = members := by
        rw [Field.parseBody_append_blanks trail, innerHypothesis]
      have restFields : Field.parseBody (close ++ text) = fields := by
        rw [parseBody_close_append ends, restHypothesis]
      have unmarked := afterArrayMark?_close_append ends rest.afterArrayMark?
      rw [← List.append_assoc body gap, Field.parseBody_of_read? (start.read?_append _),
        Piece.ofType_object balanced, marked.afterArrayMark?_append unmarked]
      cases marked with
      | single => simp [Piece.fields, FieldHead.declare, bodyFields, restFields]
      | array lead => simp [Piece.fields, FieldHead.declare, bodyFields, restFields]

end InterfaceGen
