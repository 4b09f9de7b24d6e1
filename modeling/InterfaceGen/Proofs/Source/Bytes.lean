import InterfaceGen.Proofs.Text.Slices
import InterfaceGen.Source.Braces

/-!
# Braces among bytes

Braces can be matched on the bytes of a text in UTF-8 as well as on its characters, from any offset
on: a character that is no brace has no byte of one, not even if the offset cuts it.
-/

namespace InterfaceGen

open Text

namespace Text

/-- The bytes of a text in UTF-8. -/
def utf8 (text : List Char) : List UInt8 :=
  text.flatMap String.utf8EncodeChar

@[simp] theorem utf8_cons (char : Char) (rest : List Char) :
    utf8 (char :: rest) = String.utf8EncodeChar char ++ utf8 rest :=
  List.flatMap_cons

@[simp] theorem length_utf8 (text : List Char) : (utf8 text).length = byteLength text := by
  induction text with
  | nil => rfl
  | cons char rest inductionHypothesis =>
      simp [byteLength, inductionHypothesis, String.length_utf8EncodeChar]

/-- A character of ASCII is one byte of its own value, and no byte of another one has such a
value. -/
theorem utf8EncodeChar_cases (char : Char) :
    (char.toNat < 128 ∧ String.utf8EncodeChar char = [UInt8.ofNat char.toNat]) ∨
      ∀ byte ∈ String.utf8EncodeChar char, 128 ≤ byte.toNat := by
  have code : char.val.toNat = char.toNat := rfl
  simp only [String.utf8EncodeChar, code]
  split
  · next ascii => exact .inl ⟨by omega, rfl⟩
  · refine .inr ?_
    split
    · simp only [List.forall_mem_cons, UInt8.toNat_ofNat', List.not_mem_nil, false_imp_iff,
        implies_true, and_true]
      omega
    · split
      all_goals
        simp only [List.forall_mem_cons, UInt8.toNat_ofNat', List.not_mem_nil, false_imp_iff,
          implies_true, and_true]
        omega

end Text

namespace Source

/-- Bytes without braces. -/
def NoBraceByte (bytes : List UInt8) : Prop :=
  ∀ byte ∈ bytes, byte ≠ '{'.toUInt8 ∧ byte ≠ '}'.toUInt8

/-- A character that is no brace has no byte of one. -/
theorem noBraceByte_utf8EncodeChar {char : Char} (noOpening : char ≠ '{') (noClosing : char ≠ '}') :
    NoBraceByte (String.utf8EncodeChar char) := by
  obtain ⟨ascii, encoded⟩ | beyond := utf8EncodeChar_cases char
  · have value : (UInt8.ofNat char.toNat).toNat = char.toNat := by
      rw [UInt8.toNat_ofNat']
      omega
    rw [encoded]
    refine List.forall_mem_singleton.2 ⟨fun same => noOpening ?_, fun same => noClosing ?_⟩
    all_goals
      rw [same] at value
      exact Char.toNat_inj.1 value.symm
  · intro byte member
    have := beyond byte member
    constructor <;> rintro rfl <;> revert this <;> decide

/-- The offset of the byte that closes the last of `depth` open braces. At depth zero the first
opening brace begins the nesting. -/
def scanClosing (depth : Nat) : List UInt8 → Option Nat
  | [] => none
  | byte :: rest =>
    if byte = '{'.toUInt8 then (scanClosing (depth + 1) rest).map (1 + ·)
    else if byte = '}'.toUInt8 then
      if depth - 1 = 0 then some 0 else (scanClosing (depth - 1) rest).map (1 + ·)
    else (scanClosing depth rest).map (1 + ·)

/-- The byte offset of the brace that closes the first brace at or after a byte offset. -/
def matchingBrace? (text : List Char) (start : Nat) : Option Nat :=
  (scanClosing 0 ((utf8 text).drop start)).map (start + ·)

/-- Bytes without braces are passed. -/
theorem scanClosing_append {bytes : List UInt8} (none : NoBraceByte bytes) (depth : Nat)
    (rest : List UInt8) :
    scanClosing depth (bytes ++ rest) = (scanClosing depth rest).map (bytes.length + ·) := by
  induction bytes with
  | nil => simp
  | cons byte others inductionHypothesis =>
      obtain ⟨here, later⟩ := List.forall_mem_cons.1 none
      rw [List.cons_append, scanClosing, if_neg here.1, if_neg here.2, inductionHypothesis later,
        Option.map_map]
      congr 1
      funext offset
      simp
      omega

/-- The bytes of a text are scanned as its characters are split. -/
theorem scanClosing_utf8 (depth : Nat) (text : List Char) :
    scanClosing depth (utf8 text) =
      (splitClosing depth text).map fun (before, _) => byteLength before := by
  induction text generalizing depth with
  | nil => rfl
  | cons char rest inductionHypothesis =>
      rw [utf8_cons, splitClosing]
      by_cases opening : char = '{'
      · subst opening
        have encoded : String.utf8EncodeChar '{' = ['{'.toUInt8] := rfl
        have size : Char.utf8Size '{' = 1 := rfl
        simp [encoded, size, scanClosing, inductionHypothesis, Function.comp_def, byteLength]
      · by_cases closing : char = '}'
        · subst closing
          have encoded : String.utf8EncodeChar '}' = ['}'.toUInt8] := rfl
          have size : Char.utf8Size '}' = 1 := rfl
          have differ : '}'.toUInt8 ≠ '{'.toUInt8 := by decide
          rw [encoded, List.singleton_append, scanClosing, if_neg differ, if_pos rfl]
          by_cases last : depth ≤ 1
          · rw [if_pos (by omega), if_pos ⟨rfl, last⟩]
            rfl
          · rw [if_neg (by omega), if_neg (by simp [last])]
            simp [size, inductionHypothesis, Function.comp_def, byteLength]
        · rw [scanClosing_append (noBraceByte_utf8EncodeChar opening closing)]
          simp [opening, closing, inductionHypothesis, Function.comp_def, byteLength,
            String.length_utf8EncodeChar]

/-! ## From any offset on -/

/-- An offset leaves the bytes of what stands behind it, and before them those of the character that
it may cut, which is no brace. -/
theorem exists_drop_utf8 (start : Nat) (text : List Char) :
    ∃ cut, NoBraceByte cut ∧ (utf8 text).drop start = cut ++ utf8 (fromByte start text) := by
  induction text generalizing start with
  | nil => exact ⟨[], nofun, by cases start <;> rfl⟩
  | cons char rest inductionHypothesis =>
      rw [fromByte, utf8_cons]
      split
      · next zero => exact ⟨[], nofun, by simp [zero]⟩
      · next positive =>
          obtain ⟨cut, none, behind⟩ := inductionHypothesis (start - char.utf8Size)
          rw [List.drop_append, String.length_utf8EncodeChar, behind]
          by_cases brace : char = '{' ∨ char = '}'
          · have nothing : (String.utf8EncodeChar char).drop start = [] := by
              apply List.drop_eq_nil_of_le
              obtain rfl | rfl := brace <;> exact Nat.one_le_iff_ne_zero.2 positive
            exact ⟨cut, none, by rw [nothing, List.nil_append]⟩
          · have noBrace := noBraceByte_utf8EncodeChar (mt .inl brace) (mt .inr brace)
            refine ⟨_ ++ cut, ?_, (List.append_assoc _ cut _).symm⟩
            exact List.forall_mem_append.2
              ⟨fun byte member => noBrace byte (List.mem_of_mem_drop member), none⟩

/-- Matched on bytes or on characters, the closing brace is the same. -/
theorem matchingBrace?_eq_closingBrace? (text : List Char) (start : Nat) :
    matchingBrace? text start = closingBrace? text start := by
  obtain ⟨cut, none, behind⟩ := exists_drop_utf8 start text
  rw [matchingBrace?, closingBrace?, behind, scanClosing_append none, scanClosing_utf8]
  have lengths := congrArg List.length behind
  rw [List.length_drop, List.length_append, length_utf8, length_utf8] at lengths
  cases split : splitClosing 0 (fromByte start text) with
  | none => rfl
  | some parts =>
      have left : fromByte start text ≠ [] := by
        intro nothing
        rw [nothing] at split
        cases split
      have := mt byteLength_eq_zero_iff.1 left
      simp only [Option.map_some, Option.some.injEq]
      omega

/-- The brace that closes the first one behind an offset is found in the text behind it. -/
theorem matchingBrace?_of_remains {text rest : List Char} {offset : Nat}
    (remains : Remains text offset rest) :
    matchingBrace? text offset =
      (splitClosing 0 rest).map fun (before, _) => offset + byteLength before := by
  obtain ⟨before, rfl, rfl⟩ := remains
  have behind : (utf8 (before ++ rest)).drop (byteLength before) = utf8 rest := by
    rw [← length_utf8]
    simp [utf8]
  rw [matchingBrace?, behind, scanClosing_utf8, Option.map_map]
  rfl

/-- The brace that closes an opening one is found in the text behind that one. -/
theorem matchingBrace?_of_opening {text inner : List Char} {offset : Nat}
    (remains : Remains text offset ('{' :: inner)) :
    matchingBrace? text offset =
      (splitClosing 1 inner).map fun (before, _) => offset + 1 + byteLength before := by
  have opened : splitClosing 0 ('{' :: inner) =
      (splitClosing 1 inner).map fun (before, after) => ('{' :: before, after) := by
    simp [splitClosing]
  have size : Char.utf8Size '{' = 1 := rfl
  rw [matchingBrace?_of_remains remains, opened, Option.map_map]
  simp only [Function.comp_def, byteLength, size, Nat.add_assoc]

end Source

end InterfaceGen
