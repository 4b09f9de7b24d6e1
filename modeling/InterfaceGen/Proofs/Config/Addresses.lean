import InterfaceGen.Config.Load
import InterfaceGen.Proofs.Config.Literals
import InterfaceGen.Proofs.Naming.Resource

/-!
# Addresses of records

A prefix of addresses is accepted if it is empty, begins with a slash, or holds the mark of an
absolute address. The address of the records is the prefix without the slashes at its end, followed
by a path that has no mark of its own. So it is rooted or absolute as the prefix is, but for one
kind of prefix: of a bare scheme the slashes that are taken away are those of the mark.
-/

namespace InterfaceGen

open Text

/-- The mark between the scheme and the rest of an absolute address. -/
def schemeMark : List Char :=
  [':', '/', '/']

/-- A text that begins with a slash or holds the mark of an absolute address. -/
def IsAddress (text : List Char) : Prop :=
  ['/'] <+: text ∨ schemeMark <:+: text

instance (text : List Char) : Decidable (IsAddress text) :=
  inferInstanceAs (Decidable (['/'] <+: text ∨ schemeMark <:+: text))

/-- A text that is no address before the mark with which it ends, and has but slashes behind it. -/
def IsBareScheme (text : List Char) : Prop :=
  ∃ scheme count, text = scheme ++ schemeMark ++ List.replicate count '/' ∧ ¬ IsAddress scheme

/-! ## Accepted prefixes -/

namespace Config

theorem hasScheme_iff {text : List Char} : hasScheme text = true ↔ schemeMark <:+: text := by
  fun_induction hasScheme text with
  | case1 => simp [schemeMark]
  | case2 rest => exact iff_of_true rfl ⟨[], rest, rfl⟩
  | case3 char rest unmarked inductionHypothesis =>
      have notHere : ¬ schemeMark <+: char :: rest := by
        rintro ⟨behind, split⟩
        obtain ⟨rfl, rfl⟩ := List.cons.inj split
        exact unmarked behind rfl rfl
      rw [inductionHypothesis, List.infix_cons_iff, or_iff_right notHere]

theorem isAddressPrefix_iff {text : List Char} :
    isAddressPrefix text = true ↔ text = [] ∨ IsAddress text := by
  have rooted : text.head? = some '/' ↔ ['/'] <+: text := by
    cases text <;> simp [eq_comm]
  simp only [isAddressPrefix, Bool.or_eq_true, List.isEmpty_iff, beq_iff_eq, hasScheme_iff, rooted,
    or_assoc, IsAddress]

/-- A configuration is accepted with a prefix that is empty or an address. -/
theorem isAddress_of_ofToml {document : String} {config : Config}
    (accepted : ofToml document = .ok config) :
    config.apiPrefix.toList = [] ∨ IsAddress config.apiPrefix.toList := by
  rw [ofToml] at accepted
  split at accepted
  · cases accepted
  · split at accepted
    · cases accepted
    · split at accepted
      · next addressed =>
          obtain rfl := Except.ok.inj accepted
          exact isAddressPrefix_iff.1 addressed
      · cases accepted

end Config

/-! ## Texts in two parts -/

/-- Where the second part has no colon and the first does not end in a slash, the mark stands in the
first part, or its colon ends this part. -/
theorem schemeMark_infix_append_iff {front behind : List Char}
    (ends : front.getLast? ≠ some '/') (unmarked : ':' ∉ behind) :
    schemeMark <:+: front ++ behind ↔
      schemeMark <:+: front ∨ (∃ scheme, front = scheme ++ [':']) ∧ ['/', '/'] <+: behind := by
  constructor
  · rintro ⟨before, after, split⟩
    rw [List.append_assoc, List.append_eq_append_iff] at split
    obtain ⟨middle, rfl, split⟩ | ⟨middle, -, split⟩ := split
    · -- The colon of the mark is in the first part; the cases are how much of the mark is.
      match middle with
      | [] =>
          obtain rfl : schemeMark ++ after = behind := split
          simp [schemeMark] at unmarked
      | [colon] =>
          obtain ⟨rfl, slashes⟩ : ':' = colon ∧ '/' :: '/' :: after = behind := by
            simpa [schemeMark] using split
          exact .inr ⟨⟨before, rfl⟩, after, slashes⟩
      | [colon, slash] =>
          obtain ⟨-, rfl, -⟩ : ':' = colon ∧ '/' = slash ∧ '/' :: after = behind := by
            simpa [schemeMark] using split
          simp at ends
      | colon :: slash :: second :: others =>
          obtain ⟨rfl, rfl, rfl, -⟩ :
              ':' = colon ∧ '/' = slash ∧ '/' = second ∧ after = others ++ behind := by
            simpa [schemeMark] using split
          exact .inl ⟨before, others, by simp [schemeMark]⟩
    · exact absurd (by simp [split, schemeMark]) unmarked
  · rintro (within | ⟨⟨scheme, rfl⟩, rest, rfl⟩)
    · exact within.trans List.infix_append_left
    · exact ⟨scheme, rest, by simp [schemeMark]⟩

/-- A text with a second part that has no colon is an address if the first part is one, if there is
no first part and the second begins with a slash, or if the two join in the mark. -/
theorem isAddress_append_iff {front behind : List Char}
    (ends : front.getLast? ≠ some '/') (unmarked : ':' ∉ behind) :
    IsAddress (front ++ behind) ↔ IsAddress front ∨ (front = [] ∧ ['/'] <+: behind) ∨
      (∃ scheme, front = scheme ++ [':']) ∧ ['/', '/'] <+: behind := by
  rw [IsAddress, IsAddress, schemeMark_infix_append_iff ends unmarked]
  cases front with
  | nil => simp [or_comm]
  | cons first others => simp [or_assoc]

theorem IsAddress.append {front : List Char} (address : IsAddress front) (behind : List Char) :
    IsAddress (front ++ behind) :=
  address.imp (·.trans (List.prefix_append front behind)) (·.trans List.infix_append_left)

theorem IsAddress.of_colon {scheme : List Char} (address : IsAddress (scheme ++ [':'])) :
    IsAddress scheme := by
  obtain rooted | marked := address
  · cases scheme with
    | nil => simp at rooted
    | cons first others => exact .inl (by simpa using rooted)
  · obtain ⟨before, split⟩ | within := List.infix_concat_iff.1 marked
    · have last := congrArg List.getLast? split
      simp [schemeMark] at last
    · exact .inr within

/-! ## The address of the records -/

/-- A path of records holds one slash, at its front, and no colon. -/
theorem exists_resourcePath {name : String} (named : IsName name.toList) :
    ∃ rest, (resourcePath name).toList = '/' :: rest ∧ '/' ∉ rest ∧ ':' ∉ rest := by
  obtain ⟨front, split, frontNamed⟩ := exists_plural named
  have pluralNamed : ∀ char ∈ (plural name).toList, isNameChar char = true := by
    rw [split]
    exact List.forall_mem_append.2 ⟨frontNamed, List.forall_mem_singleton.2 rfl⟩
  have plain := forall_mem_kebabFrom pluralNamed none none
  refine ⟨_, toList_resourcePath name, fun member => ?_, fun member => ?_⟩
  all_goals exact absurd (plain _ member) (by decide)

/-- Of a bare scheme what stands before the slashes of its mark is kept. -/
theorem Config.toList_apiBase_of_bareScheme {config : Config} {scheme : List Char} {count : Nat}
    (bare : config.apiPrefix.toList = scheme ++ schemeMark ++ List.replicate count '/') :
    config.apiBase.toList = scheme ++ [':'] := by
  have slashes : ∀ char ∈ List.replicate (count + 2) '/', (char == '/') = true := by
    simp [List.mem_replicate]
  have split : config.apiPrefix.toList = scheme ++ [':'] ++ List.replicate (count + 2) '/' := by
    rw [bare]
    simp [schemeMark, List.replicate_succ]
  rw [config.toList_apiBase, split, List.rdropWhile, List.reverse_append, List.reverse_replicate,
    List.dropWhile_append_of_pos slashes]
  simp

/-- The address of the records is what is kept of an accepted prefix, which does not end in a slash,
and the path of the records. It begins with a slash or is absolute exactly if the prefix is no bare
scheme. -/
theorem isAddress_base_iff {document : String} {config : Config}
    (accepted : Config.ofToml document = .ok config) {schema : Schema}
    (named : IsName schema.name.toList) :
    (∃ kept : String, (schema.toClient config).base = kept ++ resourcePath schema.name ∧
      kept.toList.getLast? ≠ some '/') ∧
    (IsAddress (schema.toClient config).base.toList ↔ ¬ IsBareScheme config.apiPrefix.toList) := by
  obtain ⟨⟨count, dropped⟩, ends⟩ := config.dropsSlashes_apiBase
  obtain ⟨rest, path, oneSlash, unmarked⟩ := exists_resourcePath named
  refine ⟨⟨config.apiBase, rfl, ends⟩, ?_⟩
  have base : (schema.toClient config).base.toList = config.apiBase.toList ++ '/' :: rest := by
    rw [← path, ← String.toList_append]
    rfl
  have noDouble : ¬ ['/', '/'] <+: '/' :: rest := by
    rintro ⟨behind, split⟩
    simp [← (List.cons.inj split).2] at oneSlash
  have whole : IsAddress (schema.toClient config).base.toList ↔
      IsAddress config.apiBase.toList ∨ config.apiBase.toList = [] := by
    rw [base, isAddress_append_iff ends (by simp [unmarked])]
    simp [noDouble]
  rw [whole]
  constructor
  · rintro kept ⟨scheme, slashes, bare, unaddressed⟩
    rw [Config.toList_apiBase_of_bareScheme bare] at kept
    obtain address | empty := kept
    · exact unaddressed address.of_colon
    · simp at empty
  · intro notBare
    obtain empty | address := Config.isAddress_of_ofToml accepted
    · rw [empty] at dropped
      exact .inr (List.append_eq_nil_iff.1 dropped.symm).1
    · rw [dropped, isAddress_append_iff ends (by simp [List.mem_replicate])] at address
      obtain address | ⟨empty, -⟩ | ⟨⟨scheme, kept⟩, slashes⟩ := address
      · exact .inl address
      · exact .inr empty
      · have twice : 2 ≤ count := by simpa using slashes.length_le
        obtain ⟨more, rfl⟩ := Nat.exists_eq_add_of_le' twice
        refine .inl (by_contra fun unaddressed => notBare ⟨scheme, more, ?_, fun address => ?_⟩)
        · rw [dropped, kept]
          simp [schemeMark, List.replicate_succ]
        · rw [kept] at unaddressed
          exact unaddressed (address.append [':'])

/-- A rooted prefix that ends in a mark, with a slash behind it. -/
theorem isAddress_base_iff_rooted :
    let config : Config := { apiPrefix := "/x:///" }
    let schema : Schema := ⟨"User", [], ""⟩
    Config.ofToml "api_prefix = '/x:///'" = .ok config ∧ IsName schema.name.toList ∧
      (schema.toClient config).base = "/x:/users" ∧
      IsAddress (schema.toClient config).base.toList ∧ ¬ IsBareScheme config.apiPrefix.toList := by
  intro config schema
  have accepted : Config.ofToml "api_prefix = '/x:///'" = .ok config := by decide +kernel
  have named : IsName schema.name.toList := by decide
  have base : (schema.toClient config).base = "/x:/users" := by decide +kernel
  have address : IsAddress (schema.toClient config).base.toList := by
    rw [base]
    decide
  exact ⟨accepted, named, base, address, (isAddress_base_iff accepted named).2.1 address⟩

/-- A bare scheme is accepted, and the address of the records is neither rooted nor absolute. -/
theorem not_isAddress_base_bareScheme :
    let config : Config := { apiPrefix := "https://" }
    let schema : Schema := ⟨"User", [], ""⟩
    Config.ofToml "api_prefix = \"https://\"" = .ok config ∧ IsName schema.name.toList ∧
      (schema.toClient config).base = "https:/users" ∧
      ¬ IsAddress (schema.toClient config).base.toList := by
  decide +kernel

end InterfaceGen
