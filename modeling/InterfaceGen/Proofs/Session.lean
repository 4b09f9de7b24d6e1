import InterfaceGen.Proofs.Source.Location
import InterfaceGen.Proofs.Text.WholeLines
import InterfaceGen.Session

/-!
# Sessions after any updates

A session shows what its latest text gives, and nothing of the texts before it: it is blank, or it
has a schema with files, or an error. The error is one of the text, and its position is in the text.
-/

namespace InterfaceGen

open Text Source

/-! ## Positions of errors -/

/-- The position that the reason why a text has no declaration carries. -/
def Source.SourceError.position? : SourceError → Option Position
  | .noDeclaration => none
  | .missingOpenBrace _ position | .unbalancedBraces _ position => some position

/-- The position that an error carries. -/
def Error.position? : Error → Option Position
  | .source cause => cause.position?
  | _ => none

/-- Where a text is wrong is a position in the text. -/
theorem Source.Locates.isIn_position {text : List Char} {cause : SourceError} {position : Position}
    (locates : Locates text (.error cause)) (carried : cause.position? = some position) :
    position.IsIn text := by
  cases locates with
  | @unbalanced before head _ inner opens unclosed =>
      obtain rfl := Option.some.inj carried
      rw [opens.split, ← List.append_assoc, ← Position.after_eq_counted]
      exact Position.isIn_after_append (before ++ head) ('{' :: inner)
  | @missing before after line name lead unopened split header first =>
      obtain rfl := Option.some.inj carried
      obtain ⟨tail, -, rfl⟩ := header
      exact ⟨before, lead ++ tail, after, split, rfl, by simp, by simp⟩
  | absent => cases carried

/-- What is wrong with a text that gives no schema is about the text, and its position is in it. -/
theorem exists_source_of_generate {text : String} {config : Config} {error : Error}
    (failed : generate text config = .error error) :
    error.isParseError = true ∧
      ∀ position, error.position? = some position → position.IsIn text.toList := by
  cases found : Declaration.first text with
  | ok declaration => simp [generate, Schema.ofSource, found] at failed
  | error cause =>
      obtain rfl : Error.source cause = error := by
        simpa [generate, Schema.ofSource, found] using failed
      exact ⟨rfl, fun _ => (Declaration.first_eq_iff_locates.1 found).isIn_position⟩

/-! ## Outcomes -/

namespace Outcome

variable {config : Config} {text : String}

theorem ofText_of_isBlanks (blank : IsBlanks text.toList) : ofText config text = .blank :=
  if_pos (trim_eq_nil_iff.2 blank)

/-- A text that is not blank fails in a session exactly if nothing can be generated from it, for the
same reason. -/
theorem ofText_eq_failed_iff (visible : ¬ IsBlanks text.toList) {error : Error} :
    ofText config text = .failed error ↔ generate text config = .error error := by
  rw [ofText, if_neg (mt trim_eq_nil_iff.1 visible), generate]
  cases Schema.ofSource text <;> simp

/-- A text that is not blank has a schema and files in a session exactly if these are what is
generated from it. -/
theorem ofText_eq_ready_iff (visible : ¬ IsBlanks text.toList) {schema : Schema}
    {files : List GeneratedFile} :
    ofText config text = .ready schema files ↔ generate text config = .ok (schema, files) := by
  rw [ofText, if_neg (mt trim_eq_nil_iff.1 visible), generate]
  cases Schema.ofSource text <;> simp

end Outcome

/-! ## Sessions -/

namespace Session

/-- A session shows what a text gives under a configuration. -/
structure Shows (session : Session) (config : Config) (text : String) : Prop where
  sameConfig : session.config = config
  sameSource : session.source = text
  /-- It is blank, or it has a schema, or it has an error, and only one of these. -/
  one : [session.isBlank, session.schema?.isSome, session.error?.isSome].count true = 1
  files : session.files?.isSome = session.schema?.isSome
  blank : session.isBlank = true ↔ IsBlanks text.toList
  ready : ¬ IsBlanks text.toList → ∀ schema files,
    generate text config = .ok (schema, files) ↔
      session.schema? = some schema ∧ session.files? = some files
  failed : ¬ IsBlanks text.toList → ∀ error,
    generate text config = .error error ↔ session.error? = some error
  parseError : ∀ error, session.error? = some error → error.isParseError = true
  position : ∀ error position, session.error? = some error →
    error.position? = some position → position.IsIn text.toList

/-- A session whose outcome is that of its text shows what the text gives. -/
theorem shows_ofText (config : Config) (text : String) :
    Shows ⟨config, text, .ofText config text⟩ config text := by
  by_cases blank : IsBlanks text.toList
  · rw [Outcome.ofText_of_isBlanks blank]
    exact {
      sameConfig := rfl
      sameSource := rfl
      one := rfl
      files := rfl
      blank := iff_of_true rfl blank
      ready := absurd blank
      failed := absurd blank
      parseError := by simp [error?]
      position := by simp [error?] }
  · cases given : generate text config with
    | error error =>
        obtain ⟨parseError, position⟩ := exists_source_of_generate given
        rw [(Outcome.ofText_eq_failed_iff blank).2 given]
        exact {
          sameConfig := rfl
          sameSource := rfl
          one := rfl
          files := rfl
          blank := iff_of_false Bool.false_ne_true blank
          ready := by simp [given, schema?]
          failed := by simp [given, error?]
          parseError := fun _ same => Option.some.inj same ▸ parseError
          position := fun _ other same => Option.some.inj same ▸ position other }
    | ok made =>
        rw [(Outcome.ofText_eq_ready_iff blank).2 given]
        exact {
          sameConfig := rfl
          sameSource := rfl
          one := rfl
          files := rfl
          blank := iff_of_false Bool.false_ne_true blank
          ready := by simp [given, schema?, files?, Prod.ext_iff]
          failed := by simp [given, error?]
          parseError := by simp [error?]
          position := by simp [error?] }

/-- An update replaces the text and what it gives, whatever the session showed. -/
theorem Shows.update {session : Session} {config : Config} {before : String}
    (shows : session.Shows config before) (text : String) :
    (session.update text).Shows config text := by
  rw [Session.update, shows.sameConfig]
  exact shows_ofText config text

theorem shows_start (config : Config) : (start config).Shows config "" :=
  shows_ofText config ""

/-- After any updates a session shows what the last of their texts gives under its configuration.
With no update it is blank. -/
theorem shows_foldl_update (config : Config) (updates : List String) :
    (updates.foldl update (start config)).Shows config (updates.getLast?.getD "") := by
  induction updates using List.reverseRecOn with
  | nil => exact shows_start config
  | append_singleton updates text inductionHypothesis =>
      rw [List.foldl_concat, List.getLast?_concat]
      exact inductionHypothesis.update text

end Session

end InterfaceGen
