import InterfaceGen.Config.Basic
import InterfaceGen.Config.Toml
import InterfaceGen.Error

/-!
# Reading a configuration

A configuration is read from settings in TOML. Every setting may be left out, none may be given
twice, and there are no others.
-/

namespace InterfaceGen.Config

/-- A configuration with one setting changed. -/
def set (config : Config) (setting : String × String) : Except ConfigError Config :=
  match setting with
  | ("api_prefix", value) => .ok { config with apiPrefix := value }
  | ("schema_module", value) => .ok { config with schemaModule := value }
  | ("submit_label", value) => .ok { config with submitLabel := value }
  | (key, _) => .error (.malformed ("unknown setting " ++ Text.escaped key))

/-- Whether a text holds the mark between the scheme and the rest of an absolute address. -/
def hasScheme : List Char → Bool
  | [] => false
  | ':' :: '/' :: '/' :: _ => true
  | _ :: rest => hasScheme rest

/-- Whether addresses may begin with a text: with nothing, with a slash, or with an absolute
address. -/
def isAddressPrefix (text : List Char) : Bool :=
  text.isEmpty || text.head? == some '/' || hasScheme text

/-- The configuration that settings give. -/
def ofSettings (settings : List (String × String)) : Except ConfigError Config :=
  if (settings.map (·.1)).Nodup then settings.foldlM set {}
  else .error (.malformed "a setting is given twice")

/-- Reads a configuration. -/
def ofToml (document : String) : Except ConfigError Config :=
  match Toml.parse? document with
  | none => .error (.malformed "not a list of settings")
  | some settings =>
    match ofSettings settings with
    | .error cause => .error cause
    | .ok config =>
      if isAddressPrefix config.apiPrefix.toList then .ok config
      else .error (.badPrefix config.apiPrefix)

end InterfaceGen.Config
