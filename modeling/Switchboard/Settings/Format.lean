import Switchboard.Json.Parser
import Switchboard.Settings.Toml
import Switchboard.Settings.Yaml

/-!
# Formats of settings

The formats in which settings are written, the extensions of their files, and what a text holds in
each of them.  A text whose outermost value is no table holds no settings.  How three of the formats
are read is not said here; their readers are given from outside.
-/

namespace Switchboard
namespace Setting

/-- A format of settings. -/
inductive Format where
  | json
  | yaml
  | toml
  | ini
  | ron
  | json5
deriving DecidableEq, Repr

/-- Why a text holds no settings. -/
inductive TextFault where
  | malformed
  /-- A key that is neither a text nor a whole number. -/
  | foreignKey
deriving DecidableEq, Repr

/-- What a reader makes of a text with an origin: its entries, unless it is malformed. -/
abbrev Reader := Option String → String → Option (List (String × Setting))

/-- The readers of the formats that are not described here. -/
structure Readers where
  ini : Reader
  ron : Reader
  json5 : Reader

/-- Readers to which all is malformed. -/
def Readers.none : Readers := ⟨fun _ _ => .none, fun _ _ => .none, fun _ _ => .none⟩

/-- What a text holds to a reader. -/
def Reader.read (reader : Reader) (origin : Option String) (text : String) :
    Except TextFault (List (String × Setting)) :=
  match reader origin text with
  | some entries => .ok entries
  | .none => .error .malformed

namespace Format

def extensions : Format → List String
  | .json => ["json"]
  | .yaml => ["yaml", "yml"]
  | .toml => ["toml"]
  | .ini => ["ini"]
  | .ron => ["ron"]
  | .json5 => ["json5"]

def all : List Format := [.json, .yaml, .toml, .ini, .ron, .json5]

/-- The format with an extension. -/
def ofExtension? (extension : String) : Option Format :=
  all.find? (·.extensions.contains extension)

/-- The settings that a text holds. -/
def read (readers : Readers) (format : Format) (origin : Option String) (text : String) :
    Except TextFault (List (String × Setting)) :=
  match format with
  | .json =>
    match Json.parse? text with
    | some value => .ok (ofJson origin value).entries
    | none => .error .malformed
  | .yaml =>
    match Yaml.readSettings origin text with
    | .ok entries => .ok entries
    | .error .malformed => .error .malformed
    | .error .foreignKey => .error .foreignKey
  | .toml => Reader.read Toml.readSettings? origin text
  | .ini => readers.ini.read origin text
  | .ron => readers.ron.read origin text
  | .json5 => readers.json5.read origin text

end Format
end Setting
end Switchboard
