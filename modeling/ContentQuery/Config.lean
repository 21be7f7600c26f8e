/-
# Reading a configuration

A configuration is a document with at most one entry, `query`, that holds the settings; a setting
that is not there keeps its default, and nothing else may be there. The settings may also be given
as an array in their order, and the word of a switch as the one key of a table with nothing in it.
-/

import ContentQuery.Repository
import ContentQuery.Toml.Document

namespace ContentQuery

/-- Why there is no configuration. -/
inductive ConfigError
  /-- There is no file, or it is not text. -/
  | read
  /-- The text is no document, or the document is no configuration. -/
  | parse
deriving DecidableEq, Repr

namespace ClientConfig

open Toml

/-- The word that a value is: a string, or the only key of a table whose value is empty. -/
def wordOf? : Value → Option String
  | .string word => some word
  | .table [(word, .table [])] => some word
  | .table [(word, .array [])] => some word
  | _ => none

/-- A filter status from its word. -/
def filterStatusOf? (value : Value) : Option FilterStatus :=
  match wordOf? value with
  | some "default" => some .default
  | some "enabled" => some .enabled
  | some "disabled" => some .disabled
  | _ => none

/-- A mode of execution from its word. -/
def executionModeOf? (value : Value) : Option ExecutionMode :=
  match wordOf? value with
  | some "default" => some .default
  | some "quick" => some .quick
  | _ => none

/-- A truth value. -/
def boolOf? : Value → Option Bool
  | .bool value => some value
  | _ => none

/-- The names of the settings, in their order. -/
def settingNames : List String := ["autofilters", "lifespan", "execution_mode", "all_versions"]

/-- The settings with one of them set from a value. -/
def setSetting? (settings : Settings) (name : String) (value : Value) : Option Settings :=
  match name with
  | "autofilters" =>
    (filterStatusOf? value).map fun status => { settings with autofilters := status }
  | "lifespan" => (filterStatusOf? value).map fun status => { settings with lifespan := status }
  | "execution_mode" =>
    (executionModeOf? value).map fun mode => { settings with executionMode := mode }
  | "all_versions" => (boolOf? value).map fun enabled => { settings with allVersions := enabled }
  | _ => none

/-- The settings that named values make, from the defaults. -/
def settingsOf? (entries : List (String × Value)) : Option Settings :=
  entries.foldlM (fun settings (name, value) => setSetting? settings name value) .default

/-- The settings that a table gives by name, or an array by position. -/
def queryOf? : Value → Option Settings
  | .table entries => settingsOf? entries
  | .array items => settingsOf? (settingNames.zip items)
  | _ => none

/-- The configuration that the entries of a document make. -/
def ofEntries? : List (String × Value) → Option ClientConfig
  | [] => some .default
  | [("query", value)] => (queryOf? value).map ClientConfig.mk
  | _ => none

/-- Reads a configuration from its text. -/
def ofText (text : String) : Except ConfigError ClientConfig :=
  match (Toml.ofText? text).bind ofEntries? with
  | some config => .ok config
  | none => .error .parse

/-- Reads a configuration from the bytes of its file, if there is a file. -/
def ofFile (content : Option ByteArray) : Except ConfigError ClientConfig :=
  match content.bind String.fromUTF8? with
  | some text => ofText text
  | none => .error .read

end ClientConfig

end ContentQuery
