/-
# Descriptions

The texts by which sets and repositories show themselves to a developer: the name of the
structure, then its fields in braces. The retriever has no text; two points stand for what is left
out.
-/

import ContentQuery.Repository

namespace ContentQuery

namespace Description

/-- A structure with its fields; an open one has more that is not shown. -/
def record (name : String) (fields : List (String × String)) (isOpen : Bool) : String :=
  let shown := fields.map fun (field, text) => field ++ ": " ++ text
  name ++ " \x7b " ++ ", ".intercalate (if isOpen then shown ++ [".."] else shown) ++ " \x7d"

/-- A truth value. -/
def bool (value : Bool) : String := if value then "true" else "false"

/-- A list of texts that may be absent. -/
def textList : Option (List String) → String
  | none => "None"
  | some texts => "Some([" ++ ", ".intercalate (texts.map Text.inspect) ++ "])"

/-- A filter status. -/
def filterStatus : FilterStatus → String
  | .default => "Default"
  | .enabled => "Enabled"
  | .disabled => "Disabled"

/-- A mode of execution. -/
def executionMode : ExecutionMode → String
  | .default => "Default"
  | .quick => "Quick"

/-- The fields of settings. -/
def settings (settings : Settings) : List (String × String) :=
  [("autofilters", filterStatus settings.autofilters),
    ("lifespan", filterStatus settings.lifespan),
    ("execution_mode", executionMode settings.executionMode),
    ("all_versions", bool settings.allVersions)]

/-- Options. -/
def options (options : QueryOptions) : String :=
  record "QueryOptions"
    (settings options.toSettings
      ++ [("expand", textList options.expand), ("select", textList options.select)]) false

/-- A configuration. -/
def config (config : ClientConfig) : String :=
  record "ClientConfig" [("query", record "QueryDefaults" (settings config.query) false)] false

end Description

/-- The description of a set. -/
def ContentSet.describe {α : Type} (set : ContentSet α) : String :=
  Description.record "ContentSet"
    [("type", Text.inspect set.itemType.name),
      ("chain", Text.inspect set.chain.toText),
      ("options", Description.options set.options)] true

/-- The description of a repository. -/
def Repository.describe (repository : Repository) : String :=
  Description.record "Repository" [("config", Description.config repository.config)] true

end ContentQuery
