/-
# Items of the repository

A typed view of retrieved values: the name that the repository knows a type by, with a reader for
its items. Every item can be read as untyped content, which keeps the fields that all items have
apart from the rest.
-/

import ContentQuery.Json

namespace ContentQuery

/-- A type of items: its name in the repository, and how a retrieved value is read as one. -/
structure ItemType (α : Type) where
  name : String
  decode : Json → Except DecodeError α

/-- An item of any type: the fields that all items have, and the others as they came. -/
structure Content where
  id : Option UInt64
  path : Option String
  name : Option String
  type : Option String
  fields : List (String × Json)

namespace Content

/-- The fields that every item has. -/
def commonFields : List String := ["Id", "Path", "Name", "Type"]

/-- Reads an item; the common fields may be missing or null. -/
def ofJson : Json → Except DecodeError Content
  | .object fields => do
    return {
      id := ← Json.optional Json.readUInt64 (fields.lookup "Id")
      path := ← Json.optional Json.readString (fields.lookup "Path")
      name := ← Json.optional Json.readString (fields.lookup "Name")
      type := ← Json.optional Json.readString (fields.lookup "Type")
      fields := fields.filter fun (name, _) => !commonFields.contains name }
  | _ => .error (.expected "an object")

/-- An item as a JSON value: the common fields, null where there is none, then the others. -/
def toJson (content : Content) : Json :=
  let text (value : Option String) := (value.map Json.string).getD .null
  .object <|
    [("Id", (content.id.map fun id => Json.integer id.toNat).getD .null),
      ("Path", text content.path),
      ("Name", text content.name),
      ("Type", text content.type)] ++ content.fields

/-- A field beside the common ones, if the item has it. -/
def field? (content : Content) (name : String) : Option Json := content.fields.lookup name

/-- The type of all items. -/
def itemType : ItemType Content := ⟨"GenericContent", ofJson⟩

end Content

end ContentQuery
