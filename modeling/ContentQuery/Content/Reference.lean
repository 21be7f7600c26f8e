/-
# References to repository items

An item is addressed by its number or by its path. The number wins where an item is identified;
only a path can say where in the repository's tree a query is to look.
-/

import ContentQuery.Text.LowerCase

namespace ContentQuery

/-- A reference to another item, by number, by path or by both. One with neither is a value, but
no query can use it. -/
structure ContentRef where
  id : Option UInt64
  path : Option String
deriving DecidableEq

namespace ContentRef

/-- A reference by number alone. -/
def ofId (id : UInt64) : ContentRef := ⟨some id, none⟩

/-- A reference by path alone. -/
def ofPath (path : String) : ContentRef := ⟨none, some path⟩

/-- The lower-cased path, for the queries that are scoped to a place in the tree. -/
def pathTerm? (reference : ContentRef) : Option String := reference.path.map Text.lowerCase

end ContentRef

end ContentQuery
