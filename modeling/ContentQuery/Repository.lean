/-
# Repositories

A repository is where sets of items start: a retriever, and the settings that each new set begins
with. The settings of a set can be changed later and leave the repository's own as they are.
-/

import ContentQuery.ContentSet

namespace ContentQuery

/-- What a client is configured with. -/
structure ClientConfig where
  /-- The settings that every query starts with. -/
  query : Settings
deriving DecidableEq, Repr

/-- The configuration in which nothing was said. -/
def ClientConfig.default : ClientConfig := ⟨.default⟩

/-- A repository: the way to its items, and the configuration of the client. -/
structure Repository where
  retriever : Retriever
  config : ClientConfig

namespace Repository

/-- All items of a type. -/
def contentOf {α : Type} (repository : Repository) (itemType : ItemType α) : ContentSet α :=
  ContentSet.withOptions repository.retriever itemType (.ofSettings repository.config.query)

/-- All items, untyped. -/
def content (repository : Repository) : ContentSet Content :=
  repository.contentOf Content.itemType

end Repository

end ContentQuery
