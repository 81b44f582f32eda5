import FilterQuery.Schema.Resolve
/-! Resolvers: ways of resolving paths that may keep notes from one path to the
next. One asks the schema each time; another remembers the fields it has found,
and only those. -/
namespace FilterQuery

/-- A computation that resolves paths with notes of type `ν`. Notes survive errors. -/
abbrev Resolution (ν : Type) := ExceptT ExpressionError (StateM ν)

/-- A way of resolving a path from an entity. -/
abbrev Resolver (ν : Type) := (root path : String) → Resolution ν ResolvedField

/-- What a resolution gives that keeps no notes. -/
def Resolution.result {α : Type} (resolution : Resolution Unit α) : Except ExpressionError α :=
  (resolution.run.run ()).1

/-- The resolver that asks the schema each time. -/
def Schema.resolver (schema : Schema) : Resolver Unit :=
  fun root path => ExceptT.mk (pure (schema.resolve root path))

/-- The fields found so far, under the entity and the path that led to them. -/
structure FieldCache where
  found : List ((String × String) × ResolvedField)

namespace FieldCache

/-- The cache before anything has been found. -/
def empty : FieldCache := ⟨[]⟩

/-- The field found for an entity and a path. -/
def get? (cache : FieldCache) (root path : String) : Option ResolvedField :=
  (cache.found.find? fun entry => entry.1 == (root, path)).map Prod.snd

def size (cache : FieldCache) : Nat := cache.found.length

def insert (cache : FieldCache) (root path : String) (field : ResolvedField) : FieldCache :=
  ⟨((root, path), field) :: cache.found⟩

end FieldCache

/-- The resolver that remembers what it has found. Errors are not remembered. -/
def Schema.cachedResolver (schema : Schema) : Resolver FieldCache :=
  fun root path => ExceptT.mk do
    let cache ← get
    match cache.get? root path with
    | some field => return .ok field
    | none =>
      match schema.resolve root path with
      | .ok field =>
        set (cache.insert root path field)
        return .ok field
      | .error error => return .error error

end FilterQuery
