import Mathlib.Data.List.Dedup
import FilterQuery.Proofs.Filter.Compilation
/-! What a compilation leaves in a cache. Leaves are compiled from left to right, and
each asks for the field at the end of its path. A field that is found is remembered,
also if its leaf fails; what fails is not remembered, and after a leaf that fails
nothing is asked for any more. Apart from that, a compilation over a cache does what the
compilation over the schema does, whatever it builds. -/
namespace FilterQuery

/-- The entity and the path, if the schema has a field there. -/
def Schema.found (schema : Schema) (root path : String) : List (String × String) :=
  match schema.resolve root path with
  | .ok _ => [(root, path)]
  | .error _ => []

/-- The fields that are found for leaves from left to right, until a leaf fails. -/
def Schema.foundFor (schema : Schema) (root : String) : List Leaf → List (String × String)
  | [] => []
  | leaf :: rest => schema.found root leaf.field ++
    match leaf.question schema root with
    | .ok _ => foundFor schema root rest
    | .error _ => []

theorem Schema.foundFor_append (schema : Schema) (root : String) (leaves later : List Leaf) :
    schema.foundFor root (leaves ++ later) = schema.foundFor root leaves ++
      match leaves.mapM (Leaf.question schema root) with
      | .ok _ => schema.foundFor root later
      | .error _ => [] := by
  induction leaves with
  | nil => rfl
  | cons leaf rest ih =>
    rw [List.cons_append, foundFor, foundFor, List.mapM_cons, ih, List.append_assoc]
    cases leaf.question schema root with
    | error cause => rfl
    | ok asked => cases rest.mapM (Leaf.question schema root) <;> rfl

/-- The cache has the fields that these keys lead to, each of them once, and no others. -/
structure FieldCache.Remembers (schema : Schema) (keys : List (String × String))
    (cache : FieldCache) : Prop where
  distinct : (cache.found.map Prod.fst).Nodup
  covers : ∀ key, key ∈ cache.found.map Prod.fst ↔ key ∈ keys
  sound : cache.Sound schema

namespace FieldCache

variable {schema : Schema} {keys : List (String × String)} {cache : FieldCache}

theorem remembers_empty (schema : Schema) : empty.Remembers schema [] :=
  ⟨List.nodup_nil, fun _ => Iff.rfl, sound_empty schema⟩

/-- The size of the cache is the number of different keys. -/
theorem Remembers.size_eq (remembers : cache.Remembers schema keys) :
    cache.size = keys.dedup.length := by
  have same : (cache.found.map Prod.fst).Perm keys.dedup := by
    rw [List.perm_ext_iff_of_nodup remembers.distinct keys.nodup_dedup]
    simpa using remembers.covers
  simpa [size] using same.length_eq

theorem get?_eq_none_iff {root path : String} :
    cache.get? root path = none ↔ (root, path) ∉ cache.found.map Prod.fst := by
  simp only [get?, Option.map_eq_none_iff, List.find?_eq_none, List.mem_map, not_exists, not_and,
    beq_iff_eq]

/-- What is found again changes nothing. -/
theorem Remembers.again (remembers : cache.Remembers schema keys) {key : String × String}
    (known : key ∈ cache.found.map Prod.fst) : cache.Remembers schema (keys ++ [key]) where
  distinct := remembers.distinct
  covers other := by
    rw [List.mem_append, List.mem_singleton, ← remembers.covers]
    constructor
    · exact .inl
    · rintro (inside | rfl)
      · exact inside
      · exact known
  sound := remembers.sound

/-- What is found for the first time is remembered. -/
theorem Remembers.insert (remembers : cache.Remembers schema keys) {root path : String}
    {field : ResolvedField} (fresh : (root, path) ∉ cache.found.map Prod.fst)
    (resolved : schema.resolve root path = .ok field) :
    (cache.insert root path field).Remembers schema (keys ++ [(root, path)]) where
  distinct := List.nodup_cons.2 ⟨fresh, remembers.distinct⟩
  covers other := by
    rw [List.mem_append, List.mem_singleton, ← remembers.covers, FieldCache.insert, List.map_cons,
      List.mem_cons, or_comm]
  sound := sound_insert remembers.sound resolved

/-- The resolver that remembers answers as the schema does, and remembers what the schema finds. -/
theorem Remembers.start_cachedResolver (remembers : cache.Remembers schema keys)
    (root path : String) :
    ∃ after, after.Remembers schema (keys ++ schema.found root path) ∧
      (schema.cachedResolver root path).start cache = (schema.resolve root path, after) := by
  rw [Resolution.start, Schema.run_cachedResolver, Schema.found]
  cases noted : cache.get? root path with
  | some field =>
    have known : (root, path) ∈ cache.found.map Prod.fst := by
      by_contra fresh
      rw [get?_eq_none_iff.2 fresh] at noted
      cases noted
    rw [remembers.sound root path field noted]
    exact ⟨cache, remembers.again known, rfl⟩
  | none =>
    cases resolved : schema.resolve root path with
    | ok field =>
      exact ⟨cache.insert root path field,
        remembers.insert (get?_eq_none_iff.1 noted) resolved, rfl⟩
    | error cause => exact ⟨cache, by simpa using remembers, rfl⟩

end FieldCache

/-- The first compilation, over this cache, does what the second one does, and leaves the other
cache behind. -/
def Mirrors {α : Type} {m : Type → Type} [Monad m] (noted : Compilation FieldCache m α)
    (plain : Compilation Unit m α) (cache after : FieldCache) : Prop :=
  noted.start cache = (fun ended => (ended.1, after)) <$> plain.start ()

section Mirrors

variable {α β : Type} {m : Type → Type} [Monad m] [LawfulMonad m]
variable {noted : Compilation FieldCache m α} {plain : Compilation Unit m α}
variable {cache middle after : FieldCache}

/-- What follows without a look at the cache leaves it as it is. -/
theorem Mirrors.followed (first : Mirrors noted plain cache after)
    {nextNoted : α → Compilation FieldCache m β} {nextPlain : α → Compilation Unit m β}
    (next : α → m (Except ExpressionError β))
    (one : ∀ value notes,
      (nextNoted value).start notes = (fun answer => (answer, notes)) <$> next value)
    (other : ∀ value notes,
      (nextPlain value).start notes = (fun answer => (answer, notes)) <$> next value) :
    Mirrors (noted >>= nextNoted) (plain >>= nextPlain) cache after := by
  have first : noted.start cache = _ := first
  rw [Mirrors, Compilation.start_bind, Compilation.start_bind, first, bind_map_left, map_bind]
  refine bind_congr fun ended => ?_
  obtain ⟨answer, notes⟩ := ended
  cases answer with
  | error cause => simp
  | ok value => simp [one, other]

/-- After an error nothing follows. -/
theorem Mirrors.failed {nextNoted : α → Compilation FieldCache m β}
    {nextPlain : α → Compilation Unit m β} {cause : ExpressionError} {effects : m Unit}
    (first : Mirrors noted plain cache after)
    (fails : plain.start () = (fun _ => (.error cause, ())) <$> effects) :
    Mirrors (noted >>= nextNoted) (plain >>= nextPlain) cache after := by
  have first : noted.start cache = _ := first
  rw [Mirrors, Compilation.start_bind, Compilation.start_bind, first, fails]
  simp

/-- After a value there follows what goes on from the cache that was left. -/
theorem Mirrors.passed {nextNoted : α → Compilation FieldCache m β}
    {nextPlain : α → Compilation Unit m β} {make : m α}
    (first : Mirrors noted plain cache middle)
    (passes : plain.start () = (fun value => (.ok value, ())) <$> make)
    (rest : ∀ value, Mirrors (nextNoted value) (nextPlain value) middle after) :
    Mirrors (noted >>= nextNoted) (plain >>= nextPlain) cache after := by
  have first : noted.start cache = _ := first
  have rest : ∀ value, (nextNoted value).start middle = _ := rest
  rw [Mirrors, Compilation.start_bind, Compilation.start_bind, first, passes]
  simp [rest]

end Mirrors

section Compiling

variable {π : Type} {m : Type → Type} [Monad m] [LawfulMonad m] (builder : Builder m π)
variable {schema : Schema} (root : String)

namespace Filter

/-- Whether a compilation over the schema ends with a value depends on the leaves alone. -/
theorem ends_of_compile (schema : Schema) (filter : Filter) :
    (∃ asked make, filter.leaves.mapM (Leaf.question schema root) = .ok asked ∧
      (compile builder schema.resolver root filter).start () =
        (fun part => (.ok part, ())) <$> make) ∨
    ∃ cause effects, filter.leaves.mapM (Leaf.question schema root) = .error cause ∧
      (compile builder schema.resolver root filter).start () =
        (fun _ : Unit => (.error cause, ())) <$> effects := by
  have built := builds_compile builder schema.resolver root filter ()
  rw [← tests_condition schema root filter]
  cases ran : (condition schema.resolver root filter).start () with
  | mk answer notes =>
    have answered : (condition schema.resolver root filter).result = answer :=
      congrArg Prod.fst ran
    rw [ran] at built
    rw [answered]
    cases answer with
    | ok value => exact .inl ⟨_, _, rfl, built⟩
    | error cause =>
      obtain ⟨effects, built⟩ := built
      exact .inr ⟨cause, effects, rfl, built⟩

/-- A leaf remembers the field that it asks about, if there is one. -/
theorem exists_mirrors_leaf {keys : List (String × String)} {cache : FieldCache}
    (remembers : cache.Remembers schema keys) (leaf : Leaf) :
    ∃ after, after.Remembers schema (keys ++ schema.found root leaf.field) ∧
      Mirrors (compile builder schema.cachedResolver root (.leaf leaf))
        (compile builder schema.resolver root (.leaf leaf)) cache after := by
  obtain ⟨after, kept, answered⟩ := remembers.start_cachedResolver root leaf.field
  refine ⟨after, kept, ?_⟩
  have asked : Mirrors ((schema.cachedResolver root leaf.field).within m)
      ((schema.resolver root leaf.field).within m) cache after := by
    rw [Mirrors, Compilation.start_within, Compilation.start_within, answered, map_pure]
    rfl
  let build (field : ResolvedField) : m (Except ExpressionError π) :=
    match leaf.test field with
    | .ok test => .ok <$> builder.test field test
    | .error cause => pure (.error cause)
  rw [compile, compile]
  apply asked.followed build
  all_goals
    intro field notes
    cases made : leaf.test field <;> simp [build, made]

mutual

/-- A filter remembers the fields that are found for its leaves. -/
theorem exists_mirrors : ∀ (filter : Filter) {keys : List (String × String)} {cache : FieldCache},
    cache.Remembers schema keys →
    ∃ after, after.Remembers schema (keys ++ schema.foundFor root filter.leaves) ∧
      Mirrors (compile builder schema.cachedResolver root filter)
        (compile builder schema.resolver root filter) cache after
  | .leaf question, keys, cache, remembers => by
    have alone : schema.foundFor root [question] = schema.found root question.field := by
      rw [Schema.foundFor]
      cases question.question schema root <;> simp [Schema.foundFor]
    rw [leaves, alone]
    exact exists_mirrors_leaf builder root remembers question
  | .group connective members, keys, cache, remembers => by
    obtain ⟨after, kept, mirrors⟩ := exists_mirrors_all members remembers
    refine ⟨after, kept, ?_⟩
    rw [compile, compile]
    apply mirrors.followed fun parts => .ok <$> builder.join connective parts
    all_goals
      intro parts notes
      simp

theorem exists_mirrors_all : ∀ (members : List Filter) {keys : List (String × String)}
    {cache : FieldCache}, cache.Remembers schema keys →
    ∃ after, after.Remembers schema (keys ++ schema.foundFor root (leavesOfAll members)) ∧
      Mirrors (compileAll builder schema.cachedResolver root members)
        (compileAll builder schema.resolver root members) cache after
  | [], keys, cache, remembers => by
    refine ⟨cache, by simpa [leavesOfAll, Schema.foundFor] using remembers, ?_⟩
    simp [Mirrors, compileAll]
  | member :: rest, keys, cache, remembers => by
    obtain ⟨middle, kept, mirrors⟩ := exists_mirrors member remembers
    rw [compileAll, compileAll, leavesOfAll, Schema.foundFor_append, ← List.append_assoc]
    rcases ends_of_compile builder root schema member with
      ⟨asked, make, answered, passes⟩ | ⟨cause, effects, answered, fails⟩
    · obtain ⟨after, keptRest, mirrorsRest⟩ := exists_mirrors_all rest kept
      rw [answered]
      refine ⟨after, keptRest, mirrors.passed passes fun part => ?_⟩
      apply mirrorsRest.followed fun parts => pure (.ok (part :: parts))
      all_goals
        intro parts notes
        simp
    · rw [answered]
      exact ⟨middle, by simpa using kept, mirrors.failed fails⟩

end

end Filter

/-- A tree remembers the fields that are found for its leaves. Over the cache it compiles as it does
over the schema, for any builder and with the same effects. -/
theorem FilterTree.exists_mirrors (tree : FilterTree) {keys : List (String × String)}
    {cache : FieldCache} (remembers : cache.Remembers schema keys) :
    ∃ after, after.Remembers schema (keys ++ schema.foundFor root tree.leaves) ∧
      Mirrors (tree.compile builder schema.cachedResolver root)
        (tree.compile builder schema.resolver root) cache after := by
  obtain ⟨after, kept, mirrors⟩ := Filter.exists_mirrors_all builder root tree.nodes remembers
  refine ⟨after, kept, ?_⟩
  rw [compile, compile]
  apply mirrors.followed fun parts => .ok <$> builder.join .and parts
  all_goals
    intro parts notes
    simp

end Compiling

end FilterQuery
