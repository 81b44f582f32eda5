import FilterQuery.Schema.Resolver
/-! Notes do not change answers. A computation that keeps notes answers in one
way over all sound notes and leaves sound notes behind. The notes of the resolver
that remembers are sound if each of them is what the schema itself would say. -/
namespace FilterQuery

/-- Over all sound notes the action gives this answer, and the notes it leaves are sound. -/
def Answers {ε σ α : Type} (Sound : σ → Prop) (action : ExceptT ε (StateM σ) α)
    (answer : Except ε α) : Prop :=
  ∀ notes, Sound notes → ∃ after, Sound after ∧ action.run.run notes = (answer, after)

section Answers

variable {ε σ α β : Type} {Sound : σ → Prop}

theorem answers_pure (value : α) :
    Answers Sound (pure value : ExceptT ε (StateM σ) α) (.ok value) :=
  fun notes sound => ⟨notes, sound, rfl⟩

theorem answers_except (answer : Except ε α) :
    Answers Sound (liftM answer : ExceptT ε (StateM σ) α) answer :=
  fun notes sound => ⟨notes, sound, rfl⟩

/-- A sequence answers with the sequence of the answers. -/
theorem answers_bind {action : ExceptT ε (StateM σ) α} {next : α → ExceptT ε (StateM σ) β}
    {answer : Except ε α} {continued : α → Except ε β} (first : Answers Sound action answer)
    (rest : ∀ value, Answers Sound (next value) (continued value)) :
    Answers Sound (action >>= next) (answer >>= continued) := by
  intro notes sound
  obtain ⟨middle, kept, ran⟩ := first notes sound
  cases answer with
  | error cause =>
    refine ⟨middle, kept, ?_⟩
    simp only [ExceptT.run_bind, StateT.run_bind, ran]
    rfl
  | ok value =>
    obtain ⟨after, keptAfter, ranAfter⟩ := rest value middle kept
    refine ⟨after, keptAfter, ?_⟩
    simp only [ExceptT.run_bind, StateT.run_bind, ran]
    exact ranAfter

theorem answers_discard {action : ExceptT ε (StateM σ) α} {answer : Except ε α}
    (answers : Answers Sound action answer) :
    Answers Sound (discard action) (discard answer) := by
  have sequence : Answers Sound (do let _ ← action; return ()) (do let _ ← answer; return ()) :=
    answers_bind answers fun _ => answers_pure ()
  have same : (do let _ ← answer; return ()) = (discard answer : Except ε Unit) := by
    cases answer <;> rfl
  rw [same] at sequence
  exact sequence

end Answers

namespace Resolution

variable {α β : Type}

@[simp] theorem result_pure (value : α) : (pure value : Resolution Unit α).result = .ok value := rfl

@[simp] theorem result_except (answer : Except ExpressionError α) :
    (liftM answer : Resolution Unit α).result = answer := rfl

@[simp] theorem result_bind (resolution : Resolution Unit α) (next : α → Resolution Unit β) :
    (resolution >>= next).result = resolution.result >>= fun value => (next value).result := by
  simp only [result, ExceptT.run_bind, StateT.run_bind]
  cases ran : resolution.run.run () with
  | mk answer notes =>
    cases answer with
    | error cause => rfl
    | ok value => rfl

@[simp] theorem result_resolver (schema : Schema) (root path : String) :
    (schema.resolver root path).result = schema.resolve root path := rfl

end Resolution

namespace FieldCache

/-- Every note is what the schema says. -/
def Sound (schema : Schema) (cache : FieldCache) : Prop :=
  ∀ root path field, cache.get? root path = some field → schema.resolve root path = .ok field

theorem sound_empty (schema : Schema) : empty.Sound schema := by
  intro root path field found
  cases found

theorem get?_insert (cache : FieldCache) (root path : String) (field : ResolvedField)
    (otherRoot otherPath : String) :
    (cache.insert root path field).get? otherRoot otherPath =
      if (root, path) = (otherRoot, otherPath) then some field
      else cache.get? otherRoot otherPath := by
  by_cases same : (root, path) = (otherRoot, otherPath)
  · simp [get?, insert, same]
  · have apart : ((root, path) == (otherRoot, otherPath)) = false := by simpa using same
    simp only [get?, insert, List.find?_cons, apart, if_neg same]

theorem sound_insert {schema : Schema} {cache : FieldCache} {root path : String}
    {field : ResolvedField} (sound : cache.Sound schema)
    (resolved : schema.resolve root path = .ok field) :
    (cache.insert root path field).Sound schema := by
  intro otherRoot otherPath other found
  rw [get?_insert] at found
  split at found
  · rename_i same
    cases same
    cases found
    exact resolved
  · exact sound otherRoot otherPath other found

end FieldCache

namespace Schema

/-- What is noted is given; what is not is asked of the schema, and noted if it is found. -/
theorem run_cachedResolver (schema : Schema) (root path : String) (cache : FieldCache) :
    (schema.cachedResolver root path).run.run cache =
      match cache.get? root path, schema.resolve root path with
      | some field, _ => (.ok field, cache)
      | none, .ok field => (.ok field, cache.insert root path field)
      | none, .error cause => (.error cause, cache) := by
  cases noted : cache.get? root path with
  | some field =>
    simp [cachedResolver, noted]
    rfl
  | none =>
    cases resolved : schema.resolve root path <;> simp [cachedResolver, noted, resolved] <;> rfl

/-- The resolver that remembers answers as the schema does. -/
theorem cachedResolver_answers (schema : Schema) (root path : String) :
    Answers (FieldCache.Sound schema) (schema.cachedResolver root path)
      (schema.resolve root path) := by
  intro cache sound
  rw [run_cachedResolver]
  cases noted : cache.get? root path with
  | some field => exact ⟨cache, sound, by rw [sound root path field noted]⟩
  | none =>
    cases resolved : schema.resolve root path with
    | ok field =>
      exact ⟨cache.insert root path field, FieldCache.sound_insert sound resolved, rfl⟩
    | error cause => exact ⟨cache, sound, rfl⟩

end Schema

end FilterQuery
