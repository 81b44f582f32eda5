import FilterQuery.Filter.Compile
import FilterQuery.Proofs.Checks
/-! One compilation for all builders. A filter has a condition on resolved fields,
or an error. Where there is a condition, every builder makes of the filter what it
makes of the condition, part by part and from left to right, and leaves the same
notes behind. Where there is an error, every builder ends with it, whatever it has
built until then. -/
namespace FilterQuery

namespace Condition

/-- Builds the conditions themselves. -/
def builder : Builder Id (Condition ResolvedField) where
  always := .always
  test := .test
  all := .all
  any := .any

variable {π : Type} {m : Type → Type} [Monad m]

mutual

/-- What a builder makes of a condition, from left to right and from the leaves up. -/
def assemble (builder : Builder m π) : Condition ResolvedField → m π
  | .always => builder.always
  | .test field question => builder.test field question
  | .all members => do
    let parts ← assembleAll builder members
    builder.all parts
  | .any members => do
    let parts ← assembleAll builder members
    builder.any parts

/-- What a builder makes of these conditions from left to right. -/
def assembleAll (builder : Builder m π) : List (Condition ResolvedField) → m (List π)
  | [] => return []
  | member :: rest => do
    let part ← assemble builder member
    let parts ← assembleAll builder rest
    return part :: parts

end

theorem join_builder (connective : Connective) (members : List (Condition ResolvedField)) :
    builder.join connective members = (pure (join connective members) : Id _) := by
  match members with
  | [] => rfl
  | [_] => rfl
  | _ :: _ :: _ => cases connective <;> rfl

theorem assemble_join [LawfulMonad m] (builder : Builder m π) (connective : Connective)
    (members : List (Condition ResolvedField)) :
    assemble builder (join connective members) =
      assembleAll builder members >>= builder.join connective := by
  match members with
  | [] => simp [join, assemble, assembleAll, Builder.join]
  | [_] => simp [join, assembleAll, Builder.join]
  | _ :: _ :: _ => cases connective <;> simp [join, assemble, assembleAll, Builder.join]

end Condition

namespace Resolution

variable {ν α β : Type}

/-- What a resolution that begins with these notes gives, and the notes it leaves. -/
def start (resolution : Resolution ν α) (notes : ν) : Except ExpressionError α × ν :=
  resolution.run.run notes

theorem start_bind_of_ok {resolution : Resolution ν α} {notes after : ν} {value : α}
    (ran : resolution.start notes = (.ok value, after)) (next : α → Resolution ν β) :
    start (resolution >>= next) notes = (next value).start after := by
  have reached : resolution.run.run notes = (.ok value, after) := ran
  simp only [start, ExceptT.run_bind, StateT.run_bind, reached]
  rfl

theorem start_bind_of_error {resolution : Resolution ν α} {notes after : ν}
    {cause : ExpressionError} (ran : resolution.start notes = (.error cause, after))
    (next : α → Resolution ν β) : start (resolution >>= next) notes = (.error cause, after) := by
  have reached : resolution.run.run notes = (.error cause, after) := ran
  simp only [start, ExceptT.run_bind, StateT.run_bind, reached]
  rfl

end Resolution

namespace Compilation

variable {ν α β : Type} {m : Type → Type} [Monad m]

/-- A compilation with its notes, up to its end. -/
def start (compilation : Compilation ν m α) (notes : ν) : m (Except ExpressionError α × ν) :=
  compilation.run.run notes

@[simp] theorem start_pure (value : α) (notes : ν) :
    start (pure value : Compilation ν m α) notes = pure (.ok value, notes) := rfl

@[simp] theorem start_within (resolution : Resolution ν α) (notes : ν) :
    start (resolution.within m) notes = pure (resolution.start notes) := rfl

@[simp] theorem start_except (answer : Except ExpressionError α) (notes : ν) :
    start (liftM answer : Compilation ν m α) notes = pure (answer, notes) := rfl

@[simp] theorem start_effect [LawfulMonad m] (effect : m α) (notes : ν) :
    start (liftM effect : Compilation ν m α) notes =
      (fun value => (.ok value, notes)) <$> effect := by
  have lifted : start (liftM effect : Compilation ν m α) notes = do
      let (value, after) ← (do return (← effect, notes))
      return (.ok value, after) := rfl
  simp [lifted]

@[simp] theorem start_bind (compilation : Compilation ν m α) (next : α → Compilation ν m β)
    (notes : ν) : start (compilation >>= next) notes = do
      let (answer, after) ← start compilation notes
      match answer with
      | .ok value => start (next value) after
      | .error cause => return (.error cause, after) := by
  simp only [start, ExceptT.run_bind, StateT.run_bind]
  refine bind_congr fun reached => ?_
  obtain ⟨answer, after⟩ := reached
  cases answer <;> rfl

@[simp] theorem start_map [LawfulMonad m] (f : α → β) (compilation : Compilation ν m α)
    (notes : ν) : start (f <$> compilation) notes =
      (fun reached => (reached.1.map f, reached.2)) <$> start compilation notes := by
  rw [← bind_pure_comp, start_bind, map_eq_pure_bind]
  refine bind_congr fun reached => ?_
  obtain ⟨answer, after⟩ := reached
  cases answer <;> rfl

end Compilation

/-- The compilation makes of the value of the resolution what `make` makes of it, with the same
notes, and ends with the error of the resolution if there is one. -/
def Builds {ν α β : Type} {m : Type → Type} [Monad m] (resolution : Resolution ν α)
    (make : α → m β) (compilation : Compilation ν m β) : Prop :=
  ∀ notes, match resolution.start notes with
    | (.ok value, after) => compilation.start notes = (fun part => (.ok part, after)) <$> make value
    | (.error cause, after) => ∃ effects : m Unit,
        compilation.start notes = (fun _ => (.error cause, after)) <$> effects

section Builds

variable {ν α β γ δ ρ τ : Type} {m : Type → Type} [Monad m] [LawfulMonad m]

theorem builds_pure (value : α) (make : α → m β) :
    Builds (pure value : Resolution ν α) make (liftM (make value)) :=
  fun notes => Compilation.start_effect (make value) notes

/-- A resolution before both makes no difference. -/
theorem builds_after {before : Resolution ν γ} {next : γ → Resolution ν α} {make : α → m β}
    {build : γ → Compilation ν m β} (each : ∀ value, Builds (next value) make (build value)) :
    Builds (before >>= next) make (before.within m >>= build) := by
  intro notes
  cases ran : before.start notes with
  | mk answer middle =>
    cases answer with
    | error cause =>
      rw [Resolution.start_bind_of_error ran]
      exact ⟨pure (), by simp [ran]⟩
    | ok value =>
      rw [Resolution.start_bind_of_ok ran]
      have run : (before.within m >>= build).start notes = (build value).start middle := by
        simp [ran]
      rw [run]
      exact each value middle

/-- A check before both makes no difference. -/
theorem builds_check {answer : Except ExpressionError γ} {next : γ → Resolution ν α}
    {make : α → m β} {build : γ → Compilation ν m β}
    (each : ∀ value, Builds (next value) make (build value)) :
    Builds (liftM answer >>= next) make (liftM answer >>= build) :=
  builds_after each

/-- Parts are joined as what they are made of is joined. -/
theorem builds_join {resolution : Resolution ν α} {make : α → m β} {build : Compilation ν m β}
    {makeJoined : γ → m δ} {combine : α → γ} {join : β → m δ}
    (parts : Builds resolution make build)
    (joined : ∀ value, makeJoined (combine value) = make value >>= join) :
    Builds (do return combine (← resolution)) makeJoined (do join (← build)) := by
  intro notes
  have built := parts notes
  cases ran : resolution.start notes with
  | mk answer after =>
    rw [ran] at built
    cases answer with
    | error cause =>
      rw [Resolution.start_bind_of_error ran]
      obtain ⟨effects, built⟩ := built
      exact ⟨effects, by simp [built]⟩
    | ok value =>
      rw [Resolution.start_bind_of_ok ran]
      show Compilation.start _ notes =
        (fun part => (.ok part, after)) <$> makeJoined (combine value)
      rw [joined]
      simp [built]

/-- Of two parts the second is built after the first, unless the first ends with an error. -/
theorem builds_pair {first : Resolution ν α} {second : Resolution ν γ} {makeFirst : α → m β}
    {makeSecond : γ → m δ} {buildFirst : Compilation ν m β} {buildSecond : Compilation ν m δ}
    {makeBoth : ρ → m τ} {combine : α → γ → ρ} {both : β → δ → τ}
    (one : Builds first makeFirst buildFirst) (two : Builds second makeSecond buildSecond)
    (joined : ∀ value other,
      makeBoth (combine value other) = do return both (← makeFirst value) (← makeSecond other)) :
    Builds (do return combine (← first) (← second)) makeBoth
      (do return both (← buildFirst) (← buildSecond)) := by
  intro notes
  have built := one notes
  cases ran : first.start notes with
  | mk answer middle =>
    rw [ran] at built
    cases answer with
    | error cause =>
      rw [Resolution.start_bind_of_error ran]
      obtain ⟨effects, built⟩ := built
      exact ⟨effects, by simp [built]⟩
    | ok value =>
      have built : buildFirst.start notes = (fun part => (.ok part, middle)) <$> makeFirst value :=
        built
      rw [Resolution.start_bind_of_ok ran]
      have builtSecond := two middle
      cases ranSecond : second.start middle with
      | mk answer after =>
        rw [ranSecond] at builtSecond
        cases answer with
        | error cause =>
          rw [Resolution.start_bind_of_error ranSecond]
          obtain ⟨effects, builtSecond⟩ := builtSecond
          exact ⟨makeFirst value *> effects, by simp [built, builtSecond, seqRight_eq_bind]⟩
        | ok other =>
          have builtSecond : buildSecond.start middle =
            (fun part => (.ok part, after)) <$> makeSecond other := builtSecond
          rw [Resolution.start_bind_of_ok ranSecond]
          show Compilation.start _ notes =
            (fun part => (.ok part, after)) <$> makeBoth (combine value other)
          rw [joined]
          simp [built, builtSecond]

end Builds

namespace Filter

/-- The condition of a filter on the records of an entity. -/
def condition {ν : Type} (resolve : Resolver ν) (root : String) (filter : Filter) :
    Resolution ν (Condition ResolvedField) :=
  filter.compile Condition.builder resolve root

/-- The conditions of these filters. -/
def conditions {ν : Type} (resolve : Resolver ν) (root : String) (members : List Filter) :
    Resolution ν (List (Condition ResolvedField)) :=
  compileAll Condition.builder resolve root members

variable {ν π : Type} {m : Type → Type} [Monad m] [LawfulMonad m]
variable (builder : Builder m π) (resolve : Resolver ν) (root : String)

theorem condition_leaf (leaf : Leaf) : condition resolve root (.leaf leaf) = do
    let field ← resolve root leaf.field
    let test ← leaf.test field
    return .test field test := rfl

theorem condition_group (connective : Connective) (members : List Filter) :
    condition resolve root (.group connective members) = do
      let parts ← conditions resolve root members
      return .join connective parts := by
  simp only [condition, conditions, compile, Condition.join_builder]
  rfl

theorem conditions_cons (member : Filter) (rest : List Filter) :
    conditions resolve root (member :: rest) = do
      let part ← condition resolve root member
      let parts ← conditions resolve root rest
      return part :: parts := rfl

theorem builds_leaf (leaf : Leaf) :
    Builds (condition resolve root (.leaf leaf)) (Condition.assemble builder)
      (compile builder resolve root (.leaf leaf)) := by
  rw [condition_leaf, compile]
  apply builds_after
  intro field
  apply builds_check
  intro test
  exact builds_pure (.test field test) (Condition.assemble builder)

mutual

/-- What a builder makes of a filter is what it makes of the condition of the filter. -/
theorem builds_compile : ∀ filter : Filter,
    Builds (condition resolve root filter) (Condition.assemble builder)
      (compile builder resolve root filter)
  | .leaf question => builds_leaf builder resolve root question
  | .group connective members => by
    rw [condition_group, compile]
    exact builds_join (builds_compileAll members) fun parts =>
      Condition.assemble_join builder connective parts

theorem builds_compileAll : ∀ members : List Filter,
    Builds (conditions resolve root members) (Condition.assembleAll builder)
      (compileAll builder resolve root members)
  | [] => fun notes => by
    have nothing : (compileAll builder resolve root []).start notes =
        (fun parts => (.ok parts, notes)) <$> Condition.assembleAll builder [] := by
      simp [compileAll, Condition.assembleAll]
    exact nothing
  | member :: rest => by
    rw [conditions_cons, compileAll]
    exact builds_pair (builds_compile member) (builds_compileAll rest) fun _ _ => rfl

end

end Filter

namespace FilterTree

/-- The condition of a tree on the records of an entity. -/
def condition {ν : Type} (resolve : Resolver ν) (root : String) (tree : FilterTree) :
    Resolution ν (Condition ResolvedField) :=
  tree.compile Condition.builder resolve root

variable {ν π : Type} {m : Type → Type} [Monad m] [LawfulMonad m]
variable (builder : Builder m π) (resolve : Resolver ν) (root : String) (tree : FilterTree)

theorem condition_eq : tree.condition resolve root = do
    let parts ← Filter.conditions resolve root tree.nodes
    return .join .and parts := by
  simp only [condition, Filter.conditions, compile, Condition.join_builder]
  rfl

/-- What a builder makes of a tree is what it makes of the condition of the tree. -/
theorem builds_compile :
    Builds (condition resolve root tree) (Condition.assemble builder)
      (tree.compile builder resolve root) := by
  rw [condition_eq, compile]
  exact builds_join (Filter.builds_compileAll builder resolve root tree.nodes) fun parts =>
    Condition.assemble_join builder .and parts

end FilterTree

namespace Condition

mutual

theorem assemble_recordBuilder : ∀ condition : Condition ResolvedField,
    assemble recordBuilder condition = (pure (condition.map ResolvedField.names) : Id _)
  | .always => rfl
  | .test _ _ => rfl
  | .all members => by
    rw [assemble, assembleAll_recordBuilder members]
    rfl
  | .any members => by
    rw [assemble, assembleAll_recordBuilder members]
    rfl

theorem assembleAll_recordBuilder : ∀ members : List (Condition ResolvedField),
    assembleAll recordBuilder members = (pure (mapAll ResolvedField.names members) : Id _)
  | [] => rfl
  | member :: rest => by
    rw [assembleAll, assemble_recordBuilder member, assembleAll_recordBuilder rest]
    rfl

end

end Condition

/-- The condition of a tree on records is its condition with paths of names for fields. -/
theorem FilterTree.start_compileForRecords {ν : Type} (resolve : Resolver ν) (root : String)
    (tree : FilterTree) (notes : ν) :
    (tree.compileForRecords resolve root).start notes =
      (((tree.condition resolve root).start notes).1.map (Condition.map ResolvedField.names),
        ((tree.condition resolve root).start notes).2) := by
  have built := tree.builds_compile recordBuilder resolve root notes
  cases ran : (tree.condition resolve root).start notes with
  | mk answer after =>
    rw [ran] at built
    cases answer with
    | error cause =>
      obtain ⟨effects, built⟩ := built
      exact built
    | ok condition =>
      simp only [Condition.assemble_recordBuilder] at built
      exact built

end FilterQuery
