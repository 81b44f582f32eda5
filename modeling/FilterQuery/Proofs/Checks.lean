/-! Computations that end with a value or an error. A sequence has a value if all
its parts have one. Checks on the items of a list are made from left to right,
and the first item that fails decides. -/
namespace FilterQuery

variable {ε α β γ : Type}

@[simp] theorem ok_bind (value : α) (next : α → Except ε β) :
    (Except.ok value >>= next) = next value := rfl

@[simp] theorem error_bind (error : ε) (next : α → Except ε β) :
    (Except.error error >>= next) = .error error := rfl

@[simp] theorem map_ok (value : α) (f : α → β) :
    (Except.ok value : Except ε α).map f = .ok (f value) := rfl

@[simp] theorem map_error (error : ε) (f : α → β) :
    (Except.error error : Except ε α).map f = .error error := rfl

@[simp] theorem pure_eq_ok (value : α) : (pure value : Except ε α) = .ok value := rfl

theorem bind_eq_ok {check : Except ε α} {next : α → Except ε β} {result : β} :
    (check >>= next) = .ok result ↔ ∃ value, check = .ok value ∧ next value = .ok result := by
  cases check <;> simp

theorem map_eq_ok {check : Except ε α} {f : α → β} {result : β} :
    check.map f = .ok result ↔ ∃ value, check = .ok value ∧ f value = result := by
  cases check <;> simp

theorem map_eq_error {check : Except ε α} {f : α → β} {error : ε} :
    check.map f = .error error ↔ check = .error error := by
  cases check <;> simp

/-- The first item without a result, from left to right, gives this error. -/
def FirstError (check : α → Except ε β) (items : List α) (error : ε) : Prop :=
  ∃ before item after, items = before ++ item :: after ∧
    (∀ earlier ∈ before, ∃ result, check earlier = .ok result) ∧ check item = .error error

variable {check : α → Except ε β} {item : α} {items : List α} {error : ε}

theorem mapM_cons_eq_ok {results : List β} :
    (item :: items).mapM check = .ok results ↔
      ∃ result rest, check item = .ok result ∧ items.mapM check = .ok rest ∧
        result :: rest = results := by
  rw [List.mapM_cons, bind_eq_ok]
  constructor
  · rintro ⟨result, checked, others⟩
    obtain ⟨rest, checkedRest, joined⟩ := bind_eq_ok.1 others
    cases joined
    exact ⟨result, rest, checked, checkedRest, rfl⟩
  · rintro ⟨result, rest, checked, checkedRest, rfl⟩
    exact ⟨result, checked, bind_eq_ok.2 ⟨rest, checkedRest, rfl⟩⟩

/-- All items have results iff each one has. -/
theorem exists_mapM_eq_ok_iff :
    (∃ results, items.mapM check = .ok results) ↔
      ∀ item ∈ items, ∃ result, check item = .ok result := by
  induction items with
  | nil => simp
  | cons item items ih =>
    rw [List.forall_mem_cons, ← ih]
    constructor
    · rintro ⟨results, checked⟩
      obtain ⟨result, rest, checkedItem, checkedRest, -⟩ := mapM_cons_eq_ok.1 checked
      exact ⟨⟨result, checkedItem⟩, rest, checkedRest⟩
    · rintro ⟨⟨result, checkedItem⟩, rest, checkedRest⟩
      exact ⟨result :: rest, mapM_cons_eq_ok.2 ⟨result, rest, checkedItem, checkedRest, rfl⟩⟩

/-- The results of all items are the results of the single ones. -/
theorem mem_results_iff {results : List β} (checked : items.mapM check = .ok results)
    {result : β} : result ∈ results ↔ ∃ item ∈ items, check item = .ok result := by
  induction items generalizing results with
  | nil =>
    cases checked
    simp
  | cons item items ih =>
    obtain ⟨first, rest, checkedItem, checkedRest, rfl⟩ := mapM_cons_eq_ok.1 checked
    rw [List.mem_cons, ih checkedRest]
    simp [checkedItem, eq_comm]

/-- There are as many results as items. -/
theorem length_of_mapM {results : List β} (checked : items.mapM check = .ok results) :
    results.length = items.length := by
  induction items generalizing results with
  | nil =>
    cases checked
    rfl
  | cons item items ih =>
    obtain ⟨result, rest, -, checkedRest, rfl⟩ := mapM_cons_eq_ok.1 checked
    rw [List.length_cons, List.length_cons, ih checkedRest]

/-- Items that are checked one by one give the list of their results. -/
theorem mapM_map_eq_ok {make : γ → α} {result : γ → β} {seeds : List γ}
    (each : ∀ seed ∈ seeds, check (make seed) = .ok (result seed)) :
    (seeds.map make).mapM check = .ok (seeds.map result) := by
  induction seeds with
  | nil => rfl
  | cons seed seeds ih =>
    obtain ⟨first, rest⟩ := List.forall_mem_cons.1 each
    rw [List.map_cons, List.map_cons]
    exact mapM_cons_eq_ok.2 ⟨result seed, seeds.map result, first, ih rest, rfl⟩

/-- Checks that follow from others have results that follow from theirs. -/
theorem mapM_eq_ok_map {other : α → Except ε γ} {f : β → γ} {results : List β}
    (follows : ∀ item result, check item = .ok result → other item = .ok (f result))
    (checked : items.mapM check = .ok results) : items.mapM other = .ok (results.map f) := by
  induction items generalizing results with
  | nil =>
    cases checked
    rfl
  | cons item items ih =>
    obtain ⟨result, rest, checkedItem, checkedRest, rfl⟩ := mapM_cons_eq_ok.1 checked
    exact mapM_cons_eq_ok.2 ⟨f result, rest.map f, follows item result checkedItem,
      ih checkedRest, rfl⟩

/-- Results that are changed one by one are changed together. -/
theorem mapM_map_result {f : β → γ} :
    items.mapM (fun item => (check item).map f) = (items.mapM check).map (List.map f) := by
  induction items with
  | nil => rfl
  | cons item items ih =>
    rw [List.mapM_cons, List.mapM_cons, ih]
    cases check item with
    | error cause => rfl
    | ok result => cases items.mapM check <;> rfl

theorem firstError_cons_of_ok {result : β} (checked : check item = .ok result) :
    FirstError check (item :: items) error ↔ FirstError check items error := by
  constructor
  · rintro ⟨before, found, after, split, passed, failed⟩
    cases before with
    | nil =>
      cases split
      rw [checked] at failed
      cases failed
    | cons first before =>
      cases split
      exact ⟨before, found, after, rfl, (List.forall_mem_cons.1 passed).2, failed⟩
  · rintro ⟨before, found, after, rfl, passed, failed⟩
    exact ⟨item :: before, found, after, rfl,
      List.forall_mem_cons.2 ⟨⟨result, checked⟩, passed⟩, failed⟩

theorem firstError_cons_of_error {cause : ε} (checked : check item = .error cause) :
    FirstError check (item :: items) error ↔ cause = error := by
  constructor
  · rintro ⟨before, found, after, split, passed, failed⟩
    cases before with
    | nil =>
      cases split
      rw [checked] at failed
      cases failed
      rfl
    | cons first before =>
      cases split
      obtain ⟨result, passedItem⟩ := passed item (by simp)
      rw [checked] at passedItem
      cases passedItem
  · rintro rfl
    exact ⟨[], item, items, rfl, by simp, checked⟩

/-- The error of all checks is that of the first one that fails. -/
theorem mapM_eq_error_iff : items.mapM check = .error error ↔ FirstError check items error := by
  induction items with
  | nil =>
    constructor
    · intro failed
      cases failed
    · rintro ⟨before, item, after, split, -⟩
      simp at split
  | cons item items ih =>
    rw [List.mapM_cons]
    cases checked : check item with
    | error cause =>
      rw [firstError_cons_of_error checked]
      simp
    | ok result =>
      rw [firstError_cons_of_ok checked, ← ih]
      cases items.mapM check <;> simp

theorem exists_firstError_iff :
    (∃ error, FirstError check items error) ↔
      ∃ item ∈ items, ∃ error, check item = .error error := by
  constructor
  · rintro ⟨error, before, item, after, rfl, -, failed⟩
    exact ⟨item, by simp, error, failed⟩
  · rintro ⟨item, among, error, failed⟩
    cases checked : items.mapM check with
    | error cause => exact ⟨cause, mapM_eq_error_iff.1 checked⟩
    | ok results =>
      obtain ⟨result, passed⟩ := exists_mapM_eq_ok_iff.1 ⟨results, checked⟩ item among
      rw [failed] at passed
      cases passed

/-- Going on with the results of checks does not change which check fails first. -/
theorem firstError_map_iff {f : α → β → γ} :
    FirstError (fun item => (check item).map (f item)) items error ↔
      FirstError check items error := by
  have passes (item : α) :
      (∃ result, (check item).map (f item) = .ok result) ↔ ∃ result, check item = .ok result := by
    cases check item <;> simp
  simp only [FirstError, passes, map_eq_error]

end FilterQuery
