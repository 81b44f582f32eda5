import FilterQuery.Proofs.Database.Lookup
import FilterQuery.Proofs.Database.Requests
import FilterQuery.Proofs.Plan.Sorting
/-! Pages tile the sorted result. The page of number `k` holds the rows from place
`k * size` up to the place where the next page begins, and pages beyond the result are
empty. The offset of a page saturates at the largest word. This changes nothing, as long
as no more rows are stored than a word can count: an offset that saturates lies behind
the last row, like the place that it stands for. The result is sorted if its keys are in
a transitive order, as they are if the fields of each entity have distinct names. Else a
key may be a number in one record and a text in another, which have no order, and there
may be no sorted result. -/
namespace FilterQuery

section Windows

variable {α : Type}

/-- Consecutive windows of one size, joined, are the beginning of the list. -/
theorem flatMap_extract (rows : List α) (size count : Nat) :
    (List.range count).flatMap (fun k => rows.extract (k * size) ((k + 1) * size)) =
      rows.take (count * size) := by
  induction count with
  | zero => simp
  | succ count ih =>
    have next : (count + 1) * size = count * size + size := Nat.succ_mul count size
    have width : (count + 1) * size - count * size = size := by omega
    rw [List.range_succ, List.flatMap_append, ih, List.flatMap_singleton, List.extract_eq_take_drop,
      width, next, List.take_add]

/-- A window is empty iff it begins behind the last row. -/
theorem extract_eq_nil_iff {rows : List α} {size k : Nat} (occupied : size ≠ 0) :
    rows.extract (k * size) ((k + 1) * size) = [] ↔ rows.length ≤ k * size := by
  have next : (k + 1) * size = k * size + size := Nat.succ_mul k size
  rw [List.extract_eq_take_drop, List.take_eq_nil_iff, List.drop_eq_nil_iff]
  omega

/-- A saturated offset leaves out as many rows as the place that it stands for, if the rows can be
counted by a word. -/
theorem drop_offset {rows : List α} (counted : rows.length ≤ PageRequest.offsetLimit)
    (request : PageRequest) :
    rows.drop request.offset = rows.drop (request.page * request.size) := by
  by_cases within : request.page * request.size ≤ PageRequest.offsetLimit
  · rw [PageRequest.offset, Nat.min_eq_left within]
  · have saturated : request.offset = PageRequest.offsetLimit := by
      rw [PageRequest.offset]
      omega
    rw [saturated, List.drop_eq_nil_of_le counted, List.drop_eq_nil_of_le (by omega)]

end Windows

namespace Page

variable {α : Type} {page : Page α}

/-- The pages of a result have room for all its elements. -/
theorem le_totalPages_mul (occupied : page.size ≠ 0) :
    page.totalElements ≤ page.totalPages * page.size := by
  have bound := Nat.lt_mul_div_succ (page.totalElements + page.size - 1)
    (Nat.pos_of_ne_zero occupied)
  rw [totalPages, if_neg occupied]
  rw [Nat.mul_add_one, Nat.mul_comm] at bound
  omega

/-- A page follows iff an element stands behind this page. -/
theorem hasNext_iff (occupied : page.size ≠ 0) :
    page.hasNext = true ↔ (page.page + 1) * page.size < page.totalElements := by
  have next : (page.page + 1 + 1) * page.size = (page.page + 1) * page.size + page.size :=
    Nat.succ_mul _ _
  rw [hasNext, decide_eq_true_iff, totalPages, if_neg occupied, Nat.lt_iff_add_one_le,
    Nat.le_div_iff_mul_le (Nat.pos_of_ne_zero occupied), next]
  omega

end Page

/-- The pages of this size, by their numbers, tile a list of rows. -/
structure Tiles (size : Nat) (rows : List Record) (pages : Nat → Page Record) : Prop where
  content : ∀ k, (pages k).content = rows.extract (k * size) ((k + 1) * size)
  total : ∀ k, (pages k).totalElements = rows.length
  /-- Up to the last number that is a word, so that the following one is a word as well. -/
  next : ∀ k, k < PageRequest.offsetLimit →
    ((pages k).hasNext = true ↔ (pages (k + 1)).content ≠ [])
  whole : ∀ k, (List.range (pages k).totalPages).flatMap (fun k => (pages k).content) = rows

/-- The windows on a list of rows tile it. -/
theorem tiles_of_windows {size : Nat} (occupied : size ≠ 0) {rows : List Record}
    {pages : Nat → Page Record}
    (windows : ∀ k, pages k = ⟨rows.extract (k * size) ((k + 1) * size), k, size, rows.length⟩) :
    Tiles size rows pages := by
  have number (k : Nat) : (pages k).page = k := by rw [windows]
  have sized (k : Nat) : (pages k).size = size := by rw [windows]
  have content (k : Nat) : (pages k).content = rows.extract (k * size) ((k + 1) * size) := by
    rw [windows]
  have total (k : Nat) : (pages k).totalElements = rows.length := by rw [windows]
  have occupiedBy (k : Nat) : (pages k).size ≠ 0 := by
    rw [sized]
    exact occupied
  refine ⟨content, total, ?_, ?_⟩
  · intro k _
    rw [Page.hasNext_iff (occupiedBy k), number, sized, total, content, Ne,
      extract_eq_nil_iff occupied, Nat.not_le]
  · intro k
    have room := Page.le_totalPages_mul (occupiedBy k)
    rw [sized, total] at room
    simp only [content]
    rw [flatMap_extract, List.take_of_length_le room]

namespace Database

variable {database : Database} {entity : String} {tree : FilterTree}

/-- In a reachable database whose entities have fields with distinct names, each criterion of a sort
looks at values of one type. So it puts stored records into a transitive order. -/
theorem Reachable.transitiveOn_of_criteriaOver (reachable : database.Reachable)
    (distinct : database.schema.DistinctFields) {rows : List Record}
    (stored : ∀ row ∈ rows, row ∈ database.tables.rows entity) {keys : List SortKey}
    {criteria : List SortCriterion}
    (made : criteriaOver database.schema entity keys = .ok criteria) :
    SortCriterion.TransitiveOn criteria rows := by
  apply SortCriterion.transitiveOn_of_typed
  induction keys generalizing criteria with
  | nil =>
    cases made
    simp
  | cons key rest ih =>
    obtain ⟨field, resolved, made⟩ := bind_eq_ok.1 made
    obtain ⟨others, madeOthers, made⟩ := bind_eq_ok.1 made
    cases made
    refine List.forall_mem_cons.2 ⟨⟨field.type, ?_⟩, ih madeOthers⟩
    intro row inside
    exact reachable.null_or_admitted distinct (Failure.ofExcept_eq_ok.1 resolved)
      (stored row inside)

/-- The records that are found are stored records in the order of their insertion. -/
theorem sublist_of_foundOver {schema : Schema} {tables : Tables} {found : List Record}
    (given : foundOver schema tables entity tree = .ok found) :
    found.Sublist (tables.rows entity) := by
  obtain ⟨⟨condition, rows⟩, planned, returned⟩ := bind_eq_ok.1 given
  obtain ⟨compiled, -, planned⟩ := bind_eq_ok.1 planned
  obtain ⟨_, -, planned⟩ := bind_eq_ok.1 planned
  cases planned
  cases returned
  exact List.filter_sublist

/-- The rows of a page are a window on the sorted rows. -/
theorem result_pagePlan {criteria : List SortCriterion} {request : PageRequest}
    {rows : List Record} (counted : rows.length ≤ PageRequest.offsetLimit) :
    (pagePlan criteria request rows).result =
      (SortCriterion.sortRows criteria rows).extract (request.page * request.size)
        ((request.page + 1) * request.size) := by
  have sorted : (if criteria.isEmpty then Plan.scan rows else .sort criteria (.scan rows)).result =
      SortCriterion.sortRows criteria rows := by
    cases criteria with
    | nil => exact (SortCriterion.sortRows_nil rows).symm
    | cons criterion rest => rfl
  have counted : (SortCriterion.sortRows criteria rows).length ≤ PageRequest.offsetLimit := by
    rwa [(SortCriterion.perm_sortRows criteria rows).length_eq]
  have width : (request.page + 1) * request.size - request.page * request.size = request.size := by
    rw [Nat.succ_mul]
    omega
  rw [pagePlan, Plan.result, sorted, drop_offset counted, List.extract_eq_take_drop, width]

/-- A page of a size that can hold something is a window on the sorted records that are found. -/
theorem pageOver_eq {schema : Schema} {tables : Tables} {request : PageRequest}
    {criteria : List SortCriterion} {found : List Record} (occupied : request.size ≠ 0)
    (made : criteriaOver schema entity request.sort.keys = .ok criteria)
    (given : foundOver schema tables entity tree = .ok found)
    (counted : found.length ≤ PageRequest.offsetLimit) :
    pageOver schema tables entity tree request =
      .ok ⟨(SortCriterion.sortRows criteria found).extract (request.page * request.size)
        ((request.page + 1) * request.size), request.page, request.size, found.length⟩ := by
  have fits : request.validate = .ok () := if_neg occupied
  have ready := orderable_pagePlan (path_ne_nil_of_criteriaOver made) request found
  rw [pageOver, fits, ok_bind, made, ok_bind, given, ok_bind, Plan.rows_eq_result ready, ok_bind,
    result_pagePlan counted]
  rfl

/-- The pages of a request tile the sorted result. For a declared entity, a tree that compiles, sort
keys that have fields and a size that is not zero, all queries have answers. The pages tile one list
of the records that are found, and the count is its length. If the keys put these records into a
transitive order, then this list is the one that is in the order of the keys and keeps the order of
records that are equal. They do if the fields of each entity have distinct names. A word can count
the stored records. -/
theorem Reachable.pages_tile_sorted_records (reachable : database.Reachable)
    {sort : SortOrder} {size : Nat}
    (declared : ∃ found, database.schema.entity entity = .ok found)
    (compiles : ∃ condition,
      (tree.compileForRecords database.schema.resolver entity).result = .ok condition)
    (sorts : ∀ key ∈ sort.keys, ∃ field, database.schema.resolve entity key.property = .ok field)
    (occupied : size ≠ 0)
    (counted : (database.tables.rows entity).length ≤ PageRequest.offsetLimit) :
    ∃ criteria found sorted pages,
      criteriaOver database.schema entity sort.keys = .ok criteria ∧
      ((findAll entity tree).run.run database).1 = .ok found ∧
      ((count entity tree).run.run database).1 = .ok sorted.length ∧
      (∀ k, ((findPage entity tree ⟨k, size, sort⟩).run.run database).1 = .ok (pages k)) ∧
      Tiles size sorted pages ∧ sorted.Perm found ∧ (sort.keys = [] → sorted = found) ∧
      (SortCriterion.TransitiveOn criteria found →
        ∀ list, StablySorted criteria found list ↔ list = sorted) ∧
      (database.schema.DistinctFields → SortCriterion.TransitiveOn criteria found) := by
  obtain ⟨criteria, made⟩ := exists_criteriaOver_iff.2 sorts
  obtain ⟨condition, compiled⟩ := compiles
  rw [FilterTree.result_compileForRecords] at compiled
  obtain ⟨denoted, compiled, -⟩ := map_eq_ok.1 compiled
  have gives : ∃ found, foundOver database.schema database.tables entity tree = .ok found :=
    exists_foundOver_iff.2 ⟨⟨denoted, compiled⟩, declared⟩
  obtain ⟨found, given⟩ := gives
  have sublist := sublist_of_foundOver given
  have countedFound : found.length ≤ PageRequest.offsetLimit :=
    Nat.le_trans sublist.length_le counted
  let sorted := SortCriterion.sortRows criteria found
  have perm : sorted.Perm found := SortCriterion.perm_sortRows criteria found
  let pages (k : Nat) : Page Record :=
    ⟨sorted.extract (k * size) ((k + 1) * size), k, size, sorted.length⟩
  refine ⟨criteria, found, sorted, pages, made, ?_, ?_, ?_, tiles_of_windows occupied fun _ => rfl,
    perm, ?_, fun transitive _ => SortCriterion.stablySorted_iff transitive, ?_⟩
  · obtain ⟨after, -, answered⟩ := findAll_answers entity tree database reachable.serves
    rw [answered, given]
  · obtain ⟨after, -, answered⟩ := count_answers entity tree database reachable.serves
    rw [answered, given, perm.length_eq]
    rfl
  · intro k
    obtain ⟨after, -, answered⟩ :=
      findPage_answers entity tree ⟨k, size, sort⟩ database reachable.serves
    rw [answered]
    have page : pageOver database.schema database.tables entity tree ⟨k, size, sort⟩ =
        .ok ⟨sorted.extract (k * size) ((k + 1) * size), k, size, found.length⟩ :=
      pageOver_eq occupied made given countedFound
    rw [page, ← perm.length_eq]
  · intro unsorted
    rw [unsorted] at made
    cases made
    exact SortCriterion.sortRows_nil found
  · intro distinct
    have stored : ∀ row ∈ found, row ∈ database.tables.rows entity := fun _ => sublist.mem
    exact reachable.transitiveOn_of_criteriaOver distinct stored made

/-- Three records on pages of two, by a key that two of them share and one of them lacks. -/
theorem pages_tile_items_by_price :
    let item : Entity := ⟨"Item", none, none, [⟨"name", .string⟩, ⟨"price", .integer⟩]⟩
    let priced (name : String) : Record := ⟨[("name", .str name), ("price", .int 7)]⟩
    let unpriced : Record := ⟨[("name", .str "b"), ("price", .null)]⟩
    let database : Database :=
      ⟨⟨[item]⟩, .empty, [("Item", [priced "a", unpriced, priced "c"])]⟩
    let sort : SortOrder := ⟨[⟨"price", .desc⟩]⟩
    database.Reachable ∧ database.schema.DistinctFields ∧
    StablySorted [.of ["price"] .desc] [priced "a", unpriced, priced "c"]
      [priced "a", priced "c", unpriced] ∧
    ∃ pages : Nat → Page Record,
      ((count "Item" ⟨[]⟩).run.run database).1 = .ok 3 ∧
      (∀ k, ((findPage "Item" ⟨[]⟩ ⟨k, 2, sort⟩).run.run database).1 = .ok (pages k)) ∧
      Tiles 2 [priced "a", priced "c", unpriced] pages := by
  intro item priced unpriced database sort
  let holding (rows : List Record) : Database :=
    ⟨⟨[item]⟩, .empty, if rows.isEmpty then [] else [("Item", rows)]⟩
  let row (name : String) (price : Json) : Json := .obj [("name", .str name), ("price", price)]
  let seven : Json := .num (.int 7 (by decide))
  have opening : openEmpty ⟨[item]⟩ = .ok (holding []) := rfl
  have storedFirst : (holding []).insert "Item" (row "a" seven) =
      .ok (1, holding [priced "a"]) := rfl
  have storedSecond : (holding [priced "a"]).insert "Item" (row "b" .null) =
      .ok (2, holding [priced "a", unpriced]) := rfl
  have storedThird : (holding [priced "a", unpriced]).insert "Item" (row "c" seven) =
      .ok (3, database) := rfl
  have reachable : database.Reachable :=
    .next (.next (.next (.opened opening) (.stored storedFirst)) (.stored storedSecond))
      (.stored storedThird)
  have distinct : database.schema.DistinctFields := by
    simp [Schema.DistinctFields, database, item]
  have declared : ∃ found, database.schema.entity "Item" = .ok found := ⟨item, rfl⟩
  have compiles : ∃ condition,
      (FilterTree.compileForRecords ⟨[]⟩ database.schema.resolver "Item").result = .ok condition :=
    ⟨.always, rfl⟩
  have sorts : ∀ key ∈ sort.keys, ∃ field,
      database.schema.resolve "Item" key.property = .ok field := by
    intro key inside
    rw [List.mem_singleton.1 inside]
    exact ⟨⟨"price", [], ⟨"Item", "price"⟩, none, .integer⟩, rfl⟩
  have occupied : 2 ≠ 0 := by decide
  have fewRows : (database.tables.rows "Item").length ≤ PageRequest.offsetLimit := by decide
  obtain ⟨criteria, found, sorted, pages, made, given, counted, paged, tiles, -, -, unique,
    orderly⟩ := reachable.pages_tile_sorted_records declared compiles sorts occupied fewRows
  have finds : ((findAll "Item" ⟨[]⟩).run.run database).1 =
      .ok [priced "a", unpriced, priced "c"] := rfl
  have orders : criteriaOver database.schema "Item" sort.keys = .ok [.of ["price"] .desc] := rfl
  rw [finds] at given
  rw [orders] at made
  cases given
  cases made
  have stably := SortCriterion.stablySorted_of_transitiveOn (orderly distinct)
  let precedes (a b : Record) : Bool :=
    (SortCriterion.compareAll [.of ["price"] .desc] a b).isLE
  have beforeNull : precedes (priced "a") unpriced = true := rfl
  have afterNull : precedes unpriced (priced "c") = false := rfl
  have inPlace : precedes (priced "a") (priced "c") = true := rfl
  have listed : SortCriterion.sortRows [.of ["price"] .desc] [priced "a", unpriced, priced "c"] =
      [priced "a", priced "c", unpriced] := by
    simp only [precedes] at beforeNull afterNull inPlace
    simp [SortCriterion.sortRows_eq_mergeSort, List.mergeSort,
      List.MergeSort.Internal.splitInTwo, beforeNull, afterNull, inPlace]
  rw [listed] at stably
  rw [← (unique (orderly distinct) _).1 stably] at counted tiles
  exact ⟨reachable, distinct, stably, pages, counted, paged, tiles⟩

/-- A reference to an entity whose identifier is declared twice can hold a number or a text. If
texts stand between numbers in the wrong order, then no list of the records is sorted, and the page
of all records has the larger number first. -/
theorem mixed_references_have_no_sorted_result :
    let team : Entity := ⟨"Team", none, some "id", [⟨"id", .integer⟩, ⟨"id", .string⟩]⟩
    let worker : Entity := ⟨"Worker", none, none, [⟨"team", .entity "Team"⟩]⟩
    let inTeam (id : Value) : Record := ⟨[("team", .entity [("id", id)])]⟩
    let rows : List Record :=
      [inTeam (.int 2), inTeam (.str "7"), inTeam (.str "8"), inTeam (.int 1)]
    let database : Database := ⟨⟨[team, worker]⟩, .empty, [("Worker", rows)]⟩
    let sort : SortOrder := ⟨[⟨"team", .asc⟩]⟩
    let criteria : List SortCriterion := [.of ["team", "id"] .asc]
    database.Reachable ∧
    criteriaOver database.schema "Worker" sort.keys = .ok criteria ∧
    ((findAll "Worker" ⟨[]⟩).run.run database).1 = .ok rows ∧
    (∀ list, ¬ StablySorted criteria rows list) ∧
    ((findPage "Worker" ⟨[]⟩ ⟨0, 4, sort⟩).run.run database).1 = .ok ⟨rows, 0, 4, 4⟩ := by
  intro team worker inTeam rows database sort criteria
  let holding (rows : List Record) : Database :=
    ⟨⟨[team, worker]⟩, .empty, if rows.isEmpty then [] else [("Worker", rows)]⟩
  let number (id : Json) : Json := .obj [("team", id)]
  let text (id : String) : Json := .obj [("team", .obj [("id", .str id)])]
  have opening : openEmpty ⟨[team, worker]⟩ = .ok (holding []) := rfl
  have storedFirst : (holding []).insert "Worker" (number (.num (.int 2 (by decide)))) =
      .ok (1, holding (rows.take 1)) := rfl
  have storedSecond : (holding (rows.take 1)).insert "Worker" (text "7") =
      .ok (2, holding (rows.take 2)) := rfl
  have storedThird : (holding (rows.take 2)).insert "Worker" (text "8") =
      .ok (3, holding (rows.take 3)) := rfl
  have storedFourth : (holding (rows.take 3)).insert "Worker" (number (.num (.int 1 (by decide)))) =
      .ok (4, database) := rfl
  have reachable : database.Reachable :=
    .next (.next (.next (.next (.opened opening) (.stored storedFirst)) (.stored storedSecond))
      (.stored storedThird)) (.stored storedFourth)
  have made : criteriaOver database.schema "Worker" sort.keys = .ok criteria := rfl
  have given : foundOver database.schema database.tables "Worker" ⟨[]⟩ = .ok rows := rfl
  let precedes (a b : Value) : Bool :=
    (SortCriterion.compareAll criteria (inTeam a) (inTeam b)).isLE
  have twoSeven : precedes (.int 2) (.str "7") = true := rfl
  have twoEight : precedes (.int 2) (.str "8") = true := rfl
  have sevenEight : precedes (.str "7") (.str "8") = true := rfl
  have sevenOne : precedes (.str "7") (.int 1) = true := rfl
  have eightOne : precedes (.str "8") (.int 1) = true := rfl
  have twoOne : precedes (.int 2) (.int 1) = false := rfl
  have kept : SortCriterion.sortRows criteria rows = rows := by
    simp only [precedes] at twoSeven twoEight sevenEight eightOne
    simp [SortCriterion.sortRows_eq_mergeSort, rows, List.mergeSort,
      List.MergeSort.Internal.splitInTwo, twoSeven, twoEight, sevenEight, eightOne]
  have distinct : rows.Nodup := by
    simp [rows, inTeam]
  refine ⟨reachable, made, rfl, fun list => ?_, ?_⟩
  · have between : [inTeam (.int 2), inTeam (.str "7"), inTeam (.int 1)].Sublist rows :=
      .cons_cons _ (.cons_cons _ (.cons _ (.cons_cons _ .slnil)))
    exact SortCriterion.not_stablySorted_of_between distinct between twoSeven sevenOne twoOne list
  · obtain ⟨after, -, answered⟩ :=
      findPage_answers "Worker" ⟨[]⟩ ⟨0, 4, sort⟩ database reachable.serves
    have page : pageOver database.schema database.tables "Worker" ⟨[]⟩ ⟨0, 4, sort⟩ = _ :=
      pageOver_eq (by decide) made given (by decide)
    rw [answered, page, kept]
    rfl

end Database

end FilterQuery
