import FilterQuery.Failure
import FilterQuery.Text.LowerCase
import FilterQuery.Text.Space
import FilterQuery.Text.Split
/-! Pages: windows of equal size on a sorted result, counted from zero. -/
namespace FilterQuery

/-- The direction of this name, in either case. -/
def Direction.read (text : String) : Except Failure Direction :=
  let name := Text.lowerAscii text
  if name = "asc" then .ok .asc
  else if name = "desc" then .ok .desc
  else .error (.unknownDirection name)

def Direction.name : Direction → String
  | .asc => "asc"
  | .desc => "desc"

/-- A property to sort by, and the direction. -/
structure SortKey where
  /-- The path of a field. -/
  property : String
  direction : Direction
deriving DecidableEq

/-- Reads a sort key: a property, and after a comma its direction. White space around either is
left out. -/
def SortKey.read (text : String) : Except Failure SortKey := do
  let trimmed (cs : List Char) : String := String.ofList (Text.trim cs)
  let key : SortKey ← match Text.splitOnce? ',' text.toList with
    | none => pure ⟨trimmed text.toList, .asc⟩
    | some (property, direction) => do
      let direction ← Direction.read (trimmed direction)
      pure ⟨trimmed property, direction⟩
  if key.property = "" then throw .emptySortProperty else return key

/-- Properties to sort by, the most important first. -/
structure SortOrder where
  keys : List SortKey
deriving DecidableEq

namespace SortOrder

/-- Leaves the rows in their order. -/
def unsorted : SortOrder := ⟨[]⟩

/-- Sorts by one property, ascending. -/
def ascendingBy (property : String) : SortOrder := ⟨[⟨property, .asc⟩]⟩

/-- Appends the less important keys of another sort. -/
def and (sort other : SortOrder) : SortOrder := ⟨sort.keys ++ other.keys⟩

/-- Sorts by the same properties, all in this direction. -/
def withDirection (sort : SortOrder) (direction : Direction) : SortOrder :=
  ⟨sort.keys.map fun key => { key with direction }⟩

end SortOrder

/-- A request for one page. -/
structure PageRequest where
  page : Nat
  size : Nat
  sort : SortOrder
deriving DecidableEq

/-- One page of a result. -/
structure Page (α : Type) where
  content : List α
  page : Nat
  size : Nat
  /-- The length of the whole result. -/
  totalElements : Nat
deriving DecidableEq

namespace PageRequest

def offsetLimit : Nat := 0xffffffffffffffff

/-- The place of the first element of the page in the result, saturating at the largest offset. -/
def offset (request : PageRequest) : Nat := min (request.page * request.size) offsetLimit

/-- Checks that the page can hold something. -/
def validate (request : PageRequest) : Except Failure Unit :=
  if request.size = 0 then .error .emptyPage else .ok ()

end PageRequest

namespace Page

variable {α β : Type}

/-- The page with this content that answers a request. -/
def of (content : List α) (request : PageRequest) (totalElements : Nat) : Page α :=
  ⟨content, request.page, request.size, totalElements⟩

/-- The number of pages that the result fills; the last may be filled in part. -/
def totalPages (page : Page α) : Nat :=
  if page.size = 0 then 0 else (page.totalElements + page.size - 1) / page.size

/-- Whether a page follows that is not empty. -/
def hasNext (page : Page α) : Bool := page.page + 1 < page.totalPages

def map (f : α → β) (page : Page α) : Page β := { page with content := page.content.map f }

end Page

end FilterQuery
