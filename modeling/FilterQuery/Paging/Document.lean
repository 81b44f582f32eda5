import FilterQuery.Json.Structure
import FilterQuery.Paging.Basic
/-! Sort keys, page requests and pages as JSON documents. -/
namespace FilterQuery

namespace Direction

/-- The direction of this name, which must be in lower case. -/
def ofName? (name : String) : Option Direction :=
  [Direction.asc, .desc].find? fun direction => direction.name == name

/-- Reads a direction: its name, or an object with its name as the only key, over null. -/
def ofJson? : Json → Option Direction
  | .str name => ofName? name
  | .obj [(name, .null)] => ofName? name
  | _ => none

def toJson (direction : Direction) : Json := .str direction.name

end Direction

namespace SortKey

/-- Reads a sort key. The direction may be missing. -/
def ofJson? (json : Json) : Option SortKey := do
  match ← json.parts? ["property", "direction"] with
  | [some property, direction] =>
    return ⟨← property.text?, ← Direction.ofJson? (direction.getD (.str "asc"))⟩
  | _ => none

def toJson (key : SortKey) : Json :=
  .obj [("property", .str key.property), ("direction", key.direction.toJson)]

end SortKey

namespace SortOrder

def ofJson? (json : Json) : Option SortOrder := (json.list? SortKey.ofJson?).map SortOrder.mk

def toJson (sort : SortOrder) : Json := .arr (sort.keys.map SortKey.toJson)

end SortOrder

namespace PageRequest

/-- Reads a page request. The sort keys may be missing. -/
def ofJson? (json : Json) : Option PageRequest := do
  match ← json.parts? ["page", "size", "sort"] with
  | [some page, some size, sort] =>
    return ⟨← page.count?, ← size.count?, ← SortOrder.ofJson? (sort.getD (.arr []))⟩
  | _ => none

def toJson (request : PageRequest) : Json :=
  .obj [("page", .ofCount request.page), ("size", .ofCount request.size),
    ("sort", request.sort.toJson)]

end PageRequest

namespace Page

variable {α : Type}

/-- Reads a page, each element of it in this way. -/
def ofJson? (element? : Json → Option α) (json : Json) : Option (Page α) := do
  match ← json.parts? ["content", "page", "size", "total_elements"] with
  | [some content, some page, some size, some totalElements] =>
    return ⟨← content.list? element?, ← page.count?, ← size.count?, ← totalElements.count?⟩
  | _ => none

/-- Writes a page, each element of it in this way. -/
def toJson (element : α → Json) (page : Page α) : Json :=
  .obj [("content", .arr (page.content.map element)), ("page", .ofCount page.page),
    ("size", .ofCount page.size), ("total_elements", .ofCount page.totalElements)]

end Page

end FilterQuery
