import QueryAssembly.Shape.Basic

/-!
# Sort keys and pages

The result of a query is sorted by a list of keys, the first of which is the primary one, and cut
to a page.  A key on a field of nested objects carries a marker that says where they are and which
of their values counts.
-/

namespace QueryAssembly

/-- Marks a sort key as one on nested objects. -/
structure NestedMarker where
  /-- The path of the nested list. -/
  path : String
  /-- Which of its values stands for the document. -/
  mode : SortMode
deriving DecidableEq

namespace NestedMarker

/-- How a nested marker is written. -/
def shape : Shape NestedMarker :=
  .record "NestedSort"
    (.cons "path" .required .text <|
      .cons "mode" .required .sortMode .nil)
    ⟨fun (path, mode, ()) => ⟨path, mode⟩,
      fun marker => (marker.path, marker.mode, ()),
      fun _ => rfl, fun _ => rfl⟩

end NestedMarker

/-- One key of a sort. -/
structure SortKey where
  /-- The name of the field. -/
  field : String
  /-- The direction. -/
  order : SortOrder
  /-- The marker of a key on nested objects. -/
  nested : Option NestedMarker
deriving DecidableEq

namespace SortKey

/-- How a sort key is written. -/
def shape : Shape SortKey :=
  .record "SortSpec"
    (.cons "field" .required .text <|
      .cons "order" .required .order <|
      .cons "nested" (.always none) (.nullable NestedMarker.shape) .nil)
    ⟨fun (field, order, nested, ()) => ⟨field, order, nested⟩,
      fun key => (key.field, key.order, key.nested, ()),
      fun _ => rfl, fun _ => rfl⟩

/-- A key on a plain field. -/
def plain (field : String) (order : SortOrder) : SortKey := ⟨field, order, none⟩

/-- Mark a key as one on nested objects; a marker that is there already is replaced. -/
def mark (key : SortKey) (path : String) (mode : SortMode) : SortKey :=
  ⟨key.field, key.order, some ⟨path, mode⟩⟩

end SortKey

/-- A page of the result. -/
structure Page where
  /-- The number of documents before the page. -/
  offset : UInt64
  /-- The number of documents on the page. -/
  size : UInt64
deriving DecidableEq

namespace Page

/-- How a page is written. -/
def shape : Shape Page :=
  .record "Pagination"
    (.cons "from" .required .count <|
      .cons "size" .required .count .nil)
    ⟨fun (offset, size, ()) => ⟨offset, size⟩,
      fun page => (page.offset, page.size, ()),
      fun _ => rfl, fun _ => rfl⟩

end Page

end QueryAssembly
