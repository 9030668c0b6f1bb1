import QueryAssembly.Proofs.Json.Canonical

/-!
# Paths into a value

A path leads from a value to a part of it, by the keys of objects and by the places of lists.
-/

namespace QueryAssembly.Json

/-- A step from a value to a part of it. -/
inductive Step where
  /-- To the value of a key. -/
  | key (name : String)
  /-- To an item of a list. -/
  | item (index : Nat)
deriving DecidableEq

/-- The part of a value that a path leads to, if there is one. -/
def at? : List Step → Json → Option Json
  | [], json => some json
  | .key name :: path, json => (json.get? name).bind (at? path)
  | .item index :: path, json => json.items[index]?.bind (at? path)

@[simp] theorem at?_nil (json : Json) : json.at? [] = some json := rfl

theorem at?_key (json : Json) (name : String) (path : List Step) :
    json.at? (.key name :: path) = (json.get? name).bind (at? path) := rfl

theorem at?_item (json : Json) (index : Nat) (path : List Step) :
    json.at? (.item index :: path) = json.items[index]?.bind (at? path) := rfl

/-- A path may be taken part by part. -/
theorem at?_append (path further : List Step) (json : Json) :
    json.at? (path ++ further) = (json.at? path).bind (at? further) := by
  induction path generalizing json with
  | nil => rfl
  | cons step rest ih =>
    cases step with
    | key name =>
      rw [List.cons_append, at?_key, at?_key, Option.bind_assoc]
      exact congrArg _ (funext ih)
    | item index =>
      rw [List.cons_append, at?_item, at?_item, Option.bind_assoc]
      exact congrArg _ (funext ih)

end QueryAssembly.Json
