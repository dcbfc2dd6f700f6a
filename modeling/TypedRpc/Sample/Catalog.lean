import TypedRpc.Handler.Shaped

/-! The sample handlers without input: the tree of categories, and the state of the service. -/

namespace TypedRpc.Sample

open TypedRpc.Wire

/-- A category with the categories below it. A tree is written from the top, so no category names its parent. -/
inductive Category where
  | mk (name : String) (children : List Category)

mutual

/-- The category as it travels. -/
def Category.toWire : Category → Value
  | .mk name children =>
    .record [("name", .text name), ("children", .list (Category.listToWire children)), ("parent", .absent)]

/-- The categories as they travel. -/
def Category.listToWire : List Category → List Value
  | [] => []
  | category :: rest => category.toWire :: Category.listToWire rest

end

/-- The tree of categories. -/
def tree (_ : Context) (_ : Unit) : Outcome Category :=
  .value (.mk "music" [.mk "jazz" []])

/-- The records of the catalog, in a module of the given path. -/
def catalogRecords (path : String) : List RecordDecl :=
  let category := Shape.record (path ++ "::Category")
  [⟨path ++ "::Category", "Category",
    [.plain "name" .text, .plain "children" (.list category), .plain "parent" (.option category)], false, false⟩]

/-- The state of the service. -/
structure Health where
  ok : Bool
  version : String

/-- The state as it travels. -/
def Health.toWire (health : Health) : Value :=
  .record [("ok", .bool health.ok), ("version", .text health.version)]

/-- The state of a service of the given version. -/
def health (version : String) (_ : Context) (_ : Unit) : Outcome Health :=
  .value ⟨true, version⟩

/-- The records of the state, in a module of the given path. -/
def statusRecords (path : String) : List RecordDecl :=
  [⟨path ++ "::Health", "Health", [.plain "ok" .boolean, .plain "version" .text], false, false⟩]

end TypedRpc.Sample
