import TypedRpc.Descriptor.Basic
import TypedRpc.Text.Quoted
import TypedRpc.Text.Split

/-!
Descriptors written out for inspection: every node with its name, its parts in order, texts quoted. A deferred
field list is only marked, so the text is finite for a type that contains itself.
-/

namespace TypedRpc

open TypedRpc.Text

/-- The name of a scalar kind. -/
def Scalar.inspect : Scalar → String
  | .string => "String"
  | .number => "Number"
  | .boolean => "Boolean"

mutual

/-- The descriptor written out. -/
def Descriptor.inspect : Descriptor → String
  | .scalar kind => s!"Primitive({kind.inspect})"
  | .timestamp => "SpecialWire(Timestamp)"
  | .unknown => "Unknown"
  | .sequence element => s!"Sequence({element.inspect})"
  | .optional inner => s!"Optional({inner.inspect})"
  | .wrapper inner => s!"Wrapper({inner.inspect})"
  | .named name fields => "Named \x7b name: " ++ quote name ++ ", fields: " ++ fields.inspect ++ " \x7d"
  | .inline fields => s!"Anonymous({fields.inspect})"

/-- The field list written out, or the mark of a deferred one. -/
def FieldList.inspect : FieldList → String
  | .listed fields => "[" ++ join ", " (Field.inspectList fields) ++ "]"
  | .deferred _ => "[deferred]"

/-- Each field written out. -/
def Field.inspectList : List Field → List String
  | [] => []
  | field :: rest => field.inspect :: Field.inspectList rest

/-- The field written out. -/
def Field.inspect : Field → String
  | .mk wireName type required =>
    "Field \x7b wire_name: " ++ quote wireName ++ ", ty: " ++ type.inspect
      ++ s!", required: {required} \x7d"

end

end TypedRpc
