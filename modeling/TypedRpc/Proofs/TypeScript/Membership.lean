import Mathlib.Data.List.Nodup
import TypedRpc.Json.Value
import TypedRpc.TypeScript.TypeExpr

/-!
# Members of types

What the client language takes for a value of a type: JSON values as members of type expressions, where the name of a
defined type stands for its definition.
-/

namespace TypedRpc.TypeScript

/-- The JSON value is a member of the type. -/
inductive Admits (definitions : List Definition) : TypeExpr → Json.Value → Prop where
  | string {s : String} : Admits definitions (.keyword .string) (.string s)
  | integer {i : Int} : Admits definitions (.keyword .number) (.integer i)
  | float {x : Binary64} : Admits definitions (.keyword .number) (.float x)
  | boolean {b : Bool} : Admits definitions (.keyword .boolean) (.bool b)
  | any {value : Json.Value} : Admits definitions (.keyword .any) value
  | null {element : TypeExpr} : Admits definitions (.nullableArray element) .null
  | array {element : TypeExpr} {items : List Json.Value} (hitems : ∀ item ∈ items, Admits definitions element item) :
      Admits definitions (.nullableArray element) (.array items)
  /-- An object has all members of its type. One that is optional may be left out, and may be null. -/
  | object {members : List Member} {entries : List (String × Json.Value)}
      (hpresent : ∀ name type, Member.mk name false type ∈ members → name ∈ entries.map (·.1))
      (hvalues : ∀ name optional type value, Member.mk name optional type ∈ members → (name, value) ∈ entries →
        ¬ (optional = true ∧ value = .null) → Admits definitions type value) :
      Admits definitions (.object members) (.object entries)
  | reference {definition : Definition} {value : Json.Value} (hdefined : definition ∈ definitions)
      (hvalue : Admits definitions (.object definition.members) value) :
      Admits definitions (.reference definition.name) value

namespace Admits

variable {definitions : List Definition} {element : TypeExpr} {items : List Json.Value} {members : List Member}
  {entries : List (String × Json.Value)} {definition : Definition} {value : Json.Value}

theorem array_iff : Admits definitions (.nullableArray element) (.array items) ↔
    ∀ item ∈ items, Admits definitions element item := by
  refine ⟨fun h => ?_, .array⟩
  cases h with
  | array hitems => exact hitems

theorem object_iff : Admits definitions (.object members) (.object entries) ↔
    (∀ name type, Member.mk name false type ∈ members → name ∈ entries.map (·.1)) ∧
    ∀ name optional type value, Member.mk name optional type ∈ members → (name, value) ∈ entries →
      ¬ (optional = true ∧ value = .null) → Admits definitions type value := by
  refine ⟨fun h => ?_, fun h => .object h.1 h.2⟩
  cases h with
  | object hpresent hvalues => exact ⟨hpresent, hvalues⟩

/-- A name stands for its definition, where it has one only. -/
theorem reference_iff (hunique : (definitions.map (·.name)).Nodup) (hdefined : definition ∈ definitions) :
    Admits definitions (.reference definition.name) value ↔ Admits definitions (.object definition.members) value := by
  refine ⟨fun h => ?_, .reference hdefined⟩
  generalize hname : TypeExpr.reference definition.name = t at h
  cases h with
  | reference hother hvalue =>
    rwa [List.inj_on_of_nodup_map hunique hdefined hother (TypeExpr.reference.inj hname)]
  | _ => cases hname

end Admits

end TypedRpc.TypeScript
