import TypedRpc.Handler.Basic
import TypedRpc.Registry
import TypedRpc.Wire.Decode

/-!
Handlers whose input and output have declared shapes. Such a handler reads the input from a value of its input
shape, writes the output as a value of its output shape, and is described by the two shapes.
-/

namespace TypedRpc

/-- The signature of a handler of two shapes. -/
def Signature.ofShapes (declared : Wire.Declarations) (input output : Wire.Shape) : Signature :=
  ⟨input.describe declared, output.describe declared⟩

/-- The handler that runs a function on values of an input shape, given how to read and write them. -/
def Handler.shaped {α β : Type} (declared : Wire.Declarations) (input : Wire.Shape) (read : Wire.Value → α)
    (write : β → Wire.Value) (run : Context → α → Outcome β) : Handler α β where
  decode body := (Wire.decodeBody declared input body).map read
  run
  encode output := .ok (write output).encode

end TypedRpc
