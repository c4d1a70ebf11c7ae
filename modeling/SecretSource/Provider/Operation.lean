/-
**The operations of the provider that tell what is wrong.**

Both components of the provider, the provider itself and its data source, are asked to validate what the user
gave, and then to do their work: the provider to configure itself, the data source to read. Each of the four
operations is given diagnostics to add its errors to, and gives a result or none.

* `Operation.perform`: what comes of an operation.
* `Operation.schema`: what the component that performs it declares.
-/

import SecretSource.Provider.Run

namespace SecretSource.Provider

open SecretSource.Http (Delivery)

/-- An operation with all that it looks at. -/
inductive Operation where
  | validateConfig (config : Config)
  | configure (provider : Instance) (config : Config) (delivery : Delivery)
  | validateState (state : SecretState)
  | readState (slot : Slot) (state : SecretState) (delivery : Delivery)

/-- What comes of an operation: whether it gives a result, and the diagnostics with what it added. -/
structure Report where
  returned : Bool
  diagnostics : Diagnostics
deriving DecidableEq, Repr

namespace Operation

/-- Performs an operation. Validating gives its empty result whatever it finds. -/
def perform (operation : Operation) (diagnostics : Diagnostics) : Report :=
  match operation with
  | .validateConfig config =>
    { returned := true, diagnostics := Provider.validateConfig config diagnostics }
  | .configure provider config delivery =>
    let outcome := Provider.configure provider config delivery diagnostics
    { returned := outcome.returned, diagnostics := outcome.diagnostics }
  | .validateState state =>
    { returned := true, diagnostics := Provider.validateState state diagnostics }
  | .readState slot state delivery =>
    let outcome := Provider.readState slot state delivery diagnostics
    { returned := outcome.state.isSome, diagnostics := outcome.diagnostics }

/-- The schema of the component that performs an operation. -/
def schema : Operation → Schema
  | .validateConfig _ | .configure _ _ _ => providerSchema
  | .validateState _ | .readState _ _ _ => secretSchema

end Operation

end SecretSource.Provider
