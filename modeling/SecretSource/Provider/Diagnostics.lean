/-
**Diagnostics: what the user is told.**

Errors and warnings are kept in the order in which they were added.

* `addAll_eq_self_iff`: nothing is changed exactly if nothing is added.
-/

import SecretSource.Provider.Failure

namespace SecretSource.Provider

/-- Errors and warnings. -/
structure Diagnostics where
  errors : List Diagnostic := []
  warnings : List Diagnostic := []
deriving DecidableEq, Repr

namespace Diagnostics

/-- Adds errors behind those that are there. -/
def addAll (diagnostics : Diagnostics) (errors : List Diagnostic) : Diagnostics :=
  { diagnostics with errors := diagnostics.errors ++ errors }

/-- Adds an error behind those that are there. -/
def add (diagnostics : Diagnostics) (error : Diagnostic) : Diagnostics := diagnostics.addAll [error]

/-- Nothing is changed exactly if nothing is added. -/
@[simp]
theorem addAll_eq_self_iff (diagnostics : Diagnostics) (errors : List Diagnostic) :
    diagnostics.addAll errors = diagnostics ↔ errors = [] := by
  cases diagnostics
  simp [addAll]

end Diagnostics

end SecretSource.Provider
