/-!
# Choices about the client

What can be chosen about the client that is written: how it is divided into modules, how the
parameters of an action are passed, which modules it builds on, and whether classes that clients
send get an observable wrapper.
-/

namespace ClientGen.TypeScript

/-- How the client is divided into modules. -/
inductive Bundling where
  /-- A module for each controller, and others for the classes and the services. -/
  | split
  /-- One module for everything. -/
  | single
  deriving DecidableEq, Repr

/-- How the parameters of an action are passed. -/
inductive Passing where
  /-- As the properties of one object. -/
  | object
  /-- One by one, those that are required first. -/
  | positional
  deriving DecidableEq, Repr

/-- The choices about a client. -/
structure Options where
  bundling : Bundling := .split
  passing : Passing := .object
  /-- The module with the functions that every client needs. -/
  helpersModule : String := "folke-service-helpers"
  /-- The module with the validators of observables. -/
  validationModule : String := "folke-ko-validation"
  /-- Whether classes that clients send get an observable wrapper. -/
  observable : Bool := false

end ClientGen.TypeScript
