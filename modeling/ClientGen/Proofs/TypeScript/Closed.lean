import ClientGen.Proofs.Discovery.Parameters
import ClientGen.Proofs.Discovery.Termination
import ClientGen.Proofs.TypeScript.Classes

/-!
# Closed definitions

A definition of the client that is generic starts with a list of its parameters, and every word in
its types that not all clients know has to be one of them. The words are the generic parameters in
the properties of the class, so this comes down to where the properties are declared. A class that
inherits properties from a generic base does not have the parameters of the base, as it is not said
anywhere what they stand for; its definition is left open.
-/

namespace ClientGen.TypeScript

open Code Scope

/-- Whether something in a type, if it is a word, is one that all clients know or one of some names. -/
def ClientType.Knows (names : List String) (leaf : ClientType) : Prop :=
  ∀ name, leaf = .word name → name ∈ plainWords ∨ name ∈ names

variable {scope : Scope} {shape : Shape ClassId} {entry : ClassEntry ClassId} {names : List String}

theorem Scope.classType_ne_word (live : Bool) (name : String) :
    scope.classType live shape ≠ .word name := by
  intro same
  rw [classType_eq] at same
  split at same
  · split at same <;> cases same
  · cases same

theorem Scope.grants_knows (bound : ∀ part ∈ shape.parts, part.Bound names) :
    scope.Grants (ClientType.Knows names) shape where
  words := by
    rintro name plain _ ⟨⟩
    exact .inl plain
  parts part inside :=
    { parameter := by
        rintro isParameter name isNamed _ ⟨⟩
        rcases bound part inside isParameter with ⟨own, listed, same⟩
        cases same.symm.trans isNamed
        exact .inr listed
      ownClass := by
        intro _ live name isWord
        exact absurd isWord (classType_ne_word live name) }

/-- Classes whose generic parameters are all among some names have definitions and wrappers in which
no other words occur. -/
theorem closed_of_bound
    (bound : ∀ property ∈ entry.properties, ∀ part ∈ property.shape.parts, part.Bound names) :
    AllMadeOf (ClientType.Knows names) (scope.definition entry) ∧
      AllMadeOf (ClientType.Knows names) (scope.wrapperClass entry) := by
  have grants : ∀ property ∈ entry.properties,
      scope.Grants (ClientType.Knows names) property.shape := by
    intro property among
    exact grants_knows (bound property among)
  refine ⟨allMadeOf_definition grants, allMadeOf_wrapperClass ?_ grants⟩
  rintro name ⟨⟩

/-! ### Results -/

open Discovery

/-- The generic parameters in a class, whatever is asked of a discovery for a server whose
declarations use their own generic parameters only. Each one in a property is a parameter of the
declaration that the property comes from. So if the declarations from which a class has its
properties have no parameters that its own declaration does not have, all of them are listed in the
class, and no other words occur in its definition and in its wrapper. -/
theorem parameters_in_scope (server : Server) (closed : server.Closed) (calls : List Call) :
    ∀ entry ∈ (after server calls).types.classes, ∃ declaration,
      server.catalog.find? entry.sourceName = some declaration ∧
      (∀ property ∈ entry.properties, ∃ declaring ∈ server.catalog.hierarchy declaration,
        (∃ declared ∈ declaring.properties, property.named? (after server calls).types.nameAt? =
          some (server.outlineProperty (declaring, declared))) ∧
        ∀ part ∈ property.shape.parts, part.Bound declaring.genericParameters) ∧
      ((∀ declaring ∈ server.catalog.hierarchy declaration, declaring.properties ≠ [] →
          declaring.genericParameters ⊆ declaration.genericParameters) →
        let names := entry.genericParameters.getD []
        (∀ property ∈ entry.properties, ∀ part ∈ property.shape.parts, part.Bound names) ∧
          ∀ scope : Scope, AllMadeOf (ClientType.Knows names) (scope.definition entry) ∧
            AllMadeOf (ClientType.Knows names) (scope.wrapperClass entry)) := by
  intro entry present
  have sound : Sound server (fun _ => True) (after server calls) := by
    apply sound_after
    intro call _
    trivial
  rcases sound.exists_declaring closed present with ⟨declaration, known, own, declared⟩
  refine ⟨declaration, known, declared, ?_⟩
  intro contained names
  -- A parameter of the declaration of a property is one of the class's own declaration.
  have bound : ∀ property ∈ entry.properties, ∀ part ∈ property.shape.parts,
      part.Bound names := by
    intro property among part inside isParameter
    rcases declared property among with ⟨declaring, inherited, ⟨given, isGiven, -⟩, listed⟩
    rcases listed part inside isParameter with ⟨name, isListed, isNamed⟩
    have parameters : names = declaration.genericParameters := own (List.ne_nil_of_mem among)
    refine ⟨name, ?_, isNamed⟩
    rw [parameters]
    exact contained declaring inherited (List.ne_nil_of_mem isGiven) isListed
  refine ⟨bound, ?_⟩
  intro scope
  exact closed_of_bound bound

/-- Pages of items of any type. -/
def pageDeclaration : Declaration where
  name := "Page\x601"
  genericParameters := ["T"]
  properties := [{ name := "Items", type := .array (.parameter "T") }]

/-- A class that inherits its properties from pages. -/
def orderPageDeclaration : Declaration where
  name := "Orders"
  base := some "Page\x601"

/-- A server with a class that inherits from a generic one. -/
def inheritingServer : Server where
  catalog := Catalog.empty |>.insert pageDeclaration |>.insert orderPageDeclaration
  convention := .mvc

/-- A page of pages of orders is asked for. -/
def inheritingCalls : List Call :=
  [.resolve [] none false (.named "Page\x601" [.named "Orders" []])]

theorem closed_inheritingServer : inheritingServer.Closed := by
  unfold Server.Closed
  decide +kernel

/-- One evaluation tells what is discovered. -/
theorem inheriting_discovered :
    let table := (after inheritingServer inheritingCalls).types
    (∃ entry ∈ table.classes, entry.sourceName = "Page\x601" ∧
      entry.genericParameters = some ["T"] ∧ entry.properties.isEmpty = false) ∧
    ∃ entry ∈ table.classes, entry.genericParameters = none ∧
      (∃ property ∈ entry.properties, ∃ part ∈ property.shape.parts,
        part.kind = .genericParameter ∧ part.parameterName = some "T") ∧
      Code.spellLines (Scope.definition ⟨table, false, .here, .here, ""⟩ entry) =
        "\nexport interface Orders \x7b\n    items: T[];\n\x7d\n" := by
  rw [inheritingCalls, after_resolve]
  decide +kernel

theorem parameters_in_scope_of_page :
    inheritingServer.Closed ∧
      ∃ entry ∈ (after inheritingServer inheritingCalls).types.classes,
        entry.properties.isEmpty = false ∧ entry.genericParameters = some ["T"] ∧
        ∀ scope : Scope, AllMadeOf (ClientType.Knows ["T"]) (scope.definition entry) := by
  rcases inheriting_discovered.1 with ⟨entry, present, source, parameters, isFilled⟩
  refine ⟨closed_inheritingServer, entry, present, isFilled, parameters, ?_⟩
  rcases parameters_in_scope inheritingServer closed_inheritingServer inheritingCalls entry
    present with ⟨declaration, known, -, closedIf⟩
  rw [source] at known
  have isPage : inheritingServer.catalog.find? "Page\x601" = some pageDeclaration := by rfl
  have alone : inheritingServer.catalog.hierarchy pageDeclaration = [pageDeclaration] := by rfl
  cases isPage.symm.trans known
  rw [alone, parameters] at closedIf
  intro scope
  refine ((closedIf ?_).2 scope).1
  simp

/-- The class that inherits from a page of any items mentions the parameter of the page, and does
not declare it. -/
theorem parameter_unbound :
    inheritingServer.Closed ∧
      ∃ entry ∈ (after inheritingServer inheritingCalls).types.classes,
        (∃ property ∈ entry.properties, ∃ part ∈ property.shape.parts,
          part.kind = .genericParameter ∧
            ∀ name ∈ entry.genericParameters.getD [], part.parameterName ≠ some name) ∧
        Code.spellLines (Scope.definition ⟨(after inheritingServer inheritingCalls).types, false,
          .here, .here, ""⟩ entry) =
          "\nexport interface Orders \x7b\n    items: T[];\n\x7d\n" := by
  rcases inheriting_discovered.2 with
    ⟨entry, present, parameters, ⟨property, among, part, inside, isParameter, -⟩, spelled⟩
  refine ⟨closed_inheritingServer, entry, present, ⟨property, among, part, inside, isParameter, ?_⟩,
    spelled⟩
  simp [parameters]

end ClientGen.TypeScript
