import ClientGen.Catalog.Framework
import ClientGen.Catalog.SimpleNames
import ClientGen.Collections.Reach

/-!
# Catalogs

A catalog finds declarations by name. It holds the declarations of the application in the order in
which their names were first inserted, and behind them the framework types. A declaration is found
by its full name; a name that is nobody's full name stands for the only declaration that has the
same last segment, if the index of last segments has only one.

The names of bases and interfaces lead from one declaration to others. Every walk along them keeps
what it has seen, so cyclic declarations end it.
-/

namespace ClientGen

/-- The declarations of an application, each once under its full name, and the index of their full
names and of those of the framework types. -/
structure Catalog where
  entries : List (String × Declaration)
  simpleNames : SimpleNames
  keyed : ∀ entry ∈ entries, entry.1 = entry.2.name
  distinct : (entries.map (·.1)).Nodup
  indexed : simpleNames.Indexes (frameworkTypes.map (·.name) ++ entries.map (·.1))

namespace Catalog

/-- The catalog without declarations; the framework types are indexed. -/
def empty : Catalog where
  entries := []
  simpleNames := .ofNames (frameworkTypes.map (·.name))
  keyed := List.forall_mem_nil _
  distinct := List.nodup_nil
  indexed := by simpa using SimpleNames.indexes_ofNames (frameworkTypes.map (·.name))

/-- Adds a declaration, or replaces the one of the same full name. -/
def insert (declaration : Declaration) (catalog : Catalog) : Catalog where
  entries := Ordered.insert declaration.name declaration catalog.entries
  simpleNames := catalog.simpleNames.add declaration.name
  keyed := by
    intro entry stored
    rcases Ordered.mem_insert stored with rfl | old
    · rfl
    · exact catalog.keyed entry old
  distinct := Ordered.nodup_keys_insert catalog.distinct
  indexed := by
    apply catalog.indexed.add
    intro name
    rw [List.mem_append, List.mem_append, Ordered.mem_keys_insert, or_left_comm]

/-- The declarations of the application, in order. -/
def declarations (catalog : Catalog) : List Declaration :=
  catalog.entries.map (·.2)

/-- The declaration with this full name; the application's come before the framework's. -/
def findExact? (catalog : Catalog) (name : String) : Option Declaration :=
  match Ordered.find? name catalog.entries with
  | some declaration => some declaration
  | none => frameworkTypes.find? (·.name == name)

/-- The declaration that a name stands for. -/
def find? (catalog : Catalog) (name : String) : Option Declaration :=
  match catalog.findExact? name with
  | some declaration => some declaration
  | none =>
    match catalog.simpleNames.candidates (QualifiedName.lastSegment name) with
    | [fullName] => catalog.findExact? fullName
    | _ => none

/-- The bases of a declaration that the catalog knows, each the base of the one before, until one
was seen already. -/
def basesOf (catalog : Catalog) : (bound : Nat) → (seen : List String) → Declaration →
    List Declaration
  | 0, _, _ => []
  | bound + 1, seen, declaration =>
    match declaration.base.bind catalog.find? with
    | none => []
    | some base =>
      if base.name ∈ seen then []
      else base :: catalog.basesOf bound (base.name :: seen) base

/-- How many declarations a walk can meet. -/
def size (catalog : Catalog) : Nat :=
  catalog.entries.length + frameworkTypes.length

/-- A declaration and the bases that the catalog knows, most derived first. -/
def hierarchy (catalog : Catalog) (declaration : Declaration) : List Declaration :=
  declaration :: catalog.basesOf (catalog.size + 1) [declaration.name] declaration

/-- The names of the bases as they are written, until one repeats or is not known. -/
def baseNamesFrom (catalog : Catalog) : (bound : Nat) → (seen : List String) → Option String →
    List String
  | 0, _, _ => []
  | _, _, none => []
  | bound + 1, seen, some base =>
    if base ∈ seen then []
    else base :: catalog.baseNamesFrom bound (base :: seen) ((catalog.find? base).bind (·.base))

/-- The last segments of the bases without arity, most derived first. A base that is not known
counts too, and is the last. -/
def baseNames (catalog : Catalog) (declaration : Declaration) : List String :=
  (catalog.baseNamesFrom (catalog.size + 2) [] declaration.base).map QualifiedName.shortName

/-- The names that the declaration behind a name gives as its interfaces and its base. -/
def parents (catalog : Catalog) (name : String) : List String :=
  match catalog.find? name with
  | none => []
  | some declaration =>
    declaration.interfaces.filterMap TypeExpr.name? ++ declaration.base.toList

/-- How many names some declaration gives as an interface or as its base. -/
def parentCount (catalog : Catalog) : Nat :=
  (catalog.declarations ++ frameworkTypes).foldl
    (fun count declaration => count + declaration.interfaces.length + 1) 0

/-- Whether the type of this name is one of the contracts, or implements or derives from one. -/
def implements (catalog : Catalog) (name : String) (contracts : List String) : Bool :=
  (reach catalog.parents (catalog.parentCount + 1) [] name).any fun parent =>
    contracts.contains (QualifiedName.lastSegment parent)

/-- The place of the generic parameter that a declaration passes on to one of the contracts, when
it declares the contract itself. -/
def contractPosition? (catalog : Catalog) (name : String) (contracts : List String) :
    Option Nat := do
  let declaration ← catalog.find? name
  declaration.interfaces.findSome? fun interface => do
    let contract ← interface.name?
    guard (contracts.contains (QualifiedName.lastSegment contract))
    match interface.args.head? with
    | some (.parameter parameter) => declaration.genericParameters.findIdx? (· == parameter)
    | _ => none

/-- The properties of a declaration and its bases, root base first, each with the declaration that
it comes from. A property that is declared again replaces the inherited one. -/
def allProperties (catalog : Catalog) (declaration : Declaration) :
    List (Declaration × Property) :=
  let declared := (catalog.hierarchy declaration).reverse.flatMap fun declaring =>
    declaring.properties.map fun property => (property.name, declaring, property)
  (Ordered.ofList declared).map (·.2)

/-- The methods of a declaration and its bases, root base first, each with the declaration that it
comes from. A method replaces the inherited one of the same name and parameter types. -/
def allMethods (catalog : Catalog) (declaration : Declaration) : List (Declaration × Method) :=
  let declared := (catalog.hierarchy declaration).reverse.flatMap fun declaring =>
    declaring.methods.map fun method =>
      ((method.name, method.parameters.map (·.type)), declaring, method)
  (Ordered.ofList declared).map (·.2)

/-- The catalog of declarations inserted one after the other. -/
def ofDeclarations (declarations : List Declaration) : Catalog :=
  declarations.foldl (fun catalog declaration => catalog.insert declaration) .empty

end Catalog

end ClientGen
