import ClientGen.Proofs.Catalog.Walks
import ClientGen.Proofs.Discovery.Survey

/-!
# Generic parameters of classes

A declaration writes the types of its properties with its own generic parameters. What the catalog
makes of a type has no others, and a class has the properties of its declaration and of all bases.
So every generic parameter in a property is one of the declaration that the property comes from. The
class has the parameters of its own declaration only: those of a base are unknown to it, unless they
happen to be called the same.
-/

namespace ClientGen

namespace TypeExpr

mutual

/-- The generic parameters in an expression. -/
def parameters : TypeExpr → List String
  | .named _ args => parametersOfAll args
  | .array element => element.parameters
  | .parameter name => [name]
  | .void => []

/-- The generic parameters in some expressions. -/
def parametersOfAll : List TypeExpr → List String
  | [] => []
  | type :: types => type.parameters ++ parametersOfAll types

end

end TypeExpr

/-- Whether a shape is no generic parameter, or one of some names. -/
def Shape.Bound {ρ : Type} (names : List String) (shape : Shape ρ) : Prop :=
  shape.kind = .genericParameter → ∃ name ∈ names, shape.parameterName = some name

variable {names : List String}

/-! ### Meanings -/

namespace Meaning

/-- Layers and marks do not matter. -/
theorem bound_mk_iff {layers : List Layer} {nullable optional : Bool} {core : Core} :
    (∀ part ∈ (Meaning.mk layers nullable optional core).shape.parts, part.Bound names) ↔
      ∀ part ∈ (coreShape core).parts, part.Bound names := by
  rw [shape, Shape.parts_eq, Shape.parts_eq, List.forall_mem_cons, List.forall_mem_cons]
  exact Iff.rfl

theorem bound_ofCore {core : Core} (bound : ∀ part ∈ (coreShape core).parts, part.Bound names) :
    ∀ part ∈ (ofCore core).shape.parts, part.Bound names :=
  bound_mk_iff.mpr bound

theorem bound_plain {kind : Shape.Kind} (isNone : kind ≠ .genericParameter) :
    ∀ part ∈ (coreShape (.plain kind)).parts, part.Bound names := by
  simp [coreShape, Shape.parts_eq, Shape.partsOption, Shape.Bound, isNone]

variable {meaning : Meaning} (bound : ∀ part ∈ meaning.shape.parts, part.Bound names)

include bound

theorem bound_within (layer : Layer) :
    ∀ part ∈ (meaning.within layer).shape.parts, part.Bound names := by
  cases meaning
  exact bound_mk_iff.mpr (bound_mk_iff.mp bound)

theorem bound_orNull (mark : Bool) :
    ∀ part ∈ (meaning.orNull mark).shape.parts, part.Bound names := by
  cases meaning
  exact bound_mk_iff.mpr (bound_mk_iff.mp bound)

theorem bound_orAbsent : ∀ part ∈ meaning.orAbsent.shape.parts, part.Bound names := by
  cases meaning
  exact bound_mk_iff.mpr (bound_mk_iff.mp bound)

end Meaning

namespace Catalog

variable (catalog : Catalog)

theorem kind_of_primitiveKind? {name : String} {kind : Shape.Kind}
    (found : primitiveKind? name = some kind) : kind ≠ .genericParameter := by
  rcases List.lookup_eq_some_iff.mp found with ⟨before, after, listed, -⟩
  have all : ∀ primitive ∈ primitiveKinds, primitive.2 ≠ .genericParameter := by decide
  rw [listed] at all
  exact all _ (List.mem_append_right before List.mem_cons_self)

theorem bound_coreOf (name : String) {arguments : List Meaning}
    (bound : ∀ part ∈ Shape.partsList (Meaning.shapes arguments), part.Bound names) :
    ∀ part ∈ (Meaning.coreShape (catalog.coreOf name arguments)).parts, part.Bound names := by
  unfold coreOf
  split
  · next kind found => exact Meaning.bound_plain (kind_of_primitiveKind? found)
  · split
    · split
      · simp [Meaning.coreShape, Shape.parts_eq, Shape.partsOption, Shape.Bound]
      · rw [Meaning.coreShape, Shape.parts_eq, List.forall_mem_cons, List.forall_mem_append]
        refine ⟨by simp [Shape.Bound], ?_, by simp [Shape.partsOption]⟩
        split
        · simp [Shape.partsOption]
        · exact bound
    · exact Meaning.bound_plain (by decide)

mutual

theorem bound_meaningAt (place : Place) :
    ∀ type : TypeExpr, type.parameters ⊆ names →
      ∀ part ∈ (catalog.meaningAt place type).shape.parts, part.Bound names
  | .array element, listed => by
    rw [meaningAt]
    exact Meaning.bound_within (bound_meaningAt .inside element listed) _
  | .parameter name, listed => by
    rw [meaningAt]
    apply Meaning.bound_ofCore
    have own : name ∈ names := listed List.mem_cons_self
    simp [Meaning.coreShape, Shape.parts_eq, Shape.partsOption, Shape.Bound, own]
  | .void, _ => by
    rw [meaningAt]
    exact Meaning.bound_ofCore (Meaning.bound_plain (by decide))
  | .named name args, listed => by
    rw [meaningAt]
    split
    · exact Meaning.bound_orNull (bound_meaningOfNth .outside 0 args listed) _
    · cases catalog.wrapping name args.length with
      | container layer position =>
        exact Meaning.bound_within (bound_meaningOfNth .inside position args listed) _
      | optional => exact Meaning.bound_orAbsent (bound_meaningOfNth _ 0 args listed)
      | nullable => exact Meaning.bound_orNull (bound_meaningOfNth _ 0 args listed) _
      | none => exact Meaning.bound_ofCore (bound_coreOf catalog name (bound_meanings args listed))

theorem bound_meaningOfNth (place : Place) :
    ∀ (position : Nat) (types : List TypeExpr), TypeExpr.parametersOfAll types ⊆ names →
      ∀ part ∈ (catalog.meaningOfNth place position types).shape.parts, part.Bound names
  | _, [], _ => by
    rw [meaningOfNth]
    exact Meaning.bound_ofCore (Meaning.bound_plain (by decide))
  | 0, type :: types, listed => by
    rw [meaningOfNth]
    exact bound_meaningAt place type (List.append_subset.mp listed).1
  | position + 1, type :: types, listed => by
    rw [meaningOfNth]
    exact bound_meaningOfNth place position types (List.append_subset.mp listed).2

theorem bound_meanings :
    ∀ types : List TypeExpr, TypeExpr.parametersOfAll types ⊆ names →
      ∀ part ∈ Shape.partsList (Meaning.shapes (catalog.meanings types)), part.Bound names
  | [], _ => by simp [meanings, Meaning.shapes, Shape.partsList]
  | type :: types, listed => by
    rw [meanings, Meaning.shapes, Shape.partsList, List.forall_mem_append]
    exact ⟨bound_meaningAt .top type (List.append_subset.mp listed).1,
      bound_meanings types (List.append_subset.mp listed).2⟩

end

theorem bound_memberShape {nullable : Bool} {type : TypeExpr} (listed : type.parameters ⊆ names) :
    ∀ part ∈ (catalog.memberShape nullable type).parts, part.Bound names :=
  Meaning.bound_orNull (catalog.bound_meaningAt .top type listed) nullable

end Catalog

/-! ### Properties -/

/-- Whether the declarations of the application write the types of their properties, and the types
that are hinted at, with their own generic parameters only. -/
def Server.Closed (server : Server) : Prop :=
  ∀ declaration ∈ server.catalog.declarations, ∀ property ∈ declaration.properties,
    ∀ type ∈ property.type :: server.convention.unionTypes property,
      type.parameters ⊆ declaration.genericParameters

theorem properties_of_mem_frameworkTypes {declaration : Declaration}
    (isFramework : declaration ∈ frameworkTypes) : declaration.properties = [] := by
  rcases List.mem_map.mp isFramework with ⟨entry, -, rfl⟩
  rfl

namespace Server

variable {server : Server} {declaration declaring : Declaration} {property : Property}

theorem bound_propertyShape (listed : ∀ type ∈ property.type :: server.convention.unionTypes property,
      type.parameters ⊆ names) :
    ∀ part ∈ (server.propertyShape property).parts, part.Bound names := by
  rw [List.forall_mem_cons] at listed
  intro part inside
  rcases mem_parts_propertyShape inside with isUnion | inside | ⟨hint, hinted, inside⟩
  · intro isParameter
    rw [isUnion] at isParameter
    cases isParameter
  · exact server.catalog.bound_memberShape listed.1 part inside
  · exact server.catalog.bound_memberShape (listed.2 hint hinted) part inside

/-- Framework types have no properties, so it does not matter where a declaration comes from. -/
theorem Closed.bound (closed : server.Closed)
    (known : declaring ∈ server.catalog.declarations ++ frameworkTypes)
    (own : property ∈ declaring.properties) :
    ∀ part ∈ (server.propertyShape property).parts, part.Bound declaring.genericParameters := by
  rcases List.mem_append.mp known with ofApplication | ofFramework
  · exact bound_propertyShape (closed declaring ofApplication property own)
  · rw [properties_of_mem_frameworkTypes ofFramework] at own
    cases own

end Server

/-- References have nothing to do with generic parameters. -/
theorem Shape.bound_of_named? {ρ σ : Type} {name? : ρ → Option σ} {shape : Shape ρ}
    {result : Shape σ} (named : shape.named? name? = some result) (bound : result.Bound names) :
    shape.Bound names := by
  intro isParameter
  rw [← kind_of_named? named] at isParameter
  rw [← parameterName_of_named? named]
  exact bound isParameter

/-! ### Classes -/

namespace Discovery

variable {server : Server} {allowed : List String → Prop} {discovery : Discovery}
  {entry : ClassEntry ClassId}

theorem genericParameters_outline {opened : List String} {version : Option String}
    {declaration : Declaration} (isObject : declaration.isEnum = false) :
    (server.outline opened version declaration).genericParameters.getD [] =
      declaration.genericParameters := by
  simp only [Server.outline, Server.newEntry, ClassEntry.withProperties, isObject]
  cases declaration.genericParameters <;> rfl

/-- A class with properties has the generic parameters of its declaration. -/
theorem genericParameters_of_describes {opened : List String} {name? : ClassId → Option String}
    (described : server.Describes opened name? entry) (isFilled : entry.properties ≠ []) :
    ∃ declaration, server.catalog.find? entry.sourceName = some declaration ∧
      entry.genericParameters.getD [] = declaration.genericParameters := by
  rcases described with ⟨declaration, version, known, outlined⟩
  have body := ClassEntry.body_of_named? outlined
  have parameters := ClassEntry.genericParameters_of_named? outlined
  refine ⟨declaration, ?_, ?_⟩
  · rw [← ClassEntry.sourceName_of_named? outlined, Server.sourceName_outline, known]
  · cases kind : declaration.isEnum with
    | false =>
      rw [← parameters]
      exact genericParameters_outline kind
    | true =>
      have isEnum : entry.body.named? name? =
          some (.enum (declaration.values.map (server.enumValue declaration))) := by
        rw [body, Server.body_outline, kind]
        rfl
      unfold ClassEntry.properties at isFilled
      cases whole : entry.body with
      | enum values => simp [whole] at isFilled
      | object properties =>
        rw [whole, ClassBody.named?, Option.map_eq_some_iff] at isEnum
        rcases isEnum with ⟨_, _, ⟨⟩⟩

/-- The properties of a class come from the hierarchy of its declaration, and the generic parameters
in them from where the property comes from. The class has those of its own declaration. -/
theorem Sound.exists_declaring (sound : Sound server allowed discovery) (closed : server.Closed)
    (present : entry ∈ discovery.types.classes) :
    ∃ declaration, server.catalog.find? entry.sourceName = some declaration ∧
      (entry.properties ≠ [] →
        entry.genericParameters.getD [] = declaration.genericParameters) ∧
      ∀ property ∈ entry.properties, ∃ declaring ∈ server.catalog.hierarchy declaration,
        (∃ declared ∈ declaring.properties, property.named? discovery.types.nameAt? =
          some (server.outlineProperty (declaring, declared))) ∧
        ∀ part ∈ property.shape.parts, part.Bound declaring.genericParameters := by
  rcases sound.exists_outlineProperty present with ⟨declaration, known, outlined⟩
  refine ⟨declaration, known, ?_, ?_⟩
  · intro isFilled
    rcases ClassTable.mem_classes_iff.mp present with ⟨place, found⟩
    rcases sound.described found with ⟨opened, -, described⟩
    rcases genericParameters_of_describes described isFilled with ⟨other, otherKnown, parameters⟩
    rw [known, Option.some.injEq] at otherKnown
    rw [parameters, otherKnown]
  · intro property among
    rcases outlined property among with ⟨declared, visible, named⟩
    rcases Catalog.mem_of_mem_allProperties (List.mem_filter.mp visible).1 with ⟨inherited, own⟩
    refine ⟨declared.1, inherited, ⟨declared.2, own, named⟩, ?_⟩
    have listed := closed.bound
      (Catalog.mem_of_mem_hierarchy (Catalog.mem_of_find? known) inherited) own
    exact Shape.forall_parts_of_named? (fun _ _ => Shape.bound_of_named?)
      (ClassProperty.shape_of_named? named) listed

end Discovery

end ClientGen
