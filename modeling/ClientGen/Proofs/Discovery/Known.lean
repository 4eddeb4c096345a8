import ClientGen.Discovery.Meaning
import ClientGen.Proofs.Catalog.Lookup

/-!
# Declarations in meanings

The declarations in the meaning of an expression come from the catalog, and each stands where its
kind belongs: enumerations as enumerations, all others as objects. What has no declaration has a
kind that needs none.
-/

namespace ClientGen

namespace Meaning

mutual

/-- Whether all declarations in a meaning come from the catalog. -/
def Known (catalog : Catalog) : Meaning → Prop
  | .mk _ _ _ core => CoreKnown catalog core

/-- Whether all declarations in a core come from the catalog. -/
def CoreKnown (catalog : Catalog) : Core → Prop
  | .plain kind => kind ≠ .object ∧ kind ≠ .enum
  | .parameter _ => True
  | .enum declaration =>
    catalog.find? declaration.name = some declaration ∧ declaration.isEnum = true
  | .object declaration arguments =>
    (catalog.find? declaration.name = some declaration ∧ declaration.isEnum = false) ∧
      AllKnown catalog arguments
  | .undescribed _ => True

/-- Whether all declarations in some meanings come from the catalog. -/
def AllKnown (catalog : Catalog) : List Meaning → Prop
  | [] => True
  | meaning :: meanings => meaning.Known catalog ∧ AllKnown catalog meanings

end

variable {catalog : Catalog} {meaning : Meaning}

theorem known_within (layer : Layer) (known : meaning.Known catalog) :
    (meaning.within layer).Known catalog := by
  cases meaning
  exact known

theorem known_orNull (mark : Bool) (known : meaning.Known catalog) :
    (meaning.orNull mark).Known catalog := by
  cases meaning
  exact known

theorem known_orAbsent (known : meaning.Known catalog) : meaning.orAbsent.Known catalog := by
  cases meaning
  exact known

end Meaning

namespace Catalog

variable (catalog : Catalog)

theorem ne_of_primitiveKind? {name : String} {kind : Shape.Kind}
    (found : primitiveKind? name = some kind) : kind ≠ .object ∧ kind ≠ .enum := by
  rcases List.lookup_eq_some_iff.mp found with ⟨before, after, listed, -⟩
  have all : ∀ primitive ∈ primitiveKinds, primitive.2 ≠ .object ∧ primitive.2 ≠ .enum := by decide
  rw [listed] at all
  exact all _ (List.mem_append_right before List.mem_cons_self)

theorem coreKnown_coreOf (name : String) {arguments : List Meaning}
    (known : Meaning.AllKnown catalog arguments) :
    Meaning.CoreKnown catalog (catalog.coreOf name arguments) := by
  unfold coreOf
  split
  · next kind found => exact ne_of_primitiveKind? found
  · split
    · next declaration found =>
      cases kind : declaration.isEnum with
      | true => exact ⟨find?_name found, kind⟩
      | false => exact ⟨⟨find?_name found, kind⟩, known⟩
    · trivial

mutual

theorem known_meaningAt (place : Place) :
    ∀ type : TypeExpr, (catalog.meaningAt place type).Known catalog
  | .array element => by
    rw [meaningAt]
    exact Meaning.known_within _ (known_meaningAt .inside element)
  | .parameter name => by
    rw [meaningAt]
    trivial
  | .void => by
    rw [meaningAt]
    exact ⟨by decide, by decide⟩
  | .named name args => by
    rw [meaningAt]
    split
    · exact Meaning.known_orNull _ (known_meaningOfNth .outside 0 args)
    · cases catalog.wrapping name args.length with
      | container layer position =>
        exact Meaning.known_within _ (known_meaningOfNth .inside position args)
      | optional => exact Meaning.known_orAbsent (known_meaningOfNth _ 0 args)
      | nullable => exact Meaning.known_orNull _ (known_meaningOfNth _ 0 args)
      | none => exact coreKnown_coreOf catalog name (allKnown_meanings args)

theorem known_meaningOfNth (place : Place) :
    ∀ (position : Nat) (types : List TypeExpr),
      (catalog.meaningOfNth place position types).Known catalog
  | _, [] => by
    rw [meaningOfNth]
    exact ⟨by decide, by decide⟩
  | 0, type :: _ => by
    rw [meaningOfNth]
    exact known_meaningAt place type
  | position + 1, _ :: types => by
    rw [meaningOfNth]
    exact known_meaningOfNth place position types

theorem allKnown_meanings :
    ∀ types : List TypeExpr, Meaning.AllKnown catalog (catalog.meanings types)
  | [] => by
    rw [meanings]
    trivial
  | type :: types => by
    rw [meanings]
    exact ⟨known_meaningAt .top type, allKnown_meanings types⟩

end

end Catalog

end ClientGen
