import ClientGen.Proofs.Discovery.Reading
import ClientGen.Proofs.Model.Parts

/-!
# What surveys hold

Reading controllers comes down to a run of calls by nobody who is reading properties. So what holds
after every run holds of the classes that were found with the controllers; and the shapes of
parameters and payloads are shapes of the catalog, whose names are kept while further controllers
are read. As such shapes have a class wherever they need one, the model that is made of them all is
valid.
-/

namespace ClientGen

/-! ### Classes of outlined shapes -/

namespace Meaning

variable {catalog : Catalog}

mutual

theorem hasClass_shape :
    ∀ meaning : Meaning, meaning.Known catalog → ∀ part ∈ meaning.shape.parts, part.HasClass
  | .mk layers nullable optional core, known => by
    have inner := hasClass_coreShape core known
    rw [Shape.parts_eq, List.forall_mem_cons] at inner ⊢
    exact inner

theorem hasClass_coreShape :
    ∀ core : Core, CoreKnown catalog core → ∀ part ∈ (coreShape core).parts, part.HasClass
  | .plain kind, known => by
    simp [coreShape, Shape.parts_eq, Shape.partsOption, Shape.HasClass, Shape.needsClass, known.1,
      known.2]
  | .parameter name, _ => by
    simp [coreShape, Shape.parts_eq, Shape.partsOption, Shape.HasClass, Shape.needsClass]
  | .enum declaration, _ => by
    simp [coreShape, Shape.parts_eq, Shape.partsOption, Shape.HasClass]
  | .object declaration arguments, known => by
    have inner := hasClass_shapes arguments known.2
    rw [coreShape, Shape.parts_eq, List.forall_mem_cons, List.forall_mem_append]
    refine ⟨fun _ => rfl, ?_, by simp [Shape.partsOption]⟩
    split
    · simp [Shape.partsOption]
    · exact inner
  | .undescribed name, _ => by
    simp [coreShape, Shape.parts_eq, Shape.partsOption, Shape.HasClass, Shape.needsClass]

theorem hasClass_shapes :
    ∀ meanings : List Meaning, AllKnown catalog meanings →
      ∀ part ∈ Shape.partsList (shapes meanings), part.HasClass
  | [], _ => by simp [shapes, Shape.partsList]
  | meaning :: meanings, known => by
    rw [shapes, Shape.partsList, List.forall_mem_append]
    exact ⟨hasClass_shape meaning known.1, hasClass_shapes meanings known.2⟩

end

end Meaning

theorem Catalog.hasClass_memberShape (catalog : Catalog) (nullable : Bool) (type : TypeExpr) :
    ∀ part ∈ (catalog.memberShape nullable type).parts, part.HasClass :=
  Meaning.hasClass_shape _ (Meaning.known_orNull nullable (catalog.known_meaningAt .top type))

/-- The shape of a property is a union of alternatives, or is made of what the catalog makes of its
type; the alternatives are what it makes of the types that are hinted at. -/
theorem Server.mem_parts_propertyShape {server : Server} {property : Property}
    {part : Shape String} (inside : part ∈ (server.propertyShape property).parts) :
    part.kind = .union ∨
      part ∈ (server.catalog.memberShape property.nullable property.type).parts ∨
      ∃ hint ∈ server.convention.unionTypes property,
        part ∈ (server.catalog.memberShape false hint).parts := by
  simp only [propertyShape] at inside
  split at inside
  · rw [Shape.parts_eq, List.mem_cons, List.mem_append] at inside
    rcases inside with rfl | inArguments | inAlternatives
    · exact .inl rfl
    · refine .inr (.inl ?_)
      rw [Shape.parts_eq]
      exact List.mem_cons_of_mem _ (List.mem_append_left _ inArguments)
    · rw [Shape.partsOption, Shape.partsList_eq_flatMap] at inAlternatives
      rcases List.mem_flatMap.mp inAlternatives with ⟨shape, among, inside⟩
      rcases List.mem_map.mp among with ⟨hint, hinted, rfl⟩
      exact .inr (.inr ⟨hint, hinted, inside⟩)
  · exact .inr (.inl inside)

theorem Server.hasClass_propertyShape (server : Server) (property : Property) :
    ∀ part ∈ (server.propertyShape property).parts, part.HasClass := by
  intro part inside
  rcases mem_parts_propertyShape inside with isUnion | inside | ⟨hint, -, inside⟩
  · intro needs
    simp [Shape.needsClass, isUnion] at needs
  · exact server.catalog.hasClass_memberShape _ _ part inside
  · exact server.catalog.hasClass_memberShape _ _ part inside

/-- Whether a shape is one that the catalog gives to members. -/
def Discovery.Holds (server : Server) (discovery : Discovery) (shape : Shape ClassId) : Prop :=
  ∃ nullable type, shape.named? discovery.types.nameAt? =
    some (server.catalog.memberShape nullable type)

namespace Survey

open Discovery

variable {server : Server}

/-- Whether the shapes of all actions are shapes that the catalog gives to members, and all classes
are as outlined. -/
structure Sound (server : Server) (survey : Survey) : Prop where
  discovery : Discovery.Sound server (· = []) survey.discovery
  holds : ∀ shape ∈ survey.controllers.flatMap (·.actions.flatMap Action.shapes),
    Holds server survey.discovery shape

theorem sound_ofControllers (server : Server) (declarations : List Declaration) :
    Sound server (ofControllers server declarations) := by
  have reads := reads_ofControllers server declarations
  refine ⟨reads.sound .empty, ?_⟩
  intro shape among
  rcases exists_of_mem_right (reads.named .empty) among with ⟨member, -, named⟩
  exact ⟨member.nullable, member.type, named⟩

theorem Sound.refers {survey : Survey} (sound : Sound server survey) :
    ∀ shape ∈ survey.model.shapes, ∀ part ∈ shape.parts, part.Refers survey.model.types.size := by
  rw [ServiceModel.shapes, List.forall_mem_append]
  refine ⟨?_, ?_⟩
  · intro shape among
    rcases sound.holds shape among with ⟨nullable, type, named⟩
    exact Shape.refers_of_named? shape named (server.catalog.hasClass_memberShape nullable type)
  · intro shape among
    rcases List.mem_flatMap.mp among with ⟨entry, present, amongProperties⟩
    rcases List.mem_map.mp amongProperties with ⟨property, held, rfl⟩
    rcases sound.discovery.exists_outlineProperty present with ⟨declaration, -, outlined⟩
    rcases outlined property held with ⟨declared, -, named⟩
    exact Shape.refers_of_named? _ (ClassProperty.shape_of_named? named)
      (server.hasClass_propertyShape declared.2)

theorem Sound.validate {survey : Survey} (sound : Sound server survey) :
    survey.model.validate = .ok () := by
  rw [ServiceModel.validate, Shape.validateList_eq_ok_iff, Shape.partsList_eq_flatMap]
  intro part among
  rcases List.mem_flatMap.mp among with ⟨shape, inModel, inShape⟩
  exact sound.refers shape inModel part inShape

/-- Every model that comes from reading controllers is valid, whichever declarations are read and in
whatever order: wherever one of its shapes has a part that needs a class, that part refers to a
class of the table. And on the way no class was looked for at a place that the table did not
have. -/
theorem valid_ofControllers (server : Server) (declarations : List Declaration) :
    let survey := ofControllers server declarations
    survey.model.validate = .ok () ∧
      (∀ shape ∈ survey.model.shapes, ∀ part ∈ shape.parts, part.needsClass = true →
        ∃ id, part.reference = some id ∧ id < survey.model.types.size) ∧
      survey.discovery.strayed = false := by
  have sound := sound_ofControllers server declarations
  have refers := sound.refers
  refine ⟨?_, ?_, sound.discovery.strayed⟩
  · rw [ServiceModel.validate, Shape.validateList_eq_ok_iff, Shape.partsList_eq_flatMap]
    intro part among
    rcases List.mem_flatMap.mp among with ⟨shape, inModel, inShape⟩
    exact refers shape inModel part inShape
  · intro shape inModel part inShape needs
    rcases Option.isSome_iff_exists.mp ((refers shape inModel part inShape).present needs) with
      ⟨id, reference⟩
    exact ⟨id, reference, (refers shape inModel part inShape).within id reference⟩

end Survey

end ClientGen
