import ClientGen.Proofs.Discovery.Nodes
import ClientGen.Proofs.Discovery.Reading

/-!
# Which clashes are on record

A clash is on record if and only if it matters: every node of every shape in a survey refers to the
class of the declaration that its type names, or the clash of the two declarations is on record; and
every record is a clash of two declarations of which the first has the class. So without clashes
every node refers to the class that is built from the very declaration that its type names.
-/

namespace ClientGen

namespace Meaning

variable {points : Declaration → Shape ClassId → Prop}

/-- Where nothing is known about the values, there is no node to look at. -/
theorem fits_of_kind_any {meaning : Meaning} {shape : Shape ClassId}
    (unknown : meaning.shape.kind = .any) (needsNone : shape.needsClass = false) :
    meaning.Fits points shape := by
  rcases meaning with ⟨layers, nullable, optional, core⟩
  cases core with
  | plain kind => exact needsNone
  | parameter name => cases unknown
  | enum declaration => cases unknown
  | object declaration arguments => cases unknown
  | undescribed name => exact needsNone

end Meaning

namespace Server

variable {server : Server} {points : Declaration → Shape ClassId → Prop}
  {name? : ClassId → Option String}

/-- Whether the nodes of a property stand for what its type has at their places, and those of its
alternatives for what the types have that are hinted at. -/
def PropertyFits (server : Server) (points : Declaration → Shape ClassId → Prop)
    (declared : Declaration × Property) (property : ClassProperty ClassId) : Prop :=
  (server.catalog.meaning declared.2.type).Fits points property.shape ∧
    ∀ alternatives, property.shape.alternatives = some alternatives →
      Meaning.AllFit points (server.catalog.meanings (server.convention.unionTypes declared.2))
        alternatives

theorem propertyFits_of_named? {declared : Declaration × Property}
    {property : ClassProperty ClassId}
    (accepts : ∀ declaration, .described declaration ∈ server.propertyMentions declared.2 →
      Meaning.Accepts points name? declaration)
    (named : property.named? name? = some (server.outlineProperty declared)) :
    server.PropertyFits points declared property := by
  have shapeNamed : property.shape.named? name? = some (server.propertyShape declared.2) :=
    ClassProperty.shape_of_named? named
  have alternativesNamed := Shape.alternatives_of_named? shapeNamed
  simp only [propertyShape, Catalog.memberShape] at shapeNamed alternativesNamed
  -- Where nothing is known about the values, the types that are hinted at are the alternatives.
  by_cases isUnion : ((server.catalog.meaning declared.2.type).shape.kind == .any &&
      !(server.convention.unionTypes declared.2).isEmpty) = true
  · simp only [Meaning.kind_shape_orNull, isUnion, if_true] at shapeNamed alternativesNamed
    constructor
    · have unknown := (Bool.and_eq_true _ _ ▸ isUnion).1
      refine Meaning.fits_of_kind_any (beq_iff_eq.mp unknown) ?_
      simp [Shape.needsClass, ← Shape.kind_of_named? shapeNamed]
    · intro alternatives given
      rw [given] at alternativesNamed
      rcases Option.map_eq_some_iff.mp alternativesNamed with ⟨results, listNamed, same⟩
      cases same
      rw [← Discovery.shapes_meanings] at listNamed
      refine Meaning.allFit_of_named? _ (Catalog.allKnown_meanings server.catalog _) ?_ listNamed
      intro declaration among
      refine accepts declaration (List.mem_append_right _ ?_)
      rw [if_pos isUnion]
      exact among
  · simp only [Meaning.kind_shape_orNull, isUnion, Bool.false_eq_true, if_false]
      at shapeNamed alternativesNamed
    constructor
    · rw [← Meaning.fits_orNull declared.2.nullable]
      refine Meaning.fits_of_named? _
        (Meaning.known_orNull _ (server.catalog.known_meaningAt .top declared.2.type)) ?_ shapeNamed
      intro declaration among
      refine accepts declaration (List.mem_append_left _ ?_)
      rwa [Meaning.mentions_orNull] at among
    · intro alternatives given
      rw [given, Meaning.alternatives_shape] at alternativesNamed
      rcases Option.map_eq_some_iff.mp alternativesNamed with ⟨_, _, same⟩
      cases same

/-- Whether a class is the one that a server has for a declaration. The lock and the version depend
on who asked for the class. -/
def BuiltFrom (server : Server) (types : ClassTable ClassId) (declaration : Declaration)
    (entry : ClassEntry ClassId) : Prop :=
  ∃ version, entry.named? types.nameAt? =
    some { server.outline [] version declaration with isReadOnly := entry.isReadOnly }

/-- A class is built from the declaration that it names as its source. -/
theorem Describes.builtFrom {types : ClassTable ClassId} {declaration : Declaration}
    {entry : ClassEntry ClassId} (described : server.Describes [] types.nameAt? entry)
    (known : server.catalog.find? declaration.name = some declaration)
    (source : entry.sourceName = declaration.name) : server.BuiltFrom types declaration entry := by
  rcases described with ⟨other, version, otherKnown, outlined⟩
  have otherSource := ClassEntry.sourceName_of_named? outlined
  rw [sourceName_outline, source] at otherSource
  rw [otherSource, known] at otherKnown
  cases otherKnown
  exact ⟨version, outlined⟩

namespace BuiltFrom

variable {types : ClassTable ClassId} {declaration : Declaration} {entry : ClassEntry ClassId}

theorem sourceName (built : server.BuiltFrom types declaration entry) :
    entry.sourceName = declaration.name := by
  rcases built with ⟨version, outlined⟩
  rw [← ClassEntry.sourceName_of_named? outlined, sourceName_outline]

theorem named?_body (built : server.BuiltFrom types declaration entry) :
    entry.body.named? types.nameAt? = some
      (if declaration.isEnum then .enum (declaration.values.map (server.enumValue declaration))
      else .object ((server.visibleProperties declaration).map server.outlineProperty)) := by
  rcases built with ⟨version, outlined⟩
  rw [ClassEntry.body_of_named? outlined, body_outline, if_neg (List.not_mem_nil)]

theorem isEnum (built : server.BuiltFrom types declaration entry) :
    entry.isEnum = declaration.isEnum := by
  have body := built.named?_body
  unfold ClassEntry.isEnum
  cases whole : entry.body with
  | enum values =>
    rw [whole] at body
    cases isEnum : declaration.isEnum with
    | true => rfl
    | false => simp [isEnum, ClassBody.named?] at body
  | object properties =>
    rw [whole] at body
    cases isEnum : declaration.isEnum with
    | true => simp [isEnum, ClassBody.named?] at body
    | false => rfl

/-- The properties of a class are named as outlined, one for one. -/
theorem forall₂_outlineProperty (built : server.BuiltFrom types declaration entry) :
    List.Forall₂ (fun declared property =>
        property.named? types.nameAt? = some (server.outlineProperty declared))
      (server.classProperties declaration) entry.properties := by
  have body := built.named?_body
  have sameKind := built.isEnum
  unfold ClassEntry.isEnum at sameKind
  unfold ClassEntry.properties classProperties
  cases whole : entry.body with
  | enum values =>
    rw [whole] at sameKind
    rw [← sameKind]
    exact .nil
  | object properties =>
    rw [whole] at sameKind body
    rw [← sameKind] at body ⊢
    rcases Option.map_eq_some_iff.mp body with ⟨results, named, same⟩
    cases same
    have parallel := (mapM_eq_some_iff_forall₂.mp named).flip
    exact List.forall₂_map_left_iff.mp parallel

end BuiltFrom

end Server

namespace Survey

open Discovery

variable {server : Server} {declarations : List Declaration}
  {points : Declaration → Shape ClassId → Prop}

/-- Whether all nodes in a survey stand for what the types have at their places from which they
come: the types of the parameters and the payloads, and those of the properties of every class. -/
structure Fits (server : Server) (declarations : List Declaration)
    (points : Declaration → Shape ClassId → Prop) (survey : Survey) : Prop where
  members : List.Forall₂
    (fun member shape => (server.catalog.meaning member.type).Fits points shape)
    (declarations.flatMap server.controllerMembers) survey.shapes
  properties : ∀ entry ∈ survey.discovery.types.classes, ∃ declaration,
    server.catalog.find? entry.sourceName = some declaration ∧
      List.Forall₂ (server.PropertyFits points) (server.classProperties declaration)
        entry.properties

/-- Every class is built from a declaration that the controllers concern. -/
theorem exists_builtFrom {place : ClassId} {entry : ClassEntry ClassId}
    (found : (ofControllers server declarations).discovery.types.at? place = some entry) :
    ∃ declaration, server.Concerns (declarations.flatMap server.controllerMembers) declaration ∧
      entry.name = QualifiedName.className declaration.name ∧
        server.BuiltFrom (ofControllers server declarations).discovery.types declaration entry := by
  rcases (tidy_ofControllers server declarations).sourced found with
    ⟨declaration, concerned, ownName, source⟩
  rcases (sound_discovery_ofControllers server declarations).described found with
    ⟨opened, rfl, described⟩
  exact ⟨declaration, concerned, ownName, described.builtFrom concerned.known source⟩

/-- All nodes fit if those are accepted that stand for declarations which are settled. -/
theorem fits_ofControllers (server : Server) (declarations : List Declaration)
    (accepts : ∀ declaration, server.catalog.find? declaration.name = some declaration →
      (ofControllers server declarations).discovery.Settled declaration →
        Meaning.Accepts points (ofControllers server declarations).discovery.types.nameAt?
          declaration) :
    (ofControllers server declarations).Fits server declarations points := by
  have reads := reads_ofControllers server declarations
  have sound := reads.sound .empty
  constructor
  · have both := (List.forall₂_and_left _ _).mpr
      ⟨reads.settles .empty, reads.named .empty⟩
    refine both.imp ?_
    rintro member shape ⟨settled, named⟩
    rw [← Meaning.fits_orNull member.nullable]
    have known := server.catalog.known_meaningAt .top member.type
    refine Meaning.fits_of_named? _ (Meaning.known_orNull _ known) ?_ named
    intro declaration mentioned
    rw [Meaning.mentions_orNull] at mentioned
    exact accepts declaration (Meaning.known_of_mem_mentions _ known mentioned)
      (settled declaration mentioned)
  · intro entry present
    rcases ClassTable.mem_classes_iff.mp present with ⟨place, found⟩
    rcases exists_builtFrom found with ⟨declaration, concerned, -, built⟩
    have known := concerned.known
    rw [← built.sourceName] at known
    refine ⟨declaration, known, ?_⟩
    have outlined := built.forall₂_outlineProperty
    rcases (tidy_ofControllers server declarations).answered found with none | settled
    · rw [none] at outlined ⊢
      rw [List.forall₂_nil_right_iff.mp outlined]
      exact .nil
    · have both := (List.forall₂_and_left _ _).mpr ⟨fun _ among => among, outlined⟩
      refine both.imp ?_
      rintro declared property ⟨among, named⟩
      refine Server.propertyFits_of_named? ?_ named
      intro other mentioned
      refine accepts other (Server.known_of_mem_propertyMentions mentioned)
        (settled declaration known other ?_)
      exact List.mem_flatMap.mpr ⟨declared, among, mentioned⟩

theorem exists_class_of_settled {discovery : Discovery} (lawful : discovery.types.Lawful)
    {declaration : Declaration} (settled : discovery.Settled declaration) {id : ClassId}
    (named : discovery.types.nameAt? id = some (QualifiedName.className declaration.name)) :
    ∃ entry, discovery.types.at? id = some entry ∧
      (entry.sourceName ≠ declaration.name →
        ⟨entry.name, entry.sourceName, declaration.name⟩ ∈ discovery.clashes) := by
  rcases settled with ⟨source, has, recorded⟩
  rcases Option.map_eq_some_iff.mp named with ⟨entry, found, ownName⟩
  have sameSource : source = entry.sourceName :=
    lawful.hasSource_unique has ⟨id, entry, found, ownName, rfl⟩
  refine ⟨entry, found, ?_⟩
  intro different
  rw [← sameSource] at different ⊢
  rw [ownName]
  exact recorded different

/-- Which clashes a survey records. None is recorded twice, and each is between two declarations of
which the first has the class. Wherever a type names a declaration and the class of the node does not
come from it, their clash is recorded. So if there are none, every node refers to the class that is
built from the declaration itself, which is an enumeration if and only if the node is one. -/
theorem clashes_exact (server : Server) (declarations : List Declaration) :
    let survey := ofControllers server declarations
    let types := survey.model.types
    let clashes := survey.model.nameClashes
    clashes.Nodup ∧
      (∀ clash ∈ clashes, clash.first ≠ clash.second ∧
        ∃ entry, types.find? clash.name = some entry ∧ entry.sourceName = clash.first) ∧
      survey.Fits server declarations (fun declaration node => ∃ id entry,
        node.reference = some id ∧ types.at? id = some entry ∧
          (entry.sourceName ≠ declaration.name →
            ⟨entry.name, entry.sourceName, declaration.name⟩ ∈ clashes)) ∧
      (clashes = [] → survey.Fits server declarations fun declaration node => ∃ id entry,
        node.reference = some id ∧ types.at? id = some entry ∧
          entry.sourceName = declaration.name ∧ server.BuiltFrom types declaration entry ∧
            (node.kind = .object → entry.isEnum = false) ∧
              (node.kind = .enum → entry.isEnum = true)) := by
  intro survey types clashes
  have tidy := tidy_ofControllers server declarations
  have sound := sound_discovery_ofControllers server declarations
  refine ⟨tidy.distinct, ?_, ?_, ?_⟩
  · intro clash recorded
    have genuine := tidy.genuine clash recorded
    rcases genuine.source with ⟨place, entry, found, ownName, source⟩
    refine ⟨genuine.different, entry, ?_, source⟩
    rw [← ownName]
    exact tidy.lawful.find?_of_at? found
  · refine fits_ofControllers server declarations ?_
    intro declaration _ settled node id refers named _
    rcases exists_class_of_settled tidy.lawful settled named with ⟨entry, found, recorded⟩
    exact ⟨id, entry, refers, found, recorded⟩
  · intro noClashes
    refine fits_ofControllers server declarations ?_
    intro declaration known settled node id refers named kind
    rcases exists_class_of_settled tidy.lawful settled named with ⟨entry, found, recorded⟩
    have source : entry.sourceName = declaration.name := by
      by_contra different
      have listed : _ ∈ clashes := recorded different
      rw [noClashes] at listed
      cases listed
    rcases sound.described found with ⟨opened, rfl, described⟩
    have built := described.builtFrom known source
    refine ⟨id, entry, refers, found, source, built, ?_, ?_⟩
    · intro isObject
      rw [built.isEnum]
      cases isEnum : declaration.isEnum with
      | false => rfl
      | true =>
        rw [isObject, isEnum] at kind
        cases kind
    · intro isEnumNode
      rw [built.isEnum]
      cases isEnum : declaration.isEnum with
      | true => rfl
      | false =>
        rw [isEnumNode, isEnum] at kind
        cases kind

end Survey

end ClientGen
