import ClientGen.Proofs.Discovery.Mentions
import ClientGen.Proofs.Model.Places

/-!
# What the nodes of a shape stand for

A meaning and the shape that it gets have the same form: where the meaning has a declaration, the
shape has a node that refers to a class, and its arguments stand in parallel. So something can be
said about all nodes at once, each together with the declaration that it stands for. It holds if it
holds of every node that has the kind and the name which the declaration gives it.
-/

namespace ClientGen

namespace Meaning

mutual

/-- Whether the nodes of a shape stand for what a meaning has at their places, where `points` has to
accept a declaration together with its node. -/
def Fits (points : Declaration → Shape ClassId → Prop) : Meaning → Shape ClassId → Prop
  | .mk _ _ _ core, shape => CoreFits points core shape

/-- Whether the nodes of a shape stand for what a core has at their places. -/
def CoreFits (points : Declaration → Shape ClassId → Prop) : Core → Shape ClassId → Prop
  | .plain _, shape => shape.needsClass = false
  | .parameter _, shape => shape.needsClass = false
  | .enum declaration, shape => shape.kind = .enum ∧ points declaration shape
  | .object declaration arguments, shape =>
    shape.kind = .object ∧ points declaration shape ∧
      AllFit points arguments (shape.arguments.getD [])
  | .undescribed _, shape => shape.needsClass = false

/-- Whether some shapes fit some meanings, one for one. -/
def AllFit (points : Declaration → Shape ClassId → Prop) :
    List Meaning → List (Shape ClassId) → Prop
  | [], shapes => shapes = []
  | meaning :: meanings, shapes =>
    ∃ first others, shapes = first :: others ∧ meaning.Fits points first ∧
      AllFit points meanings others

end

/-- Whether every node is accepted that has the kind and the name which a declaration gives it. -/
def Accepts (points : Declaration → Shape ClassId → Prop) (name? : ClassId → Option String)
    (declaration : Declaration) : Prop :=
  ∀ (node : Shape ClassId) (id : ClassId), node.reference = some id →
    name? id = some (QualifiedName.className declaration.name) →
      node.kind = (if declaration.isEnum then .enum else .object) → points declaration node

variable {points : Declaration → Shape ClassId → Prop} {name? : ClassId → Option String}
  {catalog : Catalog}

@[simp]
theorem fits_orNull (mark : Bool) (meaning : Meaning) :
    (meaning.orNull mark).Fits points = meaning.Fits points := by
  cases meaning
  rfl

/-- A node that has a name refers to a class. -/
theorem Accepts.of_reference {declaration : Declaration} (accepts : Accepts points name? declaration)
    {node : Shape ClassId} {result : Shape String} (named : node.named? name? = some result)
    (reference : result.reference = some (QualifiedName.className declaration.name))
    (kind : result.kind = if declaration.isEnum then .enum else .object) :
    points declaration node := by
  have referenceNamed := Shape.reference_of_named? named
  rw [reference] at referenceNamed
  cases refers : node.reference with
  | none =>
    rw [refers] at referenceNamed
    cases referenceNamed
  | some id =>
    rw [refers] at referenceNamed
    rcases Option.map_eq_some_iff.mp referenceNamed with ⟨name, isNamed, same⟩
    rw [Option.some.inj same] at isNamed
    exact accepts node id refers isNamed ((Shape.kind_of_named? named).symm.trans kind)

theorem namedList?_getD {shapes : Option (List (Shape ClassId))} {meanings : List Meaning}
    (named : Shape.namedOption? name? shapes =
      some (if meanings.isEmpty then none else some (Meaning.shapes meanings))) :
    Shape.namedList? name? (shapes.getD []) = some (Meaning.shapes meanings) := by
  cases shapes with
  | none =>
    cases meanings with
    | nil => rfl
    | cons => cases named
  | some given =>
    rcases Option.map_eq_some_iff.mp named with ⟨results, givenNamed, same⟩
    cases meanings with
    | nil => cases same
    | cons =>
      cases same
      exact givenNamed

mutual

theorem fits_of_named? :
    ∀ meaning : Meaning, meaning.Known catalog →
      (∀ declaration, .described declaration ∈ meaning.mentions →
        Accepts points name? declaration) →
      ∀ {shape : Shape ClassId}, shape.named? name? = some meaning.shape → meaning.Fits points shape
  | .mk _ _ _ core, known, accepts, _, named =>
    coreFits_of_named? core known accepts named rfl rfl rfl

theorem coreFits_of_named? :
    ∀ core : Core, CoreKnown catalog core →
      (∀ declaration, .described declaration ∈ coreMentions core →
        Accepts points name? declaration) →
      ∀ {shape : Shape ClassId} {result : Shape String}, shape.named? name? = some result →
        result.kind = (coreShape core).kind → result.reference = (coreShape core).reference →
          result.arguments = (coreShape core).arguments → CoreFits points core shape
  | .plain kind, known, _, shape, _, named, kinds, _, _ => by
    rw [Shape.kind_of_named? named] at kinds
    simp [CoreFits, Shape.needsClass, kinds, coreShape, known.1, known.2]
  | .parameter name, _, _, shape, _, named, kinds, _, _ => by
    rw [Shape.kind_of_named? named] at kinds
    simp [CoreFits, Shape.needsClass, kinds, coreShape]
  | .enum declaration, known, accepts, shape, _, named, kinds, references, _ => by
    refine ⟨(Shape.kind_of_named? named).symm.trans kinds, ?_⟩
    refine (accepts declaration List.mem_cons_self).of_reference named references ?_
    rw [kinds, known.2]
    rfl
  | .object declaration arguments, known, accepts, shape, _, named, kinds, references, inner => by
    refine ⟨(Shape.kind_of_named? named).symm.trans kinds, ?_, ?_⟩
    · have own := accepts declaration (List.mem_append_right _ List.mem_cons_self)
      refine own.of_reference named references ?_
      rw [kinds, known.1.2]
      rfl
    · have argumentsNamed := Shape.arguments_of_named? named
      rw [inner] at argumentsNamed
      refine allFit_of_named? arguments known.2 ?_ (namedList?_getD argumentsNamed)
      intro other among
      exact accepts other (List.mem_append_left _ among)
  | .undescribed name, _, _, shape, _, named, kinds, _, _ => by
    rw [Shape.kind_of_named? named] at kinds
    simp [CoreFits, Shape.needsClass, kinds, coreShape]

theorem allFit_of_named? :
    ∀ meanings : List Meaning, AllKnown catalog meanings →
      (∀ declaration, .described declaration ∈ allMentions meanings →
        Accepts points name? declaration) →
      ∀ {given : List (Shape ClassId)}, Shape.namedList? name? given = some (shapes meanings) →
        AllFit points meanings given
  | [], _, _, given, named => by
    cases given with
    | nil => rfl
    | cons first others =>
      simp [Shape.namedList?, shapes, Option.bind_eq_some_iff] at named
  | meaning :: meanings, known, accepts, given, named => by
    cases given with
    | nil => cases named
    | cons first others =>
      simp only [Shape.namedList?, shapes, Option.bind_eq_bind, Option.bind_eq_some_iff,
        Option.some.injEq, List.cons.injEq] at named
      rcases named with ⟨_, firstNamed, _, othersNamed, rfl, rfl⟩
      refine ⟨first, others, rfl, ?_, ?_⟩
      · refine fits_of_named? meaning known.1 ?_ firstNamed
        intro declaration among
        exact accepts declaration (List.mem_append_left _ among)
      · refine allFit_of_named? meanings known.2 ?_ othersNamed
        intro declaration among
        exact accepts declaration (List.mem_append_right _ among)

end

end Meaning

end ClientGen
