import ClientGen.Discovery.Server

/-!
# Discovering classes

Classes are registered when something mentions them, first come, first served: the class under a
name belongs to the declaration that was mentioned first, and another declaration that wants the
name is recorded as a clash and shares the class. A class is registered without properties, and
gets them when everything that its properties mention is registered; so a class may mention itself,
and every step deeper registers one more name, which bounds the search.
-/

namespace ClientGen

/-- Something that users should know. -/
inductive Notice where
  | undescribed (name : String)
  | clash (clash : NameClash)

/-- The wording of a notice. -/
def Notice.message : Notice → String
  | .undescribed name =>
    "Type " ++ name ++ " is not described by any manifest, using any"
  | .clash ⟨name, first, second⟩ =>
    "Types " ++ first ++ " and " ++ second ++ " both normalize to " ++ name ++ "; using " ++ first

/-- The classes discovered so far. -/
structure Discovery where
  types : ClassTable ClassId := {}
  clashes : List NameClash := []
  notices : List Notice := []
  /-- Whether a place was asked for that the table does not have. -/
  strayed : Bool := false

/-- How a declaration gets its class. -/
abbrev Entering := Declaration → Discovery → ClassId × Discovery

namespace Discovery

/-- Adds a notice. -/
def note (discovery : Discovery) (notice : Notice) : Discovery :=
  { discovery with notices := discovery.notices ++ [notice] }

/-- Comes across the class at a place again, perhaps for another declaration. Each clash is recorded
once. -/
def meet (discovery : Discovery) (id : ClassId) (declaration : Declaration) : Discovery :=
  match discovery.types.at? id with
  | none => { discovery with strayed := true }
  | some entry =>
    let clash : NameClash :=
      ⟨QualifiedName.className declaration.name, entry.sourceName, declaration.name⟩
    if entry.sourceName = declaration.name ∨ clash ∈ discovery.clashes then discovery
    else { discovery.note (.clash clash) with clashes := discovery.clashes ++ [clash] }

/-- Registers a class, and tells its place. -/
def register (discovery : Discovery) (entry : ClassEntry ClassId) : ClassId × Discovery :=
  (discovery.types.placeFor entry.name,
    { discovery with types := discovery.types.register entry })

/-- Gives the class at a place its properties. -/
def fill (discovery : Discovery) (id : ClassId) (properties : List (ClassProperty ClassId)) :
    Discovery :=
  match discovery.types.at? id with
  | none => { discovery with strayed := true }
  | some _ => { discovery with types := discovery.types.fill id properties }

end Discovery

namespace Meaning

mutual

/-- The shape of the values, once their classes are registered. -/
def place (enter : Entering) : Meaning → Discovery → Shape ClassId × Discovery
  | .mk layers nullable optional core, discovery =>
    let (shape, discovery) := placeCore enter core discovery
    ({ shape with layers, nullable, optional }, discovery)

/-- The shape of a core. The arguments of a class come before the class. -/
def placeCore (enter : Entering) : Core → Discovery → Shape ClassId × Discovery
  | .plain kind, discovery => ({ kind }, discovery)
  | .parameter name, discovery =>
    ({ kind := .genericParameter, parameterName := some name }, discovery)
  | .enum declaration, discovery =>
    let (id, discovery) := enter declaration discovery
    ({ kind := .enum, reference := some id }, discovery)
  | .object declaration arguments, discovery =>
    let (shapes, discovery) := placeAll enter arguments discovery
    let (id, discovery) := enter declaration discovery
    ({ kind := .object, reference := some id
       arguments := if arguments.isEmpty then none else some shapes }, discovery)
  | .undescribed name, discovery => ({ kind := .any }, discovery.note (.undescribed name))

/-- The shapes of a list of meanings. -/
def placeAll (enter : Entering) :
    List Meaning → Discovery → List (Shape ClassId) × Discovery
  | [], discovery => ([], discovery)
  | meaning :: meanings, discovery =>
    let (shape, discovery) := meaning.place enter discovery
    let (shapes, discovery) := placeAll enter meanings discovery
    (shape :: shapes, discovery)

end

end Meaning

namespace Discovery

/-- The property of a class for a declared property. Where nothing is known about its values, the
types that are hinted at are alternatives. -/
def placeProperty (server : Server) (enter : Entering) (declaring : Declaration)
    (property : Property) (discovery : Discovery) : ClassProperty ClassId × Discovery :=
  let meaning := (server.catalog.meaning property.type).orNull property.nullable
  let (shape, discovery) := meaning.place enter discovery
  let hints := server.convention.unionTypes property
  if shape.kind == .any && !hints.isEmpty then
    let (alternatives, discovery) :=
      Meaning.placeAll enter (server.catalog.meanings hints) discovery
    (server.classProperty declaring property
      { shape with kind := .union, alternatives := some alternatives }, discovery)
  else (server.classProperty declaring property shape, discovery)

/-- The properties of a class for declared properties. -/
def placeProperties (server : Server) (enter : Entering) :
    List (Declaration × Property) → Discovery → List (ClassProperty ClassId) × Discovery
  | [], discovery => ([], discovery)
  | (declaring, property) :: others, discovery =>
    let (first, discovery) := placeProperty server enter declaring property discovery
    let (rest, discovery) := placeProperties server enter others discovery
    (first :: rest, discovery)

/-- Finds the class of a declaration or registers it. `opened` are the declarations whose properties
are being read, which keep a class without properties; `bound` is how many more may be opened. -/
def enter (server : Server) (version : Option String) :
    (bound : Nat) → (opened : List String) → Entering
  | bound, opened, declaration, discovery =>
    match discovery.types.indexOf? (QualifiedName.className declaration.name) with
    | some id => (id, discovery.meet id declaration)
    | none =>
      let (id, discovery) := discovery.register (server.newEntry version declaration)
      if declaration.isEnum || declaration.name ∈ opened then (id, discovery)
      else
        match bound with
        | 0 => (id, discovery)
        | bound + 1 =>
          let (properties, discovery) :=
            placeProperties server (enter server version bound (opened ++ [declaration.name]))
              (server.visibleProperties declaration) discovery
          (id, discovery.fill id properties)

/-- How many classes of a server can still be registered. -/
def remaining (server : Server) (discovery : Discovery) : Nat :=
  (server.classNames.filter fun name => (discovery.types.indexOf? name).isNone).length

/-- The shape of a member's values, once the classes that it needs are registered. `opened` are the
declarations whose properties somebody else is reading. -/
def resolve (server : Server) (opened : List String) (version : Option String) (nullable : Bool)
    (type : TypeExpr) (discovery : Discovery) : Shape ClassId × Discovery :=
  ((server.catalog.meaning type).orNull nullable).place
    (enter server version (discovery.remaining server) opened) discovery

end Discovery

namespace Shape

mutual

/-- The classes of the objects that a shape and its type arguments stand for. -/
def objectReferences {ρ : Type} : Shape ρ → List ρ
  | ⟨kind, reference, _, _, _, arguments, _, _⟩ =>
    (if kind = .object then reference.toList else []) ++ objectReferencesOption arguments

/-- The classes of the objects in a list that may be missing. -/
def objectReferencesOption {ρ : Type} : Option (List (Shape ρ)) → List ρ
  | none => []
  | some shapes => objectReferencesList shapes

/-- The classes of the objects in a list. -/
def objectReferencesList {ρ : Type} : List (Shape ρ) → List ρ
  | [] => []
  | shape :: shapes => shape.objectReferences ++ objectReferencesList shapes

end

end Shape

/-- Marks the classes of a value that clients send. -/
def Discovery.makeWritable (shape : Shape ClassId) (discovery : Discovery) : Discovery :=
  { discovery with
    types := shape.objectReferences.foldl (fun types id => types.makeWritable id) discovery.types }

end ClientGen
