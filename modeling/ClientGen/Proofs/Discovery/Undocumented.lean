import ClientGen.Discovery.Survey
import ClientGen.Proofs.Model.Undocumented

/-!
# Documentation and the rest of a survey

Documentation is looked up again and again while classes are discovered and actions are read, and
nothing is decided by what is found. So a survey and the survey of the same server without any
documentation go through the same steps: after each of them, what the one has found is what the
other has found once its documentation is left out. As that does not depend on which documentation
there was, any two surveys of a server differ in their documentation only.
-/

namespace ClientGen

/-- The server with nothing known about the documentation of its types. -/
def Server.undocumented (server : Server) : Server :=
  { server with docs := {} }

/-- What was discovered, without its documentation. -/
def Discovery.undocumented (discovery : Discovery) : Discovery :=
  { discovery with types := discovery.types.undocumented }

def Survey.undocumented (survey : Survey) : Survey where
  controllers := survey.controllers.map Controller.undocumented
  discovery := survey.discovery.undocumented

/-! ### Looking nothing up -/

namespace Server

variable (server : Server) {ρ : Type}

@[simp]
theorem catalog_undocumented : server.undocumented.catalog = server.catalog := rfl

@[simp]
theorem convention_undocumented : server.undocumented.convention = server.convention := rfl

theorem undocumented_classProperty (declaring : Declaration) (property : Property)
    (shape : Shape ρ) : (server.classProperty declaring property shape).undocumented =
      server.undocumented.classProperty declaring property shape := rfl

theorem visibleProperties_undocumented (declaration : Declaration) :
    server.undocumented.visibleProperties declaration = server.visibleProperties declaration := rfl

theorem typeSummary?_undocumented (name : String) :
    server.undocumented.docs.typeSummary? name = none := rfl

theorem undocumented_newEntry (version : Option String) (declaration : Declaration) :
    (server.newEntry version declaration : ClassEntry ρ).undocumented =
      server.undocumented.newEntry version declaration := by
  have sameValues : EnumValue.undocumented ∘ server.enumValue declaration =
      server.undocumented.enumValue declaration := rfl
  simp only [newEntry, typeSummary?_undocumented]
  split
  · simp only [ClassEntry.undocumented, ClassBody.undocumented, List.map_map, sameValues]
  · simp only [ClassEntry.undocumented, ClassBody.undocumented, List.map_nil]
    rfl

theorem methodDoc?_undocumented (declaring : Declaration) (method : Method) :
    server.undocumented.docs.methodDoc? declaring method = none := by
  simp only [undocumented, DocIndex.methodDoc?, DocIndex.find?, Ordered.find?]
  split <;> rfl

end Server

/-! ### Single steps -/

namespace Discovery

variable (discovery : Discovery)

theorem undocumented_meet (id : ClassId) (declaration : Declaration) :
    (discovery.meet id declaration).undocumented = discovery.undocumented.meet id declaration := by
  unfold meet
  simp only [undocumented, ClassTable.at?_undocumented]
  cases discovery.types.at? id with
  | none => rfl
  | some entry =>
    simp only [Option.map_some, ClassEntry.undocumented]
    by_cases told : entry.sourceName = declaration.name ∨
        ⟨QualifiedName.className declaration.name, entry.sourceName, declaration.name⟩ ∈
          discovery.clashes
    · simp [told]
    · simp [told, note]

theorem register_undocumented (entry : ClassEntry ClassId) :
    discovery.undocumented.register entry.undocumented =
      ((discovery.register entry).1, (discovery.register entry).2.undocumented) := by
  simp only [register, undocumented, ClassTable.undocumented_register]
  rw [ClassTable.placeFor_undocumented]
  rfl

theorem undocumented_fill (id : ClassId) (properties : List (ClassProperty ClassId)) :
    (discovery.fill id properties).undocumented =
      discovery.undocumented.fill id (properties.map ClassProperty.undocumented) := by
  unfold fill
  simp only [undocumented, ClassTable.at?_undocumented]
  cases discovery.types.at? id with
  | none => rfl
  | some entry => simp only [Option.map_some, ClassTable.undocumented_fill]

theorem undocumented_makeWritable (shape : Shape ClassId) :
    (discovery.makeWritable shape).undocumented = discovery.undocumented.makeWritable shape := by
  have folded (table : ClassTable ClassId) :
      (shape.objectReferences.foldl (fun types id => types.makeWritable id) table).undocumented =
        shape.objectReferences.foldl (fun types id => types.makeWritable id)
          table.undocumented := by
    induction shape.objectReferences generalizing table with
    | nil => rfl
    | cons id ids ih =>
      rw [List.foldl_cons, List.foldl_cons, ih, ClassTable.undocumented_makeWritable]
  simp only [makeWritable, undocumented, folded]

theorem indexOf?_undocumented (name : String) :
    discovery.undocumented.types.indexOf? name = discovery.types.indexOf? name :=
  discovery.types.indexOf?_undocumented name

theorem remaining_undocumented (server : Server) :
    discovery.undocumented.remaining server.undocumented = discovery.remaining server := by
  simp only [remaining, indexOf?_undocumented]
  rfl

end Discovery

/-! ### Discovering classes -/

/-- Two ways to enter declarations of which the second one goes through the same steps without
documentation. -/
def Entering.Ignores (documented plain : Entering) : Prop :=
  ∀ declaration discovery, plain declaration discovery.undocumented =
    ((documented declaration discovery).1, (documented declaration discovery).2.undocumented)

namespace Meaning

variable {documented plain : Entering}

mutual

theorem place_undocumented (ignores : documented.Ignores plain) :
    ∀ (meaning : Meaning) (discovery : Discovery),
      meaning.place plain discovery.undocumented =
        ((meaning.place documented discovery).1,
          (meaning.place documented discovery).2.undocumented)
  | .mk layers nullable optional core, discovery => by
    rw [place, place, placeCore_undocumented ignores core discovery]

theorem placeCore_undocumented (ignores : documented.Ignores plain) :
    ∀ (core : Core) (discovery : Discovery),
      placeCore plain core discovery.undocumented =
        ((placeCore documented core discovery).1,
          (placeCore documented core discovery).2.undocumented)
  | .plain _, _ | .parameter _, _ | .undescribed _, _ => rfl
  | .enum declaration, discovery => by
    rw [placeCore, placeCore, ignores]
  | .object declaration arguments, discovery => by
    simp only [placeCore, placeAll_undocumented ignores arguments discovery, ignores _ _]

theorem placeAll_undocumented (ignores : documented.Ignores plain) :
    ∀ (meanings : List Meaning) (discovery : Discovery),
      placeAll plain meanings discovery.undocumented =
        ((placeAll documented meanings discovery).1,
          (placeAll documented meanings discovery).2.undocumented)
  | [], _ => rfl
  | meaning :: meanings, discovery => by
    simp only [placeAll, place_undocumented ignores meaning discovery,
      placeAll_undocumented ignores meanings _]

end

end Meaning

namespace Discovery

variable {documented plain : Entering} (server : Server)

theorem placeProperty_undocumented (ignores : documented.Ignores plain) (declaring : Declaration)
    (property : Property) (discovery : Discovery) :
    placeProperty server.undocumented plain declaring property discovery.undocumented =
      ((placeProperty server documented declaring property discovery).1.undocumented,
        (placeProperty server documented declaring property discovery).2.undocumented) := by
  simp only [placeProperty, Server.catalog_undocumented, Server.convention_undocumented,
    Meaning.place_undocumented ignores]
  split
  · simp only [Meaning.placeAll_undocumented ignores, ← Server.undocumented_classProperty]
  · rfl

theorem placeProperties_undocumented (ignores : documented.Ignores plain)
    (declared : List (Declaration × Property)) (discovery : Discovery) :
    placeProperties server.undocumented plain declared discovery.undocumented =
      ((placeProperties server documented declared discovery).1.map ClassProperty.undocumented,
        (placeProperties server documented declared discovery).2.undocumented) := by
  induction declared generalizing discovery with
  | nil => rfl
  | cons first others ih =>
    simp only [placeProperties, placeProperty_undocumented server ignores, ih, List.map_cons]

/-- Entering a declaration registers the same class at the same place, whatever its
documentation. -/
theorem enter_ignores (version : Option String) (bound : Nat) (opened : List String) :
    Entering.Ignores (enter server version bound opened)
      (enter server.undocumented version bound opened) := by
  induction bound generalizing opened with
  | zero =>
    intro declaration discovery
    rw [enter, enter, indexOf?_undocumented]
    split
    · rw [undocumented_meet]
    · simp only [← Server.undocumented_newEntry, register_undocumented, ite_self]
  | succ bound ih =>
    intro declaration discovery
    rw [enter, enter, indexOf?_undocumented]
    split
    · rw [undocumented_meet]
    · simp only [← Server.undocumented_newEntry, register_undocumented,
        Server.visibleProperties_undocumented,
        placeProperties_undocumented server (ih (opened ++ [declaration.name])),
        ← undocumented_fill]
      split <;> rfl

/-- Resolving a type does not depend on documentation, but for the documentation of the classes that
are discovered on the way. -/
theorem resolve_undocumented (opened : List String) (version : Option String) (nullable : Bool)
    (type : TypeExpr) (discovery : Discovery) :
    resolve server.undocumented opened version nullable type discovery.undocumented =
      ((resolve server opened version nullable type discovery).1,
        (resolve server opened version nullable type discovery).2.undocumented) := by
  rw [resolve, resolve, remaining_undocumented]
  apply Meaning.place_undocumented
  apply enter_ignores

end Discovery

/-! ### Reading actions -/

namespace Server

variable (server : Server) (version : Option String) (bindings : List (String × Bool))
  (doc : Option MemberDoc)

theorem bind_undocumented {ρ : Type} (parameter : Parameter) (shape : Shape ρ) :
    server.undocumented.bind bindings parameter shape = server.bind bindings parameter shape := rfl

theorem readParameter_undocumented (parameter : Parameter) (discovery : Discovery) :
    server.undocumented.readParameter version bindings none parameter discovery.undocumented =
      ((server.readParameter version bindings doc parameter discovery).1.undocumented,
        (server.readParameter version bindings doc parameter discovery).2.undocumented) := by
  simp only [readParameter, Discovery.resolve_undocumented, bind_undocumented]
  split
  · rw [Discovery.undocumented_makeWritable]
    rfl
  · rfl

theorem readParameters_undocumented (parameters : List Parameter) (discovery : Discovery) :
    server.undocumented.readParameters version bindings none parameters discovery.undocumented =
      ((server.readParameters version bindings doc parameters discovery).1.map
          ActionParameter.undocumented,
        (server.readParameters version bindings doc parameters discovery).2.undocumented) := by
  induction parameters generalizing discovery with
  | nil => rfl
  | cons parameter parameters ih =>
    simp only [readParameters, server.readParameter_undocumented version bindings doc, ih,
      List.map_cons]

theorem payloadType?_undocumented (declared : TypeExpr) :
    server.undocumented.payloadType? declared = server.payloadType? declared := rfl

theorem readPayload_undocumented (method : Method) (discovery : Discovery) :
    server.undocumented.readPayload version none method discovery.undocumented =
      ((server.readPayload version doc method discovery).1.map Payload.undocumented,
        (server.readPayload version doc method discovery).2.undocumented) := by
  simp only [readPayload, convention_undocumented, payloadType?_undocumented]
  split
  · rfl
  · simp only [Discovery.resolve_undocumented]
    rfl

theorem readAction?_undocumented (context : ControllerContext) (declaring : Declaration)
    (method : Method) (discovery : Discovery) :
    server.undocumented.readAction? context declaring method discovery.undocumented =
      (server.readAction? context declaring method discovery).map fun read =>
        (read.1.undocumented, read.2.undocumented) := by
  simp only [readAction?, methodDoc?_undocumented]
  cases endpoint? method with
  | none => rfl
  | some found =>
    generalize server.docs.methodDoc? declaring method = doc
    simp only [Option.bind_eq_bind, Option.bind_some, Option.map_some,
      Option.bind_none, server.readParameters_undocumented _ _ doc,
      server.readPayload_undocumented _ doc, Action.undocumented]

end Server

/-! ### Surveys -/

namespace Survey

variable (server : Server)

theorem readActions_undocumented (context : ControllerContext)
    (methods : List (Declaration × Method)) (discovery : Discovery) :
    readActions server.undocumented context methods discovery.undocumented =
      ((readActions server context methods discovery).1.map Action.undocumented,
        (readActions server context methods discovery).2.undocumented) := by
  induction methods generalizing discovery with
  | nil => rfl
  | cons method methods ih =>
    rcases method with ⟨declaring, method⟩
    simp only [readActions, Server.convention_undocumented, server.readAction?_undocumented]
    cases eligible : method.isPublic && !method.isSpecial && server.convention.isAction method with
    | false => simp [ih]
    | true =>
      cases server.readAction? context declaring method discovery with
      | none => simp [ih]
      | some read => simp [ih]

theorem contextOf_undocumented (declaration : Declaration) :
    contextOf server.undocumented declaration = contextOf server declaration := rfl

theorem addController_undocumented (declaration : Declaration) (survey : Survey) :
    addController server.undocumented declaration survey.undocumented =
      ((addController server declaration survey).1,
        (addController server declaration survey).2.undocumented) := by
  simp only [addController, contextOf_undocumented, Server.catalog_undocumented]
  have read := readActions_undocumented server (contextOf server declaration)
    (server.catalog.allMethods declaration) survey.discovery
  simp only [undocumented] at read ⊢
  simp only [read, List.isEmpty_map]
  split
  · rfl
  · simp only [Server.typeSummary?_undocumented, List.map_append, List.map_cons, List.map_nil,
      Controller.undocumented]

/-- The survey of a server without documentation is any survey of it, with the documentation left
out. -/
theorem ofControllers_undocumented (declarations : List Declaration) :
    ofControllers server.undocumented declarations =
      (ofControllers server declarations).undocumented := by
  have folded (survey : Survey) :
      declarations.foldl (fun survey declaration =>
          (survey.addController server.undocumented declaration).2) survey.undocumented =
        (declarations.foldl (fun survey declaration =>
          (survey.addController server declaration).2) survey).undocumented := by
    induction declarations generalizing survey with
    | nil => rfl
    | cons declaration declarations ih =>
      rw [List.foldl_cons, List.foldl_cons, ← ih, addController_undocumented]
  exact folded {}

theorem ofServer_undocumented : ofServer server.undocumented = (ofServer server).undocumented :=
  ofControllers_undocumented server (candidates server)

/-! ### Results -/

/-- Two servers that differ only in the documentation of their types have the same model, but for
the documentation in it. -/
theorem model_regardless_of_documentation (catalog : Catalog) (convention : Convention)
    (docs otherDocs : DocIndex) :
    (ofServer ⟨catalog, convention, docs⟩).model.undocumented =
      (ofServer ⟨catalog, convention, otherDocs⟩).model.undocumented := by
  have plain (docs : DocIndex) : (ofServer ⟨catalog, convention, docs⟩).model.undocumented =
      (ofServer ⟨catalog, convention, {}⟩).model := by
    exact congrArg model (ofServer_undocumented ⟨catalog, convention, docs⟩).symm
  rw [plain docs, plain otherDocs]

end Survey

end ClientGen
