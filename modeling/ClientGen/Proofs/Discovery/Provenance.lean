import ClientGen.Proofs.Discovery.Reading
import ClientGen.Proofs.Model.Provenance

/-!
# Provenance of classes

What a type mentions, its shape refers to. So whatever a search registers can be reached from the
shape that it returns, through the properties that were read on the way, even if a class that is
referred to was registered for another declaration of the same name. One search after the other,
every class is led to from an action; and the first action that leads to it is the one for which it
was registered, because until then nothing referred to a missing class.
-/

namespace ClientGen

open Relation (ReflTransGen)

/-! ### References for mentions -/

namespace Meaning

variable {declaration : Declaration}

mutual

theorem mem_references_shape :
    ∀ meaning : Meaning, .described declaration ∈ meaning.mentions →
      QualifiedName.className declaration.name ∈ meaning.shape.references
  | .mk layers nullable optional core, mentioned => by
    have inner := mem_references_coreShape core mentioned
    rw [Shape.references_eq] at inner ⊢
    exact inner

theorem mem_references_coreShape :
    ∀ core : Core, .described declaration ∈ coreMentions core →
      QualifiedName.className declaration.name ∈ (coreShape core).references
  | .plain kind, mentioned => nomatch mentioned
  | .parameter name, mentioned => nomatch mentioned
  | .enum other, mentioned => by
    cases List.mem_singleton.mp mentioned
    rw [Shape.references_eq]
    exact List.mem_append_left _ List.mem_cons_self
  | .object other arguments, mentioned => by
    rw [Shape.references_eq]
    rcases List.mem_append.mp mentioned with inside | own
    · have inner := mem_references_shapes arguments inside
      cases arguments with
      | nil => cases inside
      | cons first others =>
        exact List.mem_append_right _ (List.mem_append_left _ inner)
    · cases List.mem_singleton.mp own
      exact List.mem_append_left _ List.mem_cons_self
  | .undescribed name, mentioned => by
    cases List.mem_singleton.mp mentioned

theorem mem_references_shapes :
    ∀ meanings : List Meaning, .described declaration ∈ allMentions meanings →
      QualifiedName.className declaration.name ∈
        (Shape.partsList (shapes meanings)).filterMap (·.reference)
  | [], mentioned => nomatch mentioned
  | meaning :: meanings, mentioned => by
    rw [shapes, Shape.partsList, List.filterMap_append]
    rcases List.mem_append.mp mentioned with first | later
    · exact List.mem_append_left _ (mem_references_shape meaning first)
    · exact List.mem_append_right _ (mem_references_shapes meanings later)

end

end Meaning

namespace Server

variable {server : Server} {declaration holder : Declaration} {version : Option String}

theorem mem_references_memberShape (member : Member)
    (mentioned : .described declaration ∈ server.memberMentions member) :
    QualifiedName.className declaration.name ∈
      (server.catalog.memberShape member.nullable member.type).references := by
  apply Meaning.mem_references_shape
  rw [Meaning.mentions_orNull]
  exact mentioned

theorem mem_references_propertyShape {property : Property}
    (mentioned : .described declaration ∈ server.propertyMentions property) :
    QualifiedName.className declaration.name ∈ (server.propertyShape property).references := by
  have fromType (own : .described declaration ∈ (server.catalog.meaning property.type).mentions) :=
    mem_references_memberShape ⟨property.nullable, property.type⟩ own
  have noAlternatives : (server.catalog.memberShape property.nullable property.type).alternatives =
      none := Meaning.alternatives_shape _
  have sameKind : (server.catalog.memberShape property.nullable property.type).kind =
      (server.catalog.meaning property.type).shape.kind := Meaning.kind_shape_orNull _ _
  simp only [propertyMentions, ← sameKind] at mentioned
  simp only [propertyShape]
  split at mentioned
  · next isUnion =>
    rw [if_pos isUnion, Shape.references_eq]
    rcases List.mem_append.mp mentioned with own | hinted
    · have inner := fromType own
      rw [Shape.references_eq, noAlternatives, Shape.partsOption, List.filterMap_nil,
        List.append_nil, ← List.append_nil (_ ++ _)] at inner
      rw [← List.append_assoc]
      exact List.mem_append_left _ (by simpa using inner)
    · have inner := Meaning.mem_references_shapes _ hinted
      rw [Discovery.shapes_meanings] at inner
      exact List.mem_append_right _ (List.mem_append_right _ inner)
  · next isPlain =>
    rw [if_neg isPlain]
    rw [List.append_nil] at mentioned
    exact fromType mentioned

/-- What the properties of a class mention, they refer to. -/
theorem exists_reference_of_mem_mentions {name? : String → Option ClassId}
    {properties : List (ClassProperty ClassId)} {place : ClassId}
    (placed : ((server.visibleProperties holder).map server.outlineProperty).mapM
      (ClassProperty.named? name?) = some properties)
    (mentioned : .described declaration ∈ server.mentions holder)
    (found : name? (QualifiedName.className declaration.name) = some place) :
    ∃ property ∈ properties, place ∈ property.shape.references := by
  rcases List.mem_flatMap.mp mentioned with ⟨declared, among, inProperty⟩
  have visible : declared ∈ server.visibleProperties holder := by
    rw [classProperties] at among
    split at among
    · cases among
    · exact among
  rcases ClassProperty.exists_of_mapM_named? placed (List.mem_map_of_mem visible) with
    ⟨property, isProperty, named⟩
  rcases Shape.exists_name_of_mem_references (ClassProperty.shape_of_named? named)
    (mem_references_propertyShape inProperty) with ⟨other, refers, foundToo⟩
  rw [found] at foundToo
  rw [Option.some.inj foundToo]
  exact ⟨property, isProperty, refers⟩

/-! ### Versions of classes -/

theorem ofVersion_newEntry : (server.newEntry version declaration : ClassEntry ClassId).OfVersion
    version := by
  cases kind : declaration.isEnum <;>
    simp [newEntry, ClassEntry.OfVersion, ClassEntry.isEnum, kind]

theorem properties_newEntry_withProperties {properties : List (ClassProperty ClassId)}
    (isObject : ¬declaration.isEnum = true) :
    ((server.newEntry version declaration).withProperties properties).properties = properties := by
  simp [newEntry, isObject, ClassEntry.withProperties, ClassEntry.properties]

end Server

theorem ClassEntry.OfVersion.withProperties {version : Option String} {entry : ClassEntry ClassId}
    (ofVersion : entry.OfVersion version) (properties : List (ClassProperty ClassId)) :
    (entry.withProperties properties).OfVersion version := by
  unfold ClassEntry.withProperties
  split
  · next object =>
    rw [ClassEntry.OfVersion, ClassEntry.isEnum, object] at ofVersion
    exact ofVersion
  · exact ofVersion

/-! ### Searching -/

namespace Discovery

variable {server : Server} {version : Option String} {depth : Nat} {chain : List String}
  {mentions : List Mention} {discovery earlier later : Discovery} {declaration : Declaration}
  {place : ClassId} {entry : ClassEntry ClassId}

/-- Whether something that is mentioned leads to a class. -/
def Leads (mentions : List Mention) (discovery : Discovery) (place : ClassId) : Prop :=
  ∃ declaration start, .described declaration ∈ mentions ∧
    discovery.types.nameAt? start = some (QualifiedName.className declaration.name) ∧
      ReflTransGen discovery.types.RefersTo start place

theorem Leads.cons {mention : Mention} (leads : Leads mentions discovery place) :
    Leads (mention :: mentions) discovery place := by
  rcases leads with ⟨declaration, start, among, named, path⟩
  exact ⟨declaration, start, List.mem_cons_of_mem _ among, named, path⟩

theorem Leads.of_grows (leads : Leads mentions earlier place) (grown : Grows earlier later) :
    Leads mentions later place := by
  rcases leads with ⟨declaration, start, among, named, path⟩
  exact ⟨declaration, start, among, ClassTable.nameAt?_of_prefix grown.entries named,
    (ClassTable.Retains.of_grown grown.entries).path path⟩

theorem size_register
    (fresh : discovery.types.indexOf? (QualifiedName.className declaration.name) = none) :
    (discovery.register (server.newEntry version declaration)).2.types.size =
      discovery.types.size + 1 := by
  rw [ClassTable.size, (register_newEntry server version fresh).2.1, List.length_append]
  rfl

theorem Grows.nameAt?_registered
    (fresh : discovery.types.indexOf? (QualifiedName.className declaration.name) = none)
    (grown : Grows (discovery.register (server.newEntry version declaration)).2 later) :
    later.types.nameAt? discovery.types.size = some (QualifiedName.className declaration.name) :=
  ClassTable.nameAt?_of_prefix grown.entries (nameAt?_register_newEntry server version fresh)

theorem leads_of_nameAt?
    (named : discovery.types.nameAt? place = some (QualifiedName.className declaration.name)) :
    Leads (.described declaration :: mentions) discovery place :=
  ⟨declaration, place, List.mem_cons_self, named, .refl⟩

/-- When a class is filled in, it refers to what was registered for its properties. -/
theorem leads_fill {properties : List (ClassProperty ClassId)}
    (fresh : discovery.types.indexOf? (QualifiedName.className declaration.name) = none)
    (isObject : ¬declaration.isEnum = true) (lawful : later.types.Lawful)
    (grown : Grows (discovery.register (server.newEntry version declaration)).2 later)
    (placed : ((server.visibleProperties declaration).map server.outlineProperty).mapM
      (ClassProperty.named? fun name => later.types.indexOf? name) = some properties)
    (leads : Leads (server.mentions declaration) later place) :
    Leads (.described declaration :: mentions) (later.fill discovery.types.size properties)
      place := by
  have stored := grown.at?_registered fresh
  rcases leads with ⟨held, start, mentioned, named, path⟩
  rcases Server.exists_reference_of_mem_mentions placed mentioned
    (lawful.indexOf?_of_nameAt? named) with ⟨property, isProperty, refers⟩
  have first : (later.types.fill discovery.types.size properties).RefersTo discovery.types.size
      start := by
    refine ⟨(server.newEntry version declaration).withProperties properties, ?_, property, ?_,
      refers⟩
    · rw [ClassTable.at?_fill_self, stored]
      rfl
    · rw [Server.properties_newEntry_withProperties isObject]
      exact isProperty
  have others : ReflTransGen
      (later.types.fill discovery.types.size properties).RefersTo start place :=
    ReflTransGen.mono
      (fun _ _ => ClassTable.refersTo_fill stored Server.properties_newEntry) _ _ path
  refine ⟨declaration, discovery.types.size, List.mem_cons_self, ?_, ?_⟩
  · rw [fill_of_at? stored, ClassTable.nameAt?_fill]
    exact grown.nameAt?_registered fresh
  · rw [fill_of_at? stored]
    exact .head first others

/-- What a search registers is led to from what it follows up, and is of its version. -/
theorem Follows.leads (follows : Follows server version depth chain mentions earlier later)
    (lawful : earlier.types.Lawful) (new : earlier.types.size ≤ place)
    (found : later.types.at? place = some entry) :
    Leads mentions later place ∧ entry.OfVersion version := by
  induction follows generalizing place entry with
  | nothing =>
    rw [ClassTable.at?_eq_none_of_size_le new] at found
    cases found
  | undescribed _ ih =>
    rcases ih lawful new found with ⟨leads, ofVersion⟩
    exact ⟨leads.cons, ofVersion⟩
  | registered _ _ ih =>
    rcases ih (by rwa [types_meet]) (by rwa [types_meet]) found with ⟨leads, ofVersion⟩
    exact ⟨leads.cons, ofVersion⟩
  | @closed _ _ mentions discovery later declaration fresh _ others ih =>
    by_cases isOwn : place = discovery.types.size
    · rw [isOwn] at found ⊢
      rw [others.grows.at?_registered fresh] at found
      cases found
      exact ⟨leads_of_nameAt? (others.grows.nameAt?_registered fresh), Server.ofVersion_newEntry⟩
    · have beyond := Nat.lt_of_le_of_ne new (Ne.symm isOwn)
      rcases ih lawful.register (by rwa [size_register fresh]) found with ⟨leads, ofVersion⟩
      exact ⟨leads.cons, ofVersion⟩
  | @opened _ _ mentions discovery inner later declaration properties fresh isOpen inside placed
      others ihInside ihOthers =>
    have isObject : ¬declaration.isEnum = true := fun isEnum => isOpen (Or.inl isEnum)
    have stored := inside.grows.at?_registered fresh
    have lawfulInner := inside.grows.lawful lawful.register
    have filled := Grows.opened properties fresh inside.grows
    -- Three kinds of new classes: those of the other mentions, the one that is filled in, and those
    -- that were registered while its properties were read.
    by_cases between : place < (inner.fill discovery.types.size properties).types.size
    · rw [ClassTable.at?_eq_of_prefix others.grows.entries between, fill_of_at? stored] at found
      by_cases isOwn : place = discovery.types.size
      · rw [isOwn] at found ⊢
        rw [ClassTable.at?_fill_self, stored] at found
        cases found
        refine ⟨(leads_of_nameAt? ?_).of_grows others.grows,
          Server.ofVersion_newEntry.withProperties properties⟩
        rw [fill_of_at? stored, ClassTable.nameAt?_fill]
        exact inside.grows.nameAt?_registered fresh
      · rw [ClassTable.at?_fill_of_ne isOwn] at found
        have beyond := Nat.lt_of_le_of_ne new (Ne.symm isOwn)
        rcases ihInside lawful.register (by rwa [size_register fresh]) found with
          ⟨leads, ofVersion⟩
        exact ⟨(leads_fill fresh isObject lawfulInner inside.grows placed leads).of_grows
          others.grows, ofVersion⟩
    · rcases ihOthers (filled.lawful lawful) (Nat.le_of_not_lt between) found with
        ⟨leads, ofVersion⟩
      exact ⟨leads.cons, ofVersion⟩

theorem brings_resolve (lawful : discovery.types.Lawful) (opened : List String)
    (version : Option String) (nullable : Bool) (type : TypeExpr) :
    ClassTable.Brings version [(discovery.resolve server opened version nullable type).1]
      discovery.types (discovery.resolve server opened version nullable type).2.types := by
  have follows : Follows server version _ opened
      (server.memberMentions ⟨nullable, type⟩) discovery
      (discovery.resolve server opened version nullable type).2 :=
    follows_resolve lawful opened version nullable type
  have named := (placed_resolve server opened version nullable type lawful).named
  have lawfulThen := follows.grows.lawful lawful
  constructor
  · exact .of_grown follows.grows.entries
  · intro place entry new found
    rcases (follows.leads lawful new found).1 with ⟨declaration, start, mentioned, isNamed, path⟩
    rcases Shape.exists_reference_of_mem_references named
      (Server.mem_references_memberShape _ mentioned) with ⟨other, refers, otherNamed⟩
    rw [lawfulThen.place_unique isNamed otherNamed] at path
    exact ⟨_, List.mem_cons_self, other, refers, path⟩
  · intro place entry new found
    exact (follows.leads lawful new found).2

theorem Sound.selfContained {allowed : List String → Prop}
    (sound : Sound server allowed discovery) : discovery.types.SelfContained := by
  rintro holder held ⟨entry, found, property, among, refers⟩
  rcases sound.exists_outlineProperty (ClassTable.mem_classes_iff.mpr ⟨holder, found⟩) with
    ⟨declaration, -, outlined⟩
  rcases outlined property among with ⟨declared, -, named⟩
  exact Shape.lt_size_of_mem_references (ClassProperty.shape_of_named? named) refers

end Discovery

/-! ### Reading -/

namespace Server

open Discovery ClassTable

variable (server : Server) (version : Option String) (bindings : List (String × Bool))
  (doc : Option MemberDoc) {context : ControllerContext} {discovery : Discovery}

theorem brings_readParameter (lawful : discovery.types.Lawful) (parameter : Parameter) :
    Brings version [(server.readParameter version bindings doc parameter discovery).1.shape]
      discovery.types (server.readParameter version bindings doc parameter discovery).2.types := by
  have resolved : Brings version
      [(discovery.resolve server [] version parameter.nullable parameter.type).1] discovery.types
      (discovery.resolve server [] version parameter.nullable parameter.type).2.types :=
    brings_resolve lawful [] version parameter.nullable parameter.type
  simp only [readParameter]
  split
  · exact resolved.trans (.of_sameButLocks version (sameButLocks_makeWritable _ _))
  · exact resolved

theorem brings_readParameters (sound : Discovery.Sound server (· = []) discovery)
    (parameters : List Parameter) :
    Brings version
      ((server.readParameters version bindings doc parameters discovery).1.map (·.shape))
      discovery.types
      (server.readParameters version bindings doc parameters discovery).2.types := by
  induction parameters generalizing discovery with
  | nil => exact .refl version discovery.types
  | cons parameter parameters ih =>
    have first := reads_readParameter server version bindings doc sound.lawful parameter
    exact (brings_readParameter server version bindings doc sound.lawful parameter).trans
      (ih (first.sound sound))

theorem brings_readPayload (lawful : discovery.types.Lawful) (method : Method) :
    Brings version
      ((server.readPayload version doc method discovery).1.toList.map (·.shape))
      discovery.types (server.readPayload version doc method discovery).2.types := by
  unfold readPayload
  simp only
  split
  · exact .refl version discovery.types
  · next type _ => exact brings_resolve lawful [] version false type

theorem brings_readAction? (sound : Discovery.Sound server (· = []) discovery) {method : Method}
    {declaring : Declaration} {action : Action ClassId} {later : Discovery}
    (read : server.readAction? context declaring method discovery = some (action, later)) :
    Brings action.version action.shapes discovery.types later.types := by
  simp only [readAction?, Option.bind_eq_bind, Option.bind_eq_some_iff, Option.some.injEq,
    Prod.mk.injEq] at read
  rcases read with ⟨⟨verb, fragment⟩, -, rfl, rfl⟩
  simp only [Action.shapes]
  refine (brings_readParameters server _ _ _ sound method.parameters).trans
    (brings_readPayload server _ _ ?_ method)
  exact ((reads_readParameters server _ _ _ sound method.parameters).sound sound).lawful

end Server

namespace Survey

open Discovery ClassTable

def actions (survey : Survey) : List (Action ClassId) :=
  survey.controllers.flatMap (·.actions)

variable {server : Server} {discovery : Discovery} {others : List (Action ClassId)}

theorem traced_readAction? (sound : Discovery.Sound server (· = []) discovery)
    (traced : Traced others discovery.types) {context : ControllerContext} {method : Method}
    {declaring : Declaration} {action : Action ClassId} {later : Discovery}
    (read : server.readAction? context declaring method discovery = some (action, later)) :
    Traced (others ++ [action]) later.types := by
  refine traced.concat sound.selfContained (server.brings_readAction? sound read) ?_
  intro shape isOwn start refers
  rcases exists_of_mem_right ((server.reads_readAction? sound read).named sound) isOwn with
    ⟨member, -, named⟩
  exact Shape.lt_size_of_mem_references named refers

theorem traced_readActions (sound : Discovery.Sound server (· = []) discovery)
    (traced : Traced others discovery.types) (context : ControllerContext)
    (methods : List (Declaration × Method)) :
    Traced (others ++ (readActions server context methods discovery).1)
      (readActions server context methods discovery).2.types := by
  induction methods generalizing discovery others with
  | nil =>
    rw [readActions, List.append_nil]
    exact traced
  | cons first methods ih =>
    rcases first with ⟨declaring, method⟩
    by_cases isRead : server.isRead method = true
    · rcases readActions_of_read methods isRead with ⟨action, later, read, whole⟩
      have soundThen := (server.reads_readAction? sound read).sound sound
      rw [whole, ← List.singleton_append, ← List.append_assoc]
      exact ih soundThen (traced_readAction? sound traced read)
    · rw [readActions_of_not_read methods isRead]
      exact ih sound traced

theorem traced_addController {survey : Survey}
    (sound : Discovery.Sound server (· = []) survey.discovery)
    (traced : Traced survey.actions survey.discovery.types) (declaration : Declaration) :
    let later := (survey.addController server declaration).2
    Traced later.actions later.discovery.types := by
  have read := traced_readActions sound traced (contextOf server declaration)
    (server.catalog.allMethods declaration)
  simp only [addController]
  split
  · next none =>
    rw [List.isEmpty_iff.mp none, List.append_nil] at read
    exact read
  · simp only [Survey.actions, List.flatMap_append, List.flatMap_singleton]
    exact read

theorem traced_ofControllers (server : Server) (declarations : List Declaration) :
    let survey := ofControllers server declarations
    Traced survey.actions survey.discovery.types := by
  induction declarations using List.reverseRecOn with
  | nil => exact .empty
  | append_singleton declarations declaration ih =>
    rw [ofControllers_concat]
    exact traced_addController (sound_discovery_ofControllers server declarations) ih declaration

/-- No class of a model is there for nothing, whichever controllers are read and in whatever order.
Among the actions there is a first one whose parameters or payload lead to the class, and the class
has its version, unless it is an enumeration and has none. -/
theorem exists_first_action (server : Server) (declarations : List Declaration) :
    let model := (ofControllers server declarations).model
    ∀ place entry, model.types.at? place = some entry →
      ∃ before action after,
        model.controllers.flatMap (·.actions) = before ++ action :: after ∧
          (∃ shape ∈ action.shapes, model.types.LeadsTo shape place) ∧
          (∀ earlier ∈ before, ∀ shape ∈ earlier.shapes, ¬model.types.LeadsTo shape place) ∧
          entry.version = if entry.isEnum then none else action.version := by
  intro model place entry found
  rcases (traced_ofControllers server declarations).origin found with
    ⟨before, action, after, whole, reaches, isFirst, ofVersion⟩
  refine ⟨before, action, after, whole, reaches, ?_, ofVersion⟩
  intro earlier among shape isOwn leads
  exact isFirst earlier among ⟨shape, isOwn, leads⟩

/-- What a member of some controller mentions has a class. -/
theorem exists_class_of_mentioned {server : Server} {declarations : List Declaration}
    {member : Member} {declaration : Declaration}
    (isMember : member ∈ declarations.flatMap server.controllerMembers)
    (mentioned : .described declaration ∈ server.memberMentions member) :
    let model := (ofControllers server declarations).model
    ∃ place entry, model.types.at? place = some entry ∧
      entry.name = QualifiedName.className declaration.name := by
  have settled := (reads_ofControllers server declarations).settles .empty member isMember
    declaration mentioned
  rcases settled with ⟨_, ⟨place, entry, found, named, -⟩, -⟩
  exact ⟨place, entry, found, named⟩

/-- A server with a class that holds objects of another one. -/
def pagesServer : Server where
  catalog := Catalog.empty
    |>.insert
      { name := "Page", properties := [{ name := "Lines", type := .array (.named "Line" []) }] }
    |>.insert { name := "Line" }
  convention := .mvc

/-- A controller that returns pages in its first version and lines by themselves in its second. -/
def pagesController : Declaration where
  name := "PagesController"
  methods :=
    [{ name := "Page", attributes := [.httpGet (some "/api/v1/page")]
       returnType := .named "Page" [] },
      { name := "Line", attributes := [.httpGet (some "/api/v2/line")]
        returnType := .named "Line" [] }]

theorem exists_first_action_of_line :
    let model := (ofControllers pagesServer [pagesController]).model
    ∃ place entry, model.types.at? place = some entry ∧ entry.name = "Line" ∧
      ∃ before action after,
        model.controllers.flatMap (·.actions) = before ++ action :: after ∧
          (∃ shape ∈ action.shapes, model.types.LeadsTo shape place) ∧
          (∀ earlier ∈ before, ∀ shape ∈ earlier.shapes, ¬model.types.LeadsTo shape place) ∧
          entry.version = if entry.isEnum then none else action.version := by
  have members : [pagesController].flatMap pagesServer.controllerMembers =
      [⟨false, .named "Page" []⟩, ⟨false, .named "Line" []⟩] := rfl
  have isMember : ⟨false, .named "Line" []⟩ ∈
      [pagesController].flatMap pagesServer.controllerMembers := by simp [members]
  have mentions : pagesServer.memberMentions ⟨false, .named "Line" []⟩ =
      [.described { name := "Line" }] := rfl
  have mentioned : .described { name := "Line" } ∈
      pagesServer.memberMentions ⟨false, .named "Line" []⟩ := by simp [mentions]
  have isLine : QualifiedName.className "Line" = "Line" := by decide +kernel
  rcases exists_class_of_mentioned isMember mentioned with ⟨place, entry, found, named⟩
  exact ⟨place, entry, found, named.trans isLine,
    exists_first_action pagesServer [pagesController] place entry found⟩

end Survey

end ClientGen
