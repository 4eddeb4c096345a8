import ClientGen.Proofs.Discovery.Clashes
import ClientGen.Proofs.Discovery.Controllers
import ClientGen.Proofs.Discovery.Writable

/-!
# The order of the controllers

A survey without clashes has a class for each declaration that its controllers concern, built from
that declaration, and no others; and clients may send those to which paths of properties lead from
the bodies of its requests. Told by names, nothing in this depends on the order in which the
controllers are read. The names of the declarations are kept apart in such a survey, so no other
order makes them clash.
-/

namespace ClientGen

open Relation (ReflTransGen)

/-- A path can be followed in another graph if each of its edges can. -/
theorem exists_path_of_simulation {α β : Type} {edge : α → α → Prop} {image : β → β → Prop}
    (related : α → β → Prop)
    (follows : ∀ node next other, related node other → edge node next →
      ∃ target, related next target ∧ image other target)
    {node next : α} {other : β} (begins : related node other)
    (path : ReflTransGen edge node next) :
    ∃ target, related next target ∧ ReflTransGen image other target := by
  induction path with
  | refl => exact ⟨other, begins, .refl⟩
  | tail _ last ih =>
    rcases ih with ⟨between, isRelated, imagePath⟩
    rcases follows _ _ _ isRelated last with ⟨target, targetRelated, imageLast⟩
    exact ⟨target, targetRelated, imagePath.tail imageLast⟩

/-- Whether the class of one name holds objects of the class of another one, as far as some
declarations go. -/
def Server.HoldsName (server : Server) (concerned : Declaration → Prop) (holder held : String) :
    Prop :=
  ∃ declaration, concerned declaration ∧ QualifiedName.className declaration.name = holder ∧
    ∃ declared ∈ server.classProperties declaration,
      (server.propertyShape declared.2).kind = .object ∧
        (server.propertyShape declared.2).reference = some held

/-- Whether two tables have classes of the same names, each of which is the same in both once names
stand for the references. The versions are left open. -/
structure ClassTable.SameByName (table other : ClassTable ClassId) : Prop where
  names : (table.classes.map (·.name)).Perm (other.classes.map (·.name))
  classes : ∀ name entry otherEntry, table.find? name = some entry →
    other.find? name = some otherEntry → ∃ named otherNamed,
      entry.named? table.nameAt? = some named ∧ otherEntry.named? other.nameAt? = some otherNamed ∧
        { named with version := none } = { otherNamed with version := none }

/-- The version is all that is left open in a class. -/
theorem Server.outline_unversioned {server : Server} {opened : List String}
    {declaration : Declaration} (version other : Option String) :
    { server.outline opened version declaration with version := none } =
      { server.outline opened other declaration with version := none } := by
  unfold outline newEntry ClassEntry.withProperties
  cases declaration.isEnum <;> rfl

namespace Survey

open Discovery

variable {server : Server} {declarations : List Declaration} {declaration other : Declaration}

/-! ### Classes are those of the declarations concerned -/

section Clean

variable (clean : (ofControllers server declarations).discovery.clashes = [])

include clean

theorem hasSource_of_settled
    (settled : (ofControllers server declarations).discovery.Settled declaration) :
    (ofControllers server declarations).discovery.types.HasSource
      (QualifiedName.className declaration.name) declaration.name := by
  rcases settled with ⟨source, has, recorded⟩
  by_cases own : source = declaration.name
  · rw [own] at has
    exact has
  · have listed := recorded own
    rw [clean] at listed
    cases listed

theorem hasSource_of_concerns
    (concerned : server.Concerns (declarations.flatMap server.controllerMembers) declaration) :
    (ofControllers server declarations).discovery.types.HasSource
      (QualifiedName.className declaration.name) declaration.name := by
  induction concerned with
  | member among mentioned =>
    exact hasSource_of_settled clean
      ((reads_ofControllers server declarations).settles .empty _ among _ mentioned)
  -- The holder has its class, so what its properties mention was settled when these were filled in.
  | @property holder declaration concerned mentioned ih =>
    rcases ih with ⟨place, entry, found, -, source⟩
    have known := concerned.known
    rw [← source] at known
    rcases (tidy_ofControllers server declarations).answered found with none | settled
    · rcases exists_builtFrom found with ⟨origin, originConcerned, -, built⟩
      have originKnown := originConcerned.known
      rw [← built.sourceName, known] at originKnown
      cases originKnown
      have parallel := built.forall₂_outlineProperty
      rw [none, List.forall₂_nil_right_iff] at parallel
      rw [Server.mentions, parallel] at mentioned
      cases mentioned
    · exact hasSource_of_settled clean (settled holder known declaration mentioned)

/-- Without clashes no two declarations concerned want the same name. -/
theorem name_injective
    (concerned : server.Concerns (declarations.flatMap server.controllerMembers) declaration)
    (otherConcerned : server.Concerns (declarations.flatMap server.controllerMembers) other)
    (sameName : QualifiedName.className declaration.name = QualifiedName.className other.name) :
    declaration = other := by
  have has := hasSource_of_concerns clean concerned
  have otherHas := hasSource_of_concerns clean otherConcerned
  rw [← sameName] at otherHas
  have sameSource := (tidy_ofControllers server declarations).lawful.hasSource_unique has otherHas
  have known := concerned.known
  rw [sameSource, otherConcerned.known] at known
  exact (Option.some.inj known).symm

end Clean

/-- Where the declarations concerned have names of their own, there are no clashes. -/
theorem clashes_eq_nil
    (apart : ∀ declaration other,
      server.Concerns (declarations.flatMap server.controllerMembers) declaration →
        server.Concerns (declarations.flatMap server.controllerMembers) other →
          QualifiedName.className declaration.name = QualifiedName.className other.name →
            declaration = other) :
    (ofControllers server declarations).discovery.clashes = [] := by
  have tidy := tidy_ofControllers server declarations
  refine List.eq_nil_iff_forall_not_mem.mpr ?_
  intro clash recorded
  have genuine := tidy.genuine clash recorded
  rcases genuine.source with ⟨place, entry, found, ownName, source⟩
  rcases tidy.sourced found with ⟨declaration, concerned, firstName, first⟩
  rcases genuine.second with ⟨other, otherConcerned, secondName, second⟩
  refine genuine.different ?_
  have same := apart declaration other concerned otherConcerned
    (firstName.symm.trans (ownName.trans secondName))
  rw [second, ← same, ← first, source]

/-! ### Paths by names -/

theorem exists_holdsName {holder held : ClassId} {name : String}
    (named : (ofControllers server declarations).discovery.types.nameAt? holder = some name)
    (holds : (ofControllers server declarations).discovery.types.HoldsObject holder held) :
    ∃ heldName, (ofControllers server declarations).discovery.types.nameAt? held = some heldName ∧
      server.HoldsName (server.Concerns (declarations.flatMap server.controllerMembers)) name
        heldName := by
  rcases holds with ⟨entry, found, property, among, isObject, refers⟩
  rcases exists_builtFrom found with ⟨declaration, concerned, ownName, built⟩
  rcases exists_of_mem_right built.forall₂_outlineProperty among with
    ⟨declared, isDeclared, propertyNamed⟩
  have shapeNamed := ClassProperty.shape_of_named? propertyNamed
  have referenceNamed := Shape.reference_of_named? shapeNamed
  rw [refers] at referenceNamed
  rcases Option.map_eq_some_iff.mp referenceNamed with ⟨heldName, isNamed, sameReference⟩
  refine ⟨heldName, isNamed, declaration, concerned, ?_, declared, isDeclared, ?_,
    sameReference.symm⟩
  · rw [ClassTable.nameAt?_of_at? found, ownName] at named
    exact Option.some.inj named
  · exact (Shape.kind_of_named? shapeNamed).trans isObject

theorem exists_holdsObject (clean : (ofControllers server declarations).discovery.clashes = [])
    {holder : ClassId} {name heldName : String}
    (named : (ofControllers server declarations).discovery.types.nameAt? holder = some name)
    (holds : server.HoldsName (server.Concerns (declarations.flatMap server.controllerMembers)) name
      heldName) :
    ∃ held, (ofControllers server declarations).discovery.types.nameAt? held = some heldName ∧
      (ofControllers server declarations).discovery.types.HoldsObject holder held := by
  rcases holds with ⟨declaration, concerned, ownName, declared, isDeclared, isObject, refers⟩
  rcases Option.map_eq_some_iff.mp named with ⟨entry, found, entryName⟩
  rcases exists_builtFrom found with ⟨other, otherConcerned, otherName, built⟩
  have same : declaration = other := by
    refine name_injective clean concerned otherConcerned ?_
    rw [ownName, ← entryName, otherName]
  subst same
  rcases exists_of_mem_left built.forall₂_outlineProperty isDeclared with
    ⟨property, among, propertyNamed⟩
  have shapeNamed := ClassProperty.shape_of_named? propertyNamed
  have referenceNamed := Shape.reference_of_named? shapeNamed
  have sameReference : (server.outlineProperty declared).shape.reference = some heldName := refers
  rw [sameReference] at referenceNamed
  cases reference : property.shape.reference with
  | none =>
    rw [reference] at referenceNamed
    cases referenceNamed
  | some held =>
    rw [reference] at referenceNamed
    rcases Option.map_eq_some_iff.mp referenceNamed with ⟨_, isNamed, isHeld⟩
    cases isHeld
    refine ⟨held, isNamed, entry, found, property, among, ?_, reference⟩
    exact (Shape.kind_of_named? shapeNamed).symm.trans isObject

/-- Clients may send the classes to whose names paths lead from the bodies of the requests. -/
theorem isWritable_iff_namePath (clean : (ofControllers server declarations).discovery.clashes = [])
    {place : ClassId} {name : String}
    (named : (ofControllers server declarations).discovery.types.nameAt? place = some name) :
    (ofControllers server declarations).discovery.types.IsWritable place ↔
      ∃ shape ∈ bodyShapes (declarations.filterMap server.outlineController?),
        ∃ start, shape.Sends start ∧ ReflTransGen (server.HoldsName (server.Concerns
          (declarations.flatMap server.controllerMembers))) start name := by
  have parallel := forall₂_bodyShapes (named_ofControllers server declarations)
  refine (isWritable_iff_path server declarations place).trans ?_
  constructor
  · rintro ⟨shape, isSent, start, sends, path⟩
    rcases exists_of_mem_left parallel isSent with ⟨outlined, isOutlined, shapeNamed⟩
    rcases Shape.exists_sends_name shapeNamed sends with ⟨startName, startNamed, nameSent⟩
    rcases exists_path_of_simulation
      (fun place name => (ofControllers server declarations).discovery.types.nameAt? place =
        some name)
      (fun _ _ _ => exists_holdsName) startNamed path with ⟨lastName, lastNamed, namePath⟩
    rw [named] at lastNamed
    rw [Option.some.inj lastNamed]
    exact ⟨outlined, isOutlined, startName, nameSent, namePath⟩
  · rintro ⟨outlined, isOutlined, startName, nameSent, path⟩
    rcases exists_of_mem_right parallel isOutlined with ⟨shape, isSent, shapeNamed⟩
    rcases Shape.exists_sends_reference shapeNamed nameSent with ⟨start, startNamed, sends⟩
    rcases exists_path_of_simulation
      (fun name place => (ofControllers server declarations).discovery.types.nameAt? place =
        some name)
      (fun _ _ _ => exists_holdsObject clean) startNamed path with ⟨last, lastNamed, placePath⟩
    have lawful := (tidy_ofControllers server declarations).lawful
    rw [lawful.place_unique named lastNamed]
    exact ⟨shape, isSent, start, sends, placePath⟩

/-! ### Two orders -/

section Orders

variable {first second : List Declaration}

theorem concerns_of_perm (perm : first.Perm second) :
    server.Concerns (first.flatMap server.controllerMembers) =
      server.Concerns (second.flatMap server.controllerMembers) := by
  have same := perm.flatMap_right server.controllerMembers
  funext declaration
  refine propext ⟨?_, ?_⟩
  · intro concerned
    exact concerned.of_subset same.subset
  · intro concerned
    exact concerned.of_subset same.symm.subset

theorem mem_bodyShapes_of_perm (perm : first.Perm second) {shape : Shape String} :
    shape ∈ bodyShapes (first.filterMap server.outlineController?) ↔
      shape ∈ bodyShapes (second.filterMap server.outlineController?) :=
  ((perm.filterMap server.outlineController?).flatMap_right _).mem_iff

theorem clashes_of_perm (perm : first.Perm second)
    (clean : (ofControllers server first).discovery.clashes = []) :
    (ofControllers server second).discovery.clashes = [] := by
  refine clashes_eq_nil ?_
  rw [← concerns_of_perm perm]
  intro declaration other concerned otherConcerned sameName
  exact name_injective clean concerned otherConcerned sameName

theorem mem_names_iff (clean : (ofControllers server declarations).discovery.clashes = [])
    {name : String} :
    name ∈ (ofControllers server declarations).discovery.types.classes.map (·.name) ↔
      ∃ declaration, server.Concerns (declarations.flatMap server.controllerMembers) declaration ∧
        QualifiedName.className declaration.name = name := by
  rw [List.mem_map]
  constructor
  · rintro ⟨entry, present, rfl⟩
    rcases ClassTable.mem_classes_iff.mp present with ⟨place, found⟩
    rcases exists_builtFrom found with ⟨declaration, concerned, ownName, -⟩
    exact ⟨declaration, concerned, ownName.symm⟩
  · rintro ⟨declaration, concerned, rfl⟩
    rcases hasSource_of_concerns clean concerned with ⟨place, entry, found, ownName, -⟩
    exact ⟨entry, ClassTable.mem_classes_iff.mpr ⟨place, found⟩, ownName⟩

theorem isWritable_of_perm (perm : first.Perm second)
    (clean : (ofControllers server first).discovery.clashes = []) {place other : ClassId}
    {name : String}
    (named : (ofControllers server first).discovery.types.nameAt? place = some name)
    (otherNamed : (ofControllers server second).discovery.types.nameAt? other = some name) :
    (ofControllers server first).discovery.types.IsWritable place ↔
      (ofControllers server second).discovery.types.IsWritable other := by
  rw [isWritable_iff_namePath clean named,
    isWritable_iff_namePath (clashes_of_perm perm clean) otherNamed, concerns_of_perm perm]
  simp only [mem_bodyShapes_of_perm perm]

/-- The classes of a name are built from the same declaration, and locked if both are. -/
theorem classes_of_perm (perm : first.Perm second)
    (clean : (ofControllers server first).discovery.clashes = []) {place otherPlace : ClassId}
    {entry otherEntry : ClassEntry ClassId}
    (found : (ofControllers server first).discovery.types.at? place = some entry)
    (otherFound : (ofControllers server second).discovery.types.at? otherPlace = some otherEntry)
    (sameName : entry.name = otherEntry.name) :
    ∃ named otherNamed,
      entry.named? (ofControllers server first).discovery.types.nameAt? = some named ∧
        otherEntry.named? (ofControllers server second).discovery.types.nameAt? =
          some otherNamed ∧
        { named with version := none } = { otherNamed with version := none } := by
  rcases exists_builtFrom found with ⟨declaration, concerned, ownName, version, outlined⟩
  rcases exists_builtFrom otherFound with
    ⟨other, otherConcerned, otherName, otherVersion, otherOutlined⟩
  have same : declaration = other := by
    rw [← concerns_of_perm perm] at otherConcerned
    refine name_injective clean concerned otherConcerned ?_
    rw [← ownName, sameName, otherName]
  have sameLock : entry.isReadOnly = otherEntry.isReadOnly := by
    have writable := isWritable_of_perm perm clean (ClassTable.nameAt?_of_at? found)
      (by rw [sameName]; exact ClassTable.nameAt?_of_at? otherFound)
    rw [ClassTable.isWritable_iff_of_at? found, ClassTable.isWritable_iff_of_at? otherFound]
      at writable
    rw [Bool.eq_iff_iff, ← not_iff_not, Bool.not_eq_true, Bool.not_eq_true]
    exact writable
  refine ⟨_, _, outlined, otherOutlined, ?_⟩
  have sameOutline : { server.outline [] version other with version := none } =
      { server.outline [] otherVersion other with version := none } :=
    Server.outline_unversioned version otherVersion
  rw [same, sameLock]
  exact congrArg (fun outlined : ClassEntry String =>
    { outlined with isReadOnly := otherEntry.isReadOnly }) sameOutline

end Orders

theorem nameClashes_model (survey : Survey) :
    survey.model.nameClashes = survey.discovery.clashes :=
  rfl

/-- A survey depends on the order in which the controllers are read only where clashes do. If there
are none in one order, there are none in any other one; the classes have the same names and are the
same by names, but for the version of the action that was first to ask for them; and the controllers
are those of the declarations in either order. -/
theorem ofControllers_perm (server : Server) {first second : List Declaration}
    (perm : first.Perm second) (clean : (ofControllers server first).model.nameClashes = []) :
    let model := (ofControllers server first).model
    let otherModel := (ofControllers server second).model
    otherModel.nameClashes = [] ∧ model.types.SameByName otherModel.types ∧
      model.controllers.mapM (Controller.named? model.types.nameAt?) =
        some (first.filterMap server.outlineController?) ∧
      otherModel.controllers.mapM (Controller.named? otherModel.types.nameAt?) =
        some (second.filterMap server.outlineController?) := by
  intro model otherModel
  have otherClean := clashes_of_perm perm clean
  have lawful := (tidy_ofControllers server first).lawful
  have otherLawful := (tidy_ofControllers server second).lawful
  refine ⟨otherClean, ⟨?_, ?_⟩, named_ofControllers server first,
    named_ofControllers server second⟩
  · refine (List.perm_ext_iff_of_nodup lawful.nodup_names otherLawful.nodup_names).mpr ?_
    intro name
    refine (mem_names_iff clean).trans (Iff.trans ?_ (mem_names_iff otherClean).symm)
    rw [concerns_of_perm perm]
  · intro name entry otherEntry found otherFound
    have sameName := (lawful.name_of_find? found).trans (otherLawful.name_of_find? otherFound).symm
    rcases ClassTable.exists_at?_of_find? found with ⟨place, atPlace⟩
    rcases ClassTable.exists_at?_of_find? otherFound with ⟨otherPlace, atOther⟩
    exact classes_of_perm perm clean atPlace atOther sameName

/-! ### An example -/

/-- A class whose objects hold a client. -/
def orderClass : Declaration where
  name := "Order"
  properties := [{ name := "Client", type := .named "Client" [] }]

/-- A class whose objects hold orders. -/
def clientClass : Declaration where
  name := "Client"
  properties := [{ name := "Orders", type := .array (.named "Order" []) }]

/-- A server with two classes that mention each other. -/
def ordersServer : Server where
  catalog := Catalog.empty.insert orderClass |>.insert clientClass
  convention := .mvc

/-- A controller that is sent an order. -/
def ordersController : Declaration where
  name := "OrdersController"
  methods := [{ name := "Put", attributes := [.httpPut none]
                parameters := [{ name := "order", type := .named "Order" [] }] }]

/-- A controller that returns a client. -/
def clientsController : Declaration where
  name := "ClientsController"
  methods := [{ name := "Get", attributes := [.httpGet none], returnType := .named "Client" [] }]

theorem concerns_ordersServer {declaration : Declaration}
    (concerned : ordersServer.Concerns
      ([ordersController, clientsController].flatMap ordersServer.controllerMembers) declaration) :
    declaration = orderClass ∨ declaration = clientClass := by
  have members : [ordersController, clientsController].flatMap ordersServer.controllerMembers =
      [⟨false, .named "Order" []⟩, ⟨false, .named "Client" []⟩] := rfl
  rw [members] at concerned
  induction concerned with
  | member among mentioned =>
    rcases List.mem_pair.mp among with rfl | rfl
    · have order : ordersServer.memberMentions ⟨false, .named "Order" []⟩ =
          [.described orderClass] := rfl
      rw [order, List.mem_singleton, Mention.described.injEq] at mentioned
      exact Or.inl mentioned
    · have client : ordersServer.memberMentions ⟨false, .named "Client" []⟩ =
          [.described clientClass] := rfl
      rw [client, List.mem_singleton, Mention.described.injEq] at mentioned
      exact Or.inr mentioned
  | property _ mentioned ih =>
    rcases ih with rfl | rfl
    · have order : ordersServer.mentions orderClass = [.described clientClass] := rfl
      rw [order, List.mem_singleton, Mention.described.injEq] at mentioned
      exact Or.inr mentioned
    · have client : ordersServer.mentions clientClass = [.described orderClass] := rfl
      rw [client, List.mem_singleton, Mention.described.injEq] at mentioned
      exact Or.inl mentioned

theorem ofControllers_perm_orders :
    [ordersController, clientsController].Perm [clientsController, ordersController] ∧
      (ofControllers ordersServer [ordersController, clientsController]).model.nameClashes = [] ∧
      (ofControllers ordersServer [clientsController, ordersController]).model.nameClashes = [] ∧
      (ofControllers ordersServer [ordersController, clientsController]).model.types.SameByName
        (ofControllers ordersServer [clientsController, ordersController]).model.types := by
  have perm : [ordersController, clientsController].Perm [clientsController, ordersController] :=
    .swap _ _ _
  have clean :
      (ofControllers ordersServer [ordersController, clientsController]).model.nameClashes = [] := by
    rw [nameClashes_model]
    refine clashes_eq_nil ?_
    intro declaration other concerned otherConcerned sameName
    have apart : QualifiedName.className "Order" ≠ QualifiedName.className "Client" := by decide
    rcases concerns_ordersServer concerned with rfl | rfl <;>
      rcases concerns_ordersServer otherConcerned with rfl | rfl
    · rfl
    · exact absurd sameName apart
    · exact absurd sameName.symm apart
    · rfl
  have same := ofControllers_perm ordersServer perm clean
  exact ⟨perm, clean, same.1, same.2.1⟩

end Survey

end ClientGen
