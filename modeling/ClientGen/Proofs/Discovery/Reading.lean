import ClientGen.Discovery.Survey
import ClientGen.Model.Validate
import ClientGen.Proofs.Discovery.Continuing
import ClientGen.Proofs.Discovery.Tidy
import ClientGen.Proofs.Model.Services
import Mathlib.Data.List.Induction

/-!
# Reading controllers

Reading a controller resolves the types of the parameters and the payloads of its actions, in a
settled order, and unlocks what is sent in bodies. `Discovery.Reads` is the record of it: the members
that were resolved, the shapes that came out, and those among them that are sent. Which members a
controller has depends on the server alone.
-/

namespace ClientGen

/-- A type expression at the place where it is used. -/
structure Member where
  nullable : Bool
  type : TypeExpr

namespace Server

variable (server : Server)

/-- Whether a method is read as an action. -/
def isRead (method : Method) : Bool :=
  (method.isPublic && !method.isSpecial && server.convention.isAction method) &&
    (endpoint? method).isSome

/-- The members of a method: its parameters, and what it returns. -/
def methodMembers (method : Method) : List Member :=
  method.parameters.map (fun parameter => ⟨parameter.nullable, parameter.type⟩) ++
    (server.payloadType? ((server.convention.returnOverride? method).getD
      method.returnType)).toList.map fun type => ⟨false, type⟩

/-- The members of those among some methods that are read. -/
def actionMembers (methods : List (Declaration × Method)) : List Member :=
  methods.flatMap fun declared =>
    if server.isRead declared.2 then server.methodMembers declared.2 else []

/-- The members of a controller. -/
def controllerMembers (declaration : Declaration) : List Member :=
  server.actionMembers (server.catalog.allMethods declaration)

/-- What a member mentions. -/
def memberMentions (member : Member) : List Mention :=
  (server.catalog.meaning member.type).mentions

/-- Which declarations some members concern: those that they mention, and those that the properties
of the classes for these mention in turn. -/
inductive Concerns (members : List Member) : Declaration → Prop
  | member {member : Member} {declaration : Declaration} (among : member ∈ members)
    (mentioned : .described declaration ∈ server.memberMentions member) :
    Concerns members declaration
  | property {holder declaration : Declaration} (concerned : Concerns members holder)
    (mentioned : .described declaration ∈ server.mentions holder) : Concerns members declaration

variable {server} {members others : List Member} {declaration : Declaration}

theorem Concerns.known (concerned : server.Concerns members declaration) :
    server.catalog.find? declaration.name = some declaration := by
  cases concerned with
  | member among mentioned =>
    exact Meaning.known_of_mem_mentions _ (server.catalog.known_meaningAt .top _) mentioned
  | property _ mentioned => exact known_of_mem_mentions mentioned

theorem Concerns.of_subset (concerned : server.Concerns members declaration)
    (included : members ⊆ others) : server.Concerns others declaration := by
  induction concerned with
  | member among mentioned => exact .member (included among) mentioned
  | property _ mentioned ih => exact .property ih mentioned

end Server

namespace Discovery

/-- Whether reading some members leads from one discovery to another one, with `shapes` as the
answers, while `sent` are unlocked. -/
inductive Reads (server : Server) :
    (members : List Member) → (shapes sent : List (Shape ClassId)) →
      Discovery → Discovery → Prop
  | nothing (discovery : Discovery) : Reads server [] [] [] discovery discovery
  | member {members shapes sent discovery later} (version : Option String) (nullable : Bool)
    (type : TypeExpr)
    (others : Reads server members shapes sent
      (discovery.resolve server [] version nullable type).2 later) :
    Reads server (⟨nullable, type⟩ :: members)
      ((discovery.resolve server [] version nullable type).1 :: shapes) sent discovery later
  | sent {members shapes sent discovery later} {shape : Shape ClassId} {result : Shape String}
    (named : shape.named? discovery.types.nameAt? = some result)
    (others : Reads server members shapes sent (discovery.makeWritable shape) later) :
    Reads server members shapes (shape :: sent) discovery later

namespace Reads

variable {server : Server} {members others : List Member}
  {shapes otherShapes sent otherSent : List (Shape ClassId)}
  {discovery earlier middle later : Discovery}

theorem append (first : Reads server members shapes sent earlier middle)
    (second : Reads server others otherShapes otherSent middle later) :
    Reads server (members ++ others) (shapes ++ otherShapes) (sent ++ otherSent) earlier later := by
  induction first with
  | nothing => exact second
  | member version nullable type _ ih => exact .member version nullable type (ih second)
  | sent named _ ih => exact .sent named (ih second)

/-- Reading is a run of calls by somebody who is not reading properties. -/
theorem exists_run (reads : Reads server members shapes sent earlier later) :
    ∃ calls : List Call, (∀ call ∈ calls, call.opened = []) ∧ earlier.run server calls = later := by
  induction reads with
  | nothing => exact ⟨[], by simp, rfl⟩
  | member version nullable type _ ih =>
    rcases ih with ⟨calls, outermost, run⟩
    exact ⟨.resolve [] version nullable type :: calls,
      List.forall_mem_cons.mpr ⟨rfl, outermost⟩, run⟩
  | @sent _ _ _ _ _ shape _ _ _ ih =>
    rcases ih with ⟨calls, outermost, run⟩
    exact ⟨.makeWritable shape :: calls, List.forall_mem_cons.mpr ⟨rfl, outermost⟩, run⟩

theorem sound (reads : Reads server members shapes sent earlier later)
    (sound : Sound server (· = []) earlier) : Sound server (· = []) later := by
  rcases reads.exists_run with ⟨calls, outermost, rfl⟩
  exact sound.run outermost

theorem nameAt? (reads : Reads server members shapes sent earlier later)
    (lawful : earlier.types.Lawful) (place : ClassId) (name : String)
    (named : earlier.types.nameAt? place = some name) : later.types.nameAt? place = some name := by
  rcases reads.exists_run with ⟨calls, -, rfl⟩
  exact nameAt?_run lawful named

/-- The answers are the shapes that the catalog gives to the members. -/
theorem named (reads : Reads server members shapes sent earlier later)
    (sound : Sound server (· = []) earlier) :
    List.Forall₂ (fun member shape => shape.named? later.types.nameAt? =
      some (server.catalog.memberShape member.nullable member.type)) members shapes := by
  induction reads with
  | nothing => exact .nil
  | member version nullable type others ih =>
    have placed := placed_resolve server [] version nullable type sound.lawful
    have lawful := placed.grown.lawful sound.lawful
    exact .cons (Shape.named?_mono (others.nameAt? lawful) _ placed.named)
      (ih (sound.resolve rfl))
  | sent _ _ ih => exact ih (sound.makeWritable _)

theorem settled {declaration : Declaration}
    (reads : Reads server members shapes sent earlier later) (lawful : earlier.types.Lawful)
    (settled : earlier.Settled declaration) : later.Settled declaration := by
  rcases reads.exists_run with ⟨calls, -, rfl⟩
  exact (continues_run lawful calls).settled settled

/-- Whatever the members mention is settled when they have been read. -/
theorem settles (reads : Reads server members shapes sent earlier later)
    (lawful : earlier.types.Lawful) :
    ∀ member ∈ members, ∀ declaration, .described declaration ∈ server.memberMentions member →
      later.Settled declaration := by
  induction reads with
  | nothing =>
    intro member among
    cases among
  | member version nullable type others ih =>
    have follows : Follows server version _ [] (server.memberMentions ⟨nullable, type⟩) _ _ :=
      follows_resolve lawful [] version nullable type
    have lawfulThen := (grows_resolve server [] version nullable type lawful).lawful lawful
    intro member among declaration mentioned
    rcases List.mem_cons.mp among with rfl | later
    · exact others.settled lawfulThen (follows.settles lawful declaration mentioned)
    · exact ih lawfulThen member later declaration mentioned
  | @sent _ _ _ discovery _ shape _ _ _ ih =>
    exact ih ((sameButLocks_makeWritable shape discovery).lawful lawful)

/-- Reading keeps a discovery tidy, among declarations that the members concern. -/
theorem tidy {all : List Member} (reads : Reads server members shapes sent earlier later)
    (tidy : Tidy server (server.Concerns all) earlier) (included : members ⊆ all) :
    Tidy server (server.Concerns all) later := by
  induction reads with
  | nothing => exact tidy
  | member version nullable type _ ih =>
    rcases List.cons_subset.mp included with ⟨first, others⟩
    have follows : Follows server version _ [] (server.memberMentions ⟨nullable, type⟩) _ _ :=
      follows_resolve tidy.lawful [] version nullable type
    have steps : Relation.ReflTransGen (Step server (server.Concerns all)) _ _ :=
      follows.steps tidy.lawful (fun _ concerned _ mentioned => .property concerned mentioned)
        (fun _ mentioned => .member first mentioned)
    exact ih (tidy.steps (fun _ concerned => concerned.known) steps) others
  | sent _ _ ih => exact ih (tidy.makeWritable _) included

end Reads

end Discovery

/-! ### Actions -/

namespace Server

open Discovery

variable (server : Server) (version : Option String) (bindings : List (String × Bool))
  (doc : Option MemberDoc) {context : ControllerContext} {discovery : Discovery}

theorem reads_readParameter (lawful : discovery.types.Lawful) (parameter : Parameter) :
    Reads server [⟨parameter.nullable, parameter.type⟩]
      [(server.readParameter version bindings doc parameter discovery).1.shape]
      (sentShapes [(server.readParameter version bindings doc parameter discovery).1]) discovery
      (server.readParameter version bindings doc parameter discovery).2 := by
  have placed := placed_resolve server [] version parameter.nullable parameter.type lawful
  simp only [readParameter]
  split
  · next inBody =>
    simp only [sentShapes, inBody, decide_true, List.filter_cons_of_pos, List.filter_nil,
      List.map_cons, List.map_nil]
    exact .member version _ _ (.sent placed.named (.nothing _))
  · next elsewhere =>
    simp only [sentShapes, elsewhere, decide_false, Bool.false_eq_true, not_false_eq_true,
      List.filter_cons_of_neg, List.filter_nil, List.map_nil]
    exact .member version _ _ (.nothing _)

theorem reads_readParameters (sound : Discovery.Sound server (· = []) discovery)
    (parameters : List Parameter) :
    Reads server (parameters.map fun parameter => ⟨parameter.nullable, parameter.type⟩)
      ((server.readParameters version bindings doc parameters discovery).1.map (·.shape))
      (sentShapes (server.readParameters version bindings doc parameters discovery).1) discovery
      (server.readParameters version bindings doc parameters discovery).2 := by
  induction parameters generalizing discovery with
  | nil => exact .nothing discovery
  | cons parameter parameters ih =>
    have first := reads_readParameter server version bindings doc sound.lawful parameter
    have all := first.append (ih (first.sound sound))
    rw [← sentShapes_cons] at all
    exact all

theorem reads_readPayload (discovery : Discovery) (method : Method) :
    Reads server
      ((server.payloadType? ((server.convention.returnOverride? method).getD
        method.returnType)).toList.map fun type => ⟨false, type⟩)
      ((server.readPayload version doc method discovery).1.toList.map (·.shape)) [] discovery
      (server.readPayload version doc method discovery).2 := by
  unfold readPayload
  simp only
  split
  · next nothing =>
    rw [nothing]
    exact .nothing discovery
  · next type found =>
    rw [found]
    exact .member version false type (.nothing _)

theorem reads_readAction? (sound : Discovery.Sound server (· = []) discovery) {method : Method}
    {declaring : Declaration} {action : Action ClassId} {later : Discovery}
    (read : server.readAction? context declaring method discovery = some (action, later)) :
    Reads server (server.methodMembers method) action.shapes (sentShapes action.parameters)
      discovery later := by
  simp only [readAction?, Option.bind_eq_bind, Option.bind_eq_some_iff, Option.some.injEq,
    Prod.mk.injEq] at read
  rcases read with ⟨⟨verb, fragment⟩, -, rfl, rfl⟩
  rw [← List.append_nil (sentShapes _)]
  exact .append (reads_readParameters server _ _ _ sound method.parameters)
    (reads_readPayload server _ _ _ method)

theorem isSome_readAction? {method : Method} {declaring : Declaration} :
    (server.readAction? context declaring method discovery).isSome =
      (endpoint? method).isSome := by
  unfold readAction?
  cases endpoint? method <;> rfl

end Server

/-! ### Controllers -/

namespace Survey

open Discovery

variable {server : Server} {discovery : Discovery}

theorem readActions_of_read {context : ControllerContext} {declaring : Declaration}
    {method : Method} (methods : List (Declaration × Method))
    (isRead : server.isRead method = true) :
    ∃ action later, server.readAction? context declaring method discovery = some (action, later) ∧
      readActions server context ((declaring, method) :: methods) discovery =
        (action :: (readActions server context methods later).1,
          (readActions server context methods later).2) := by
  have sameAction : (server.readAction? context declaring method discovery).isSome =
      (Server.endpoint? method).isSome := server.isSome_readAction?
  rw [Server.isRead, Bool.and_eq_true, ← sameAction, Option.isSome_iff_exists] at isRead
  rcases isRead with ⟨eligible, ⟨action, later⟩, read⟩
  refine ⟨action, later, read, ?_⟩
  rw [readActions]
  simp only [if_pos eligible, read]

theorem readActions_of_not_read {context : ControllerContext} {declaring : Declaration}
    {method : Method} (methods : List (Declaration × Method))
    (isNotRead : ¬server.isRead method = true) :
    readActions server context ((declaring, method) :: methods) discovery =
      readActions server context methods discovery := by
  have sameAction : (server.readAction? context declaring method discovery).isSome =
      (Server.endpoint? method).isSome := server.isSome_readAction?
  rw [readActions]
  simp only
  split
  · rfl
  · next action later read =>
    split at read
    · next eligible =>
      rw [Server.isRead, eligible, ← sameAction, read] at isNotRead
      exact absurd rfl isNotRead
    · cases read

theorem reads_readActions (context : ControllerContext)
    (sound : Discovery.Sound server (· = []) discovery)
    (methods : List (Declaration × Method)) :
    Reads server (server.actionMembers methods)
      ((readActions server context methods discovery).1.flatMap Action.shapes)
      ((readActions server context methods discovery).1.flatMap fun action =>
        sentShapes action.parameters)
      discovery (readActions server context methods discovery).2 := by
  induction methods generalizing discovery with
  | nil => exact .nothing discovery
  | cons first methods ih =>
    rcases first with ⟨declaring, method⟩
    rw [Server.actionMembers, List.flatMap_cons]
    by_cases isRead : server.isRead method = true
    · rcases readActions_of_read methods isRead with ⟨action, later, read, whole⟩
      have first := server.reads_readAction? sound read
      rw [whole, if_pos isRead]
      exact first.append (ih (first.sound sound))
    · rw [readActions_of_not_read methods isRead, if_neg isRead, List.nil_append]
      exact ih sound

/-! ### Surveys -/

/-- The shapes of all actions, in their order. -/
def shapes (survey : Survey) : List (Shape ClassId) :=
  survey.controllers.flatMap fun controller => controller.actions.flatMap Action.shapes

/-- The shapes that are sent in the bodies of requests. -/
def sent (survey : Survey) : List (Shape ClassId) :=
  bodyShapes survey.controllers

theorem ofControllers_concat (server : Server) (declarations : List Declaration)
    (declaration : Declaration) :
    ofControllers server (declarations ++ [declaration]) =
      ((ofControllers server declarations).addController server declaration).2 :=
  List.foldl_concat _ _ _ _

theorem reads_addController {survey : Survey} {members : List Member} {start : Discovery}
    (sound : Discovery.Sound server (· = []) survey.discovery)
    (before : Reads server members survey.shapes survey.sent start survey.discovery)
    (declaration : Declaration) :
    let later := (survey.addController server declaration).2
    Reads server (members ++ server.controllerMembers declaration) later.shapes later.sent start
      later.discovery := by
  have read := before.append (reads_readActions (contextOf server declaration) sound
    (server.catalog.allMethods declaration))
  simp only [addController]
  split
  · next none =>
    rw [List.isEmpty_iff.mp none, List.flatMap_nil, List.flatMap_nil, List.append_nil,
      List.append_nil] at read
    exact read
  · simp only [shapes, sent, bodyShapes, List.flatMap_append, List.flatMap_singleton]
    exact read

/-- A survey comes from reading the members of its controllers one after the other. -/
theorem reads_ofControllers (server : Server) (declarations : List Declaration) :
    let survey := ofControllers server declarations
    Reads server (declarations.flatMap server.controllerMembers) survey.shapes survey.sent {}
      survey.discovery := by
  induction declarations using List.reverseRecOn with
  | nil => exact .nothing {}
  | append_singleton declarations declaration ih =>
    rw [ofControllers_concat, List.flatMap_append, List.flatMap_singleton]
    exact reads_addController (ih.sound .empty) ih declaration

theorem sound_discovery_ofControllers (server : Server) (declarations : List Declaration) :
    Discovery.Sound server (· = []) (ofControllers server declarations).discovery :=
  (reads_ofControllers server declarations).sound .empty

theorem tidy_ofControllers (server : Server) (declarations : List Declaration) :
    Tidy server (server.Concerns (declarations.flatMap server.controllerMembers))
      (ofControllers server declarations).discovery :=
  (reads_ofControllers server declarations).tidy .empty (List.Subset.refl _)

end Survey

end ClientGen
