import ClientGen.Proofs.Discovery.Growth

/-!
# Entering declarations

`Discovery.enter` leaves behind only classes that are as outlined, from every discovery that is
`Discovery.Ready` for it. Two things have to be kept up while it goes deeper. The bound has to cover
the names that are still free; every step deeper uses up one of them, because the class is
registered before its properties are read. And of the declarations that are being read, all but
those that somebody else had opened before have their names registered; so a declaration whose name
is free is not among them, and a class is only left without properties for somebody else's sake.
-/

namespace ClientGen

namespace Discovery

variable {server : Server} {opened chain : List String} {bound : Nat}
  {discovery earlier later : Discovery} {declaration : Declaration}

/-! ### Properties -/

section Properties

variable {ready : Discovery → Prop} {enter : Entering}

theorem shape_orNull_false (meaning : Meaning) : (meaning.orNull false).shape = meaning.shape := by
  cases meaning
  rfl

theorem shapes_meanings (server : Server) (types : List TypeExpr) :
    Meaning.shapes (server.catalog.meanings types) =
      types.map (server.catalog.memberShape false) := by
  induction types with
  | nil => simp [Catalog.meanings, Meaning.shapes]
  | cons type types ih =>
    simp [Catalog.meanings, Meaning.shapes, ih, Catalog.memberShape, Catalog.meaning,
      shape_orNull_false]

theorem named?_classProperty {name? : ClassId → Option String} {declaring : Declaration}
    {property : Property} {shape : Shape ClassId} {result : Shape String}
    (named : shape.named? name? = some result) :
    (server.classProperty declaring property shape).named? name? =
      some (server.classProperty declaring property result) := by
  simp [ClassProperty.named?, Server.classProperty, named]

/-- A property is placed as outlined. -/
theorem placed_placeProperty (sound : Entering.Sound server opened ready enter)
    (declaring : Declaration) (property : Property) (isReady : ready discovery) :
    Extends server opened discovery (placeProperty server enter declaring property discovery).2 ∧
      (placeProperty server enter declaring property discovery).1.named?
          (placeProperty server enter declaring property discovery).2.types.nameAt? =
        some (server.outlineProperty (declaring, property)) := by
  have known : ((server.catalog.meaning property.type).orNull property.nullable).Known
      server.catalog :=
    Meaning.known_orNull _ (Catalog.known_meaningAt _ .top property.type)
  have placed := Meaning.placed_place sound _ discovery known isReady
  have sameKind := Shape.kind_of_named? placed.named
  have outlined : server.catalog.memberShape property.nullable property.type =
      ((server.catalog.meaning property.type).orNull property.nullable).shape := rfl
  simp only [placeProperty, Server.outlineProperty, Server.propertyShape, outlined, sameKind]
  split
  · have alternatives := Meaning.allPlaced_placeAll sound _ _
      (Catalog.allKnown_meanings _ (server.convention.unionTypes property))
      (sound.keeps placed.grown isReady)
    refine ⟨placed.grown.trans alternatives.grown, named?_classProperty ?_⟩
    rw [← shapes_meanings]
    exact Shape.named?_union (Shape.named?_mono (fun _ _ => alternatives.grown.nameAt?) _
      placed.named) alternatives.named
  · exact ⟨placed.grown, named?_classProperty placed.named⟩

/-- The properties of a class are placed as outlined, one for one and in order. -/
theorem placed_placeProperties (sound : Entering.Sound server opened ready enter)
    (declared : List (Declaration × Property)) (isReady : ready discovery) :
    Extends server opened discovery (placeProperties server enter declared discovery).2 ∧
      (placeProperties server enter declared discovery).1.mapM (ClassProperty.named?
          (placeProperties server enter declared discovery).2.types.nameAt?) =
        some (declared.map server.outlineProperty) := by
  induction declared generalizing discovery with
  | nil => exact ⟨.refl discovery, rfl⟩
  | cons first others ih =>
    rcases first with ⟨declaring, property⟩
    rcases placed_placeProperty sound declaring property isReady with ⟨grown, named⟩
    rcases ih (sound.keeps grown isReady) with ⟨laterGrown, othersNamed⟩
    refine ⟨grown.trans laterGrown, ClassProperty.mapM_named?_cons.mpr ?_⟩
    exact ⟨_, ClassProperty.named?_mono (fun _ _ => laterGrown.nameAt?) named, _, othersNamed, rfl⟩

end Properties

/-! ### What entering needs -/

/-- Whether declarations may be entered while those of a chain are being read. -/
structure Ready (server : Server) (opened : List String) (bound : Nat) (chain : List String)
    (discovery : Discovery) : Prop where
  lawful : discovery.types.Lawful
  room : discovery.remaining server ≤ bound
  registered : ∀ name ∈ chain, name ∈ opened ∨
    (discovery.types.indexOf? (QualifiedName.className name)).isSome

theorem isSome_indexOf?_of_extends (grown : Extends server opened earlier later)
    (lawful : earlier.types.Lawful) {name : String}
    (registered : (earlier.types.indexOf? name).isSome) :
    (later.types.indexOf? name).isSome := by
  rcases Option.isSome_iff_exists.mp registered with ⟨place, found⟩
  have named := grown.nameAt? (lawful.nameAt?_of_indexOf? found)
  rw [(grown.lawful lawful).indexOf?_of_nameAt? named]
  rfl

theorem remaining_le (keeps : ∀ name, (earlier.types.indexOf? name).isSome →
    (later.types.indexOf? name).isSome) : later.remaining server ≤ earlier.remaining server := by
  simp only [remaining, ← List.countP_eq_length_filter]
  apply List.countP_mono_left
  intro name _ free
  rw [Option.isNone_iff_eq_none, ← Option.not_isSome_iff_eq_none] at free ⊢
  intro registered
  exact free (keeps name registered)

/-- Whoever registers a free name of the server leaves fewer of them. -/
theorem remaining_lt (keeps : ∀ name, (earlier.types.indexOf? name).isSome →
    (later.types.indexOf? name).isSome) {name : String} (among : name ∈ server.classNames)
    (fresh : earlier.types.indexOf? name = none) (taken : (later.types.indexOf? name).isSome) :
    later.remaining server < earlier.remaining server := by
  have stillFree {other : String} (free : (later.types.indexOf? other).isNone) :
      (earlier.types.indexOf? other).isNone := by
    rw [Option.isNone_iff_eq_none, ← Option.not_isSome_iff_eq_none] at free ⊢
    intro registered
    exact free (keeps other registered)
  calc later.remaining server
      = ((server.classNames.filter fun name => (earlier.types.indexOf? name).isNone).filter
          fun name => (later.types.indexOf? name).isNone).length := by
        rw [remaining, List.filter_filter]
        congr 1
        apply List.filter_congr
        intro other _
        rw [Bool.eq_iff_iff, Bool.and_eq_true]
        constructor
        · intro free
          exact ⟨free, stillFree free⟩
        · intro both
          exact both.1
    _ < earlier.remaining server := by
        rw [remaining, List.length_filter_lt_length_iff_exists]
        rcases Option.isSome_iff_exists.mp taken with ⟨place, found⟩
        exact ⟨name, by simp [among, fresh], by simp [found]⟩

theorem Ready.of_extends (ready : Ready server opened bound chain earlier)
    (grown : Extends server opened earlier later) : Ready server opened bound chain later where
  lawful := grown.lawful ready.lawful
  room := Nat.le_trans
    (remaining_le fun _ => isSome_indexOf?_of_extends grown ready.lawful) ready.room
  registered := by
    intro name reading
    rcases ready.registered name reading with among | registered
    · exact Or.inl among
    · exact Or.inr (isSome_indexOf?_of_extends grown ready.lawful registered)

end Discovery

namespace Server

variable {server : Server} {declaration : Declaration} {version : Option String}

theorem mem_classNames (known : server.catalog.find? declaration.name = some declaration) :
    QualifiedName.className declaration.name ∈ server.classNames := by
  rw [classNames, List.mem_eraseDups, List.mem_map]
  exact ⟨declaration, Catalog.mem_of_find? known, rfl⟩

@[simp]
theorem name_newEntry {ρ : Type} :
    (server.newEntry version declaration : ClassEntry ρ).name =
      QualifiedName.className declaration.name := by
  simp only [newEntry, apply_ite ClassEntry.name, ite_self]

@[simp]
theorem name_outline {opened : List String} :
    (server.outline opened version declaration).name =
      QualifiedName.className declaration.name := by
  rw [outline, ClassTable.name_withProperties, name_newEntry]

/-- A new class refers to no other. -/
theorem named?_newEntry {name? : ClassId → Option String} :
    (server.newEntry version declaration).named? name? =
      some (server.newEntry version declaration) := by
  unfold newEntry
  split <;> simp [ClassEntry.named?, ClassBody.named?]

theorem named?_newEntry_withProperties {name? : ClassId → Option String}
    {properties : List (ClassProperty ClassId)} {results : List (ClassProperty String)}
    (named : properties.mapM (ClassProperty.named? name?) = some results) :
    ((server.newEntry version declaration).withProperties properties).named? name? =
      some ((server.newEntry version declaration).withProperties results) := by
  unfold newEntry
  split <;> simp [ClassEntry.withProperties, ClassEntry.named?, ClassBody.named?, named]

/-- A class without properties is as outlined for an enumeration, and for a declaration that
somebody else is reading. -/
theorem outline_of_closed {opened : List String}
    (closed : declaration.isEnum = true ∨ declaration.name ∈ opened) :
    server.outline opened version declaration = server.newEntry version declaration := by
  cases kind : declaration.isEnum with
  | true => simp [outline, newEntry, kind, ClassEntry.withProperties]
  | false =>
    have isOpened : declaration.name ∈ opened := closed.resolve_left (by simp [kind])
    simp [outline, newEntry, kind, ClassEntry.withProperties, isOpened]

/-- A class that stays without properties is as outlined from the beginning. -/
theorem describes_newEntry {opened : List String} {name? : ClassId → Option String}
    (known : server.catalog.find? declaration.name = some declaration)
    (closed : declaration.isEnum = true ∨ declaration.name ∈ opened) :
    server.Describes opened name? (server.newEntry version declaration) := by
  refine describes_of_named? version known ?_
  rw [named?_newEntry, outline_of_closed closed]

/-- A class whose properties are as outlined is so itself, unless somebody else reads them. -/
theorem describes_withProperties {opened : List String} {name? : ClassId → Option String}
    {properties : List (ClassProperty ClassId)}
    (known : server.catalog.find? declaration.name = some declaration)
    (isOpen : declaration.name ∉ opened)
    (named : properties.mapM (ClassProperty.named? name?) =
      some ((server.visibleProperties declaration).map server.outlineProperty)) :
    server.Describes opened name?
      ((server.newEntry version declaration).withProperties properties) := by
  refine describes_of_named? version known ?_
  rw [named?_newEntry_withProperties named, outline, if_neg isOpen]

end Server

namespace Discovery

variable {server : Server} {opened chain : List String} {bound : Nat}
  {discovery : Discovery} {declaration : Declaration} {version : Option String}

/-! ### Registering a class -/

theorem fill_of_at? {id : ClassId} {entry : ClassEntry ClassId}
    {properties : List (ClassProperty ClassId)} (found : discovery.types.at? id = some entry) :
    discovery.fill id properties =
      { discovery with types := discovery.types.fill id properties } := by
  simp [fill, found]

theorem isSome_indexOf?_register {name : String} :
    ((discovery.register (server.newEntry version declaration)).2.types.indexOf? name).isSome ↔
      name = QualifiedName.className declaration.name ∨
        (discovery.types.indexOf? name).isSome := by
  rw [register, ClassTable.isSome_indexOf?_register, Server.name_newEntry]

theorem Ready.register (ready : Ready server opened (bound + 1) chain discovery)
    (known : server.catalog.find? declaration.name = some declaration)
    (fresh : discovery.types.indexOf? (QualifiedName.className declaration.name) = none) :
    Ready server opened bound (chain ++ [declaration.name])
      (discovery.register (server.newEntry version declaration)).2 where
  lawful := ready.lawful.register
  room := by
    have fewer : (discovery.register (server.newEntry version declaration)).2.remaining server <
        discovery.remaining server := by
      apply remaining_lt _ (Server.mem_classNames known) fresh
      · exact isSome_indexOf?_register.mpr (Or.inl rfl)
      · intro name old
        exact isSome_indexOf?_register.mpr (Or.inr old)
    have enough := ready.room
    omega
  registered := by
    intro name reading
    rcases List.mem_append.mp reading with before | last
    · rcases ready.registered name before with among | old
      · exact Or.inl among
      · exact Or.inr (isSome_indexOf?_register.mpr (Or.inr old))
    · right
      rw [List.mem_singleton.mp last]
      exact isSome_indexOf?_register.mpr (Or.inl rfl)

section Steps

variable (server version) (known : server.catalog.find? declaration.name = some declaration)
  (fresh : discovery.types.indexOf? (QualifiedName.className declaration.name) = none)

include fresh

/-- A new class stands at the end of the table. -/
theorem register_newEntry :
    (discovery.register (server.newEntry version declaration)).1 = discovery.types.size ∧
      (discovery.register (server.newEntry version declaration)).2.types.entries =
        discovery.types.entries ++
          [(QualifiedName.className declaration.name, server.newEntry version declaration)] ∧
      (discovery.register (server.newEntry version declaration)).2.types.at?
        discovery.types.size = some (server.newEntry version declaration) := by
  have ownName : (server.newEntry version declaration : ClassEntry ClassId).name =
      QualifiedName.className declaration.name := Server.name_newEntry
  rw [← ownName] at fresh ⊢
  exact ⟨ClassTable.placeFor_of_fresh fresh, ClassTable.entries_register_of_fresh fresh,
    ClassTable.at?_register_size fresh⟩

theorem nameAt?_register_newEntry :
    (discovery.register (server.newEntry version declaration)).2.types.nameAt?
      discovery.types.size = some (QualifiedName.className declaration.name) := by
  rw [ClassTable.nameAt?, (register_newEntry server version fresh).2.2, Option.map_some,
    Server.name_newEntry]

include known

/-- A class that stays without properties needs no more than its registration. -/
theorem entered_register (closed : declaration.isEnum = true ∨ declaration.name ∈ opened) :
    Entered server opened discovery declaration
      (discovery.register (server.newEntry version declaration)) := by
  rcases register_newEntry server version fresh with ⟨placed, entries, stored⟩
  have grown : discovery.types.entries <+:
      (discovery.register (server.newEntry version declaration)).2.types.entries := by
    rw [entries]
    exact List.prefix_append _ _
  refine ⟨⟨grown, ?_, ClassTable.Lawful.register, List.prefix_refl _, rfl⟩, ?_⟩
  · intro place entry new found
    have last : place = discovery.types.size := by
      have within := ClassTable.isSome_at?_iff.mp (Option.isSome_of_eq_some found)
      simp only [ClassTable.size, entries, List.length_append, List.length_singleton]
        at within new ⊢
      omega
    rw [last, stored] at found
    cases found
    exact Server.describes_newEntry known closed
  · rw [placed]
    exact nameAt?_register_newEntry server version fresh

/-- A class whose properties are filled in after those that they mention were entered. -/
theorem entered_fill {inner : Discovery} {properties : List (ClassProperty ClassId)}
    (isOpen : declaration.name ∉ opened)
    (grown : Extends server opened
      (discovery.register (server.newEntry version declaration)).2 inner)
    (named : properties.mapM (ClassProperty.named? inner.types.nameAt?) =
      some ((server.visibleProperties declaration).map server.outlineProperty)) :
    Entered server opened discovery declaration
      (discovery.types.size, inner.fill discovery.types.size properties) := by
  rcases register_newEntry server version fresh with ⟨-, entries, stored⟩
  have sameNames : (inner.types.fill discovery.types.size properties).nameAt? =
      inner.types.nameAt? := by
    funext place
    exact ClassTable.nameAt?_fill
  have storedInside := ClassTable.at?_of_prefix grown.entries stored
  rw [fill_of_at? storedInside]
  refine ⟨⟨?_, ?_, ?_, grown.clashes, grown.strayed⟩, ?_⟩
  · have before : discovery.types.entries <+: inner.types.entries := by
      refine List.IsPrefix.trans ?_ grown.entries
      rw [entries]
      exact List.prefix_append _ _
    exact ClassTable.prefix_fill before (Nat.le_refl _)
  · intro place entry new found
    simp only [sameNames] at found ⊢
    by_cases own : place = discovery.types.size
    · subst own
      rw [ClassTable.at?_fill_self, storedInside] at found
      cases found
      exact Server.describes_withProperties known isOpen named
    · rw [ClassTable.at?_fill_of_ne own] at found
      refine grown.described ?_ found
      simp only [ClassTable.size, entries, List.length_append, List.length_singleton] at new own ⊢
      omega
  · intro lawful
    exact (grown.lawful lawful.register).fill
  · simp only [sameNames]
    exact grown.nameAt? (nameAt?_register_newEntry server version fresh)

end Steps

/-! ### Entering -/

theorem enter_of_registered {id : ClassId}
    (found : discovery.types.indexOf? (QualifiedName.className declaration.name) = some id) :
    enter server version bound chain declaration discovery =
      (id, discovery.meet id declaration) := by
  rw [enter, found]

theorem enter_of_closed
    (fresh : discovery.types.indexOf? (QualifiedName.className declaration.name) = none)
    (closed : declaration.isEnum = true ∨ declaration.name ∈ chain) :
    enter server version bound chain declaration discovery =
      discovery.register (server.newEntry version declaration) := by
  rw [enter, fresh]
  simp [closed]

theorem enter_of_open
    (fresh : discovery.types.indexOf? (QualifiedName.className declaration.name) = none)
    (isOpen : ¬(declaration.isEnum = true ∨ declaration.name ∈ chain)) :
    enter server version (bound + 1) chain declaration discovery =
      let registered := (discovery.register (server.newEntry version declaration)).2
      let inner := placeProperties server
        (enter server version bound (chain ++ [declaration.name]))
        (server.visibleProperties declaration) registered
      (discovery.types.size, inner.2.fill discovery.types.size inner.1) := by
  rw [enter, fresh]
  simp [isOpen, (register_newEntry server version fresh).1]

/-- A declaration whose class is not registered is among those that are being read only for somebody
else's sake. -/
theorem mem_opened_of_mem_chain (ready : Ready server opened bound chain discovery)
    (fresh : discovery.types.indexOf? (QualifiedName.className declaration.name) = none)
    (reading : declaration.name ∈ chain) : declaration.name ∈ opened := by
  refine (ready.registered _ reading).resolve_right ?_
  rw [fresh]
  exact Bool.false_ne_true

/-- The bound is never used up while there are declarations to open. -/
theorem bound_pos (ready : Ready server opened bound chain discovery)
    (known : server.catalog.find? declaration.name = some declaration)
    (fresh : discovery.types.indexOf? (QualifiedName.className declaration.name) = none) :
    0 < bound := by
  refine Nat.lt_of_lt_of_le ?_ ready.room
  rw [remaining, List.length_pos_iff_exists_mem]
  exact ⟨_, List.mem_filter.mpr ⟨Server.mem_classNames known, by rw [fresh]; rfl⟩⟩

/-- One step: a declaration is entered as it should be if those are that its properties mention. -/
theorem entered_enter (includes : opened ⊆ chain)
    (deeper : ∀ smaller < bound, ∀ {longer : List String}, opened ⊆ longer →
      Entering.Sound server opened (Ready server opened smaller longer)
        (enter server version smaller longer))
    (known : server.catalog.find? declaration.name = some declaration)
    (ready : Ready server opened bound chain discovery) :
    Entered server opened discovery declaration
      (enter server version bound chain declaration discovery) := by
  cases found : discovery.types.indexOf? (QualifiedName.className declaration.name) with
  | some id =>
    rw [enter_of_registered found]
    have named := ready.lawful.nameAt?_of_indexOf? found
    have met : Extends server opened discovery (discovery.meet id declaration) :=
      .meet (ClassTable.lt_size_of_nameAt? named)
    exact ⟨met, met.nameAt? named⟩
  | none =>
    by_cases closed : declaration.isEnum = true ∨ declaration.name ∈ chain
    · rw [enter_of_closed found closed]
      exact entered_register server version known found
        (closed.imp_right (mem_opened_of_mem_chain ready found))
    · rcases Nat.exists_eq_succ_of_ne_zero
        (Nat.ne_of_gt (bound_pos ready known found)) with ⟨smaller, rfl⟩
      rw [enter_of_open found closed]
      have longer : opened ⊆ chain ++ [declaration.name] := by
        intro name among
        exact List.mem_append_left _ (includes among)
      have inside : Ready server opened smaller (chain ++ [declaration.name])
          (discovery.register (server.newEntry version declaration)).2 :=
        ready.register known found
      have inner := placed_placeProperties (deeper smaller (Nat.lt_succ_self smaller) longer)
        (server.visibleProperties declaration) inside
      have isOpen : declaration.name ∉ opened := by
        intro among
        exact closed (Or.inr (includes among))
      exact entered_fill server version known found isOpen inner.1 inner.2

/-- Whoever is ready to enter declarations leaves behind classes that are as outlined. -/
theorem sound_enter (includes : opened ⊆ chain) :
    Entering.Sound server opened (Ready server opened bound chain)
      (enter server version bound chain) := by
  induction bound using Nat.strongRecOn generalizing chain with
  | _ bound ih =>
    constructor
    · intro earlier later grown ready
      exact ready.of_extends grown
    · intro declaration discovery known ready
      apply entered_enter includes _ known ready
      intro smaller less longer stillIncludes
      exact ih smaller less stillIncludes

end Discovery

end ClientGen
