import ClientGen.Proofs.Discovery.Nesting

/-!
# Generic types as containers

A generic type that conforms to a contract of dictionaries is a dictionary of its second argument,
even though it conforms to the contract of sequences as well. If it has no second argument, it is
taken for a sequence. A generic type that is only a sequence is a list of the argument that it
passes to `IEnumerable`, if it declares that contract itself. A sequence type that inherits the
contract from another interface does not say which argument it passes on; the first one is taken.
-/

namespace ClientGen

open QualifiedName (lastSegment)
open Relation (ReflTransGen)

namespace Catalog

/-- Whether a type is one of the contracts, or has one among its parents, their parents, and so
on. -/
def Conforms (catalog : Catalog) (contracts : List String) (name : String) : Prop :=
  ∃ contract, ReflTransGen catalog.HasParent name contract ∧ lastSegment contract ∈ contracts

variable {catalog : Catalog} {name contract : String} {contracts : List String}
  {declaration : Declaration} {args : List TypeExpr} {inner : TypeExpr}

theorem conforms_iff : catalog.Conforms contracts name ↔ catalog.implements name contracts = true :=
  implements_iff.symm

theorem not_conforms_iff :
    ¬catalog.Conforms contracts name ↔ catalog.implements name contracts = false := by
  rw [conforms_iff, Bool.not_eq_true]

theorem Conforms.of_parent (conforms : catalog.Conforms contracts contract)
    (edge : catalog.HasParent name contract) : catalog.Conforms contracts name := by
  rcases conforms with ⟨other, path, isContract⟩
  exact ⟨other, .head edge path, isContract⟩

theorem Conforms.cases (conforms : catalog.Conforms contracts name) :
    lastSegment name ∈ contracts ∨
      ∃ parent ∈ catalog.parents name, catalog.Conforms contracts parent := by
  rcases conforms with ⟨contract, path, isContract⟩
  rcases path.cases_head with rfl | ⟨parent, edge, others⟩
  · exact Or.inl isContract
  · exact Or.inr ⟨parent, edge, contract, others, isContract⟩

/-- The framework's sequences are no dictionaries. -/
theorem not_conforms_of_isFramework (leaves : catalog.LeavesFramework)
    (isSequence : Shell.IsFramework 1 name) : ¬catalog.Conforms dictionaryContracts name := by
  have sequences : ∀ entry ∈ Framework.entries, entry.arity = 1 →
      entry.segment ++ entry.marker ∉ dictionaryContracts ∧
        entry.contracts ⊆ sequenceContracts := by
    decide
  have root : ∃ entry ∈ Framework.entries,
      lastSegment "IEnumerable\x601" = entry.segment ++ entry.marker ∧ entry.contracts = [] := by
    decide
  have alone : ¬catalog.Conforms dictionaryContracts "IEnumerable\x601" := by
    rcases root with ⟨entry, listed, same, isRoot⟩
    intro conforms
    rcases conforms.cases with own | ⟨parent, declared, -⟩
    · exact absurd own (by decide)
    · rw [parents_framework leaves listed same, isRoot] at declared
      cases declared
  rcases Shell.isFramework_iff.mp isSequence with ⟨entry, listed, arity, same⟩
  intro conforms
  rcases conforms.cases with own | ⟨parent, declared, inherited⟩
  · rw [same] at own
    exact (sequences entry listed arity).1 own
  · rw [parents_framework leaves listed same] at declared
    have isRoot := (sequences entry listed arity).2 declared
    rw [List.mem_singleton.mp isRoot] at inherited
    exact alone inherited

/-- The contracts of dictionaries have that of sequences, so every dictionary is a sequence too. -/
theorem Conforms.isSequence (leaves : catalog.LeavesFramework)
    (isDictionary : catalog.Conforms dictionaryContracts name) :
    catalog.Conforms sequenceContracts name := by
  have inherit : ∀ contract ∈ dictionaryContracts, ∃ entry ∈ Framework.entries,
      contract = entry.segment ++ entry.marker ∧ "IEnumerable\x601" ∈ entry.contracts := by
    decide
  rcases isDictionary with ⟨contract, path, isContract⟩
  rcases inherit _ isContract with ⟨entry, listed, same, declared⟩
  have edge : catalog.HasParent contract "IEnumerable\x601" := by
    rw [HasParent, parents_framework leaves listed same]
    exact declared
  exact ⟨_, path.tail edge, by decide⟩

/-! ### What a sequence passes on -/

/-- Whether an interface is a type of sequences. -/
def IsSequenceType (catalog : Catalog) (type : TypeExpr) : Prop :=
  ∃ name, type.name? = some name ∧ catalog.Conforms sequenceContracts name

/-- The place of the generic parameter that a declaration passes on to an interface, if this is one
of the contracts. -/
def passedOn? (contracts : List String) (declaration : Declaration) (interface : TypeExpr) :
    Option Nat := do
  let contract ← interface.name?
  guard (contracts.contains (lastSegment contract))
  match interface.args.head? with
  | some (.parameter parameter) => declaration.genericParameters.findIdx? (· == parameter)
  | _ => none

theorem contractPosition?_of_find? (found : catalog.find? name = some declaration) :
    catalog.contractPosition? name contracts =
      declaration.interfaces.findSome? (passedOn? contracts declaration) := by
  rw [contractPosition?, found]
  rfl

theorem passedOn?_of_not_isSequenceType {type : TypeExpr} (other : ¬catalog.IsSequenceType type) :
    passedOn? sequenceContracts declaration type = none := by
  cases named : type.name? with
  | none =>
    rw [passedOn?, named]
    rfl
  | some contract =>
    have noContract : lastSegment contract ∉ sequenceContracts := fun isContract =>
      other ⟨contract, named, contract, .refl, isContract⟩
    dsimp only [passedOn?, guard]
    simp [named, noContract]

theorem passedOn?_parameter {parameter : String} {position : Nat}
    (bound : declaration.genericParameters[position]? = some parameter)
    (first : parameter ∉ declaration.genericParameters.take position) :
    passedOn? contracts declaration (.named contract [.parameter parameter]) =
      if lastSegment contract ∈ contracts then some position else none := by
  have place : declaration.genericParameters.findIdx? (· == parameter) = some position := by
    rcases List.getElem?_eq_some_iff.mp bound with ⟨inRange, same⟩
    refine List.findIdx?_eq_some_iff_getElem.mpr ⟨inRange, by simp [same], fun earlier less => ?_⟩
    intro isSame
    refine first (List.mem_take_iff_getElem.mpr ⟨earlier, ?_, eq_of_beq isSame⟩)
    omega
  dsimp only [passedOn?, guard]
  by_cases isContract : lastSegment contract ∈ contracts <;>
    simp [TypeExpr.name?, TypeExpr.args, isContract, place]

/-- Only a sequence type that is the contract itself tells the place of the elements. -/
theorem contractPosition?_of_only {front back : List TypeExpr} {parameter : String} {position : Nat}
    (found : catalog.find? name = some declaration)
    (declared : declaration.interfaces = front ++ .named contract [.parameter parameter] :: back)
    (only : ∀ other ∈ front ++ back, ¬catalog.IsSequenceType other)
    (bound : declaration.genericParameters[position]? = some parameter)
    (first : parameter ∉ declaration.genericParameters.take position) :
    catalog.contractPosition? name sequenceContracts =
      if lastSegment contract ∈ sequenceContracts then some position else none := by
  have none (part : List TypeExpr) (inside : part ⊆ front ++ back) :
      part.findSome? (passedOn? sequenceContracts declaration) = none := by
    rw [List.findSome?_eq_none_iff]
    exact fun other among => passedOn?_of_not_isSequenceType (only other (inside among))
  rw [contractPosition?_of_find? found, declared, List.findSome?_append, List.findSome?_cons,
    none front (List.subset_append_left _ _), none back (List.subset_append_right _ _),
    passedOn?_parameter bound first]
  by_cases isContract : lastSegment contract ∈ sequenceContracts <;> simp [isContract]

theorem hasParent_of_interface {interface : TypeExpr}
    (found : catalog.find? name = some declaration) (declared : interface ∈ declaration.interfaces)
    (named : interface.name? = some contract) : catalog.HasParent name contract := by
  exact hasParent_iff.mpr ⟨declaration, found, .inr ⟨interface, declared, named⟩⟩

/-! ### Elements -/

/-- In a container an expression means what it means alone, except that null is not told. -/
theorem exists_meaning_inside (type : TypeExpr)
    (wrapper : (∃ whole, type = .nullable whole) → ¬catalog.IsContainer TypeExpr.nullableName 1) :
    ∃ layers nullable optional content,
      catalog.meaning type = .mk layers nullable optional content ∧
      catalog.meaningAt .inside type = .mk layers false optional content := by
  by_cases marked : ∃ whole, type = .nullable whole
  · have noContainer := wrapper marked
    rcases marked with ⟨whole, rfl⟩
    have peels : catalog.Peels (.nullable whole) .nullable whole := .nullable noContainer
    have inside : catalog.meaningAt .inside (.nullable whole) =
        (catalog.meaningAt .inside whole).orNull false :=
      meaningAt_of_peels peels fun isTop => nomatch isTop
    rcases catalog.exists_unpacks whole with ⟨covers, core, content, -, -, means⟩
    have outsideMeans := means .outside fun isTop => nomatch isTop
    have insideMeans := means .inside fun isTop => nomatch isTop
    rw [meaning_nullable, inside, outsideMeans, insideMeans]
    exact ⟨_, _, _, _, rfl, rfl⟩
  · simp only [not_exists] at marked
    rcases catalog.exists_unpacks type with ⟨covers, core, content, -, -, means⟩
    rw [meaning, means .top fun _ => marked, means .inside fun isTop => nomatch isTop]
    exact ⟨_, _, _, _, rfl, rfl⟩

theorem meaning_array : catalog.meaning (.array inner) =
    (catalog.meaningAt .inside inner).within .array := by
  rw [meaning, meaningAt]

end Catalog

namespace Meaning

variable {enter : Entering} {discovery : Discovery}

theorem place_within (layer : Layer) (meaning : Meaning) :
    (meaning.within layer).place enter discovery =
      ({ (meaning.place enter discovery).1 with
          layers := layer :: (meaning.place enter discovery).1.layers },
        (meaning.place enter discovery).2) := by
  cases meaning
  rw [within, place, place]

theorem orNull_within (layer : Layer) (mark : Bool) (meaning : Meaning) :
    (meaning.within layer).orNull mark = (meaning.orNull mark).within layer := by
  cases meaning
  rfl

end Meaning

namespace Discovery

variable {server : Server} {opened : List String} {version : Option String} {nullable : Bool}
  {inner type : TypeExpr} {discovery : Discovery}

theorem resolve_congr {other : TypeExpr}
    (means : server.catalog.meaning type = server.catalog.meaning other) :
    discovery.resolve server opened version nullable type =
      discovery.resolve server opened version nullable other := by
  rw [resolve, resolve, means]

theorem resolve_of_meaning {layer : Layer}
    (means : server.catalog.meaning type =
      (server.catalog.meaningAt .inside inner).within layer) :
    let list := discovery.resolve server opened version nullable (.array inner)
    discovery.resolve server opened version nullable type =
      ({ list.1 with layers := layer :: list.1.layers.tail }, list.2) := by
  simp only [resolve, means, Catalog.meaning_array, Meaning.orNull_within, Meaning.place_within,
    List.tail_cons]

theorem head?_layers_array :
    (discovery.resolve server opened version nullable (.array inner)).1.layers.head? =
      some .array := by
  rw [resolve_of_meaning Catalog.meaning_array]
  rfl

theorem layers_of_isBare (bare : server.catalog.IsBare type) :
    (discovery.resolve server opened version nullable type).1.layers = [] := by
  rcases Catalog.exists_core_of_isBare bare with ⟨content, means⟩
  rw [resolve, Catalog.meaning, means, Meaning.ofCore, Meaning.orNull, Meaning.place]

/-- A generic type that conforms to a contract of dictionaries is a dictionary of its second
argument. If it has one argument only, it is no dictionary, but a list if the contract leads on to
one of sequences. -/
theorem dictionary_of_conforms (server : Server) {name : String} {args : List TypeExpr}
    (conforms : server.catalog.Conforms dictionaryContracts name) (opened : List String)
    (version : Option String) (nullable : Bool) (discovery : Discovery) :
    let whole := discovery.resolve server opened version nullable (.named name args)
    (2 ≤ args.length → whole.1.layers.head? = some .dictionary ∧
      ∃ value, args[1]? = some value ∧
        let list := discovery.resolve server opened version nullable (.array value)
        whole = ({ list.1 with layers := .dictionary :: list.1.layers.tail }, list.2)) ∧
    (args.length = 1 → lastSegment name ≠ optionalWrapper → name ≠ TypeExpr.nullableName →
      whole.1.layers.head? ≠ some .dictionary ∧
        (server.catalog.Conforms sequenceContracts name → ∃ only, args = [only] ∧
          whole = discovery.resolve server opened version nullable (.array only))) := by
  have isDictionary := Catalog.conforms_iff.mp conforms
  constructor
  · intro several
    have second : args[1]? = some args[1] := List.getElem?_eq_getElem several
    have unmarked : ∀ inner, TypeExpr.named name args ≠ .nullable inner := by
      rintro inner same
      rw [TypeExpr.nullable, TypeExpr.named.injEq] at same
      simp [same.2] at several
    have means := Catalog.meaning_of_container (.dictionary isDictionary second) unmarked
    refine ⟨?_, args[1], second, resolve_of_meaning means⟩
    rw [resolve_of_meaning means]
    rfl
  · intro single notOptional notNullable
    rcases List.length_eq_one_iff.mp single with ⟨only, rfl⟩
    by_cases isSequence : server.catalog.Conforms sequenceContracts name
    · have first : [only][server.catalog.elementPosition name 1]? = some only := by
        rw [Catalog.elementPosition_one]
        rfl
      have unmarked : ∀ inner, TypeExpr.named name [only] ≠ .nullable inner := fun inner same =>
        notNullable (TypeExpr.named.inj same).1
      have means := Catalog.meaning_of_container
        (.sequence (Catalog.conforms_iff.mp isSequence) (by simp) first) unmarked
      rw [resolve_congr (means.trans Catalog.meaning_array.symm)]
      refine ⟨?_, fun _ => ⟨only, rfl, rfl⟩⟩
      rw [head?_layers_array]
      simp
    · have bare : server.catalog.IsBare (.named name [only]) := by
        rw [Catalog.isBare_named_iff fun _ => ⟨notOptional, notNullable⟩]
        rintro - (implemented | ⟨several, -⟩)
        · exact isSequence (Catalog.conforms_iff.mpr implemented)
        · simp at several
      refine ⟨?_, fun conformsToo => absurd conformsToo isSequence⟩
      rw [layers_of_isBare bare]
      simp

/-- A server with two dictionaries of its own, of which one fixes the type of the keys. -/
def storeServer : Server where
  catalog := Catalog.empty
    |>.insert { name := "Shop.Table\x602", genericParameters := ["TKey", "TValue"],
                base := some "Dictionary\x602" }
    |>.insert { name := "Shop.Index\x601", genericParameters := ["T"],
                interfaces := [.named "IDictionary\x602"
                  [.named "System.String" [], .parameter "T"]] }
  convention := .mvc

theorem leavesFramework_store : storeServer.catalog.LeavesFramework := by
  rw [Catalog.leavesFramework_iff]
  decide

theorem dictionary_of_table :
    storeServer.catalog.Conforms dictionaryContracts "Shop.Table\x602" ∧
      let whole := ({} : Discovery).resolve storeServer [] none false (.named "Shop.Table\x602"
        [.named "System.Guid" [], .named "System.Int32" []])
      whole.1.layers.head? = some .dictionary := by
  have edge : storeServer.catalog.HasParent "Shop.Table\x602" "Dictionary\x602" := by
    unfold Catalog.HasParent
    decide
  have isFramework : Shell.IsFramework 2 "Dictionary\x602" := by
    rw [Shell.isFramework_iff]
    decide
  have conforms : storeServer.catalog.Conforms dictionaryContracts "Dictionary\x602" := by
    rw [Catalog.conforms_iff]
    exact Catalog.implements_dictionary leavesFramework_store isFramework
  have whole := conforms.of_parent edge
  exact ⟨whole, ((dictionary_of_conforms storeServer whole [] none false {}).1 (by simp)).1⟩

/-- A dictionary with one argument of its own is taken for a list. -/
theorem index_is_list :
    storeServer.catalog.Conforms dictionaryContracts "Shop.Index\x601" ∧
      let whole := ({} : Discovery).resolve storeServer [] none false (.named "Shop.Index\x601"
        [.named "System.Int32" []])
      whole.1.layers = [.array] := by
  have edge : storeServer.catalog.HasParent "Shop.Index\x601" "IDictionary\x602" := by
    unfold Catalog.HasParent
    decide
  have contract : storeServer.catalog.Conforms dictionaryContracts "IDictionary\x602" :=
    ⟨_, .refl, by decide⟩
  have isDictionary := contract.of_parent edge
  have isSequence := Catalog.conforms_iff.mp (isDictionary.isSequence leavesFramework_store)
  have peels : storeServer.catalog.Peels (.named "Shop.Index\x601" [.named "System.Int32" []])
      (.container .array) (.named "System.Int32" []) :=
    .sequence isSequence (by simp) (by rw [List.length_singleton, Catalog.elementPosition_one]; rfl)
  have means := Catalog.meaning_of_container peels fun inner => by
    simp [TypeExpr.nullable, TypeExpr.nullableName]
  refine ⟨isDictionary, ?_⟩
  rw [resolve_congr (means.trans Catalog.meaning_array.symm)]
  decide

/-- A type whose only interface of sequences is written with one of its parameters is a list of the
argument for that parameter if the interface is the contract of sequences, and else of its first
argument. -/
theorem sequence_of_only (server : Server) {name contract parameter : String}
    {declaration : Declaration} {args front back : List TypeExpr} {position : Nat}
    (found : server.catalog.find? name = some declaration)
    (complete : args.length = declaration.genericParameters.length)
    (declared : declaration.interfaces = front ++ .named contract [.parameter parameter] :: back)
    (isSequence : server.catalog.Conforms sequenceContracts contract)
    (only : ∀ other ∈ front ++ back, ¬server.catalog.IsSequenceType other)
    (bound : declaration.genericParameters[position]? = some parameter)
    (first : parameter ∉ declaration.genericParameters.take position)
    (noDictionary : ¬server.catalog.Conforms dictionaryContracts name)
    (unmarked : ∀ inner, TypeExpr.named name args ≠ .nullable inner) (opened : List String)
    (version : Option String) (nullable : Bool) (discovery : Discovery) :
    ∃ element, args[if lastSegment contract ∈ sequenceContracts then position else 0]? =
        some element ∧
      let whole := discovery.resolve server opened version nullable (.named name args)
      let alone := discovery.resolve server opened version false element
      whole = discovery.resolve server opened version nullable (.array element) ∧
        (((∃ inner, element = .nullable inner) →
            ¬server.catalog.IsContainer TypeExpr.nullableName 1) →
          whole = ({ alone.1 with layers := .array :: alone.1.layers, nullable }, alone.2)) := by
  have inRange : position < args.length := by
    rw [complete]
    exact (List.getElem?_eq_some_iff.mp bound).1
  have place : server.catalog.elementPosition name args.length =
      if lastSegment contract ∈ sequenceContracts then position else 0 := by
    rw [Catalog.elementPosition,
      Catalog.contractPosition?_of_only found declared only bound first]
    split <;> simp [inRange]
  have placeInRange : server.catalog.elementPosition name args.length < args.length := by
    rw [place]
    split <;> omega
  have among : TypeExpr.named contract [.parameter parameter] ∈ declaration.interfaces := by
    rw [declared]
    exact List.mem_append_right _ List.mem_cons_self
  have conforms : server.catalog.Conforms sequenceContracts name :=
    isSequence.of_parent (Catalog.hasParent_of_interface found among rfl)
  have chosen := List.getElem?_eq_getElem placeInRange
  have means := Catalog.meaning_of_container (.sequence (Catalog.conforms_iff.mp conforms)
    (fun _ => Catalog.not_conforms_iff.mp noDictionary) chosen) unmarked
  refine ⟨_, place ▸ chosen, resolve_congr (means.trans Catalog.meaning_array.symm), ?_⟩
  intro wrapper
  rcases Catalog.exists_meaning_inside _ wrapper with
    ⟨layers, mark, optional, content, outside, inside⟩
  simp only [resolve, means, outside, inside, Meaning.within, Meaning.orNull, Meaning.place,
    Bool.or_false]

/-- A keyed collection that says it is a sequence of its items. -/
def registry : Declaration where
  name := "Shop.Registry\x602"
  genericParameters := ["TKey", "TItem"]
  interfaces := [.named "IEnumerable\x601" [.parameter "TItem"]]

/-- A keyed collection that inherits the contract of sequences with its items. -/
def ledger : Declaration where
  name := "Shop.Ledger\x602"
  genericParameters := ["TKey", "TItem"]
  interfaces := [.named "ICollection\x601" [.parameter "TItem"]]

def collectionServer : Server where
  catalog := Catalog.empty |>.insert registry |>.insert ledger
  convention := .mvc

/-- A key and an item. -/
def entryTypes : List TypeExpr :=
  [.named "System.Int32" [], .named "System.String" []]

theorem leavesFramework_collection : collectionServer.catalog.LeavesFramework := by
  rw [Catalog.leavesFramework_iff]
  decide

/-- A type with a framework sequence as its only parent is no dictionary. -/
theorem not_conforms_of_parent {declaration : Declaration} {contract : String}
    (parents : collectionServer.catalog.parents declaration.name = [contract])
    (isSequence : Shell.IsFramework 1 contract)
    (named : lastSegment declaration.name ∉ dictionaryContracts) :
    ¬collectionServer.catalog.Conforms dictionaryContracts declaration.name := by
  intro conforms
  rcases conforms.cases with own | ⟨parent, declared, inherited⟩
  · exact named own
  · rw [parents] at declared
    rw [List.mem_singleton.mp declared] at inherited
    exact Catalog.not_conforms_of_isFramework leavesFramework_collection isSequence inherited

theorem isFramework_collections :
    Shell.IsFramework 1 "IEnumerable\x601" ∧ Shell.IsFramework 1 "ICollection\x601" := by
  rw [Shell.isFramework_iff, Shell.isFramework_iff]
  decide

theorem sequence_of_registry :
    ({} : Discovery).resolve collectionServer [] none false (.named registry.name entryTypes) =
      ({} : Discovery).resolve collectionServer [] none false
        (.array (.named "System.String" [])) := by
  have found : collectionServer.catalog.find? registry.name = some registry := by
    rfl
  have isContract : lastSegment "IEnumerable\x601" ∈ sequenceContracts := by
    decide
  have noDictionary : ¬collectionServer.catalog.Conforms dictionaryContracts registry.name :=
    not_conforms_of_parent rfl isFramework_collections.1 (by decide)
  have unmarked : ∀ inner, TypeExpr.named registry.name entryTypes ≠ .nullable inner := by
    intro inner
    simp [TypeExpr.nullable, entryTypes]
  rcases @sequence_of_only collectionServer registry.name "IEnumerable\x601" "TItem" registry
      entryTypes [] [] 1 found rfl rfl ⟨_, .refl, isContract⟩ (by simp) rfl (by decide) noDictionary
      unmarked [] none false {} with ⟨element, chosen, whole, -⟩
  rw [if_pos isContract] at chosen
  cases chosen
  exact whole

/-- The items of a collection that inherits the contract are taken for its keys. And the wrapper for
null never becomes a sequence, if it is declared as one. -/
theorem ledger_is_list_of_keys :
    (collectionServer.catalog.find? ledger.name = some ledger ∧
      collectionServer.catalog.Conforms sequenceContracts "ICollection\x601" ∧
      ¬collectionServer.catalog.Conforms dictionaryContracts ledger.name ∧
      let list := (({} : Discovery).resolve collectionServer [] none false
        (.named ledger.name entryTypes)).1
      list.layers = [.array] ∧ list.kind = .int ∧
        (({} : Discovery).resolve collectionServer [] none false
          (.named "System.String" [])).1.kind = .string) ∧
    let server : Server :=
      { catalog := Catalog.empty |>.insert
          { registry with name := TypeExpr.nullableName, genericParameters := ["TItem"] }
        convention := .mvc }
    (({} : Discovery).resolve server [] none false
      (.nullable (.named "System.String" []))).1.layers = [] := by
  have found : collectionServer.catalog.find? ledger.name = some ledger := by
    rfl
  have contract : collectionServer.catalog.Conforms sequenceContracts "ICollection\x601" := by
    rw [Catalog.conforms_iff]
    exact Catalog.implements_sequence leavesFramework_collection isFramework_collections.2
  have noDictionary : ¬collectionServer.catalog.Conforms dictionaryContracts ledger.name :=
    not_conforms_of_parent rfl isFramework_collections.2 (by decide)
  have isSequence : collectionServer.catalog.Conforms sequenceContracts ledger.name := by
    refine contract.of_parent ?_
    unfold Catalog.HasParent
    decide
  have peels : collectionServer.catalog.Peels (.named ledger.name entryTypes) (.container .array)
      (.named "System.Int32" []) :=
    .sequence (Catalog.conforms_iff.mp isSequence)
      (fun _ => Catalog.not_conforms_iff.mp noDictionary) (by decide)
  have means := Catalog.meaning_of_container peels fun inner => by
    simp [TypeExpr.nullable, entryTypes]
  rw [resolve_congr (means.trans Catalog.meaning_array.symm)]
  exact ⟨⟨found, contract, noDictionary, by decide⟩, by decide +kernel⟩

end Discovery

end ClientGen
