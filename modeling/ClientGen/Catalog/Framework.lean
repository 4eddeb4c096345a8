import ClientGen.Declaration.Basic

/-!
# Framework types

The collection and result types of the server's framework that declarations refer to without
describing them. Each is declared with the contracts that matter to the generator and with one or
two conventional generic parameters; the last segment of an interface begins with a capital I.
-/

namespace ClientGen

/-- The contracts, by last segment, that make a generic type a dictionary. -/
def dictionaryContracts : List String :=
  ["IDictionary\x602", "IReadOnlyDictionary\x602"]

/-- The contracts, by last segment, that make a generic type a sequence. -/
def sequenceContracts : List String :=
  ["IEnumerable\x601"]

namespace Framework

/-- A framework type: its namespace, its last segment, its arity and its contracts. -/
structure Entry where
  space : String
  segment : String
  arity : Nat
  contracts : List String

/-- The sequence types with one parameter. -/
def sequence (space segment : String) : Entry :=
  ⟨space, segment, 1, sequenceContracts⟩

/-- The dictionary types. -/
def dictionary (space segment : String) (contracts : List String) : Entry :=
  ⟨space, segment, 2, contracts⟩

/-- The result types of actions. -/
def result (segment : String) : Entry :=
  ⟨"Microsoft.AspNetCore.Mvc", segment, 0, ["IActionResult"]⟩

/-- The framework types. -/
def entries : List Entry :=
  let generic := "System.Collections.Generic"
  let objectModel := "System.Collections.ObjectModel"
  let immutable := "System.Collections.Immutable"
  [⟨generic, "IEnumerable", 1, []⟩, sequence generic "ICollection", sequence generic "IList",
    sequence generic "IReadOnlyCollection", sequence generic "IReadOnlyList",
    sequence generic "ISet", sequence generic "List", sequence generic "HashSet",
    sequence generic "SortedSet", sequence generic "LinkedList", sequence generic "Queue",
    sequence generic "Stack", sequence objectModel "Collection",
    sequence objectModel "ReadOnlyCollection", sequence immutable "ImmutableArray",
    sequence immutable "ImmutableList",
    dictionary generic "IDictionary" sequenceContracts,
    dictionary generic "IReadOnlyDictionary" sequenceContracts,
    dictionary generic "Dictionary" dictionaryContracts,
    dictionary generic "SortedDictionary" dictionaryContracts,
    dictionary "System.Collections.Concurrent" "ConcurrentDictionary" dictionaryContracts,
    dictionary objectModel "ReadOnlyDictionary" dictionaryContracts,
    dictionary immutable "ImmutableDictionary" dictionaryContracts,
    ⟨"Microsoft.AspNetCore.Mvc", "IActionResult", 0, []⟩,
    result "ActionResult", result "StatusCodeResult", result "OkResult",
    result "NoContentResult", result "NotFoundResult", result "BadRequestResult",
    result "ObjectResult", result "OkObjectResult", result "JsonResult", result "ContentResult",
    result "FileResult", result "RedirectResult",
    ⟨"System.Web.Http", "IHttpActionResult", 0, []⟩]

/-- The declaration of a framework type. -/
def Entry.declaration (entry : Entry) : Declaration :=
  { name := entry.space ++ "." ++ entry.segment ++
      if entry.arity == 0 then "" else "\x60" ++ toString entry.arity
    kind := if entry.segment.toList.head? == some 'I' then .interface else .classType
    interfaces := entry.contracts.map TypeExpr.ofName
    genericParameters :=
      match entry.arity with
      | 0 => []
      | 1 => ["T"]
      | _ => ["TKey", "TValue"] }

end Framework

/-- The declarations of the framework types. -/
def frameworkTypes : List Declaration :=
  Framework.entries.map Framework.Entry.declaration

end ClientGen
