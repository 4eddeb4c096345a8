import ClientGen.Declaration.Read
import ClientGen.Declaration.Write
import ClientGen.Json.Read

/-!
# Manifests

A manifest is a document in which one assembly of the server describes its types. Both formats it
may have are read into the same kind of source, so one layout serves for both.
-/

namespace ClientGen

open Data

/-- The types of one assembly. -/
structure Manifest where
  assembly : Option String := none
  types : List Declaration := []

namespace Manifest

/-- Reads a manifest. -/
def reader : Reader Manifest :=
  .record
    (.cons ⟨"assembly", .orNull .text⟩ <| .cons ⟨"types", .list Declaration.reader⟩ .nil)
    fun _ (assembly, types, ()) => .ok ⟨assembly.getD none, types.getD []⟩

/-- The record of a manifest. -/
def toTree (manifest : Manifest) : Tree :=
  .record <|
    Tree.optional "assembly" .text manifest.assembly ++
    Tree.field "types" (.list (manifest.types.map Declaration.toTree))

end Manifest

end ClientGen
