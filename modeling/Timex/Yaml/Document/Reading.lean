import Timex.Yaml.Conversion
import Timex.Yaml.Stream

/-!
# Reading a document

From octets to text, tokens, nodes and objects.
-/

namespace Timex.Yaml.Document

/-- The only document of a file. A file may have none. -/
@[irreducible]
def ofOctets (octets : List Nat) : Except Error (Option Document) := do
  let s := Stream.ofOctets octets
  (← Graph.ofTokens (Token.ofText s.text s.stop)).mapM Graph.toDocument

end Timex.Yaml.Document
