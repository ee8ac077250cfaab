import Timex.Proofs.Yaml.Document

/-!
# Document libraries

What a settings file asks of a library: the document that its octets are. Octets that are not
UTF-8 are no document. The library built in reads a document as `Document.ofOctets` does.
-/

namespace Timex

class YamlLibrary where
  /-- The only document of a file. A file may have none. -/
  document : List Nat → Except Yaml.Error (Option Yaml.Document)
  exists_document_eq_error : ∀ {octets}, Text.Utf8.decode? octets = none →
    ∃ e, document octets = .error e

instance YamlLibrary.builtIn : YamlLibrary where
  document := Yaml.Document.ofOctets
  exists_document_eq_error := Yaml.Document.exists_ofOctets_eq_error

end Timex
