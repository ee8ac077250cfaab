import Timex.Yaml.Error

/-!
# Tokens of a document

The words of the language. Indentation has become starts and ends of block
collections, and every key of a mapping is announced. Where the text breaks off being
words, a last token says why.
-/

namespace Timex.Yaml

/-- A tag as written: a handle with a suffix, or, without a handle, the name itself. -/
structure WrittenTag where
  handle : Option Text
  suffix : Text
  deriving DecidableEq, Repr

inductive Directive where
  | version (major minor : Nat)
  | tagHandle (handle expansion : Text)
  | other
  deriving DecidableEq, Repr

inductive Token where
  | directive (d : Directive)
  | documentStart
  | documentEnd
  | blockSequenceStart
  | blockMappingStart
  | blockEnd
  | flowSequenceStart
  | flowSequenceEnd
  | flowMappingStart
  | flowMappingEnd
  | blockEntry
  | flowEntry
  | key
  | value
  | alias (name : Text)
  | anchor (name : Text)
  | tag (t : WrittenTag)
  | scalar (text : WideText) (plain : Bool)
  | failure (why : Error)
  deriving DecidableEq, Repr

end Timex.Yaml
