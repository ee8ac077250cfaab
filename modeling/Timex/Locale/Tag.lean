import Timex.Locale.Table
import Timex.Text.Case
import Timex.Text.Digit
import Timex.Text.Letter
import Timex.Text.Quoted

/-!
# Locale tags

A tag is a language, then perhaps a script, a territory and a variant, with
underscores between them. A dot ends it, and after an at sign comes a modifier. Letter
case does not matter; a part may be of the letters and digits of any script.
-/

namespace Timex

inductive LocaleError where
  /-- No tag, where one has to be. -/
  | noTag
  /-- No tag, and no locale that stands in for it. -/
  | noDefault
  /-- The language holds something that is not a letter. -/
  | badLanguage (language : Text)
  /-- Something follows the parts of a tag. -/
  | badTag (tag : Text)
  /-- A tag that names no locale of the library. -/
  | unknown (tag : Text)
  deriving DecidableEq, Repr

namespace LocaleError

def emptyText (tag : String) : Text :=
  "Empty locale identifier value: ".toList ++ tag.toList ++
    ("\n\nIf you didn't explicitly pass an empty value to a Babel function, this could be " ++
      "caused by there being no suitable locale environment variables for the API you tried " ++
      "to use.").toList

def message : LocaleError → Text
  | .noTag => emptyText "''"
  | .noDefault => emptyText "None"
  | .badLanguage language => "expected only letters, got ".toList ++ Text.quoted language
  | .badTag tag => Text.quoted tag ++ " is not a valid locale identifier".toList
  | .unknown tag => "unknown locale ".toList ++ Text.quoted tag

end LocaleError

structure LocaleTag where
  language : Text
  script : Option Text
  territory : Option Text
  variant : Option Text
  modifier : Option Text
  deriving DecidableEq, Repr

namespace LocaleTag

def isLetters (t : Text) : Bool := !t.isEmpty && t.all Text.isLetter

/-- Takes the first part, if it is of the form, with its letters set to a case. -/
def takePart (form : Text → Bool) (letters : Text → Text) : List Text → Option Text × List Text
  | [] => (none, [])
  | p :: ps => if form p then (some (letters p), ps) else (none, p :: ps)

def isScript (p : Text) : Bool := p.length == 4 && isLetters p

def isTerritory (p : Text) : Bool :=
  (p.length == 2 && isLetters p) || (p.length == 3 && p.all Text.isDigitSign)

def isVariant (p : Text) : Bool :=
  match p with
  | [] => false
  | c :: _ => (p.length == 4 && Text.isDigitSign c) || (5 ≤ p.length && Text.isLetter c)

/-- Reads a tag. -/
def ofText (t : Text) : Except LocaleError LocaleTag :=
  let (tag, modifier) := Text.cut '@' t
  let tag := (Text.cut '.' tag).1
  match Text.split '_' tag with
  | [] => .error (.badLanguage [])
  | first :: parts =>
    let language := Text.lower first
    if !isLetters language then .error (.badLanguage language)
    else
      let (script, parts) := takePart isScript Text.title parts
      let (territory, parts) := takePart isTerritory Text.upper parts
      let (variant, parts) := takePart isVariant Text.upper parts
      if parts.isEmpty then
        .ok ⟨language, script, territory, variant, modifier.filter (!·.isEmpty)⟩
      else .error (.badTag tag)

/-- The parts that are there, with underscores between them. -/
def identifier (t : LocaleTag) : Text :=
  Text.join '_' (t.language :: [t.script, t.territory, t.variant].filterMap id) ++
    match t.modifier with
    | some modifier => '@' :: modifier
    | none => []

/-- The language and the territory alone. -/
def reduced (t : LocaleTag) : LocaleTag := ⟨t.language, none, t.territory, none, none⟩

end LocaleTag

namespace Locale

/-- Whether an identifier is that of a locale, or of its language alone. -/
def answersTo (l : Locale) (identifier : Text) : Bool :=
  identifier == l.identifier.toList || identifier == (Text.cut '_' l.identifier.toList).1

/-- The locale that a tag names. Only its language and its territory are looked at. -/
def named (tag : Text) : Except LocaleError Locale := do
  if tag.isEmpty then throw .noTag
  let tag ← LocaleTag.ofText tag
  match table.find? (·.answersTo tag.reduced.identifier) with
  | some l => return l
  | none => throw (.unknown tag.identifier)

end Locale
end Timex
