import Timex.Fault
import Timex.Text.Blank

/-!
# Recognizer payloads

A recognizer reports its temporal entities in a list under `datetime`. Each entity has
tokens under `timex`, best first, and perhaps a type. The whole list is checked before
any token is taken: one bad entity refuses the payload.

The checks are put together from those of a library, which tells what it takes for a text, a
list or an object, and how it words what is wrong.
-/

namespace Timex

structure Entity where
  tokens : List Text
  kind : Option Text
  deriving DecidableEq, Repr

inductive PayloadError where
  | notList
  | notEntity
  | missingField
  | notText
  /-- The list or text is one, and yet does not do. -/
  | invalid (reason : Text)
  deriving DecidableEq, Repr

def PayloadError.message : PayloadError → Text
  | .notList => "Input should be a valid list".toList
  | .notEntity => "Input should be a valid dictionary or instance of DatetimeEntity".toList
  | .missingField => "Field required".toList
  | .notText => "Input should be a valid string".toList
  | .invalid reason => "Value error, ".toList ++ reason

class PayloadLibrary where
  /-- The text without the white space around it. -/
  text? : Value → Option Text
  list? : Value → Option (List Value)
  entries? : Value → Option (List (Value × Value))
  wording : PayloadError → Text
  /-- Nothing else is turned into a text. -/
  text?_eq_some_iff : ∀ {v t},
    text? v = some t ↔ ∃ u, v = .text u ∧ Text.trimBy Text.isWhiteSpace u = t
  list?_eq_some_iff : ∀ {v items}, list? v = some items ↔ v = .list items
  entries?_eq_some_iff : ∀ {v entries}, entries? v = some entries ↔ v = .map entries

namespace PayloadLibrary

@[simp] theorem list?_list [PayloadLibrary] (items : List Value) :
    list? (.list items) = some items := list?_eq_some_iff.mpr rfl

@[simp] theorem entries?_map [PayloadLibrary] (entries : List (Value × Value)) :
    entries? (.map entries) = some entries := entries?_eq_some_iff.mpr rfl

instance builtIn : PayloadLibrary where
  text?
    | .text t => some (Text.trimBy Text.isWhiteSpace t)
    | _ => none
  list?
    | .list items => some items
    | _ => none
  entries?
    | .map entries => some entries
    | _ => none
  wording := PayloadError.message
  text?_eq_some_iff {v t} := by cases v <;> simp
  list?_eq_some_iff {v items} := by cases v <;> simp
  entries?_eq_some_iff {v entries} := by cases v <;> simp

end PayloadLibrary

namespace Payload

/-- Errors collected so far, or a result if there are none. -/
abbrev Checked := Except (List PayloadError)

/-- The results of all checks, or the errors of all in order. -/
def both (a : Checked α) (b : Checked β) : Checked (α × β) :=
  match a, b with
  | .ok x, .ok y => .ok (x, y)
  | .error es, .ok _ => .error es
  | .ok _, .error fs => .error fs
  | .error es, .error fs => .error (es ++ fs)

def each (check : α → Checked β) : List α → Checked (List β)
  | [] => .ok []
  | a :: as => (both (check a) (each check as)).map fun r => r.1 :: r.2

/-- Why a list of tokens has to hold one. -/
def noToken : Text := "timex must contain at least one value".toList

section
variable [PayloadLibrary]

open PayloadLibrary (text? list? entries?)

def checkText (v : Value) : Checked Text :=
  match text? v with
  | some t => .ok t
  | none => .error [.notText]

def checkTokens : Option Value → Checked (List Text)
  | none => .error [.missingField]
  | some v =>
    match list? v with
    | none => .error [.notList]
    | some [] => .error [.invalid noToken]
    | some items => each checkText items

/-- A null type is no type. -/
def checkKind : Option Value → Checked (Option Text)
  | none | some .null => .ok none
  | some v => (checkText v).map some

def checkEntity (v : Value) : Checked Entity :=
  match entries? v with
  | some entries =>
    (both (checkTokens (Value.get? entries "timex".toList))
      (checkKind (Value.get? entries "type".toList))).map fun r => ⟨r.1, r.2⟩
  | none => .error [.notEntity]

/-- The entities of a payload. Without a `datetime` entry there are none. -/
def checkEntities (entries : List (Value × Value)) : Checked (List Entity) :=
  match Value.get? entries "datetime".toList with
  | none => .ok []
  | some v =>
    match list? v with
    | some items => each checkEntity items
    | none => .error [.notList]

def refusal (errors : List PayloadError) : Fault :=
  Fault.entityPayload
    ⟨some ("datetime entities failed validation (".toList ++ Text.decimal errors.length ++
        " errors)".toList), [],
      [("errors".toList, .list (errors.map fun e => .text (PayloadLibrary.wording e)))], none⟩

end

/-- The tokens of the entities whose type is wanted, in order. -/
def wantedTokens (types : Option (List (Option Text))) (entities : List Entity) : List Text :=
  (entities.filter fun e =>
    match types with
    | none => true
    | some wanted => wanted.contains e.kind).flatMap Entity.tokens

end Payload

/-- The tokens of a payload. With `types`, only those of entities of such a type. -/
def extractTokens [PayloadLibrary] (entries : List (Value × Value))
    (types : Option (List (Option Text))) : Except Fault (List Text) :=
  match Payload.checkEntities entries with
  | .ok entities => .ok (Payload.wantedTokens types entities)
  | .error errors => .error (Payload.refusal errors)

end Timex
