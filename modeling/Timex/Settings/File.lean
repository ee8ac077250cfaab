import Timex.Settings.Basic
import Timex.Yaml.Library

/-!
# Settings files

The settings stand under one name of a document. A file that cannot be opened or is no
document leaves the defaults and a warning; one without that section just the defaults.
A scalar with an impossible value is not forgiven, nor a setting that is too long an
integer to be written.
-/

namespace Timex.Settings

/-- What was found where the file should be. -/
inductive Source where
  | nowhere
  | unreadable
  | octets (os : List Nat)

structure Loaded where
  settings : Settings
  warned : Bool

inductive LoadError where
  | notUtf8
  | unconvertible (why : Yaml.ConversionError)
  deriving DecidableEq, Repr

def sectionName : String := "timexnorm"

/-- The entries of the section, each of them unfolded by itself. -/
def sectionOf (d : Yaml.Document) : Option (List (Value × Value)) := do
  let entries ← d.entries? (← d.get? d.root sectionName.toList)
  return entries.map fun (k, v) => (d.value k, d.value v)

/-- The settings of a section that can be written. -/
def ofSection (entries : List (Value × Value)) : Except Yaml.ConversionError Settings :=
  if names.all fun name => (Value.get? entries name.toList).all Value.isWritable then
    .ok (ofMapping entries)
  else .error .longInteger

/-- The settings in a file's document. -/
def ofDocument (d : Option Yaml.Document) : Except Yaml.ConversionError Settings :=
  match d.bind sectionOf with
  | some entries => ofSection entries
  | none => .ok default

def load [YamlLibrary] : Source → Except LoadError Loaded
  | .nowhere => .ok ⟨default, false⟩
  | .unreadable => .ok ⟨default, true⟩
  | .octets os =>
    match YamlLibrary.document os with
    | .error (.malformed _) | .error .unfinished => .ok ⟨default, true⟩
    | .error .notUtf8 => .error .notUtf8
    | .error (.unconvertible e) => .error (.unconvertible e)
    | .ok d =>
      match ofDocument d with
      | .ok s => .ok ⟨s, false⟩
      | .error e => .error (.unconvertible e)

/-- A file is refused only for octets that are not UTF-8, for a scalar that has no value
of its tag, or for a setting that cannot be written. -/
theorem load_eq_error_iff [YamlLibrary] (s : Source) (e : LoadError) :
    load s = .error e ↔ ∃ os, s = .octets os ∧
      match YamlLibrary.document os with
      | .error (.malformed _) | .error .unfinished => False
      | .error .notUtf8 => e = .notUtf8
      | .error (.unconvertible why) => e = .unconvertible why
      | .ok d => ∃ why, ofDocument d = .error why ∧ e = .unconvertible why := by
  cases s with
  | nowhere => simp [load]
  | unreadable => simp [load]
  | octets os =>
    rw [load]
    simp only [Source.octets.injEq, exists_eq_left']
    generalize YamlLibrary.document os = r
    rcases r with (why | d)
    · cases why <;> simp [eq_comm]
    · simp only
      generalize ofDocument d = r
      cases r <;> simp [eq_comm]

end Timex.Settings
