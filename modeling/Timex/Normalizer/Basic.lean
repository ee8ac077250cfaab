import Timex.Fault
import Timex.Presentation
import Timex.Resolution

/-!
# Normalization

From a raw token to the text of one facet: resolve, classify, read, present. A fault
of any stage carries the raw token and, where it differs, the resolved text.
-/

namespace Timex

/-- A fault about the token, or a breach that has nothing to do with it. -/
inductive Failure where
  | fault (f : Fault)
  | breach (b : Breach)

/-- What a token says. -/
structure Analysis where
  granularity : Granularity
  value : Temporal
  deriving DecidableEq, Repr

structure Output where
  text : Text
  granularity : Granularity
  token : Text
  facet : Facet
  deriving DecidableEq, Repr

/-- Unknown years are filled in for the facets that show one. -/
def Facet.filling (f : Facet) : Filling := if f.needsFullDate then .substitute else .strip

namespace Fault

def ofOutOfRange (e : OutOfRange) : Fault :=
  outOfRange (Details.ofToken []) e.gap.name.toList
    (match e.value with
      | some n => .integer n
      | none => .null)
    (some e.facet.name.toList)

end Fault

/-- The granularity of a resolved token. -/
def classify (r : Resolution) : Except Fault Granularity :=
  match Granularity.classify? r.text r.markers with
  | some g => .ok g
  | none => .error (Fault.ofShape r.text)

/-- The value of a resolved text of a granularity. -/
def parse (t : Text) (g : Granularity) (synthesize : Bool) : Except Fault Temporal :=
  (Temporal.read t g synthesize).mapError (Fault.ofReading t g)

/-- Classifies and reads a resolved token. -/
def interpret (r : Resolution) : Except Fault Analysis := do
  let g ← classify r
  let v ← parse r.text g true
  return ⟨g, v⟩

/-- What a token says on a day. -/
def analyze (filling : Filling) (today : Date) (token : Text) : Except Fault Analysis :=
  (interpret (resolve filling today token)).mapError (·.attach token)

/-- Presents a value under the name of a token. -/
def presentAs [LocaleLibrary] (s : Settings) (facet : Facet) (token : Text) (a : Analysis) :
    Except Failure Output :=
  match present s facet a.value with
  | .ok text => .ok ⟨text, a.granularity, token, facet⟩
  | .error (.outOfRange e) => .error (.fault ((Fault.ofOutOfRange e).attach token))
  | .error (.breach b) => .error (.breach b)

def normalize [LocaleLibrary] (s : Settings) (today : Date) (token : Text) (facet : Facet) :
    Except Failure Output := do
  let a ← (analyze facet.filling today token).mapError .fault
  presentAs s facet token a

/-- The granularity of a date with a time joined to it. -/
def combinedGranularity (date : Granularity) (timed : Bool) : Granularity :=
  if timed && date == .dateOnly then .fullDateTime else date

/-- Normalizes a date token and a time token as one value. -/
def combine [LocaleLibrary] (s : Settings) (today : Date) (dateToken timeToken : Text)
    (facet : Facet) : Except Failure Output := do
  let date ← (analyze facet.filling today dateToken).mapError .fault
  let time ← (analyze .strip today timeToken).mapError .fault
  let value := date.value.withTime time.value
  presentAs s facet (dateToken ++ '+' :: timeToken)
    ⟨combinedGranularity date.granularity value.hadExplicitTime, value⟩

end Timex
