import Timex.Calendar.Clock
import Timex.Normalizer.Batch

/-!
# Sessions

A normalizer is a pair of settings and a clock. A session shares one normalizer: the first
use that can make it does so, from the environment of that moment, and it stays until a
reset, whatever becomes of the environment. A normalizer cannot be made while the search for
the zone of its clock breaks off. Calls with settings or a clock of their own leave the shared
one alone.
-/

namespace Timex

structure Normalizer where
  settings : Settings
  clock : Clock
  deriving DecidableEq

namespace Normalizer

/-- Default settings and the system clock of the settings' zone stand in for what is
not given. -/
def ofParts [ZoneLibrary] (settings : Option Settings) (clock : Option Clock) :
    Except ZoneError Normalizer :=
  let settings := settings.getD Settings.default
  match clock with
  | some clock => return ⟨settings, clock⟩
  | none => return ⟨settings, ← Clock.ofZoneName settings.timezone⟩

def ofEnvironment [ZoneLibrary] (env : Settings.Environment) : Except ZoneError Normalizer :=
  ofParts (some (Settings.ofEnvironment env)) none

def today [ZoneLibrary] (n : Normalizer) (now : Instant) : Date := n.clock.today now

end Normalizer

structure Session where
  environment : Settings.Environment
  shared : Option Normalizer
  deriving DecidableEq

namespace Session

def start : Session := ⟨[], none⟩

inductive Step where
  | setVariable (name value : Text)
  | unsetVariable (name : Text)
  | reset
  | isCached
  | get
  | normalize (token : Text) (facet : Facet) (settings : Option Settings) (clock : Option Clock)
      (now : Instant)
  | normalizeMany (tokens : List Text) (facet : Facet) (now : Instant)

inductive Answer where
  | done
  | cached (isCached : Bool)
  | normalizer (n : Normalizer)
  | output (outcome : Except Failure Output)
  | batch (b : Batch)
  /-- There is no normalizer to answer. -/
  | failed (e : ZoneError)

def setVariable (s : Session) (name value : Text) : Session :=
  { s with environment := (name, value) :: s.environment.filter (·.1 ≠ name) }

def unsetVariable (s : Session) (name : Text) : Session :=
  { s with environment := s.environment.filter (·.1 ≠ name) }

section
variable [LocaleLibrary] [ZoneLibrary]

/-- The shared normalizer, made from the environment if there is none. -/
def sharedNormalizer (s : Session) : Except ZoneError Normalizer :=
  match s.shared with
  | some n => return n
  | none => Normalizer.ofEnvironment s.environment

/-- The shared normalizer answers, and is there from then on. -/
def useShared (s : Session) (answer : Normalizer → Answer) : Session × Answer :=
  match s.sharedNormalizer with
  | .ok n => ({ s with shared := some n }, answer n)
  | .error e => (s, .failed e)

def step (s : Session) : Step → Session × Answer
  | .setVariable name value => (s.setVariable name value, .done)
  | .unsetVariable name => (s.unsetVariable name, .done)
  | .reset => ({ s with shared := none }, .done)
  | .isCached => (s, .cached s.shared.isSome)
  | .get => s.useShared .normalizer
  | .normalize token facet none none now =>
    s.useShared fun n => .output (Timex.normalize n.settings (n.today now) token facet)
  | .normalize token facet settings clock now =>
    match Normalizer.ofParts settings clock with
    | .ok n => (s, .output (Timex.normalize n.settings (n.today now) token facet))
    | .error e => (s, .failed e)
  | .normalizeMany tokens facet now =>
    s.useShared fun n => .batch (Timex.normalizeMany n.settings (n.today now) tokens facet)

/-- The session after a row of steps, and the answers. -/
def run (s : Session) : List Step → Session × List Answer
  | [] => (s, [])
  | first :: rest =>
    let (s, answer) := s.step first
    let (s, answers) := run s rest
    (s, answer :: answers)

end
end Session
end Timex
