import Timex.Normalizer.Basic

/-!
# Batches

Tokens are normalized one by one. A fault is logged and reported for its token; the
first breach stops the batch.
-/

namespace Timex

/-- The outcome for one token of a batch. -/
structure BatchEntry where
  token : Text
  outcome : Except Fault Output

namespace BatchEntry

def succeeded (e : BatchEntry) : Bool := e.outcome.isOk

/-- Empty for a token that failed. -/
def text (e : BatchEntry) : Text :=
  match e.outcome with
  | .ok output => output.text
  | .error _ => []

end BatchEntry

structure Batch where
  entries : List BatchEntry
  log : List Fault.LogEntry
  stopped : Option Breach

namespace Batch

def empty : Batch := ⟨[], [], none⟩

/-- Puts the outcome of a token in front of the batch of the tokens after it. -/
def cons (token : Text) (outcome : Except Failure Output) (rest : Batch) : Batch :=
  match outcome with
  | .ok output => { rest with entries := ⟨token, .ok output⟩ :: rest.entries }
  | .error (.fault f) =>
    { rest with
      entries := ⟨token, .error f⟩ :: rest.entries
      log := f.log .warning :: rest.log }
  | .error (.breach b) => ⟨[], [], some b⟩

/-- The batch of a function on tokens. -/
def run (normalizeOne : Text → Except Failure Output) : List Text → Batch
  | [] => empty
  | token :: tokens => cons token (normalizeOne token) (run normalizeOne tokens)

end Batch

def normalizeMany [LocaleLibrary] (s : Settings) (today : Date) (tokens : List Text)
    (facet : Facet) : Batch :=
  Batch.run (fun token => normalize s today token facet) tokens

end Timex
