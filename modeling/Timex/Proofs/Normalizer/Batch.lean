import Timex.Normalizer.Batch
import Timex.Proofs.Normalizer.Analysis

/-!
# Batches token by token

A batch reports every token as it is normalized alone, in order, and logs the fault of every
token that fails. A breach stops it: the log then holds the faults of the tokens in front. The
batch of two rows of tokens is that of the first row, followed by that of the second unless
the first stops.
-/

namespace Timex

-- ---------------------------------------------------------------------------
-- Entries
-- ---------------------------------------------------------------------------

namespace Batch

/-- The batch of a row of tokens and of a second row. What has stopped does not go on. -/
def append (first second : Batch) : Batch :=
  match first.stopped with
  | none => ⟨first.entries ++ second.entries, first.log ++ second.log, second.stopped⟩
  | some _ => first

theorem cons_append (token : Text) (outcome : Except Failure Output) (first second : Batch) :
    cons token outcome (first.append second) = (cons token outcome first).append second := by
  rcases outcome with (f | b) | output
  · cases hs : first.stopped <;> simp [append, cons, hs]
  · rfl
  · cases hs : first.stopped <;> simp [append, cons, hs]

-- ---------------------------------------------------------------------------
-- Rows of tokens
-- ---------------------------------------------------------------------------

section
variable {normalizeOne : Text → Except Failure Output} {tokens : List Text}

theorem run_append (tokens more : List Text) :
    run normalizeOne (tokens ++ more) =
      (run normalizeOne tokens).append (run normalizeOne more) := by
  induction tokens with
  | nil => rfl
  | cons token tokens ih => rw [List.cons_append, run, run, ih, cons_append]

end
end Batch

-- ---------------------------------------------------------------------------
-- Normalizations
-- ---------------------------------------------------------------------------

end Timex
