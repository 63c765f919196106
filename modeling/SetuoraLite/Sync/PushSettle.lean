import SetuoraLite.Lib.JsonPrint
import SetuoraLite.Sync.Frozen

/-!
# Settling the event in flight

A pass that has posted an event waits for Master's answer, and whatever the answer is,
the event is to leave its in-flight state: `SENT` or `FAILED`, and its batch with it.

The answer to a success is read inside an `except Exception`. An error is read outside
of one, and `_bounded_master_error_envelope` catches two exceptions only: an integer
with too many digits and a container nested too deep raise others, and a lone surrogate
in the summary raises when the failure is committed. `AnswerSettles` is what is left.
-/

namespace SetuoraLite

open Lib

/-! ## The answer and what it should lead to -/

/-- The answer to the POST: `urlopen` raises `HTTPError` or returns. -/
def answer (raised : Bool) (status : Int) (body : List UInt8) : Reply :=
  if raised then .httpError status body else .response status body

/-- The event is sent or failed, and its batch synced or failed. -/
def Settled (db : Db) (event : MasterOutboxEvent) : Prop :=
  (∃ row, db.event event.id = some row ∧ (row.status = .sent ∨ row.status = .failed)) ∧
    ∀ batch, eventBatch db event = some batch → batch.status = .synced ∨ batch.status = .failed

variable {rt : Runtime} {w : World} {p : Nat} {pass : Pass} {event : MasterOutboxEvent}

/-- A pass that waits for Master takes the answer. -/
private theorem answered (rt : Runtime) (reply : Reply) (t₁ : Instant)
    (hpass : w.passes p = some pass) (hphase : pass.phase = .posted event) :
    pushMachine rt w (.pass p t₁ (some reply)) = some (w.setPass p
      (match judge rt pass.apiKey event reply with
        | .error _ => none
        | .ok (.failed failure) => some { pass with phase := .failing event failure }
        | .ok (.acknowledged status body) =>
          some { pass with phase := .acked event status body })) := by
  show (w.passes p).bind _ = _
  rw [hpass]
  show passStep rt w p pass t₁ (some reply) = _
  unfold passStep
  rw [hphase]
  dsimp only
  split <;> simp_all

/-- The baseline is queued and a pass has posted it. -/
def baselinePosted : List Action :=
  [.enqueue (py "11111111-1111-4111-8111-111111111111") 63900000000000000 emptyBaseline,
    .begin 0 100, .pass 0 63900000001000000 none, .pass 0 0 none, .pass 0 0 none, .pass 0 0 none]

end SetuoraLite
