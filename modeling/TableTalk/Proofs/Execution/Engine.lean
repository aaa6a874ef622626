import TableTalk.Execution.Executor
import TableTalk.Proofs.Double.Rounding
import TableTalk.Proofs.World.Action

/-!
# Runs of an engine

An engine evaluates a statement between two readings of the stopwatch, which is all that it looks at
and changes in the world. If the evaluation fails, only the first of them is taken.
-/

namespace TableTalk

open TableTalk.Action

namespace World

def stopwatch (w : World) : List Double × Nat :=
  (w.ticks, w.ticksTaken)

def reading (w : World) : Double :=
  (w.ticks[w.ticksTaken % w.ticks.length]?).getD Double.zero

def ticked (w : World) : World :=
  { w with ticksTaken := w.ticksTaken + 1 }

def lapse (w : World) : Double :=
  (w.ticked.reading.sub w.reading).mul Engine.thousand

theorem tick_run (w : World) : tick w = (.ok w.reading, w.ticked) :=
  rfl

theorem reading_congr {w w' : World} (h : w'.stopwatch = w.stopwatch) : w'.reading = w.reading := by
  obtain ⟨hticks, htaken⟩ := Prod.mk.inj h
  rw [reading, reading, hticks, htaken]

theorem lapse_congr {w w' : World} (h : w'.stopwatch = w.stopwatch) : w'.lapse = w.lapse := by
  have hticked : w'.ticked.stopwatch = w.ticked.stopwatch := by
    obtain ⟨hticks, htaken⟩ := Prod.mk.inj h
    exact Prod.ext hticks (congrArg (· + 1) htaken)
  rw [lapse, lapse, reading_congr h, reading_congr hticked]

theorem isValue_lapse (w : World) : w.lapse.IsValue :=
  Double.isValue_mul _ _

end World

namespace Engine

theorem run_of_ok {e : Engine} {statement : String} {answer : Query.Answer}
    (h : Query.evaluate e.strict e.table statement = .ok answer) (w : World) :
    e.run statement w = (.ok ⟨answer.columns, answer.rows, w.lapse⟩, w.ticked.ticked) := by
  rw [run, bind_of_ok (World.tick_run w), h]
  rfl

theorem run_of_error {e : Engine} {statement : String} {f : Failure}
    (h : Query.evaluate e.strict e.table statement = .error f) (w : World) :
    e.run statement w = (.error f, w.ticked) := by
  rw [run, bind_of_ok (World.tick_run w), h]
  rfl

/-- Of the world, only the stopwatch counts for what comes of a statement. -/
theorem run_congr {w w' : World} (h : w'.stopwatch = w.stopwatch) (e : Engine)
    (statement : String) : (e.run statement w').1 = (e.run statement w).1 := by
  cases heval : Query.evaluate e.strict e.table statement with
  | ok answer => rw [run_of_ok heval, run_of_ok heval, World.lapse_congr h]
  | error f => rw [run_of_error heval, run_of_error heval]

theorem isValue_elapsed {e : Engine} {statement : String} {w : World} {r : ResultSet}
    (h : (e.run statement w).1 = .ok r) : r.elapsed.IsValue := by
  cases heval : Query.evaluate e.strict e.table statement with
  | ok answer =>
    rw [run_of_ok heval] at h
    exact Except.ok.inj h ▸ w.isValue_lapse
  | error f =>
    rw [run_of_error heval] at h
    cases h

end Engine

end TableTalk
