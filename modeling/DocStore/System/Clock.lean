import DocStore.System.Tick

/-!
# The clock

Time passes in steps from timer to timer. Before it passes, everything that can go on does so until
it waits for the clock or for a lock. Timers that are due when a span of time ends are set off, but
whoever they call goes on only after that.
-/

namespace DocStore.System

/-- How many turns all workers together can take before time passes: each can be called for a few
things in one tick. -/
def turns (sys : System) : Nat := sys.ready.length + 8 * sys.workers.length + 8

/-- Let workers go on until none can, one for each unit of fuel. -/
def drainWith : Nat → System → System
  | 0, sys => sys
  | fuel + 1, sys =>
    match sys.ready with
    | [] => sys
    | ticket :: rest => drainWith fuel ({ sys with ready := rest }.runWorker ticket)

/-- Let workers go on until none can. -/
def drain (sys : System) : System := drainWith sys.turns sys

/-- When the next timer is due. -/
def nextDue? (sys : System) : Option Nat := (sys.timers.map (·.due)).min?

/-- Move on to a time, setting off what is due by then. -/
def moveTo (sys : System) (time : Nat) : System :=
  let (due, later) := sys.timers.partition (·.due ≤ time)
  { sys with
    now := time
    timers := later
    ready := sys.ready ++ due.map (·.ticket) }

/-- Let time pass up to `time`. Each timer on the way spends one unit of fuel. -/
def passTo (time : Nat) : Nat → System → System
  | 0, sys => sys.moveTo time
  | fuel + 1, sys =>
    let sys := sys.drain
    match sys.nextDue? with
    | none => sys.moveTo time
    | some due => if due < time then passTo time fuel (sys.moveTo due) else sys.moveTo time

/-- Let a number of milliseconds pass. -/
def pass (sys : System) (millis : Nat) : System := passTo (sys.now + millis) (millis + 1) sys

end DocStore.System
