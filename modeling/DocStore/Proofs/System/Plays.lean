import DocStore.Proofs.System.Accounts

/-!
# Runs that are computed

A play follows cues, each of which says what a group, the call or a worker does next. A cue that cannot be
followed leaves everything as it is, so a play can be computed, and what it computes is a run.

Results:
  * `run_play`: every play is a run. Its calls are those that groups can be asked for, if there are any.
-/

namespace DocStore

/-- What somebody is to do next. -/
inductive Cue
  /-- The plugins of a configuration are held as a group. -/
  | hold (raw : Value) (stopTimeout : Nat)
  | start (place : Nat)
  | stop (place timeout : Nat)
  | reconfigure (place : Nat) (raw : Value)
  /-- The call goes on with its first command. -/
  | proceed
  | turn (ticket : Nat)
  /-- Items are handed to a feed. -/
  | feed (name : String) (items : List FeedItem)

/-- The cue is for a call. -/
def Cue.calls : Cue → Bool
  | .start _ | .stop .. | .reconfigure .. => true
  | _ => false

namespace System

/-- Ask a group for something, unless a call is under way. -/
def ask (sys : System) (place : Nat) (request : Request) : System :=
  match sys.groups[place]? with
  | none => sys
  | some g => if sys.callIsOver then { sys with call := some (request.call place g) } else sys

/-- Follow a cue, with what happens to workers. -/
def take (r : Registry) (sys : System) : Cue → List WorkEvent × System
  | .hold raw stopTimeout =>
    match PluginConfig.validate r raw with
    | .error _ => ([], sys)
    | .ok config => ([], if sys.callIsOver then sys.hold config stopTimeout else sys)
  | .start place => ([], sys.ask place .start)
  | .stop place timeout => ([], sys.ask place (.stop timeout))
  | .reconfigure place raw =>
    match PluginConfig.validate r raw with
    | .error _ => ([], sys)
    | .ok next => ([], sys.ask place (.reconfigure next))
  | .proceed =>
    match sys.call with
    | none => ([], sys)
    | some c => if c.result.isSome then ([], sys) else (sys.exitEvents c, sys.proceed c)
  | .turn ticket =>
    match sys.worker? ticket with
    | none => ([], sys)
    | some w => ((sys.turnDeeds w).map (.did ticket), sys.runWorker ticket)
  | .feed name items =>
    ([], { sys with feeds := sys.feeds.insert name (((sys.feeds.find? name).getD .empty).push items) })

/-- Follow cues one after the other. -/
def play (r : Registry) (sys : System) (cues : List Cue) : List WorkEvent × System :=
  cues.foldl (fun sofar cue => (sofar.1 ++ (sofar.2.take r cue).1, (sofar.2.take r cue).2)) ([], sys)

end System

namespace Traffic

open DocStore.System

variable {r : Registry} {start : Traffic} {sys : System} {log : List WorkEvent}
  {calls : System → Call → Prop}

theorem run_ask (run : Run calls start log (of sys)) (may : ∀ sys c, Requested r sys c → calls sys c)
    (place : Nat) {request : Request} (valid : request.Valid r) :
    Run calls start (log ++ []) (of (sys.ask place request)) := by
  unfold ask
  split
  · rwa [List.append_nil]
  · next g found =>
    split
    · next idle =>
      exact run.step (.call _ idle (may _ _ ⟨place, g, request, found, valid, rfl⟩) ⟨rfl, rfl⟩)
    · rwa [List.append_nil]

theorem run_take (run : Run calls start log (of sys)) (cue : Cue)
    (may : cue.calls = true → ∀ sys c, Requested r sys c → calls sys c) :
    Run calls start (log ++ (sys.take r cue).1) (of (sys.take r cue).2) := by
  have stays : Run calls start (log ++ []) (of sys) := by rwa [List.append_nil]
  unfold System.take
  cases cue with
  | hold raw stopTimeout =>
    dsimp only
    split
    · exact stays
    · next config validated =>
      dsimp only
      split
      · next idle => exact run.step (.hold stopTimeout idle validated)
      · exact stays
  | start place => exact run_ask run (may rfl) place trivial
  | stop place timeout => exact run_ask run (may rfl) place trivial
  | reconfigure place raw =>
    dsimp only
    split
    · exact stays
    · next next validated => exact run_ask run (may rfl) place ⟨raw, validated⟩
  | proceed =>
    dsimp only
    split
    · exact stays
    · next c called =>
      split
      · exact stays
      · next unfinished =>
        exact run.step (.proceed called (Option.not_isSome_iff_eq_none.1 unfinished))
  | turn ticket =>
    dsimp only
    split
    · exact stays
    · next w found => exact run.step (.other (.turn ticket (.run w found)))
  | feed name items => exact run.step (.other (.aside ⟨rfl, rfl, rfl, rfl, rfl, rfl, rfl⟩))

theorem run_play (r : Registry) (sys : System) {cues : List Cue}
    (may : cues.any (·.calls) = true → ∀ sys c, Requested r sys c → calls sys c) :
    Run calls (of sys) (sys.play r cues).1 (of (sys.play r cues).2) := by
  -- The cues are added at the end, as the steps of a run are.
  unfold play
  induction cues using List.reverseRecOn with
  | nil => exact .none
  | append_singleton cues cue ih =>
    rw [List.any_append, Bool.or_eq_true, List.any_cons, List.any_nil, Bool.or_false] at may
    rw [List.foldl_append]
    exact run_take (ih fun earlier => may (.inl earlier)) cue fun last => may (.inr last)

end Traffic

end DocStore
