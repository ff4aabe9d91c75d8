import DocStore.Proofs.System.Agenda

/-!
# Serving a call

A call is made, and from then on it is polled again and again. In between, workers and other
transactions go on and time passes, in any order. The invariant, `Underway`, says that what is left
of the agenda leads where the whole agenda leads from what was held when the call was made.

Results:
  * `underway_pollCallWith`: polling keeps the invariant, however far it comes;
  * `runs_of_serves`: a call that is over has run its agenda;
  * `serves_makeCall`: a call that is made and seen through has been served.
-/

namespace DocStore.System

variable {sys sys' : System} {group : Nat} {agenda : List Command} {before h : Holding} {c : Call}

/-- The system with a call just made. -/
def placed (sys : System) (group : Nat) (purpose : Purpose) (agenda : List Command) : System :=
  { sys with
    call := some { group, purpose, agenda, errand := none, starting := none, result := none } }

/-- A system after some time in which its call was polled, and what else goes on went on. -/
inductive Serves (group : Nat) : System → System → Prop
  | refl (sys : System) : Serves group sys sys
  | poll {a b : System} : Serves group a b → Serves group a b.pollCall
  | steady {a b c : System} : Serves group a b → Steady group b c → Serves group a c

theorem Serves.trans {a b c : System} (first : Serves group a b) (next : Serves group b c) :
    Serves group a c := by
  induction next with
  | refl => exact first
  | poll _ ih => exact ih.poll
  | steady _ quiet ih => exact ih.steady quiet

/-- A call of a group that was made when it held `before`. -/
structure Underway (sys : System) (group : Nat) (agenda : List Command) (before : Holding)
    (c : Call) (h : Holding) : Prop where
  call : sys.call = some c
  place : c.group = group
  holds : sys.Holds group h
  /-- Where the rest leads, the whole agenda leads. -/
  rest : c.result = none → ∀ ok after, Runs c.agenda h ok after → Runs agenda before ok after
  ended : ∀ result, c.result = some result → Runs agenda before result.isOk h

theorem holds_placed (holds : sys.Holds group h) (call : Option Call) :
    { sys with call }.Holds group h :=
  ⟨holds.present, holds.plugins, holds.claims⟩

theorem underway_finishCall (c : Call) (place : c.group = group) (holds : sys.Holds group h)
    (result : Except PluginError Unit) (ran : Runs agenda before result.isOk h) :
    ∃ c', (sys.finishCall c result).Underway group agenda before c' h := by
  refine ⟨{ c with agenda := [], errand := none, result := some result }, rfl, place, ?_, ?_, ?_⟩
  · unfold finishCall
    refine holds_placed ?_ _
    cases result with
    | ok u => exact holds
    | error e =>
      dsimp only
      split
      · rw [place]
        exact holds_regrouped holds fun g => rfl
      · exact holds
  · intro open'
    cases open'
  · intro result' same
    cases same
    exact ran

/-- A call that has to wait, and where the rest of its agenda leads. -/
theorem underway_waiting (place : c.group = group) (opened : c.result = none)
    (holds : sys.Holds group h)
    (left : ∀ ok after, Runs c.agenda h ok after → Runs agenda before ok after) :
    { sys with call := some c }.Underway group agenda before c h := by
  refine ⟨rfl, place, holds_placed holds _, fun _ => left, fun result ended => ?_⟩
  rw [opened] at ended
  cases ended

/-- Polling with some fuel keeps the invariant. -/
def Polls (fuel group : Nat) (agenda : List Command) (before : Holding) : Prop :=
  ∀ (sys : System) (c : Call) (h : Holding), c.group = group → c.result = none →
    sys.Holds group h → (∀ ok after, Runs c.agenda h ok after → Runs agenda before ok after) →
    ∃ c' h', (pollCallWith fuel sys c).Underway group agenda before c' h'

/-- A call goes on with what a command comes to, put in front of the rest, or ends with the
failure of the command. -/
theorem underway_next {fuel : Nat} {command : Command} {rest : List Command} {h' : Holding}
    (result : CommandResult) (polls : Polls fuel group agenda before) (place : c.group = group)
    (opened : c.result = none) (holds : sys.Holds group h')
    (left : ∀ ok after, Runs (command :: rest) h ok after → Runs agenda before ok after)
    (does : h.Does command result.toOption h') :
    ∃ c' h'', (match result with
      | .error e => sys.finishCall c (.error e)
      | .ok first => pollCallWith fuel sys { c with agenda := first ++ rest, errand := none }
      ).Underway group agenda before c' h'' := by
  cases result with
  | error e =>
    obtain ⟨c', underway⟩ := underway_finishCall c place holds (.error e)
      (left false h' (.failed does))
    exact ⟨c', h', underway⟩
  | ok first =>
    exact polls sys { c with agenda := first ++ rest, errand := none } h' place opened holds
      fun ok after runs => left ok after (.went does runs)

/-- Polling keeps the invariant, however far it comes. -/
theorem underway_pollCallWith (fuel : Nat) : Polls fuel group agenda before := by
  -- One command for each unit of fuel: it moves the holding on, and shortens what is left.
  induction fuel with
  | zero =>
    intro sys c h place opened holds left
    exact ⟨c, h, underway_waiting place opened holds left⟩
  | succ fuel ih =>
    intro sys c h place opened holds left
    unfold pollCallWith
    cases row : c.agenda with
    | nil =>
      obtain ⟨c', underway⟩ := underway_finishCall c place holds (.ok ())
        (left true h (by rw [row]; exact .done h))
      exact ⟨c', h, underway⟩
    | cons command rest =>
      subst place
      rw [row] at left
      dsimp only
      split
      · next plan followup =>
        have advanced := steady_advanceErrand c.group sys
          { c with starting := startingAfter c (.run plan followup) } plan
        rw [row] at advanced
        split
        · next sys' errand found =>
          rw [found] at advanced
          exact ⟨_, h, underway_waiting rfl opened (advanced.holds h holds) left⟩
        · next sys' result found =>
          rw [found] at advanced
          obtain ⟨followed, comes⟩ := steady_follow c.group sys' c.group followup result
          have does : h.Does (.run plan followup)
              (sys'.follow c.group followup result).2.toOption h := ⟨rfl, comes⟩
          have held := followed.holds h (advanced.holds h holds)
          exact underway_next _ ih rfl opened held left does
      · next ticket deadline =>
        split
        · have does : h.Does (.awaitExit ticket deadline) (some []) h := ⟨rfl, rfl⟩
          exact underway_next (.ok []) ih rfl opened holds left does
        · exact ⟨_, h, underway_waiting rfl opened holds left⟩
      · obtain ⟨h', does, held⟩ := does_perform holds command
        exact underway_next _ ih rfl opened held left does

theorem underway_pollCall (underway : sys.Underway group agenda before c h) :
    ∃ c' h', sys.pollCall.Underway group agenda before c' h' := by
  unfold pollCall
  rw [underway.call]
  dsimp only
  split
  · exact ⟨c, h, underway⟩
  · next unfinished =>
    have opened : c.result = none := Option.not_isSome_iff_eq_none.1 unfinished
    exact underway_pollCallWith _ sys c h underway.place opened underway.holds (underway.rest opened)

theorem Steady.underway (quiet : Steady group sys sys')
    (underway : sys.Underway group agenda before c h) :
    sys'.Underway group agenda before c h :=
  { underway with
    call := quiet.call.trans underway.call
    holds := quiet.holds h underway.holds }

theorem Serves.underway (serves : Serves group sys sys')
    (underway : sys.Underway group agenda before c h) :
    ∃ c' h', sys'.Underway group agenda before c' h' := by
  induction serves with
  | refl => exact ⟨c, h, underway⟩
  | poll _ ih =>
    obtain ⟨c', h', later⟩ := ih
    exact underway_pollCall later
  | steady _ quiet ih =>
    obtain ⟨c', h', later⟩ := ih
    exact ⟨c', h', quiet.underway later⟩

theorem underway_placed (holds : sys.Holds group h) (purpose : Purpose) (agenda : List Command) :
    ∃ c, (sys.placed group purpose agenda).Underway group agenda h c h :=
  ⟨_, rfl, rfl, holds_placed holds _, fun _ _ _ runs => runs, fun _ ended => by cases ended⟩

/-- A call that is over has run its agenda, whatever else went on. -/
theorem runs_of_serves {purpose : Purpose} {result : Except PluginError Unit}
    (holds : sys.Holds group h) (serves : Serves group (sys.placed group purpose agenda) sys')
    (ended : sys'.call.bind (·.result) = some result) :
    ∃ h', sys'.Holds group h' ∧ Runs agenda h result.isOk h' := by
  obtain ⟨c, placed⟩ := underway_placed holds purpose agenda
  obtain ⟨c', h', underway⟩ := serves.underway placed
  rw [underway.call] at ended
  exact ⟨h', underway.holds, underway.ended result ended⟩

theorem serves_runCallWith (fuel : Nat) (sys : System) :
    Serves group sys (runCallWith fuel sys) := by
  induction fuel generalizing sys with
  | zero => exact .refl sys
  | succ fuel ih =>
    have polled : Serves group sys sys.pollCall := (Serves.refl sys).poll
    unfold runCallWith
    dsimp only
    split
    · exact polled
    · split
      · exact (polled.steady (steady_drain group _)).trans (ih _)
      · split
        · exact polled
        · exact (polled.steady (steady_moveTo group _ _)).trans (ih _)

/-- A call that is made and seen through has been served. -/
theorem serves_makeCall (sys : System) (group : Nat) (purpose : Purpose) (agenda : List Command) :
    Serves group (sys.placed group purpose agenda) (sys.makeCall group purpose agenda) :=
  serves_runCallWith _ _

/-! ## Calls that are over -/

/-- A call of a group was made, and after some time it has come to a result. -/
structure Called (sys : System) (group : Nat) (purpose : Purpose) (agenda : Group → List Command)
    (result : Except PluginError Unit) (sys' : System) : Prop where
  served : ∃ g, sys.groups[group]? = some g ∧ Serves group (sys.placed group purpose (agenda g)) sys'
  ended : sys'.call.bind (·.result) = some result

/-- What a call that is over has made of what was held. -/
theorem runs_of_called {purpose : Purpose} {agenda : Group → List Command}
    {result : Except PluginError Unit} (holds : sys.Holds group h)
    (called : Called sys group purpose agenda result sys') :
    ∃ g h', g.plugins = h.plugins ∧ sys'.Holds group h' ∧ Runs (agenda g) h result.isOk h' := by
  obtain ⟨g, found, serves⟩ := called.served
  obtain ⟨g', found', same⟩ := holds.plugins
  rw [found] at found'
  cases found'
  obtain ⟨h', held, runs⟩ := runs_of_serves holds serves called.ended
  exact ⟨g, h', same, held, runs⟩

/-- A call that is made and seen through, and has a result. -/
theorem called_makeCall {g : Group} (found : sys.groups[group]? = some g) {purpose : Purpose}
    {agenda : Group → List Command} {result : Except PluginError Unit}
    (ended : (sys.makeCall group purpose (agenda g)).call.bind (·.result) = some result) :
    Called sys group purpose agenda result (sys.makeCall group purpose (agenda g)) :=
  ⟨⟨g, found, serves_makeCall sys group purpose (agenda g)⟩, ended⟩

end DocStore.System
