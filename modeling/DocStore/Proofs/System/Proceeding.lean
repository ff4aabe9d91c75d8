import DocStore.Proofs.System.Commands

/-!
# Calls under way

A call proceeds command by command, and between two commands others go on. The polls of a call are
rows of commands, and so is a call that is seen through.

Results:
  * `pollsFrom_stepCall`: a poll goes on command by command;
  * `served_pollCallWith`, `served_pollCall`: a poll is a row of commands;
  * `served_runCallWith`: a call that is seen through is such a row, with turns of workers and time
    in between.
-/

namespace DocStore.System

/-- A call has been carried out for a while, with what the group noticed. Others have gone on beside
it. -/
inductive Proceeds (group : Nat) (sys : System) (c : Call) :
    List (Option String) → System → Call → Prop
  | here : Proceeds group sys c [] sys c
  | step {log : List (Option String)} {sys' : System} {c' : Call}
      (proceeds : Proceeds group sys c log sys' c') (unfinished : c'.result = none) :
      Proceeds group sys c (log ++ noticedBy group sys' c') (sys'.stepCall c').1 (sys'.stepCall c').2
  | beside {log : List (Option String)} {sys' sys'' : System} {c' : Call}
      (proceeds : Proceeds group sys c log sys' c') (unfinished : c'.result = none)
      (beside : Beside quietly sys' sys'') :
      Proceeds group sys c (log ++ noticed group sys' sys'') sys'' c'

variable {sys sys' sys'' : System} {c c' c'' : Call} {log more : List (Option String)} {group : Nat}

theorem Proceeds.trans (first : Proceeds group sys c log sys' c')
    (next : Proceeds group sys' c' more sys'' c'') : Proceeds group sys c (log ++ more) sys'' c'' := by
  induction next with
  | here =>
    rw [List.append_nil]
    exact first
  | step _ unfinished ih =>
    rw [← List.append_assoc]
    exact ih.step unfinished
  | beside _ unfinished beside ih =>
    rw [← List.append_assoc]
    exact ih.beside unfinished beside

theorem Proceeds.of_step (unfinished : c.result = none) :
    Proceeds group sys c (noticedBy group sys c) (sys.stepCall c).1 (sys.stepCall c).2 :=
  Proceeds.here.step unfinished

/-- A step beside the call that is about neither stores nor groups. -/
theorem Proceeds.aside {next : System} (proceeds : Proceeds group sys c log sys' c')
    (unfinished : c'.result = none) (stores : next.stores = sys'.stores)
    (groups : next.groups = sys'.groups) : Proceeds group sys c log next c' := by
  have later := proceeds.beside unfinished (.aside next stores groups)
  have silent : noticed group sys' next = [] := if_pos (by unfold overlapOf; rw [groups])
  rwa [silent, List.append_nil] at later

theorem Proceeds.besides {next : System} (proceeds : Proceeds group sys c log sys' c')
    (unfinished : c'.result = none) (row : Besides quietly sys' next) :
    ∃ log, Proceeds group sys c log next c' := by
  induction row with
  | refl => exact ⟨log, proceeds⟩
  | tail _ beside ih =>
    obtain ⟨log, later⟩ := ih
    exact ⟨_, later.beside unfinished beside⟩

/-! ## Polls -/

/-- What a poll does after a command. -/
def pollOn (fuel : Nat) (sys : System) (c : Call) (rest : List Command) : CommandResult → System
  | .error e => sys.finishCall c (.error e)
  | .ok first => pollCallWith fuel sys { c with agenda := first ++ rest, errand := none }

/-- A poll stops where the call stands, or goes on from there. -/
def PollsFrom (fuel : Nat) (polled : System) (stepped : System × Call) : Prop :=
  polled = { stepped.1 with call := some stepped.2 } ∨
    stepped.2.result = none ∧ polled = pollCallWith fuel stepped.1 stepped.2

theorem pollsFrom_goOn (fuel : Nat) (sys : System) {c : Call} (rest : List Command)
    (result : CommandResult) (unfinished : c.result = none) :
    PollsFrom fuel (pollOn fuel sys c rest result) (sys.goOn c rest result) := by
  cases result with
  | error e => exact .inl (finishCall_eq sys c (.error e))
  | ok commands => exact .inr ⟨unfinished, rfl⟩

theorem pollsFrom_stepCall (fuel : Nat) (unfinished : c.result = none) :
    PollsFrom fuel (pollCallWith (fuel + 1) sys c) (sys.stepCall c) := by
  unfold pollCallWith stepCall
  cases c.agenda with
  | nil => exact .inl (finishCall_eq sys c (.ok ()))
  | cons command rest =>
    cases command with
    | run plan followup =>
      dsimp only
      generalize sys.advanceErrand _ plan = advanced
      obtain ⟨mid, errand | result⟩ := advanced
      · exact .inl rfl
      · exact pollsFrom_goOn fuel _ rest _ unfinished
    | awaitExit ticket deadline =>
      dsimp only
      split
      · exact pollsFrom_goOn fuel _ rest (.ok []) unfinished
      · exact .inl rfl
    | _ => exact pollsFrom_goOn fuel _ rest _ unfinished

/-- What a poll of a call comes to is a row of commands. -/
structure Served (group : Nat) (sys : System) (c : Call) (polled : System) (log : List (Option String))
    (sys' : System) (c' : Call) : Prop where
  proceeds : Proceeds group sys c log sys' c'
  polled : polled = { sys' with call := some c' }
  errands : sys.OnErrands → sys'.OnErrands

theorem served_pollCallWith (group fuel : Nat) (unfinished : c.result = none) :
    ∃ log sys' c', Served group sys c (pollCallWith fuel sys c) log sys' c' := by
  induction fuel generalizing sys c with
  | zero => exact ⟨[], sys, c, .here, rfl, id⟩
  | succ fuel ih =>
    have first : Proceeds group sys c _ _ _ := .of_step unfinished
    have errands (before : sys.OnErrands) := onErrands_stepCall before c
    rcases pollsFrom_stepCall fuel unfinished with stops | ⟨goesOn, later⟩
    · exact ⟨_, _, _, first, stops, errands⟩
    · obtain ⟨log, sys', c', served⟩ := ih goesOn
      exact ⟨_, sys', c', first.trans served.proceeds, later.trans served.polled,
        fun before => served.errands (errands before)⟩

theorem served_pollCall (group : Nat) (called : sys.call = some c) (unfinished : c.result = none) :
    ∃ log sys' c', Served group sys c sys.pollCall log sys' c' := by
  unfold pollCall
  rw [called]
  dsimp only
  rw [unfinished]
  exact served_pollCallWith group _ unfinished

/-! ## Whole calls -/

/-- After a poll others have their turns, and the call is served again. -/
theorem Served.turns {polled next after : System} (served : Served group sys c polled log sys' c')
    (unfinished : c'.result = none) (turns : Turns polled next)
    (later : ∃ log sys'' c'', Served group next c' after log sys'' c'') :
    ∃ log sys'' c'', Served group sys c after log sys'' c'' := by
  obtain ⟨more, sys'', c'', again⟩ := later
  have held : Proceeds group sys c log polled c' :=
    served.proceeds.aside unfinished (by rw [served.polled]) (by rw [served.polled])
  obtain ⟨log', between⟩ := held.besides unfinished turns.besides
  refine ⟨_, sys'', c'', between.trans again.proceeds, again.polled, fun errands => ?_⟩
  have stands : polled.OnErrands := onErrands_of_eq (served.errands errands) (by rw [served.polled])
  exact again.errands (turns.errands stands)

/-- A call that is seen through is a row of commands with what goes on beside them. -/
theorem served_runCallWith (group fuel : Nat) (errands : sys.OnErrands) (called : sys.call = some c)
    (unfinished : c.result = none) :
    ∃ log sys' c', Served group sys c (runCallWith fuel sys) log sys' c' := by
  induction fuel generalizing sys c with
  | zero =>
    have same : sys = { sys with call := some c } := by rw [← called]
    exact ⟨[], sys, c, .here, same, id⟩
  | succ fuel ih =>
    obtain ⟨log, sys', c', served⟩ := served_pollCall group called unfinished
    have polled : sys.pollCall.call = some c' := by rw [served.polled]
    have stands : sys.pollCall.OnErrands :=
      onErrands_of_eq (served.errands errands) (by rw [served.polled])
    unfold runCallWith
    dsimp only
    split
    · exact ⟨log, sys', c', served⟩
    · next goesOn =>
      have open' : c'.result = none := by
        unfold callIsOver at goesOn
        rw [polled] at goesOn
        exact Option.not_isSome_iff_eq_none.1 goesOn
      split
      · have turns := turns_drain stands
        have stays := (steady_drain group sys.pollCall).call.trans polled
        exact served.turns open' turns (ih (turns.errands stands) stays open')
      · split
        · exact ⟨log, sys', c', served⟩
        · have turns := turns_moveTo sys.pollCall
          refine served.turns open' (turns _) (ih ((turns _).errands stands) ?_ open')
          exact (steady_moveTo group sys.pollCall _).call.trans polled

end DocStore.System
