import DocStore.Proofs.System.Service
import DocStore.Proofs.System.Watching

/-!
# Running, watched and claimed

The plugins that run, what the watch of their group knows, and the claims of the store: three maps that
calls write at different places. They agree after every call of a group in service exactly if every call
that failed was harmless, that is, if it left running and claimed what had been so before and was to
stay. A stop makes them agree in any case.

Results:
  * `attends_stepsTo`, `attends_proceeds`: what is left of a call leads where the whole call leads;
  * `agree_iff_harmless`: when the three maps agree after a call;
  * `agreement_iff_harmless`: when they agree after every call.
-/

namespace DocStore

/-- The plugins of these names are to stay as they are. -/
def Request.stays : Request → String → Bool
  | .start, _ => true
  | .stop _, _ => false
  | .reconfigure next, name => next.contains name

/-- A call has started no plugin, has stopped none but those that were not to stay, and has made or
given up no claims but those of the latter. -/
def Made.Harmless (made : Made) : Prop :=
  ∀ name,
    made.after.runningPath? name =
      (if made.request.stays name then made.before.runningPath? name else none) ∧
    made.after.claims.find? name =
      (if made.request.stays name then made.before.claims.find? name else none)

namespace System

variable {r : Registry} {group : Nat} {start sys sys' : System} {g : Group} {b b' : Books}
  {c c' : Call} {agenda : List Command} {before : Books} {log : List (Option String)}
  {notes : List Note}

/-! ## The books of a system -/

/-- In this system the books of a group are these. -/
structure Keeps (sys : System) (group : Nat) (b : Books) : Prop where
  holds : sys.Holds group b.toHolding
  active : ∃ g, sys.groups[group]? = some g ∧ g.active = b.active

theorem Keeps.books (keeps : sys.Keeps group b) : sys.books group = b := by
  obtain ⟨g, found, active⟩ := keeps.active
  unfold System.books
  rw [keeps.holds.holding, found, Option.map_some, Option.getD_some, active]

theorem keeps_of_group (holds : sys'.Holds group b.toHolding)
    (found : sys'.groups[group]? = some g) (active : g.active = b.active) : sys'.Keeps group b :=
  ⟨holds, g, found, active⟩

/-- What goes on beside a call changes no books, as long as nobody changes claims. -/
theorem Keeps.beside {may : Nat → Store → Store → Prop}
    (claims : ∀ place s s', may place s s' → s'.claims = s.claims) (beside : Beside may sys sys')
    (keeps : sys.Keeps group b) : sys'.Keeps group b := by
  obtain ⟨g, found, active⟩ := keeps.active
  obtain ⟨overlap, status, found'⟩ := group_beside beside found
  refine keeps_of_group ?_ found' active
  cases beside with
  | aside _ stores groups =>
    obtain ⟨g', held, same⟩ := keeps.holds.plugins
    refine ⟨by rw [stores]; exact keeps.holds.present, ⟨g', by rw [groups, held], same⟩, ?_⟩
    rw [storeAt_of_stores stores]
    exact keeps.holds.claims
  | store place change kept =>
    exact (steady_updateStore group sys place change (claims _ _ _ kept)).holds _ keeps.holds
  | commit place t => exact (steady_commit group sys place t).holds _ keeps.holds

theorem Keeps.besides {may : Nat → Store → Store → Prop}
    (claims : ∀ place s s', may place s s' → s'.claims = s.claims) (row : Besides may sys sys')
    (keeps : sys.Keeps group b) : sys'.Keeps group b := by
  induction row with
  | refl => exact keeps
  | tail _ beside ih => exact ih.beside claims beside

theorem Keeps.quietly (beside : Beside quietly sys sys') (keeps : sys.Keeps group b) :
    sys'.Keeps group b :=
  keeps.beside (fun _ _ _ spares => spares.claims) beside

theorem Keeps.advanceErrand {plan : Plan} (sent : ∀ e, c.errand = some e → e.Sent plan)
    (keeps : sys.Keeps group b) : (sys.advanceErrand c plan).1.Keeps group b :=
  keeps.besides (fun _ _ _ kept => kept.claims)
    (besides_advanceErrand allows_locally (permits_locally plan) sent)

theorem Keeps.follow (keeps : sys.Keeps group b) (followup : Followup)
    (result : Except Refusal Outcome) : (sys.follow group followup result).1.Keeps group b := by
  obtain ⟨g, found, active⟩ := keeps.active
  refine keeps_of_group ((steady_follow group sys group followup result).1.holds _ keeps.holds)
    (group_follow found followup result) ?_
  have checked (bundles : Dict (List Path)) : (g.check bundles).active = b.active := by
    obtain ⟨overlap, status, same⟩ := check_keeps g bundles
    rw [same, ← active]
  unfold Group.followed
  split <;> first | exact checked _ | exact active

theorem Keeps.reported (keeps : sys.Keeps group b) (place : c.group = group)
    (result : Except PluginError Unit) : (sys.reported c result).Keeps group b := by
  obtain ⟨g, found, active⟩ := keeps.active
  obtain ⟨g', held, same⟩ := keeps.holds.plugins
  cases found.symm.trans held
  have found' := group_reported found place result
  refine keeps_of_group ⟨?_, ⟨_, found', same⟩, ?_⟩ found' active
  · rw [stores_reported]
    exact keeps.holds.present
  · rw [storeAt_of_stores (stores_reported sys c result)]
    exact keeps.holds.claims

/-! ## Commands -/

/-- A command that never fails, with what it comes to. -/
theorem sure_perform (found : sys.groups[group]? = some g) {command : Command}
    (sure : command.Sure) (prompt : command.Prompt) :
    ∃ row, (sys.perform group command).2 = .ok row ∧ ∀ c ∈ row, c.Sure := by
  unfold perform
  rw [found]
  cases command with
  | publish | adopt config => exact ⟨[], rfl, fun _ never => by cases never⟩
  | enlist =>
    dsimp only
    split
    · exact ⟨[], rfl, fun _ never => by cases never⟩
    · exact ⟨_, rfl, by simp [Command.Sure]⟩
  | settle registered =>
    dsimp only
    split <;> exact ⟨[], rfl, fun _ never => by cases never⟩
  | run plan followup => exact prompt.elim
  | _ => exact sure.elim

/-- Every command does to the books what is said of it. -/
theorem does_books (keeps : sys.Keeps group b) {command : Command} (prompt : command.Prompt) :
    ∃ b', b.Does command (sys.perform group command).2.toOption b' ∧
      (sys.perform group command).1.Keeps group b' := by
  obtain ⟨h, does, holds⟩ := does_perform keeps.holds command
  obtain ⟨g, found, active⟩ := keeps.active
  obtain ⟨g', held, same⟩ := keeps.holds.plugins
  cases found.symm.trans held
  obtain ⟨plugins, told⟩ := group_perform found command
  have known : (g.told command).active = b.activeAfter command := by
    cases command with
    | publish => exact Holding.running_of_plugins same
    | unpublish => rfl
    | settle registered =>
      unfold Group.told
      dsimp only
      split <;> exact active
    | _ => exact active
  refine ⟨{ h with active := (g.told command).active }, ⟨does, known, fun sure => ?_⟩,
    keeps_of_group holds told rfl⟩
  obtain ⟨row, comes, all⟩ := sure_perform found sure prompt
  exact ⟨row, by rw [comes]; rfl, all⟩

/-- So does an errand that is over, with what follows it. -/
theorem does_errand {plan : Plan} {mid : System} (followup : Followup)
    {result : Except Refusal Outcome} (keeps : sys.Keeps group b)
    (sent : ∀ e, c.errand = some e → e.Sent plan)
    (advanced : sys.advanceErrand c plan = (mid, .finished result)) :
    b.Does (.run plan followup) (mid.follow group followup result).2.toOption b ∧
      (mid.follow group followup result).1.Keeps group b := by
  have kept := keeps.advanceErrand sent
  rw [advanced] at kept
  refine ⟨⟨⟨rfl, (steady_follow group mid group followup result).2⟩, rfl, fun sure => ?_⟩,
    kept.follow followup result⟩
  -- A look goes on whatever it was answered; other errands that never fail only register.
  have either : followup = .checkOverlaps ∨ ∃ outcome, result = .ok outcome := by
    by_cases check : followup = .checkOverlaps
    · exact .inl check
    · cases plan with
      | register listener =>
        have finished : (sys.advanceErrand c (.register listener)).2 = .finished result := by
          rw [advanced]
        exact .inr (advanceErrand_register_ok sent finished)
      | _ => cases followup <;> first | exact absurd rfl check | exact sure.elim
  refine ⟨[], ?_, fun _ never => by cases never⟩
  rw [follow_sure either]
  rfl

/-! ## Calls -/

/-- A call of a group that was made with these books and this agenda. -/
structure Attends (sys : System) (group : Nat) (agenda : List Command) (before : Books) (c : Call)
    (b : Books) : Prop where
  place : c.group = group
  coherent : c.Coherent
  keeps : sys.Keeps group b
  /-- Where the rest leads, the whole agenda leads. -/
  rest : c.result = none → ∀ ok after, Tells c.agenda b ok after → Tells agenda before ok after
  ended : ∀ result, c.result = some result → Tells agenda before result.isOk b

/-- The call has just been over. -/
theorem attends_ended (place : c.group = group) (keeps : sys.Keeps group b)
    (result : Except PluginError Unit) (told : Tells agenda before result.isOk b) :
    sys.Attends group agenda before (c.ended result) b := by
  refine ⟨place, fun e never => (by cases never), keeps, fun never => (by cases never), ?_⟩
  intro result' same
  cases same
  exact told

/-- A call goes on with what its first command comes to, or ends with the failure of it. -/
theorem attends_goOn {command : Command} {rest : List Command} {next : CommandResult}
    (place : c.group = group) (unfinished : c.result = none) (keeps : sys.Keeps group b')
    (left : ∀ ok after, Tells (command :: rest) b ok after → Tells agenda before ok after)
    (does : b.Does command next.toOption b') :
    (sys.goOn c rest next).1.Attends group agenda before (sys.goOn c rest next).2 b' := by
  cases next with
  | error e =>
    exact attends_ended place (keeps.reported place _) (.error e) (left false b' (.failed does))
  | ok first =>
    refine ⟨place, fun e never => (by cases never), keeps, fun _ ok after told =>
      left ok after (.went does told), fun result ended => ?_⟩
    cases unfinished.symm.trans ended

theorem attends_stepsTo {noted : List (Option String)} (attends : sys.Attends group agenda before c b)
    (unfinished : c.result = none) (steps : StepsTo group sys c noted sys' c') :
    ∃ b', sys'.Attends group agenda before c' b' := by
  obtain ⟨place, coherent, keeps, left, -⟩ := attends
  have still := steps.coherent coherent
  have left := left unfinished
  have open' (result : Except PluginError Unit) (ended : c.result = some result) :
      Tells agenda before result.isOk b := by cases unfinished.symm.trans ended
  cases steps with
  | ends row =>
    rw [row] at left
    exact ⟨b, attends_ended place keeps (.ok ()) (left true b (.done b))⟩
  | @waits plan followup rest _ errand row advanced =>
    have kept := keeps.advanceErrand (coherent.sent row)
    rw [advanced] at kept
    exact ⟨b, place, still, kept, fun _ => left, open'⟩
  | @runs plan followup rest mid after result next row advanced followed =>
    rw [row] at left
    rw [place] at followed
    obtain ⟨does, kept⟩ := does_errand followup keeps (coherent.sent row) advanced
    rw [followed] at does kept
    exact ⟨b, attends_goOn place unfinished kept left does⟩
  | patient row => exact ⟨b, place, coherent, keeps, fun _ => left, open'⟩
  | @exits ticket deadline rest row =>
    rw [row] at left
    have does : b.Does (.awaitExit ticket deadline) (some []) b :=
      ⟨⟨rfl, rfl⟩, rfl, fun never => never.elim⟩
    exact ⟨b, place, fun e never => (by cases never), keeps,
      fun _ ok after told => left ok after (.went does told), open'⟩
  | @performs command rest after next row prompt performed =>
    rw [row] at left
    obtain ⟨b', does, kept⟩ := does_books keeps prompt
    rw [place] at performed
    rw [performed] at does kept
    exact ⟨b', attends_goOn place unfinished kept left does⟩

/-- However far a call proceeds, and whatever goes on beside it. -/
theorem attends_proceeds (attends : sys.Attends group agenda before c b)
    (proceeds : Proceeds group sys c log sys' c') : ∃ b', sys'.Attends group agenda before c' b' := by
  induction proceeds with
  | here => exact ⟨b, attends⟩
  | step _ unfinished ih =>
    obtain ⟨b', later⟩ := ih
    exact attends_stepsTo later unfinished (stepsTo_stepCall group _ _)
  | beside _ unfinished beside ih =>
    obtain ⟨b', later⟩ := ih
    exact ⟨b', { later with keeps := later.keeps.quietly beside }⟩

/-- What a call that is over has made of the books. -/
theorem tells_of_proceeds {request : Request} {result : Except PluginError Unit}
    (keeps : sys.Keeps group b) (proceeds : Proceeds group sys (request.call group g) log sys' c)
    (ended : c.result = some result) :
    ∃ b', sys'.Keeps group b' ∧ Tells (request.agenda g) b result.isOk b' := by
  have placed : sys.Attends group (request.agenda g) b (request.call group g) b :=
    ⟨rfl, fun e never => (by cases never), keeps, fun _ _ _ told => told, fun _ never => by cases never⟩
  obtain ⟨b', attends⟩ := attends_proceeds placed proceeds
  exact ⟨b', attends.keeps, attends.ended result ended⟩

/-! ## One call -/

variable {request : Request} {ok : Bool}

/-- What a request makes of books in agreement: they agree again when the call comes to its end, and
when it fails the watch knows the plugins that ran before and stay. -/
theorem tells_request (neat : b.toHolding.Neat r) (valid : request.Valid r)
    (same : g.plugins = b.plugins) (agree : b.Agree) (tells : Tells (request.agenda g) b ok b') :
    (ok = true → b'.Agree) ∧ (ok = false → ∀ name, b'.activePath? name =
      if request.stays name then b.runningPath? name else none) := by
  cases request with
  | start =>
    obtain ⟨succeeds, fails⟩ := tells_startAgenda neat same tells
    refine ⟨fun ended => succeeds ended agree, fun failed name => ?_⟩
    have known := agree.active name
    unfold Books.activePath? at known ⊢
    rw [fails failed]
    exact known
  | stop timeout =>
    obtain ⟨agree', idle⟩ := tells_stopAgenda same tells
    exact ⟨fun _ => agree', fun _ name => (agree'.active name).trans (idle name)⟩
  | reconfigure next =>
    obtain ⟨raw, validated⟩ := valid
    obtain ⟨succeeds, fails⟩ :=
      tells_reconfigureAgenda neat (PluginConfig.sound_of_validate validated) same tells
    exact ⟨fun ended => succeeds ended agree, fails⟩

/-- After a call that was made with books in agreement they agree, unless it failed and did harm. -/
theorem agree_iff_harmless {result : Except PluginError Unit} {report : Option Status}
    (neat : b.toHolding.Neat r) (valid : request.Valid r) (same : g.plugins = b.plugins)
    (agree : b.Agree) (tells : Tells (request.agenda g) b result.isOk b') :
    b'.Agree ↔ (result.isOk = false → Made.Harmless ⟨request, result, report, b, b'⟩) := by
  obtain ⟨succeeds, fails⟩ := tells_request neat valid same agree tells
  have claimed (name : String) : (if request.stays name then b.claims.find? name else none) =
      if request.stays name then b.runningPath? name else none := by rw [agree.claims name]
  -- When the call failed, the watch knows what ran before and stays, which has to run still.
  constructor
  · intro agree' failed name
    have known := fails failed name
    refine ⟨(agree'.active name).symm.trans known, ?_⟩
    rw [claimed, agree'.claims name, ← agree'.active name, known]
  · intro harmless
    cases ended : result.isOk with
    | true => exact succeeds ended
    | false =>
      refine ⟨fun name => ?_, fun name => ?_⟩
      · rw [fails ended name, (harmless ended name).1]
      · exact ((harmless ended name).2.trans (claimed name)).trans (harmless ended name).1.symm

/-! ## All calls -/

/-- After every call the three maps agree. -/
def AlwaysAgree (notes : List Note) : Prop :=
  ∀ made, .returned made ∈ notes → made.after.Agree

/-- Every call that failed was harmless. -/
def HarmlessFailures (notes : List Note) : Prop :=
  ∀ made, .returned made ∈ notes → made.result.isOk = false → made.Harmless

theorem returned_mem_noticed {made : Made} :
    .returned made ∈ notes ++ log.map .noticed ↔ .returned made ∈ notes := by
  rw [List.mem_append, or_iff_left]
  intro never
  obtain ⟨overlap, -, same⟩ := List.mem_map.1 never
  cases same

theorem returned_mem_call {made last : Made} :
    .returned made ∈ notes ++ log.map .noticed ++ [.returned last] ↔
      .returned made ∈ notes ∨ made = last := by
  rw [List.mem_append, returned_mem_noticed, List.mem_singleton]
  exact or_congr_right ⟨fun same => (by cases same; rfl), fun same => by rw [same]⟩

theorem books_ofConfig {raw : Value} {config : PluginConfig} {first stopTimeout : Nat}
    (present : pluginStore < sys.stores.length) (validated : PluginConfig.validate r raw = .ok config)
    (held : sys.groups[group]? = some (Group.ofConfig config first stopTimeout)) :
    ∃ b, sys.Keeps group b ∧ b.toHolding.Neat r ∧
      ((sys.storeAt pluginStore).claims = [] → b.Agree) := by
  obtain ⟨h, orderly⟩ := orderly_ofConfig present validated held
  refine ⟨{ h with active := [] }, ⟨orderly.holds, _, held, rfl⟩, orderly.neat, fun unclaimed => ?_⟩
  obtain ⟨g, found, same⟩ := orderly.holds.plugins
  cases held.symm.trans found
  have idle (name : String) : h.runningPath? name = none := by
    unfold Holding.runningPath?
    rw [← same]
    cases stands : (Group.ofConfig config first stopTimeout).plugins.find? name with
    | none => rfl
    | some p => exact Holding.ownPath?_of_stopped (entry_of_ofConfig stands).2
  have claims : h.claims = [] := orderly.holds.claims.symm.trans unclaimed
  refine ⟨fun name => (idle name).symm, fun name => ?_⟩
  exact (show h.claims.find? name = none by rw [claims]; rfl).trans (idle name).symm

theorem valid_agenda (g : Group) (valid : request.Valid r) :
    ∀ command ∈ request.agenda g, command.Valid r := by
  cases request with
  | start => exact valid_startAgenda g
  | stop timeout => exact valid_stopAgenda g timeout
  | reconfigure next =>
    obtain ⟨raw, validated⟩ := valid
    exact valid_reconfigureAgenda g (PluginConfig.sound_of_validate validated)

/-- The books of a group in service are in order. -/
theorem service_keeps (service : Service r group start notes sys) :
    ∃ b, sys.Keeps group b ∧ b.toHolding.Neat r := by
  induction service with
  | new present validated held unwatched =>
    obtain ⟨b, keeps, neat, -⟩ := books_ofConfig present validated held
    exact ⟨b, keeps, neat⟩
  | beside _ beside ih =>
    obtain ⟨b, keeps, neat⟩ := ih
    exact ⟨b, keeps.quietly beside, neat⟩
  | call _ held valid proceeds ended ih =>
    obtain ⟨b, keeps, neat⟩ := ih
    obtain ⟨b', keeps', tells⟩ := tells_of_proceeds keeps proceeds ended
    exact ⟨b', keeps', Holding.runs_neat tells.runs neat (valid_agenda _ valid)⟩

/-- When the books of a group in service agree. -/
theorem tended (service : Service r group start notes sys)
    (unclaimed : (start.storeAt pluginStore).claims = []) :
    (AlwaysAgree notes → (sys.books group).Agree) ∧
      (AlwaysAgree notes ↔ HarmlessFailures notes) := by
  induction service with
  | new present validated held unwatched =>
    obtain ⟨b, keeps, -, agree⟩ := books_ofConfig present validated held
    rw [keeps.books]
    exact ⟨fun _ => agree unclaimed, fun _ _ never => (by cases never), fun _ _ never => by cases never⟩
  | beside service beside ih =>
    obtain ⟨agree, iff⟩ := ih
    obtain ⟨b, keeps, -⟩ := service_keeps service
    rw [keeps.books] at agree
    rw [(keeps.quietly beside).books]
    refine ⟨?_, ?_⟩
    · exact fun always => agree fun made present => always made (returned_mem_noticed.2 present)
    · unfold AlwaysAgree HarmlessFailures
      simp only [returned_mem_noticed]
      exact iff
  | @call log more sys sys' g c request result service held valid proceeds ended ih =>
    obtain ⟨agree, iff⟩ := ih
    obtain ⟨b, keeps, neat⟩ := service_keeps service
    obtain ⟨g', found, same⟩ := keeps.holds.plugins
    cases held.symm.trans found
    obtain ⟨b', keeps', tells⟩ := tells_of_proceeds keeps proceeds ended
    rw [keeps.books] at agree ⊢
    rw [keeps'.books]
    refine ⟨fun always => always _ (returned_mem_call.2 (.inr rfl)), ?_⟩
    -- That the books agreed before this call is known only if they agreed after all earlier ones, so
    -- both directions settle the earlier calls first.
    have here (before : b.Agree) :
        b'.Agree ↔ (_ → Made.Harmless ⟨request, result, c.report result, b, b'⟩) :=
      agree_iff_harmless neat valid same before tells
    unfold AlwaysAgree at agree
    unfold AlwaysAgree HarmlessFailures at iff ⊢
    simp only [returned_mem_call]
    constructor
    · intro always made present
      have earlier := fun made known => always made (.inl known)
      rcases present with known | rfl
      · exact iff.1 earlier made known
      · exact (here (agree earlier)).1 (always _ (.inr rfl))
    · intro harmless made present
      have earlier := iff.2 fun made known => harmless made (.inl known)
      rcases present with known | rfl
      · exact earlier made known
      · exact (here (agree earlier)).2 (harmless _ (.inr rfl))

/-- The plugins that run, what the watch knows and the claims agree after every call, exactly if every
call that failed was harmless. -/
theorem agreement_iff_harmless (service : Service r group start notes sys)
    (unclaimed : (start.storeAt pluginStore).claims = []) :
    (∀ made, .returned made ∈ notes → made.after.Agree) ↔
      ∀ made, .returned made ∈ notes → made.result.isOk = false → made.Harmless :=
  (tended service unclaimed).2

/-! ## Starts that fail -/

namespace OneBroken

/-- A plugin `a` that takes from a feed, and a plugin `b` that cannot connect to its own. -/
def plugins : Value :=
  .object [("a", .object [("feed", .string "a"), ("type", .string "mock")]),
    ("b", .object [("broken", .bool true), ("feed", .string "b"), ("type", .string "mock")])]

end OneBroken

/-- A start that fails at the second plugin leaves the first one running and claimed, and the watch
does not know it. -/
theorem disagree_after_failed_start : ∃ notes sys made,
    Service OneFeed.kinds 0 (OneGroup.fresh .empty OneBroken.plugins) notes sys ∧
      ((OneGroup.fresh .empty OneBroken.plugins).storeAt pluginStore).claims = [] ∧
      .returned made ∈ notes ∧ ¬ made.after.Agree := by
  have accepted : (PluginConfig.validate OneFeed.kinds OneBroken.plugins).isOk = true := by
    decide +kernel
  have ended : (OneGroup.started .empty OneBroken.plugins).call.bind (·.result) =
      some (.error (.fetch (.other "cannot connect"))) := by decide +kernel
  obtain ⟨-, more, report, service⟩ := OneGroup.service_started accepted ended
  refine ⟨_, _, _, service, rfl, returned_mem_call.2 (.inr rfl), fun agree => ?_⟩
  have known := agree.active "a"
  have unknown : ((OneGroup.started .empty OneBroken.plugins).books 0).activePath? "a" = none := by
    decide +kernel
  have running : (((OneGroup.started .empty OneBroken.plugins).books 0).runningPath? "a").isSome =
      true := by decide +kernel
  rw [← show _ = _ from known, show _ = _ from unknown] at running
  cases running

/-- A start that fails at the first plugin does no harm, and the three maps agree after it. -/
theorem agree_after_harmless_failure : ∃ notes sys made,
    Service OneFeed.kinds 0 (OneGroup.fresh .empty OneFeed.cannotConnect) notes sys ∧
      ((OneGroup.fresh .empty OneFeed.cannotConnect).storeAt pluginStore).claims = [] ∧
      .returned made ∈ notes ∧ made.result.isOk = false ∧ made.after.Agree := by
  have accepted : (PluginConfig.validate OneFeed.kinds OneFeed.cannotConnect).isOk = true := by
    decide +kernel
  have ended : (OneGroup.started .empty OneFeed.cannotConnect).call.bind (·.result) =
      some (.error (.fetch (.other "cannot connect"))) := by decide +kernel
  obtain ⟨-, more, report, service⟩ := OneGroup.service_started accepted ended
  refine ⟨_, _, _, service, rfl, returned_mem_call.2 (.inr rfl), rfl, ?_⟩
  refine (agreement_iff_harmless service rfl).2 (fun made present _ => ?_) _
    (returned_mem_call.2 (.inr rfl))
  rcases returned_mem_call.1 present with never | rfl
  · cases never
  · have plugins : ((OneGroup.started .empty OneFeed.cannotConnect).books 0).plugins =
        ((OneGroup.fresh .empty OneFeed.cannotConnect).books 0).plugins := by decide +kernel
    have claims : ((OneGroup.started .empty OneFeed.cannotConnect).books 0).claims =
        ((OneGroup.fresh .empty OneFeed.cannotConnect).books 0).claims := by decide +kernel
    exact fun name => ⟨Holding.runningPath?_of_find? (congrArg (Dict.find? · name) plugins),
      congrArg (Dict.find? · name) claims⟩

end System

end DocStore
