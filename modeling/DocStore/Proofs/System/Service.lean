import DocStore.Proofs.System.Books
import DocStore.Proofs.System.Proceeding

/-!
# A group in service

A group is made and then started, stopped and reconfigured by calls, each of which comes to a result,
while commits and workers go on beside them. Nobody else registers a watch of the group or changes
claims. The log of that tells what the group noticed about overlaps, and what its calls came to.

Results:
  * `service_makeCall`: a call that is made and seen through is part of the service;
  * `service_started`: a group that was made and started is in service.
-/

namespace DocStore

/-! ## Requests -/

/-- What is asked of a group. -/
inductive Request
  | start
  | stop (timeout : Nat)
  | reconfigure (next : PluginConfig)

namespace Request

def purpose : Request → Purpose
  | .start => .start
  | .stop _ => .stop
  | .reconfigure _ => .reconfigure

/-- The commands of the call. -/
def agenda (g : Group) : Request → List Command
  | .start => g.startAgenda
  | .stop timeout => g.stopAgenda timeout
  | .reconfigure next => g.reconfigureAgenda next

/-- A configuration has been validated. -/
def Valid (r : Registry) : Request → Prop
  | .reconfigure next => ∃ raw, PluginConfig.validate r raw = .ok next
  | _ => True

/-- The call of a group before its first command. -/
def call (request : Request) (group : Nat) (g : Group) : Call :=
  { group, purpose := request.purpose, agenda := request.agenda g, errand := none, starting := none
    result := none }

end Request

/-- A call that has come to a result, with what it reported of a failure and the books before and after
it. -/
structure Made where
  request : Request
  result : Except PluginError Unit
  report : Option Status
  before : Books
  after : Books

/-- What the log of a group in service tells. -/
inductive Note
  | noticed (overlap : Option String)
  | returned (made : Made)

namespace System

/-- The books of a group. -/
def books (sys : System) (group : Nat) : Books :=
  { sys.holding group with active := ((sys.groups[group]?).map (·.active)).getD [] }

/-- A group in service. -/
inductive Service (r : Registry) (group : Nat) (start : System) : List Note → System → Prop
  | new {raw : Value} {config : PluginConfig} {first stopTimeout : Nat}
      (present : pluginStore < start.stores.length)
      (validated : PluginConfig.validate r raw = .ok config)
      (held : start.groups[group]? = some (Group.ofConfig config first stopTimeout))
      (unwatched : ∀ place, start.watches place group = false) : Service r group start [] start
  | beside {log : List Note} {sys sys' : System} (service : Service r group start log sys)
      (beside : Beside quietly sys sys') :
      Service r group start (log ++ (noticed group sys sys').map .noticed) sys'
  | call {log : List Note} {more : List (Option String)} {sys sys' : System} {g : Group} {c : Call}
      {request : Request} {result : Except PluginError Unit}
      (service : Service r group start log sys) (held : sys.groups[group]? = some g)
      (valid : request.Valid r) (proceeds : Proceeds group sys (request.call group g) more sys' c)
      (ended : c.result = some result) :
      Service r group start
        (log ++ more.map .noticed ++
          [.returned ⟨request, result, c.report result, sys.books group, sys'.books group⟩]) sys'

variable {r : Registry} {group : Nat} {start sys sys' : System} {log : List Note} {g : Group}

/-- What is about neither stores nor groups is part of any service. -/
theorem Service.aside (service : Service r group start log sys) (stores : sys'.stores = sys.stores)
    (groups : sys'.groups = sys.groups) : Service r group start log sys' := by
  have later := service.beside (.aside sys' stores groups)
  have silent : noticed group sys sys' = [] := if_pos (by unfold overlapOf; rw [groups])
  rwa [silent, List.map_nil, List.append_nil] at later

/-- A call that is made and seen through is part of the service. -/
theorem service_makeCall {request : Request} {result : Except PluginError Unit}
    (service : Service r group start log sys) (errands : sys.OnErrands)
    (held : sys.groups[group]? = some g) (valid : request.Valid r)
    (ended : (sys.makeCall group request.purpose (request.agenda g)).call.bind (·.result) =
      some result) :
    (sys.makeCall group request.purpose (request.agenda g)).OnErrands ∧
      ∃ (more : List (Option String)) (report : Option Status), Service r group start
        (log ++ more.map .noticed ++ [.returned ⟨request, result, report, sys.books group,
          (sys.makeCall group request.purpose (request.agenda g)).books group⟩])
        (sys.makeCall group request.purpose (request.agenda g)) := by
  have made : Proceeds group sys (request.call group g) []
      (sys.placed group request.purpose (request.agenda g)) (request.call group g) :=
    Proceeds.here.aside rfl rfl rfl
  unfold makeCall at ended ⊢
  have errands' : (sys.placed group request.purpose (request.agenda g)).OnErrands := errands
  obtain ⟨more, sys', c, served⟩ := served_runCallWith group
    (2 * (((request.agenda g).map Command.patience).foldl (· + ·) 0 +
      ((request.agenda g).map Command.weight).foldl (· + ·) 0) + 4) errands' rfl rfl
  have polled := served.polled
  unfold placed at polled
  dsimp only at ended ⊢
  rw [polled] at ended ⊢
  have called := service.call held valid (made.trans served.proceeds) ended
  exact ⟨onErrands_of_eq (served.errands errands') rfl, _, _, called.aside rfl rfl⟩

/-! ## One group -/

namespace OneGroup

/-- One store with some data, and a group that holds some plugins. -/
def fresh (tree raw : Value) : System :=
  ((Session.new (System.new [tree] .absent .empty)).holdPlugins (OneFeed.configOf raw) 5).system

/-- The group was started, as far as that went. -/
def started (tree raw : Value) : System := OneFeed.after (fresh tree raw) .start Group.startAgenda

theorem unwatched (silent : ∀ s ∈ sys.stores, s.triggers = []) (place group : Nat) :
    sys.watches place group = false := by
  have none : (sys.storeAt place).triggers = [] := by
    unfold storeAt
    cases stands : sys.stores[place]? with
    | none => rfl
    | some s => exact silent s (List.mem_of_getElem? stands)
  unfold watches
  rw [none]
  rfl

theorem service_after {request : Request} {result : Except PluginError Unit}
    (service : Service r 0 start notes sys) (errands : sys.OnErrands)
    (held : (sys.groups[0]?).isSome = true) (valid : request.Valid r)
    (ended : (OneFeed.after sys request.purpose (request.agenda ·)).call.bind (·.result) =
      some result) :
    (OneFeed.after sys request.purpose (request.agenda ·)).OnErrands ∧
      ∃ (more : List (Option String)) (report : Option Status), Service r 0 start
        (notes ++ more.map .noticed ++ [.returned ⟨request, result, report, sys.books 0,
          (OneFeed.after sys request.purpose (request.agenda ·)).books 0⟩])
        (OneFeed.after sys request.purpose (request.agenda ·)) := by
  obtain ⟨g, found⟩ := Option.isSome_iff_exists.1 held
  unfold OneFeed.after at ended ⊢
  rw [found] at ended ⊢
  exact service_makeCall service errands found valid ended

theorem service_started {tree raw : Value} {result : Except PluginError Unit}
    (accepted : (PluginConfig.validate OneFeed.kinds raw).isOk = true)
    (ended : (started tree raw).call.bind (·.result) = some result) :
    (started tree raw).OnErrands ∧ ∃ (more : List (Option String)) (report : Option Status),
      Service OneFeed.kinds 0 (fresh tree raw) ([] ++ more.map .noticed ++
        [.returned ⟨.start, result, report, (fresh tree raw).books 0, (started tree raw).books 0⟩])
        (started tree raw) := by
  have silent : ∀ s ∈ (fresh tree raw).stores, s.triggers = [] := fun s present => by
    rw [List.mem_singleton.1 present]
    rfl
  have new : Service OneFeed.kinds 0 (fresh tree raw) [] (fresh tree raw) :=
    .new Nat.one_pos (OneFeed.validated accepted) rfl fun place => unwatched silent place 0
  have valid : Request.start.Valid OneFeed.kinds := trivial
  have after := service_after new (fun w never => by cases never) rfl valid ended
  exact after

end OneGroup

end System

end DocStore
