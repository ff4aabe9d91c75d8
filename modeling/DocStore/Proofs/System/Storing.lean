import DocStore.Proofs.Store.Effect
import DocStore.Proofs.System.Moves

/-!
# Storing a value

A worker stores a value with an errand of its own, which may have to wait for the writer lock, and
once more to commit. However long that takes, what the errand puts in place is the value, at the path
of the plugin; and whatever others do meanwhile, the worker is where it was.

Results:
  * `Store.view_replace`, `System.contents_commit`: what a replacement shows, and what a commit leaves;
  * `System.beginErrand_arrives`, `System.pollErrand_arrives`: an errand that stores a value and comes
    back without a refusal has stored it;
  * `System.Goes.keeps_worker`: what others leave of a worker.
-/

namespace DocStore

/-! ## Replacements -/

namespace Store

variable {s : Store} {t t' : Transaction} {path : Path} {value : Value}

/-- A replacement shows the value, whatever store one looks from: the transaction has a copy of its
own. -/
theorem view_replace (ok : s.replace t path value = .ok t') (other : Store) :
    (other.view t').get? path = some value := by
  have written : ∃ made, s.writeUnchecked made .add path value = .ok t' := by
    unfold replace at ok
    dsimp only at ok
    split at ok
    · obtain ⟨made, -, put⟩ := bind_ok ok
      exact ⟨made, put⟩
    · exact ⟨t, ok⟩
  obtain ⟨made, put⟩ := written
  obtain ⟨draft, -, put⟩ := bind_ok put
  obtain ⟨data, applied, put⟩ := bind_ok put
  cases put
  have found := Tree.at?_apply_below applied []
  rw [List.append_nil, if_neg (by decide)] at found
  exact found

end Store

/-! ## Errands that store -/

/-- The errand puts a value at a path of the store of the plugins. Once it waits to commit, its
transaction shows the value there. -/
structure Errand.Puts (path : Path) (value : Value) (e : Errand) : Prop where
  store : e.store = System.pluginStore
  plan : e.plan = .replace path value
  staged : ∀ t outcome, e.stage = .closing t outcome →
    ∀ s : Store, (s.view t).get? path = some value

namespace System

/-- How far an errand that puts a value at a path has come: it still waits to do so, or the value
stands there, or it was refused. -/
def Arrives (path : Path) (value : Value) : System × Progress → Prop
  | (_, .waiting e) => e.Puts path value
  | (sys, .finished (.ok _)) => (sys.storeAt pluginStore).contents.get? path = some value
  | (_, .finished (.error _)) => True

variable {acts : Nat → Prop} {sys sys' : System} {w : Worker} {ticket place : Nat} {path : Path}
  {value : Value} {e : Errand}

theorem storeAt_of_stores (same : sys'.stores = sys.stores) (place : Nat) :
    sys'.storeAt place = sys.storeAt place := by
  unfold storeAt
  rw [same]

/-- A commit puts in place what the transaction shows. -/
theorem contents_commit (present : place < sys.stores.length) (t : Transaction) :
    ((sys.commit place t).storeAt place).contents = (sys.storeAt place).view t := by
  unfold commit
  dsimp only
  generalize deliveriesOf place _ t = deliveries
  obtain ⟨stores, -⟩ := deliveries_keep (sys.updateStore place (·.install t)) deliveries
  have still : place < (deliveries.foldl deliver (sys.updateStore place (·.install t))).stores.length := by
    rw [stores, length_updateStore]
    exact present
  rw [storeAt_updateStore_self still, storeAt_of_stores stores, storeAt_updateStore_self present]
  exact Store.contents_install _ t

/-- Nothing is refused any more once the store is asked to commit. -/
theorem performErrand_arrives (puts : e.Puts path value) (present : pluginStore < sys.stores.length) :
    Arrives path value (sys.performErrand e) := by
  have writes : e.plan.isWrite = true := by
    rw [puts.plan]
    rfl
  unfold performErrand
  simp only [writes, if_true]
  simp only [puts.store, puts.plan]
  split
  · trivial
  · next s' t' outcome ok =>
    -- What is staged is seen from any store, so also after a wait.
    have staged (s : Store) : (s.view t').get? path = some value := by
      unfold Plan.perform Plan.edited at ok
      dsimp only at ok
      split at ok
      · next replaced =>
        cases ok
        exact Store.view_replace replaced s
      · cases ok
    split
    · have still : pluginStore < (sys.updateStore pluginStore fun _ =>
          s'.requestCommit e.ticket).stores.length := by
        rw [length_updateStore]
        exact present
      unfold Arrives
      dsimp only
      rw [contents_commit still]
      exact staged _
    · refine ⟨rfl, rfl, fun t outcome' closing s => ?_⟩
      cases closing
      exact staged s

theorem pollErrand_arrives (puts : e.Puts path value) (present : pluginStore < sys.stores.length) :
    Arrives path value (sys.pollErrand e) := by
  unfold pollErrand
  dsimp only
  split
  · have turn (held : Bool) :
        Arrives path value (if held then sys.performErrand e else (sys, .waiting e)) := by
      cases held
      · exact puts
      · exact performErrand_arrives puts present
    exact turn _
  · next t outcome closing =>
    split
    · unfold Arrives
      dsimp only
      rw [puts.store, contents_commit present]
      exact puts.staged t outcome closing _
    · exact puts

theorem beginErrand_arrives (present : pluginStore < sys.stores.length) (ticket : Nat) :
    Arrives path value (sys.beginErrand pluginStore ticket (.replace path value)) := by
  unfold beginErrand
  dsimp only
  refine pollErrand_arrives ⟨rfl, rfl, fun t outcome never => by cases never⟩ ?_
  rw [length_updateStore]
  exact present

/-! ## Workers -/

theorem worker?_putWorker_self (present : (sys.worker? w.ticket).isSome = true) :
    (sys.putWorker w).worker? w.ticket = some w := by
  obtain ⟨old, found⟩ := Option.isSome_iff_exists.1 present
  have mine := ticket_of_found found
  have tickets : ((fun other : Worker => decide (other.ticket = w.ticket)) ∘
      fun other => if other.ticket = w.ticket then w else other) =
      fun other => decide (other.ticket = w.ticket) := by
    funext other
    by_cases this : other.ticket = w.ticket <;> simp [this]
  unfold worker? at found ⊢
  unfold putWorker
  rw [List.find?_map, tickets, found, Option.map_some, if_pos mine]

theorem worker?_putWorker_ne (ne : w.ticket ≠ ticket) :
    (sys.putWorker w).worker? ticket = sys.worker? ticket := by
  have tickets : ((fun other : Worker => decide (other.ticket = ticket)) ∘
      fun other => if other.ticket = w.ticket then w else other) =
      fun other => decide (other.ticket = ticket) := by
    funext other
    by_cases this : other.ticket = w.ticket
    · have notOther : other.ticket ≠ ticket := this ▸ ne
      simp [this, ne]
    · simp [this]
  unfold worker? putWorker
  rw [List.find?_map, tickets]
  cases found : sys.workers.find? fun other => decide (other.ticket = ticket) with
  | none => rfl
  | some other =>
    have notThis : other.ticket ≠ w.ticket := fun same => by
      have theirs : other.ticket = ticket := by simpa using List.find?_some found
      exact ne (same.symm.trans theirs)
    rw [Option.map_some, if_neg notThis]

theorem workers_commit (sys : System) (place : Nat) (t : Transaction) :
    (sys.commit place t).workers = sys.workers := by
  unfold commit
  exact (deliveries_keep _ _).2.1

/-- A tick that asks for its transform leaves all but the engine and the slots. -/
theorem currentTransform_keeps (sys : System) (place : Nat) :
    ∃ engine slots, (sys.currentTransform place).1 = { sys with engine, slots } := by
  unfold currentTransform
  split
  · exact ⟨_, _, rfl⟩
  · split
    · exact ⟨_, _, rfl⟩
    · split <;> exact ⟨_, _, rfl⟩

/-- So does the preparing of a new slot. -/
theorem prepareSlot_keeps (sys : System) (rule : Option RuleRef) :
    ∃ engine slots, (sys.prepareSlot rule).1 = { sys with engine, slots } := by
  unfold prepareSlot
  split
  · exact ⟨_, _, rfl⟩
  · split <;> exact ⟨_, _, rfl⟩

theorem worker?_of_workers (same : sys'.workers = sys.workers) (ticket : Nat) :
    sys'.worker? ticket = sys.worker? ticket := by
  unfold worker?
  rw [same]

/-- Others leave a worker as it is, but they may ask it to finish. -/
theorem Move.keeps_worker {log : List SlotEvent} (move : Move acts sys log sys')
    (others : ¬ acts ticket) (found : sys.worker? ticket = some w) :
    ∃ exit, sys'.worker? ticket = some { w with exit } := by
  have still (same : sys'.workers = sys.workers) :
      ∃ exit, sys'.worker? ticket = some { w with exit } :=
    ⟨w.exit, (worker?_of_workers same ticket).trans found⟩
  cases move with
  | aside _ _ workers _ => exact still workers
  | store => exact still rfl
  | commit place t => exact still (workers_commit sys place t)
  | take place =>
    obtain ⟨engine, slots, same⟩ := currentTransform_keeps sys place
    refine still ?_
    rw [same]
  | prepare rule =>
    obtain ⟨engine, slots, same⟩ := prepareSlot_keeps sys rule
    refine still ?_
    rw [same]
  | worker other mine =>
    have ne : other.ticket ≠ ticket := fun same => others (same ▸ mine)
    exact ⟨w.exit, (worker?_putWorker_ne ne).trans found⟩
  | ask other asked =>
    by_cases this : other.ticket = ticket
    · subst this
      have same : w = other := Option.some.inj (found.symm.trans asked)
      have present : (sys.worker? other.ticket).isSome = true := by
        rw [found]
        rfl
      rw [same]
      exact ⟨true, @worker?_putWorker_self sys { other with exit := true } present⟩
    · exact ⟨w.exit, (@worker?_putWorker_ne sys { other with exit := true } ticket this).trans found⟩
  | bringUp new =>
    refine ⟨w.exit, ?_⟩
    unfold worker? at found ⊢
    rw [List.find?_append, found]
    rfl

theorem Move.keeps_stores {log : List SlotEvent} (move : Move acts sys log sys') :
    sys'.stores.length = sys.stores.length := by
  cases move with
  | aside _ stores _ _ => rw [stores]
  | store place change _ => exact length_updateStore sys place change
  | commit place t =>
    unfold System.commit
    dsimp only
    rw [length_updateStore, (deliveries_keep _ _).1, length_updateStore]
  | worker => rfl
  | ask => rfl
  | bringUp => rfl
  | take place =>
    obtain ⟨engine, slots, same⟩ := currentTransform_keeps sys place
    rw [same]
  | prepare rule =>
    obtain ⟨engine, slots, same⟩ := prepareSlot_keeps sys rule
    rw [same]

namespace Goes

theorem keeps_worker (goes : Goes acts sys sys') (others : ¬ acts ticket)
    (found : sys.worker? ticket = some w) : ∃ exit, sys'.worker? ticket = some { w with exit } := by
  obtain ⟨log, moves⟩ := goes
  induction moves with
  | none => exact ⟨w.exit, found⟩
  | next _ move ih =>
    obtain ⟨asked, before⟩ := ih
    obtain ⟨exit, after⟩ := move.keeps_worker others before
    exact ⟨exit, after⟩

theorem keeps_stores (goes : Goes acts sys sys') : sys'.stores.length = sys.stores.length := by
  obtain ⟨log, moves⟩ := goes
  induction moves with
  | none => rfl
  | next _ move ih => exact move.keeps_stores.trans ih

end Goes

end System

end DocStore
