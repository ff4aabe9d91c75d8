import DocStore.Proofs.System.Watching

/-!
# What a group reports about overlaps

A group remembers the overlaps that it has reported last, and reports overlaps anew only when they are
others. Its status is one cell for these reports and for those of failed calls, so the two can part:
what the status says of known overlaps is the report of the last failed call since they were noticed, if
there was one.

Results:
  * `check_reports`, `check_accurate`, `Calm.check`, `Cleared.check`: a look for overlaps;
  * `explained_heard`: the report that explains the status once a group has noticed something;
  * `Minds.beside`: what goes on beside the calls of a group keeps all this.
-/

namespace DocStore

/-- The report of a failed call that stands after the group has noticed something, or nothing. -/
def heard (standing : Option Status) (log : List (Option String)) : Option Status :=
  if log.isEmpty then standing else none

theorem heard_append (standing : Option Status) (log more : List (Option String)) :
    heard standing (log ++ more) = heard (heard standing log) more := by
  cases log with
  | nil => rfl
  | cons overlap rest => exact (ite_self none).symm

namespace Group

variable {g g' : Group} {standing : Option Status} {data : Value}

/-- When overlaps are reported, the status is their message or the report that stands. -/
def Explained (g : Group) (standing : Option Status) : Prop :=
  ∀ message, g.overlap = some message → g.status = standing.getD ⟨.error, some message⟩

/-- When no overlaps are reported, the status is that all is well. -/
def Calm (g : Group) : Prop := g.overlap = none → g.status = ⟨.ok, none⟩

/-- The overlaps that are reported are those with the roots in some data. -/
def Accurate (g : Group) (data : Value) : Prop :=
  g.overlap = finding g.active (Bundle.rootsIn data)

/-- The watch knows no plugin, and reports nothing. -/
structure Cleared (g : Group) : Prop where
  active : g.active = []
  overlap : g.overlap = none

/-- What is reported of overlaps stays, or it is reported anew, or it is nothing. -/
def Reports (g g' : Group) : Prop :=
  (g'.overlap = g.overlap ∧ g'.status = g.status) ∨
    (g'.overlap ≠ g.overlap ∧ g'.status = .ofFinding g'.overlap) ∨ g'.overlap = none

/-! ## A look for overlaps -/

variable (bundles : Dict (List Path))

theorem check_active : (g.check bundles).active = g.active := by
  obtain ⟨overlap, status, same⟩ := System.check_keeps g bundles
  rw [same]

theorem check_trigger : (g.check bundles).trigger = g.trigger := by
  obtain ⟨overlap, status, same⟩ := System.check_keeps g bundles
  rw [same]

theorem check_reports : Reports g (g.check bundles) := by
  rw [System.check_eq]
  split
  · exact .inl ⟨rfl, rfl⟩
  · next other => exact .inr (.inl ⟨fun same => other same.symm, rfl⟩)

theorem check_accurate : (g.check bundles).overlap = finding (g.check bundles).active bundles := by
  rw [check_active, System.check_eq]
  split
  · assumption
  · rfl

theorem Calm.check (calm : g.Calm) : (g.check bundles).Calm := by
  rw [System.check_eq]
  split
  · exact calm
  · intro none
    dsimp only at none ⊢
    rw [none]
    rfl

theorem Cleared.check (cleared : g.Cleared) : (g.check bundles).Cleared := by
  refine ⟨(check_active bundles).trans cleared.active, ?_⟩
  rw [check_accurate, check_active, cleared.active]
  rfl

end Group

namespace System

variable {sys sys' : System} {group place : Nat} {g g' : Group} {standing : Option Status} {c : Call}

/-! ## Reports and notes -/

theorem noticed_eq (found : sys.groups[group]? = some g) (found' : sys'.groups[group]? = some g') :
    noticed group sys sys' = if g'.overlap = g.overlap then [] else [g'.overlap] := by
  unfold noticed overlapOf
  rw [found, found']
  rfl

theorem explained_heard (reports : g.Reports g') (explained : g.Explained standing)
    (found : sys.groups[group]? = some g) (found' : sys'.groups[group]? = some g') :
    g'.Explained (heard standing (noticed group sys sys')) := by
  rw [noticed_eq found found']
  rcases reports with ⟨overlap, status⟩ | ⟨other, status⟩ | none
  · rw [if_pos overlap]
    intro message known
    rw [status]
    exact explained message (overlap ▸ known)
  · rw [if_neg other]
    intro message known
    rw [status, known]
    rfl
  · intro message known
    rw [none] at known
    cases known

/-! ## Watches -/

theorem watches_updateStore {change : Store → Store}
    (kept : ∀ id, (id, .overlapWatch group) ∈ (change (sys.storeAt place)).triggers ↔
      (id, .overlapWatch group) ∈ (sys.storeAt place).triggers) (other : Nat) :
    (sys.updateStore place change).watches other group = sys.watches other group := by
  by_cases here : place = other
  · subst here
    by_cases present : place < sys.stores.length
    · rw [Bool.eq_iff_iff, watches_iff, watches_iff, storeAt_updateStore_self present]
      exact exists_congr kept
    · exact watches_of_triggers (by
        rw [storeAt_of_stores (stores_updateStore_absent present change)])
  · exact watches_of_triggers (by rw [storeAt_updateStore_ne here])

theorem watches_beside (beside : Beside quietly sys sys') (other group : Nat) :
    sys'.watches other group = sys.watches other group := by
  cases beside with
  | aside _ stores groups => exact watches_of_triggers (by rw [storeAt_of_stores stores])
  | store place change kept => exact watches_updateStore (fun id => kept.watches id group) other
  | commit place t => exact watches_commit sys place t other group

/-- A store that keeps its triggers keeps its watches. -/
theorem watches_away {may : Nat → Store → Store → Prop}
    (kept : ∀ s s', may place s s' → s'.triggers = s.triggers) (beside : Beside may sys sys')
    (group : Nat) : sys'.watches place group = sys.watches place group := by
  cases beside with
  | aside _ stores groups => exact watches_of_triggers (by rw [storeAt_of_stores stores])
  | store other change may' =>
    by_cases here : other = place
    · subst here
      exact watches_updateStore (fun id => by rw [kept _ _ may']) other
    · exact watches_of_triggers (by rw [storeAt_updateStore_ne here])
  | commit other t => exact watches_commit sys other t place group

theorem watches_besides {may : Nat → Store → Store → Prop}
    (kept : ∀ s s', may place s s' → s'.triggers = s.triggers) (row : Besides may sys sys')
    (group : Nat) : sys'.watches place group = sys.watches place group := by
  induction row with
  | refl => rfl
  | tail _ beside ih => exact (watches_away kept beside group).trans ih

theorem length_beside {may : Nat → Store → Store → Prop} (beside : Beside may sys sys') :
    sys'.stores.length = sys.stores.length := by
  cases beside with
  | aside _ stores groups => rw [stores]
  | store place change kept => exact length_updateStore sys place change
  | commit place t => exact length_commit sys place t

theorem length_besides {may : Nat → Store → Store → Prop} (row : Besides may sys sys') :
    sys'.stores.length = sys.stores.length := by
  induction row with
  | refl => rfl
  | tail _ beside ih => exact (length_beside beside).trans ih

theorem length_advanceErrand {plan : Plan} (sys : System) (sent : ∀ e, c.errand = some e → e.Sent plan) :
    (sys.advanceErrand c plan).1.stores.length = sys.stores.length :=
  length_besides (besides_advanceErrand allows_locally (permits_locally plan) sent)

/-! ## Minding -/

/-- A group minds its watch: its own store alone tells it of commits, and it does so when the group has
a handle; and what the group says of overlaps is explained by a report that stands. -/
structure Minds (sys : System) (group : Nat) (g : Group) (standing : Option Status) : Prop where
  present : pluginStore < sys.stores.length
  found : sys.groups[group]? = some g
  away : ∀ place, place ≠ pluginStore → sys.watches place group = false
  enlisted : g.trigger.isSome = true → sys.watches pluginStore group = true
  explained : g.Explained standing

/-- No watch of a group goes away, and none comes but with the plugins. -/
structure Watched (group : Nat) (sys sys' : System) : Prop where
  away : ∀ place, place ≠ pluginStore → sys'.watches place group = sys.watches place group
  stays : sys.watches pluginStore group = true → sys'.watches pluginStore group = true

theorem watched_of_eq (same : ∀ place, sys'.watches place group = sys.watches place group) :
    Watched group sys sys' :=
  ⟨fun place _ => same place, fun watched => (same pluginStore).trans watched⟩

theorem Minds.moves (minds : sys.Minds group g standing)
    (length : sys'.stores.length = sys.stores.length) (watched : Watched group sys sys')
    (found : sys'.groups[group]? = some g') (reports : g.Reports g')
    (trigger : g'.trigger.isSome = true → g.trigger.isSome = true) :
    sys'.Minds group g' (heard standing (noticed group sys sys')) := by
  refine ⟨by rw [length]; exact minds.present, found, fun place away => ?_, fun enlisted => ?_,
    explained_heard reports minds.explained minds.found found⟩
  · rw [watched.away place away]
    exact minds.away place away
  · exact watched.stays (minds.enlisted (trigger enlisted))

/-- A group that changes while no store does. -/
theorem Minds.regroups (minds : sys.Minds group g standing) (stores : sys'.stores = sys.stores)
    (found : sys'.groups[group]? = some g') (reports : g.Reports g')
    (trigger : g'.trigger.isSome = true → g.trigger.isSome = true) :
    sys'.Minds group g' (heard standing (noticed group sys sys')) :=
  minds.moves (congrArg List.length stores)
    (watched_of_eq fun _ => watches_of_triggers (by rw [storeAt_of_stores stores])) found reports trigger

/-- What others make of a group. -/
structure Spared (sys sys' : System) (g g' : Group) : Prop where
  plugins : g'.plugins = g.plugins
  active : g'.active = g.active
  trigger : g'.trigger = g.trigger
  calm : g.Calm → g'.Calm
  cleared : g.Cleared → g'.Cleared
  accurate : g.trigger.isSome = true → g.Accurate (sys.storeAt pluginStore).contents.data →
    g'.Accurate (sys'.storeAt pluginStore).contents.data

theorem spared_same (same : (sys'.storeAt pluginStore).contents = (sys.storeAt pluginStore).contents) :
    Spared sys sys' g g :=
  ⟨rfl, rfl, rfl, id, id, fun _ accurate => by rw [same]; exact accurate⟩

theorem contents_updateStore {change : Store → Store}
    (kept : (change (sys.storeAt place)).contents = (sys.storeAt place).contents) (other : Nat) :
    ((sys.updateStore place change).storeAt other).contents = (sys.storeAt other).contents := by
  by_cases here : place = other
  · subst here
    by_cases present : place < sys.stores.length
    · rw [storeAt_updateStore_self present, kept]
    · rw [storeAt_of_stores (stores_updateStore_absent present change)]
  · rw [storeAt_updateStore_ne here]

/-- A commit to the store that a group watches is looked at before anybody else can tell. -/
theorem spared_commit (minds : sys.Minds group g standing) (place : Nat) (t : Transaction) :
    ∃ g', (sys.commit place t).groups[group]? = some g' ∧ g.Reports g' ∧
      Spared sys (sys.commit place t) g g' := by
  have found := group_commit minds.found place t
  by_cases here : place = pluginStore
  · subst here
    cases watched : sys.watches pluginStore group with
    | true =>
      rw [watched, if_pos rfl] at found
      have contents : ((sys.commit pluginStore t).storeAt pluginStore).contents =
          ((sys.storeAt pluginStore).install t).contents := by
        rw [storeAt_commit_self minds.present]
        rfl
      refine ⟨_, found, Group.check_reports _, plugins_check g _, Group.check_active _,
        Group.check_trigger _, fun calm => calm.check _, fun cleared => cleared.check _,
        fun _ _ => ?_⟩
      rw [contents]
      exact Group.check_accurate _
    | false =>
      rw [watched, if_neg Bool.false_ne_true] at found
      refine ⟨g, found, .inl ⟨rfl, rfl⟩, rfl, rfl, rfl, id, id, fun enlisted => ?_⟩
      rw [minds.enlisted enlisted] at watched
      cases watched
  · rw [minds.away place here] at found
    exact ⟨g, found, .inl ⟨rfl, rfl⟩, spared_same (by rw [storeAt_commit_ne here])⟩

/-- Whatever goes on beside the calls of a group. -/
theorem Minds.beside (minds : sys.Minds group g standing) (beside : Beside quietly sys sys') :
    ∃ g', sys'.Minds group g' (heard standing (noticed group sys sys')) ∧ Spared sys sys' g g' := by
  have moves {g' : Group} (found : sys'.groups[group]? = some g') (reports : g.Reports g')
      (spared : Spared sys sys' g g') :
      ∃ g', sys'.Minds group g' (heard standing (noticed group sys sys')) ∧ Spared sys sys' g g' :=
    ⟨g', minds.moves (length_beside beside)
      (watched_of_eq fun place => watches_beside beside place group) found reports
      (by rw [spared.trigger]; exact id), spared⟩
  cases beside with
  | aside _ stores groups =>
    exact moves (by rw [groups]; exact minds.found) (.inl ⟨rfl, rfl⟩)
      (spared_same (by rw [storeAt_of_stores stores]))
  | store place change kept =>
    exact moves minds.found (.inl ⟨rfl, rfl⟩)
      (spared_same (contents_updateStore kept.contents pluginStore))
  | commit place t =>
    obtain ⟨g', found, reports, spared⟩ := spared_commit minds place t
    exact moves found reports spared

end System

end DocStore
