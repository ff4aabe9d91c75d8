import DocStore.Proofs.Store.Waiting
import DocStore.Proofs.System.Courses

/-!
# What errands do in their transactions

Whatever an errand is for, what it does in its transaction is a row of edits, but for triggers, which
come and go with the store. So an errand is one party among those of a schedule.

Results:
  * `makes_activateIn`, `makes_deactivateIn`, `makes_removeAll`: work of many steps as one row;
  * `by_perform`: what an errand does between its admission and its end is what a party can do.
-/

namespace DocStore

namespace Store

variable {s : Store} {t u v : Transaction}

/-- A row of edits, none of which fails, leads from one transaction to the other. -/
def Makes (s : Store) (t u : Transaction) : Prop := ∃ edits, s.editAll t edits = (u, .ok ())

theorem editAll_append {first second : List Edit} (done : s.editAll t first = (u, .ok ())) :
    s.editAll t (first ++ second) = s.editAll u second := by
  induction first generalizing t with
  | nil =>
    cases done
    rfl
  | cons e rest ih =>
    rw [editAll] at done
    rw [List.cons_append, editAll]
    cases edited : s.edit t e with
    | error err =>
      rw [edited] at done
      cases done
    | ok between =>
      rw [edited] at done
      exact ih done

namespace Makes

theorem refl (s : Store) (t : Transaction) : s.Makes t t := ⟨[], rfl⟩

theorem trans (first : s.Makes t u) (next : s.Makes u v) : s.Makes t v := by
  obtain ⟨edits, done⟩ := first
  obtain ⟨more, done'⟩ := next
  exact ⟨edits ++ more, (editAll_append done).trans done'⟩

theorem of_edit {e : Edit} (ok : s.edit t e = .ok u) : s.Makes t u := by
  refine ⟨[e], ?_⟩
  unfold editAll
  rw [ok]
  rfl

end Makes

/-! ## Subtrees -/

theorem makes_ensure {path : Path} (ok : s.ensure t path = .ok u) : s.Makes t u := by
  unfold ensure at ok
  split at ok
  · cases ok
    exact .refl s _
  · split at ok
    · exact .of_edit (e := .makeDir path) ok
    · cases ok

theorem makes_replace {path : Path} {value : Value} (ok : s.replace t path value = .ok u) :
    s.Makes t u := by
  unfold replace at ok
  dsimp only at ok
  have writes {between : Transaction} (written : s.writeUnchecked between .add path value = .ok u) :
      s.Makes between u := .of_edit (e := .writeUnchecked .add path value) written
  split at ok
  · obtain ⟨between, made, written⟩ := bind_ok ok
    exact (Makes.of_edit (e := .makeDir _) made).trans (writes written)
  · exact writes ok

theorem makes_prune {path : Path} {depth : Nat} (ok : s.prune t path depth = .ok u) :
    s.Makes t u := by
  induction depth generalizing t with
  | zero =>
    cases ok
    exact .refl s _
  | succ depth ih =>
    unfold prune at ok
    dsimp only at ok
    split at ok
    · obtain ⟨between, removed, rest⟩ := bind_ok ok
      exact (Makes.of_edit (e := .writeUnchecked .remove _ .null) removed).trans (ih rest)
    · cases ok
      exact .refl s _

theorem makes_removePruned {path : Path} (ok : s.removePruned t path = .ok u) : s.Makes t u := by
  unfold removePruned at ok
  dsimp only at ok
  split at ok
  · next changed written =>
    exact (Makes.of_edit (e := .writeUnchecked .remove path .null) written).trans (makes_prune ok)
  · split at ok
    · exact makes_prune ok
    · cases ok

theorem makes_removeAll {paths : List Path} (ok : s.removeAll t paths = .ok u) : s.Makes t u := by
  unfold removeAll at ok
  induction paths generalizing t with
  | nil =>
    cases ok
    exact .refl s _
  | cons path rest ih =>
    rw [List.foldlM_cons] at ok
    obtain ⟨between, first, others⟩ := bind_ok ok
    exact (makes_removePruned first).trans (ih others)

end Store

/-! ## Bundles -/

namespace Bundle

variable {s : Store} {t u : Transaction}

theorem makes_applyEdits {edits : List Edit} (ok : applyEdits s t edits = .ok u) : s.Makes t u := by
  unfold applyEdits at ok
  split at ok
  · next changed done =>
    cases ok
    exact ⟨edits, done⟩
  · cases ok

theorem makes_recordManifests {bundles : List Bundle} (ok : recordManifests s t bundles = .ok u) :
    s.Makes t u := by
  induction bundles generalizing t with
  | nil =>
    cases ok
    exact .refl s _
  | cons b rest ih =>
    unfold recordManifests at ok
    obtain ⟨path, -, ok⟩ := bind_ok ok
    obtain ⟨between, first, ok⟩ := bind_ok ok
    exact (makes_applyEdits first).trans (ih ok)

theorem makes_activateIn {bundles : List Bundle} (ok : activateIn s t bundles = .ok u) :
    s.Makes t u := by
  unfold activateIn at ok
  obtain ⟨dropped, drops, ok⟩ := bind_ok ok
  obtain ⟨roots, -, ok⟩ := bind_ok ok
  obtain ⟨replaced, replacing, recording⟩ := bind_ok ok
  exact ((makes_applyEdits drops).trans (makes_applyEdits replacing)).trans
    (makes_recordManifests recording)

theorem makes_dismantle {before found : List Path} {names : List String}
    (ok : dismantle s t before names = .ok (u, found)) : s.Makes t u := by
  induction names generalizing t before with
  | nil =>
    cases ok
    exact .refl s _
  | cons name rest ih =>
    unfold dismantle at ok
    obtain ⟨mine, -, ok⟩ := bind_ok ok
    obtain ⟨between, first, ok⟩ := bind_ok ok
    exact (makes_applyEdits first).trans (ih ok)

theorem makes_dropRecords {names : List String} (ok : dropRecords s t names = .ok u) :
    s.Makes t u := by
  induction names generalizing t with
  | nil =>
    cases ok
    exact .refl s _
  | cons name rest ih =>
    unfold dropRecords at ok
    obtain ⟨path, -, ok⟩ := bind_ok ok
    obtain ⟨between, first, ok⟩ := bind_ok ok
    exact (makes_applyEdits first).trans (ih ok)

theorem makes_deactivateIn {names : List String} (ok : deactivateIn s t names = .ok u) :
    s.Makes t u := by
  unfold deactivateIn at ok
  obtain ⟨⟨dismantled, found⟩, first, ok⟩ := bind_ok ok
  obtain ⟨replaced, replacing, dropping⟩ := bind_ok ok
  exact ((makes_dismantle first).trans (makes_applyEdits replacing)).trans (makes_dropRecords dropping)

end Bundle

/-! ## Errands -/

namespace Plan

variable {s s' : Store} {t t' : Transaction} {outcome : Outcome}

theorem makes_edited {result : Except StoreError Transaction}
    (ok : edited s result = .ok (s', t', outcome)) : s' = s ∧ result = .ok t' := by
  cases result with
  | ok u =>
    cases ok
    exact ⟨rfl, rfl⟩
  | error e => cases ok

theorem makes_bundled {result : Except BundleError Transaction}
    (ok : bundled s result = .ok (s', t', outcome)) : s' = s ∧ result = .ok t' := by
  cases result with
  | ok u =>
    cases ok
    exact ⟨rfl, rfl⟩
  | error e => cases ok

/-- An errand that is not about triggers leaves the store alone and makes edits. -/
theorem makes_perform {plan : Plan} (plain : plan.isPlain = true)
    (ok : plan.perform s t = .ok (s', t', outcome)) : s' = s ∧ s.Makes t t' := by
  cases plan with
  | read path =>
    unfold perform at ok
    dsimp only at ok
    split at ok <;> cases ok
    exact ⟨rfl, .refl s _⟩
  | contents =>
    cases ok
    exact ⟨rfl, .refl s _⟩
  | roots =>
    unfold perform at ok
    dsimp only at ok
    split at ok <;> cases ok
    exact ⟨rfl, .refl s _⟩
  | patch op path value =>
    obtain ⟨same, done⟩ := makes_edited ok
    exact ⟨same, .of_edit (e := .write op path value) done⟩
  | activate bundles =>
    obtain ⟨same, done⟩ := makes_bundled ok
    exact ⟨same, Bundle.makes_activateIn done⟩
  | deactivate names =>
    obtain ⟨same, done⟩ := makes_bundled ok
    exact ⟨same, Bundle.makes_deactivateIn done⟩
  | ensure path =>
    obtain ⟨same, done⟩ := makes_edited ok
    exact ⟨same, Store.makes_ensure done⟩
  | replace path value =>
    obtain ⟨same, done⟩ := makes_edited ok
    exact ⟨same, Store.makes_replace done⟩
  | removeAll paths =>
    obtain ⟨same, done⟩ := makes_edited ok
    exact ⟨same, Store.makes_removeAll done⟩
  | register listener => cases plain
  | unregister handle => cases plain

end Plan

namespace Schedule

variable {s : Store} {σ : Schedule} {ticket seen : Nat} {t t' : Transaction} {work : List Row}

/-- A party makes a row of edits. -/
theorem by_makes (reached : Reachable s σ) (active : σ.stages ticket = .active t seen work)
    (makes : σ.store.Makes t t') : t'.isWrite = t.isWrite ∧
      ∃ work', By ticket σ (σ.move ticket (.active t' seen work')) := by
  obtain ⟨edits, done⟩ := makes
  have step := Step.edit ticket active edits
  have party := reached.coherent.party ticket
  rw [active] at party
  have kind := (party_edit party edits).1
  rw [done] at step kind
  have row : By ticket σ ((σ.change σ.store).move ticket _) := .moves step
  exact ⟨kind, _, row⟩

/-- What an errand does between its admission and its end. -/
theorem by_perform {plan : Plan} {s' : Store} {outcome : Outcome} (reached : Reachable s σ)
    (active : σ.stages ticket = .active t seen work)
    (ok : plan.perform σ.store t = .ok (s', t', outcome)) : t'.isWrite = t.isWrite ∧
      ∃ τ work', By ticket σ τ ∧ τ.store = s' ∧ τ.stages ticket = .active t' seen work' := by
  by_cases plain : plan.isPlain = true
  · obtain ⟨rfl, makes⟩ := Plan.makes_perform plain ok
    obtain ⟨kind, work', row⟩ := by_makes reached active makes
    exact ⟨kind, _, work', row, rfl, Function.update_self ..⟩
  · cases plan with
    | register listener =>
      unfold Plan.perform at ok
      dsimp only at ok
      split at ok
      · next registered =>
        cases ok
        exact ⟨rfl, _, work, .changes (.register active registered), rfl, active⟩
      · cases ok
    | unregister handle =>
      unfold Plan.perform at ok
      dsimp only at ok
      split at ok
      · next removed =>
        cases ok
        exact ⟨rfl, _, work, .changes (.unregister active removed), rfl, active⟩
      · cases ok
        exact ⟨rfl, σ, work, .refl σ, rfl, active⟩
    | _ => exact absurd rfl plain

end Schedule

end DocStore
