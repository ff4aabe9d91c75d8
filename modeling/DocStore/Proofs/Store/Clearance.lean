import DocStore.Proofs.Bundle.Removal

/-!
# Giving up places, and making them

A plugin that is removed gives up its place. What stood there is removed, and so are the objects above it
that are left empty. A plugin that starts has its place made, unless something stands there. Either
touches the places that the path leads through, and nothing that stands apart from it.

Results:
  * `clears_removeAll`: nothing is left at the paths that are given up, and what is apart from all of
    them stays;
  * `confined_ensure`: what is apart from a path that is made stays.
-/

namespace DocStore

/-- A path that overlaps no ancestor-or-self of another one. -/
theorem Path.overlaps_take {q path : Path} {n : Nat} (apart : q.overlaps path = false)
    (above : (path.take n).hasPrefix q = true) : False := by
  rw [Path.overlaps_eq_false_iff] at apart
  refine apart.1 ((Path.hasPrefix_iff_leads.1 above).trans ?_)
  exact List.take_prefix _ _

namespace Store

variable {s : Store} {t u v : Transaction} {path q : Path} {paths : List Path} {depth : Nat}

/-! ## Single edits -/

theorem patch_of_writeUnchecked {op : PatchOp} {value : Value} (write : s.Writes t)
    (ok : s.writeUnchecked t op path value = .ok u) :
    s.Writes u ∧ (s.view t).patch op path value = .ok (s.view u) := by
  have follows := follows_patch write op path value
  cases result : (s.view t).patch op path value with
  | error e =>
    rw [result] at follows
    cases ok.symm.trans follows
  | ok c =>
    rw [result] at follows
    obtain ⟨later, same, continues⟩ := follows
    cases ok.symm.trans same
    exact ⟨continues.writes write, by rw [continues.view]⟩

theorem read_eq_ok_iff {v : Value} (write : s.Writes t) :
    s.read t path = .ok v ↔ (s.view t).get? path = some v := by
  rw [read_eq_lookup write]
  unfold lookup Contents.get?
  cases Tree.get? (s.view t).data path <;> simp

/-- A patch that is refused cannot be applied to what the transaction sees. -/
theorem apply_of_refused {op : PatchOp} {value : Value} {e : StoreError} (write : s.Writes t)
    (refused : s.writeUnchecked t op path value = .error e) :
    Tree.apply (s.view t).data op path value = .error e := by
  have follows := follows_patch write op path value
  unfold Contents.patch at follows
  cases applied : Tree.apply (s.view t).data op path value with
  | ok data =>
    rw [applied] at follows
    obtain ⟨later, done, -⟩ := follows
    cases refused.symm.trans done
  | error failure =>
    rw [applied] at follows
    cases refused.symm.trans follows
    rfl

/-- When a removal finds nothing, nothing stands there. -/
theorem absent_of_notFound {e : StoreError} (write : s.Writes t)
    (refused : s.writeUnchecked t .remove path .null = .error e) (missing : e.isNotFound = true) :
    (s.view t).get? path = none :=
  Tree.get?_of_apply_notFound (apply_of_refused write refused) missing

theorem makeDir_of_makeDir (write : s.Writes t) (ok : s.makeDir t path = .ok u) :
    s.Writes u ∧ (s.view t).makeDir path = .ok (s.view u) := by
  have follows := follows_makeDir write path
  cases result : (s.view t).makeDir path with
  | error e =>
    rw [result] at follows
    cases ok.symm.trans follows
  | ok c =>
    rw [result] at follows
    obtain ⟨later, same, continues⟩ := follows
    cases ok.symm.trans same
    exact ⟨continues.writes write, by rw [continues.view]⟩

/-! ## What is left alone -/

/-- What is apart from some paths stays, nothing comes where nothing stood, and it is not about
policies. -/
structure Confined (s : Store) (paths : List Path) (t u : Transaction) : Prop where
  writes : s.Writes u
  apart : ∀ q, (∀ path ∈ paths, q.overlaps path = false) → (s.view u).get? q = (s.view t).get? q
  policy : u.changes.policy = t.changes.policy

namespace Confined

theorem refl (write : s.Writes t) (paths : List Path) : s.Confined paths t t :=
  ⟨write, fun _ _ => rfl, rfl⟩

theorem trans (first : s.Confined paths t u) (next : s.Confined paths u v) : s.Confined paths t v :=
  ⟨next.writes, fun q apart => (next.apart q apart).trans (first.apart q apart),
    next.policy.trans first.policy⟩

theorem mono {more : List Path} (confined : s.Confined paths t u) (within : paths ⊆ more) :
    s.Confined more t u :=
  ⟨confined.writes, fun q apart => confined.apart q fun path mem => apart path (within mem), confined.policy⟩

end Confined

/-- Some places are given up: beside what is left alone, nothing comes where nothing stood. -/
structure Sheds (s : Store) (paths : List Path) (t u : Transaction) : Prop
    extends s.Confined paths t u where
  absent : ∀ q, (s.view t).get? q = none → (s.view u).get? q = none

theorem Sheds.refl (write : s.Writes t) (paths : List Path) : s.Sheds paths t t :=
  ⟨.refl write paths, fun _ nothing => nothing⟩

theorem Sheds.trans (first : s.Sheds paths t u) (next : s.Sheds paths u v) : s.Sheds paths t v :=
  ⟨first.toConfined.trans next.toConfined, fun q nothing => next.absent q (first.absent q nothing)⟩

theorem Sheds.mono {more : List Path} (sheds : s.Sheds paths t u) (within : paths ⊆ more) :
    s.Sheds more t u :=
  ⟨sheds.toConfined.mono within, sheds.absent⟩

/-- What stands at a path is removed. -/
theorem sheds_remove (write : s.Writes t)
    (ok : s.writeUnchecked t .remove path .null = .ok u) : s.Sheds [path] t u := by
  obtain ⟨writes, patched⟩ := patch_of_writeUnchecked write ok
  refine ⟨⟨writes, fun q apart => ?_, ?_⟩, fun q nothing => absent_of_patch_remove patched nothing⟩
  · have apart := Path.overlaps_eq_false_iff.1 (apart path List.mem_cons_self)
    rw [get?_of_patch_remove patched fun above => ?_, if_neg fun below => ?_]
    · exact apart.2 (Path.hasPrefix_iff_leads.1 below)
    · exact absurd (Path.hasPrefix_iff_leads.1 above) apart.1
  · rw [writeUnchecked_changes ok]
    exact List.append_nil _

/-- An empty object above a path is removed. What is apart from the path was not there. -/
theorem sheds_prune_step (write : s.Writes t) (empty : s.read t (path.take depth) = .ok (.object []))
    (ok : s.writeUnchecked t .remove (path.take depth) .null = .ok u) : s.Sheds [path] t u := by
  obtain ⟨writes, patched⟩ := patch_of_writeUnchecked write ok
  refine ⟨⟨writes, fun q apart => ?_, ?_⟩, fun q nothing => absent_of_patch_remove patched nothing⟩
  · have apart := apart path List.mem_cons_self
    rw [get?_of_patch_remove patched fun above => (Path.overlaps_take apart above).elim]
    split
    · next below =>
      -- Below an empty object there is nothing, and the place is strictly below it.
      have empty := (read_eq_ok_iff write).1 empty
      obtain ⟨rest, segments⟩ := Path.hasPrefix_iff.1 below
      cases rest with
      | nil =>
        have same : q = path.take depth := Path.ext (segments.trans (List.append_nil _))
        exact (Path.overlaps_take (n := depth) apart (by rw [same, Path.hasPrefix_self])).elim
      | cons key rest =>
        unfold Contents.get? Tree.get? at empty ⊢
        rw [segments, Tree.at?_append, empty]
        rfl
    · rfl
  · rw [writeUnchecked_changes ok]
    exact List.append_nil _

theorem sheds_prune (write : s.Writes t) (ok : s.prune t path depth = .ok u) : s.Sheds [path] t u := by
  induction depth generalizing t with
  | zero =>
    cases ok
    exact .refl write _
  | succ depth ih =>
    unfold prune at ok
    dsimp only at ok
    split at ok
    · next empty =>
      obtain ⟨between, removed, rest⟩ := bind_ok ok
      have first := sheds_prune_step write empty removed
      exact first.trans (ih first.writes rest)
    · cases ok
      exact .refl write _

/-- A place is given up, with what is left empty above it. -/
theorem clears_removePruned (write : s.Writes t) (ok : s.removePruned t path = .ok u) :
    s.Sheds [path] t u ∧ (s.view u).get? path = none := by
  unfold removePruned at ok
  dsimp only at ok
  split at ok
  · next changed removed =>
    have first := sheds_remove write removed
    have rest := sheds_prune first.writes ok
    refine ⟨first.trans rest, rest.absent path ?_⟩
    rw [get?_of_patch_remove (patch_of_writeUnchecked write removed).2 fun _ => rfl,
      if_pos (Path.hasPrefix_self path)]
  · next e failed =>
    split at ok
    · next nothing =>
      have rest := sheds_prune write ok
      exact ⟨rest, rest.absent path (absent_of_notFound write failed nothing)⟩
    · cases ok

/-- Nothing is left at the paths that are given up. -/
theorem clears_removeAll (write : s.Writes t) (ok : s.removeAll t paths = .ok u) :
    s.Sheds paths t u ∧ ∀ path ∈ paths, (s.view u).get? path = none := by
  unfold removeAll at ok
  induction paths generalizing t with
  | nil =>
    cases ok
    exact ⟨.refl write _, fun _ never => by cases never⟩
  | cons path rest ih =>
    rw [List.foldlM_cons] at ok
    obtain ⟨between, first, others⟩ := bind_ok ok
    obtain ⟨sheds, gone⟩ := clears_removePruned write first
    obtain ⟨later, gone'⟩ := ih sheds.writes others
    refine ⟨(sheds.mono (by simp)).trans (later.mono (List.subset_cons_self _ _)), fun q mem => ?_⟩
    rcases List.mem_cons.1 mem with rfl | behind
    · exact later.absent q gone
    · exact gone' q behind

/-- A place is made, unless something stands there. -/
theorem confined_ensure (write : s.Writes t) (ok : s.ensure t path = .ok u) : s.Confined [path] t u := by
  unfold ensure at ok
  split at ok
  · cases ok
    exact .refl write _
  · split at ok
    · obtain ⟨writes, made⟩ := makeDir_of_makeDir write ok
      refine ⟨writes, fun q apart => Contents.get?_makeDir made ?_, ?_⟩
      · have apart := Path.overlaps_eq_false_iff.1 (apart path List.mem_cons_self)
        exact Path.hasPrefix_eq_false_iff.2 apart.1
      · rw [makeDir_changes ok]
        show t.changes.policy ++ _ = _
        unfold Edit.notes
        dsimp only
        split
        · next made _ => cases made <;> exact List.append_nil _
        · exact List.append_nil _
    · cases ok

end Store

end DocStore
