import ScopedWork.Proofs.Versions

/-!
# What a tracker assumes of its view

A context's tracker believes something about every row it tracks: the key of an added entity
is free in the view, and the row of any other entity holds its baseline at its version
(`Tracked.Fits`). While that belief is right, the log that a save detects applies to the view
as a whole, and the tracker it then accepts believes the view after the log: the database
and the tracker count versions in lock step (an insert starts at 1 and so does an accepted
added entity; an update and an accepted modification, explicit or implicit, each add one),
and a deleted entity's row is gone. Every entity of the accepted tracker is unchanged, its
value the store's equal of its baseline (`Tracked.Settled`).

The second half is about the rest of the view. A log changes no row outside its keys, and
what it does to its keys depends only on the rows under them: a view whose other rows change
keeps its rows under the keys of a log applied on top of it.
-/

namespace ScopedWork

namespace Value

/-- The store's equality is reflexive: a NaN equals itself. -/
@[simp] theorem same_refl (v : Value) : v.same v = true := by
  cases v with
  | float x =>
    by_cases hx : x.isNaN = true
    · simp [same, hx]
    · simp [same, Binary64.ieeeEq, hx]
  | _ => simp [same]

end Value

namespace Change

variable {ts : Tables} {table : String} {i : Int} {row : Row}

/-- An update expecting the version its row has replaces the row, one version up. -/
theorem apply_update_current (v : Value) (hrow : ts.get? (table, i) = some row) :
    (update table i v (some row.version)).apply ts = .ok (ts.set (table, i) ⟨v, row.version + 1⟩, 1) := by
  simp only [apply, hrow, check, if_true]
  rfl

/-- A delete expecting the version its row has removes the row. -/
theorem apply_delete_current (hrow : ts.get? (table, i) = some row) :
    (delete table i (some row.version)).apply ts = .ok (ts.erase (table, i), 1) := by
  simp only [apply, hrow, check, if_true]
  rfl

end Change

namespace Tracked

variable {e : Tracked} {k : Key} {row : Option Row}

/-- What the tracking of an entity assumes of the row under its key: an added entity's key has
no row, any other entity's row holds its baseline at its version. -/
def Fits (e : Tracked) (row : Option Row) : Prop :=
  if e.state = .added then row = none
  else e.state ≠ .detached ∧ ∃ b, e.baseline = some b ∧ row = some ⟨b, e.version⟩

/-- An entity a save has nothing to write for, on its row: unchanged, its value the store's
equal of its baseline, and the row holding that baseline at its version. -/
def Settled (e : Tracked) (row : Option Row) : Prop :=
  e.state = .unchanged ∧ ∃ b, e.baseline = some b ∧ b.same e.current = true ∧
    row = some ⟨b, e.version⟩

/-- Whether a tracking fits its row does not depend on the entity's current value. -/
@[simp] theorem fits_current (e : Tracked) (v : Value) (row : Option Row) :
    ({ e with current := v } : Tracked).Fits row ↔ e.Fits row := Iff.rfl

theorem Settled.fits (h : e.Settled row) : e.Fits row := by
  obtain ⟨hs, b, hb, -, hrow⟩ := h
  simp only [Fits, hs, reduceCtorEq, if_false, ne_eq, not_false_eq_true, true_and]
  exact ⟨b, hb, hrow⟩

theorem Settled.not_pending (h : e.Settled row) : e.pending = false := by
  obtain ⟨hs, b, hb, hsame, -⟩ := h
  simp [pending, implicitlyModified, EntityState.isPending, hs, hb, hsame]

/-- A settled entity, with its value as the new baseline, at a new version. -/
theorem settled_settled (e : Tracked) (version : Nat) :
    (e.settled version).Settled (some ⟨e.current, version⟩) :=
  ⟨rfl, e.current, rfl, Value.same_refl _, rfl⟩

/-- An entity that fits its row and has nothing to write is settled on it, and accepting
changes leaves it as it is. -/
theorem settled_of_change_eq_none (hfit : e.Fits row) (hch : e.change k = none) :
    e.Settled row ∧ e.accepted = e := by
  unfold Fits at hfit
  unfold change at hch
  unfold accepted
  cases hs : e.state with
  | unchanged =>
    simp only [hs, reduceCtorEq, if_false, ne_eq, not_false_eq_true, true_and] at hfit hch ⊢
    obtain ⟨b, hb, rfl⟩ := hfit
    have himp : e.implicitlyModified = false := by
      cases h : e.implicitlyModified
      · rfl
      · simp [h] at hch
    have hsame : b.same e.current = true := by
      simpa [implicitlyModified, hs, hb] using himp
    exact ⟨⟨hs, b, hb, hsame, rfl⟩, by simp [himp]⟩
  | detached => simp [hs] at hfit
  | added | modified | deleted => simp [hs] at hch

/-- An entity that fits its row writes one change under its key. The change applies to the
view, touching one row and changing no other; afterwards a deleted entity's row is gone and
the accepted entity is settled on its row. -/
theorem apply_change {ts : Tables} {ch : Change} (hfit : e.Fits (ts.get? k))
    (hch : e.change k = some ch) :
    ch.key = k ∧ ∃ ts', ch.apply ts = .ok (ts', 1) ∧ (∀ j, j ≠ k → ts'.get? j = ts.get? j) ∧
      (if e.state = .deleted then ts'.get? k = none else e.accepted.Settled (ts'.get? k)) := by
  obtain ⟨table, i⟩ := k
  unfold Fits at hfit
  unfold change at hch
  cases hs : e.state with
  | added =>
    simp only [hs, if_true] at hfit hch
    cases hch
    refine ⟨rfl, ts.set (table, i) ⟨e.current, 1⟩, by simp [Change.apply, hfit], fun j hj => by simp [hj], ?_⟩
    simpa [accepted, hs] using settled_settled e 1
  | modified =>
    simp only [hs, reduceCtorEq, if_false, ne_eq, not_false_eq_true, true_and] at hfit hch
    obtain ⟨b, hb, hrow⟩ := hfit
    cases hch
    refine ⟨rfl, ts.set (table, i) ⟨e.current, e.version + 1⟩, Change.apply_update_current _ hrow,
      fun j hj => by simp [hj], ?_⟩
    simpa [accepted, hs] using settled_settled e (e.version + 1)
  | deleted =>
    simp only [hs, reduceCtorEq, if_false, ne_eq, not_false_eq_true, true_and] at hfit hch
    obtain ⟨b, hb, hrow⟩ := hfit
    cases hch
    exact ⟨rfl, ts.erase (table, i), Change.apply_delete_current hrow, fun j hj => by simp [hj], by simp⟩
  | unchanged =>
    simp only [hs, reduceCtorEq, if_false, ne_eq, not_false_eq_true, true_and] at hfit hch
    obtain ⟨b, hb, hrow⟩ := hfit
    -- only an implicit modification writes: an update checking the tracked version
    cases himp : e.implicitlyModified
    · simp [himp] at hch
    · simp only [himp, if_true, Option.some.injEq] at hch
      subst hch
      refine ⟨rfl, ts.set (table, i) ⟨e.current, e.version + 1⟩, Change.apply_update_current _ hrow,
        fun j hj => by simp [hj], ?_⟩
      simpa [accepted, hs, himp] using settled_settled e (e.version + 1)
  | detached => simp [hs] at hfit

end Tracked

namespace Tracker

variable {t : Tracker} {ts : Tables} {k : Key}

/-- Every tracked entity fits its row of the view, and no key is tracked twice. -/
def Fits (t : Tracker) (ts : Tables) : Prop :=
  (t.entries.map (·.1)).Nodup ∧ ∀ p ∈ t.entries, p.2.Fits (ts.get? p.1)

/-- Every tracked entity is settled on its row of the view, and no key is tracked twice. -/
def Settled (t : Tracker) (ts : Tables) : Prop :=
  (t.entries.map (·.1)).Nodup ∧ ∀ p ∈ t.entries, p.2.Settled (ts.get? p.1)

theorem find?_eq_none_iff : t.find? k = none ↔ ∀ p ∈ t.entries, p.1 ≠ k := by
  simp [Tracker.find?, List.find?_eq_none]

theorem Settled.fits (h : t.Settled ts) : t.Fits ts :=
  ⟨h.1, fun p hp => (h.2 p hp).fits⟩

/-- A settled tracker has nothing to save. -/
theorem Settled.hasPending (h : t.Settled ts) : t.hasPending = false := by
  simp only [Tracker.hasPending, List.any_eq_false]
  intro p hp
  simp [(h.2 p hp).not_pending]

theorem detectChanges_eq (t : Tracker) :
    t.detectChanges = t.entries.filterMap fun p => p.2.change p.1 := rfl

/-- The log detected from entries with distinct keys that fit the view applies to it, leaves
every row outside their keys alone, removes the rows of deleted entities and settles every
other accepted entity on its row. -/
theorem applyAll_filterMap_change :
    ∀ {l : List (Key × Tracked)} {ts : Tables}, (l.map (·.1)).Nodup →
      (∀ p ∈ l, p.2.Fits (ts.get? p.1)) →
      ∃ ts' n, Change.applyAll (l.filterMap fun p => p.2.change p.1) ts = .ok (ts', n) ∧
        (∀ j, j ∉ l.map (·.1) → ts'.get? j = ts.get? j) ∧
        ∀ p ∈ l, if p.2.state = .deleted then ts'.get? p.1 = none
          else p.2.accepted.Settled (ts'.get? p.1)
  | [], ts, _, _ => ⟨ts, 0, rfl, fun _ _ => rfl, fun _ hp => nomatch hp⟩
  | (k, e) :: l, ts, hnd, hfit => by
    rw [List.map_cons, List.nodup_cons] at hnd
    have hk : ∀ q ∈ l, q.1 ≠ k := fun q hq heq => hnd.1 (List.mem_map.mpr ⟨q, hq, heq⟩)
    have hfe : e.Fits (ts.get? k) := hfit (k, e) (.head _)
    cases hch : e.change k with
    | none =>
      obtain ⟨ts', n, happ, hout, hin⟩ := applyAll_filterMap_change hnd.2 fun p hp => hfit p (.tail _ hp)
      obtain ⟨hset, hacc⟩ := Tracked.settled_of_change_eq_none hfe hch
      refine ⟨ts', n, by simpa [hch] using happ, fun j hj => hout j (by simp_all), ?_⟩
      intro p hp
      rcases List.mem_cons.mp hp with rfl | hp
      · have hst : e.state ≠ .deleted := by rw [hset.1]; exact nofun
        rw [if_neg hst, hacc, hout k hnd.1]
        exact hset
      · exact hin p hp
    | some ch =>
      -- `e` writes first; the rest of the log runs on the view after it, which agrees off `k`
      obtain ⟨hkey, ts₁, happ₁, hout₁, hat₁⟩ := Tracked.apply_change hfe hch
      have hfit₁ : ∀ p ∈ l, p.2.Fits (ts₁.get? p.1) := fun p hp => by
        rw [hout₁ p.1 (hk p hp)]
        exact hfit p (.tail _ hp)
      obtain ⟨ts', n, happ, hout, hin⟩ := applyAll_filterMap_change hnd.2 hfit₁
      refine ⟨ts', 1 + n, ?_, ?_, ?_⟩
      · simp [hch, Change.applyAll, happ₁, happ, bind, Except.bind, pure, Except.pure]
      · intro j hj
        have hjk : j ≠ k := fun h => hj (by simp [h])
        rw [hout j (fun h => hj (List.mem_cons_of_mem _ h)), hout₁ j hjk]
      · intro p hp
        rcases List.mem_cons.mp hp with rfl | hp
        · rw [hout k hnd.1]
          exact hat₁
        · exact hin p hp

/-- Accepting the changes of a save keeps the keys of the entities it keeps. -/
theorem acceptChanges_keys_sublist (t : Tracker) :
    (t.acceptChanges.entries.map (·.1)).Sublist (t.entries.map (·.1)) := by
  simp only [acceptChanges, List.map_map]
  exact List.filter_sublist.map _

theorem mem_acceptChanges {p : Key × Tracked} (hp : p ∈ t.acceptChanges.entries) :
    ∃ e, (p.1, e) ∈ t.entries ∧ e.state ≠ .deleted ∧ p.2 = e.accepted := by
  simp only [acceptChanges, List.mem_map, List.mem_filter, bne_iff_ne, ne_eq] at hp
  obtain ⟨q, ⟨hq, hst⟩, rfl⟩ := hp
  exact ⟨q.2, hq, hst, rfl⟩

/-- A save of a tracker that fits its view. The log it detects applies to the view; the
accepted tracker is settled on the view after it, every deleted entity's row is gone, and no
row outside the tracked keys changes. -/
theorem save_settles (hfit : t.Fits ts) :
    ∃ ts' n, Change.applyAll t.detectChanges ts = .ok (ts', n) ∧
      t.acceptChanges.Settled ts' ∧
      (∀ p ∈ t.entries, p.2.state = .deleted → ts'.get? p.1 = none) ∧
      (∀ j, t.find? j = none → ts'.get? j = ts.get? j) := by
  obtain ⟨ts', n, happ, hout, hin⟩ := applyAll_filterMap_change hfit.1 hfit.2
  refine ⟨ts', n, happ, ⟨(acceptChanges_keys_sublist t).nodup hfit.1, ?_⟩, ?_, ?_⟩
  · intro p hp
    obtain ⟨e, he, hst, hpe⟩ := mem_acceptChanges hp
    have := hin _ he
    rw [if_neg hst] at this
    rw [hpe]
    exact this
  · intro p hp hst
    have := hin p hp
    rwa [if_pos hst] at this
  · intro j hj
    refine hout j fun hmem => ?_
    obtain ⟨p, hp, hpj⟩ := List.mem_map.mp hmem
    exact find?_eq_none_iff.mp hj p hp hpj

/-! ### What each tracker operation keeps -/

theorem mem_of_find? {e : Tracked} (h : t.find? k = some e) : (k, e) ∈ t.entries := by
  simp only [Tracker.find?, Option.map_eq_some_iff] at h
  obtain ⟨p, hp, rfl⟩ := h
  have hk : p.1 = k := by simpa using List.find?_some hp
  rw [← hk]
  exact List.mem_of_find?_eq_some hp

theorem insertSorted_perm (k : Key) (e : Tracked) :
    ∀ l : List (Key × Tracked), (insertSorted k e l).Perm ((k, e) :: l)
  | [] => .refl _
  | (j, f) :: rest => by
    unfold insertSorted
    split
    · exact .refl _
    · exact ((insertSorted_perm k e rest).cons _).trans (.swap _ _ _)

/-- A new entity that fits its row, under an untracked key. -/
theorem Fits.insert {e : Tracked} (hfit : t.Fits ts) (hk : t.find? k = none)
    (he : e.Fits (ts.get? k)) : Tracker.Fits ⟨insertSorted k e t.entries⟩ ts := by
  have hperm := insertSorted_perm k e t.entries
  refine ⟨(hperm.map _).nodup_iff.mpr ?_, fun p hp => ?_⟩
  · rw [List.map_cons, List.nodup_cons]
    exact ⟨fun hmem => by
      obtain ⟨p, hp, hpk⟩ := List.mem_map.mp hmem
      exact find?_eq_none_iff.mp hk p hp hpk, hfit.1⟩
  · rcases List.mem_cons.mp (hperm.mem_iff.mp hp) with rfl | hp
    · exact he
    · exact hfit.2 p hp

/-- Editing an entity keeps the keys. -/
theorem keys_put (t : Tracker) (k : Key) (e : Tracked) :
    (t.put k e).entries.map (·.1) = t.entries.map (·.1) := by
  simp only [Tracker.put, List.map_map]
  congr 1
  funext p
  by_cases hp : p.1 = k <;> simp [hp]

/-- A tracked entity replaced by one that fits its row. -/
theorem Fits.put {e : Tracked} (hfit : t.Fits ts) (he : e.Fits (ts.get? k)) : (t.put k e).Fits ts := by
  refine ⟨(keys_put t k e) ▸ hfit.1, fun q hq => ?_⟩
  simp only [Tracker.put, List.mem_map] at hq
  obtain ⟨p, hp, rfl⟩ := hq
  by_cases hpk : p.1 = k
  · simpa [hpk] using he
  · simpa [hpk] using hfit.2 p hp

theorem Fits.congr {ts' : Tables} (hfit : t.Fits ts) (h : ∀ p ∈ t.entries, ts'.get? p.1 = ts.get? p.1) :
    t.Fits ts' :=
  ⟨hfit.1, fun p hp => by rw [h p hp]; exact hfit.2 p hp⟩

theorem fits_clear (t : Tracker) (ts : Tables) : t.clear.Fits ts :=
  ⟨List.nodup_nil, fun _ hp => nomatch hp⟩

/-- Adding an entity under a key that has no row keeps the tracker fitting. -/
theorem Fits.trackAdded {v : Value} {t' : Tracker} (hfit : t.Fits ts) (hk : ts.get? k = none)
    (h : t.trackAdded k v = .ok t') : t'.Fits ts := by
  unfold Tracker.trackAdded at h
  cases hf : t.find? k with
  | some e => simp [isTracked, hf] at h
  | none =>
    simp only [isTracked, hf, Option.isSome_none, Bool.false_eq_true, if_false, Except.ok.injEq] at h
    subst h
    exact hfit.insert hf (by simp [Tracked.Fits, hk])

/-- Loading a row under an untracked key keeps the tracker fitting. -/
theorem Fits.trackLoaded {row : Row} {t' : Tracker} (hfit : t.Fits ts) (hk : ts.get? k = some row)
    (h : t.trackLoaded k row.value row.version = .ok t') : t'.Fits ts := by
  unfold Tracker.trackLoaded at h
  cases hf : t.find? k with
  | some e => simp [isTracked, hf] at h
  | none =>
    simp only [isTracked, hf, Option.isSome_none, Bool.false_eq_true, if_false, Except.ok.injEq] at h
    subst h
    exact hfit.insert hf (by simp [Tracked.Fits, hk])

theorem Fits.modify {v : Value} {t' : Tracker} {st : EntityState} (hfit : t.Fits ts)
    (h : t.modify k v = .ok (t', st)) : t'.Fits ts := by
  unfold Tracker.modify at h
  cases hf : t.find? k with
  | none => simp [hf] at h
  | some e =>
    have he := hfit.2 _ (mem_of_find? hf)
    simp only [hf] at h
    split at h
    · cases h
    · rename_i hdel
      simp only [Except.ok.injEq, Prod.mk.injEq] at h
      obtain ⟨rfl, -⟩ := h
      refine hfit.put ?_
      by_cases hadd : e.state = .added
      · simpa [Tracked.Fits, hadd] using he
      · simp only [Tracked.Fits, hadd, if_false] at he
        simp [Tracked.Fits, hadd, he.2]

theorem Fits.modifyUntracked {v : Value} {t' : Tracker} (hfit : t.Fits ts)
    (h : t.modifyUntracked k v = .ok t') : t'.Fits ts := by
  unfold Tracker.modifyUntracked at h
  cases hf : t.find? k with
  | none => simp [hf] at h
  | some e =>
    simp only [hf, Except.ok.injEq] at h
    subst h
    exact hfit.put ((Tracked.fits_current e v _).mpr (hfit.2 _ (mem_of_find? hf)))

theorem Fits.remove {t' : Tracker} {st : EntityState} (hfit : t.Fits ts)
    (h : t.remove k = .ok (t', st)) : t'.Fits ts := by
  unfold Tracker.remove at h
  cases hf : t.find? k with
  | none => simp [hf] at h
  | some e =>
    have he := hfit.2 _ (mem_of_find? hf)
    simp only [hf] at h
    split at h
    · -- an added entity is forgotten
      simp only [Except.ok.injEq, Prod.mk.injEq] at h
      obtain ⟨rfl, -⟩ := h
      exact ⟨(List.filter_sublist.map _).nodup hfit.1,
        fun p hp => hfit.2 p (List.mem_filter.mp hp).1⟩
    · rename_i hadd
      simp only [Except.ok.injEq, Prod.mk.injEq] at h
      obtain ⟨rfl, -⟩ := h
      have hadd' : e.state ≠ .added := by simpa using hadd
      simp only [Tracked.Fits, hadd', if_false] at he
      exact hfit.put (by simp [Tracked.Fits, he.2])

end Tracker

namespace Change

variable {cs : List Change} {ts ts' : Tables} {n : Nat} {j : Key}

/-- A log changes no row outside its keys. -/
theorem applyAll_get?_of_forall_ne (h : applyAll cs ts = .ok (ts', n)) (hj : ∀ c ∈ cs, c.key ≠ j) :
    ts'.get? j = ts.get? j := by
  induction cs generalizing ts n with
  | nil =>
    simp only [applyAll, Except.ok.injEq, Prod.mk.injEq] at h
    rw [← h.1]
  | cons c cs ih =>
    obtain ⟨ts₁, n₁, m, h₁, h₂⟩ := applyAll_cons_ok h
    rw [ih h₂ fun d hd => hj d (.tail _ hd), apply_get?_of_ne (hj c (.head _)) h₁]

/-- A change does the same to two tables that agree under its key, and they still agree
wherever they agreed. -/
theorem apply_congr {P : Key → Prop} {c : Change} {ts₁ ts₂ ts₁' : Tables}
    (hagree : ∀ j, P j → ts₁.get? j = ts₂.get? j) (hkey : P c.key) (h : c.apply ts₁ = .ok (ts₁', n)) :
    ∃ ts₂', c.apply ts₂ = .ok (ts₂', n) ∧ ∀ j, P j → ts₁'.get? j = ts₂'.get? j := by
  have hget := hagree _ hkey
  cases c with
  | insert t i v =>
    simp only [key] at hget
    simp only [apply, ← hget] at h ⊢
    cases hrow : ts₁.get? (t, i) with
    | some row => simp [hrow] at h
    | none =>
      simp only [hrow, Except.ok.injEq, Prod.mk.injEq] at h ⊢
      obtain ⟨rfl, rfl⟩ := h
      exact ⟨_, ⟨rfl, rfl⟩, fun j hj => by simp [Tables.get?_set, hagree j hj]⟩
  | update t i v e =>
    simp only [key] at hget
    simp only [apply, ← hget] at h ⊢
    cases hrow : ts₁.get? (t, i) with
    | none =>
      simp only [hrow] at h ⊢
      split at h
      · cases h
      · simp only [Except.ok.injEq, Prod.mk.injEq] at h
        obtain ⟨rfl, rfl⟩ := h
        exact ⟨ts₂, by simp_all, hagree⟩
    | some row =>
      simp only [hrow] at h ⊢
      cases hc : check t i row e with
      | error f => simp [hc, bind, Except.bind] at h
      | ok u =>
        simp only [hc, bind, Except.bind, pure, Except.pure, Except.ok.injEq, Prod.mk.injEq] at h ⊢
        obtain ⟨rfl, rfl⟩ := h
        exact ⟨_, ⟨rfl, rfl⟩, fun j hj => by simp [Tables.get?_set, hagree j hj]⟩
  | delete t i e =>
    simp only [key] at hget
    simp only [apply, ← hget] at h ⊢
    cases hrow : ts₁.get? (t, i) with
    | none =>
      simp only [hrow] at h ⊢
      split at h
      · cases h
      · simp only [Except.ok.injEq, Prod.mk.injEq] at h
        obtain ⟨rfl, rfl⟩ := h
        exact ⟨ts₂, by simp_all, hagree⟩
    | some row =>
      simp only [hrow] at h ⊢
      cases hc : check t i row e with
      | error f => simp [hc, bind, Except.bind] at h
      | ok u =>
        simp only [hc, bind, Except.bind, pure, Except.pure, Except.ok.injEq, Prod.mk.injEq] at h ⊢
        obtain ⟨rfl, rfl⟩ := h
        exact ⟨_, ⟨rfl, rfl⟩, fun j hj => by simp [Tables.get?_erase, hagree j hj]⟩

/-- A log does the same to two tables that agree under its keys. -/
theorem applyAll_congr {P : Key → Prop} {ts₁ ts₂ ts₁' : Tables}
    (hagree : ∀ j, P j → ts₁.get? j = ts₂.get? j) (hkeys : ∀ c ∈ cs, P c.key)
    (h : applyAll cs ts₁ = .ok (ts₁', n)) :
    ∃ ts₂', applyAll cs ts₂ = .ok (ts₂', n) ∧ ∀ j, P j → ts₁'.get? j = ts₂'.get? j := by
  induction cs generalizing ts₁ ts₂ n with
  | nil =>
    simp only [applyAll, Except.ok.injEq, Prod.mk.injEq] at h
    obtain ⟨rfl, rfl⟩ := h
    exact ⟨ts₂, rfl, hagree⟩
  | cons c cs ih =>
    simp only [applyAll] at h
    cases h₁ : c.apply ts₁ with
    | error e => simp [h₁, bind, Except.bind] at h
    | ok p =>
      obtain ⟨u₁, n₁⟩ := p
      cases h₂ : applyAll cs u₁ with
      | error e => simp [h₁, h₂, bind, Except.bind] at h
      | ok q =>
        obtain ⟨v₁, m⟩ := q
        simp only [h₁, h₂, bind, Except.bind, pure, Except.pure, Except.ok.injEq, Prod.mk.injEq] at h
        obtain ⟨rfl, rfl⟩ := h
        obtain ⟨u₂, hu₂, hagree₁⟩ := apply_congr hagree (hkeys c (.head _)) h₁
        obtain ⟨v₂, hv₂, hagree₂⟩ := ih hagree₁ (fun d hd => hkeys d (.tail _ hd)) h₂
        exact ⟨v₂, by simp [applyAll, hu₂, hv₂, bind, Except.bind, pure, Except.pure], hagree₂⟩

end Change

end ScopedWork
