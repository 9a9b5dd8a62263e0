import ScopedWork.Proofs.Attempt.Fresh
import ScopedWork.Proofs.Root.Scopes

/-!
# Transactions never leak

The database keeps the transactions that are active; every context's connection holds at
most one of them in its slot. `Held` says the two agree: the database keeps exactly the
transactions that some connection holds, each held by one connection only, and all of them
active. The contexts that units of work use exist, and there are at least `n` contexts.

Every operation on a context keeps `Held`, whether it succeeds or fails halfway. Where an
operation takes a transaction out of its slot (commit, rollback, closing the connection), the
database ends that transaction in the same breath, whatever the outcome: a commit that fails
before or while it applies the log rolls the transaction back, and one that fails after it
has committed it. Where a save or a raw command runs without a transaction, it begins one of
its own and ends it before it returns. Where an operation calls the host program's hooks,
the hooks are assumed to keep `Held`.

So once every connection is closed, the database keeps no transaction at all.
-/

namespace ScopedWork

open Act

variable {σ : Type}

/-! ## What database steps do to the kept transactions -/

namespace Database

variable {α : Type}

/-- The step keeps the same transactions, and keeps them well formed. -/
def KeepsTxns (x : Step α) : Prop :=
  ∀ ⦃db r db'⦄, db.txns.Wf → (x.run).run db = (r, db') →
    db'.txns.Wf ∧ ∀ t, (db'.txns.find? t).isSome = (db.txns.find? t).isSome

/-- The step ends transaction `t` when the database keeps it, and leaves the others alone. -/
def Ends (t : Nat) (x : Step α) : Prop :=
  ∀ ⦃db r db'⦄, db.txns.Wf → (db.txns.find? t).isSome → (x.run).run db = (r, db') →
    db'.txns = db.txns.drop t

theorem view_keepsTxns (txn : Option Nat) : KeepsTxns (view txn) := by
  intro db r db' hwf hx
  have hdb : db' = db := by rw [← view_run_state txn db, hx]
  subst hdb
  exact ⟨hwf, fun _ => rfl⟩

theorem write_keepsTxns (id : Nat) (cs : List Change) : KeepsTxns (write id cs) := by
  intro db r db' hwf hx
  rcases @write_run_cases _ id hwf cs with ⟨e, he⟩ | ⟨t, v, n₀, v', n, ht, -, -, he⟩ <;>
    rw [he, Prod.mk.injEq] at hx <;> obtain ⟨-, rfl⟩ := hx
  · exact ⟨hwf, fun _ => rfl⟩
  · -- the written transaction stays, with a longer log
    refine ⟨hwf.put (hwf.find?_some ht).2.1, fun j => ?_⟩
    have hid := (hwf.find?_some ht).1
    by_cases hj : j = id
    · subst hj
      simp [hid, ht]
    · simp [hid, hj]

theorem rollback_ends (t : Nat) : Ends t (rollback t) := by
  intro db r db' hwf ht hx
  obtain ⟨tx, htx⟩ := Option.isSome_iff_exists.mp ht
  rw [rollback_run hwf htx, Prod.mk.injEq] at hx
  rw [← hx.2]

/-- A commit ends its transaction whatever happens: it is rolled back if the connection is
lost before the log is applied or if the log no longer applies, and committed otherwise,
also when the connection is lost afterwards. -/
theorem commit_ends (t : Nat) : Ends t (commit t) := by
  intro db r db' hwf ht hx
  obtain ⟨tx, htx⟩ := Option.isSome_iff_exists.mp ht
  by_cases hf : db.commitFault = some .beforeApply
  · rw [commit_run_before hwf hf htx, Prod.mk.injEq] at hx
    rw [← hx.2]
  · cases happly : Change.applyAll tx.log db.tables with
    | error e =>
      rw [commit_run_conflict hwf hf htx happly, Prod.mk.injEq] at hx
      rw [← hx.2]
    | ok p =>
      rw [commit_run_apply hwf hf htx happly, Prod.mk.injEq] at hx
      rw [← hx.2]

/-- Beginning either fails and keeps the same transactions, or keeps one more, under the next
id. -/
theorem begin_cases (iso : Option Isolation) {db db' : Database} {r : Except Fault Nat}
    (hx : ((begin iso).run).run db = (r, db')) :
    ((∃ e, r = .error e) ∧ db'.txns = db.txns) ∨
      (r = .ok db.txns.next ∧ db'.txns = (db.txns.begin iso).1) := by
  by_cases hf : 0 < db.transientFaults
  · rw [begin_run_fault iso db hf, Prod.mk.injEq] at hx
    obtain ⟨rfl, rfl⟩ := hx
    exact .inl ⟨⟨_, rfl⟩, rfl⟩
  · rw [begin_run iso db (by omega), Prod.mk.injEq] at hx
    obtain ⟨rfl, rfl⟩ := hx
    exact .inr ⟨rfl, rfl⟩

/-- A transaction of its own, begun as the next one, kept by the steps that used it, and
ended: the database keeps the same transactions after as before. -/
theorem own_keepsTxns {db db' : Database} {m : TxnManager} {iso : Option Isolation} (hwf : db.txns.Wf)
    (hm : m.Wf ∧ ∀ j, (m.find? j).isSome = (((db.txns.begin iso).1).find? j).isSome)
    (hend : db'.txns = m.drop db.txns.next) :
    db'.txns.Wf ∧ ∀ j, (db'.txns.find? j).isSome = (db.txns.find? j).isSome := by
  refine ⟨by rw [hend]; exact hm.1.drop _, fun j => ?_⟩
  rw [hend, TxnManager.find?_drop]
  by_cases hj : j = db.txns.next
  · -- the next id was kept by nobody before
    subst hj
    simp [hwf.find?_next_eq_none]
  · rw [if_neg hj, hm.2, TxnManager.find?_begin hwf, if_neg hj]

end Database

/-! ## The invariant -/

namespace World

/-- The transaction that context `c`'s connection holds. -/
def slot (w : World) (c : Nat) : Option Nat := (w.contexts[c]?.getD default).txn

theorem slot_setContext (w : World) (c c' : Nat) (x : ContextState) :
    (w.setContext c x).slot c' = if c' = c ∧ c < w.contexts.size then x.txn else w.slot c' := by
  simp only [slot, setContext, Array.getElem?_modify]
  by_cases hc : c' = c
  · subst hc
    by_cases hlt : c' < w.contexts.size
    · simp [hlt]
    · simp [hlt]
  · simp [Ne.symm hc, hc]

/-- A context changed in what it tracks or whom it tells, not in its transaction. -/
theorem slot_setContext_of_txn (w : World) {c : Nat} {x : ContextState}
    (hx : x.txn = (w.contexts[c]?.getD default).txn) (c' : Nat) : (w.setContext c x).slot c' = w.slot c' := by
  rw [slot_setContext]
  split
  · rename_i h
    rw [h.1, hx]
    rfl
  · rfl

/-- Only a context that exists holds a transaction. -/
theorem lt_of_slot {w : World} {c t : Nat} (h : w.slot c = some t) : c < w.contexts.size := by
  refine (Nat.lt_or_ge c w.contexts.size).resolve_right fun hc => ?_
  rw [slot, Array.getElem?_eq_none hc] at h
  cases h

/-- Changing a context that exists. -/
theorem slot_setContext_of_lt (w : World) {c : Nat} (hc : c < w.contexts.size) (x : ContextState)
    (c' : Nat) : (w.setContext c x).slot c' = if c' = c then x.txn else w.slot c' := by
  simp only [slot_setContext, hc, and_true]

/-- Emptying the slot of context `c`, whether it exists or not. -/
theorem slot_setContext_none (w : World) (c : Nat) {x : ContextState} (hx : x.txn = none) (c' : Nat) :
    (w.setContext c x).slot c' = if c' = c then none else w.slot c' := by
  rw [slot_setContext]
  by_cases hc : c' = c
  · subst hc
    by_cases hlt : c' < w.contexts.size
    · simp [hlt, hx]
    · simp only [hlt, and_false, if_false, if_true]
      rw [slot, Array.getElem?_eq_none (Nat.le_of_not_lt hlt)]
      rfl
  · simp [hc]

@[simp] theorem slot_push (w : World) (c : Nat) :
    ({ w with contexts := w.contexts.push {} } : World).slot c = w.slot c := by
  simp only [slot, World.getD_push]
  split
  · rename_i h
    subst h
    simp
    rfl
  · rfl

end World

/-- The database keeps exactly the transactions that the connections hold, each held by one
connection only and all of them active; every context a unit of work uses exists, and there
are at least `n` contexts. -/
structure Held (n : Nat) (w : World) : Prop where
  wf : w.db.txns.Wf
  kept : ∀ t, (w.db.txns.find? t).isSome ↔ ∃ c, w.slot c = some t
  once : ∀ c c' t, w.slot c = some t → w.slot c' = some t → c = c'
  units : ∀ u c : Nat, (w.units[u]?.getD default).context = some c → c < w.contexts.size
  size : n ≤ w.contexts.size

namespace Held

variable {n : Nat} {w w' : World}

/-- `Held` reads the kept transactions, the slots, the units' contexts and the number of
contexts; a change that keeps the first three and adds contexts keeps it. -/
theorem of_frame (h : Held n w) (hwf : w'.db.txns.Wf)
    (htx : ∀ t, (w'.db.txns.find? t).isSome = (w.db.txns.find? t).isSome)
    (hslot : ∀ c, w'.slot c = w.slot c)
    (hunits : ∀ u : Nat, (w'.units[u]?.getD default).context = (w.units[u]?.getD default).context)
    (hsize : w.contexts.size ≤ w'.contexts.size) : Held n w' where
  wf := hwf
  kept t := by
    rw [htx, h.kept]
    simp only [hslot]
  once c c' t := by
    rw [hslot, hslot]
    exact h.once c c' t
  units u c hc := Nat.lt_of_lt_of_le (h.units u c (by rw [← hunits]; exact hc)) hsize
  size := Nat.le_trans h.size hsize

theorem mono (h : Held n w) {m : Nat} (hm : m ≤ n) : Held m w :=
  { h with size := Nat.le_trans hm h.size }

/-- Knowing that context `c` exists. -/
theorem at_context (h : Held n w) {c : Nat} (hc : c < w.contexts.size) : Held (max n (c + 1)) w :=
  { h with size := Nat.max_le.mpr ⟨h.size, hc⟩ }

/-- A transaction begins under the next id and the free slot of context `c` holds it. -/
theorem begin (h : Held n w) {c : Nat} {iso : Option Isolation} (hfree : w.slot c = none)
    (htx : w'.db.txns = (w.db.txns.begin iso).1)
    (hslot : ∀ c', w'.slot c' = if c' = c then some w.db.txns.next else w.slot c')
    (hunits : ∀ u : Nat, (w'.units[u]?.getD default).context = (w.units[u]?.getD default).context)
    (hsize : w.contexts.size ≤ w'.contexts.size) : Held n w' := by
  have hnext : ∀ c', w.slot c' ≠ some w.db.txns.next := fun c' hc' => by
    have hkept := (h.kept _).mpr ⟨c', hc'⟩
    rw [h.wf.find?_next_eq_none] at hkept
    cases hkept
  refine ⟨by rw [htx]; exact h.wf.begin iso, fun t => ?_, fun c₁ c₂ t h₁ h₂ => ?_,
    fun u c' hc' => Nat.lt_of_lt_of_le (h.units u c' (by rw [← hunits]; exact hc')) hsize,
    Nat.le_trans h.size hsize⟩
  · rw [htx, TxnManager.find?_begin h.wf]
    simp only [hslot]
    by_cases ht : t = w.db.txns.next
    · subst ht
      simp only [if_true, Option.isSome_some, true_iff]
      exact ⟨c, by simp⟩
    · rw [if_neg ht, h.kept]
      constructor
      · rintro ⟨c', hc'⟩
        refine ⟨c', ?_⟩
        rw [if_neg (fun hcc => by subst hcc; rw [hfree] at hc'; cases hc')]
        exact hc'
      · rintro ⟨c', hc'⟩
        split at hc'
        · exact absurd (Option.some.inj hc').symm ht
        · exact ⟨c', hc'⟩
  · rw [hslot] at h₁ h₂
    split at h₁ <;> split at h₂
    · rename_i hc₁ hc₂
      rw [hc₁, hc₂]
    · cases h₁
      exact absurd h₂ (hnext c₂)
    · cases h₂
      exact absurd h₁ (hnext c₁)
    · exact h.once c₁ c₂ t h₁ h₂

/-- The slot of context `c` is emptied and the database ends the transaction it held. -/
theorem finish (h : Held n w) {c t : Nat} (ht : w.slot c = some t)
    (htx : w'.db.txns = w.db.txns.drop t)
    (hslot : ∀ c', w'.slot c' = if c' = c then none else w.slot c')
    (hunits : ∀ u : Nat, (w'.units[u]?.getD default).context = (w.units[u]?.getD default).context)
    (hsize : w.contexts.size ≤ w'.contexts.size) : Held n w' := by
  refine ⟨by rw [htx]; exact h.wf.drop t, fun t' => ?_, fun c₁ c₂ t' h₁ h₂ => ?_,
    fun u c' hc' => Nat.lt_of_lt_of_le (h.units u c' (by rw [← hunits]; exact hc')) hsize,
    Nat.le_trans h.size hsize⟩
  · rw [htx, TxnManager.find?_drop]
    simp only [hslot]
    by_cases ht' : t' = t
    · -- no other slot holds the ended transaction
      subst ht'
      simp only [if_true, Option.isSome_none, Bool.false_eq_true, false_iff, not_exists]
      intro c' hc'
      split at hc'
      · cases hc'
      · exact absurd (h.once c c' t' ht hc') (Ne.symm ‹_›)
    · rw [if_neg ht', h.kept]
      constructor
      · rintro ⟨c', hc'⟩
        refine ⟨c', ?_⟩
        rw [if_neg (fun hcc => by subst hcc; rw [ht] at hc'; exact ht' (Option.some.inj hc').symm)]
        exact hc'
      · rintro ⟨c', hc'⟩
        split at hc'
        · cases hc'
        · exact ⟨c', hc'⟩
  · rw [hslot] at h₁ h₂
    split at h₁
    · cases h₁
    · split at h₂
      · cases h₂
      · exact h.once c₁ c₂ t' h₁ h₂

end Held

/-! ## Changes that keep the invariant -/

/-- A change that leaves alone what `Held` reads, and adds contexts at most. -/
structure Same (w w' : World) : Prop where
  txns : w'.db.txns = w.db.txns
  slots : ∀ c, w'.slot c = w.slot c
  units : ∀ u : Nat, (w'.units[u]?.getD default).context = (w.units[u]?.getD default).context
  size : w.contexts.size ≤ w'.contexts.size

namespace Same

variable {w : World}

theorem held {n : Nat} {w' : World} (hs : Same w w') (h : Held n w) : Held n w' :=
  h.of_frame (by rw [hs.txns]; exact h.wf) (fun t => by rw [hs.txns]) hs.slots hs.units hs.size

/-- The change touches neither the database, the contexts nor the units. -/
theorem of_eq {w' : World} (hdb : w'.db = w.db) (hc : w'.contexts = w.contexts) (hu : w'.units = w.units) :
    Same w w' :=
  ⟨by rw [hdb], fun c => by simp only [World.slot, hc], fun u => by rw [hu], Nat.le_of_eq (congrArg Array.size hc).symm⟩

theorem setContext {c : Nat} {x : ContextState} (hx : x.txn = (w.contexts[c]?.getD default).txn) :
    Same w (w.setContext c x) :=
  ⟨rfl, World.slot_setContext_of_txn w hx, fun _ => rfl, by simp [World.setContext]⟩

theorem push : Same w { w with contexts := w.contexts.push {} } :=
  ⟨rfl, World.slot_push w, fun _ => rfl, by simp⟩

theorem setObserver (o : Nat) (x : ObserverState) : Same w (w.setObserver o x) :=
  of_eq rfl rfl rfl

theorem setUnit {u : Nat} {x : UnitState} (hx : x.context = (w.units[u]?.getD default).context) :
    Same w (w.setUnit u x) :=
  ⟨rfl, fun _ => rfl, fun _ => World.getD_modify_view _ _ _ _ _ UnitState.context hx, Nat.le_refl _⟩

end Same

namespace Held

variable {n : Nat} {w : World}

/-- The database changes its transactions only as a step that keeps them. -/
theorem of_db (h : Held n w) {db : Database} (hwf : db.txns.Wf)
    (htx : ∀ t, (db.txns.find? t).isSome = (w.db.txns.find? t).isSome) : Held n { w with db } :=
  h.of_frame hwf htx (fun _ => rfl) (fun _ => rfl) (Nat.le_refl _)

/-- A unit takes a context that exists. -/
theorem setUnit_context (h : Held n w) {u c : Nat} {x : UnitState} (hx : x.context = some c)
    (hc : c < w.contexts.size) : Held n (w.setUnit u x) := by
  refine { h with units := fun u' c' hc' => ?_ }
  simp only [World.setUnit, Array.getElem?_modify] at hc'
  split at hc'
  · rename_i hu'
    subst hu'
    cases hu : w.units[u]? with
    | none => rw [hu] at hc'; exact h.units u c' (by rw [hu]; exact hc')
    | some y =>
      rw [hu] at hc'
      simp only [Option.map_some, Option.getD_some, hx, Option.some.injEq] at hc'
      exact hc' ▸ hc
  · exact h.units u' c' hc'

end Held

/-! ## Running from one state

Some operations keep `Held` only because of what an earlier step of theirs found: a context
begins a transaction after it looked at its slot and found it empty. `EndsIn I x s` follows
one run from a known state, so that such facts can be carried along. -/

namespace Act

variable {α β : Type} {I : World → Prop}

/-- Every run of `x` from `s` ends in a world with `I`. -/
def EndsIn (I : World → Prop) (x : Act σ α) (s : Sys σ) : Prop :=
  ∀ ⦃r : Except Fault α⦄ ⦃s' : Sys σ⦄, exec x s = (r, s') → I s'.world

theorem Keeps.endsIn {x : Act σ α} (hx : Keeps I x) {s : Sys σ} (hi : I s.world) : EndsIn I x s :=
  fun _ _ h => hx hi h

theorem Keeps.of_endsIn {x : Act σ α} (h : ∀ s : Sys σ, I s.world → EndsIn I x s) : Keeps I x :=
  fun s _ _ hi hx => h s hi hx

theorem EndsIn.bind {x : Act σ α} {f : α → Act σ β} {s : Sys σ} (hx : EndsIn I x s)
    (hf : ∀ a s₁, exec x s = (.ok a, s₁) → EndsIn I (f a) s₁) : EndsIn I (x >>= f) s := by
  intro r s' hy
  rw [exec_bind] at hy
  rcases h₁ : exec x s with ⟨q, s₁⟩
  rw [h₁] at hy
  cases q with
  | ok a => exact hf a s₁ h₁ hy
  | error e =>
    obtain ⟨-, rfl⟩ := Prod.mk.inj hy
    exact hx h₁

theorem EndsIn.bind_keeps {x : Act σ α} {f : α → Act σ β} {s : Sys σ} (hx : EndsIn I x s)
    (hf : ∀ a, Keeps I (f a)) : EndsIn I (x >>= f) s :=
  hx.bind fun a _ h₁ => (hf a).endsIn (hx h₁)

theorem EndsIn.mono {J : World → Prop} {x : Act σ α} {s : Sys σ} (hx : EndsIn I x s)
    (hIJ : ∀ w, I w → J w) : EndsIn J x s :=
  fun _ _ h => hIJ _ (hx h)

theorem EndsIn.modifyWorld {f : World → World} {s : Sys σ} (h : I (f s.world)) :
    EndsIn (σ := σ) I (Act.modifyWorld f) s := by
  intro r s' hx
  rw [exec_modifyWorld, Prod.mk.injEq] at hx
  rw [← hx.2]
  exact h

theorem EndsIn.outcome {x : Act σ α} {s : Sys σ} (hx : EndsIn I x s) : EndsIn I (Act.outcome x) s := by
  intro r s' hy
  rw [exec_outcome, Prod.mk.injEq] at hy
  rw [← hy.2]
  exact hx rfl

end Act

theorem Run.Keeps.modifyWorld {I : World → Prop} {f : World → World} (hf : ∀ w, I w → I (f w)) :
    Run.Keeps (σ := σ) I (Run.modifyWorld f) :=
  fun s hi => hf s.world hi

theorem Run.Keeps.forM {γ : Type} {I : World → Prop} {l : List γ} {f : γ → Run σ PUnit}
    (hf : ∀ a ∈ l, Run.Keeps I (f a)) : Run.Keeps I (l.forM f) := by
  induction l with
  | nil => exact Run.Keeps.pure _
  | cons a l ih =>
    show Run.Keeps I (f a >>= fun _ => l.forM f)
    exact Run.Keeps.bind (hf a (.head _)) fun _ => ih fun b hb => hf b (.tail _ hb)

/-! ## Changes that keep what `Held` reads

`Held` is read off the kept transactions, the slots, the units' contexts and the number of
contexts. An invariant that reads no more than these (`Framed`) is kept by every change that
keeps them (`Same`), and most of the library's operations are made of such changes and of
reads. -/

/-- An invariant kept by every change that keeps what `Held` reads. -/
class Framed (I : World → Prop) : Prop where
  same : ∀ ⦃w w' : World⦄, Same w w' → I w → I w'

instance (n : Nat) : Framed (Held n) := ⟨fun _ _ hs h => hs.held h⟩

section Framed

variable {I : World → Prop}

-- reading the world keeps any invariant
theorem Context.hasTxn_framed (c : Nat) : Keeps (σ := σ) I (Context.hasTxn c) :=
  .bind .world fun _ => .pure _

theorem Context.currentTxn_framed (c : Nat) : Keeps (σ := σ) I (Context.currentTxn c) :=
  .bind .world fun _ => .pure _

theorem Context.hasPending_framed (c : Nat) : Keeps (σ := σ) I (Context.hasPending c) :=
  .bind .world fun _ => .pure _

theorem Context.interceptorsNow_framed (c : Nat) : Keeps (σ := σ) I (Context.interceptorsNow c) :=
  .bind .world fun _ => .pure _

theorem Context.probe_framed (c : Nat) : Keeps (σ := σ) I (Context.probe c) :=
  .bind .world fun _ => .pure _

theorem UnitOfWork.get_framed (u : Nat) : Keeps (σ := σ) I (UnitOfWork.get u) :=
  .bind .world fun _ => .pure _

theorem UnitOfWork.isolation_framed (u : Nat) : Keeps (σ := σ) I (UnitOfWork.isolation u) :=
  .bind (UnitOfWork.get_framed u) fun _ => .pure _

theorem UnitOfWork.ensureNoExternal_framed : Keeps (σ := σ) I UnitOfWork.ensureNoExternal :=
  .bind .world fun _ => .ite (.throw _) (.pure _)

variable [Framed I]

theorem Framed.modifyWorld {f : World → World} (hf : ∀ w, Same w (f w)) :
    Keeps (σ := σ) I (Act.modifyWorld f) :=
  .modifyWorld fun w hi => Framed.same (hf w) hi

theorem Framed.withLock {s : Sys σ} {u : Nat} (l : LockState) (hi : I s.world) : I (s.withLock u l).world :=
  Framed.same (Same.setUnit (x := { s.world.units[u]?.getD default with lock := l }) rfl) hi

theorem Wait.roundTrip_framed (wait : Wait) : Keeps (σ := σ) I wait.roundTrip := by
  intro s s' r hi hx
  obtain ⟨-, hs⟩ := Wait.roundTrip_spec hx
  rw [hs]
  refine Framed.same ?_ hi
  exact Same.of_eq rfl rfl rfl

theorem Wait.pause_framed (wait : Wait) : Keeps (σ := σ) I wait.pause := by
  intro s s' r hi hx
  obtain ⟨-, hs⟩ := Wait.pause_spec hx
  rw [hs]
  refine Framed.same ?_ hi
  exact Same.of_eq rfl rfl rfl

/-- A change of a context that keeps its transaction. -/
theorem Context.modify_framed (c : Nat) {f : ContextState → ContextState} (hf : ∀ x, (f x).txn = x.txn) :
    Keeps (σ := σ) I (Context.modify c f) :=
  Framed.modifyWorld fun _ => Same.setContext (by rw [hf, World.context_eq])

theorem Context.create_framed : Keeps (σ := σ) I Context.create :=
  .bind .world fun _ => .bind (Framed.modifyWorld fun _ => Same.push) fun _ => .pure _

theorem Context.onTracker_framed {α : Type} (c : Nat) (f : Tracker → Except Fault (Tracker × α)) :
    Keeps (σ := σ) I (Context.onTracker c f) :=
  .bind .world fun _ => .bind (.ofExcept _) fun _ =>
    .bind (Context.modify_framed c fun _ => rfl) fun _ => .pure _

theorem Context.addInterceptor_framed (c : Nat) (i : Interceptor) :
    Keeps (σ := σ) I (Context.addInterceptor c i) := by
  refine .bind .world fun _ => ?_
  dsimp only
  exact .ite (.bind (.throw _) fun _ => Context.modify_framed c fun _ => rfl) (Context.modify_framed c fun _ => rfl)

/-- A change of a unit that keeps its context. -/
theorem UnitOfWork.modify_framed (u : Nat) {f : UnitState → UnitState} (hf : ∀ x, (f x).context = x.context) :
    Keeps (σ := σ) I (UnitOfWork.modify u f) :=
  Framed.modifyWorld fun _ => Same.setUnit (by rw [hf, World.unit_eq])

theorem UnitOfWork.modifyObserver_framed (o : Nat) (f : ObserverState → ObserverState) :
    Keeps (σ := σ) I (UnitOfWork.modifyObserver o f) :=
  Framed.modifyWorld fun _ => Same.of_eq rfl rfl rfl

theorem UnitOfWork.locked_framed {α : Type} (u : Nat) {body : Act σ α} (hb : Keeps I body) :
    Keeps I (UnitOfWork.locked u body) := by
  refine .bind ?_ fun _ => .bind (.outcome hb) fun _ =>
    .bind (UnitOfWork.modify_framed u fun _ => rfl) fun _ => .ofExcept _
  refine .bind (UnitOfWork.get_framed u) fun x => ?_
  split
  · exact UnitOfWork.modify_framed u fun _ => rfl
  · exact .throw _
  · exact .throw _

theorem Factory.create_framed (f : Nat) : Keeps (σ := σ) I (Factory.create f) :=
  Factory.create_keeps_of (fun _ => Framed.modifyWorld fun _ => Same.of_eq rfl rfl rfl)
    Context.create_framed

/-- A unit's context is created on first use: the last context, with an empty slot. `I` is
kept if giving a unit such a context keeps it. -/
theorem UnitOfWork.context_framed
    (hnew : ∀ (w : World) (u c : Nat) (x : UnitState), I w → c < w.contexts.size → w.slot c = none →
      x.context = some c → I (w.setUnit u x))
    (u : Nat) : Keeps (σ := σ) I (UnitOfWork.context u) := by
  refine .bind (UnitOfWork.get_framed u) fun x => ?_
  split
  · exact .pure _
  · refine UnitOfWork.locked_framed u (.bind (UnitOfWork.get_framed u) fun _ => ?_)
    split
    · exact .pure _
    · refine .bind (UnitOfWork.get_framed u) fun _ => Keeps.of_endsIn fun s hi => ?_
      refine ((Factory.create_framed _).endsIn hi).bind fun c s₁ h₁ => ?_
      obtain ⟨rfl, hctx, -, -⟩ := Factory.create_ok h₁
      have hi₁ : I s₁.world := Factory.create_framed _ hi h₁
      refine (EndsIn.modifyWorld (hnew _ u _ _ hi₁ ?_ ?_ rfl)).bind_keeps fun _ => .pure _
      · simp [hctx]
      · simp only [World.slot, hctx, Array.getElem?_push_size, Option.getD_some]

end Framed

/-! ## Operations that keep the invariant -/

section Operations

variable {n : Nat}

/-- A unit's context is created on first use, and exists. -/
theorem UnitOfWork.context_held (u : Nat) : Keeps (σ := σ) (Held n) (UnitOfWork.context u) :=
  UnitOfWork.context_framed (fun _ _ _ _ hi hc _ hx => hi.setUnit_context hx hc) u

/-- What succeeds under the lock found it free, took it, and freed it after. -/
theorem UnitOfWork.locked_ok_inv {α : Type} {u : Nat} {body : Act σ α} {s s' : Sys σ} {a : α}
    (hx : exec (UnitOfWork.locked u body) s = (.ok a, s')) :
    ∃ s₁, exec body (s.withLock u .held) = (.ok a, s₁) ∧ s' = s₁.withLock u .free := by
  cases hl : (s.world.units[u]?.getD default).lock with
  | free => exact UnitOfWork.locked_ok (by rw [World.unit_eq]; exact hl) hx
  | held => simp [UnitOfWork.locked, UnitOfWork.acquire, UnitOfWork.get, hl] at hx
  | disposed => simp [UnitOfWork.locked, UnitOfWork.acquire, UnitOfWork.get, hl] at hx

theorem UnitOfWork.context_lt {u c : Nat} {s s' : Sys σ} (hi : Held n s.world)
    (hx : exec (UnitOfWork.context u) s = (.ok c, s')) : c < s'.world.contexts.size := by
  simp only [UnitOfWork.context, UnitOfWork.get, exec_bind, exec_world, exec_pure] at hx
  split at hx
  · -- the unit has it already
    rename_i c' hc'
    simp only [exec_pure, Prod.mk.injEq, Except.ok.injEq] at hx
    obtain ⟨rfl, rfl⟩ := hx
    exact hi.units u _ (by rw [← World.unit_eq]; exact hc')
  · obtain ⟨s₁, hb, rfl⟩ := UnitOfWork.locked_ok_inv hx
    have hi₁ : Held n (s.withLock u .held).world := Framed.withLock .held hi
    simp only [exec_bind, exec_world, exec_pure] at hb
    split at hb
    · rename_i c' hc'
      simp only [exec_pure, Prod.mk.injEq, Except.ok.injEq] at hb
      obtain ⟨rfl, rfl⟩ := hb
      exact hi₁.units u _ (by rw [← World.unit_eq]; exact hc')
    · simp only [exec_bind, exec_world, exec_pure] at hb
      rcases hf : exec (Factory.create ((s.withLock u .held).world.unit u).factory) (s.withLock u .held)
        with ⟨_ | c', s₂⟩ <;> simp only [hf] at hb
      · cases hb
      · obtain ⟨rfl, hctx, -, -⟩ := Factory.create_ok hf
        simp only [UnitOfWork.modify, exec_modifyWorld, Prod.mk.injEq, Except.ok.injEq] at hb
        obtain ⟨rfl, rfl⟩ := hb
        simp [Sys.withLock, hctx]

/-- A database step that keeps the same transactions. -/
theorem Held.database {α : Type} {x : Database.Step α} (hx : Database.KeepsTxns x) :
    Keeps (σ := σ) (Held n) (Act.database x) := by
  intro s s' r hi h
  rw [exec_database, Prod.mk.injEq] at h
  rw [← h.2]
  obtain ⟨hwf, htx⟩ := hx hi.wf rfl
  exact hi.of_db hwf htx

/-- Taking the transaction out of context `c`'s slot and ending it in the database, whatever
comes of the ending. -/
theorem Context.takeTxn_end_held {β : Type} {step : Nat → Database.Step Unit}
    (hstep : ∀ t, Database.Ends t (step t)) {k : Except Fault Unit → Act σ β}
    (hk : ∀ r, Keeps (Held n) (k r)) (c : Nat) :
    Keeps (Held n) (do
      let t ← Context.takeTxn c
      let r ← Act.outcome (Act.database (step t))
      k r) := by
  intro s s' r hi hx
  rw [exec_bind] at hx
  cases ht : s.world.slot c with
  | none =>
    have ht' : (s.world.contexts[c]?.getD default).txn = none := ht
    simp only [Context.takeTxn, Context.currentTxn, exec_bind, exec_world, exec_pure, World.context_eq,
      ht', exec_throw, Prod.mk.injEq] at hx
    rw [← hx.2]
    exact hi
  | some t =>
    rw [Context.takeTxn_exec ht] at hx
    simp only [exec_bind, exec_outcome, exec_database] at hx
    refine hk _ ?_ hx
    exact hi.finish ht (hstep t hi.wf ((hi.kept t).mpr ⟨c, ht⟩) rfl)
      (World.slot_setContext_none s.world c rfl) (fun _ => rfl) (by simp)

/-- Writing changes in the slot's transaction, or else in a transaction of their own that is
ended before the write returns. -/
theorem Context.writeChanges_held (c : Nat) (cs : List Change) :
    Keeps (σ := σ) (Held n) (Context.writeChanges c cs) := by
  refine .bind (Context.currentTxn_framed c) fun txn => ?_
  cases txn with
  | some t => exact Held.database (Database.write_keepsTxns t cs)
  | none =>
    intro s s' r hi hx
    simp only [exec_bind, exec_database] at hx
    rcases hb : ((Database.begin none).run).run s.world.db with ⟨q, db₁⟩
    rcases Database.begin_cases none hb with ⟨⟨e, rfl⟩, htx⟩ | ⟨rfl, htx⟩
    · simp only [hb, Prod.mk.injEq] at hx
      rw [← hx.2]
      exact hi.of_db (by rw [htx]; exact hi.wf) (fun _ => by rw [htx])
    · -- a transaction of its own, written in, then committed or rolled back
      have hwf₁ : db₁.txns.Wf := htx ▸ hi.wf.begin none
      simp only [hb, exec_outcome, exec_database] at hx
      rcases hw : ((Database.write s.world.db.txns.next cs).run).run db₁ with ⟨q, db₂⟩
      obtain ⟨hwf₂, htx₂⟩ := Database.write_keepsTxns _ cs hwf₁ hw
      have hmid : db₂.txns.Wf ∧ ∀ j, (db₂.txns.find? j).isSome =
          (((s.world.db.txns.begin none).1).find? j).isSome := ⟨hwf₂, fun j => by rw [htx₂, htx]⟩
      have hsome : (db₂.txns.find? s.world.db.txns.next).isSome := by
        rw [hmid.2, TxnManager.find?_begin hi.wf]
        simp
      simp only [hw] at hx
      cases q with
      | ok k =>
        simp only [exec_bind, exec_database, exec_pure] at hx
        rcases hc : ((Database.commit s.world.db.txns.next).run).run db₂ with ⟨q, db₃⟩
        obtain ⟨hwf', htx'⟩ := Database.own_keepsTxns hi.wf hmid (Database.commit_ends _ hwf₂ hsome hc)
        cases q <;> simp only [hc, Prod.mk.injEq] at hx <;> rw [← hx.2] <;> exact hi.of_db hwf' htx'
      | error e =>
        simp only [exec_bind, exec_database, exec_throw] at hx
        rcases hc : ((Database.rollback s.world.db.txns.next).run).run db₂ with ⟨q, db₃⟩
        obtain ⟨hwf', htx'⟩ := Database.own_keepsTxns hi.wf hmid (Database.rollback_ends _ hwf₂ hsome hc)
        cases q <;> simp only [hc, Prod.mk.injEq] at hx <;> rw [← hx.2] <;> exact hi.of_db hwf' htx'

theorem Context.flush_held (c : Nat) : Keeps (σ := σ) (Held n) (Context.flush c) := by
  refine .bind .world fun _ => ?_
  dsimp only
  split
  · exact .pure _
  · exact .bind (Context.writeChanges_held c _) fun _ => .bind (Context.modify_framed c fun _ => rfl) fun _ => .pure _

theorem Context.view_held (c : Nat) : Keeps (σ := σ) (Held n) (Context.view c) :=
  .bind (Context.currentTxn_framed c) fun txn => Held.database (Database.view_keepsTxns txn)

/-- Closing the connection empties its slot and rolls back the transaction it held. -/
theorem Context.close_held (c : Nat) : Keeps (σ := σ) (Held n) (Context.close c) := by
  intro s s' r hi hx
  simp only [Context.close, Context.modify, exec_bind, exec_world, exec_modifyWorld] at hx
  cases ht : s.world.slot c with
  | none =>
    have ht' : (s.world.contexts[c]?.getD default).txn = none := ht
    simp only [World.context_eq, ht', exec_pure, Prod.mk.injEq] at hx
    rw [← hx.2]
    exact (Same.setContext (by simp [ht'])).held hi
  | some t =>
    have ht' : (s.world.contexts[c]?.getD default).txn = some t := ht
    simp only [World.context_eq, ht', exec_database, Prod.mk.injEq] at hx
    rw [← hx.2]
    exact hi.finish ht (Database.rollback_ends t hi.wf ((hi.kept t).mpr ⟨c, ht⟩) rfl)
      (World.slot_setContext_none s.world c rfl) (fun _ => rfl) (by simp)

end Operations

/-! ## Operations that call the hooks -/

section Hooks

variable {h : Hooks σ} (hh : ∀ n, Hooks.Keep (Held n) h)
include hh

theorem Context.notifyEach_held {n : Nat} (c : Nat) (ns : List Notice) :
    Keeps (Held n) (Context.notifyEach h c ns) :=
  .bind (Context.interceptorsNow_framed c) fun is => .ofRun (Run.Keeps.forM fun i _ =>
    Run.Keeps.forM fun nt _ => by
      cases i with
      | observer o => exact Run.Keeps.modifyWorld fun w hi => (Same.setObserver o _).held hi
      | host k => exact (hh n).notice k nt)

theorem Observer.guard_held {n : Nat} (o : Nat) (listeners : ObserverState → List Nat) :
    Keeps (Held n) (Observer.guard h o listeners) := by
  refine .bind .world fun _ => ?_
  dsimp only
  split
  · exact .bind (.throw _) fun _ => .forM fun k _ => (hh n).listen k
  · exact .forM fun k _ => (hh n).listen k

theorem Context.guardEach_held {n : Nat} (c : Nat) (g : Guard) {onObserver : Nat → Act σ Unit}
    (ho : ∀ o, Keeps (Held n) (onObserver o)) : Keeps (Held n) (Context.guardEach h c g onObserver) :=
  .bind (Context.interceptorsNow_framed c) fun is => .forM fun i _ => by
    cases i with
    | observer o => exact ho o
    | host k => exact (hh n).guard k g

theorem Context.failedThrough_held {n : Nat} (c : Nat) (act : TxnAction) (e : Fault) :
    Keeps (Held n) (Context.failedThrough h c act e) :=
  .bind (.bind .world fun _ => .pure _) fun _ => .ofRun (Run.Keeps.foldlM (fun e i => by
    cases i with
    | observer o => exact Run.Keeps.bind Run.Keeps.world fun _ => Run.Keeps.pure _
    | host k => exact (hh n).failed k act e) e)

/-- Committing or rolling back after `wait'`: the slot is emptied and the database ends the
transaction, and a failure is passed through the interceptors. -/
theorem Context.finish_held {n : Nat} {wait' : Act σ Unit} (hw : Keeps (Held n) wait') (act : TxnAction)
    {step : Nat → Database.Step Unit} (hstep : ∀ t, Database.Ends t (step t)) (c : Nat) :
    Keeps (Held n) (do
      wait'
      let t ← Context.takeTxn c
      match ← Act.outcome (Act.database (step t)) with
      | .ok () => pure ()
      | .error e => throw (← Context.failedThrough h c act e)) := by
  refine .bind hw fun _ => Context.takeTxn_end_held hstep (fun r => ?_) c
  cases r with
  | ok _ => exact .pure _
  | error e => exact .bind (Context.failedThrough_held hh c act e) fun _ => .throw _

theorem Context.commit_held {n : Nat} (c : Nat) (wait : Wait) : Keeps (Held n) (Context.commit h c wait) :=
  Context.finish_held hh (Wait.roundTrip_framed wait) .commit Database.commit_ends c

theorem Context.rollback_held {n : Nat} (c : Nat) (wait : Wait) :
    Keeps (Held n) (Context.rollback h c wait) :=
  Context.finish_held hh (Wait.pause_framed wait) .rollback Database.rollback_ends c

/-- Beginning a transaction on a context that exists: the database keeps one more, and the
context's free slot holds it. -/
theorem Context.begin_held {n c : Nat} (hc : c < n) (iso : Option Isolation) (wait : Wait) :
    Keeps (Held n) (Context.begin h c iso wait) := by
  refine .bind (Wait.roundTrip_framed wait) fun _ =>
    .bind (Context.guardEach_held hh c _ fun o => Observer.guard_held hh o _) fun _ => ?_
  refine Keeps.of_endsIn fun s hi => ((Context.hasTxn_framed c).endsIn hi).bind fun b s₁ h₁ => ?_
  simp only [Context.hasTxn, exec_bind, exec_world, exec_pure, Prod.mk.injEq, Except.ok.injEq] at h₁
  obtain ⟨rfl, rfl⟩ := h₁
  dsimp only
  split
  · intro r s' hx
    simp only [exec_bind, exec_throw, Prod.mk.injEq] at hx
    rw [← hx.2]
    exact hi
  · rename_i hfree
    have hfree : s.world.slot c = none := by simpa [World.slot] using hfree
    intro r s' hx
    rw [exec_bind, exec_outcome, exec_database] at hx
    rcases hb : ((Database.begin iso).run).run s.world.db with ⟨q, db⟩
    rw [hb] at hx
    rcases Database.begin_cases iso hb with ⟨⟨e, rfl⟩, htx⟩ | ⟨rfl, htx⟩
    · -- the database refused: the interceptors have their say, and nothing else changed
      have hi₁ : Held n { s.world with db } := hi.of_db (by rw [htx]; exact hi.wf) (fun _ => by rw [htx])
      exact (Keeps.bind (Context.failedThrough_held hh c .begin e) fun _ => .throw _) hi₁ hx
    · -- the new transaction goes into the free slot
      simp only [Context.modify, exec_bind, exec_modifyWorld, exec_pure, Prod.mk.injEq] at hx
      rw [← hx.2]
      have hlt : c < s.world.contexts.size := Nat.lt_of_lt_of_le hc hi.size
      exact hi.begin hfree htx (World.slot_setContext_of_lt _ hlt _) (fun _ => rfl) (by simp)

/-- A unit of work starts its transaction on its context, which exists. -/
theorem UnitOfWork.tryStart_held {n : Nat} (u : Nat) (wait : Wait) :
    Keeps (Held n) (UnitOfWork.tryStart h u wait) := by
  refine Keeps.of_endsIn fun s hi => ((UnitOfWork.context_held u).endsIn hi).bind fun c s₁ h₁ => ?_
  -- beginning on the unit's context keeps `Held` counting that context too
  have hi₁ := (UnitOfWork.context_held u hi h₁).at_context (UnitOfWork.context_lt hi h₁)
  refine (Keeps.endsIn ?_ hi₁).mono fun w hw => hw.mono (Nat.le_max_left _ _)
  have hc : c < max n (c + 1) := Nat.lt_of_lt_of_le (Nat.lt_succ_self c) (Nat.le_max_right _ _)
  refine .bind (Context.hasTxn_framed c) fun _ => ?_
  split
  · exact .pure _
  · refine UnitOfWork.locked_framed u (.bind (Context.hasTxn_framed c) fun _ => ?_)
    split
    · exact .pure _
    · exact .bind UnitOfWork.ensureNoExternal_framed fun _ => .bind (UnitOfWork.isolation_framed u) fun iso =>
        .bind (Context.begin_held hh hc iso wait) fun _ => .pure _

theorem Observer.beforeSave_held {n : Nat} (o : Nat) (wait : Wait) :
    Keeps (Held n) (Observer.beforeSave h o wait) :=
  .bind (UnitOfWork.modifyObserver_framed o _) fun _ => .bind .world fun _ =>
    .bind (UnitOfWork.tryStart_held hh _ wait) fun _ => .pure _

/-- Saving: the interceptors are asked, the changes written, and everyone told. -/
theorem Context.save_held {n : Nat} (c : Nat) (wait : Wait) : Keeps (Held n) (Context.save h c wait) := by
  refine .bind (Context.interceptorsNow_framed c) fun is => .bind (.outcome (.forM fun i _ => ?_)) fun _ => ?_
  · cases i with
    | observer o => exact Observer.beforeSave_held hh o wait
    | host k => exact (hh n).guard k _
  · refine .bind (.outcome (.bind (.ofExcept _) fun _ =>
      .bind (Wait.roundTrip_framed wait) fun _ => Context.flush_held c)) fun result => ?_
    dsimp only
    split
    · exact .bind (Context.notifyEach_held hh c _) fun _ => .ofExcept _
    · exact .bind (Context.notifyEach_held hh c _) fun _ => .ofExcept _

theorem Observer.beforeReader_held {n : Nat} (o c : Nat) (wait : Wait) :
    Keeps (Held n) (Observer.beforeReader h o c wait) := by
  refine .bind .world fun _ => .bind (Context.hasPending_framed c) fun _ => ?_
  split
  · exact .bind (UnitOfWork.context_held _) fun own => .bind (Context.save_held hh own wait) fun _ => .pure _
  · exact .pure _

theorem Observer.beforeCommand_held {n : Nat} (o c : Nat) (wait : Wait) :
    Keeps (Held n) (Observer.beforeCommand h o c wait) := by
  refine .bind .world fun _ => ?_
  dsimp only
  split
  · exact .pure _
  · exact .bind (Context.currentTxn_framed c) fun _ => .bind (UnitOfWork.tryStart_held hh _ wait) fun _ =>
      .bind (Context.currentTxn_framed c) fun _ => .pure _

theorem Context.beforeCommand_held {n : Nat} (c : Nat) : Keeps (Held n) (Context.beforeCommand h c) :=
  Context.guardEach_held hh c _ fun o => Observer.guard_held hh o _

theorem Context.beforeReader_held {n : Nat} (c : Nat) (wait : Wait) :
    Keeps (Held n) (Context.beforeReader h c wait) :=
  .bind (Context.interceptorsNow_framed c) fun is => .forM fun i _ => by
    cases i with
    | observer o => exact Observer.beforeReader_held hh o c wait
    | host k => exact .bind (Context.probe_framed c) fun _ => (hh n).guard k _

theorem Context.readEntity_held {n : Nat} (c : Nat) (k : Key) : Keeps (Held n) (Context.readEntity h c k) := by
  refine .bind (Context.view_held c) fun tables => .bind .world fun _ => ?_
  split
  · exact .pure _
  · split
    · exact .pure _
    · exact .bind (Context.onTracker_framed c _) fun _ => .bind (Context.notifyEach_held hh c _) fun _ => .pure _

theorem Context.find_held {n : Nat} (c : Nat) (k : Key) (wait : Wait) :
    Keeps (Held n) (Context.find h c k wait) :=
  .bind (Context.beforeCommand_held hh c) fun _ => .bind (Context.beforeReader_held hh c wait) fun _ =>
    .bind (Wait.roundTrip_framed wait) fun _ => Context.readEntity_held hh c k

theorem Context.count_held {n : Nat} (c : Nat) (table : String) (wait : Wait) :
    Keeps (Held n) (Context.count h c table wait) :=
  .bind (Context.beforeCommand_held hh c) fun _ => .bind (Context.beforeReader_held hh c wait) fun _ =>
    .bind (Wait.roundTrip_framed wait) fun _ => .bind (Context.view_held c) fun _ => .pure _

/-- A raw command: the interceptors may start a transaction for it, and without one it runs in
a transaction of its own. -/
theorem Context.executeRaw_held {n : Nat} (c : Nat) (change : Change) (wait : Wait) :
    Keeps (Held n) (Context.executeRaw h c change wait) := by
  refine .bind (Context.beforeCommand_held hh c) fun _ => .bind (Context.interceptorsNow_framed c) fun is =>
    .bind (.forM fun i _ => ?_) fun _ => .bind (Wait.roundTrip_framed wait) fun _ => Context.writeChanges_held c _
  cases i with
  | observer o => exact .bind (Observer.beforeCommand_held hh o c wait) fun _ => .pure _
  | host k => exact .bind (Context.probe_framed c) fun p => .bind ((hh n).enlist k p) fun _ => .pure _

/-- Every operation of work on a context keeps `Held`. -/
theorem Op.run_held {n : Nat} (c : Nat) (wait : Wait) (o : Op) : Keeps (Held n) (o.run h c wait) := by
  cases o with
  | add k v =>
    exact .bind (.bind (Context.onTracker_framed c _) fun _ => Context.notifyEach_held hh c _) fun _ => .pure _
  | update k v =>
    exact .bind (.bind (Context.onTracker_framed c _) fun _ => Context.notifyEach_held hh c _) fun _ => .pure _
  | remove k =>
    exact .bind (.bind (Context.onTracker_framed c _) fun _ => Context.notifyEach_held hh c _) fun _ => .pure _
  | modifyUntracked k v => exact .bind (Context.onTracker_framed c _) fun _ => .pure _
  | find k => exact .bind (Context.find_held hh c k wait) fun _ => .pure _
  | count table => exact .bind (Context.count_held hh c table wait) fun _ => .pure _
  | raw change => exact .bind (Context.executeRaw_held hh c change wait) fun _ => .pure _
  | save => exact .bind (Context.save_held hh c wait) fun _ => .pure _

end Hooks

/-! ## Closing every connection -/

section Closing

variable {n : Nat}

/-- Under `Held`, closing a connection succeeds, since the rollback finds the transaction the
slot held; the slot is emptied and the others stay as they were. -/
theorem Context.close_spec {s : Sys σ} (hi : Held n s.world) (c : Nat) :
    ∃ s', exec (Context.close c) s = (.ok (), s') ∧
      ∀ c', s'.world.slot c' = if c' = c then none else s.world.slot c' := by
  simp only [Context.close, Context.modify, exec_bind, exec_world, exec_modifyWorld]
  cases ht : s.world.slot c with
  | none =>
    have ht' : (s.world.contexts[c]?.getD default).txn = none := ht
    simp only [World.context_eq, ht', exec_pure]
    exact ⟨_, rfl, World.slot_setContext_none _ _ rfl⟩
  | some t =>
    have ht' : (s.world.contexts[c]?.getD default).txn = some t := ht
    obtain ⟨tx, htx⟩ := Option.isSome_iff_exists.mp ((hi.kept t).mpr ⟨c, ht⟩)
    simp only [World.context_eq, ht', exec_database, World.setContext, Database.rollback_run hi.wf htx]
    exact ⟨_, rfl, World.slot_setContext_none s.world c rfl⟩

/-- Closing the connections of the contexts of `l`, one after the other: every close succeeds,
and exactly their slots are emptied. -/
theorem Context.closeEach_spec : ∀ (l : List Nat) {s : Sys σ}, Held n s.world →
    ∃ s', exec (l.forM Context.close) s = (.ok (), s') ∧ Held n s'.world ∧
      ∀ c, s'.world.slot c = if c ∈ l then none else s.world.slot c
  | [], s, hi => ⟨s, rfl, hi, fun _ => rfl⟩
  | c :: l, s, hi => by
    obtain ⟨s₁, h₁, hslot₁⟩ := Context.close_spec hi c
    obtain ⟨s₂, h₂, hi₂, hslot₂⟩ := Context.closeEach_spec l (Context.close_held c hi h₁)
    refine ⟨s₂, ?_, hi₂, fun c' => ?_⟩
    · show exec (Context.close c >>= fun _ => l.forM Context.close) s = _
      rw [exec_bind, h₁]
      exact h₂
    · rw [hslot₂, hslot₁]
      by_cases hc : c' = c
      · simp [hc]
      · by_cases hl : c' ∈ l <;> simp [hc, hl]

/-- With every slot empty, the database keeps no transaction. -/
theorem Held.activeCount_eq_zero {w : World} (hi : Held n w) (hfree : ∀ c, w.slot c = none) :
    w.db.activeCount = 0 := by
  cases hl : w.db.txns.live with
  | nil => simp [Database.activeCount, TxnManager.activeCount, hl]
  | cons p ps =>
    -- the first transaction kept would be held by some connection
    have hp := hi.wf.find?_of_mem (p := p) (by rw [hl]; exact List.mem_cons_self)
    obtain ⟨c, hc⟩ := (hi.kept p.1).mp (by rw [hp]; rfl)
    rw [hfree c] at hc
    cases hc

/-- Closing the connection of every context, one after the other, succeeds and leaves the
database with no transaction. -/
theorem Held.closeAll {s : Sys σ} (hi : Held n s.world) :
    ∃ s', exec ((List.range s.world.contexts.size).forM Context.close) s = (.ok (), s') ∧
      s'.world.db.activeCount = 0 := by
  obtain ⟨s', hx, hi', hslot⟩ := Context.closeEach_spec (List.range s.world.contexts.size) hi
  refine ⟨s', hx, hi'.activeCount_eq_zero fun c => ?_⟩
  rw [hslot]
  split
  · rfl
  · -- a context past the end holds nothing
    rename_i hc
    cases ht : s.world.slot c with
    | none => rfl
    | some t => exact absurd (List.mem_range.mpr (World.lt_of_slot ht)) hc

end Closing

/-! ## Programs on the database

A program opens contexts on the database and makes calls on them, in any order: operations of
work, and the control of their transactions and connections, each waiting for the database
either way. It may cancel its tokens, spawn tasks that cancel them, and make the database
fail the next transaction starts or the next commit. Every state it reaches keeps `Held`. -/

/-- A call on a context: an operation of work on it, or the control of its transaction and
its connection. -/
inductive ContextCall where
  | work (o : Op)
  | begin (iso : Option Isolation)
  | commit
  | rollback
  | close
  | clearTracked

/-- Make the call on context `c`, waiting for the database as `wait` says. -/
def ContextCall.run (h : Hooks σ) (c : Nat) (wait : Wait) : ContextCall → Act σ Unit
  | .work o => do let _ ← o.run h c wait
  | .begin iso => do let _ ← Context.begin h c iso wait
  | .commit => Context.commit h c wait
  | .rollback => Context.rollback h c wait
  | .close => Context.close c
  | .clearTracked => Context.clearTracked c

/-- The states a program reaches from an empty database, calling the host's hooks `h`:
it opens contexts, makes calls on those that exist (each call succeeding or failing), sets
its cancellation tokens and spawned tasks, and sets how many transaction starts fail and how
the next commit fails. -/
inductive Reachable (h : Hooks σ) : Sys σ → Prop
  | empty (host : σ) : Reachable h { world := {}, host }
  | create {s s' : Sys σ} {r : Except Fault Nat} :
      Reachable h s → exec Context.create s = (r, s') → Reachable h s'
  | call {s s' : Sys σ} {r : Except Fault Unit} (c : Nat) (wait : Wait) (call : ContextCall) :
      Reachable h s → c < s.world.contexts.size → exec (call.run h c wait) s = (r, s') → Reachable h s'
  | tokens {s : Sys σ} (tokens : Array Bool) (spawned : List Nat) :
      Reachable h s → Reachable h { s with world := { s.world with tokens, spawned } }
  | inject {s : Sys σ} (faults : Nat) (commitFault : Option CommitFault) :
      Reachable h s →
        Reachable h { s with world := { s.world with db := { s.world.db with transientFaults := faults, commitFault } } }

/-- The empty database keeps no transaction, and has no context. -/
theorem Held.empty : Held 0 ({} : World) := by
  have hslot : ∀ c, ({} : World).slot c = none := fun _ => rfl
  refine ⟨⟨fun _ hp => (nomatch hp), List.nodup_nil⟩, fun t => ?_, fun c _ _ hc => ?_, fun _ _ hu => ?_,
    Nat.le_refl _⟩
  · simp [hslot, TxnManager.find?]
  · rw [hslot] at hc
    cases hc
  · cases hu

/-- Every call on a context that exists keeps `Held`; only beginning needs the context to
exist, so that its slot takes the new transaction. -/
theorem ContextCall.run_held {h : Hooks σ} (hh : ∀ n, Hooks.Keep (Held n) h) {n c : Nat} (hc : c < n)
    (wait : Wait) : ∀ call : ContextCall, Keeps (Held n) (call.run h c wait)
  | .work o => .bind (Op.run_held hh c wait o) fun _ => .pure _
  | .begin iso => .bind (Context.begin_held hh hc iso wait) fun _ => .pure _
  | .commit => Context.commit_held hh c wait
  | .rollback => Context.rollback_held hh c wait
  | .close => Context.close_held c
  | .clearTracked => Context.modify_framed c (f := fun x => { x with tracker := x.tracker.clear }) fun _ => rfl

/-- Every state a program reaches keeps `Held`. -/
theorem Reachable.held {h : Hooks σ} (hh : ∀ n, Hooks.Keep (Held n) h) {s : Sys σ} (hs : Reachable h s) :
    Held 0 s.world := by
  induction hs with
  | empty => exact Held.empty
  | create _ hx ih => exact Context.create_framed ih hx
  | call c wait call _ hc hx ih =>
    have hc' : c < max 0 (c + 1) := Nat.lt_of_lt_of_le (Nat.lt_succ_self c) (Nat.le_max_right _ _)
    exact (ContextCall.run_held hh hc' wait call (ih.at_context hc) hx).mono (Nat.zero_le _)
  | tokens _ _ _ ih =>
    refine Same.held ?_ ih
    exact Same.of_eq rfl rfl rfl
  | inject _ _ _ ih => exact ih.of_db ih.wf fun _ => rfl

end ScopedWork
