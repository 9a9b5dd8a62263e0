import ScopedWork.Proofs.Tracking
import ScopedWork.Proofs.Held

/-!
# A context's tracker stays true to its view

A context on its own (no interceptor watches it) is asked to track, update, remove and find
entities, count rows, run raw commands, save, begin, commit and roll back transactions, close
its connection and forget what it tracks, in any order; meanwhile other connections commit
changes of their own. The tracker's belief about the rows of the context's view
(`Tracker.Fits`) is the invariant: it holds after every step as long as the context adds only
keys its view does not hold, runs raw commands only on keys it does not track, clears its
tracker right after it abandons a transaction whose log wrote a key it tracks, and no other
connection writes a key it tracks or its open transaction wrote. Under it no save fails with
a conflict or a constraint violation (only a refused transaction start or a cancellation
stops one), and a successful save leaves every tracked entity settled on its row of the view
and every deleted one's row gone.

The promise about abandoned transactions is needed for raw commands too, not only for saves:
a row that a raw command inserted in a transaction and a query then loaded vanishes when the
transaction is rolled back, and the next save of that entity conflicts
(`rollback_of_raw_insert_breaks_tracking`).
-/

namespace ScopedWork

open Act

variable {σ : Type}

namespace World

/-- What context `c`'s connection sees: the committed tables, with the log of its transaction
on top when it has one. -/
def view (w : World) (c : Nat) : Except Fault Tables :=
  (((Database.view (w.context c).txn).run).run w.db).1

/-- The changes recorded so far in the transaction of context `c`. -/
def openLog (w : World) (c : Nat) : List Change :=
  match (w.context c).txn with
  | some t => ((w.db.txns.find? t).map (·.log)).getD []
  | none => []

theorem view_of_db {w w' : World} {c : Nat} (hdb : w'.db = w.db)
    (htxn : (w'.context c).txn = (w.context c).txn) : w'.view c = w.view c := by
  simp only [view, hdb, htxn]

theorem view_none {w : World} {c : Nat} (h : (w.context c).txn = none) : w.view c = .ok w.db.tables := by
  simp only [view, h]
  rfl

theorem view_some {w : World} {c T : Nat} {t : Transaction} (h : (w.context c).txn = some T)
    (ht : w.db.txns.find? T = some t) : w.view c = (Change.applyAll t.log w.db.tables).map (·.1) := by
  simp only [view, h, Database.view_some_run ht]

theorem view_some_none {w : World} {c T : Nat} (h : (w.context c).txn = some T)
    (ht : w.db.txns.find? T = none) : w.view c = .error (TxnManager.notFound T) := by
  simp only [view, h, Database.view_some_run_none ht]

theorem view_some_ok {w : World} {c T : Nat} {t : Transaction} {ts : Tables}
    (h : (w.context c).txn = some T) (ht : w.db.txns.find? T = some t) (hts : w.view c = .ok ts) :
    ∃ n, Change.applyAll t.log w.db.tables = .ok (ts, n) := by
  rw [view_some h ht] at hts
  cases happ : Change.applyAll t.log w.db.tables with
  | error e => rw [happ] at hts; cases hts
  | ok p => rw [happ] at hts; cases hts; exact ⟨p.2, rfl⟩

/-- The view once changes joined the log of the open transaction. -/
theorem view_put {w : World} {c T : Nat} {t : Transaction} {cs : List Change} {v v' : Tables}
    {n₀ n : Nat} (h : (w.context c).txn = some T) (hwf : w.db.txns.Wf) (ht : w.db.txns.find? T = some t)
    (hv : Change.applyAll t.log w.db.tables = .ok (v, n₀)) (happ : Change.applyAll cs v = .ok (v', n))
    (history : List TxnEvent) :
    ({ w with db := { w.db with txns := w.db.txns.put { t with log := t.log ++ cs }, history } } : World).view c =
      .ok v' := by
  have hid := (hwf.find?_some ht).1
  have h' : (({ w with db := { w.db with txns := w.db.txns.put { t with log := t.log ++ cs }, history } } :
      World).context c).txn = some T := h
  rw [view_some h' (t := { t with log := t.log ++ cs }) (by simp [ht, hid]), Change.applyAll_append]
  simp only [hv, bind, Except.bind, happ]
  rfl

theorem openLog_some {w : World} {c T : Nat} {t : Transaction} (h : (w.context c).txn = some T)
    (ht : w.db.txns.find? T = some t) : w.openLog c = t.log := by
  simp only [openLog, h, ht, Option.map_some, Option.getD_some]

/-- The open transaction of context `c` wrote no key that the context tracks. -/
def Clean (w : World) (c : Nat) : Prop :=
  ∀ ch ∈ w.openLog c, (w.context c).tracker.find? ch.key = none

theorem context_setContext_self {w : World} {c : Nat} (x : ContextState) (hc : c < w.contexts.size) :
    (w.setContext c x).context c = x := by
  simp [World.getD_modify_of_lt _ _ _ hc]

end World

namespace Database

/-- Committing a transaction whose log applies, with no commit failure injected: the committed
tables become its view and the transaction is gone. -/
theorem commit_clean {db : Database} {id : Nat} {t : Transaction} {staged : Tables} {n : Nat}
    (hwf : db.txns.Wf) (hnf : db.commitFault = none) (ht : db.txns.find? id = some t)
    (happly : Change.applyAll t.log db.tables = .ok (staged, n)) :
    ((Database.commit id).run).run db =
      (.ok (), { db with txns := db.txns.drop id, tables := staged, applied := db.applied ++ [t.log],
                         history := db.history ++ [.committed id] }) := by
  rw [Database.commit_run_apply hwf (by rw [hnf]; exact nofun) ht happly, if_neg (by rw [hnf]; exact nofun)]
  simp [hnf]

end Database

namespace Context

/-- What context `c`'s steps rely on besides its tracker: the context exists and no interceptor
watches it, no commit failure is injected, the active transactions are well formed, and the
connection can see. -/
structure Plain (c : Nat) (w : World) : Prop where
  lt : c < w.contexts.size
  unwatched : (w.context c).interceptors = []
  noCommitFault : w.db.commitFault = none
  wf : w.db.txns.Wf
  sees : ∃ ts, w.view c = .ok ts

/-- Context `c`'s tracker fits what its connection sees. -/
structure Coherent (c : Nat) (w : World) : Prop extends Plain c w where
  fits : ∀ ts, w.view c = .ok ts → (w.context c).tracker.Fits ts

/-- How a save that started with tracker `t` ended, returning `r` in `s'`: it failed only because
a transaction could not start or the wait was cancelled; and when it succeeded, every entity the
context tracks is settled on its row of the view, and the rows of the entities `t` marked
deleted are gone. -/
structure Settles {α : Type} (c : Nat) (t : Tracker) (r : Except Fault α) (s' : Sys σ) : Prop where
  fails : ∀ e, r = .error e → (∃ m, e = .transient m) ∨ e = .cancelled
  settles : ∀ a, r = .ok a → ∃ ts, s'.world.view c = .ok ts ∧ (s'.world.context c).tracker.Settled ts ∧
    ∀ p ∈ t.entries, p.2.state = .deleted → ts.get? p.1 = none

variable {c : Nat} {w w' : World}

/-- Both read only the database, the context and the number of contexts. -/
theorem Plain.of_same (hp : Plain c w) (hdb : w'.db = w.db)
    (hint : (w'.context c).interceptors = (w.context c).interceptors)
    (htxn : (w'.context c).txn = (w.context c).txn) (hsize : w'.contexts.size = w.contexts.size) :
    Plain c w' where
  lt := hsize ▸ hp.lt
  unwatched := hint ▸ hp.unwatched
  noCommitFault := hdb ▸ hp.noCommitFault
  wf := hdb ▸ hp.wf
  sees := by rw [World.view_of_db hdb htxn]; exact hp.sees

theorem Coherent.of_same (hc : Coherent c w) (hdb : w'.db = w.db)
    (hint : (w'.context c).interceptors = (w.context c).interceptors)
    (htxn : (w'.context c).txn = (w.context c).txn) (htr : (w'.context c).tracker = (w.context c).tracker)
    (hsize : w'.contexts.size = w.contexts.size) : Coherent c w' where
  toPlain := hc.toPlain.of_same hdb hint htxn hsize
  fits ts hts := by
    rw [World.view_of_db hdb htxn] at hts
    rw [htr]
    exact hc.fits ts hts

/-- A new tracker that fits the view. -/
theorem Plain.withTracker (hp : Plain c w) {t : Tracker} (hfit : ∀ ts, w.view c = .ok ts → t.Fits ts) :
    Coherent c (w.setContext c { w.context c with tracker := t }) := by
  have hctx := World.context_setContext_self { w.context c with tracker := t } hp.lt
  have hview : (w.setContext c { w.context c with tracker := t }).view c = w.view c :=
    World.view_of_db rfl (by rw [hctx])
  refine ⟨hp.of_same rfl (by rw [hctx]) (by rw [hctx]) (by simp), fun ts hts => ?_⟩
  rw [hctx]
  exact hfit ts (hview ▸ hts)

/-- The transaction in the connection's slot is active: the connection sees through it. -/
theorem Plain.find?_txn (hp : Plain c w) {T : Nat} (h : (w.context c).txn = some T) :
    ∃ t, w.db.txns.find? T = some t := by
  obtain ⟨ts, hts⟩ := hp.sees
  cases ht : w.db.txns.find? T with
  | none =>
    rw [World.view_some_none h ht] at hts
    cases hts
  | some t => exact ⟨t, rfl⟩

/-- Changes joining the log of the open transaction, where they apply, leave the context plain. -/
theorem Plain.put (hp : Plain c w) {T : Nat} {t : Transaction} {cs : List Change} {v v' : Tables}
    {n₀ n : Nat} (hslot : (w.context c).txn = some T) (ht : w.db.txns.find? T = some t)
    (hv : Change.applyAll t.log w.db.tables = .ok (v, n₀)) (happ : Change.applyAll cs v = .ok (v', n))
    (history : List TxnEvent) :
    Plain c { w with db := { w.db with txns := w.db.txns.put { t with log := t.log ++ cs }, history } } :=
  ⟨hp.lt, hp.unwatched, hp.noCommitFault, hp.wf.put (hp.wf.find?_some ht).2.1, _,
    World.view_put hslot hp.wf ht hv happ history⟩

/-- Accepting the changes of a plain context whose view shows them written, where the accepted
tracker is settled on the view. -/
theorem Plain.accept (hp : Plain c w) {ts : Tables} (hview : w.view c = .ok ts)
    (hset : (w.context c).tracker.acceptChanges.Settled ts) {x : ContextState}
    (hx : x = { w.context c with tracker := (w.context c).tracker.acceptChanges }) :
    Coherent c (w.setContext c x) ∧ (w.setContext c x).view c = .ok ts ∧
      ((w.setContext c x).context c).tracker.Settled ts := by
  have hctx : (w.setContext c x).context c = x := World.context_setContext_self x hp.lt
  have hsame : (w.setContext c x).view c = w.view c := World.view_of_db rfl (by rw [hctx, hx])
  subst hx
  refine ⟨hp.withTracker fun ts' hts' => ?_, hsame.trans hview, by rw [hctx]; exact hset⟩
  rw [hview, Except.ok.injEq] at hts'
  exact hts' ▸ hset.fits

/-- A step that keeps the context's interceptors and tracker, injects no commit failure, keeps
the transactions well formed and changes the view only under keys the context does not track,
keeps the context coherent. -/
theorem Coherent.of_view {ts ts' : Tables} (hc : Coherent c w) (hts : w.view c = .ok ts)
    (hlt : c < w'.contexts.size) (hint : (w'.context c).interceptors = (w.context c).interceptors)
    (htr : (w'.context c).tracker = (w.context c).tracker) (hnf : w'.db.commitFault = none)
    (hwf : w'.db.txns.Wf) (hts' : w'.view c = .ok ts')
    (hkeep : ∀ p ∈ (w.context c).tracker.entries, ts'.get? p.1 = ts.get? p.1) : Coherent c w' where
  lt := hlt
  unwatched := hint ▸ hc.unwatched
  noCommitFault := hnf
  wf := hwf
  sees := ⟨ts', hts'⟩
  fits ts'' hts'' := by
    rw [hts', Except.ok.injEq] at hts''
    subst hts''
    rw [htr]
    exact (hc.fits ts hts).congr hkeep

/-- A new slot and a new database keep the context coherent when the view through them agrees
with the old view under every tracked key. -/
theorem Coherent.of_slot (hc : Coherent c w) {x : ContextState} {db : Database}
    (hint : x.interceptors = (w.context c).interceptors) (htr : x.tracker = (w.context c).tracker)
    (hnf : db.commitFault = none) (hwf : db.txns.Wf) {ts ts' : Tables} (hts : w.view c = .ok ts)
    (hts' : (((Database.view x.txn).run).run db).1 = .ok ts')
    (hkeep : ∀ p ∈ (w.context c).tracker.entries, ts'.get? p.1 = ts.get? p.1) :
    Coherent c { w.setContext c x with db } := by
  have hctx : ({ w.setContext c x with db } : World).context c = x := World.context_setContext_self x hc.lt
  refine hc.of_view hts (by simpa [World.setContext] using hc.lt) (by rw [hctx, hint]) (by rw [hctx, htr])
    hnf hwf ?_ hkeep
  unfold World.view
  rw [hctx]
  exact hts'

/-- Leaving the open transaction `T` behind: the slot is emptied (the context may change
otherwise, but not its interceptors or tracker) and `T` is dropped. The view falls back to the
committed tables, which differ from it only under the keys of `T`'s log: the tracker still
fits them when `T` wrote no key it tracks. -/
theorem Coherent.abandon (hc : Coherent c w) {T : Nat} {t : Transaction}
    (hslot : (w.context c).txn = some T) (ht : w.db.txns.find? T = some t) {x : ContextState}
    (hx : x.txn = none) (hint : x.interceptors = (w.context c).interceptors)
    (htr : x.tracker = (w.context c).tracker) (history : List TxnEvent) :
    Plain c { w.setContext c x with db := { w.db with txns := w.db.txns.drop T, history } } ∧
      (w.Clean c → Coherent c { w.setContext c x with db := { w.db with txns := w.db.txns.drop T, history } }) := by
  obtain ⟨w', hw'⟩ : ∃ w' : World,
      w' = { w.setContext c x with db := { w.db with txns := w.db.txns.drop T, history } } := ⟨_, rfl⟩
  rw [← hw']
  have hctx : w'.context c = x := by rw [hw']; exact World.context_setContext_self x hc.lt
  have hdb : w'.db = { w.db with txns := w.db.txns.drop T, history } := by rw [hw']
  have hview : w'.view c = .ok w.db.tables := by
    rw [World.view_none (by rw [hctx, hx]), hdb]
  have hlt : c < w'.contexts.size := by simpa [hw', World.setContext] using hc.lt
  have hint' : (w'.context c).interceptors = (w.context c).interceptors := by rw [hctx, hint]
  have hwf : w'.db.txns.Wf := by rw [hdb]; exact hc.wf.drop T
  have hnf : w'.db.commitFault = none := by rw [hdb]; exact hc.noCommitFault
  refine ⟨⟨hlt, hint' ▸ hc.unwatched, hnf, hwf, _, hview⟩, fun hclean => ?_⟩
  obtain ⟨ts, hts⟩ := hc.sees
  obtain ⟨n, happ⟩ := World.view_some_ok hslot ht hts
  refine hc.of_view hts hlt hint' (by rw [hctx, htr]) hnf hwf hview fun p hp => ?_
  refine (Change.applyAll_get?_of_forall_ne happ fun ch hch => ?_).symm
  have hnone := hclean ch (World.openLog_some hslot ht ▸ hch)
  exact fun heq => Tracker.find?_eq_none_iff.mp hnone p hp heq.symm

/-! ### An unwatched context -/

section Unwatched

variable {h : Hooks σ} {s s' : Sys σ}

theorem interceptorsNow_unwatched (hq : (s.world.context c).interceptors = []) :
    exec (interceptorsNow c) s = (.ok [], s) := by
  simp only [interceptorsNow, exec_bind, exec_world, exec_pure, hq]

theorem notifyEach_unwatched (hq : (s.world.context c).interceptors = []) (ns : List Notice) :
    exec (notifyEach h c ns) s = (.ok (), s) := by
  simp only [World.context_eq] at hq
  simp [notifyEach, interceptorsNow, hq]
  rfl

theorem guardEach_unwatched (hq : (s.world.context c).interceptors = []) (g : Guard)
    (onObserver : Nat → Act σ Unit) : exec (guardEach h c g onObserver) s = (.ok (), s) := by
  simp only [World.context_eq] at hq
  simp [guardEach, interceptorsNow, hq]

theorem beforeReader_unwatched (hq : (s.world.context c).interceptors = []) (wait : Wait) :
    exec (beforeReader h c wait) s = (.ok (), s) := by
  simp only [World.context_eq] at hq
  simp [beforeReader, interceptorsNow, hq]

theorem failedThrough_unwatched (hq : (s.world.context c).interceptors = []) (a : TxnAction) (e : Fault) :
    exec (failedThrough h c a e) s = (.ok e, s) := by
  simp only [World.context_eq] at hq
  simp [failedThrough, interceptorsNow, hq]
  exact ⟨rfl, rfl⟩

/-- Reading what the connection sees changes nothing. -/
theorem view_exec (c : Nat) (s : Sys σ) : exec (Context.view c) s = (s.world.view c, s) := by
  simp only [Context.view, currentTxn, exec_bind, exec_world, exec_pure, exec_database,
    Database.view_run_state]
  rfl

theorem onTracker_exec {α : Type} (f : Tracker → Except Fault (Tracker × α)) (s : Sys σ) :
    exec (onTracker c f) s = match f (s.world.context c).tracker with
      | .ok (t, a) => (.ok a, { s with world := s.world.setContext c { s.world.context c with tracker := t } })
      | .error e => (.error e, s) := by
  simp only [onTracker, modify, exec_bind, exec_world, exec_ofExcept]
  cases f (s.world.context c).tracker with
  | error e => rfl
  | ok p => rfl

end Unwatched

/-! ### Writing -/

section Writing

variable {s s' : Sys σ} {cs : List Change} {r : Except Fault Nat}

/-- Writing in the connection's transaction: nothing changes and the write fails, or the changes
apply on top of the transaction's view and join its log. -/
theorem writeChanges_in {T : Nat} {t : Transaction} (hslot : (s.world.context c).txn = some T)
    (hwf : s.world.db.txns.Wf) (ht : s.world.db.txns.find? T = some t)
    (hx : exec (writeChanges c cs) s = (r, s')) :
    (∃ e, r = .error e ∧ s' = s) ∨
    ∃ v n₀ v' n, Change.applyAll t.log s.world.db.tables = .ok (v, n₀) ∧
      Change.applyAll cs v = .ok (v', n) ∧ r = .ok n ∧
      s' = { s with world := { s.world with db := { s.world.db with
        txns := s.world.db.txns.put { t with log := t.log ++ cs },
        history := s.world.db.history ++ [.wrote T cs] } } } := by
  simp only [World.context_eq] at hslot
  simp only [writeChanges, currentTxn, exec_bind, exec_world, World.context_eq, hslot, exec_pure,
    exec_database] at hx
  rcases @Database.write_run_cases _ T hwf cs with ⟨e, he⟩ | ⟨t', v, n₀, v', n, ht', hview, happly, hrun⟩
  · rw [he, Prod.mk.injEq] at hx
    obtain ⟨rfl, rfl⟩ := hx
    exact .inl ⟨e, rfl, rfl⟩
  · rw [ht] at ht'
    cases ht'
    rw [hrun, Prod.mk.injEq] at hx
    obtain ⟨rfl, rfl⟩ := hx
    exact .inr ⟨v, n₀, v', n, hview, happly, rfl, rfl⟩

theorem writeChanges_in_ok {T : Nat} {t : Transaction} {v v' : Tables} {n₀ n : Nat}
    (hslot : (s.world.context c).txn = some T) (hwf : s.world.db.txns.Wf)
    (ht : s.world.db.txns.find? T = some t) (hview : Change.applyAll t.log s.world.db.tables = .ok (v, n₀))
    (happly : Change.applyAll cs v = .ok (v', n)) :
    exec (writeChanges c cs) s = (.ok n, { s with world := { s.world with db := { s.world.db with
        txns := s.world.db.txns.put { t with log := t.log ++ cs },
        history := s.world.db.history ++ [.wrote T cs] } } }) := by
  simp only [World.context_eq] at hslot
  simp only [writeChanges, currentTxn, exec_bind, exec_world, World.context_eq, hslot, exec_pure,
    exec_database, Database.write_run_ok hwf ht hview happly]

/-- Writing changes in a transaction of their own: only the database changes, the transaction is
gone afterwards and every transaction that was active before still is, as it was. Either the
changes are committed whole, which is acknowledged unless a failure after applying them is
injected, or the committed tables stay as they were because the transaction could not start, the
changes do not apply, or the connection was lost before the commit. -/
theorem writeChanges_own_cases (hslot : (s.world.context c).txn = none) (hwf : s.world.db.txns.Wf)
    (hx : exec (writeChanges c cs) s = (r, s')) :
    s' = { s with world := { s.world with db := s'.world.db } } ∧ s'.world.db.txns.Wf ∧
      (∀ j, j < s.world.db.txns.next → s'.world.db.txns.find? j = s.world.db.txns.find? j) ∧
      ((∃ n, Change.applyAll cs s.world.db.tables = .ok (s'.world.db.tables, n) ∧
          s'.world.db.commitFault = none ∧
          (r = .ok n ∧ s.world.db.commitFault = none ∨
            (∃ m, r = .error (.transient m)) ∧ s.world.db.commitFault = some .afterApply)) ∨
        (s'.world.db.tables = s.world.db.tables ∧ ∃ e, r = .error e ∧
          (s'.world.db.commitFault = s.world.db.commitFault ∨ s'.world.db.commitFault = none) ∧
          ((∃ m, e = .transient m) ∨ ∃ e', Change.applyAll cs s.world.db.tables = .error e'))) := by
  simp only [World.context_eq] at hslot
  simp only [writeChanges, currentTxn, exec_bind, exec_world, World.context_eq, hslot, exec_pure,
    exec_database] at hx
  generalize s.world.db = db at hx hwf ⊢
  by_cases hfault : 0 < db.transientFaults
  · -- the start is refused: one injected fault is used up and nothing else changes
    rw [Database.begin_run_fault none db hfault] at hx
    obtain ⟨rfl, rfl⟩ := Prod.mk.inj hx
    exact ⟨rfl, hwf, fun _ _ => rfl, .inr ⟨rfl, _, rfl, .inl rfl, .inl ⟨_, rfl⟩⟩⟩
  rw [Database.begin_run none db (by omega)] at hx
  simp only [exec_outcome, exec_database] at hx
  obtain ⟨db₁, hdb₁⟩ : ∃ db₁ : Database, db₁ =
      { db with txns := (db.txns.begin none).1, started := db.started + 1,
                history := db.history ++ [.began db.txns.next] } := ⟨_, rfl⟩
  rw [← hdb₁] at hx
  have hwf₁ : db₁.txns.Wf := hdb₁ ▸ hwf.begin none
  have ht₁ : db₁.txns.find? db.txns.next = some { id := db.txns.next, isolation := none } := by
    simp [hdb₁, TxnManager.find?_begin hwf]
  have hold₁ : ∀ j, j < db.txns.next → db₁.txns.find? j = db.txns.find? j := fun j hj => by
    simp [hdb₁, TxnManager.find?_begin hwf, Nat.ne_of_lt hj]
  have htables₁ : db₁.tables = db.tables := by rw [hdb₁]
  have hcf₁ : db₁.commitFault = db.commitFault := by rw [hdb₁]
  have hview₁ : Change.applyAll ({ id := db.txns.next, isolation := none } : Transaction).log db₁.tables =
      .ok (db.tables, 0) := by rw [htables₁]; rfl
  cases happly : Change.applyAll cs db.tables with
  | error e' =>
    rcases @Database.write_run_cases _ db.txns.next hwf₁ cs with ⟨e, he⟩ | ⟨t', v, n₀, v', n, ht', hv, hcs, -⟩
    · rw [he] at hx
      simp only [exec_bind, exec_database, Database.rollback_run hwf₁ ht₁, exec_throw] at hx
      obtain ⟨rfl, rfl⟩ := Prod.mk.inj hx
      refine ⟨rfl, hwf₁.drop _, fun j hj => ?_, .inr ⟨htables₁, e, rfl, .inl hcf₁, .inr ⟨e', rfl⟩⟩⟩
      simp [TxnManager.find?_drop, Nat.ne_of_lt hj, hold₁ j hj]
    · rw [ht₁] at ht'
      cases ht'
      rw [hview₁] at hv
      cases hv
      rw [happly] at hcs
      cases hcs
  | ok p =>
    obtain ⟨v', n⟩ := p
    rw [Database.write_run_ok hwf₁ ht₁ hview₁ happly] at hx
    obtain ⟨db₂, hdb₂⟩ : ∃ db₂ : Database, db₂ = { db₁ with
        txns := db₁.txns.put { id := db.txns.next, isolation := none, log := [] ++ cs },
        history := db₁.history ++ [.wrote db.txns.next cs] } := ⟨_, rfl⟩
    rw [← hdb₂] at hx
    have hwf₂ : db₂.txns.Wf := hdb₂ ▸ hwf₁.put rfl
    have ht₂ : db₂.txns.find? db.txns.next =
        some { id := db.txns.next, isolation := none, log := [] ++ cs } := by
      simp [hdb₂, ht₁]
    have happly₂ : Change.applyAll ([] ++ cs) db₂.tables = .ok (v', n) := by
      rw [hdb₂, List.nil_append, htables₁, happly]
    have hcf₂ : db₂.commitFault = db.commitFault := by rw [hdb₂]; exact hcf₁
    have hold₂ : ∀ j, j < db.txns.next → (db₂.txns.drop db.txns.next).find? j = db.txns.find? j :=
      fun j hj => by simp [TxnManager.find?_drop, Nat.ne_of_lt hj, hdb₂, hold₁ j hj]
    by_cases hbefore : db.commitFault = some .beforeApply
    · -- the connection is lost before the log is applied: nothing is committed
      simp only [exec_bind, exec_database, Database.commit_run_before hwf₂ (hcf₂.trans hbefore) ht₂] at hx
      obtain ⟨rfl, rfl⟩ := Prod.mk.inj hx
      exact ⟨rfl, hwf₂.drop _, hold₂, .inr ⟨by rw [hdb₂, htables₁], _, rfl, .inr rfl, .inl ⟨_, rfl⟩⟩⟩
    have hcommit := Database.commit_run_apply hwf₂ (by rw [hcf₂]; exact hbefore) ht₂ happly₂
    by_cases hafter : db.commitFault = some .afterApply
    · -- the log is applied, and only the acknowledgement is lost
      rw [if_pos (hcf₂.trans hafter)] at hcommit
      simp only [exec_bind, exec_database, hcommit] at hx
      obtain ⟨rfl, rfl⟩ := Prod.mk.inj hx
      exact ⟨rfl, hwf₂.drop _, hold₂, .inl ⟨n, rfl, rfl, .inr ⟨⟨_, rfl⟩, hafter⟩⟩⟩
    · rw [if_neg (by rw [hcf₂]; exact hafter)] at hcommit
      simp only [exec_bind, exec_database, hcommit, exec_pure] at hx
      obtain ⟨rfl, rfl⟩ := Prod.mk.inj hx
      have hnone : db.commitFault = none := by
        cases hf : db.commitFault with
        | none => rfl
        | some f =>
          cases f
          · exact absurd hf hbefore
          · exact absurd hf hafter
      exact ⟨rfl, hwf₂.drop _, hold₂, .inl ⟨n, rfl, rfl, .inl ⟨rfl, hnone⟩⟩⟩

/-- Writing changes in a transaction of their own, with no commit failure injected: either the
changes are committed whole, or the committed tables stay as they were because the transaction
could not start or the changes do not apply. -/
theorem writeChanges_own (hslot : (s.world.context c).txn = none) (hwf : s.world.db.txns.Wf)
    (hnf : s.world.db.commitFault = none) (hx : exec (writeChanges c cs) s = (r, s')) :
    s' = { s with world := { s.world with db := s'.world.db } } ∧ s'.world.db.txns.Wf ∧
      s'.world.db.commitFault = none ∧
      (∀ j, j < s.world.db.txns.next → s'.world.db.txns.find? j = s.world.db.txns.find? j) ∧
      ((∃ n, r = .ok n ∧ Change.applyAll cs s.world.db.tables = .ok (s'.world.db.tables, n)) ∨
        (s'.world.db.tables = s.world.db.tables ∧ ∃ e, r = .error e ∧
          ((∃ m, e = .transient m) ∨ ∃ e', Change.applyAll cs s.world.db.tables = .error e'))) := by
  obtain ⟨hs', hwf', hold, hres⟩ := writeChanges_own_cases hslot hwf hx
  rcases hres with ⟨n, happ, hnf', hr⟩ | ⟨htab, e, hr, hcf, he⟩
  · -- with no failure injected, the commit is acknowledged
    have hr : r = .ok n := by
      rcases hr with ⟨hr, -⟩ | ⟨-, hafter⟩
      · exact hr
      · rw [hnf] at hafter
        cases hafter
    exact ⟨hs', hwf', hnf', hold, .inl ⟨n, hr, happ⟩⟩
  · exact ⟨hs', hwf', hcf.elim (·.trans hnf) id, hold, .inr ⟨htab, e, hr, he⟩⟩

end Writing

/-! ### Each step keeps the tracker fitting -/

section Steps

variable {h : Hooks σ} {s : Sys σ}

theorem notifyEach_coherent (ns : List Notice) : Keeps (Coherent c) (notifyEach h c ns) := by
  intro s s' r hc hx
  rw [notifyEach_unwatched hc.unwatched, Prod.mk.injEq] at hx
  exact hx.2 ▸ hc

theorem guardEach_coherent (g : Guard) (onObserver : Nat → Act σ Unit) :
    Keeps (Coherent c) (guardEach h c g onObserver) := by
  intro s s' r hc hx
  rw [guardEach_unwatched hc.unwatched, Prod.mk.injEq] at hx
  exact hx.2 ▸ hc

theorem beforeReader_coherent (wait : Wait) : Keeps (Coherent c) (beforeReader h c wait) := by
  intro s s' r hc hx
  rw [beforeReader_unwatched hc.unwatched, Prod.mk.injEq] at hx
  exact hx.2 ▸ hc

theorem roundTrip_coherent (wait : Wait) : Keeps (σ := σ) (Coherent c) wait.roundTrip := by
  intro s s' r hc hx
  obtain ⟨-, hs'⟩ := Wait.roundTrip_spec hx
  rw [hs']
  exact hc.of_same rfl rfl rfl rfl rfl

theorem view_coherent : Keeps (σ := σ) (Coherent c) (Context.view c) :=
  Keeps.of_world_eq fun s s' r hx => by
    rw [view_exec, Prod.mk.injEq] at hx
    rw [← hx.2]

/-- A tracker operation keeps the context coherent when every tracker it gives fits the view. -/
theorem onTracker_coherent {α : Type} {f : Tracker → Except Fault (Tracker × α)} (hc : Coherent c s.world)
    (hf : ∀ t a ts, f (s.world.context c).tracker = .ok (t, a) → s.world.view c = .ok ts → t.Fits ts) :
    EndsIn (Coherent c) (onTracker c f) s := by
  intro r s' hx
  rw [onTracker_exec] at hx
  split at hx
  · next t a hft =>
    obtain ⟨-, rfl⟩ := Prod.mk.inj hx
    exact hc.toPlain.withTracker fun ts hts => hf t a ts hft hts
  · obtain ⟨-, rfl⟩ := Prod.mk.inj hx
    exact hc

theorem map_pair_eq_ok {x : Except Fault Tracker} {t : Tracker} {a : Unit}
    (hx : x.map (·, ()) = .ok (t, a)) : x = .ok t := by
  cases x with
  | error e => simp [Except.map] at hx
  | ok t' =>
    simp only [Except.map, Except.ok.injEq, Prod.mk.injEq] at hx
    rw [hx.1]

/-- Loading a row of the view keeps the context coherent: what is tracked from now on is the
row as the view holds it. -/
theorem readEntity_coherent (k : Key) : Keeps (Coherent c) (readEntity h c k) := by
  refine Keeps.of_endsIn fun s hc => ?_
  unfold readEntity
  refine (view_coherent.endsIn hc).bind fun ts s₁ h₁ => ?_
  rw [view_exec, Prod.mk.injEq] at h₁
  obtain ⟨hts, rfl⟩ := h₁
  refine (Keeps.world.endsIn hc).bind fun w s₂ h₂ => ?_
  rw [exec_world, Prod.mk.injEq, Except.ok.injEq] at h₂
  obtain ⟨rfl, rfl⟩ := h₂
  split
  · exact (Keeps.pure _).endsIn hc
  · split
    · exact (Keeps.pure _).endsIn hc
    · next row hrow =>
      refine (onTracker_coherent hc fun t _ ts' hf hts' => ?_).bind_keeps fun _ =>
        (notifyEach_coherent _).bind fun _ => Keeps.pure _
      rw [hts, Except.ok.injEq] at hts'
      subst hts'
      exact (hc.fits ts hts).trackLoaded hrow (map_pair_eq_ok hf)

theorem find_coherent (k : Key) (wait : Wait) : Keeps (Coherent c) (find h c k wait) :=
  (guardEach_coherent _ _).bind fun _ => (beforeReader_coherent wait).bind fun _ =>
    (roundTrip_coherent wait).bind fun _ => readEntity_coherent k

theorem count_coherent (table : String) (wait : Wait) : Keeps (Coherent c) (count h c table wait) :=
  (guardEach_coherent _ _).bind fun _ => (beforeReader_coherent wait).bind fun _ =>
    (roundTrip_coherent wait).bind fun _ => view_coherent.bind fun _ => Keeps.pure _

/-- Writing changes under keys the context does not track keeps it coherent: the view changes
only under those keys. -/
theorem writeChanges_coherent {cs : List Change} (hc : Coherent c s.world)
    (hcs : ∀ ch ∈ cs, (s.world.context c).tracker.find? ch.key = none) :
    EndsIn (Coherent c) (writeChanges c cs) s := by
  intro r s' hx
  have hne : ∀ p ∈ (s.world.context c).tracker.entries, ∀ ch ∈ cs, ch.key ≠ p.1 :=
    fun p hp ch hch heq => Tracker.find?_eq_none_iff.mp (hcs ch hch) p hp heq.symm
  cases hslot : (s.world.context c).txn with
  | some T =>
    obtain ⟨t, ht⟩ := hc.find?_txn hslot
    rcases writeChanges_in hslot hc.wf ht hx with ⟨e, -, rfl⟩ | ⟨v, n₀, v', n, hv, happ, -, rfl⟩
    · exact hc
    · have hview : s.world.view c = .ok v := by rw [World.view_some hslot ht, hv]; rfl
      exact hc.of_view hview hc.lt rfl rfl hc.noCommitFault (hc.wf.put (hc.wf.find?_some ht).2.1)
        (World.view_put hslot hc.wf ht hv happ _) fun p hp => Change.applyAll_get?_of_forall_ne happ (hne p hp)
  | none =>
    obtain ⟨hs', hwf', hnf', -, hres⟩ := writeChanges_own hslot hc.wf hc.noCommitFault hx
    rw [hs']
    refine hc.of_view (World.view_none hslot) hc.lt rfl rfl hnf' hwf' (World.view_none hslot) fun p hp => ?_
    rcases hres with ⟨n, -, happ⟩ | ⟨htab, -⟩
    · exact Change.applyAll_get?_of_forall_ne happ (hne p hp)
    · rw [htab]

/-- Another connection, outside any transaction, writing under keys that context `c` neither
tracks nor wrote in its open transaction keeps `c` coherent: the committed tables change only
under those keys, and so does the log of `c`'s transaction replayed on them. -/
theorem writeChanges_other_coherent {d : Nat} {cs : List Change} (hc : Coherent c s.world)
    (hslot : (s.world.context d).txn = none)
    (hcs : ∀ ch ∈ cs, (s.world.context c).tracker.find? ch.key = none ∧
      ∀ ch' ∈ s.world.openLog c, ch'.key ≠ ch.key) :
    EndsIn (Coherent c) (writeChanges d cs) s := by
  intro r s' hx
  obtain ⟨hs', hwf', hnf', hold, hres⟩ := writeChanges_own hslot hc.wf hc.noCommitFault hx
  have hagree : ∀ j, (∀ ch ∈ cs, ch.key ≠ j) → s.world.db.tables.get? j = s'.world.db.tables.get? j := by
    intro j hj
    rcases hres with ⟨n, -, happ⟩ | ⟨htab, -⟩
    · exact (Change.applyAll_get?_of_forall_ne happ hj).symm
    · rw [htab]
  have hne : ∀ p ∈ (s.world.context c).tracker.entries, ∀ ch ∈ cs, ch.key ≠ p.1 :=
    fun p hp ch hch heq => Tracker.find?_eq_none_iff.mp (hcs ch hch).1 p hp heq.symm
  obtain ⟨ts, hts⟩ := hc.sees
  rw [hs']
  cases hslot_c : (s.world.context c).txn with
  | none =>
    rw [World.view_none hslot_c, Except.ok.injEq] at hts
    subst hts
    exact hc.of_view (World.view_none hslot_c) hc.lt rfl rfl hnf' hwf' (World.view_none hslot_c)
      fun p hp => (hagree p.1 (hne p hp)).symm
  | some T =>
    obtain ⟨t, ht⟩ := hc.find?_txn hslot_c
    have ht' : s'.world.db.txns.find? T = some t := by rw [hold T (hc.wf.find?_some ht).2.2, ht]
    obtain ⟨n₀, happ⟩ := World.view_some_ok hslot_c ht hts
    -- the log wrote none of the keys of `cs`, so it replays alike where the tables agree
    obtain ⟨ts', happ', hagree'⟩ := Change.applyAll_congr (P := fun j => ∀ ch ∈ cs, ch.key ≠ j) hagree
      (fun ch' hch' ch hch heq => (hcs ch hch).2 ch' (World.openLog_some hslot_c ht ▸ hch') heq.symm) happ
    have hview : ({ s.world with db := s'.world.db } : World).view c = .ok ts' := by
      rw [World.view_some (w := { s.world with db := s'.world.db }) hslot_c ht', happ']
      rfl
    exact hc.of_view hts hc.lt rfl rfl hnf' hwf' hview fun p hp => (hagree' p.1 (hne p hp)).symm

/-- A raw command under a key the context does not track keeps it coherent. -/
theorem executeRaw_coherent {change : Change} {wait : Wait} (hc : Coherent c s.world)
    (hk : (s.world.context c).tracker.find? change.key = none) :
    EndsIn (Coherent c) (executeRaw h c change wait) s := by
  intro r s' hx
  have hq := hc.unwatched
  simp only [World.context_eq] at hq
  simp only [executeRaw, beforeCommand, guardEach, interceptorsNow, exec_bind, exec_world, exec_pure,
    World.context_eq, hq, List.forM_eq_forM, List.forM_nil] at hx
  rcases h₁ : exec wait.roundTrip s with ⟨q, s₁⟩
  have hc₁ := roundTrip_coherent wait hc h₁
  obtain ⟨-, hs₁⟩ := Wait.roundTrip_spec h₁
  rw [h₁] at hx
  cases q with
  | error e =>
    obtain ⟨-, rfl⟩ := Prod.mk.inj hx
    exact hc₁
  | ok u =>
    refine writeChanges_coherent hc₁ (fun ch hch => ?_) hx
    rw [List.mem_singleton] at hch
    rw [hch, hs₁]
    exact hk

/-- Flushing a coherent context: the log it detects applies to the view, so the write fails
only when a transaction of its own cannot start; when it succeeds, the accepted tracker is
settled on the new view. -/
theorem flush_coherent {r : Except Fault Nat} {s' : Sys σ} (hc : Coherent c s.world)
    (hx : exec (flush c) s = (r, s')) :
    Coherent c s'.world ∧ Settles c (s.world.context c).tracker r s' := by
  obtain ⟨ts, hts⟩ := hc.sees
  have hfit := hc.fits ts hts
  obtain ⟨ts', n, happ, hset, hdel, -⟩ := Tracker.save_settles hfit
  simp only [flush, exec_bind, exec_world] at hx
  split at hx
  · next hempty =>
    obtain ⟨rfl, rfl⟩ := Prod.mk.inj hx
    rw [Tracker.detectChanges_eq, List.isEmpty_iff, List.filterMap_eq_nil_iff] at hempty
    have hsettled : ∀ p ∈ (s.world.context c).tracker.entries, p.2.Settled (ts.get? p.1) :=
      fun p hp => (Tracked.settled_of_change_eq_none (hfit.2 p hp) (hempty p hp)).1
    refine ⟨hc, ⟨(fun e he => by cases he), fun _ _ => ⟨ts, hts, ⟨hfit.1, hsettled⟩, fun p hp hdel => ?_⟩⟩⟩
    have hunchanged := (hsettled p hp).1
    rw [hdel] at hunchanged
    cases hunchanged
  · cases hslot : (s.world.context c).txn with
    | some T =>
      obtain ⟨t, ht⟩ := hc.find?_txn hslot
      obtain ⟨n₀, hv⟩ := World.view_some_ok hslot ht hts
      simp only [exec_bind, writeChanges_in_ok hslot hc.wf ht hv happ, modify, exec_modifyWorld,
        exec_pure] at hx
      obtain ⟨rfl, rfl⟩ := Prod.mk.inj hx
      have hp₂ := hc.toPlain.put hslot ht hv happ (s.world.db.history ++ [.wrote T (s.world.context c).tracker.detectChanges])
      have hview := World.view_put hslot hc.wf ht hv happ
        (s.world.db.history ++ [.wrote T (s.world.context c).tracker.detectChanges])
      obtain ⟨hc', hview', hset'⟩ := hp₂.accept hview hset rfl
      exact ⟨hc', ⟨(fun e he => by cases he), fun _ _ => ⟨ts', hview', hset', hdel⟩⟩⟩
    | none =>
      rw [World.view_none hslot, Except.ok.injEq] at hts
      subst hts
      rcases h₁ : exec (writeChanges c (s.world.context c).tracker.detectChanges) s with ⟨q, s₁⟩
      obtain ⟨hs₁, hwf₁, hnf₁, -, hres⟩ := writeChanges_own hslot hc.wf hc.noCommitFault h₁
      rw [exec_bind, h₁] at hx
      rcases hres with ⟨n', rfl, happ'⟩ | ⟨htab, e, rfl, hcase⟩
      · rw [happ, Except.ok.injEq, Prod.mk.injEq] at happ'
        obtain ⟨hts₁, -⟩ := happ'
        simp only [modify, exec_bind, exec_modifyWorld, exec_pure] at hx
        obtain ⟨rfl, rfl⟩ := Prod.mk.inj hx
        have hctx₁ : s₁.world.context c = s.world.context c := by rw [hs₁]; rfl
        have hsize₁ : s₁.world.contexts.size = s.world.contexts.size := by rw [hs₁]
        have hview₁ : s₁.world.view c = .ok ts' := by
          rw [hts₁]
          exact World.view_none (by rw [hctx₁]; exact hslot)
        have hp₁ : Plain c s₁.world := ⟨hsize₁ ▸ hc.lt, hctx₁ ▸ hc.unwatched, hnf₁, hwf₁, _, hview₁⟩
        have htr₁ : (s₁.world.context c).tracker = (s.world.context c).tracker := by rw [hctx₁]
        obtain ⟨hc', hview', hset'⟩ := hp₁.accept hview₁ (htr₁ ▸ hset) rfl
        exact ⟨hc', ⟨(fun e he => by cases he), fun _ _ => ⟨ts', hview', hset', hdel⟩⟩⟩
      · -- the transaction could not start: only the injected fault was used up
        obtain ⟨rfl, rfl⟩ := Prod.mk.inj hx
        refine ⟨?_, ⟨fun e' he' => ?_, fun _ h => by cases h⟩⟩
        · rw [hs₁]
          exact hc.of_view (World.view_none hslot) hc.lt rfl rfl hnf₁ hwf₁ (World.view_none hslot)
            fun p _ => by rw [htab]
        · cases he'
          rcases hcase with ⟨m, rfl⟩ | ⟨e', he'⟩
          · exact .inl ⟨m, rfl⟩
          · rw [happ] at he'
            cases he'

/-- A save of a coherent context is a round trip and a flush: it fails only as cancelled or when
a transaction of its own cannot start, and it settles the tracker when it succeeds. -/
theorem save_coherent {wait : Wait} {r : Except Fault Nat} {s' : Sys σ} (hc : Coherent c s.world)
    (hx : exec (save h c wait) s = (r, s')) :
    Coherent c s'.world ∧ Settles c (s.world.context c).tracker r s' := by
  rcases h₁ : exec wait.roundTrip s with ⟨q, s₁⟩
  have hc₁ := roundTrip_coherent wait hc h₁
  obtain ⟨hq₁, hs₁⟩ := Wait.roundTrip_spec h₁
  have htr₁ : (s₁.world.context c).tracker = (s.world.context c).tracker := by rw [hs₁]; rfl
  simp only [save, exec_bind, interceptorsNow_unwatched hc.unwatched, List.forM_eq_forM, List.forM_nil,
    exec_pure, exec_outcome, exec_ofExcept, h₁] at hx
  rcases hq₁ with rfl | rfl
  · rcases h₂ : exec (flush c) s₁ with ⟨q₂, s₂⟩
    obtain ⟨hc₂, hset⟩ := flush_coherent hc₁ h₂
    rw [htr₁] at hset
    simp only [h₂] at hx
    cases q₂ <;>
    · simp only [exec_bind, notifyEach_unwatched hc₂.unwatched, exec_ofExcept] at hx
      obtain ⟨rfl, rfl⟩ := Prod.mk.inj hx
      exact ⟨hc₂, hset⟩
  · simp only [exec_bind, notifyEach_unwatched hc₁.unwatched, exec_ofExcept] at hx
    obtain ⟨rfl, rfl⟩ := Prod.mk.inj hx
    exact ⟨hc₁, ⟨fun e he => .inr (by cases he; rfl), fun _ h => by cases h⟩⟩

theorem add_coherent {k : Key} {v : Value} (hc : Coherent c s.world)
    (hk : ∀ ts, s.world.view c = .ok ts → ts.get? k = none) : EndsIn (Coherent c) (add h c k v) s :=
  (onTracker_coherent hc fun _ _ ts hf hts => (hc.fits ts hts).trackAdded (hk ts hts) (map_pair_eq_ok hf)).bind_keeps
    fun _ => notifyEach_coherent _

theorem update_coherent (k : Key) (v : Value) : Keeps (Coherent c) (update h c k v) :=
  Keeps.of_endsIn fun _ hc => (onTracker_coherent hc fun _ _ ts hf hts => (hc.fits ts hts).modify hf).bind_keeps
    fun _ => notifyEach_coherent _

theorem remove_coherent (k : Key) : Keeps (Coherent c) (remove h c k) :=
  Keeps.of_endsIn fun _ hc => (onTracker_coherent hc fun _ _ ts hf hts => (hc.fits ts hts).remove hf).bind_keeps
    fun _ => notifyEach_coherent _

theorem modifyUntracked_coherent (k : Key) (v : Value) : Keeps (σ := σ) (Coherent c) (modifyUntracked c k v) :=
  Keeps.of_endsIn fun _ hc => onTracker_coherent hc fun _ _ ts hf hts =>
    (hc.fits ts hts).modifyUntracked (map_pair_eq_ok hf)

/-- Forgetting every tracked entity makes a plain context coherent. -/
theorem clearTracked_coherent {r : Except Fault Unit} {s' : Sys σ} (hp : Plain c s.world)
    (hx : exec (clearTracked c) s = (r, s')) : Coherent c s'.world := by
  rw [clearTracked, modify, exec_modifyWorld] at hx
  obtain ⟨-, rfl⟩ := Prod.mk.inj hx
  exact hp.withTracker fun ts _ => Tracker.fits_clear _ ts

/-- Beginning a transaction keeps the context coherent: its view is the committed tables, as
it was before. -/
theorem begin_coherent (iso : Option Isolation) (wait : Wait) :
    Keeps (Coherent c) (Context.begin h c iso wait) := by
  intro s s' r hc hx
  simp only [Context.begin, exec_bind] at hx
  rcases h₁ : exec wait.roundTrip s with ⟨q, s₁⟩
  have hc₁ := roundTrip_coherent wait hc h₁
  rw [h₁] at hx
  cases q with
  | error e =>
    obtain ⟨-, rfl⟩ := Prod.mk.inj hx
    exact hc₁
  | ok u =>
    simp only [guardEach_unwatched hc₁.unwatched, hasTxn, exec_bind, exec_world, exec_pure] at hx
    cases hslot : (s₁.world.context c).txn with
    | some T =>
      simp only [hslot, Option.isSome_some, if_true] at hx
      obtain ⟨-, rfl⟩ := Prod.mk.inj hx
      exact hc₁
    | none =>
      simp only [hslot, Option.isSome_none, Bool.false_eq_true, if_false] at hx
      have hview := World.view_none hslot
      by_cases hfault : 0 < s₁.world.db.transientFaults
      · -- the start is refused: one injected fault is used up
        have hc₂ : Coherent c { s₁.world with
            db := { s₁.world.db with transientFaults := s₁.world.db.transientFaults - 1 } } :=
          hc₁.of_view hview hc₁.lt rfl rfl hc₁.noCommitFault hc₁.wf (World.view_none hslot) fun _ _ => rfl
        simp only [exec_bind, exec_outcome, exec_database, Database.begin_run_fault iso _ hfault] at hx
        rw [failedThrough_unwatched (s := { s₁ with world := { s₁.world with
            db := { s₁.world.db with transientFaults := s₁.world.db.transientFaults - 1 } } })
            hc₂.unwatched] at hx
        obtain ⟨-, rfl⟩ := Prod.mk.inj hx
        exact hc₂
      · -- the transaction starts with an empty log: the view stays the committed tables
        simp only [exec_bind, exec_outcome, exec_database, Database.begin_run iso s₁.world.db (by omega),
          modify, exec_modifyWorld, exec_pure] at hx
        obtain ⟨-, rfl⟩ := Prod.mk.inj hx
        refine hc₁.of_slot ?_ ?_ hc₁.noCommitFault (hc₁.wf.begin iso) hview ?_
          fun _ _ => rfl
        · rfl
        · rfl
        · dsimp only
          rw [Database.view_some_run (t := { id := s₁.world.db.txns.next, isolation := iso })
            (by simp [TxnManager.find?_begin hc₁.wf])]
          rfl

/-- Committing keeps the context coherent: the committed tables become the view it had. -/
theorem commit_coherent (wait : Wait) : Keeps (Coherent c) (Context.commit h c wait) := by
  intro s s' r hc hx
  simp only [Context.commit, exec_bind] at hx
  rcases h₁ : exec wait.roundTrip s with ⟨q, s₁⟩
  have hc₁ := roundTrip_coherent wait hc h₁
  rw [h₁] at hx
  cases q with
  | error e =>
    obtain ⟨-, rfl⟩ := Prod.mk.inj hx
    exact hc₁
  | ok u =>
    cases hslot : (s₁.world.context c).txn with
    | none =>
      simp only [World.context_eq] at hslot
      simp only [takeTxn, currentTxn, exec_bind, exec_world, exec_pure, World.context_eq, hslot,
        exec_throw] at hx
      obtain ⟨-, rfl⟩ := Prod.mk.inj hx
      exact hc₁
    | some T =>
      obtain ⟨t, ht⟩ := hc₁.find?_txn hslot
      obtain ⟨ts, hts⟩ := hc₁.sees
      obtain ⟨n, happ⟩ := World.view_some_ok hslot ht hts
      simp only [World.context_eq] at hslot
      simp only [Context.takeTxn_exec hslot, exec_outcome, exec_database,
        Database.commit_clean hc₁.wf hc₁.noCommitFault ht happ, exec_pure] at hx
      obtain ⟨-, rfl⟩ := Prod.mk.inj hx
      exact hc₁.of_slot (by simp) (by simp) hc₁.noCommitFault (hc₁.wf.drop T) hts rfl fun _ _ => rfl

/-- Rolling back leaves the context plain, and coherent when its transaction wrote no key it
tracks. -/
theorem rollback_abandons {wait : Wait} {r : Except Fault Unit} {s' : Sys σ} (hc : Coherent c s.world)
    (hx : exec (rollback h c wait) s = (r, s')) :
    Plain c s'.world ∧ (s.world.Clean c → Coherent c s'.world) := by
  simp only [rollback, exec_bind] at hx
  rcases h₁ : exec wait.pause s with ⟨q, s₁⟩
  obtain ⟨rfl, hs₁⟩ := Wait.pause_spec h₁
  have hc₁ : Coherent c s₁.world := by rw [hs₁]; exact hc.of_same rfl rfl rfl rfl rfl
  have hclean₁ : s.world.Clean c → s₁.world.Clean c := by rw [hs₁]; exact id
  rw [h₁] at hx
  cases hslot : (s₁.world.context c).txn with
  | none =>
    simp only [World.context_eq] at hslot
    simp only [takeTxn, currentTxn, exec_bind, exec_world, exec_pure, World.context_eq, hslot] at hx
    obtain ⟨-, rfl⟩ := Prod.mk.inj hx
    exact ⟨hc₁.toPlain, fun _ => hc₁⟩
  | some T =>
    obtain ⟨t, ht⟩ := hc₁.find?_txn hslot
    have hslot' := hslot
    simp only [World.context_eq] at hslot'
    simp only [Context.takeTxn_exec hslot', exec_outcome, exec_database,
      Database.rollback_run hc₁.wf ht, exec_pure] at hx
    obtain ⟨-, rfl⟩ := Prod.mk.inj hx
    refine ⟨(hc₁.abandon hslot ht ?_ ?_ ?_ _).1, fun hclean => (hc₁.abandon hslot ht ?_ ?_ ?_ _).2 (hclean₁ hclean)⟩ <;>
      first | rfl | simp

/-- Closing the connection leaves the context plain, and coherent when its transaction wrote no
key it tracks. -/
theorem close_abandons {r : Except Fault Unit} {s' : Sys σ} (hc : Coherent c s.world)
    (hx : exec (close c) s = (r, s')) :
    Plain c s'.world ∧ (s.world.Clean c → Coherent c s'.world) := by
  simp only [close, modify, exec_bind, exec_world, exec_modifyWorld] at hx
  cases hslot : (s.world.context c).txn with
  | none =>
    simp only [hslot, exec_pure] at hx
    obtain ⟨-, rfl⟩ := Prod.mk.inj hx
    have hc' : Coherent c (s.world.setContext c { s.world.context c with
        closes := (s.world.context c).closes + 1, txn := none }) := hc.of_same rfl
      (by rw [World.context_setContext_self _ hc.lt]) (by rw [World.context_setContext_self _ hc.lt, hslot])
      (by rw [World.context_setContext_self _ hc.lt]) (by simp [World.setContext])
    exact ⟨hc'.toPlain, fun _ => hc'⟩
  | some T =>
    obtain ⟨t, ht⟩ := hc.find?_txn hslot
    simp only [hslot, World.setContext_eq, exec_database, Database.rollback_run hc.wf ht] at hx
    obtain ⟨-, rfl⟩ := Prod.mk.inj hx
    refine hc.abandon hslot ht ?_ ?_ ?_ _ <;> rfl

end Steps

/-! ### Runs of events -/

/-- What happens to context `c`'s view of the database: an operation of its own, a step of its
transaction, closing its connection, forgetting what it tracks, or a change that another
connection `d` commits on its own. -/
inductive Event where
  | op (o : Op) (wait : Wait)
  | begin (isolation : Option Isolation) (wait : Wait)
  | commit (wait : Wait)
  | rollback (wait : Wait)
  | close
  | clear
  | foreign (d : Nat) (change : Change)

namespace Event

/-- Run an event on context `c`. -/
def run (h : Hooks σ) (c : Nat) : Event → Act σ Unit
  | op o wait => do let _ ← o.run h c wait
  | begin iso wait => do let _ ← Context.begin h c iso wait
  | commit wait => Context.commit h c wait
  | rollback wait => Context.rollback h c wait
  | close => Context.close c
  | clear => clearTracked c
  | foreign d change => do let _ ← writeChanges d [change]

def isSave : Event → Bool
  | op .save _ => true
  | _ => false

/-- What context `c` promises before an event, in world `w`, with `next` the event after it: it
adds only keys its view does not hold, runs raw commands only on keys it does not track, and
clears its tracker right after it abandons a transaction that wrote a key it tracks; another
connection writes only outside a transaction, and only a key that `c` neither tracks nor wrote
in its open transaction. -/
def Allowed (c : Nat) (w : World) (next : Option Event) : Event → Prop
  | op (.add k _) _ => ∀ ts, w.view c = .ok ts → ts.get? k = none
  | op (.raw change) _ => (w.context c).tracker.find? change.key = none
  | rollback _ | close => w.Clean c ∨ next = some clear
  | foreign d change => (w.context d).txn = none ∧ (w.context c).tracker.find? change.key = none ∧
      ∀ ch ∈ w.openLog c, ch.key ≠ change.key
  | _ => True

/-- `R` holds of every event of a run on context `c` from `s`, the events running one after
another: of the state the event starts in, the event, the event after it, what it returned and
the state it ends in. -/
def Along (h : Hooks σ) (c : Nat) (R : Sys σ → Event → Option Event → Except Fault Unit → Sys σ → Prop) :
    List Event → Sys σ → Prop
  | [], _ => True
  | ev :: rest, s =>
    R s ev rest.head? (exec (ev.run h c) s).1 (exec (ev.run h c) s).2 ∧
      Along h c R rest (exec (ev.run h c) s).2

/-- What an event keeps: afterwards the context is coherent, or plain with a clear to come; and
a save ends as `Settles` says. -/
def Kept (c : Nat) (s : Sys σ) (ev : Event) (next : Option Event) (r : Except Fault Unit) (s' : Sys σ) :
    Prop :=
  (Coherent c s'.world ∨ (Plain c s'.world ∧ next = some clear)) ∧
    (ev.isSave = true → Settles c (s.world.context c).tracker r s')

variable {h : Hooks σ} {s s' : Sys σ} {r : Except Fault Unit}

theorem op_coherent (o : Op) (wait : Wait) (ho : EndsIn (Coherent c) (o.run h c wait) s)
    (hx : exec ((op o wait).run h c) s = (r, s')) : Coherent c s'.world :=
  (ho.bind_keeps fun _ => Keeps.pure _) hx

/-- A save, run as an event: what `save_coherent` says, with the count of rows dropped. -/
theorem save_kept {wait : Wait} {next : Option Event} (hc : Coherent c s.world)
    (hx : exec ((op .save wait).run h c) s = (r, s')) : Kept c s (op .save wait) next r s' := by
  rcases h₁ : exec (save h c wait) s with ⟨q, s₁⟩
  obtain ⟨hc₁, hset⟩ := save_coherent hc h₁
  simp only [run, Op.run, exec_bind, h₁, exec_pure] at hx
  cases q with
  | ok n =>
    obtain ⟨rfl, rfl⟩ := Prod.mk.inj hx
    exact ⟨.inl hc₁, fun _ => ⟨(fun e he => nomatch he), fun _ _ => hset.settles n rfl⟩⟩
  | error e =>
    obtain ⟨rfl, rfl⟩ := Prod.mk.inj hx
    exact ⟨.inl hc₁, fun _ => ⟨fun e' he' => by cases he'; exact hset.fails e rfl, (fun _ h => nomatch h)⟩⟩

/-- One event keeps what it promises, from a coherent context, or from a plain one when the
event is a clear. -/
theorem kept {ev : Event} {next : Option Event} (hstart : Coherent c s.world ∨ (Plain c s.world ∧ ev = clear))
    (hallowed : ev.Allowed c s.world next) (hx : exec (ev.run h c) s = (r, s')) : Kept c s ev next r s' := by
  rcases hstart with hc | ⟨hp, rfl⟩
  case inr => exact ⟨.inl (clearTracked_coherent hp hx), nofun⟩
  cases ev with
  | op o wait =>
    cases o with
    | add k v =>
      exact ⟨.inl (op_coherent (.add k v) wait ((add_coherent hc hallowed).bind_keeps fun _ => Keeps.pure _) hx), nofun⟩
    | update k v =>
      exact ⟨.inl (op_coherent (.update k v) wait (((update_coherent k v).bind fun _ => Keeps.pure _).endsIn hc) hx), nofun⟩
    | remove k =>
      exact ⟨.inl (op_coherent (.remove k) wait (((remove_coherent k).bind fun _ => Keeps.pure _).endsIn hc) hx), nofun⟩
    | modifyUntracked k v =>
      exact ⟨.inl (op_coherent (.modifyUntracked k v) wait (((modifyUntracked_coherent k v).bind fun _ => Keeps.pure _).endsIn hc) hx),
        nofun⟩
    | find k =>
      exact ⟨.inl (op_coherent (.find k) wait (((find_coherent k wait).bind fun _ => Keeps.pure _).endsIn hc) hx), nofun⟩
    | count table =>
      exact ⟨.inl (op_coherent (.count table) wait (((count_coherent table wait).bind fun _ => Keeps.pure _).endsIn hc) hx), nofun⟩
    | raw change =>
      exact ⟨.inl (op_coherent (.raw change) wait ((executeRaw_coherent hc hallowed).bind_keeps fun _ => Keeps.pure _) hx), nofun⟩
    | save => exact save_kept hc hx
  | begin iso wait =>
    exact ⟨.inl (((begin_coherent iso wait).bind fun _ => Keeps.pure _) hc hx), nofun⟩
  | commit wait => exact ⟨.inl (commit_coherent wait hc hx), nofun⟩
  | rollback wait =>
    obtain ⟨hp, hclean⟩ := rollback_abandons hc hx
    exact ⟨hallowed.imp hclean fun hnext => ⟨hp, hnext⟩, nofun⟩
  | close =>
    obtain ⟨hp, hclean⟩ := close_abandons hc hx
    exact ⟨hallowed.imp hclean fun hnext => ⟨hp, hnext⟩, nofun⟩
  | clear => exact ⟨.inl (clearTracked_coherent hc.toPlain hx), nofun⟩
  | foreign d change =>
    obtain ⟨hslot, hk, hlog⟩ := hallowed
    have hwrite := writeChanges_other_coherent hc hslot fun ch hch => by
      rw [List.mem_singleton] at hch
      subst hch
      exact ⟨hk, hlog⟩
    exact ⟨.inl ((hwrite.bind_keeps fun _ => Keeps.pure _) hx), nofun⟩

end Event

/-- The tracker of a context stays true to what its connection sees, through every run of
events that keeps the context's promises, from a coherent context (or a plain one about to
forget what it tracks): after every event the tracker fits the view again, or a clear comes
next; no save fails but for a refused transaction start or a cancellation; and every save that
succeeds leaves each tracked entity settled on its row of the view and the row of every entity
it deleted gone. -/
theorem tracker_stays_coherent {h : Hooks σ} {evs : List Event} {s : Sys σ}
    (hstart : Coherent c s.world ∨ (Plain c s.world ∧ evs.head? = some .clear))
    (hallowed : Event.Along h c (fun s ev next _ _ => ev.Allowed c s.world next) evs s) :
    Event.Along h c (Event.Kept c) evs s := by
  -- by induction on the events; the start condition is what `Kept` leaves for the next one
  induction evs generalizing s with
  | nil => trivial
  | cons ev rest ih =>
    obtain ⟨hall, hrest⟩ := hallowed
    have hkept : Event.Kept c s ev rest.head? (exec (ev.run h c) s).1 (exec (ev.run h c) s).2 :=
      Event.kept (hstart.imp_right fun hp => ⟨hp.1, by simpa using hp.2⟩) hall rfl
    exact ⟨hkept, ih hkept.1 hrest⟩

/-- Tracking a new row and saving it, on a fresh context of an empty database. -/
theorem tracker_stays_coherent_on_add_save :
    Event.Along (Hooks.quiet (σ := Unit)) 0 (Event.Kept 0)
      [.op (.add ("items", 1) (.text "a")) .blocking, .op .save .blocking]
      { world := { contexts := #[{}] }, host := () } :=
  tracker_stays_coherent
    (.inl ⟨⟨by decide, rfl, rfl, ⟨nofun, List.nodup_nil⟩, _, rfl⟩, fun _ _ => ⟨List.nodup_nil, nofun⟩⟩)
    ⟨fun ts hts => by cases hts; rfl, trivial, trivial⟩

/-- A raw command inserts a row in a transaction and a query loads it; rolling the transaction
back takes the row away from under the tracked entity, and its next save conflicts. No save
went into the rolled back transaction, no raw command touched a tracked key, and nothing was
added. -/
theorem rollback_of_raw_insert_breaks_tracking :
    (exec ([Event.begin none .blocking, .op (.raw (.insert "items" 1 (.text "a"))) .blocking,
        .op (.find ("items", 1)) .blocking, .rollback .blocking,
        .op (.update ("items", 1) (.text "b")) .blocking, .op .save .blocking].forM
          (Event.run Hooks.quiet 0))
      ({ world := { contexts := #[{}] }, host := () } : Sys Unit)).1 matches .error (.conflict _) := by
  decide +kernel

end Context

end ScopedWork
