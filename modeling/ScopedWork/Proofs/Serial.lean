import ScopedWork.Proofs.Store
import ScopedWork.Proofs.Act
import ScopedWork.Context.Query

/-!
# Serial commits

The in-memory database behaves as if transactions committed one at a time. Its users reach
it through five operations (seeding a row, beginning, writing to, committing and rolling
back a transaction: a context's saves, raw commands and closing of its connection are made
of these) and the two fault injections of tests. Whatever order these come in, over any
number of transactions:

* the committed tables are the replay, from empty tables, of the seeded inserts and of the
  logs of the transactions whose commit applied, in that order, each log applied whole;
* the log of a transaction is exactly the changes of its successful writes;
* a commit either installs exactly what the transaction's view shows, or (on an injected
  failure before applying, or when its log no longer applies to the committed tables) rolls
  the transaction back and leaves the committed tables as they were;
* a transaction's view is the committed tables with its own log applied on top.

`Serial` is the invariant behind all four; every operation keeps it.
-/

namespace ScopedWork

namespace TxnEvent

/-- The transaction an event is about. -/
def txn : TxnEvent → Nat
  | began id => id
  | wrote id _ => id
  | committed id => id
  | rolledBack id => id

/-- The changes of the successful writes of a transaction, in order. -/
def written (id : Nat) (history : List TxnEvent) : List Change :=
  (history.filterMap fun
    | wrote j cs => if j = id then some cs else none
    | _ => none).flatten

@[simp] theorem written_nil (id : Nat) : written id [] = [] := rfl

theorem written_append_wrote (id j : Nat) (cs : List Change) (history : List TxnEvent) :
    written id (history ++ [wrote j cs]) = written id history ++ (if j = id then cs else []) := by
  by_cases h : j = id <;> simp [written, h]

theorem written_append_other (id : Nat) (ev : TxnEvent) (history : List TxnEvent)
    (hev : ∀ j cs, ev ≠ wrote j cs) : written id (history ++ [ev]) = written id history := by
  cases ev with
  | wrote j cs => exact absurd rfl (hev j cs)
  | _ => simp [written]

/-- A transaction that no event is about yet has written nothing. -/
theorem written_of_fresh {id : Nat} {history : List TxnEvent}
    (h : ∀ ev ∈ history, ev.txn < id) : written id history = [] := by
  rw [written, List.flatten_eq_nil_iff]
  intro cs hcs
  obtain ⟨ev, hev, hsome⟩ := List.mem_filterMap.mp hcs
  cases ev with
  | wrote j ds =>
    have hj : j ≠ id := Nat.ne_of_lt (h _ hev)
    simp [hj] at hsome
  | _ => cases hsome

end TxnEvent

namespace Database

/-- An operation on the database. -/
inductive Action where
  | seed (table : String) (id : Int) (value : Value)
  | begin (isolation : Option Isolation)
  | write (txn : Nat) (changes : List Change)
  | commit (txn : Nat)
  | rollback (txn : Nat)
  | injectCommitFault (fault : CommitFault)
  | injectTransientFaults (count : Nat)

namespace Action

/-- The database after the operation, whether it succeeded or failed. -/
def run : Action → Database → Database
  | seed table i v, db => (((Database.seed table i v).run).run db).2
  | begin iso, db => (((Database.begin iso).run).run db).2
  | write id cs, db => (((Database.write id cs).run).run db).2
  | commit id, db => (((Database.commit id).run).run db).2
  | rollback id, db => (((Database.rollback id).run).run db).2
  | injectCommitFault f, db => { db with commitFault := some f }
  | injectTransientFaults n, db => { db with transientFaults := n }

/-- The logs the operation installs on the committed tables: a seeded insert that applies,
or, for a commit of an active transaction with no injected failure before applying, the
changes its writes recorded, if they all apply to the committed tables. -/
def installs : Action → Database → List (List Change)
  | seed table i v, db =>
    if ((Change.insert table i v).apply db.tables).isOk then [[.insert table i v]] else []
  | commit id, db =>
    let log := TxnEvent.written id db.history
    if (db.txns.find? id).isSome ∧ db.commitFault ≠ some .beforeApply ∧
        (Change.applyAll log db.tables).isOk then [log]
    else []
  | _, _ => []

end Action

/-- The database after a sequence of operations. -/
def runAll : List Action → Database → Database
  | [], db => db
  | a :: as, db => runAll as (a.run db)

/-- The logs a sequence of operations installs, in order. -/
def installedAll : List Action → Database → List (List Change)
  | [], _ => []
  | a :: as, db => a.installs db ++ installedAll as (a.run db)

/-- The committed tables replay what was installed, the manager is well formed, every kept
transaction's log is what its writes recorded, and every event is about an id handed out. -/
structure Serial (db : Database) : Prop where
  wf : db.txns.Wf
  replay : Change.replay db.applied [] = .ok db.tables
  logs : ∀ id t, db.txns.find? id = some t → t.log = TxnEvent.written id db.history
  fresh : ∀ ev ∈ db.history, ev.txn < db.txns.next

namespace Serial

variable {db : Database}

/-- A new database: empty tables, no transaction, nothing applied and nothing happened. -/
theorem new (b : Bool) : Serial { interceptable := b } where
  wf := ⟨(fun _ h => nomatch h), List.nodup_nil⟩
  replay := rfl
  logs _ _ h := nomatch h
  fresh _ h := nomatch h

/-- The invariant does not look at the injected faults. -/
theorem faults (hs : Serial db) (f : Option CommitFault) (n : Nat) :
    Serial { db with commitFault := f, transientFaults := n } :=
  ⟨hs.wf, hs.replay, hs.logs, hs.fresh⟩

theorem seed (hs : Serial db) {table : String} {i : Int} {v : Value} {ts : Tables} {n : Nat}
    (h : (Change.insert table i v).apply db.tables = .ok (ts, n)) :
    Serial { db with tables := ts, applied := db.applied ++ [[.insert table i v]] } where
  wf := hs.wf
  replay := by
    rw [Change.replay_append_single, hs.replay]
    show (Change.applyAll [_] db.tables >>= _ : Except Fault Tables) = _
    simp only [Change.applyAll, h]
    rfl
  logs := hs.logs
  fresh := hs.fresh

theorem begin (hs : Serial db) (iso : Option Isolation) :
    Serial { db with txns := (db.txns.begin iso).1, started := db.started + 1,
                     history := db.history ++ [.began db.txns.next] } where
  wf := hs.wf.begin iso
  replay := hs.replay
  logs j t ht := by
    rw [TxnManager.find?_begin hs.wf] at ht
    rw [TxnEvent.written_append_other _ _ _ (by simp)]
    by_cases hj : j = db.txns.next
    · -- the new transaction: an empty log, and no event about its fresh id
      rw [if_pos hj] at ht
      cases ht
      subst hj
      exact (TxnEvent.written_of_fresh hs.fresh).symm
    · rw [if_neg hj] at ht
      exact hs.logs j t ht
  fresh ev hev := by
    rcases List.mem_append.mp hev with hev | hev
    · exact Nat.lt_succ_of_lt (hs.fresh ev hev)
    · rw [List.mem_singleton.mp hev]
      exact Nat.lt_succ_self _

theorem write (hs : Serial db) {id : Nat} {t : Transaction} (ht : db.txns.find? id = some t)
    (cs : List Change) :
    Serial { db with txns := db.txns.put { t with log := t.log ++ cs },
                     history := db.history ++ [.wrote id cs] } where
  wf := hs.wf.put (hs.wf.find?_some ht).2.1
  replay := hs.replay
  logs j u hu := by
    obtain ⟨htid, -, -⟩ := hs.wf.find?_some ht
    simp only [TxnManager.find?_put, htid] at hu
    rw [TxnEvent.written_append_wrote]
    by_cases hj : j = id
    · subst hj
      rw [if_pos rfl, ht] at hu
      cases hu
      simp [hs.logs j t ht]
    · rw [if_neg hj] at hu
      simp [hs.logs j u hu, Ne.symm hj]
  fresh ev hev := by
    rcases List.mem_append.mp hev with hev | hev
    · exact hs.fresh ev hev
    · rw [List.mem_singleton.mp hev]
      exact (hs.wf.find?_some ht).2.2

/-- Ending a transaction without installing its log keeps the invariant. -/
theorem ended (hs : Serial db) {id : Nat} {t : Transaction} (ht : db.txns.find? id = some t)
    (f : Option CommitFault) :
    Serial { db with commitFault := f, txns := db.txns.drop id,
                     history := db.history ++ [.rolledBack id] } where
  wf := hs.wf.drop id
  replay := hs.replay
  logs j u hu := by
    simp only [TxnManager.find?_drop] at hu
    by_cases hj : j = id
    · rw [if_pos hj] at hu
      cases hu
    · rw [if_neg hj] at hu
      rw [TxnEvent.written_append_other _ _ _ (by simp)]
      exact hs.logs j u hu
  fresh ev hev := by
    rcases List.mem_append.mp hev with hev | hev
    · exact hs.fresh ev hev
    · rw [List.mem_singleton.mp hev]
      exact (hs.wf.find?_some ht).2.2

/-- Committing a transaction whose log applies keeps the invariant. -/
theorem committed (hs : Serial db) {id : Nat} {t : Transaction} (ht : db.txns.find? id = some t)
    {staged : Tables} {n : Nat} (happly : Change.applyAll t.log db.tables = .ok (staged, n)) :
    Serial { db with commitFault := none, txns := db.txns.drop id, tables := staged,
                     applied := db.applied ++ [t.log], history := db.history ++ [.committed id] } where
  wf := hs.wf.drop id
  replay := by
    rw [Change.replay_append_single, hs.replay]
    show (Change.applyAll t.log db.tables >>= _ : Except Fault Tables) = _
    rw [happly]
    rfl
  logs j u hu := by
    simp only [TxnManager.find?_drop] at hu
    by_cases hj : j = id
    · rw [if_pos hj] at hu
      cases hu
    · rw [if_neg hj] at hu
      rw [TxnEvent.written_append_other _ _ _ (by simp)]
      exact hs.logs j u hu
  fresh ev hev := by
    rcases List.mem_append.mp hev with hev | hev
    · exact hs.fresh ev hev
    · rw [List.mem_singleton.mp hev]
      exact (hs.wf.find?_some ht).2.2

end Serial

namespace Action

variable {db : Database}

theorem commit_serial (hs : Serial db) (id : Nat) :
    Serial ((commit id).run db) ∧ ((commit id).run db).applied = db.applied ++ (commit id).installs db := by
  cases ht : db.txns.find? id with
  | none =>
    have hnone : (commit id).installs db = [] := by simp [installs, ht]
    rw [hnone, List.append_nil]
    by_cases hf : db.commitFault = some .beforeApply
    · rw [run, commit_run_before_none hf ht]
      exact ⟨hs.faults none db.transientFaults, rfl⟩
    · rw [run, commit_run_none hf ht]
      exact ⟨hs.faults none db.transientFaults, rfl⟩
  | some t =>
    have hlog := hs.logs id t ht
    by_cases hf : db.commitFault = some .beforeApply
    · have hnone : (commit id).installs db = [] := by simp [installs, hf]
      rw [hnone, List.append_nil, run, commit_run_before hs.wf hf ht]
      exact ⟨hs.ended ht none, rfl⟩
    · cases happly : Change.applyAll t.log db.tables with
      | error e =>
        have hnone : (commit id).installs db = [] := by
          simp [installs, ← hlog, happly, Except.toBool]
        rw [hnone, List.append_nil, run, commit_run_conflict hs.wf hf ht happly]
        exact ⟨hs.ended ht none, rfl⟩
      | ok p =>
        obtain ⟨staged, n⟩ := p
        have hone : (commit id).installs db = [t.log] := by
          simp [installs, ht, hf, ← hlog, happly, Except.toBool]
        rw [hone, run, commit_run_apply hs.wf hf ht happly]
        exact ⟨hs.committed ht happly, rfl⟩

/-- Every operation keeps the invariant and adds to the applied logs exactly what it
installs. -/
theorem run_serial (hs : Serial db) (a : Action) :
    Serial (a.run db) ∧ (a.run db).applied = db.applied ++ a.installs db := by
  cases a with
  | seed table i v =>
    cases h : (Change.insert table i v).apply db.tables with
    | ok p =>
      obtain ⟨ts, n⟩ := p
      rw [run, seed_run_ok h]
      exact ⟨hs.seed h, by simp [installs, h, Except.toBool]⟩
    | error e =>
      rw [run, seed_run_error h]
      exact ⟨hs, by simp [installs, h, Except.toBool]⟩
  | begin iso =>
    by_cases hf : 0 < db.transientFaults
    · rw [run, begin_run_fault iso db hf]
      exact ⟨hs.faults db.commitFault _, (List.append_nil _).symm⟩
    · rw [run, begin_run iso db (by omega)]
      exact ⟨hs.begin iso, (List.append_nil _).symm⟩
  | write id cs =>
    rcases write_run_cases hs.wf cs with ⟨e, he⟩ | ⟨t, v, n₀, v', n, ht, -, -, he⟩
    · rw [run, he]
      exact ⟨hs, (List.append_nil _).symm⟩
    · rw [run, he]
      exact ⟨hs.write ht cs, (List.append_nil _).symm⟩
  | commit id => exact commit_serial hs id
  | rollback id =>
    cases ht : db.txns.find? id with
    | none =>
      rw [run, rollback_run_none ht]
      exact ⟨hs, (List.append_nil _).symm⟩
    | some t =>
      rw [run, rollback_run hs.wf ht]
      exact ⟨hs.ended ht db.commitFault, (List.append_nil _).symm⟩
  | injectCommitFault f => exact ⟨hs.faults (some f) db.transientFaults, (List.append_nil _).symm⟩
  | injectTransientFaults n => exact ⟨hs.faults db.commitFault n, (List.append_nil _).symm⟩

end Action

/-- Every sequence of operations keeps the invariant and adds to the applied logs exactly
what its operations install, in order. -/
theorem runAll_serial {db : Database} (hs : Serial db) (acts : List Action) :
    Serial (runAll acts db) ∧ (runAll acts db).applied = db.applied ++ installedAll acts db := by
  induction acts generalizing db with
  | nil => exact ⟨hs, (List.append_nil _).symm⟩
  | cons a as ih =>
    obtain ⟨hs₁, happ₁⟩ := a.run_serial hs
    obtain ⟨hs₂, happ₂⟩ := ih hs₁
    refine ⟨hs₂, ?_⟩
    rw [runAll, happ₂, happ₁, installedAll, List.append_assoc]

/-- The tables a transaction sees by the record of its writes: the committed tables with
every change it wrote applied on top; outside a transaction, the committed tables. -/
def seen (db : Database) : Option Nat → Except Fault Tables
  | none => .ok db.tables
  | some id =>
    match db.txns.find? id with
    | some _ => (Change.applyAll (TxnEvent.written id db.history) db.tables).map (·.1)
    | none => .error (TxnManager.notFound id)

/-- What a transaction reads is the committed tables with exactly its own writes on top. -/
theorem view_seen {db : Database} (hs : Serial db) (txn : Option Nat) :
    ((view txn).run).run db = (db.seen txn, db) := by
  cases txn with
  | none => rfl
  | some id =>
    cases ht : db.txns.find? id with
    | none => rw [view_some_run_none ht, seen, ht]
    | some t => rw [view_some_run ht, seen, ht, hs.logs id t ht]

/-- Committing `id` is all or nothing. With no injected failure before applying and a view
that still applies, the committed tables become exactly that view (the commit reports a
failure only when one is injected after applying); otherwise the transaction is rolled
back, the commit fails and the committed tables stay as they were. Either way the
transaction is no longer active. -/
def AtomicCommit (db : Database) (id : Nat) : Prop :=
  let r := ((commit id).run).run db
  r.2.txns.find? id = none ∧
    ((db.commitFault ≠ some .beforeApply ∧ ((view (some id)).run).run db = (.ok r.2.tables, db) ∧
        r.2.history = db.history ++ [.committed id] ∧
        (r.1 = .ok () ↔ db.commitFault ≠ some .afterApply)) ∨
      ((db.commitFault = some .beforeApply ∨ ∃ e, ((view (some id)).run).run db = (.error e, db)) ∧
        (∃ e, r.1 = .error e) ∧ r.2.tables = db.tables ∧
        r.2.history = db.history ++ [.rolledBack id]))

/-- Every commit of an active transaction is atomic. -/
theorem commit_atomic {db : Database} (hwf : db.txns.Wf) {id : Nat} {t : Transaction}
    (ht : db.txns.find? id = some t) : AtomicCommit db id := by
  unfold AtomicCommit
  intro r
  by_cases hf : db.commitFault = some .beforeApply
  · have hr : r = _ := commit_run_before hwf hf ht
    rw [hr]
    exact ⟨by simp, .inr ⟨.inl hf, ⟨_, rfl⟩, rfl, rfl⟩⟩
  · cases happly : Change.applyAll t.log db.tables with
    | error e =>
      have hr : r = _ := commit_run_conflict hwf hf ht happly
      rw [hr]
      refine ⟨by simp, .inr ⟨.inr ⟨e, ?_⟩, ⟨e, rfl⟩, rfl, rfl⟩⟩
      rw [view_some_run ht, happly]
      rfl
    | ok p =>
      obtain ⟨staged, n⟩ := p
      have hr : r = _ := commit_run_apply hwf hf ht happly
      rw [hr]
      refine ⟨by simp, .inl ⟨hf, by rw [view_some_run ht, happly]; rfl, rfl, ?_⟩⟩
      by_cases ha : db.commitFault = some .afterApply <;> simp [ha]

end Database

namespace Tracker

theorem trackLoaded_of_find?_none {t : Tracker} {k : Key} (hk : t.find? k = none) (v : Value)
    (version : Nat) :
    t.trackLoaded k v version = .ok { entries := insertSorted k ⟨.unchanged, some v, v, version⟩ t.entries } := by
  simp [trackLoaded, isTracked, hk]

end Tracker

namespace Context

variable {σ : Type} {s : Sys σ}

/-- Notifying cannot fail. -/
theorem notifyEach_run_ok (h : Hooks σ) (c : Nat) (ns : List Notice) (s : Sys σ) :
    ∃ s', (notifyEach h c ns).run s = .ok () s' :=
  ⟨_, rfl⟩

theorem onTracker_run_ok {α : Type} {c : Nat} {f : Tracker → Except Fault (Tracker × α)}
    {t : Tracker} {a : α} (hf : f (s.world.context c).tracker = .ok (t, a)) :
    ∃ s', (onTracker c f).run s = .ok a s' := by
  rw [onTracker, Act.world_bind_run]
  dsimp only
  rw [hf, Act.ofExcept_ok_bind_run]
  exact ⟨_, rfl⟩

/-- A context reads what its transaction sees: the committed tables with exactly the changes
that transaction wrote on top, or the committed tables when it has none. Reading changes
nothing. -/
theorem view_run (hs : Database.Serial s.world.db) (c : Nat) :
    (view c).run s = match s.world.db.seen (s.world.context c).txn with
      | .ok ts => .ok ts s
      | .error e => .error e s := by
  have hdb := Database.view_seen hs (s.world.context c).txn
  show (Act.database (Database.view (s.world.context c).txn)).run s = _
  cases hseen : s.world.db.seen (s.world.context c).txn with
  | ok ts =>
    rw [hseen] at hdb
    exact Act.database_run_ok hdb
  | error e =>
    rw [hseen] at hdb
    exact Act.database_run_error hdb

/-- Reading a key the context does not track gives the row its transaction sees there. -/
theorem readEntity_untracked (hs : Database.Serial s.world.db) (h : Hooks σ) {c : Nat} {k : Key}
    (hk : (s.world.context c).tracker.find? k = none) :
    match s.world.db.seen (s.world.context c).txn with
    | .ok ts => ∃ s', (readEntity h c k).run s = .ok ((ts.get? k).map (·.value)) s'
    | .error e => (readEntity h c k).run s = .error e s := by
  have hv := view_run hs c
  cases hseen : s.world.db.seen (s.world.context c).txn with
  | error e =>
    rw [hseen] at hv
    exact Act.bind_run_error hv
  | ok ts =>
    rw [hseen] at hv
    rw [readEntity, Act.bind_run_ok hv]
    dsimp only
    rw [Act.world_bind_run]
    rw [hk]
    cases hrow : ts.get? k with
    | none => exact ⟨s, rfl⟩
    | some row =>
      dsimp only
      have htrack : ∃ s₁, (onTracker c fun t =>
          (t.trackLoaded k row.value row.version).map (·, ())).run s = .ok () s₁ :=
        onTracker_run_ok (by rw [Tracker.trackLoaded_of_find?_none hk]; rfl)
      obtain ⟨s₁, h₁⟩ := htrack
      obtain ⟨s₂, h₂⟩ := notifyEach_run_ok h c [.entityTracked true] s₁
      exact ⟨s₂, by rw [Act.bind_run_ok h₁, Act.bind_run_ok h₂]; rfl⟩

end Context

namespace Database

/-- The in-memory database commits serially. From a new database, after any sequence of
operations: the committed tables are the replay, from empty tables, of what the operations
installed (the seeded inserts and the whole logs of the commits that applied, in order);
an active transaction's log is exactly what its writes recorded, and committing it is
atomic; a transaction reads the committed tables with exactly its own writes on top; and
so does a context, through its transaction, for the keys it does not track. -/
theorem serial_commit_semantics (b : Bool) (acts : List Action) :
    let db := runAll acts { interceptable := b }
    Change.replay (installedAll acts { interceptable := b }) [] = .ok db.tables ∧
    (∀ id t, db.txns.find? id = some t →
      t.log = TxnEvent.written id db.history ∧ AtomicCommit db id) ∧
    (∀ txn, ((view txn).run).run db = (db.seen txn, db)) ∧
    (∀ {σ : Type} (s : Sys σ) (h : Hooks σ) (c : Nat) (k : Key), s.world.db = db →
      (Context.view c).run s = (match db.seen (s.world.context c).txn with
        | .ok ts => .ok ts s
        | .error e => .error e s) ∧
      ((s.world.context c).tracker.find? k = none →
        match db.seen (s.world.context c).txn with
        | .ok ts => ∃ s', (Context.readEntity h c k).run s = .ok ((ts.get? k).map (·.value)) s'
        | .error e => (Context.readEntity h c k).run s = .error e s)) := by
  intro db
  obtain ⟨hs, happ⟩ := runAll_serial (Serial.new b) acts
  refine ⟨?_, fun id t ht => ⟨hs.logs id t ht, commit_atomic hs.wf ht⟩, view_seen hs, ?_⟩
  · rw [← hs.replay, happ]
    rfl
  · intro σ s h c k hdb
    have hs' : Serial s.world.db := hdb ▸ hs
    rw [← hdb]
    exact ⟨Context.view_run hs' c, Context.readEntity_untracked hs' h⟩

end Database

end ScopedWork
