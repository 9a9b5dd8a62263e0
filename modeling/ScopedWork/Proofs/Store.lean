import ScopedWork.Store.Database

/-!
# The store, operation by operation

What each operation of the store does to the state, stated once so that later proofs never
unfold it. Change logs compose: applying two logs one after the other is applying their
concatenation. The transaction manager is a map from ids to transactions: `put`, `drop` and
`begin` act on its lookup `find?` as a map update would, provided the manager is well
formed (every kept transaction is active, kept under its own id, below the next id, and
kept once). The database's operations are then specified case by case: a failed `begin`
uses up one injected fault and changes nothing else, a failed `write` changes nothing, a
`commit` either installs exactly what the transaction's view shows or leaves the committed
tables as they were, and every step keeps the manager well formed.
-/

namespace ScopedWork

namespace Change

/-- Replay logs on tables, in order, each as a whole. -/
def replay : List (List Change) → Tables → Except Fault Tables
  | [], ts => .ok ts
  | log :: logs, ts => do
    let (ts, _) ← applyAll log ts
    replay logs ts

theorem applyAll_append (cs ds : List Change) (ts : Tables) :
    applyAll (cs ++ ds) ts = (do
      let (ts₁, n) ← applyAll cs ts
      let (ts₂, m) ← applyAll ds ts₁
      return (ts₂, n + m)) := by
  induction cs generalizing ts with
  | nil =>
    simp only [List.nil_append, applyAll]
    show _ = (applyAll ds ts >>= fun (p : Tables × Nat) => pure (p.1, 0 + p.2))
    simp
  | cons c cs ih =>
    simp only [List.cons_append, applyAll, ih]
    cases c.apply ts with
    | error e => rfl
    | ok p =>
      show (applyAll cs p.1 >>= _) >>= _ = (applyAll cs p.1 >>= _) >>= _
      cases applyAll cs p.1 with
      | error e => rfl
      | ok q =>
        show (applyAll ds q.1 >>= _) >>= _ = applyAll ds q.1 >>= _
        cases applyAll ds q.1 with
        | error e => rfl
        | ok r => simp only [bind, Except.bind, pure, Except.pure, Nat.add_assoc]

theorem replay_append_single (logs : List (List Change)) (log : List Change) (ts : Tables) :
    replay (logs ++ [log]) ts = (do
      let ts₁ ← replay logs ts
      let (ts₂, _) ← applyAll log ts₁
      return ts₂) := by
  induction logs generalizing ts with
  | nil =>
    show (applyAll log ts >>= _) = (applyAll log ts >>= _)
    cases applyAll log ts <;> rfl
  | cons l logs ih =>
    show (applyAll l ts >>= _) = (applyAll l ts >>= _) >>= _
    cases applyAll l ts with
    | error e => rfl
    | ok p => exact ih p.1

end Change

namespace TxnManager

/-- Every kept transaction is active and kept under its own id, below the next id, and no
id is kept twice. -/
structure Wf (m : TxnManager) : Prop where
  entries : ∀ p ∈ m.live, p.2.id = p.1 ∧ p.2.state = .active ∧ p.1 < m.next
  unique : (m.live.map (·.1)).Nodup

variable {m : TxnManager}

theorem find?_eq_some_iff {id : Nat} {t : Transaction} :
    m.find? id = some t ↔ ∃ p, m.live.find? (·.1 == id) = some p ∧ p.2 = t := by
  simp [find?]

theorem Wf.find?_some (h : m.Wf) {id : Nat} {t : Transaction} (ht : m.find? id = some t) :
    t.id = id ∧ t.state = .active ∧ id < m.next := by
  obtain ⟨p, hp, rfl⟩ := find?_eq_some_iff.mp ht
  have hkey : p.1 = id := by simpa using List.find?_some hp
  have := h.entries p (List.mem_of_find?_eq_some hp)
  exact ⟨this.1.trans hkey, this.2.1, hkey ▸ this.2.2⟩

private theorem find?_of_nodup {live : List (Nat × Transaction)} {p : Nat × Transaction}
    (hu : (live.map (·.1)).Nodup) (hp : p ∈ live) :
    (live.find? (·.1 == p.1)).map (·.2) = some p.2 := by
  induction live with
  | nil => cases hp
  | cons q qs ih =>
    rw [List.map_cons, List.nodup_cons] at hu
    rcases List.mem_cons.mp hp with rfl | hq
    · simp
    · have hne : q.1 ≠ p.1 := fun heq => hu.1 (heq ▸ List.mem_map_of_mem hq)
      simp [hne, ih hu.2 hq]

theorem Wf.find?_of_mem (h : m.Wf) {p : Nat × Transaction} (hp : p ∈ m.live) :
    m.find? p.1 = some p.2 :=
  find?_of_nodup h.unique hp

private theorem find?_map_put (live : List (Nat × Transaction)) (t : Transaction) (j : Nat) :
    ((live.map fun p => if p.1 == t.id then (p.1, t) else p).find? (·.1 == j)).map (·.2) =
      if j = t.id then ((live.find? (·.1 == j)).map (·.2)).map (fun _ => t)
      else (live.find? (·.1 == j)).map (·.2) := by
  induction live with
  | nil => simp
  | cons q qs ih =>
    rw [List.map_cons, List.find?_cons, List.find?_cons]
    by_cases hq : q.1 = j
    · subst hq
      by_cases ht : q.1 = t.id <;> simp [ht]
    · have hb : (q.1 == j) = false := by simp [hq]
      have hb' : ((if q.1 == t.id then (q.1, t) else q).1 == j) = false := by
        split <;> exact hb
      rw [hb', hb]
      exact ih

@[simp] theorem find?_put (t : Transaction) (j : Nat) :
    (m.put t).find? j = if j = t.id then (m.find? j).map (fun _ => t) else m.find? j :=
  find?_map_put m.live t j

@[simp] theorem find?_drop (id j : Nat) :
    (m.drop id).find? j = if j = id then none else m.find? j := by
  simp only [drop, find?, List.find?_filter]
  by_cases hj : j = id
  · subst hj
    simp
  · simp only [hj, ite_false]
    congr 2
    funext p
    by_cases hp : p.1 = j
    · simp [hp, hj]
    · simp [hp]

theorem Wf.find?_next_eq_none (h : m.Wf) : m.find? m.next = none := by
  cases hf : m.find? m.next with
  | none => rfl
  | some t => exact absurd (h.find?_some hf).2.2 (Nat.lt_irrefl _)

theorem find?_begin (h : m.Wf) (iso : Option Isolation) (j : Nat) :
    (m.begin iso).1.find? j =
      if j = m.next then some { id := m.next, isolation := iso } else m.find? j := by
  have hnone := h.find?_next_eq_none
  simp only [find?, TxnManager.begin, List.find?_append] at hnone ⊢
  by_cases hj : j = m.next
  · subst hj
    rw [Option.map_eq_none_iff] at hnone
    simp [hnone]
  · simp [hj, Ne.symm hj]

theorem Wf.begin (h : m.Wf) (iso : Option Isolation) : (m.begin iso).1.Wf where
  entries p hp := by
    simp only [TxnManager.begin, List.mem_append, List.mem_singleton] at hp
    rcases hp with hp | rfl
    · have := h.entries p hp
      exact ⟨this.1, this.2.1, Nat.lt_succ_of_lt this.2.2⟩
    · exact ⟨rfl, rfl, Nat.lt_succ_self _⟩
  unique := by
    simp only [TxnManager.begin, List.map_append, List.map_cons, List.map_nil]
    refine List.nodup_append.mpr ⟨h.unique, List.pairwise_singleton _ _, ?_⟩
    intro a ha b hb
    simp only [List.mem_singleton] at hb
    obtain ⟨p, hp, rfl⟩ := List.mem_map.mp ha
    have := (h.entries p hp).2.2
    omega

theorem Wf.put (h : m.Wf) {t : Transaction} (hactive : t.state = .active) :
    (m.put t).Wf where
  entries p hp := by
    simp only [TxnManager.put, List.mem_map] at hp
    obtain ⟨q, hq, rfl⟩ := hp
    have := h.entries q hq
    by_cases hk : q.1 = t.id
    · rw [if_pos (by simp [hk])]
      exact ⟨hk.symm, hactive, this.2.2⟩
    · rw [if_neg (by simp [hk])]
      exact this
  unique := by
    have hkeys : (m.put t).live.map (·.1) = m.live.map (·.1) := by
      simp only [TxnManager.put, List.map_map]
      congr 1
      funext p
      simp only [Function.comp_apply]
      split <;> rfl
    rw [hkeys]
    exact h.unique

theorem Wf.drop (h : m.Wf) (id : Nat) : (m.drop id).Wf where
  entries p hp := h.entries p (List.mem_filter.mp hp).1
  unique := List.Nodup.sublist (List.Sublist.map _ List.filter_sublist) h.unique

theorem get_of_find? {id : Nat} {t : Transaction} (ht : m.find? id = some t) : m.get id = .ok t := by
  simp [get, ht]

theorem get_of_find?_none {id : Nat} (ht : m.find? id = none) :
    m.get id = .error (notFound id) := by
  simp [get, ht]

theorem put_put (t₁ t₂ : Transaction) (hid : t₁.id = t₂.id) : (m.put t₁).put t₂ = m.put t₂ := by
  simp only [TxnManager.put, List.map_map]
  congr 2
  funext p
  simp only [Function.comp_apply]
  by_cases hk : p.1 = t₂.id
  · simp [hk, hid]
  · simp [hk, hid]

theorem Wf.put_self (h : m.Wf) {t : Transaction} (ht : m.find? t.id = some t) : m.put t = m := by
  obtain ⟨live, next⟩ := m
  simp only [TxnManager.put, TxnManager.mk.injEq, and_true]
  conv => rhs; rw [← List.map_id live]
  refine List.map_congr_left fun p hp => ?_
  by_cases hk : p.1 = t.id
  · have hp' := h.find?_of_mem hp
    rw [hk, ht, Option.some.injEq] at hp'
    simp only [hk, beq_self_eq_true, ite_true, id]
    rw [hp']
    exact Prod.ext (h.entries p hp).1 rfl
  · simp [hk]

theorem record_of_find? (h : m.Wf) {id : Nat} {t : Transaction} (ht : m.find? id = some t)
    (c : Change) : m.record id c = .ok (m.put { t with log := t.log ++ [c] }) := by
  have hactive := (h.find?_some ht).2.1
  simp only [TxnManager.record, get_of_find? ht]
  show (m.put <$> t.record c) = _
  rw [Transaction.record, if_pos (by simp [TxnState.isActive, hactive])]
  rfl

/-- Recording changes one after another appends them to the transaction's log. -/
theorem foldlM_record {id : Nat} :
    ∀ (cs : List Change) (m : TxnManager) (t : Transaction), m.Wf → m.find? id = some t →
      cs.foldlM (fun m c => m.record id c) m = .ok (m.put { t with log := t.log ++ cs })
  | [], m, t, h, ht => by
    have hid := (h.find?_some ht).1
    have hput : m.put t = m := h.put_self (by rw [hid]; exact ht)
    rw [List.append_nil]
    exact congrArg Except.ok hput.symm
  | c :: cs, m, t, h, ht => by
    have ⟨hid, hactive, _⟩ := h.find?_some ht
    have h₁ : (m.put { t with log := t.log ++ [c] }).Wf := h.put hactive
    have ht₁ : (m.put { t with log := t.log ++ [c] }).find? id =
        some { t with log := t.log ++ [c] } := by
      simp [hid, ht]
    rw [List.foldlM_cons, record_of_find? h ht c]
    show cs.foldlM _ _ = _
    rw [foldlM_record cs _ _ h₁ ht₁, put_put]
    · simp [List.append_assoc]
    · rfl

theorem changes_of_find? {id : Nat} {t : Transaction} (ht : m.find? id = some t) :
    m.changes id = .ok t.log := by
  simp [changes, get_of_find? ht]
  rfl

theorem changes_of_find?_none {id : Nat} (ht : m.find? id = none) :
    m.changes id = .error (notFound id) := by
  simp [changes, get_of_find?_none ht]
  rfl

theorem commit_of_find? (h : m.Wf) {id : Nat} {t : Transaction} (ht : m.find? id = some t) :
    m.commit id = .ok (m.drop id, { t with state := .committed }) := by
  have hactive := (h.find?_some ht).2.1
  simp only [TxnManager.commit, get_of_find? ht]
  show ((fun t => (m.drop id, t)) <$> t.commit) = _
  rw [Transaction.commit, if_pos (by simp [TxnState.isActive, hactive])]
  rfl

theorem rollback_of_find? (h : m.Wf) {id : Nat} {t : Transaction} (ht : m.find? id = some t) :
    m.rollback id = .ok (m.drop id, { t with state := .aborted, log := [] }) := by
  have hactive := (h.find?_some ht).2.1
  simp only [TxnManager.rollback, get_of_find? ht]
  show ((fun t => (m.drop id, t)) <$> t.rollback) = _
  rw [Transaction.rollback, if_pos (by simp [TxnState.isActive, hactive])]
  rfl

theorem commit_of_find?_none {id : Nat} (ht : m.find? id = none) :
    m.commit id = .error (notFound id) := by
  simp [TxnManager.commit, get_of_find?_none ht]
  rfl

theorem rollback_of_find?_none {id : Nat} (ht : m.find? id = none) :
    m.rollback id = .error (notFound id) := by
  simp [TxnManager.rollback, get_of_find?_none ht]
  rfl

end TxnManager

namespace Database

variable {α β : Type}

/-! ### Running a step -/

theorem get_bind_run (f : Database → Step α) (db : Database) :
    ((get >>= f : Step α).run).run db = ((f db).run).run db := rfl

theorem set_bind_run (db' : Database) (f : PUnit → Step α) (db : Database) :
    ((set db' >>= f : Step α).run).run db = ((f ()).run).run db' := rfl

theorem set_run (db' db : Database) : ((set db' : Step PUnit).run).run db = (.ok (), db') := rfl

theorem throw_run (e : Fault) (db : Database) : ((throw e : Step α).run).run db = (.error e, db) :=
  rfl

theorem lift_ok_bind_run (a : α) (f : α → Step β) (db : Database) :
    ((lift (.ok a) >>= f : Step β).run).run db = ((f a).run).run db := rfl

theorem lift_error_bind_run (e : Fault) (f : α → Step β) (db : Database) :
    ((lift (.error e) >>= f : Step β).run).run db = (.error e, db) := rfl

theorem bind_run_ok {x : Step α} {f : α → Step β} {db db' : Database} {a : α}
    (h : (x.run).run db = (.ok a, db')) : ((x >>= f).run).run db = ((f a).run).run db' := by
  simp only [ExceptT.run_bind, StateT.run_bind, h]
  rfl

theorem bind_run_error {x : Step α} {f : α → Step β} {db db' : Database} {e : Fault}
    (h : (x.run).run db = (.error e, db')) : ((x >>= f).run).run db = (.error e, db') := by
  simp only [ExceptT.run_bind, StateT.run_bind, h]
  rfl

theorem lift_run (x : Except Fault α) (db : Database) : ((lift x).run).run db = (x, db) := by
  cases x <;> rfl

/-! ### What each operation does -/

theorem begin_run_fault (iso : Option Isolation) (db : Database) (h : 0 < db.transientFaults) :
    ((begin iso).run).run db =
      (.error (.transient "The connection was reset while starting a transaction"),
        { db with transientFaults := db.transientFaults - 1 }) := by
  rw [begin, get_bind_run, if_pos h]
  rfl

theorem begin_run (iso : Option Isolation) (db : Database) (h : db.transientFaults = 0) :
    ((begin iso).run).run db =
      (.ok db.txns.next,
        { db with txns := (db.txns.begin iso).1, started := db.started + 1,
                  history := db.history ++ [.began db.txns.next] }) := by
  rw [begin, get_bind_run, if_neg (by omega)]
  rfl

theorem view_some_run {db : Database} {id : Nat} {t : Transaction}
    (ht : db.txns.find? id = some t) :
    ((view (some id)).run).run db = ((Change.applyAll t.log db.tables).map (·.1), db) := by
  rw [view, get_bind_run]
  show ((lift (db.txns.changes id) >>= _ : Step Tables).run).run db = _
  rw [TxnManager.changes_of_find? ht, lift_ok_bind_run]
  cases Change.applyAll t.log db.tables <;> rfl

theorem view_some_run_none {db : Database} {id : Nat} (ht : db.txns.find? id = none) :
    ((view (some id)).run).run db = (.error (TxnManager.notFound id), db) := by
  rw [view, get_bind_run]
  show ((lift (db.txns.changes id) >>= _ : Step Tables).run).run db = _
  rw [TxnManager.changes_of_find?_none ht, lift_error_bind_run]

/-- Reading never changes the database. -/
theorem view_run_state (txn : Option Nat) (db : Database) : (((view txn).run).run db).2 = db := by
  cases txn with
  | none => rfl
  | some id =>
    cases ht : db.txns.find? id with
    | none => rw [view_some_run_none ht]
    | some t => rw [view_some_run ht]

section Operations

variable {db : Database} {id : Nat} {t : Transaction}

theorem write_run_ok {cs : List Change} {v v' : Tables} {n₀ n : Nat} (hwf : db.txns.Wf)
    (ht : db.txns.find? id = some t) (hview : Change.applyAll t.log db.tables = .ok (v, n₀))
    (happly : Change.applyAll cs v = .ok (v', n)) :
    ((write id cs).run).run db =
      (.ok n, { db with txns := db.txns.put { t with log := t.log ++ cs },
                        history := db.history ++ [.wrote id cs] }) := by
  have hv : ((view (some id)).run).run db = (.ok v, db) := by rw [view_some_run ht, hview]; rfl
  rw [write, bind_run_ok hv]
  show ((lift (Change.applyAll cs v) >>= _ : Step Nat).run).run db = _
  rw [happly, lift_ok_bind_run, get_bind_run]
  show ((lift (cs.foldlM _ db.txns) >>= _ : Step Nat).run).run db = _
  rw [TxnManager.foldlM_record cs db.txns t hwf ht, lift_ok_bind_run, set_bind_run]
  rfl

/-- A write either changes nothing and fails, or records its changes in the transaction's
log, after checking that they apply to the transaction's view. -/
theorem write_run_cases (hwf : db.txns.Wf) (cs : List Change) :
    (∃ e, ((write id cs).run).run db = (.error e, db)) ∨
    ∃ t v n₀ v' n, db.txns.find? id = some t ∧ Change.applyAll t.log db.tables = .ok (v, n₀) ∧
      Change.applyAll cs v = .ok (v', n) ∧
      ((write id cs).run).run db =
        (.ok n, { db with txns := db.txns.put { t with log := t.log ++ cs },
                          history := db.history ++ [.wrote id cs] }) := by
  cases ht : db.txns.find? id with
  | none =>
    left
    exact ⟨_, by rw [write, bind_run_error (view_some_run_none ht)]⟩
  | some t =>
    cases hview : Change.applyAll t.log db.tables with
    | error e =>
      left
      have hv : ((view (some id)).run).run db = (.error e, db) := by
        rw [view_some_run ht, hview]; rfl
      exact ⟨e, by rw [write, bind_run_error hv]⟩
    | ok p =>
      obtain ⟨v, n₀⟩ := p
      cases happly : Change.applyAll cs v with
      | error e =>
        left
        have hv : ((view (some id)).run).run db = (.ok v, db) := by
          rw [view_some_run ht, hview]; rfl
        refine ⟨e, ?_⟩
        rw [write, bind_run_ok hv]
        show ((lift (Change.applyAll cs v) >>= _ : Step Nat).run).run db = _
        rw [happly, lift_error_bind_run]
      | ok q =>
        right
        exact ⟨t, v, n₀, q.1, q.2, rfl, hview, happly, write_run_ok hwf ht hview happly⟩

theorem rollback_run (hwf : db.txns.Wf) (ht : db.txns.find? id = some t) :
    ((rollback id).run).run db =
      (.ok (), { db with txns := db.txns.drop id, history := db.history ++ [.rolledBack id] }) := by
  rw [rollback, get_bind_run]
  show ((lift (db.txns.rollback id) >>= _ : Step Unit).run).run db = _
  rw [TxnManager.rollback_of_find? hwf ht, lift_ok_bind_run]
  rfl

theorem rollback_run_none (ht : db.txns.find? id = none) :
    ((rollback id).run).run db = (.error (TxnManager.notFound id), db) := by
  rw [rollback, get_bind_run]
  show ((lift (db.txns.rollback id) >>= _ : Step Unit).run).run db = _
  rw [TxnManager.rollback_of_find?_none ht, lift_error_bind_run]

theorem seed_run_ok {table : String} {i : Int} {v : Value} {ts : Tables} {n : Nat}
    (h : (Change.insert table i v).apply db.tables = .ok (ts, n)) :
    ((seed table i v).run).run db =
      (.ok (), { db with tables := ts, applied := db.applied ++ [[.insert table i v]] }) := by
  rw [seed, get_bind_run]
  show ((lift ((Change.insert table i v).apply db.tables) >>= _ : Step Unit).run).run db = _
  rw [h, lift_ok_bind_run]
  rfl

theorem seed_run_error {table : String} {i : Int} {v : Value} {e : Fault}
    (h : (Change.insert table i v).apply db.tables = .error e) :
    ((seed table i v).run).run db = (.error e, db) := by
  rw [seed, get_bind_run]
  show ((lift ((Change.insert table i v).apply db.tables) >>= _ : Step Unit).run).run db = _
  rw [h, lift_error_bind_run]

end Operations

section Commit

variable {db : Database} {id : Nat} {t : Transaction}

theorem commit_run_before (hwf : db.txns.Wf) (hf : db.commitFault = some .beforeApply)
    (ht : db.txns.find? id = some t) :
    ((commit id).run).run db =
      (.error (.transient "The connection was lost before the commit completed"),
        { db with commitFault := none, txns := db.txns.drop id,
                  history := db.history ++ [.rolledBack id] }) := by
  rw [commit, get_bind_run, set_bind_run, hf]
  simp only [beq_self_eq_true, if_true]
  rw [bind_run_ok (@rollback_run { db with commitFault := none } id t hwf ht)]
  rfl

theorem commit_run_before_none (hf : db.commitFault = some .beforeApply)
    (ht : db.txns.find? id = none) :
    ((commit id).run).run db =
      (.error (TxnManager.notFound id), { db with commitFault := none }) := by
  rw [commit, get_bind_run, set_bind_run, hf]
  simp only [beq_self_eq_true, if_true]
  rw [bind_run_error (@rollback_run_none { db with commitFault := none } id ht)]

theorem commit_run_none (hf : db.commitFault ≠ some .beforeApply)
    (ht : db.txns.find? id = none) :
    ((commit id).run).run db =
      (.error (TxnManager.notFound id), { db with commitFault := none }) := by
  rw [commit, get_bind_run, set_bind_run]
  simp only [show (db.commitFault == some .beforeApply) = false by simpa using hf,
    Bool.false_eq_true, if_false]
  rw [get_bind_run]
  show ((lift (db.txns.changes id) >>= _ : Step Unit).run).run _ = _
  rw [TxnManager.changes_of_find?_none ht, lift_error_bind_run]

theorem commit_run_conflict {e : Fault} (hwf : db.txns.Wf)
    (hf : db.commitFault ≠ some .beforeApply) (ht : db.txns.find? id = some t)
    (happly : Change.applyAll t.log db.tables = .error e) :
    ((commit id).run).run db =
      (.error e, { db with commitFault := none, txns := db.txns.drop id,
                           history := db.history ++ [.rolledBack id] }) := by
  rw [commit, get_bind_run, set_bind_run]
  simp only [show (db.commitFault == some .beforeApply) = false by simpa using hf,
    Bool.false_eq_true, if_false]
  rw [get_bind_run]
  show ((lift (db.txns.changes id) >>= _ : Step Unit).run).run _ = _
  rw [TxnManager.changes_of_find? ht, lift_ok_bind_run]
  simp only [happly]
  rw [bind_run_ok (@rollback_run { db with commitFault := none } id t hwf ht)]
  rfl

theorem commit_run_apply {staged : Tables} {n : Nat} (hwf : db.txns.Wf)
    (hf : db.commitFault ≠ some .beforeApply) (ht : db.txns.find? id = some t)
    (happly : Change.applyAll t.log db.tables = .ok (staged, n)) :
    ((commit id).run).run db =
      (if db.commitFault = some .afterApply then
          .error (.transient "The connection was lost while the commit was acknowledged")
        else .ok (),
        { db with commitFault := none, txns := db.txns.drop id, tables := staged,
                  applied := db.applied ++ [t.log], history := db.history ++ [.committed id] }) := by
  rw [commit, get_bind_run, set_bind_run]
  simp only [show (db.commitFault == some .beforeApply) = false by simpa using hf,
    Bool.false_eq_true, if_false]
  rw [get_bind_run]
  show ((lift (db.txns.changes id) >>= _ : Step Unit).run).run _ = _
  rw [TxnManager.changes_of_find? ht, lift_ok_bind_run]
  simp only [happly]
  show ((lift (db.txns.commit id) >>= _ : Step Unit).run).run _ = _
  rw [TxnManager.commit_of_find? hwf ht, lift_ok_bind_run, set_bind_run]
  by_cases ha : db.commitFault = some .afterApply
  · simp only [ha, beq_self_eq_true, if_true]
    rfl
  · simp only [show (db.commitFault == some .afterApply) = false by simpa using ha,
      Bool.false_eq_true, if_false, ha]
    rfl

end Commit

end Database

end ScopedWork
