import ScopedWork.Proofs.Serial

/-!
# Row versions and stale writes

Optimistic concurrency rests on row versions. An insert creates a row at version 1, an
update of a present row raises its version by one, a delete removes the row, and an update
or delete that checks a version fails unless the row is there at that version. So as long
as nobody deletes a row, its version counts the updates of it that were committed, and a
write that checks the version its transaction loaded commits only if no other transaction
committed a write to the row in between.

A delete breaks the count: inserting the key again starts over at version 1, and a stale
write that checks version 1 then passes. The last part of this module runs two contexts
into exactly that.
-/

namespace ScopedWork

namespace Tables

/-- The version of the row under a key, if there is one. -/
def version? (ts : Tables) (k : Key) : Option Nat := (ts.get? k).map (·.version)

end Tables

namespace Change

/-- Whether a change writes the row under a key. -/
def writes (k : Key) (c : Change) : Bool := c.key == k

/-- Whether a change updates the row under a key. -/
def isUpdateOf (k : Key) : Change → Bool
  | update t i _ _ => (t, i) == k
  | _ => false

/-- Whether a change deletes the row under a key. -/
def isDeleteOf (k : Key) : Change → Bool
  | delete t i _ => (t, i) == k
  | _ => false

/-- The version an update or a delete checks, if it checks one. -/
def checked : Change → Option Nat
  | update _ _ _ e => e
  | delete _ _ e => e
  | insert .. => none

/-- The version that the first change of a log to the row under a key checks. -/
def firstCheck (k : Key) (cs : List Change) : Option Nat :=
  (cs.find? (writes k)).bind checked

theorem check_eq_ok {t : String} {i : Int} {row : Row} {e : Option Nat} {u : Unit}
    (h : check t i row e = .ok u) : e = none ∨ e = some row.version := by
  cases e with
  | none => exact .inl rfl
  | some x =>
    by_cases hx : x = row.version
    · exact .inr (congrArg some hx)
    · simp [check, hx] at h

/-- What a change that applies did: an insert found its key free, an update or delete found
the row at the version it checks (or, checking none, may have found no row and done
nothing). -/
theorem apply_ok_cases {c : Change} {ts ts' : Tables} {n : Nat} (h : c.apply ts = .ok (ts', n)) :
    match c with
    | insert t i v => ts.get? (t, i) = none ∧ ts' = ts.set (t, i) ⟨v, 1⟩
    | update t i v e =>
      (ts.get? (t, i) = none ∧ e = none ∧ ts' = ts) ∨
      ∃ row, ts.get? (t, i) = some row ∧ (e = none ∨ e = some row.version) ∧
        ts' = ts.set (t, i) ⟨v, row.version + 1⟩
    | delete t i e =>
      (ts.get? (t, i) = none ∧ e = none ∧ ts' = ts) ∨
      ∃ row, ts.get? (t, i) = some row ∧ (e = none ∨ e = some row.version) ∧
        ts' = ts.erase (t, i) := by
  cases c with
  | insert t i v =>
    cases hg : ts.get? (t, i) with
    | none =>
      simp only [apply, hg, Except.ok.injEq, Prod.mk.injEq] at h
      exact ⟨hg, h.1.symm⟩
    | some row => simp [apply, hg] at h
  | update t i v e =>
    cases hg : ts.get? (t, i) with
    | none =>
      cases e with
      | none =>
        simp only [apply, hg, Option.isSome_none, Bool.false_eq_true, if_false,
          Except.ok.injEq, Prod.mk.injEq] at h
        exact .inl ⟨hg, rfl, h.1.symm⟩
      | some x => simp [apply, hg] at h
    | some row =>
      simp only [apply, hg] at h
      cases hc : check t i row e with
      | error f => rw [hc] at h; cases h
      | ok u =>
        simp only [hc] at h
        injection h with h
        exact .inr ⟨row, hg, check_eq_ok hc, (Prod.mk.inj h).1.symm⟩
  | delete t i e =>
    cases hg : ts.get? (t, i) with
    | none =>
      cases e with
      | none =>
        simp only [apply, hg, Option.isSome_none, Bool.false_eq_true, if_false,
          Except.ok.injEq, Prod.mk.injEq] at h
        exact .inl ⟨hg, rfl, h.1.symm⟩
      | some x => simp [apply, hg] at h
    | some row =>
      simp only [apply, hg] at h
      cases hc : check t i row e with
      | error f => rw [hc] at h; cases h
      | ok u =>
        simp only [hc] at h
        injection h with h
        exact .inr ⟨row, hg, check_eq_ok hc, (Prod.mk.inj h).1.symm⟩

/-- A change leaves the rows under other keys as they were. -/
theorem apply_get?_of_ne {c : Change} {ts ts' : Tables} {n : Nat} {k : Key} (hk : c.key ≠ k)
    (h : c.apply ts = .ok (ts', n)) : ts'.get? k = ts.get? k := by
  have hc := apply_ok_cases h
  cases c with
  | insert t i v =>
    have hk' : k ≠ (t, i) := Ne.symm hk
    rw [hc.2, Tables.get?_set, if_neg hk']
  | update t i v e =>
    have hk' : k ≠ (t, i) := Ne.symm hk
    rcases hc with ⟨-, -, rfl⟩ | ⟨row, -, -, rfl⟩
    · rfl
    · rw [Tables.get?_set, if_neg hk']
  | delete t i e =>
    have hk' : k ≠ (t, i) := Ne.symm hk
    rcases hc with ⟨-, -, rfl⟩ | ⟨row, -, -, rfl⟩
    · rfl
    · rw [Tables.get?_erase, if_neg hk']

/-- On a present row that it does not delete, a change that applies is an update if it
writes the row at all, and it raises the row's version by one exactly when it updates it. -/
theorem apply_version {c : Change} {ts ts' : Tables} {n : Nat} {k : Key} {v : Nat}
    (hv : ts.version? k = some v) (hdel : c.isDeleteOf k = false) (h : c.apply ts = .ok (ts', n)) :
    ts'.version? k = some (v + if c.isUpdateOf k then 1 else 0) ∧
      (c.writes k = true → c.isUpdateOf k = true) := by
  by_cases hk : c.key = k
  · have hc := apply_ok_cases h
    cases c with
    | insert t i w =>
      have hfree : ts.get? k = none := hk ▸ hc.1
      simp [Tables.version?, hfree] at hv
    | update t i w e =>
      simp only [key] at hk
      subst hk
      rcases hc with ⟨hnone, -, -⟩ | ⟨row, hrow, -, rfl⟩
      · simp [Tables.version?, hnone] at hv
      · have hrv : row.version = v := by simpa [Tables.version?, hrow] using hv
        simp [Tables.version?, isUpdateOf, hrv]
    | delete t i e =>
      simp only [key] at hk
      simp [isDeleteOf, hk] at hdel
  · have hwrite : c.writes k = false := by simp [writes, hk]
    have hupd : c.isUpdateOf k = false := by
      cases c <;> simp_all [isUpdateOf, key]
    rw [hupd, hwrite]
    refine ⟨?_, fun h => absurd h Bool.false_ne_true⟩
    rw [if_neg Bool.false_ne_true, Nat.add_zero, Tables.version?, apply_get?_of_ne hk h]
    exact hv

theorem applyAll_cons_ok {c : Change} {cs : List Change} {ts ts' : Tables} {n : Nat}
    (h : applyAll (c :: cs) ts = .ok (ts', n)) :
    ∃ ts₁ n₁ m, c.apply ts = .ok (ts₁, n₁) ∧ applyAll cs ts₁ = .ok (ts', m) := by
  simp only [applyAll] at h
  cases h₁ : c.apply ts with
  | error e => rw [h₁] at h; cases h
  | ok p =>
    rw [h₁] at h
    cases h₂ : applyAll cs p.1 with
    | error e => simp [bind, Except.bind, h₂] at h
    | ok q =>
      simp only [bind, Except.bind, h₂, pure, Except.pure, Except.ok.injEq] at h
      exact ⟨p.1, p.2, q.2, rfl, by rw [h₂, ← (Prod.mk.inj h).1]⟩

theorem replay_cons_ok {log : List Change} {logs : List (List Change)} {ts ts' : Tables}
    (h : replay (log :: logs) ts = .ok ts') :
    ∃ ts₁ n, applyAll log ts = .ok (ts₁, n) ∧ replay logs ts₁ = .ok ts' := by
  simp only [replay] at h
  cases h₁ : applyAll log ts with
  | error e => rw [h₁] at h; cases h
  | ok p => exact ⟨p.1, p.2, rfl, by rw [h₁] at h; exact h⟩

section Counting

variable {k : Key}

/-- Over a log that applies and deletes no present row under `k`, the row stays, its version
grows by the number of updates of it, and every change to it is an update. -/
theorem applyAll_version {cs : List Change} {ts ts' : Tables} {n v : Nat}
    (hv : ts.version? k = some v) (hdel : ∀ c ∈ cs, c.isDeleteOf k = false)
    (h : applyAll cs ts = .ok (ts', n)) :
    ts'.version? k = some (v + cs.countP (isUpdateOf k)) ∧
      ∀ c ∈ cs, c.writes k = true → c.isUpdateOf k = true := by
  induction cs generalizing ts n v with
  | nil =>
    simp only [applyAll, Except.ok.injEq, Prod.mk.injEq] at h
    rw [← h.1]
    exact ⟨hv, fun _ hc => by cases hc⟩
  | cons c cs ih =>
    obtain ⟨ts₁, n₁, m, h₁, h₂⟩ := applyAll_cons_ok h
    obtain ⟨hv₁, hc⟩ := apply_version hv (hdel c (List.mem_cons_self ..)) h₁
    obtain ⟨hv₂, hcs⟩ := ih hv₁ (fun d hd => hdel d (List.mem_cons_of_mem _ hd)) h₂
    refine ⟨?_, ?_⟩
    · rw [hv₂, List.countP_cons]
      congr 1
      omega
    · intro d hd
      rcases List.mem_cons.mp hd with rfl | hd
      · exact hc
      · exact hcs d hd

/-- Replayed logs that delete no present row under `k` leave it present, its version grown by
the number of updates of it, and change it only by updates. -/
theorem replay_version {logs : List (List Change)} {ts ts' : Tables} {v : Nat}
    (hv : ts.version? k = some v) (hdel : ∀ log ∈ logs, ∀ c ∈ log, c.isDeleteOf k = false)
    (h : replay logs ts = .ok ts') :
    ts'.version? k = some (v + logs.flatten.countP (isUpdateOf k)) ∧
      ∀ log ∈ logs, ∀ c ∈ log, c.writes k = true → c.isUpdateOf k = true := by
  induction logs generalizing ts v with
  | nil =>
    cases h
    exact ⟨hv, fun _ hlog => nomatch hlog⟩
  | cons log logs ih =>
    obtain ⟨ts₁, n, h₁, h₂⟩ := replay_cons_ok h
    obtain ⟨hv₁, hc⟩ := applyAll_version hv (hdel log (List.mem_cons_self ..)) h₁
    obtain ⟨hv₂, hcs⟩ := ih hv₁ (fun l hl => hdel l (List.mem_cons_of_mem _ hl)) h₂
    refine ⟨?_, ?_⟩
    · rw [hv₂, List.flatten_cons, List.countP_append]
      congr 1
      omega
    · intro l hl
      rcases List.mem_cons.mp hl with rfl | hl
      · exact hc
      · exact hcs l hl

/-- A log that applies finds the row under `k` at the version its first change to `k`
checks. -/
theorem applyAll_firstCheck {cs : List Change} {ts : Tables} {p : Tables × Nat} {e : Nat}
    (h : applyAll cs ts = .ok p) (hfirst : firstCheck k cs = some e) : ts.version? k = some e := by
  induction cs generalizing ts p with
  | nil => cases hfirst
  | cons c cs ih =>
    obtain ⟨ts₁, n₁, m, h₁, h₂⟩ := applyAll_cons_ok h
    by_cases hw : c.writes k = true
    · -- the first change to `k` is `c`: it checks `e` on the row it finds
      have hce : c.checked = some e := by simpa [firstCheck, List.find?_cons, hw] using hfirst
      have hk : c.key = k := by simpa [writes] using hw
      have hc := apply_ok_cases h₁
      cases c with
      | insert t i w => cases hce
      | update t i w x =>
        simp only [checked] at hce
        subst hce
        rcases hc with ⟨-, hx, -⟩ | ⟨row, hrow, hx, -⟩
        · cases hx
        · have hk' : (t, i) = k := hk
          rw [← hk', Tables.version?, hrow]
          exact congrArg some (Option.some.inj (hx.resolve_left (Option.some_ne_none e))).symm
      | delete t i x =>
        simp only [checked] at hce
        subst hce
        rcases hc with ⟨-, hx, -⟩ | ⟨row, hrow, hx, -⟩
        · cases hx
        · have hk' : (t, i) = k := hk
          rw [← hk', Tables.version?, hrow]
          exact congrArg some (Option.some.inj (hx.resolve_left (Option.some_ne_none e))).symm
    · have hrest : firstCheck k cs = some e := by
        simpa [firstCheck, List.find?_cons, hw] using hfirst
      have hk : c.key ≠ k := by simpa [writes] using hw
      rw [Tables.version?, ← apply_get?_of_ne hk h₁]
      exact ih h₂ hrest

end Counting

theorem firstCheck_writes {k : Key} {cs : List Change} {v : Nat} (h : firstCheck k cs = some v) :
    ∃ c ∈ cs, c.writes k = true := by
  cases hc : cs.find? (writes k) with
  | none => simp [firstCheck, hc] at h
  | some c => exact ⟨c, List.mem_of_find?_eq_some hc, List.find?_some hc⟩

theorem replay_append (xs ys : List (List Change)) (ts : Tables) :
    replay (xs ++ ys) ts = (replay xs ts >>= replay ys) := by
  induction xs generalizing ts with
  | nil => rfl
  | cons log xs ih =>
    show (applyAll log ts >>= _) = ((applyAll log ts >>= _) >>= _)
    cases applyAll log ts with
    | error e => rfl
    | ok p => exact ih p.1

end Change

namespace Database

/-- Committing `id` applies its log: the history records the transaction as committed. -/
def commitApplies (db : Database) (id : Nat) : Prop :=
  (((commit id).run).run db).2.history = db.history ++ [.committed id]

/-- A commit applies exactly when no failure is injected before applying and the log still
applies to the committed tables. -/
theorem commitApplies_iff {db : Database} (hwf : db.txns.Wf) {id : Nat} {t : Transaction}
    (ht : db.txns.find? id = some t) :
    db.commitApplies id ↔
      db.commitFault ≠ some .beforeApply ∧ (Change.applyAll t.log db.tables).isOk := by
  by_cases hf : db.commitFault = some .beforeApply
  · rw [commitApplies, commit_run_before hwf hf ht]
    simp [hf]
  · cases happly : Change.applyAll t.log db.tables with
    | error e =>
      rw [commitApplies, commit_run_conflict hwf hf ht happly]
      simp [Except.toBool]
    | ok p =>
      rw [commitApplies, commit_run_apply hwf hf ht happly]
      simp [hf, Except.toBool]

/-- From a database that keeps the invariant, the committed tables after any operations are
the replay, on the tables before, of what the operations installed. -/
theorem replay_installedAll {db : Database} (hs : Serial db) (acts : List Action) :
    Change.replay (installedAll acts db) db.tables = .ok (runAll acts db).tables := by
  obtain ⟨hs', happ⟩ := runAll_serial hs acts
  have h := hs'.replay
  rw [happ, Change.replay_append, hs.replay] at h
  exact h

theorem runAll_append (xs ys : List Action) (db : Database) :
    runAll (xs ++ ys) db = runAll ys (runAll xs db) := by
  induction xs generalizing db with
  | nil => rfl
  | cons a xs ih => exact ih (a.run db)

theorem installedAll_append (xs ys : List Action) (db : Database) :
    installedAll (xs ++ ys) db = installedAll xs db ++ installedAll ys (runAll xs db) := by
  induction xs generalizing db with
  | nil => rfl
  | cons a xs ih =>
    rw [List.cons_append, installedAll, installedAll, ih, List.append_assoc]
    rfl

/-- A commit that applies installs the log of its transaction. -/
theorem installs_commit {db : Database} (hs : Serial db) {id : Nat} {t : Transaction}
    (ht : db.txns.find? id = some t) (happ : db.commitApplies id) :
    (Action.commit id).installs db = [t.log] := by
  obtain ⟨hf, hok⟩ := (commitApplies_iff hs.wf ht).mp happ
  rw [hs.logs id t ht] at hok ⊢
  simp [Action.installs, ht, hf, hok]

/-- A transaction whose first change to `k` checks the version `v` that the row had at some
point commits only if nothing installed since wrote the row, or something installed since
deleted it. -/
theorem checked_commit {db : Database} (hs : Serial db) {k : Key} {v : Nat}
    (hv : db.tables.version? k = some v) (acts : List Action) {id : Nat} {t : Transaction}
    (ht : (runAll acts db).txns.find? id = some t) (hfirst : Change.firstCheck k t.log = some v)
    (happ : (runAll acts db).commitApplies id) :
    (∀ log ∈ installedAll acts db, ∀ c ∈ log, c.writes k = false) ∨
      ∃ log ∈ installedAll acts db, ∃ c ∈ log, c.isDeleteOf k = true := by
  by_cases hdel : ∃ log ∈ installedAll acts db, ∃ c ∈ log, c.isDeleteOf k = true
  · exact .inr hdel
  · left
    have hkeep : ∀ log ∈ installedAll acts db, ∀ c ∈ log, c.isDeleteOf k = false := by
      intro log hlog c hc
      cases hd : c.isDeleteOf k
      · rfl
      · exact absurd ⟨log, hlog, c, hc, hd⟩ hdel
    obtain ⟨hcount, hupdates⟩ := Change.replay_version hv hkeep (replay_installedAll hs acts)
    -- the commit finds the row at the version its first change checks, so nothing raised it
    obtain ⟨-, hok⟩ := (commitApplies_iff (runAll_serial hs acts).1.wf ht).mp happ
    obtain ⟨p, hp⟩ : ∃ p, Change.applyAll t.log (runAll acts db).tables = .ok p := by
      cases h : Change.applyAll t.log (runAll acts db).tables with
      | error e => rw [h] at hok; cases hok
      | ok p => exact ⟨p, rfl⟩
    have hnow := Change.applyAll_firstCheck hp hfirst
    rw [hcount, Option.some.injEq] at hnow
    have hzero : (installedAll acts db).flatten.countP (Change.isUpdateOf k) = 0 := by omega
    intro log hlog c hc
    cases hw : c.writes k
    · rfl
    · have hu := hupdates log hlog c hc hw
      exact absurd hu (List.countP_eq_zero.mp hzero c (List.mem_flatten.mpr ⟨log, hlog, hc⟩))

/-- The row under `k`, at version `v` on `db₀`, loses no update unless it is deleted. Over
any operations that follow: with no delete of the row installed, its version grows by
exactly one with every installed update of it; a transaction whose first change to the row
checks `v` commits only if nothing installed in between wrote the row, or something
installed in between deleted it; and of two transactions whose first changes to the row
both check `v`, both commit only if a delete of the row is installed between the two. -/
def LosesNoUpdateUnlessDeleted (db₀ : Database) (k : Key) (v : Nat) : Prop :=
  (∀ acts, (∀ log ∈ installedAll acts db₀, ∀ c ∈ log, c.isDeleteOf k = false) →
    (runAll acts db₀).tables.version? k =
      some (v + (installedAll acts db₀).flatten.countP (Change.isUpdateOf k))) ∧
  (∀ acts id t, (runAll acts db₀).txns.find? id = some t → Change.firstCheck k t.log = some v →
    (runAll acts db₀).commitApplies id →
    (∀ log ∈ installedAll acts db₀, ∀ c ∈ log, c.writes k = false) ∨
      ∃ log ∈ installedAll acts db₀, ∃ c ∈ log, c.isDeleteOf k = true) ∧
  (∀ acts₁ acts₂ id₁ id₂ t₁ t₂,
    let db₁ := runAll acts₁ db₀
    let db₂ := runAll acts₂ ((Action.commit id₁).run db₁)
    db₁.txns.find? id₁ = some t₁ → Change.firstCheck k t₁.log = some v → db₁.commitApplies id₁ →
    db₂.txns.find? id₂ = some t₂ → Change.firstCheck k t₂.log = some v → db₂.commitApplies id₂ →
    ∃ log ∈ installedAll (acts₁ ++ Action.commit id₁ :: acts₂) db₀, ∃ c ∈ log,
      c.isDeleteOf k = true)

/-- On every database reachable from a new one, every row loses no update unless it is
deleted. -/
theorem no_lost_update_unless_deleted (b : Bool) (pre : List Action) (k : Key) (v : Nat)
    (hv : (runAll pre { interceptable := b }).tables.version? k = some v) :
    LosesNoUpdateUnlessDeleted (runAll pre { interceptable := b }) k v := by
  have hs₀ := (runAll_serial (Serial.new b) pre).1
  refine ⟨fun acts hkeep => (Change.replay_version hv hkeep (replay_installedAll hs₀ acts)).1,
    fun acts id t ht hfirst happ => checked_commit hs₀ hv acts ht hfirst happ, ?_⟩
  intro acts₁ acts₂ id₁ id₂ t₁ t₂ db₁ db₂ ht₁ hfirst₁ happ₁ ht₂ hfirst₂ happ₂
  have hdb₂ : runAll (acts₁ ++ Action.commit id₁ :: acts₂) (runAll pre { interceptable := b }) =
      db₂ := runAll_append _ _ _
  rcases checked_commit hs₀ hv _ (hdb₂ ▸ ht₂) hfirst₂ (hdb₂ ▸ happ₂) with hnone | hdel
  · -- the first transaction's log, installed in between, writes the row
    exfalso
    obtain ⟨c, hc, hw⟩ := Change.firstCheck_writes hfirst₁
    have hin : t₁.log ∈ installedAll (acts₁ ++ Action.commit id₁ :: acts₂)
        (runAll pre { interceptable := b }) := by
      rw [installedAll_append, installedAll, installs_commit (runAll_serial hs₀ acts₁).1 ht₁ happ₁]
      simp
    rw [hnone _ hin c hc] at hw
    cases hw
  · exact hdel

theorem seeded_row_loses_no_update :
    (runAll [.seed "items" 1 (.text "a")] {}).tables.version? ("items", 1) = some 1 ∧
      LosesNoUpdateUnlessDeleted (runAll [.seed "items" 1 (.text "a")] {}) ("items", 1) 1 :=
  ⟨by decide, no_lost_update_unless_deleted true [.seed "items" 1 (.text "a")] ("items", 1) 1
    (by decide)⟩

end Database

namespace Context

/-- Host hooks for contexts without interceptors or listeners of the host. -/
def quietHooks : Hooks Unit where
  guard _ _ := pure ()
  enlist _ _ := pure .unchanged
  failed _ _ e := pure e
  notice _ _ := pure ()
  listen _ := pure ()

/-- Two contexts on a database seeded with `(items, 1)`: `A` loads the row; `B` loads it,
deletes it and saves, then inserts it again and saves; `A` then updates the row it loaded
and saves. The answer is what `A` loaded and how many rows its save wrote. -/
def reinsertRace : Act Unit (Option Value × Nat) := do
  let k : Key := ("items", 1)
  Act.database (Database.seed "items" 1 (.text "a"))
  let a ← create
  let b ← create
  let loaded ← find quietHooks a k .blocking
  let _ ← find quietHooks b k .blocking
  remove quietHooks b k
  let _ ← save quietHooks b .blocking
  add quietHooks b k (.text "b")
  let _ ← save quietHooks b .blocking
  update quietHooks a k (.text "x")
  let written ← save quietHooks a .blocking
  return (loaded, written)

/-- A stale update commits after a delete and a re-insert. `A` loaded the row at version 1;
`B` then committed a delete of it and an insert of it; `A`'s update, which checks version 1,
still commits, and `B`'s value is lost. -/
theorem stale_update_commits_after_reinsert :
    (Act.resultOn reinsertRace { world := {}, host := () }).1.toOption =
        some (some (.text "a"), 1) ∧
      (Act.resultOn reinsertRace { world := {}, host := () }).2.applied =
        [[.insert "items" 1 (.text "a")], [.delete "items" 1 (some 1)],
          [.insert "items" 1 (.text "b")], [.update "items" 1 (.text "x") (some 1)]] ∧
      (Act.resultOn reinsertRace { world := {}, host := () }).2.tables =
        [(("items", 1), ⟨.text "x", 2⟩)] := by
  decide +kernel

end Context

end ScopedWork
