import ScopedWork.Proofs.Store

/-!
# The transaction manager's bookkeeping

A manager is driven by calls (`TxnManager.Call`): `begin`, the count of active transactions,
and calls that name a transaction by an id, one the manager handed out or any other. The
trace of a run from a new manager, its calls with their replies, says exactly what the
manager holds (`Exact`): the transactions it keeps are each active and kept under their own
id, with every change recorded in them in order; every id handed out is below the next one;
and the manager keeps as many transactions as were begun and not ended. One call keeps this
(`Exact.run`), so every run does (`runAll_exact`).

What a call answers is read off the manager it finds (`Call.run_record`, `Call.run_commit`,
`Call.run_rollback`, `Call.run_unknown`): `begin` hands out the next id and keeps a fresh transaction there;
committing or rolling back a kept transaction removes it and returns it ended; a call that
names an id the manager does not keep is refused as not found and changes nothing.

A transaction on its own ends once: from an ended transaction every call is refused, and it
stays as it is.
-/

namespace ScopedWork

namespace Transaction

/-- A call on a transaction. -/
inductive Call where
  | record (change : Change)
  | commit
  | rollback

namespace Call

/-- The transaction after the call, or why it was refused. -/
def step (t : Transaction) : Call → Except Fault Transaction
  | record c => t.record c
  | commit => t.commit
  | rollback => t.rollback

/-- Make the call: how it went, and the transaction afterwards; a refused call leaves the
transaction as it was. -/
def run (t : Transaction) (c : Call) : Except Fault Unit × Transaction :=
  match c.step t with
  | .ok t' => (.ok (), t')
  | .error e => (.error e, t)

end Call

/-- Make calls one after the other: how each went, in order, and the transaction at the end. -/
def runAll (t : Transaction) : List Call → List (Except Fault Unit) × Transaction
  | [] => ([], t)
  | c :: calls => ((c.run t).1 :: (runAll (c.run t).2 calls).1, (runAll (c.run t).2 calls).2)

/-- An ended transaction refuses every call, whatever it is. -/
theorem Call.run_of_ended {t : Transaction} (h : t.state ≠ .active) (c : Call) :
    ∃ e, c.run t = (.error e, t) := by
  have hinactive : t.state.isActive = false := by
    cases hs : t.state
    · exact absurd hs h
    · rfl
    · rfl
  cases c <;> simp [run, step, Transaction.record, Transaction.commit, Transaction.rollback,
    hinactive]

/-- From an ended transaction, a run is refused call after call and leaves it as it is. -/
theorem runAll_of_ended {t : Transaction} (h : t.state ≠ .active) :
    ∀ calls : List Call, (runAll t calls).2 = t ∧ ∀ r ∈ (runAll t calls).1, r.isOk = false
  | [] => ⟨rfl, fun _ hr => nomatch hr⟩
  | c :: calls => by
    obtain ⟨e, hrun⟩ := Call.run_of_ended h c
    obtain ⟨hend, hrefused⟩ := runAll_of_ended h calls
    simp only [runAll, hrun, List.mem_cons, forall_eq_or_imp]
    exact ⟨hend, rfl, hrefused⟩

/-- Runs compose: a run of two sequences of calls is the run of the first, then of the second
from where the first left the transaction. -/
theorem runAll_append (t : Transaction) :
    ∀ pre post : List Call, runAll t (pre ++ post) =
      ((runAll t pre).1 ++ (runAll (runAll t pre).2 post).1, (runAll (runAll t pre).2 post).2)
  | [], _ => rfl
  | c :: pre, post => by
    simp only [List.cons_append, runAll, runAll_append (c.run t).2 pre post]

end Transaction

namespace TxnManager

/-- A call on a transaction manager. All but `begin` and `activeCount` name a transaction by
an id, one the manager handed out or any other. -/
inductive Call where
  | begin (isolation : Option Isolation)
  | record (id : Nat) (change : Change)
  | changes (id : Nat)
  | isolation (id : Nat)
  | commit (id : Nat)
  | rollback (id : Nat)
  | activeCount

/-- What a call answers. -/
inductive Reply where
  | began (id : Nat)
  | recorded
  | changes (log : List Change)
  | isolation (level : Option Isolation)
  | ended (t : Transaction)
  | count (n : Nat)
  | refused (e : Fault)

namespace Call

/-- The id the call names, if it names one. -/
def target : Call → Option Nat
  | begin _ => none
  | record id _ => some id
  | changes id => some id
  | isolation id => some id
  | commit id => some id
  | rollback id => some id
  | activeCount => none

/-- Make the call: its reply, and the manager afterwards. A refused call leaves the manager as
it was. -/
def run (m : TxnManager) : Call → Reply × TxnManager
  | begin iso => (.began (m.begin iso).2, (m.begin iso).1)
  | record id c =>
    match m.record id c with
    | .ok m' => (.recorded, m')
    | .error e => (.refused e, m)
  | changes id =>
    match m.changes id with
    | .ok log => (.changes log, m)
    | .error e => (.refused e, m)
  | isolation id => (.isolation (m.isolation id), m)
  | commit id =>
    match m.commit id with
    | .ok (m', t) => (.ended t, m')
    | .error e => (.refused e, m)
  | rollback id =>
    match m.rollback id with
    | .ok (m', t) => (.ended t, m')
    | .error e => (.refused e, m)
  | activeCount => (.count m.activeCount, m)

end Call

/-- Make calls one after the other: the trace of calls with their replies, and the manager at
the end. -/
def runAll (m : TxnManager) : List Call → List (Call × Reply) × TxnManager
  | [] => ([], m)
  | c :: calls =>
    ((c, (c.run m).1) :: (runAll (c.run m).2 calls).1, (runAll (c.run m).2 calls).2)

/-! ## Reading a trace -/

/-- The id that an entry of a trace handed out, if it is a `begin`. -/
def handedOut : Call × Reply → Option Nat
  | (.begin _, .began id) => some id
  | _ => none

/-- The change that an entry recorded in transaction `id`, if it is a successful record. -/
def recordedIn (id : Nat) : Call × Reply → Option Change
  | (.record j c, .recorded) => if j = id then some c else none
  | _ => none

/-- Whether an entry ended a transaction: a successful commit or rollback. -/
def ends : Call × Reply → Bool
  | (.commit _, .ended _) => true
  | (.rollback _, .ended _) => true
  | _ => false

/-- The ids handed out, in order. -/
def began (tr : List (Call × Reply)) : List Nat := tr.filterMap handedOut

/-- The changes recorded in transaction `id`, in order. -/
def recorded (id : Nat) (tr : List (Call × Reply)) : List Change := tr.filterMap (recordedIn id)

/-- How many transactions were committed or rolled back. -/
def endedCount (tr : List (Call × Reply)) : Nat := tr.countP ends

@[simp] theorem began_append (tr : List (Call × Reply)) (e : Call × Reply) :
    began (tr ++ [e]) = began tr ++ (handedOut e).toList := by
  cases h : handedOut e <;> simp [began, h]

@[simp] theorem recorded_append (id : Nat) (tr : List (Call × Reply)) (e : Call × Reply) :
    recorded id (tr ++ [e]) = recorded id tr ++ (recordedIn id e).toList := by
  cases h : recordedIn id e <;> simp [recorded, h]

@[simp] theorem endedCount_append (tr : List (Call × Reply)) (e : Call × Reply) :
    endedCount (tr ++ [e]) = endedCount tr + if ends e then 1 else 0 := by
  cases h : ends e <;> simp [endedCount, h]

/-! ## What one call does -/

variable {m : TxnManager}

theorem record_of_find?_none {id : Nat} (ht : m.find? id = none) (c : Change) :
    m.record id c = .error (notFound id) := by
  simp [TxnManager.record, get_of_find?_none ht]
  rfl

theorem isolation_of_find?_none {id : Nat} (ht : m.find? id = none) : m.isolation id = none := by
  simp [TxnManager.isolation, ht]

private theorem length_filter_key {id : Nat} :
    ∀ {live : List (Nat × Transaction)}, (live.map (·.1)).Nodup → id ∈ live.map (·.1) →
      (live.filter (·.1 != id)).length + 1 = live.length
  | [], _, hmem => nomatch hmem
  | q :: qs, hu, hmem => by
    rw [List.map_cons, List.nodup_cons] at hu
    by_cases hq : q.1 = id
    · -- the entry for `id` goes, and no other has its key
      have hkeep : qs.filter (·.1 != id) = qs :=
        List.filter_eq_self.mpr fun p hp => by
          have : p.1 ≠ id := fun hp' => hu.1 (hq ▸ hp' ▸ List.mem_map_of_mem hp)
          simpa using this
      simp [hq, hkeep]
    · have hmem' : id ∈ qs.map (·.1) := by
        rw [List.map_cons] at hmem
        rcases List.mem_cons.mp hmem with h | h
        · exact absurd h.symm hq
        · exact h
      simp [hq, length_filter_key hu.2 hmem']

/-- Forgetting a kept transaction drops exactly one entry, each id being kept once. -/
theorem Wf.activeCount_drop (h : m.Wf) {id : Nat} {t : Transaction} (ht : m.find? id = some t) :
    (m.drop id).activeCount + 1 = m.activeCount := by
  have hmem : id ∈ m.live.map (·.1) := by
    obtain ⟨p, hp, -⟩ := find?_eq_some_iff.mp ht
    have hkey : p.1 = id := by simpa using List.find?_some hp
    exact List.mem_map.mpr ⟨p, List.mem_of_find?_eq_some hp, hkey⟩
  exact length_filter_key h.unique hmem

/-- A kept transaction takes a change: it stays kept, with the change at the end of its log. -/
theorem Call.run_record (h : m.Wf) {id : Nat} {t : Transaction} (ht : m.find? id = some t)
    (c : Change) : (Call.record id c).run m = (.recorded, m.put { t with log := t.log ++ [c] }) := by
  simp [Call.run, record_of_find? h ht]

/-- A kept transaction is committed: it leaves the manager, with its log. -/
theorem Call.run_commit (h : m.Wf) {id : Nat} {t : Transaction} (ht : m.find? id = some t) :
    (Call.commit id).run m = (.ended { t with state := .committed }, m.drop id) := by
  simp [Call.run, commit_of_find? h ht]

/-- A kept transaction is rolled back: it leaves the manager, with an empty log. -/
theorem Call.run_rollback (h : m.Wf) {id : Nat} {t : Transaction} (ht : m.find? id = some t) :
    (Call.rollback id).run m = (.ended { t with state := .aborted, log := [] }, m.drop id) := by
  simp [Call.run, rollback_of_find? h ht]

/-- A call that names an id the manager does not keep is refused as not found, or answers no
isolation level, and changes nothing. -/
theorem Call.run_unknown {id : Nat} (ht : m.find? id = none) :
    ∀ c : Call, c.target = some id →
      (c.run m).2 = m ∧ ((c.run m).1 = .refused (notFound id) ∨ (c.run m).1 = .isolation none)
  | .record j c, hc | .changes j, hc | .isolation j, hc | .commit j, hc | .rollback j, hc => by
    cases hc
    simp [Call.run, record_of_find?_none ht, changes_of_find?_none ht, isolation_of_find?_none ht,
      commit_of_find?_none ht, rollback_of_find?_none ht]

/-! ## The trace says what the manager keeps -/

/-- What a run leaves, read off its trace: the manager is well formed (every kept
transaction is active, kept once, under its own id, below the next id); every id handed out
is below the next one, and nothing was recorded under an id not handed out yet; every kept
transaction's log is what was recorded in it, in order; and as many transactions are kept as
were begun and not ended. -/
structure Exact (tr : List (Call × Reply)) (m : TxnManager) : Prop where
  wf : m.Wf
  began_lt : ∀ id ∈ began tr, id < m.next
  fresh : ∀ id, m.next ≤ id → recorded id tr = []
  logs : ∀ id t, m.find? id = some t → t.log = recorded id tr
  count : m.activeCount + endedCount tr = (began tr).length

namespace Exact

variable {tr : List (Call × Reply)}

/-- A new manager, before any call. -/
theorem new : Exact [] ({} : TxnManager) where
  wf := ⟨fun _ hp => (nomatch hp), List.nodup_nil⟩
  began_lt _ h := nomatch h
  fresh _ _ := rfl
  logs _ _ h := nomatch h
  count := rfl

/-- An entry that hands out no id, records nothing and ends nothing, the manager unchanged. -/
theorem keep (h : Exact tr m) {e : Call × Reply} (h₁ : handedOut e = none)
    (h₂ : ∀ id, recordedIn id e = none) (h₃ : ends e = false) : Exact (tr ++ [e]) m where
  wf := h.wf
  began_lt id hid := h.began_lt id (by simpa [h₁] using hid)
  fresh id hid := by simp [h₂, h.fresh id hid]
  logs id t ht := by simp [h₂, h.logs id t ht]
  count := by simp [h₁, h₃, h.count]

/-- A `begin`: the next id is handed out and a fresh transaction kept under it. -/
theorem begin (h : Exact tr m) (iso : Option Isolation) :
    Exact (tr ++ [(.begin iso, .began m.next)]) (m.begin iso).1 where
  wf := h.wf.begin iso
  began_lt id hid := by
    simp only [began_append, handedOut, Option.toList_some, List.mem_append,
      List.mem_singleton] at hid
    show id < m.next + 1
    rcases hid with hid | rfl
    · exact Nat.lt_succ_of_lt (h.began_lt id hid)
    · exact Nat.lt_succ_self _
  fresh id hid := by
    have hid' : m.next ≤ id := Nat.le_of_succ_le hid
    simp [recordedIn, h.fresh id hid']
  logs id t ht := by
    rw [find?_begin h.wf] at ht
    split at ht
    · -- the fresh transaction has an empty log, and nothing was recorded under its id
      rename_i hid
      cases ht
      simp [recordedIn, h.fresh id (Nat.le_of_eq hid.symm)]
    · simp [recordedIn, h.logs id t ht]
  count := by
    have := h.count
    simp only [activeCount] at this
    simp [TxnManager.begin, activeCount, handedOut, ends]
    omega

/-- A successful record: the kept transaction's log grows by the change. -/
theorem record (h : Exact tr m) {id : Nat} {t : Transaction} (ht : m.find? id = some t)
    (c : Change) : Exact (tr ++ [(.record id c, .recorded)]) (m.put { t with log := t.log ++ [c] }) where
  wf := h.wf.put (h.wf.find?_some ht).2.1
  began_lt j hj := h.began_lt j (by simpa [handedOut] using hj)
  fresh j hj := by
    -- the recorded id is kept, so it is below the next id
    have hne : id ≠ j := Nat.ne_of_lt (Nat.lt_of_lt_of_le (h.wf.find?_some ht).2.2 hj)
    simp [recordedIn, hne, h.fresh j hj]
  logs j t' ht' := by
    have hid : t.id = id := (h.wf.find?_some ht).1
    rw [find?_put] at ht'
    by_cases hj : j = id
    · subst hj
      simp only [hid, if_true, ht, Option.map_some, Option.some.injEq] at ht'
      subst ht'
      simp [recordedIn, h.logs _ _ ht]
    · rw [if_neg (by rw [hid]; exact hj)] at ht'
      simp [recordedIn, Ne.symm hj, h.logs j t' ht']
  count := by
    have := h.count
    simp only [activeCount, TxnManager.put, List.length_map] at this ⊢
    simpa [handedOut, ends] using this

/-- A successful commit or rollback: the transaction leaves the manager. -/
theorem finish (h : Exact tr m) {id : Nat} {t : Transaction} (ht : m.find? id = some t)
    {e : Call × Reply} (h₁ : handedOut e = none) (h₂ : ∀ j, recordedIn j e = none)
    (h₃ : ends e = true) : Exact (tr ++ [e]) (m.drop id) where
  wf := h.wf.drop id
  began_lt j hj := h.began_lt j (by simpa [h₁] using hj)
  fresh j hj := by simp [h₂, h.fresh j hj]
  logs j t' ht' := by
    rw [find?_drop] at ht'
    split at ht'
    · cases ht'
    · simp [h₂, h.logs j t' ht']
  count := by
    have := h.wf.activeCount_drop ht
    have := h.count
    simp only [began_append, h₁, Option.toList_none, List.append_nil, endedCount_append, h₃,
      if_true]
    omega

/-- One call keeps the trace exact. -/
theorem run (h : Exact tr m) : ∀ c : Call, Exact (tr ++ [(c, (c.run m).1)]) (c.run m).2
  | .begin iso => h.begin iso
  | .record id c => by
    cases ht : m.find? id with
    | none =>
      obtain ⟨hm, hr | hr⟩ := Call.run_unknown ht (.record id c) rfl <;> rw [hr, hm] <;>
        exact h.keep rfl (fun _ => rfl) rfl
    | some t =>
      rw [Call.run_record h.wf ht]
      exact h.record ht c
  | .changes id => by
    simp only [Call.run]
    split <;> exact h.keep rfl (fun _ => rfl) rfl
  | .isolation id => h.keep rfl (fun _ => rfl) rfl
  | .commit id => by
    cases ht : m.find? id with
    | none =>
      obtain ⟨hm, hr | hr⟩ := Call.run_unknown ht (.commit id) rfl <;> rw [hr, hm] <;>
        exact h.keep rfl (fun _ => rfl) rfl
    | some t =>
      rw [Call.run_commit h.wf ht]
      exact h.finish ht rfl (fun _ => rfl) rfl
  | .rollback id => by
    cases ht : m.find? id with
    | none =>
      obtain ⟨hm, hr | hr⟩ := Call.run_unknown ht (.rollback id) rfl <;> rw [hr, hm] <;>
        exact h.keep rfl (fun _ => rfl) rfl
    | some t =>
      rw [Call.run_rollback h.wf ht]
      exact h.finish ht rfl (fun _ => rfl) rfl
  | .activeCount => h.keep rfl (fun _ => rfl) rfl

/-- Every run keeps the trace exact. -/
theorem along (h : Exact tr m) (calls : List Call) :
    Exact (tr ++ (TxnManager.runAll m calls).1) (TxnManager.runAll m calls).2 := by
  induction calls generalizing tr m with
  | nil => simpa [TxnManager.runAll] using h
  | cons c calls ih => simpa [TxnManager.runAll, List.append_assoc] using ih (h.run c)

end Exact

/-- A run from a new manager leaves it as its trace says. -/
theorem runAll_exact (calls : List Call) : Exact (runAll {} calls).1 (runAll {} calls).2 := by
  simpa using Exact.new.along calls

/-- A transaction committed twice: the second commit no longer finds it. -/
example : ((runAll {} [.begin none, .commit 1, .commit 1]).1.map (·.2)).getLast? =
    some (.refused (notFound 1)) := rfl

/-- The manager's bookkeeping is exact. After any run of calls from a new manager, naming
handed-out or unknown ids in any order: every kept transaction is active, kept under its own
id, with exactly the changes recorded in it, in order; as many are kept as were begun and not
committed or rolled back; `begin` hands out an id above every id handed out before and keeps
a fresh transaction at the requested level there; committing or rolling back a kept
transaction removes it and returns it committed with its log, or aborted with none; a call
naming an id not kept is refused as not found (or answers no isolation level) and changes
nothing. A transaction on its own, once it has ended, refuses every later call and stays as
it is. -/
theorem bookkeeping_is_exact (calls : List Call) :
    let tr := (runAll {} calls).1
    let m := (runAll {} calls).2
    (∀ id t, m.find? id = some t → t.id = id ∧ t.state = .active ∧ t.log = recorded id tr) ∧
    m.activeCount + endedCount tr = (began tr).length ∧
    (∀ iso, (Call.begin iso).run m = (.began m.next, (m.begin iso).1) ∧
      (∀ j ∈ began tr, j < m.next) ∧
      (m.begin iso).1.find? m.next = some { id := m.next, isolation := iso } ∧
      ∀ j, j ≠ m.next → (m.begin iso).1.find? j = m.find? j) ∧
    (∀ id t, m.find? id = some t →
      (Call.commit id).run m = (.ended { t with state := .committed }, m.drop id) ∧
      (Call.rollback id).run m = (.ended { t with state := .aborted, log := [] }, m.drop id) ∧
      ∀ j, (m.drop id).find? j = if j = id then none else m.find? j) ∧
    (∀ (c : Call) id, m.find? id = none → c.target = some id →
      (c.run m).2 = m ∧ ((c.run m).1 = .refused (notFound id) ∨ (c.run m).1 = .isolation none)) ∧
    ∀ (t : Transaction) (pre post : List Transaction.Call),
      (Transaction.runAll t pre).2.state ≠ .active →
      (Transaction.runAll t (pre ++ post)).2 = (Transaction.runAll t pre).2 ∧
      ∀ r ∈ (Transaction.runAll (Transaction.runAll t pre).2 post).1, r.isOk = false := by
  intro tr m
  have hx : Exact tr m := runAll_exact calls
  refine ⟨fun id t ht => ?_, hx.count, fun iso => ?_, fun id t ht => ?_,
    fun c id ht hc => Call.run_unknown ht c hc, fun t pre post hended => ?_⟩
  · obtain ⟨hid, hactive, -⟩ := hx.wf.find?_some ht
    exact ⟨hid, hactive, hx.logs id t ht⟩
  · refine ⟨rfl, hx.began_lt, ?_, fun j hj => ?_⟩
    · simp [find?_begin hx.wf]
    · simp [find?_begin hx.wf, hj]
  · exact ⟨Call.run_commit hx.wf ht, Call.run_rollback hx.wf ht, find?_drop id⟩
  · -- the rest of the run starts from an ended transaction
    obtain ⟨hend, hrefused⟩ := Transaction.runAll_of_ended hended post
    rw [Transaction.runAll_append]
    exact ⟨hend, hrefused⟩

end TxnManager

end ScopedWork
