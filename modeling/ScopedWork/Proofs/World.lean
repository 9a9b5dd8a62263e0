import ScopedWork.World

/-!
# Reading the world after a change

Each table of the world is read by id with a default and changed at one id. Proofs read
the world in one normal form: every getter and setter is unfolded to its table, read as
`t[i]?.getD d`, so that a change to one table is seen through that table only, a change to
an id that the table holds is seen at that id and nowhere else, and a new entry goes at the
end. The current chain is read as the running flow's chain, else the thread's. Setting it
is the one exception: `setChain` stays folded, with lemmas saying it changes only the
chain.
-/

namespace ScopedWork

namespace World

section Arrays

variable {α : Type}

@[simp] theorem getD_modify_of_lt {a : Array α} {i : Nat} (f : α → α) (j : Nat) (d : α)
    (h : i < a.size) : (a.modify i f)[j]?.getD d = if i = j then f (a[i]?.getD d) else a[j]?.getD d := by
  rw [Array.getElem?_modify]
  split
  · subst j
    simp [h]
  · rfl

/-- Reading the changed id: the change, or the default past the end. -/
theorem getD_modify_self (a : Array α) (i : Nat) (f : α → α) (d : α) :
    (a.modify i f)[i]?.getD d = if i < a.size then f (a[i]?.getD d) else d := by
  rw [Array.getElem?_modify, if_pos rfl]
  by_cases h : i < a.size
  · simp [h]
  · rw [Array.getElem?_eq_none (Nat.le_of_not_lt h)]
    simp [h]

/-- A change at one id is invisible through any view that the change leaves alone there. -/
theorem getD_modify_view {β : Type} (a : Array α) (i j : Nat) (f : α → α) (d : α) (p : α → β)
    (h : p (f (a[i]?.getD d)) = p (a[i]?.getD d)) : p ((a.modify i f)[j]?.getD d) = p (a[j]?.getD d) := by
  rw [Array.getElem?_modify]
  split
  · subst j
    cases hi : a[i]? with
    | none => rfl
    | some x => simpa [hi] using h
  · rfl

/-- Writing an id twice keeps the second value. -/
@[simp] theorem modify_modify_const (a : Array α) (i : Nat) (x y : α) :
    (a.modify i fun _ => x).modify i (fun _ => y) = a.modify i fun _ => y := by
  apply Array.ext (by simp)
  intro j h₁ h₂
  simp only [Array.getElem_modify]
  split <;> rfl

/-- Writing back the value an id holds changes nothing. -/
theorem modify_getD_self (a : Array α) (i : Nat) (d : α) (h : i < a.size) :
    a.modify i (fun _ => a[i]?.getD d) = a := by
  apply Array.ext (by simp)
  intro j h₁ h₂
  simp only [Array.getElem_modify]
  split
  · subst j
    simp [h]
  · rfl

/-- Changing an id past the end changes nothing. -/
theorem modify_of_size_le {a : Array α} {i : Nat} (f : α → α) (h : a.size ≤ i) : a.modify i f = a :=
  Array.ext (by simp) fun j h₁ _ => by
    rw [Array.getElem_modify, if_neg (by simp at h₁; omega)]

@[simp] theorem getD_push (a : Array α) (x : α) (j : Nat) (d : α) :
    (a.push x)[j]?.getD d = if j = a.size then x else a[j]?.getD d := by
  rw [Array.getElem?_push]
  split
  · rfl
  · rfl

end Arrays

variable (w : World) (i : Nat)

section Unfolding

@[simp] theorem context_eq : w.context i = w.contexts[i]?.getD default :=
  Array.getD_eq_getD_getElem?
@[simp] theorem unit_eq : w.unit i = w.units[i]?.getD default :=
  Array.getD_eq_getD_getElem?
@[simp] theorem observer_eq : w.observer i = w.observers[i]?.getD default :=
  Array.getD_eq_getD_getElem?
@[simp] theorem exec_eq : w.exec i = w.execs[i]?.getD default :=
  Array.getD_eq_getD_getElem?
@[simp] theorem factory_eq : w.factory i = w.factories[i]?.getD default :=
  Array.getD_eq_getD_getElem?
@[simp] theorem provider_eq : w.provider i = w.providers[i]?.getD default :=
  Array.getD_eq_getD_getElem?
@[simp] theorem cancelled_eq : w.cancelled i = w.tokens[i]?.getD false :=
  Array.getD_eq_getD_getElem?

@[simp] theorem setContext_eq (x : ContextState) :
    w.setContext i x = { w with contexts := w.contexts.modify i fun _ => x } := rfl
@[simp] theorem setUnit_eq (x : UnitState) :
    w.setUnit i x = { w with units := w.units.modify i fun _ => x } := rfl
@[simp] theorem setObserver_eq (x : ObserverState) :
    w.setObserver i x = { w with observers := w.observers.modify i fun _ => x } := rfl
@[simp] theorem setExec_eq (x : ExecState) :
    w.setExec i x = { w with execs := w.execs.modify i fun _ => x } := rfl
@[simp] theorem setFactory_eq (x : Factory) :
    w.setFactory i x = { w with factories := w.factories.modify i fun _ => x } := rfl
@[simp] theorem setProvider_eq (x : Provider) :
    w.setProvider i x = { w with providers := w.providers.modify i fun _ => x } := rfl
@[simp] theorem cancel_eq :
    w.cancel i = { w with tokens := w.tokens.modify i fun _ => true } := rfl

end Unfolding

/-- Cancelling tokens one after another changes the tokens only. -/
theorem foldl_cancel (l : List Nat) :
    l.foldl cancel w = { w with tokens := l.foldl (fun ts t => ts.modify t fun _ => true) w.tokens } := by
  induction l generalizing w with
  | nil => rfl
  | cons t l ih => simp [List.foldl, ih, cancel]

section Chain

variable (c : Chain)

/-- The current chain is read as the flow's, if one runs, else the thread's. -/
@[simp] theorem chain_eq : w.chain = w.flow.getD w.thread := rfl

@[simp] theorem chain_setChain : (w.setChain c).flow.getD (w.setChain c).thread = c := by
  unfold setChain
  split <;> simp_all

@[simp] theorem setChain_flow_isSome : (w.setChain c).flow.isSome = w.flow.isSome := by
  unfold setChain
  split <;> simp_all

@[simp] theorem setChain_db : (w.setChain c).db = w.db := by
  unfold setChain; split <;> rfl
@[simp] theorem setChain_contexts : (w.setChain c).contexts = w.contexts := by
  unfold setChain; split <;> rfl
@[simp] theorem setChain_units : (w.setChain c).units = w.units := by
  unfold setChain; split <;> rfl
@[simp] theorem setChain_observers : (w.setChain c).observers = w.observers := by
  unfold setChain; split <;> rfl
@[simp] theorem setChain_execs : (w.setChain c).execs = w.execs := by
  unfold setChain; split <;> rfl
@[simp] theorem setChain_nodes : (w.setChain c).nodes = w.nodes := by
  unfold setChain; split <;> rfl
@[simp] theorem setChain_tokens : (w.setChain c).tokens = w.tokens := by
  unfold setChain; split <;> rfl
@[simp] theorem setChain_spawned : (w.setChain c).spawned = w.spawned := by
  unfold setChain; split <;> rfl
@[simp] theorem setChain_providers : (w.setChain c).providers = w.providers := by
  unfold setChain; split <;> rfl
@[simp] theorem setChain_factories : (w.setChain c).factories = w.factories := by
  unfold setChain; split <;> rfl

/-- Inside a flow the thread's chain is left alone. -/
theorem setChain_thread_of_flow (h : w.flow.isSome) : (w.setChain c).thread = w.thread := by
  unfold setChain
  split
  · rfl
  · simp_all

end Chain

end World

end ScopedWork
