import ScopedWork.World

/-!
# Running operations

How the combinators of `Act` run, stated once. A bind runs its first operation and, when that
succeeds, the rest from the state it left; a failure stops the run in the state it reached.
A database step runs on the world's database and leaves everything else as it was. Proofs
about operations step through them with these lemmas instead of unfolding the monad.
-/

namespace ScopedWork

namespace Act

variable {σ α β : Type}

/-- What an operation returns from a state, or the fault it fails with, and the database it
leaves either way. -/
def resultOn (x : Act σ α) (s : Sys σ) : Except Fault α × Database :=
  match x.run s with
  | .ok a s' => (.ok a, s'.world.db)
  | .error e s' => (.error e, s'.world.db)

/-- What an operation returns from a state, or the fault it fails with, and the state it
leaves either way. -/
def exec (x : Act σ α) (s : Sys σ) : Except Fault α × Sys σ :=
  match x s with
  | .ok a s' => (.ok a, s')
  | .error e s' => (.error e, s')

section Exec

/-! Running by `exec`: these lemmas let `simp` execute an operation step by step. -/

@[simp] theorem exec_pure (a : α) (s : Sys σ) : exec (pure a : Act σ α) s = (.ok a, s) := rfl

@[simp] theorem exec_bind (x : Act σ α) (f : α → Act σ β) (s : Sys σ) :
    exec (x >>= f) s = match exec x s with
      | (.ok a, s₁) => exec (f a) s₁
      | (.error e, s₁) => (.error e, s₁) := by
  show (match EStateM.bind x f s with | .ok a s' => _ | .error e s' => _) = _
  unfold EStateM.bind exec
  cases x s <;> rfl

@[simp] theorem exec_map (f : α → β) (x : Act σ α) (s : Sys σ) :
    exec (f <$> x) s = match exec x s with
      | (.ok a, s₁) => (.ok (f a), s₁)
      | (.error e, s₁) => (.error e, s₁) := by
  show (match EStateM.map f x s with | .ok a s' => _ | .error e s' => _) = _
  unfold EStateM.map exec
  cases x s <;> rfl

@[simp] theorem isOk_map (r : Except Fault α) (f : α → β) : (r.map f).isOk = r.isOk := by
  cases r <;> rfl

/-- Returning a function of a result: the result mapped, the state as it was left. -/
theorem exec_bind_pure (x : Act σ α) (f : α → β) (s : Sys σ) :
    exec (x >>= fun a => pure (f a)) s = ((exec x s).1.map f, (exec x s).2) := by
  rw [exec_bind]
  rcases exec x s with ⟨_ | a, s₁⟩ <;> rfl

@[simp] theorem exec_throw (e : Fault) (s : Sys σ) : exec (throw e : Act σ α) s = (.error e, s) :=
  rfl

@[simp] theorem exec_world (s : Sys σ) : exec (world : Act σ World) s = (.ok s.world, s) := rfl

@[simp] theorem exec_modifyWorld (f : World → World) (s : Sys σ) :
    exec (modifyWorld f : Act σ Unit) s = (.ok (), { s with world := f s.world }) := rfl

@[simp] theorem exec_host (s : Sys σ) : exec (host : Act σ σ) s = (.ok s.host, s) := rfl

@[simp] theorem exec_modifyHost (f : σ → σ) (s : Sys σ) :
    exec (modifyHost f : Act σ Unit) s = (.ok (), { s with host := f s.host }) := rfl

@[simp] theorem exec_ofRun (x : Run σ α) (s : Sys σ) :
    exec (ofRun x) s = (.ok (x.run s).1, (x.run s).2) := rfl

@[simp] theorem exec_ofExcept (r : Except Fault α) (s : Sys σ) : exec (ofExcept r) s = (r, s) := by
  cases r <;> rfl

@[simp] theorem exec_outcome (x : Act σ α) (s : Sys σ) :
    exec (outcome x) s = (.ok (exec x s).1, (exec x s).2) := by
  unfold outcome exec
  dsimp only
  cases x s <;> rfl

@[simp] theorem exec_database (x : Database.Step α) (s : Sys σ) :
    exec (database x) s =
      (((x.run).run s.world.db).1, { s with world := { s.world with db := ((x.run).run s.world.db).2 } }) := by
  unfold database exec
  dsimp only
  cases (x.run).run s.world.db with
  | mk r db => cases r <;> rfl

/-- A bind that ends with a value: its first operation ended with one, and the rest went on
from there. -/
theorem exec_bind_eq_ok {x : Act σ α} {f : α → Act σ β} {s s' : Sys σ} {b : β}
    (h : exec (x >>= f) s = (.ok b, s')) :
    ∃ a s₁, exec x s = (.ok a, s₁) ∧ exec (f a) s₁ = (.ok b, s') := by
  rw [exec_bind] at h
  rcases h₁ : exec x s with ⟨_ | a, s₁⟩ <;> rw [h₁] at h
  · cases h
  · exact ⟨a, s₁, rfl, h⟩

/-- A bind on the outcome of an operation: the operation ended somehow, and the rest went on
from there with how it ended. -/
theorem exec_outcome_bind_eq {x : Act σ α} {f : Except Fault α → Act σ β} {s s' : Sys σ}
    {r : Except Fault β} (h : exec (outcome x >>= f) s = (r, s')) :
    ∃ q s₁, exec x s = (q, s₁) ∧ exec (f q) s₁ = (r, s') :=
  ⟨_, _, rfl, by rwa [exec_bind, exec_outcome] at h⟩

/-- An operation run for its outcome only, then a value: the value, however the operation
ended, and the state it left. -/
theorem exec_outcome_then_pure (x : Act σ α) (b : β) (s : Sys σ) :
    exec (outcome x >>= fun _ => pure b) s = (.ok b, (exec x s).2) := by
  rw [exec_bind, exec_outcome]
  rfl

/-- Two binds run alike when their first operations do and their continuations agree on
every value and state the first operation can end with. -/
theorem exec_bind_congr {x x' : Act σ α} {f g : α → Act σ β} {s : Sys σ}
    (hx : exec x s = exec x' s) (hf : ∀ a s₁, exec x s = (.ok a, s₁) → exec (f a) s₁ = exec (g a) s₁) :
    exec (x >>= f) s = exec (x' >>= g) s := by
  rw [exec_bind, exec_bind, ← hx]
  rcases h₁ : exec x s with ⟨_ | a, s₁⟩
  · rfl
  · exact hf a s₁ h₁

end Exec

theorem bind_run_ok {x : Act σ α} {f : α → Act σ β} {s s' : Sys σ} {a : α}
    (h : x.run s = .ok a s') : (x >>= f).run s = (f a).run s' := by
  show EStateM.bind x f s = _
  unfold EStateM.bind
  rw [show x s = .ok a s' from h]
  rfl

theorem bind_run_error {x : Act σ α} {f : α → Act σ β} {s s' : Sys σ} {e : Fault}
    (h : x.run s = .error e s') : (x >>= f).run s = .error e s' := by
  show EStateM.bind x f s = _
  unfold EStateM.bind
  rw [show x s = .error e s' from h]

theorem world_bind_run (f : World → Act σ β) (s : Sys σ) :
    (Act.world >>= f).run s = (f s.world).run s := rfl

theorem ofExcept_ok_bind_run (a : α) (f : α → Act σ β) (s : Sys σ) :
    (ofExcept (.ok a) >>= f).run s = (f a).run s := rfl

theorem database_run_ok {x : Database.Step α} {s : Sys σ} {a : α} {db : Database}
    (h : (x.run).run s.world.db = (.ok a, db)) :
    (database x).run s = .ok a { s with world := { s.world with db } } := by
  show database x s = _
  unfold database
  rw [h]

theorem database_run_error {x : Database.Step α} {s : Sys σ} {e : Fault} {db : Database}
    (h : (x.run).run s.world.db = (.error e, db)) :
    (database x).run s = .error e { s with world := { s.world with db } } := by
  show database x s = _
  unfold database
  rw [h]

end Act

end ScopedWork
