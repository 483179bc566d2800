set_option autoImplicit false

/-!
# Recording computations

A computation that changes a record and may fail. The record is kept when it fails, with everything
that was noted until then.
-/

namespace RequestSchema

def Recording (σ ε α : Type) : Type := σ → Except ε α × σ

namespace Recording

variable {σ ε α β : Type}

def bind (x : Recording σ ε α) (f : α → Recording σ ε β) : Recording σ ε β := fun s =>
  match x s with
  | (.ok a, t) => f a t
  | (.error e, t) => (.error e, t)

instance : Monad (Recording σ ε) where
  pure a := fun s => (.ok a, s)
  bind := bind

def fail (e : ε) : Recording σ ε α := fun s => (.error e, s)

def note (change : σ → σ) : Recording σ ε Unit := fun s => (.ok (), change s)

def ofExcept (x : Except ε α) : Recording σ ε α := fun s => (x, s)

/-- Runs a computation for every item in order, until one fails. -/
def each (f : α → Recording σ ε β) : List α → Recording σ ε (List β)
  | [] => pure []
  | a :: rest => do
    let b ← f a
    let bs ← each f rest
    pure (b :: bs)

@[simp] theorem run_pure (a : α) (s : σ) : (pure a : Recording σ ε α) s = (.ok a, s) := rfl

@[simp] theorem run_fail (e : ε) (s : σ) : (fail e : Recording σ ε α) s = (.error e, s) := rfl

@[simp] theorem run_note (change : σ → σ) (s : σ) :
    (note change : Recording σ ε Unit) s = (.ok (), change s) := rfl

@[simp] theorem run_ofExcept (x : Except ε α) (s : σ) :
    (ofExcept x : Recording σ ε α) s = (x, s) := rfl

theorem run_bind (x : Recording σ ε α) (f : α → Recording σ ε β) (s : σ) :
    (x >>= f) s = match x s with
      | (.ok a, t) => f a t
      | (.error e, t) => (.error e, t) := rfl

theorem run_bind_ok {x : Recording σ ε α} {s t : σ} {a : α} (h : x s = (.ok a, t))
    (f : α → Recording σ ε β) : (x >>= f) s = f a t := by
  rw [run_bind, h]

theorem run_bind_error {x : Recording σ ε α} {s t : σ} {e : ε} (h : x s = (.error e, t))
    (f : α → Recording σ ε β) : (x >>= f) s = (.error e, t) := by
  rw [run_bind, h]

end Recording

end RequestSchema
