import Mathlib.Data.List.Basic

namespace Effect

/-! Imperative programs that observe their environment only through calls.
An answer may depend on everything asked before, and the state a program has
written survives the exception that ends it. -/

/-- The calls a program may make, and the type of the answer to each. -/
structure Interface where
  Call : Type
  Answer : Call → Type

structure Event (I : Interface) where
  call : I.Call
  answer : I.Answer call

abbrev History (I : Interface) := List (Event I)

abbrev Oracle (I : Interface) := History I → (call : I.Call) → I.Answer call

@[ext] structure World (I : Interface) (σ : Type) where
  state : σ
  history : History I

structure Act (I : Interface) (ε σ α : Type) where
  run : Oracle I → World I σ → Except ε α × World I σ

namespace Act

variable {I : Interface} {ε σ τ α β : Type}

instance : Monad (Act I ε σ) where
  pure value := ⟨fun _ world => (.ok value, world)⟩
  bind act next := ⟨fun oracle world =>
    match act.run oracle world with
    | (.ok value, world) => (next value).run oracle world
    | (.error error, world) => (.error error, world)⟩

instance : MonadExceptOf ε (Act I ε σ) where
  throw error := ⟨fun _ world => (.error error, world)⟩
  tryCatch act handler := ⟨fun oracle world =>
    match act.run oracle world with
    | (.ok value, world) => (.ok value, world)
    | (.error error, world) => (handler error).run oracle world⟩

instance : MonadStateOf σ (Act I ε σ) where
  get := ⟨fun _ world => (.ok world.state, world)⟩
  set state := ⟨fun _ world => (.ok ⟨⟩, { world with state })⟩
  modifyGet change := ⟨fun _ world =>
    (.ok (change world.state).1, { world with state := (change world.state).2 })⟩

/-- Make one call; the event is recorded whatever the answer is. -/
def ask (call : I.Call) : Act I ε σ (I.Answer call) :=
  ⟨fun oracle world =>
    let answer := oracle world.history call
    (.ok answer, { world with history := world.history ++ [⟨call, answer⟩] })⟩

def attempt {ε' : Type} (act : Act I ε σ α) : Act I ε' σ (Except ε α) :=
  ⟨fun oracle world =>
    let ended := act.run oracle world
    (.ok ended.1, ended.2)⟩

@[simp] theorem run_pure (value : α) (oracle : Oracle I) (world : World I σ) :
    (pure value : Act I ε σ α).run oracle world = (.ok value, world) := rfl

theorem run_bind (act : Act I ε σ α) (next : α → Act I ε σ β)
    (oracle : Oracle I) (world : World I σ) :
    (act >>= next).run oracle world =
      match act.run oracle world with
      | (.ok value, world) => (next value).run oracle world
      | (.error error, world) => (.error error, world) := rfl

theorem run_bind_ok {act : Act I ε σ α} {next : α → Act I ε σ β}
    {oracle : Oracle I} {world world' : World I σ} {value : α}
    (ended : act.run oracle world = (.ok value, world')) :
    (act >>= next).run oracle world = (next value).run oracle world' := by
  rw [run_bind, ended]

theorem run_bind_error {act : Act I ε σ α} {next : α → Act I ε σ β}
    {oracle : Oracle I} {world world' : World I σ} {error : ε}
    (ended : act.run oracle world = (.error error, world')) :
    (act >>= next).run oracle world = (.error error, world') := by
  rw [run_bind, ended]

theorem run_bind_eq_ok {act : Act I ε σ α} {next : α → Act I ε σ β}
    {oracle : Oracle I} {world after : World I σ} {value : β}
    (ended : (act >>= next).run oracle world = (.ok value, after)) :
    ∃ middle between, act.run oracle world = (.ok middle, between) ∧
      (next middle).run oracle between = (.ok value, after) := by
  rw [run_bind] at ended
  cases first : act.run oracle world with
  | mk result between =>
      rw [first] at ended
      cases result with
      | ok middle => exact ⟨middle, between, rfl, ended⟩
      | error error => cases ended

@[simp] theorem run_pure_bind (value : α) (next : α → Act I ε σ β)
    (oracle : Oracle I) (world : World I σ) :
    (pure value >>= next).run oracle world = (next value).run oracle world :=
  rfl

theorem run_map (change : α → β) (act : Act I ε σ α) (oracle : Oracle I)
    (world : World I σ) :
    (change <$> act).run oracle world =
      ((act.run oracle world).1.map change, (act.run oracle world).2) := by
  change (act >>= fun value => pure (change value)).run oracle world = _
  rw [run_bind]
  cases act.run oracle world with
  | mk result after => cases result <;> rfl

@[simp] theorem run_throw (error : ε) (oracle : Oracle I) (world : World I σ) :
    (throw error : Act I ε σ α).run oracle world = (.error error, world) := rfl

@[simp] theorem run_throw_bind (error : ε) (next : α → Act I ε σ β)
    (oracle : Oracle I) (world : World I σ) :
    ((throw error : Act I ε σ α) >>= next).run oracle world =
      (.error error, world) := rfl

theorem run_tryCatch (act : Act I ε σ α) (handler : ε → Act I ε σ α)
    (oracle : Oracle I) (world : World I σ) :
    (tryCatch act handler).run oracle world =
      match act.run oracle world with
      | (.ok value, world) => (.ok value, world)
      | (.error error, world) => (handler error).run oracle world := rfl

@[simp] theorem run_get (oracle : Oracle I) (world : World I σ) :
    (get : Act I ε σ σ).run oracle world = (.ok world.state, world) := rfl

@[simp] theorem run_get_bind (next : σ → Act I ε σ β)
    (oracle : Oracle I) (world : World I σ) :
    ((get : Act I ε σ σ) >>= next).run oracle world =
      (next world.state).run oracle world := rfl

@[simp] theorem run_set (state : σ) (oracle : Oracle I) (world : World I σ) :
    (set state : Act I ε σ PUnit).run oracle world =
      (.ok ⟨⟩, { world with state }) := rfl

@[simp] theorem run_modify (change : σ → σ)
    (oracle : Oracle I) (world : World I σ) :
    (modify change : Act I ε σ PUnit).run oracle world =
      (.ok ⟨⟩, { world with state := change world.state }) := rfl

@[simp] theorem run_modify_bind (change : σ → σ) (next : PUnit → Act I ε σ β)
    (oracle : Oracle I) (world : World I σ) :
    ((modify change : Act I ε σ PUnit) >>= next).run oracle world =
      (next ⟨⟩).run oracle { world with state := change world.state } := rfl

@[simp] theorem run_ask (call : I.Call)
    (oracle : Oracle I) (world : World I σ) :
    (ask call : Act I ε σ (I.Answer call)).run oracle world =
      (.ok (oracle world.history call), { world with
        history := world.history ++ [⟨call, oracle world.history call⟩] }) :=
  rfl

@[simp] theorem run_ask_bind (call : I.Call) (next : I.Answer call → Act I ε σ β)
    (oracle : Oracle I) (world : World I σ) :
    ((ask call : Act I ε σ (I.Answer call)) >>= next).run oracle world =
      (next (oracle world.history call)).run oracle { world with
        history := world.history ++ [⟨call, oracle world.history call⟩] } :=
  rfl

@[simp] theorem run_attempt {ε' : Type} (act : Act I ε σ α)
    (oracle : Oracle I) (world : World I σ) :
    (act.attempt : Act I ε' σ (Except ε α)).run oracle world =
      (.ok (act.run oracle world).1, (act.run oracle world).2) := rfl

end Act

/-! A part of a state that a program can be run on. -/

structure Lens (σ τ : Type) where
  get : σ → τ
  set : τ → σ → σ
  get_set : ∀ part whole, get (set part whole) = part
  set_set : ∀ first second whole, set first (set second whole) = set first whole

attribute [simp] Lens.get_set Lens.set_set

namespace Act

variable {I : Interface} {ε σ τ α β : Type}

def zoom (lens : Lens σ τ) (act : Act I ε τ α) : Act I ε σ α :=
  ⟨fun oracle world =>
    let ended := act.run oracle ⟨lens.get world.state, world.history⟩
    (ended.1, ⟨lens.set ended.2.state world.state, ended.2.history⟩)⟩

theorem run_zoom (lens : Lens σ τ) (act : Act I ε τ α)
    (oracle : Oracle I) (world : World I σ) :
    (zoom lens act).run oracle world =
      ((act.run oracle ⟨lens.get world.state, world.history⟩).1,
        ⟨lens.set (act.run oracle ⟨lens.get world.state, world.history⟩).2.state
            world.state,
          (act.run oracle ⟨lens.get world.state, world.history⟩).2.history⟩) :=
  rfl

/-- Run a program on a state of its own, which is lost when it throws. -/
def runOn (state : τ) (act : Act I ε τ α) : Act I ε σ (α × τ) :=
  ⟨fun oracle world =>
    let ended := act.run oracle ⟨state, world.history⟩
    (ended.1.map fun value => (value, ended.2.state), ⟨world.state, ended.2.history⟩)⟩

theorem run_runOn (state : τ) (act : Act I ε τ α) (oracle : Oracle I) (world : World I σ) :
    (runOn state act).run oracle world =
      ((act.run oracle ⟨state, world.history⟩).1.map fun value =>
          (value, (act.run oracle ⟨state, world.history⟩).2.state),
        ⟨world.state, (act.run oracle ⟨state, world.history⟩).2.history⟩) :=
  rfl

theorem run_runOn_eq_ok {state : τ} {act : Act I ε τ α} {oracle : Oracle I}
    {world after : World I σ} {result : α × τ}
    (ended : (runOn state act).run oracle world = (.ok result, after)) :
    act.run oracle ⟨state, world.history⟩ =
        (.ok result.1, ⟨result.2, after.history⟩) ∧
      after.state = world.state := by
  cases inner : act.run oracle ⟨state, world.history⟩ with
  | mk value final =>
      simp only [runOn, inner] at ended
      cases value with
      | error error => cases ended
      | ok value =>
          cases ended
          exact ⟨rfl, rfl⟩

end Act

end Effect
