import SoftwareContainers.Effect.Contract

namespace Effect.Act

variable {I : Interface} {ε σ σ' τ τ' α β γ γ' κ κ' ρ : Type}

/-! Programs that keep ghost state beside that of another program. -/

/-- The two programs do the same once the ghost part of the state is erased. -/
def Erases (erase : σ' → σ) (ghosted : Act I ε σ' α) (act : Act I ε σ α) : Prop :=
  ∀ oracle world, act.run oracle ⟨erase world.state, world.history⟩ =
    ((ghosted.run oracle world).1,
      ⟨erase (ghosted.run oracle world).2.state, (ghosted.run oracle world).2.history⟩)

section

variable {erase : σ' → σ}

theorem erases_pure (value : α) :
    Erases erase (pure value : Act I ε σ' α) (pure value) :=
  fun _ _ => rfl

theorem erases_throw (error : ε) :
    Erases erase (throw error : Act I ε σ' α) (throw error) :=
  fun _ _ => rfl

theorem erases_bind {ghosted : Act I ε σ' α} {act : Act I ε σ α}
    {ghostedNext : α → Act I ε σ' β} {next : α → Act I ε σ β}
    (first : Erases erase ghosted act)
    (rest : ∀ value, Erases erase (ghostedNext value) (next value)) :
    Erases erase (ghosted >>= ghostedNext) (act >>= next) := by
  intro oracle world
  rw [run_bind, run_bind, first oracle world]
  cases ended : ghosted.run oracle world with
  | mk result middle =>
      cases result with
      | error error => rfl
      | ok value => exact rest value oracle middle

theorem erases_get_bind {ghostedNext : σ' → Act I ε σ' β} {next : σ → Act I ε σ β}
    (rest : ∀ state, Erases erase (ghostedNext state) (next (erase state))) :
    Erases erase (get >>= ghostedNext) (get >>= next) :=
  fun oracle world => rest world.state oracle world

theorem erases_ite {condition : Prop} [Decidable condition]
    {ghostedFirst ghostedSecond : Act I ε σ' α} {first second : Act I ε σ α}
    (whenTrue : Erases erase ghostedFirst first)
    (whenFalse : Erases erase ghostedSecond second) :
    Erases erase (if condition then ghostedFirst else ghostedSecond)
      (if condition then first else second) := by
  by_cases holds : condition
  · rw [if_pos holds, if_pos holds]
    exact whenTrue
  · rw [if_neg holds, if_neg holds]
    exact whenFalse

theorem erases_modify {ghostedChange : σ' → σ'} {change : σ → σ}
    (commutes : ∀ state, change (erase state) = erase (ghostedChange state)) :
    Erases erase (modify ghostedChange : Act I ε σ' PUnit) (modify change) := by
  intro oracle world
  rw [run_modify, run_modify, commutes]

theorem erases_ask (call : I.Call) :
    Erases erase (ask call : Act I ε σ' (I.Answer call)) (ask call) :=
  fun _ _ => rfl

theorem erases_map {ghosted : Act I ε σ' α} {act : Act I ε σ α} {change : α → β}
    (erases : Erases erase ghosted act) : Erases erase (change <$> ghosted) (change <$> act) :=
  erases_bind erases fun _ => erases_pure _

theorem erases_attempt {ε' : Type} {ghosted : Act I ε σ' α} {act : Act I ε σ α}
    (erases : Erases erase ghosted act) :
    Erases erase (ghosted.attempt : Act I ε' σ' (Except ε α)) act.attempt := by
  intro oracle world
  rw [run_attempt, run_attempt, erases oracle world]

theorem erases_tryCatch {ghosted : Act I ε σ' α} {act : Act I ε σ α}
    {ghostedHandler : ε → Act I ε σ' α} {handler : ε → Act I ε σ α}
    (body : Erases erase ghosted act)
    (handled : ∀ error, Erases erase (ghostedHandler error) (handler error)) :
    Erases erase (tryCatch ghosted ghostedHandler) (tryCatch act handler) := by
  intro oracle world
  rw [run_tryCatch, run_tryCatch, body oracle world]
  cases ended : ghosted.run oracle world with
  | mk result middle =>
      cases result with
      | ok value => rfl
      | error error => exact handled error oracle middle

end

theorem erases_zoom {erase : σ' → σ} {erasePart : τ' → τ} {ghostedLens : Lens σ' τ'}
    {lens : Lens σ τ} {ghosted : Act I ε τ' α} {act : Act I ε τ α}
    (get : ∀ state, lens.get (erase state) = erasePart (ghostedLens.get state))
    (set : ∀ state part, lens.set (erasePart part) (erase state) =
      erase (ghostedLens.set part state))
    (erases : Erases erasePart ghosted act) :
    Erases erase (zoom ghostedLens ghosted) (zoom lens act) := by
  intro oracle world
  have same := erases oracle ⟨ghostedLens.get world.state, world.history⟩
  rw [run_zoom, run_zoom]
  dsimp only at same ⊢
  rw [get, same]
  dsimp only
  rw [set]

theorem erases_sweep {erase : γ' → γ} {eraseOther : κ' → κ}
    {ghosted : Act I ε (γ' × κ') (Option ρ)} {body : Act I ε (γ × κ) (Option ρ)}
    (erases : Erases (Prod.map erase eraseOther) ghosted body) :
    Erases (Prod.map (List.map erase) eraseOther) (sweep ghosted) (sweep body) := by
  intro oracle ⟨⟨elements, other⟩, history⟩
  dsimp only [sweep, Prod.map]
  induction elements generalizing other history with
  | nil => rfl
  | cons head tail ih =>
      have same := erases oracle ⟨(head, other), history⟩
      rw [List.map_cons]
      cases ended : ghosted.run oracle ⟨(head, other), history⟩ with
      | mk result world =>
          rw [ended] at same
          by_cases next : result = .ok none
          · subst next
            rw [sweepList_cons_of_next same, sweepList_cons_of_next ended]
            dsimp only [Prod.map]
            rw [ih]
            rfl
          · rw [sweepList_cons_of_stop same next, sweepList_cons_of_stop ended next]
            rfl

/-! Programs that keep a log beside the state. -/

def withLog (entries : Except ε α → List κ) (act : Act I ε σ α) : Act I ε (σ × List κ) α :=
  ⟨fun oracle world =>
    let ended := act.run oracle ⟨world.state.1, world.history⟩
    (ended.1, ⟨(ended.2.state, world.state.2 ++ entries ended.1), ended.2.history⟩)⟩

theorem run_withLog (entries : Except ε α → List κ) (act : Act I ε σ α) (oracle : Oracle I)
    (world : World I (σ × List κ)) :
    (withLog entries act).run oracle world =
      ((act.run oracle ⟨world.state.1, world.history⟩).1,
        ⟨((act.run oracle ⟨world.state.1, world.history⟩).2.state,
            world.state.2 ++ entries (act.run oracle ⟨world.state.1, world.history⟩).1),
          (act.run oracle ⟨world.state.1, world.history⟩).2.history⟩) :=
  rfl

theorem erases_withLog (entries : Except ε α → List κ) (act : Act I ε σ α) :
    Erases Prod.fst (withLog entries act) act :=
  fun _ _ => rfl

end Effect.Act
