import Std.Data.ExtTreeMap
import SoftwareContainers.Effect.Erasure

namespace Effect.Act

variable {I : Interface} {ε σ σ' τ τ' α β ι : Type} [Ord ι] [Std.TransOrd ι]

/-! Programs run on one entry of a map in the state. -/

def onEntry (lens : Lens σ (Std.ExtTreeMap ι τ)) (key : ι) (missing : ε)
    (act : Act I ε τ α) : Act I ε σ α :=
  ⟨fun oracle world =>
    match (lens.get world.state)[key]? with
    | none => (.error missing, world)
    | some entry =>
        let ended := act.run oracle ⟨entry, world.history⟩
        (ended.1, ⟨lens.set ((lens.get world.state).insert key ended.2.state) world.state,
          ended.2.history⟩)⟩

section

variable {lens : Lens σ (Std.ExtTreeMap ι τ)} {key : ι} {missing : ε} {act : Act I ε τ α}
  {oracle : Oracle I} {world : World I σ}

theorem run_onEntry_of_missing (isMissing : (lens.get world.state)[key]? = none) :
    (onEntry lens key missing act).run oracle world = (.error missing, world) := by
  unfold onEntry
  dsimp only
  rw [isMissing]

theorem run_onEntry_of_found {entry : τ}
    (found : (lens.get world.state)[key]? = some entry) :
    (onEntry lens key missing act).run oracle world =
      ((act.run oracle ⟨entry, world.history⟩).1,
        ⟨lens.set ((lens.get world.state).insert key
            (act.run oracle ⟨entry, world.history⟩).2.state) world.state,
          (act.run oracle ⟨entry, world.history⟩).2.history⟩) := by
  unfold onEntry
  dsimp only
  rw [found]

theorem leaves_onEntry {part : σ → β}
    (same : ∀ state entry before, (lens.get state)[key]? = some before →
      part (lens.set ((lens.get state).insert key entry) state) = part state) :
    Leaves part (onEntry lens key missing act) := by
  intro oracle world
  cases isEntry : (lens.get world.state)[key]? with
  | none => rw [run_onEntry_of_missing isEntry]
  | some entry =>
      rw [run_onEntry_of_found isEntry]
      exact same world.state _ entry isEntry

end

theorem erases_runOn_bind {erase : σ' → σ} {change : τ' → τ} {whole : Type} {state : whole}
    {ghosted : Act I ε whole τ'} {act : Act I ε whole τ} {ghostedNext : τ' → Act I ε σ' α}
    {next : τ → Act I ε σ α}
    (same : ∀ oracle world, act.run oracle world =
      ((ghosted.run oracle world).1.map change, (ghosted.run oracle world).2))
    (rest : ∀ value, Erases erase (ghostedNext value) (next (change value))) :
    Erases erase
      (do
        let (value, _) ← runOn state ghosted
        ghostedNext value)
      (do
        let (value, _) ← runOn state act
        next value) := by
  intro oracle world
  rw [run_bind, run_bind, run_runOn, run_runOn, same]
  dsimp only
  cases ghosted.run oracle ⟨state, world.history⟩ with
  | mk result final =>
      cases result with
      | error error => rfl
      | ok value => exact rest value oracle ⟨world.state, final.history⟩

theorem map_insert [Std.LawfulEqOrd ι] {change : τ' → τ} (entries : Std.ExtTreeMap ι τ')
    (key : ι) (entry : τ') :
    (entries.insert key entry).map (fun _ entry => change entry) =
      (entries.map fun _ entry => change entry).insert key (change entry) := by
  apply Std.ExtTreeMap.ext_getElem?
  intro other
  rw [Std.ExtTreeMap.getElem?_map, Std.ExtTreeMap.getElem?_insert,
    Std.ExtTreeMap.getElem?_insert, Std.ExtTreeMap.getElem?_map]
  split <;> rfl

theorem erases_onEntry [Std.LawfulEqOrd ι] {erase : σ' → σ} {eraseEntry : τ' → τ}
    {ghostedLens : Lens σ' (Std.ExtTreeMap ι τ')} {lens : Lens σ (Std.ExtTreeMap ι τ)}
    {ghosted : Act I ε τ' α} {act : Act I ε τ α}
    (get : ∀ state, lens.get (erase state) =
      (ghostedLens.get state).map fun _ entry => eraseEntry entry)
    (set : ∀ state entries, lens.set (entries.map fun _ entry => eraseEntry entry)
        (erase state) = erase (ghostedLens.set entries state))
    (key : ι) (missing : ε) (erases : Erases eraseEntry ghosted act) :
    Erases erase (onEntry ghostedLens key missing ghosted) (onEntry lens key missing act) := by
  intro oracle world
  have entryErased : (lens.get (erase world.state))[key]? =
      ((ghostedLens.get world.state)[key]?).map eraseEntry := by
    rw [get, Std.ExtTreeMap.getElem?_map]
  cases isEntry : (ghostedLens.get world.state)[key]? with
  | none =>
      rw [isEntry] at entryErased
      rw [run_onEntry_of_missing isEntry]
      exact run_onEntry_of_missing entryErased
  | some entry =>
      rw [isEntry] at entryErased
      have same := erases oracle ⟨entry, world.history⟩
      dsimp only at same
      rw [run_onEntry_of_found isEntry, run_onEntry_of_found entryErased]
      dsimp only
      rw [same, get, ← set, map_insert]

end Effect.Act
