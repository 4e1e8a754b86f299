import SoftwareContainers.Effect.Entry

namespace Effect.Act

variable {I : Interface} {ε σ τ α β ι : Type}

/-! Invariants of the state, for programs of which nothing else is known. -/

def Preserves (inv : σ → Prop) (act : Act I ε σ α) : Prop :=
  ∀ oracle world, inv world.state → inv (act.run oracle world).2.state

section

variable {inv : σ → Prop}

theorem Leaves.preserves {part : σ → τ} {act : Act I ε σ α} (leaves : Leaves part act)
    (same : ∀ before after, inv before → part after = part before → inv after) :
    Preserves inv act :=
  fun oracle world holds => same world.state _ holds (leaves oracle world)

theorem preserves_pure (value : α) : Preserves inv (pure value : Act I ε σ α) :=
  fun _ _ holds => holds

theorem preserves_throw (error : ε) : Preserves inv (throw error : Act I ε σ α) :=
  fun _ _ holds => holds

theorem preserves_bind {act : Act I ε σ α} {next : α → Act I ε σ β}
    (first : Preserves inv act) (rest : ∀ value, Preserves inv (next value)) :
    Preserves inv (act >>= next) := by
  intro oracle world holds
  have middle := first oracle world holds
  rw [run_bind]
  cases ended : act.run oracle world with
  | mk result between =>
      rw [ended] at middle
      cases result with
      | error error => exact middle
      | ok value => exact rest value oracle between middle

theorem preserves_map {act : Act I ε σ α} {change : α → β} (kept : Preserves inv act) :
    Preserves inv (change <$> act) :=
  preserves_bind kept fun _ => preserves_pure _

theorem preserves_get_bind {next : σ → Act I ε σ β}
    (rest : ∀ state, Preserves inv (next state)) : Preserves inv (get >>= next) :=
  fun oracle world holds => rest world.state oracle world holds

theorem preserves_modify {change : σ → σ} (kept : ∀ state, inv state → inv (change state)) :
    Preserves inv (modify change : Act I ε σ PUnit) :=
  fun _ world holds => kept world.state holds

theorem preserves_ask (call : I.Call) :
    Preserves inv (ask call : Act I ε σ (I.Answer call)) :=
  fun _ _ holds => holds

theorem preserves_ite {condition : Prop} [Decidable condition]
    {first second : Act I ε σ α} (whenTrue : condition → Preserves inv first)
    (whenFalse : ¬ condition → Preserves inv second) :
    Preserves inv (if condition then first else second) := by
  by_cases holds : condition
  · rw [if_pos holds]
    exact whenTrue holds
  · rw [if_neg holds]
    exact whenFalse holds

theorem preserves_tryCatch {act : Act I ε σ α} {handler : ε → Act I ε σ α}
    (body : Preserves inv act) (handled : ∀ error, Preserves inv (handler error)) :
    Preserves inv (tryCatch act handler) := by
  intro oracle world holds
  have middle := body oracle world holds
  rw [run_tryCatch]
  cases ended : act.run oracle world with
  | mk result between =>
      rw [ended] at middle
      cases result with
      | ok value => exact middle
      | error error => exact handled error oracle between middle

theorem preserves_attempt {ε' : Type} {act : Act I ε σ α} (kept : Preserves inv act) :
    Preserves inv (act.attempt : Act I ε' σ (Except ε α)) :=
  kept

theorem preserves_runOn (state : τ) (act : Act I ε τ α) :
    Preserves inv (runOn state act : Act I ε σ (α × τ)) :=
  fun _ _ holds => holds

theorem preserves_runOn_bind {made : α → Prop} {state : τ} {act : Act I ε τ α}
    {next : α → Act I ε σ β}
    (ends : ∀ oracle world value after, act.run oracle world = (.ok value, after) → made value)
    (rest : ∀ value, made value → Preserves inv (next value)) :
    Preserves inv (do
      let (value, _) ← runOn state act
      next value) := by
  intro oracle world holds
  cases ended : (runOn state act : Act I ε σ (α × τ)).run oracle world with
  | mk result after =>
      cases result with
      | error error =>
          rw [run_bind_error ended]
          have same : after.state = world.state :=
            (congrArg (fun ended => ended.2.state) ended).symm
          exact same ▸ holds
      | ok pair =>
          obtain ⟨inner, same⟩ := run_runOn_eq_ok ended
          rw [run_bind_ok ended]
          exact rest pair.1 (ends oracle _ pair.1 _ inner) oracle after (same ▸ holds)

theorem preserves_zoom {lens : Lens σ τ} {act : Act I ε τ α}
    (kept : ∀ state part, inv state → inv (lens.set part state)) :
    Preserves inv (zoom lens act) :=
  fun _ world holds => kept world.state _ holds

theorem preserves_zoom_of {lens : Lens σ τ} {act : Act I ε τ α} {part : τ → Prop}
    (down : ∀ state, inv state → part (lens.get state))
    (up : ∀ state inner, inv state → part inner → inv (lens.set inner state))
    (kept : Preserves part act) : Preserves inv (zoom lens act) :=
  fun oracle world holds => up world.state _ holds
    (kept oracle ⟨lens.get world.state, world.history⟩ (down world.state holds))

theorem preserves_sweep_rest {γ κ ρ : Type} {rest : κ → Prop}
    {body : Act I ε (γ × κ) (Option ρ)} (kept : Preserves (fun whole => rest whole.2) body) :
    Preserves (fun whole : List γ × κ => rest whole.2) (sweep body) := by
  rintro oracle ⟨⟨elements, other⟩, history⟩ holds
  change rest (sweepList body oracle elements other history).2.state.2
  induction elements generalizing other history with
  | nil => exact holds
  | cons head tail ih =>
      have after := kept oracle ⟨(head, other), history⟩ holds
      cases ended : body.run oracle ⟨(head, other), history⟩ with
      | mk result world =>
          rw [ended] at after
          by_cases next : result = .ok none
          · subst next
            rw [sweepList_cons_of_next ended]
            exact ih world.history world.state.2 after
          · rw [sweepList_cons_of_stop ended next]
            exact after

theorem preserves_onEntry [Ord ι] [Std.TransOrd ι] {lens : Lens σ (Std.ExtTreeMap ι τ)}
    {key : ι} {missing : ε} {act : Act I ε τ α} {part : τ → Prop}
    (down : ∀ state entry, inv state → (lens.get state)[key]? = some entry → part entry)
    (up : ∀ state entry, inv state → part entry →
      inv (lens.set ((lens.get state).insert key entry) state))
    (kept : Preserves part act) : Preserves inv (onEntry lens key missing act) := by
  intro oracle world holds
  cases isEntry : (lens.get world.state)[key]? with
  | none =>
      rw [run_onEntry_of_missing isEntry]
      exact holds
  | some entry =>
      rw [run_onEntry_of_found isEntry]
      exact up world.state _ holds
        (kept oracle ⟨entry, world.history⟩ (down world.state entry holds isEntry))

theorem preserves_runAll {operation : ι → Act I ε σ α}
    (step : ∀ operand, Preserves inv (operation operand)) (oracle : Oracle I)
    (operands : List ι) (world : World I σ) (holds : inv world.state) :
    inv (runAll operation oracle operands world).2.state :=
  @runAll_invariant _ _ _ _ _ operation oracle (fun world => inv world.state)
    (fun operand world => step operand oracle world) operands world holds

end

/-! What holds before each operation of a run. -/

def Throughout (operation : ι → Act I ε σ α) (oracle : Oracle I)
    (holds : World I σ → ι → Prop) : List ι → World I σ → Prop
  | [], _ => True
  | operand :: rest, world =>
      holds world operand ∧
        Throughout operation oracle holds rest ((operation operand).run oracle world).2

/-- With an invariant of the run, what is the same for each operation is the same for all. -/
theorem throughout_congr {inv : σ → Prop} {operation : ι → Act I ε σ α} {oracle : Oracle I}
    {first second : World I σ → ι → Prop}
    (kept : ∀ operand world, inv world.state →
      inv ((operation operand).run oracle world).2.state)
    (same : ∀ operand world, inv world.state → (first world operand ↔ second world operand))
    (operands : List ι) (world : World I σ) (holds : inv world.state) :
    Throughout operation oracle first operands world ↔
      Throughout operation oracle second operands world := by
  induction operands generalizing world with
  | nil => exact Iff.rfl
  | cons operand rest ih =>
      exact and_congr (same operand world holds) (ih _ (kept operand world holds))

section

variable {inv : σ → Prop} {erase : σ → τ}

/-- From a state with the invariant: the abstract program does the same once the state is
erased, and the invariant holds afterwards. -/
def Simulates (inv : σ → Prop) (erase : σ → τ) (concrete : Act I ε σ α)
    (abstract : Act I ε τ α) : Prop :=
  ∀ oracle world, inv world.state →
    abstract.run oracle ⟨erase world.state, world.history⟩ =
      ((concrete.run oracle world).1,
        ⟨erase (concrete.run oracle world).2.state, (concrete.run oracle world).2.history⟩) ∧
    inv (concrete.run oracle world).2.state

theorem Erases.simulates {concrete : Act I ε σ α} {abstract : Act I ε τ α}
    (erases : Erases erase concrete abstract) (preserves : Preserves inv concrete) :
    Simulates inv erase concrete abstract :=
  fun oracle world holds => ⟨erases oracle world, preserves oracle world holds⟩

theorem simulates_bind {concrete : Act I ε σ α} {abstract : Act I ε τ α}
    {concreteNext : α → Act I ε σ β} {abstractNext : α → Act I ε τ β}
    (first : Simulates inv erase concrete abstract)
    (rest : ∀ value, Simulates inv erase (concreteNext value) (abstractNext value)) :
    Simulates inv erase (concrete >>= concreteNext) (abstract >>= abstractNext) := by
  intro oracle world holds
  obtain ⟨same, middle⟩ := first oracle world holds
  rw [run_bind, run_bind, same]
  cases ended : concrete.run oracle world with
  | mk result between =>
      rw [ended] at middle
      cases result with
      | error error => exact ⟨rfl, middle⟩
      | ok value => exact rest value oracle between middle

theorem simulates_map {concrete : Act I ε σ α} {abstract : Act I ε τ α} {change : α → β}
    (simulates : Simulates inv erase concrete abstract) :
    Simulates inv erase (change <$> concrete) (change <$> abstract) := by
  intro oracle world holds
  obtain ⟨same, after⟩ := simulates oracle world holds
  rw [run_map, run_map, same]
  exact ⟨rfl, after⟩

theorem simulates_ite {condition : Prop} [Decidable condition]
    {concreteFirst concreteSecond : Act I ε σ α} {first second : Act I ε τ α}
    (whenTrue : Simulates inv erase concreteFirst first)
    (whenFalse : Simulates inv erase concreteSecond second) :
    Simulates inv erase (if condition then concreteFirst else concreteSecond)
      (if condition then first else second) := by
  by_cases holds : condition
  · rw [if_pos holds, if_pos holds]
    exact whenTrue
  · rw [if_neg holds, if_neg holds]
    exact whenFalse

theorem simulates_runAll {concrete : ι → Act I ε σ α} {abstract : ι → Act I ε τ α}
    (simulates : ∀ operand, Simulates inv erase (concrete operand) (abstract operand))
    (oracle : Oracle I) (operands : List ι) (world : World I σ) (holds : inv world.state) :
    runAll abstract oracle operands ⟨erase world.state, world.history⟩ =
        ((runAll concrete oracle operands world).1,
          ⟨erase (runAll concrete oracle operands world).2.state,
            (runAll concrete oracle operands world).2.history⟩) ∧
      inv (runAll concrete oracle operands world).2.state := by
  induction operands generalizing world with
  | nil => exact ⟨rfl, holds⟩
  | cons operand rest ih =>
      obtain ⟨same, middle⟩ := simulates operand oracle world holds
      obtain ⟨sameRest, after⟩ := ih _ middle
      rw [runAll, runAll]
      dsimp only
      rw [same]
      dsimp only
      rw [sameRest]
      exact ⟨rfl, after⟩

end

/-! Programs that remember what they have recorded. -/

def remembering (act : Act I ε σ α) : Act I ε (σ × History I) α :=
  ⟨fun oracle world =>
    let ended := act.run oracle ⟨world.state.1, world.history⟩
    (ended.1, ⟨(ended.2.state, world.state.2 ++ ended.2.history.drop world.history.length),
      ended.2.history⟩)⟩

theorem erases_remembering (act : Act I ε σ α) : Erases Prod.fst (remembering act) act :=
  fun _ _ => rfl

def remembered (act : Act I ε σ α) : Act I ε σ (α × History I) :=
  ⟨fun oracle world =>
    let ended := act.run oracle world
    (ended.1.map fun value => (value, ended.2.history.drop world.history.length), ended.2)⟩

section

variable {inv : σ → Prop} {allowed : Event I → Prop} {may : ε → Prop}

theorem Keeps.drop {act : Act I ε σ α} (kept : Keeps inv allowed may act) {oracle : Oracle I}
    {world : World I σ} (holds : inv world.state) :
    ∀ event ∈ (act.run oracle world).2.history.drop world.history.length, allowed event := by
  obtain ⟨_, ⟨recorded, grown, only⟩, _⟩ := kept oracle world holds
  rw [grown, List.drop_left]
  exact only

theorem preserves_remembering {act : Act I ε σ α} (kept : Keeps inv allowed may act) :
    Preserves (fun whole => inv whole.1 ∧ ∀ event ∈ whole.2, allowed event)
      (remembering act) := by
  intro oracle ⟨⟨state, memory⟩, history⟩ ⟨holds, only⟩
  refine ⟨(kept oracle ⟨state, history⟩ holds).1, fun event member => ?_⟩
  rcases List.mem_append.mp member with member | member
  · exact only event member
  · exact @Keeps.drop _ _ _ _ _ _ _ _ kept oracle ⟨state, history⟩ holds event member

theorem run_remembered_eq_ok {act : Act I ε σ α} {oracle : Oracle I} {world after : World I σ}
    {value : α} {events : History I}
    (ended : (remembered act).run oracle world = (.ok (value, events), after)) :
    act.run oracle world = (.ok value, after) ∧
      events = after.history.drop world.history.length := by
  cases run : act.run oracle world with
  | mk result middle =>
      simp only [remembered, run] at ended
      cases result with
      | error error => cases ended
      | ok value =>
          cases ended
          exact ⟨rfl, rfl⟩

end

end Effect.Act
