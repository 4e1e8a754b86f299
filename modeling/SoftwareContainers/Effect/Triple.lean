import SoftwareContainers.Effect.Contract

namespace Effect.Act

variable {I : Interface} {ε σ τ α β γ κ ρ ι : Type}

/-! Hoare triples that also say what may be recorded.  A contract is the case where
the two assertions are one invariant. -/

/-- From a state with `pre`, and whatever the environment answers: every new event is
allowed, and the result and the state satisfy `post`. -/
def Triple (pre : σ → Prop) (allowed : Event I → Prop)
    (post : Except ε α → σ → Prop) (act : Act I ε σ α) : Prop :=
  ∀ oracle world, pre world.state →
    post (act.run oracle world).1 (act.run oracle world).2.state ∧
    ∃ recorded, (act.run oracle world).2.history = world.history ++ recorded ∧
      ∀ event ∈ recorded, allowed event

section

variable {pre : σ → Prop} {allowed : Event I → Prop}

theorem triple_pure {post : Except ε α → σ → Prop} {value : α}
    (holds : ∀ state, pre state → post (.ok value) state) :
    Triple pre allowed post (pure value : Act I ε σ α) :=
  fun _ world preHolds => ⟨holds world.state preHolds, [], by simp, nofun⟩

theorem triple_bind {middle : Except ε α → σ → Prop} {post : Except ε β → σ → Prop}
    {act : Act I ε σ α} {next : α → Act I ε σ β}
    (first : Triple pre allowed middle act)
    (rest : ∀ value, Triple (middle (.ok value)) allowed post (next value))
    (thrown : ∀ error state, middle (.error error) state → post (.error error) state) :
    Triple pre allowed post (act >>= next) := by
  intro oracle world preHolds
  obtain ⟨middleHolds, early, grownEarly, allowedEarly⟩ := first oracle world preHolds
  rw [run_bind]
  cases ended : act.run oracle world with
  | mk result between =>
      rw [ended] at middleHolds grownEarly
      cases result with
      | error error =>
          exact ⟨thrown error between.state middleHolds, early, grownEarly, allowedEarly⟩
      | ok value =>
          obtain ⟨postHolds, late, grownLate, allowedLate⟩ :=
            rest value oracle between middleHolds
          refine ⟨postHolds, early ++ late, ?_, ?_⟩
          · rw [grownLate, grownEarly, List.append_assoc]
          · exact fun event member => (List.mem_append.mp member).elim
              (allowedEarly event) (allowedLate event)

theorem triple_get_bind {post : Except ε β → σ → Prop} {next : σ → Act I ε σ β}
    (rest : ∀ state, pre state → Triple (· = state) allowed post (next state)) :
    Triple pre allowed post (get >>= next) :=
  fun oracle world preHolds => rest world.state preHolds oracle world rfl

theorem triple_ite {post : Except ε α → σ → Prop} {condition : Prop}
    [Decidable condition] {first second : Act I ε σ α}
    (whenTrue : condition → Triple pre allowed post first)
    (whenFalse : ¬ condition → Triple pre allowed post second) :
    Triple pre allowed post (if condition then first else second) := by
  by_cases holds : condition
  · rw [if_pos holds]
    exact whenTrue holds
  · rw [if_neg holds]
    exact whenFalse holds

theorem Triple.weaken {pre' : σ → Prop} {post post' : Except ε α → σ → Prop}
    {act : Act I ε σ α} (triple : Triple pre allowed post act)
    (before : ∀ state, pre' state → pre state)
    (after : ∀ result state, post result state → post' result state) :
    Triple pre' allowed post' act :=
  fun oracle world preHolds =>
    let ⟨postHolds, recorded⟩ := triple oracle world (before _ preHolds)
    ⟨after _ _ postHolds, recorded⟩

theorem Triple.permit {allowed' : Event I → Prop} {post : Except ε α → σ → Prop}
    {act : Act I ε σ α} (triple : Triple pre allowed post act)
    (events : ∀ event, allowed event → allowed' event) : Triple pre allowed' post act :=
  fun oracle world preHolds =>
    let ⟨postHolds, recorded, grown, each⟩ := triple oracle world preHolds
    ⟨postHolds, recorded, grown, fun event member => events event (each event member)⟩

theorem Keeps.triple {inv : σ → Prop} {may : ε → Prop} {act : Act I ε σ α}
    (kept : Keeps inv allowed may act) :
    Triple inv allowed
      (fun result state => inv state ∧ ∀ error, result = .error error → may error) act :=
  fun oracle world holds =>
    let ⟨after, recorded, thrown⟩ := kept oracle world holds
    ⟨⟨after, thrown⟩, recorded⟩

theorem triple_bind_keeps {post : Except ε β → σ → Prop} {act : Act I ε σ α}
    {next : α → Act I ε σ β} (first : Keeps pre allowed (fun _ => False) act)
    (rest : ∀ value, Triple pre allowed post (next value)) :
    Triple pre allowed post (act >>= next) :=
  triple_bind first.triple
    (fun value => (rest value).weaken (fun _ holds => holds.1) fun _ _ holds => holds)
    fun error _ thrown => (thrown.2 error rfl).elim

theorem triple_modify {post : Except ε PUnit → σ → Prop} {change : σ → σ}
    (holds : ∀ state, pre state → post (.ok ⟨⟩) (change state)) :
    Triple pre allowed post (modify change : Act I ε σ PUnit) :=
  fun _ world preHolds => ⟨holds world.state preHolds, [], by simp, nofun⟩

theorem Triple.keeps {inv : σ → Prop} {may : ε → Prop} {act : Act I ε σ α}
    (triple : Triple inv allowed
      (fun result state => inv state ∧ ∀ error, result = .error error → may error) act) :
    Keeps inv allowed may act :=
  fun oracle world holds =>
    let ⟨⟨after, thrown⟩, recorded⟩ := triple oracle world holds
    ⟨after, recorded, thrown⟩

end

end Effect.Act
