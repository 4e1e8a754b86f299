import SoftwareContainers.Effect.Contract

namespace Effect.Act

variable {I : Interface} {ε σ τ α β : Type}

/-! What every run records, however it ends. -/

def Records (wanted : Event I → Prop) (act : Act I ε σ α) : Prop :=
  ∀ oracle world, ∃ recorded,
    (act.run oracle world).2.history = world.history ++ recorded ∧
      ∃ event ∈ recorded, wanted event

abbrev Grown (act : Act I ε σ α) : Prop :=
  Keeps (fun _ => True) (fun _ => True) (fun _ => True) act

theorem Keeps.grown {allowed : Event I → Prop} {may : ε → Prop} {act : Act I ε σ α}
    (kept : Keeps (fun _ => True) allowed may act) : Grown act :=
  kept.weaken (fun _ _ => trivial) fun _ _ => trivial

section

variable {wanted : Event I → Prop}

theorem Records.bind {act : Act I ε σ α} {next : α → Act I ε σ β}
    (first : Records wanted act)
    (rest : ∀ value, Grown (next value)) :
    Records wanted (act >>= next) := by
  intro oracle world
  obtain ⟨early, grownEarly, event, member, isWanted⟩ := first oracle world
  rw [run_bind]
  cases ended : act.run oracle world with
  | mk result between =>
      rw [ended] at grownEarly
      cases result with
      | error error => exact ⟨early, grownEarly, event, member, isWanted⟩
      | ok value =>
          obtain ⟨_, ⟨late, grownLate, _⟩, _⟩ := rest value oracle between trivial
          refine ⟨early ++ late, ?_, event, List.mem_append_left _ member, isWanted⟩
          rw [grownLate, grownEarly, List.append_assoc]

theorem records_ask_bind {call : I.Call}
    {next : I.Answer call → Act I ε σ β}
    (rest : ∀ answer, Grown (next answer))
    (answers : ∀ answer, wanted ⟨call, answer⟩ ∨ Records wanted (next answer)) :
    Records wanted (ask call >>= next) := by
  intro oracle world
  rw [run_ask_bind]
  rcases answers (oracle world.history call) with isWanted | records
  · obtain ⟨_, ⟨late, grownLate, _⟩, _⟩ := rest (oracle world.history call) oracle
      ⟨world.state, world.history ++ [⟨call, oracle world.history call⟩]⟩ trivial
    exact ⟨[⟨call, oracle world.history call⟩] ++ late,
      by rw [grownLate, List.append_assoc], _,
      List.mem_append_left _ (List.mem_singleton.mpr rfl), isWanted⟩
  · obtain ⟨late, grownLate, event, member, isWanted⟩ := records oracle
      ⟨world.state, world.history ++ [⟨call, oracle world.history call⟩]⟩
    exact ⟨[⟨call, oracle world.history call⟩] ++ late,
      by rw [grownLate, List.append_assoc], event, List.mem_append_right _ member,
      isWanted⟩

theorem records_bind {act : Act I ε σ α} {next : α → Act I ε σ β}
    (first : ∀ oracle world, ∃ recorded,
      (act.run oracle world).2.history = world.history ++ recorded ∧
        ((∃ event ∈ recorded, wanted event) ∨ ∃ value, (act.run oracle world).1 = .ok value))
    (rest : ∀ value, Records wanted (next value)) : Records wanted (act >>= next) := by
  intro oracle world
  obtain ⟨early, grownEarly, outcome⟩ := first oracle world
  rw [run_bind]
  cases ended : act.run oracle world with
  | mk result between =>
      rw [ended] at grownEarly outcome
      cases result with
      | error error =>
          rcases outcome with found | ⟨value, impossible⟩
          · exact ⟨early, grownEarly, found⟩
          · cases impossible
      | ok value =>
          obtain ⟨late, grownLate, event, member, isWanted⟩ := rest value oracle between
          refine ⟨early ++ late, ?_, event, List.mem_append_right _ member, isWanted⟩
          rw [grownLate, grownEarly, List.append_assoc]

theorem Records.runOn {state : τ} {act : Act I ε τ α} (records : Records wanted act) :
    Records wanted (runOn state act : Act I ε σ (α × τ)) :=
  fun oracle world => records oracle ⟨state, world.history⟩

end

end Effect.Act
