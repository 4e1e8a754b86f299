import SoftwareContainers.Effect.Contract

namespace Effect.Act

variable {I : Interface} {ε σ τ α β ι : Type}

/-! Assertions about a whole world: what a program has recorded is part of it. -/

/-- What is known of the environment: each of its answers is fair. -/
def Answers (fair : Event I → Prop) (oracle : Oracle I) : Prop :=
  ∀ history call, fair ⟨call, oracle history call⟩

def Meets (fair : Event I → Prop) (pre : World I σ → Prop)
    (post : Except ε α → World I σ → Prop) (act : Act I ε σ α) : Prop :=
  ∀ oracle, Answers fair oracle → ∀ world, pre world →
    post (act.run oracle world).1 (act.run oracle world).2

section

variable {fair : Event I → Prop} {pre : World I σ → Prop}

theorem meets_pure {post : Except ε α → World I σ → Prop} {value : α}
    (holds : ∀ world, pre world → post (.ok value) world) :
    Meets fair pre post (pure value : Act I ε σ α) :=
  fun _ _ world preHolds => holds world preHolds

theorem meets_throw {post : Except ε α → World I σ → Prop} {error : ε}
    (holds : ∀ world, pre world → post (.error error) world) :
    Meets fair pre post (throw error : Act I ε σ α) :=
  fun _ _ world preHolds => holds world preHolds

theorem meets_bind (middle : Except ε α → World I σ → Prop)
    {post : Except ε β → World I σ → Prop} {act : Act I ε σ α} {next : α → Act I ε σ β}
    (first : Meets fair pre middle act)
    (rest : ∀ value, Meets fair (middle (.ok value)) post (next value))
    (thrown : ∀ error world, middle (.error error) world → post (.error error) world) :
    Meets fair pre post (act >>= next) := by
  intro oracle answers world preHolds
  have middleHolds := first oracle answers world preHolds
  rw [run_bind]
  cases ended : act.run oracle world with
  | mk result between =>
      rw [ended] at middleHolds
      cases result with
      | error error => exact thrown error between middleHolds
      | ok value => exact rest value oracle answers between middleHolds

theorem meets_get_bind {post : Except ε β → World I σ → Prop} {next : σ → Act I ε σ β}
    (rest : ∀ state, Meets fair (fun world => pre world ∧ world.state = state) post
      (next state)) :
    Meets fair pre post (get >>= next) :=
  fun oracle answers world preHolds =>
    rest world.state oracle answers world ⟨preHolds, rfl⟩

theorem meets_modify {post : Except ε PUnit → World I σ → Prop} {change : σ → σ}
    (holds : ∀ world, pre world →
      post (.ok ⟨⟩) { world with state := change world.state }) :
    Meets fair pre post (modify change : Act I ε σ PUnit) :=
  fun _ _ world preHolds => holds world preHolds

theorem meets_ask {call : I.Call} {post : Except ε (I.Answer call) → World I σ → Prop}
    (holds : ∀ world answer, pre world → fair ⟨call, answer⟩ →
      post (.ok answer) { world with history := world.history ++ [⟨call, answer⟩] }) :
    Meets fair pre post (ask call : Act I ε σ (I.Answer call)) :=
  fun _ answers world preHolds => holds world _ preHolds (answers world.history call)

theorem meets_ask_bind {call : I.Call} (middle : I.Answer call → World I σ → Prop)
    {post : Except ε β → World I σ → Prop} {next : I.Answer call → Act I ε σ β}
    (asked : ∀ world answer, pre world → fair ⟨call, answer⟩ →
      middle answer { world with history := world.history ++ [⟨call, answer⟩] })
    (rest : ∀ answer, Meets fair (middle answer) post (next answer)) :
    Meets fair pre post (ask call >>= next) :=
  fun oracle answers world preHolds => rest _ oracle answers _
    (asked world _ preHolds (answers world.history call))

theorem meets_ite {post : Except ε α → World I σ → Prop} {condition : Prop}
    [Decidable condition] {first second : Act I ε σ α}
    (whenTrue : condition → Meets fair pre post first)
    (whenFalse : ¬ condition → Meets fair pre post second) :
    Meets fair pre post (if condition then first else second) := by
  by_cases holds : condition
  · rw [if_pos holds]
    exact whenTrue holds
  · rw [if_neg holds]
    exact whenFalse holds

theorem Meets.weaken {pre' : World I σ → Prop} {post post' : Except ε α → World I σ → Prop}
    {act : Act I ε σ α} (meets : Meets fair pre post act)
    (before : ∀ world, pre' world → pre world)
    (after : ∀ result world, post result world → post' result world) :
    Meets fair pre' post' act :=
  fun oracle answers world preHolds =>
    after _ _ (meets oracle answers world (before world preHolds))

theorem Meets.strengthen {pre' : World I σ → Prop} {post : Except ε α → World I σ → Prop}
    {act : Act I ε σ α} (meets : Meets fair pre post act)
    (before : ∀ world, pre' world → pre world) : Meets fair pre' post act :=
  meets.weaken before fun _ _ holds => holds

def Decides (succeeded failed : World I σ → Prop) (result : Except ε Bool)
    (world : World I σ) : Prop :=
  (result = .ok true ∧ succeeded world) ∨ (result = .ok false ∧ failed world)

theorem meets_decides_bind {succeeded failed : World I σ → Prop}
    {post : Except ε β → World I σ → Prop} {act : Act I ε σ Bool} {next : Bool → Act I ε σ β}
    (attempt : Meets fair pre (Decides succeeded failed) act)
    (whenTrue : Meets fair succeeded post (next true))
    (whenFalse : Meets fair failed post (next false)) : Meets fair pre post (act >>= next) := by
  refine meets_bind _ attempt (fun value => ?_) fun _ _ ended => ?_
  · cases value with
    | true =>
        refine whenTrue.strengthen fun world ended => ?_
        rcases ended with ⟨_, holds⟩ | ⟨same, _⟩
        · exact holds
        · cases same
    | false =>
        refine whenFalse.strengthen fun world ended => ?_
        rcases ended with ⟨same, _⟩ | ⟨_, holds⟩
        · cases same
        · exact holds
  · rcases ended with ⟨same, _⟩ | ⟨same, _⟩ <;> cases same

/-- An assertion that holds before and after, whatever the result is. -/
abbrev Maintains (fair : Event I → Prop) (inv : World I σ → Prop) (act : Act I ε σ α) :
    Prop :=
  Meets fair inv (fun _ => inv) act

theorem maintains_pure {inv : World I σ → Prop} (value : α) :
    Maintains fair inv (pure value : Act I ε σ α) :=
  meets_pure fun _ holds => holds

theorem maintains_throw {inv : World I σ → Prop} (error : ε) :
    Maintains fair inv (throw error : Act I ε σ α) :=
  meets_throw fun _ holds => holds

theorem maintains_bind {inv : World I σ → Prop} {act : Act I ε σ α}
    {next : α → Act I ε σ β} (first : Maintains fair inv act)
    (rest : ∀ value, Maintains fair inv (next value)) :
    Maintains fair inv (act >>= next) :=
  meets_bind (fun _ => inv) first rest fun _ _ holds => holds

theorem maintains_get_bind {inv : World I σ → Prop} {next : σ → Act I ε σ β}
    (rest : ∀ state, Maintains fair inv (next state)) : Maintains fair inv (get >>= next) :=
  fun oracle answers world holds => rest world.state oracle answers world holds

theorem maintains_map {inv : World I σ → Prop} {act : Act I ε σ α} {change : α → β}
    (maintained : Maintains fair inv act) : Maintains fair inv (change <$> act) := by
  intro oracle answers world holds
  rw [run_map]
  exact maintained oracle answers world holds

/-- What one run of the first step has reached, the rest maintains. -/
theorem holds_after_bind {inv : World I σ → Prop} {act : Act I ε σ α}
    {next : α → Act I ε σ β} {oracle : Oracle I} (answers : Answers fair oracle)
    {world : World I σ} (reached : inv (act.run oracle world).2)
    (rest : ∀ value, Maintains fair inv (next value)) :
    inv ((act >>= next).run oracle world).2 := by
  rw [run_bind]
  cases ended : act.run oracle world with
  | mk result between =>
      rw [ended] at reached
      cases result with
      | error error => exact reached
      | ok value => exact rest value oracle answers between reached

theorem meets_bind_maintains {post : Except ε β → World I σ → Prop} {act : Act I ε σ α}
    {next : α → Act I ε σ β} (first : Maintains fair pre act)
    (rest : ∀ value, Meets fair pre post (next value))
    (thrown : ∀ error world, pre world → post (.error error) world) :
    Meets fair pre post (act >>= next) :=
  meets_bind (fun _ => pre) first rest thrown

theorem account_append {account : History I → β} {allowed : Event I → Prop}
    (unseen : ∀ history event, allowed event →
      account (history ++ [event]) = account history) (history recorded : History I)
    (each : ∀ event ∈ recorded, allowed event) :
    account (history ++ recorded) = account history := by
  induction recorded generalizing history with
  | nil => rw [List.append_nil]
  | cons event rest ih =>
      obtain ⟨first, others⟩ := List.forall_mem_cons.mp each
      rw [List.append_cons, ih _ others, unseen history event first]

/-- What is not looked at may change: a part of the state that is left, and an account
of the events to which the allowed ones do not count. -/
theorem Keeps.maintains {part : σ → τ} {account : History I → β} {holds : τ → β → Prop}
    {allowed : Event I → Prop} {may : ε → Prop} {act : Act I ε σ α}
    (kept : Keeps (fun _ => True) allowed may act) (leaves : Leaves part act)
    (unseen : ∀ history event, allowed event →
      account (history ++ [event]) = account history) :
    Maintains fair (fun world => holds (part world.state) (account world.history)) act := by
  intro oracle _ world before
  obtain ⟨_, ⟨recorded, grown, each⟩, _⟩ := kept oracle world trivial
  have same : account (act.run oracle world).2.history = account world.history := by
    rw [grown, account_append unseen _ _ each]
  rw [leaves oracle world, same]
  exact before

end

end Effect.Act
