import SoftwareContainers.Effect.Act

namespace Effect.Act

variable {I : Interface} {ε σ τ α β γ κ ρ ι : Type}

/-! Contracts: an invariant of the state, the events that may be recorded, and the
errors that may be thrown. -/

/-- The second history is the first one and then allowed events. -/
def Grows (allowed : Event I → Prop) (before after : History I) : Prop :=
  ∃ recorded, after = before ++ recorded ∧ ∀ event ∈ recorded, allowed event

theorem Grows.trans {allowed : Event I → Prop} {before middle after : History I}
    (first : Grows allowed before middle) (second : Grows allowed middle after) :
    Grows allowed before after := by
  obtain ⟨early, grownEarly, allowedEarly⟩ := first
  obtain ⟨late, grownLate, allowedLate⟩ := second
  refine ⟨early ++ late, ?_, ?_⟩
  · rw [grownLate, grownEarly, List.append_assoc]
  · exact fun event member => (List.mem_append.mp member).elim
      (allowedEarly event) (allowedLate event)

/-- From a state with the invariant, and whatever the environment answers: the
invariant holds afterwards, every new event is allowed, and so is a thrown error. -/
def Keeps (inv : σ → Prop) (allowed : Event I → Prop) (may : ε → Prop)
    (act : Act I ε σ α) : Prop :=
  ∀ oracle world, inv world.state →
    inv (act.run oracle world).2.state ∧
    (∃ recorded, (act.run oracle world).2.history = world.history ++ recorded ∧
      ∀ event ∈ recorded, allowed event) ∧
    ∀ error, (act.run oracle world).1 = .error error → may error

section

variable {inv : σ → Prop} {allowed : Event I → Prop} {may : ε → Prop}

theorem keeps_pure (value : α) : Keeps inv allowed may (pure value : Act I ε σ α) :=
  fun _ _ holds => ⟨holds, ⟨[], by simp, nofun⟩, nofun⟩

theorem keeps_throw {error : ε} (permitted : may error) :
    Keeps inv allowed may (throw error : Act I ε σ α) :=
  fun _ _ holds => ⟨holds, ⟨[], by simp, nofun⟩,
    fun _ same => by cases same; exact permitted⟩

theorem keeps_bind {act : Act I ε σ α} {next : α → Act I ε σ β}
    (first : Keeps inv allowed may act)
    (rest : ∀ value, Keeps inv allowed may (next value)) :
    Keeps inv allowed may (act >>= next) := by
  intro oracle world holds
  obtain ⟨holdsMiddle, recorded, mayFirst⟩ := first oracle world holds
  rw [run_bind]
  cases ended : act.run oracle world with
  | mk result middle =>
      rw [ended] at holdsMiddle recorded mayFirst
      cases result with
      | error thrown =>
          refine ⟨holdsMiddle, recorded, fun error same => ?_⟩
          cases same
          exact mayFirst thrown rfl
      | ok value =>
          obtain ⟨early, grownEarly, allowedEarly⟩ := recorded
          obtain ⟨holdsAfter, ⟨late, grownLate, allowedLate⟩, mayRest⟩ :=
            rest value oracle middle holdsMiddle
          refine ⟨holdsAfter, ⟨early ++ late, ?_, ?_⟩, mayRest⟩
          · rw [grownLate, grownEarly, List.append_assoc]
          · exact fun event member => (List.mem_append.mp member).elim
              (allowedEarly event) (allowedLate event)

theorem keeps_map {act : Act I ε σ α} {change : α → β}
    (kept : Keeps inv allowed may act) : Keeps inv allowed may (change <$> act) :=
  keeps_bind kept fun _ => keeps_pure _

theorem keeps_get_bind {next : σ → Act I ε σ β}
    (rest : ∀ state, inv state → Keeps inv allowed may (next state)) :
    Keeps inv allowed may (get >>= next) :=
  fun oracle world holds => rest world.state holds oracle world holds

theorem keeps_modify {change : σ → σ}
    (kept : ∀ state, inv state → inv (change state)) :
    Keeps inv allowed may (modify change : Act I ε σ PUnit) :=
  fun _ world holds => ⟨kept world.state holds, ⟨[], by simp, nofun⟩, nofun⟩

theorem keeps_ask {call : I.Call}
    (permitted : ∀ answer : I.Answer call, allowed ⟨call, answer⟩) :
    Keeps inv allowed may (ask call : Act I ε σ (I.Answer call)) :=
  fun oracle world holds =>
    ⟨holds, ⟨[⟨call, oracle world.history call⟩], rfl, fun event member => by
      cases List.mem_singleton.mp member
      exact permitted (oracle world.history call)⟩, nofun⟩

theorem keeps_ite {condition : Prop} [Decidable condition]
    {first second : Act I ε σ α}
    (whenTrue : condition → Keeps inv allowed may first)
    (whenFalse : ¬ condition → Keeps inv allowed may second) :
    Keeps inv allowed may (if condition then first else second) := by
  by_cases holds : condition
  · rw [if_pos holds]
    exact whenTrue holds
  · rw [if_neg holds]
    exact whenFalse holds

theorem keeps_tryCatch {thrown : ε → Prop} {act : Act I ε σ α}
    {handler : ε → Act I ε σ α} (body : Keeps inv allowed thrown act)
    (handled : ∀ error, thrown error → Keeps inv allowed may (handler error)) :
    Keeps inv allowed may (tryCatch act handler) := by
  intro oracle world holds
  obtain ⟨holdsMiddle, ⟨early, grownEarly, allowedEarly⟩, mayBody⟩ :=
    body oracle world holds
  rw [run_tryCatch]
  cases ended : act.run oracle world with
  | mk result middle =>
      rw [ended] at holdsMiddle grownEarly mayBody
      cases result with
      | ok value =>
          exact ⟨holdsMiddle, ⟨early, grownEarly, allowedEarly⟩, nofun⟩
      | error error =>
          obtain ⟨holdsAfter, ⟨late, grownLate, allowedLate⟩, mayHandler⟩ :=
            handled error (mayBody error rfl) oracle middle holdsMiddle
          refine ⟨holdsAfter, ⟨early ++ late, ?_, ?_⟩, mayHandler⟩
          · rw [grownLate, grownEarly, List.append_assoc]
          · exact fun event member => (List.mem_append.mp member).elim
              (allowedEarly event) (allowedLate event)

theorem Keeps.weaken {allowed' : Event I → Prop} {may' : ε → Prop}
    {act : Act I ε σ α} (kept : Keeps inv allowed may act)
    (events : ∀ event, allowed event → allowed' event)
    (errors : ∀ error, may error → may' error) : Keeps inv allowed' may' act := by
  intro oracle world holds
  obtain ⟨holdsAfter, ⟨recorded, grown, allowedAll⟩, mayAll⟩ :=
    kept oracle world holds
  exact ⟨holdsAfter,
    ⟨recorded, grown, fun event member => events event (allowedAll event member)⟩,
    fun error same => errors error (mayAll error same)⟩

theorem Keeps.anyError {act : Act I ε σ α} (kept : Keeps inv allowed may act) :
    Keeps inv allowed (fun _ => True) act :=
  kept.weaken (fun _ isAllowed => isAllowed) fun _ _ => trivial

theorem keeps_attempt {ε' : Type} {may' : ε' → Prop} {act : Act I ε σ α}
    (kept : Keeps inv allowed may act) :
    Keeps inv allowed may' (act.attempt : Act I ε' σ (Except ε α)) := by
  intro oracle world holds
  obtain ⟨holdsAfter, recorded, _⟩ := kept oracle world holds
  exact ⟨holdsAfter, recorded, nofun⟩

end

theorem keeps_zoom {part : τ → Prop} {whole : σ → Prop}
    {allowed : Event I → Prop} {may : ε → Prop} {lens : Lens σ τ} {act : Act I ε τ α}
    (down : ∀ state, whole state → part (lens.get state))
    (up : ∀ state value, whole state → part value → whole (lens.set value state))
    (kept : Keeps part allowed may act) : Keeps whole allowed may (zoom lens act) := by
  intro oracle world holds
  obtain ⟨holdsPart, recorded, mayAll⟩ :=
    kept oracle ⟨lens.get world.state, world.history⟩ (down _ holds)
  exact ⟨up _ _ holds holdsPart, recorded, mayAll⟩

theorem keeps_runOn {inv : σ → Prop} {part : τ → Prop} {allowed : Event I → Prop}
    {may : ε → Prop} {state : τ} {act : Act I ε τ α} (holds : part state)
    (kept : Keeps part allowed may act) :
    Keeps inv allowed may (runOn state act : Act I ε σ (α × τ)) := by
  intro oracle world whole
  obtain ⟨_, recorded, thrown⟩ := kept oracle ⟨state, world.history⟩ holds
  refine ⟨whole, recorded, fun error same => thrown error ?_⟩
  cases ended : (act.run oracle ⟨state, world.history⟩).1 with
  | ok value => simp only [runOn, ended, Except.map] at same; cases same
  | error thrownError =>
      simp only [runOn, ended, Except.map] at same
      cases same
      rfl

def Leaves (part : σ → τ) (act : Act I ε σ α) : Prop :=
  ∀ oracle world, part (act.run oracle world).2.state = part world.state

section

variable {part : σ → τ}

theorem leaves_pure (value : α) : Leaves part (pure value : Act I ε σ α) :=
  fun _ _ => rfl

theorem leaves_throw (error : ε) : Leaves part (throw error : Act I ε σ α) :=
  fun _ _ => rfl

theorem leaves_bind {act : Act I ε σ α} {next : α → Act I ε σ β} (first : Leaves part act)
    (rest : ∀ value, Leaves part (next value)) : Leaves part (act >>= next) := by
  intro oracle world
  have same := first oracle world
  rw [run_bind]
  cases ended : act.run oracle world with
  | mk result middle =>
      rw [ended] at same
      cases result with
      | error error => exact same
      | ok value => exact (rest value oracle middle).trans same

theorem leaves_get_bind {next : σ → Act I ε σ β} (rest : ∀ state, Leaves part (next state)) :
    Leaves part (get >>= next) :=
  fun oracle world => rest world.state oracle world

theorem leaves_modify {change : σ → σ} (same : ∀ state, part (change state) = part state) :
    Leaves part (modify change : Act I ε σ PUnit) :=
  fun _ world => same world.state

theorem leaves_ite {condition : Prop} [Decidable condition] {first second : Act I ε σ α}
    (whenTrue : Leaves part first) (whenFalse : Leaves part second) :
    Leaves part (if condition then first else second) := by
  by_cases holds : condition
  · rw [if_pos holds]
    exact whenTrue
  · rw [if_neg holds]
    exact whenFalse

theorem leaves_tryCatch {act : Act I ε σ α} {handler : ε → Act I ε σ α}
    (body : Leaves part act) (handled : ∀ error, Leaves part (handler error)) :
    Leaves part (tryCatch act handler) := by
  intro oracle world
  have same := body oracle world
  rw [run_tryCatch]
  cases ended : act.run oracle world with
  | mk result middle =>
      rw [ended] at same
      cases result with
      | ok value => exact same
      | error error => exact (handled error oracle middle).trans same

theorem leaves_zoom {whole : Type} {lens : Lens σ whole} {act : Act I ε whole α}
    (same : ∀ value state, part (lens.set value state) = part state) :
    Leaves part (zoom lens act) :=
  fun _ _ => same _ _

theorem leaves_ask (call : I.Call) :
    Leaves part (ask call : Act I ε σ (I.Answer call)) :=
  fun _ _ => rfl

theorem leaves_map {act : Act I ε σ α} {change : α → β} (kept : Leaves part act) :
    Leaves part (change <$> act) :=
  leaves_bind kept fun _ => leaves_pure _

theorem leaves_attempt {ε' : Type} {act : Act I ε σ α} (kept : Leaves part act) :
    Leaves part (act.attempt : Act I ε' σ (Except ε α)) :=
  kept

theorem leaves_runOn {whole : Type} (state : whole) (act : Act I ε whole α) :
    Leaves part (runOn state act : Act I ε σ (α × whole)) :=
  fun _ _ => rfl

end

/-! A loop over a list whose body updates the element it is at.  The body
returns `none` to go on and `some result` to leave the function. -/

def sweepList (body : Act I ε (γ × κ) (Option ρ)) (oracle : Oracle I) :
    List γ → κ → History I → Except ε (Option ρ) × World I (List γ × κ)
  | [], rest, history => (.ok none, ⟨([], rest), history⟩)
  | head :: tail, rest, history =>
      match body.run oracle ⟨(head, rest), history⟩ with
      | (.ok none, world) =>
          let swept := sweepList body oracle tail world.state.2 world.history
          (swept.1, ⟨(world.state.1 :: swept.2.state.1, swept.2.state.2),
            swept.2.history⟩)
      | (result, world) =>
          (result, ⟨(world.state.1 :: tail, world.state.2), world.history⟩)

def sweep (body : Act I ε (γ × κ) (Option ρ)) :
    Act I ε (List γ × κ) (Option ρ) :=
  ⟨fun oracle world =>
    sweepList body oracle world.state.1 world.state.2 world.history⟩

theorem sweepList_append {body : Act I ε (γ × κ) (Option ρ)}
    {oracle : Oracle I} (passed rest : List γ) (part : κ) (history : History I)
    (passes : ∀ element ∈ passed, body.run oracle ⟨(element, part), history⟩ =
      (.ok none, ⟨(element, part), history⟩)) :
    sweepList body oracle (passed ++ rest) part history =
      let swept := sweepList body oracle rest part history
      (swept.1, ⟨(passed ++ swept.2.state.1, swept.2.state.2),
        swept.2.history⟩) := by
  induction passed with
  | nil => rfl
  | cons head tail ih =>
      have passesTail := ih fun element member =>
        passes element (List.mem_cons_of_mem _ member)
      simp only [List.cons_append, sweepList, passes head (by simp), passesTail]

theorem sweepList_cons_of_stop {body : Act I ε (γ × κ) (Option ρ)}
    {oracle : Oracle I} {head : γ} {tail : List γ} {part : κ}
    {history : History I} {result : Except ε (Option ρ)} {world : World I (γ × κ)}
    (ended : body.run oracle ⟨(head, part), history⟩ = (result, world))
    (stop : result ≠ .ok none) :
    sweepList body oracle (head :: tail) part history =
      (result, ⟨(world.state.1 :: tail, world.state.2), world.history⟩) := by
  rw [sweepList, ended]
  match result, stop with
  | .ok none, stop => exact absurd rfl stop
  | .ok (some _), _ => rfl
  | .error _, _ => rfl

theorem sweepList_cons_of_next {body : Act I ε (γ × κ) (Option ρ)}
    {oracle : Oracle I} {head : γ} {tail : List γ} {part : κ}
    {history : History I} {world : World I (γ × κ)}
    (ended : body.run oracle ⟨(head, part), history⟩ = (.ok none, world)) :
    sweepList body oracle (head :: tail) part history =
      let swept := sweepList body oracle tail world.state.2 world.history
      (swept.1, ⟨(world.state.1 :: swept.2.state.1, swept.2.state.2),
        swept.2.history⟩) := by
  rw [sweepList, ended]

theorem sweepList_cons_head (body : Act I ε (γ × κ) (Option ρ))
    (oracle : Oracle I) (head : γ) (tail : List γ) (part : κ)
    (history : History I) :
    ∃ tail', (sweepList body oracle (head :: tail) part history).2.state.1 =
      (body.run oracle ⟨(head, part), history⟩).2.state.1 :: tail' := by
  cases ended : body.run oracle ⟨(head, part), history⟩ with
  | mk result world =>
      match result with
      | .ok none => exact ⟨_, by rw [sweepList_cons_of_next ended]⟩
      | .ok (some _) =>
          exact ⟨tail, by rw [sweepList_cons_of_stop ended (by simp)]⟩
      | .error _ =>
          exact ⟨tail, by rw [sweepList_cons_of_stop ended (by simp)]⟩

/-- Whatever was asked before, the body goes on and turns the element into
`update element`. -/
def Passes (body : Act I ε (γ × κ) (Option ρ)) (oracle : Oracle I) (part : κ)
    (update : γ → γ) (element : γ) : Prop :=
  ∀ history, ∃ history', body.run oracle ⟨(element, part), history⟩ =
    (.ok none, ⟨(update element, part), history'⟩)

/-- Whatever was asked before, the body throws at the element. -/
def Throws (body : Act I ε (γ × κ) (Option ρ)) (oracle : Oracle I) (part : κ)
    (element : γ) : Prop :=
  ∀ history, ∃ error world, body.run oracle ⟨(element, part), history⟩ =
    (.error error, world)

theorem sweepList_map {body : Act I ε (γ × κ) (Option ρ)} {oracle : Oracle I}
    {part : κ} {update : γ → γ} {elements : List γ}
    (passes : ∀ element ∈ elements, Passes body oracle part update element)
    (history : History I) :
    ∃ history', sweepList body oracle elements part history =
      (.ok none, ⟨(elements.map update, part), history'⟩) := by
  induction elements generalizing history with
  | nil => exact ⟨history, rfl⟩
  | cons head tail ih =>
      obtain ⟨middle, headEnded⟩ := passes head List.mem_cons_self history
      obtain ⟨history', tailEnded⟩ := ih
        (fun element member => passes element (List.mem_cons_of_mem _ member)) middle
      exact ⟨history', by rw [sweepList_cons_of_next headEnded, tailEnded]; rfl⟩

theorem sweepList_error {body : Act I ε (γ × κ) (Option ρ)} {oracle : Oracle I}
    {part : κ} {update : γ → γ} {elements : List γ}
    (each : ∀ element ∈ elements,
      Passes body oracle part update element ∨ Throws body oracle part element)
    (throwing : ∃ element ∈ elements, Throws body oracle part element)
    (history : History I) :
    ∃ error world, sweepList body oracle elements part history =
      (.error error, world) := by
  induction elements generalizing history with
  | nil =>
      obtain ⟨element, member, _⟩ := throwing
      cases member
  | cons head tail ih =>
      rcases each head List.mem_cons_self with passes | throws
      · obtain ⟨middle, headEnded⟩ := passes history
        have inTail : ∃ element ∈ tail, Throws body oracle part element := by
          obtain ⟨element, member, throws⟩ := throwing
          rcases List.mem_cons.mp member with rfl | member
          · obtain ⟨_, _, ended⟩ := throws history
            cases headEnded.symm.trans ended
          · exact ⟨element, member, throws⟩
        obtain ⟨error, world, tailEnded⟩ := ih
          (fun element member => each element (List.mem_cons_of_mem _ member))
          inTail middle
        exact ⟨error, _, by rw [sweepList_cons_of_next headEnded, tailEnded]⟩
      · obtain ⟨error, world, headEnded⟩ := throws history
        exact ⟨error, _, by rw [sweepList_cons_of_stop headEnded (by simp)]⟩

theorem sweepList_keeps {part : γ → Prop} {rest : κ → Prop}
    {allowed : Event I → Prop} {may : ε → Prop}
    {body : Act I ε (γ × κ) (Option ρ)}
    (kept : Keeps (fun state => part state.1 ∧ rest state.2) allowed may body)
    (oracle : Oracle I) {elements : List γ} {other : κ} (history : History I)
    (parts : ∀ element ∈ elements, part element) (restHolds : rest other) :
    ((∀ element ∈ (sweepList body oracle elements other history).2.state.1,
        part element) ∧
      rest (sweepList body oracle elements other history).2.state.2) ∧
    (∃ recorded, (sweepList body oracle elements other history).2.history =
        history ++ recorded ∧ ∀ event ∈ recorded, allowed event) ∧
    ∀ error, (sweepList body oracle elements other history).1 = .error error →
      may error := by
  induction elements generalizing other history with
  | nil => exact ⟨⟨nofun, restHolds⟩, ⟨[], by simp [sweepList], nofun⟩, nofun⟩
  | cons head tail ih =>
      obtain ⟨headHolds, tailHolds⟩ := List.forall_mem_cons.mp parts
      obtain ⟨⟨headAfter, restAfter⟩, ⟨early, grownEarly, allowedEarly⟩, mayHead⟩ :=
        kept oracle ⟨(head, other), history⟩ ⟨headHolds, restHolds⟩
      cases ended : body.run oracle ⟨(head, other), history⟩ with
      | mk result world =>
          rw [ended] at headAfter restAfter grownEarly mayHead
          by_cases next : result = .ok none
          · subst next
            obtain ⟨⟨tailAfter, restFinal⟩, ⟨late, grownLate, allowedLate⟩, mayTail⟩ :=
              ih world.history tailHolds restAfter
            rw [sweepList_cons_of_next ended]
            refine ⟨⟨List.forall_mem_cons.mpr ⟨headAfter, tailAfter⟩, restFinal⟩,
              ⟨early ++ late, ?_, ?_⟩, mayTail⟩
            · dsimp only at grownLate grownEarly ⊢
              rw [grownLate, grownEarly, List.append_assoc]
            · exact fun event member => (List.mem_append.mp member).elim
                (allowedEarly event) (allowedLate event)
          · rw [sweepList_cons_of_stop ended next]
            exact ⟨⟨List.forall_mem_cons.mpr ⟨headAfter, tailHolds⟩, restAfter⟩,
              ⟨early, grownEarly, allowedEarly⟩, mayHead⟩

theorem keeps_sweep {part : γ → Prop} {rest : κ → Prop}
    {allowed : Event I → Prop} {may : ε → Prop}
    {body : Act I ε (γ × κ) (Option ρ)}
    (kept : Keeps (fun state => part state.1 ∧ rest state.2) allowed may body) :
    Keeps (fun state => (∀ element ∈ state.1, part element) ∧ rest state.2)
      allowed may (sweep body) :=
  fun oracle world holds => sweepList_keeps kept oracle world.history holds.1 holds.2

/-! Runs: one operation after the other, each ending as it may. -/

def runAll (operation : ι → Act I ε σ α) (oracle : Oracle I) :
    List ι → World I σ → List (Except ε α) × World I σ
  | [], world => ([], world)
  | first :: rest, world =>
      let ended := (operation first).run oracle world
      let after := runAll operation oracle rest ended.2
      (ended.1 :: after.1, after.2)

/-- What every operation preserves holds after any run of them. -/
theorem runAll_invariant {operation : ι → Act I ε σ α} {oracle : Oracle I}
    {invariant : World I σ → Prop}
    (step : ∀ (operand : ι) (world : World I σ), invariant world →
      invariant ((operation operand).run oracle world).2) :
    ∀ (operands : List ι) (world : World I σ), invariant world →
      invariant (runAll operation oracle operands world).2
  | [], _, holds => holds
  | first :: rest, world, holds =>
      runAll_invariant step rest _ (step first world holds)

theorem runAll_append (operation : ι → Act I ε σ α) (oracle : Oracle I)
    (first second : List ι) (world : World I σ) :
    runAll operation oracle (first ++ second) world =
      let before := runAll operation oracle first world
      let after := runAll operation oracle second before.2
      (before.1 ++ after.1, after.2) := by
  induction first generalizing world with
  | nil => rfl
  | cons head tail ih => simp only [List.cons_append, runAll, ih]

end Effect.Act
