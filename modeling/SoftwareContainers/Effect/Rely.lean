import SoftwareContainers.Effect.Invariant
import SoftwareContainers.Effect.Records

namespace Effect.Act

variable {I : Interface} {ε σ α β ι : Type}

/-! What holds of each event, seen after those before it. -/

def EachEvent (holds : History I → Event I → Prop) : History I → History I → Prop
  | _, [] => True
  | front, event :: rest => holds front event ∧ EachEvent holds (front ++ [event]) rest

/-- Each event of a history meets what may depend on those before it. -/
abbrev Each (holds : History I → Event I → Prop) (history : History I) : Prop :=
  EachEvent holds [] history

section

variable {holds : History I → Event I → Prop}

instance decidableEachEvent [∀ front event, Decidable (holds front event)] :
    ∀ front history, Decidable (EachEvent holds front history)
  | _, [] => .isTrue trivial
  | front, event :: rest =>
      have := decidableEachEvent (front ++ [event]) rest
      inferInstanceAs (Decidable (_ ∧ _))

theorem eachEvent_append (front first second : History I) :
    EachEvent holds front (first ++ second) ↔
      EachEvent holds front first ∧ EachEvent holds (front ++ first) second := by
  induction first generalizing front with
  | nil => simp [EachEvent]
  | cons event rest ih =>
      rw [List.cons_append, EachEvent, EachEvent, ih, and_assoc, List.append_assoc,
        List.singleton_append]

theorem each_concat (history : History I) (event : Event I) :
    Each holds (history ++ [event]) ↔ Each holds history ∧ holds history event := by
  rw [Each, eachEvent_append, List.nil_append, EachEvent, EachEvent, and_true]

theorem eachEvent_and {first second : History I → Event I → Prop} (front history : History I) :
    EachEvent (fun before event => first before event ∧ second before event) front history ↔
      EachEvent first front history ∧ EachEvent second front history := by
  induction history generalizing front with
  | nil => simp [EachEvent]
  | cons event rest ih =>
      rw [EachEvent, EachEvent, EachEvent, ih]
      exact and_and_and_comm

end

/-! Programs that guarantee something of each event as long as each answer is one that they
can rely on. -/

def Secures (rely guarantee : History I → Event I → Prop) (pre : World I σ → Prop)
    (post : Except ε α → World I σ → Prop) (act : Act I ε σ α) : Prop :=
  ∀ oracle world, Each rely (act.run oracle world).2.history →
    Each rely world.history ∧
      (Each guarantee world.history → pre world →
        Each guarantee (act.run oracle world).2.history ∧
          post (act.run oracle world).1 (act.run oracle world).2)

section

variable {rely guarantee : History I → Event I → Prop} {pre pre' : World I σ → Prop}

theorem secures_pure {post : Except ε α → World I σ → Prop} {value : α}
    (holds : ∀ world, pre world → post (.ok value) world) :
    Secures rely guarantee pre post (pure value : Act I ε σ α) :=
  fun _ world relied => ⟨relied, fun guaranteed before => ⟨guaranteed, holds world before⟩⟩

theorem secures_throw {post : Except ε α → World I σ → Prop} {error : ε}
    (holds : ∀ world, pre world → post (.error error) world) :
    Secures rely guarantee pre post (throw error : Act I ε σ α) :=
  fun _ world relied => ⟨relied, fun guaranteed before => ⟨guaranteed, holds world before⟩⟩

theorem secures_bind (middle : Except ε α → World I σ → Prop)
    {post : Except ε β → World I σ → Prop} {act : Act I ε σ α} {next : α → Act I ε σ β}
    (first : Secures rely guarantee pre middle act)
    (rest : ∀ value, Secures rely guarantee (middle (.ok value)) post (next value))
    (thrown : ∀ error world, middle (.error error) world → post (.error error) world) :
    Secures rely guarantee pre post (act >>= next) := by
  intro oracle world
  have reached := first oracle world
  rw [run_bind]
  cases ended : act.run oracle world with
  | mk result between =>
      rw [ended] at reached
      cases result with
      | error error =>
          refine fun relied => (reached relied).imp_right fun holds guaranteed before => ?_
          exact (holds guaranteed before).imp_right (thrown error between)
      | ok value =>
          intro relied
          obtain ⟨reliedBetween, later⟩ := rest value oracle between relied
          obtain ⟨reliedBefore, holds⟩ := reached reliedBetween
          refine ⟨reliedBefore, fun guaranteed before => ?_⟩
          obtain ⟨guaranteed, middleHolds⟩ := holds guaranteed before
          exact later guaranteed middleHolds

theorem secures_tryCatch (middle : Except ε α → World I σ → Prop)
    {post : Except ε α → World I σ → Prop} {act : Act I ε σ α} {handler : ε → Act I ε σ α}
    (body : Secures rely guarantee pre middle act)
    (ended : ∀ value world, middle (.ok value) world → post (.ok value) world)
    (handled : ∀ error, Secures rely guarantee (middle (.error error)) post (handler error)) :
    Secures rely guarantee pre post (tryCatch act handler) := by
  intro oracle world
  have reached := body oracle world
  rw [run_tryCatch]
  cases ran : act.run oracle world with
  | mk result between =>
      rw [ran] at reached
      cases result with
      | ok value =>
          refine fun relied => (reached relied).imp_right fun holds guaranteed before => ?_
          exact (holds guaranteed before).imp_right (ended value between)
      | error error =>
          intro relied
          obtain ⟨reliedBetween, later⟩ := handled error oracle between relied
          obtain ⟨reliedBefore, holds⟩ := reached reliedBetween
          refine ⟨reliedBefore, fun guaranteed before => ?_⟩
          obtain ⟨guaranteed, middleHolds⟩ := holds guaranteed before
          exact later guaranteed middleHolds

theorem secures_get_bind {post : Except ε β → World I σ → Prop} {next : σ → Act I ε σ β}
    (rest : ∀ state, Secures rely guarantee (fun world => pre world ∧ world.state = state) post
      (next state)) :
    Secures rely guarantee pre post (get >>= next) := fun oracle world relied =>
  (rest world.state oracle world relied).imp_right fun holds guaranteed before =>
    holds guaranteed ⟨before, rfl⟩

theorem secures_modify {post : Except ε PUnit → World I σ → Prop} {change : σ → σ}
    (holds : ∀ world, pre world →
      post (.ok ⟨⟩) { world with state := change world.state }) :
    Secures rely guarantee pre post (modify change : Act I ε σ PUnit) :=
  fun _ world relied => ⟨relied, fun guaranteed before => ⟨guaranteed, holds world before⟩⟩

theorem secures_set {post : Except ε PUnit → World I σ → Prop} {state : σ}
    (holds : ∀ world, pre world → post (.ok ⟨⟩) { world with state }) :
    Secures rely guarantee pre post (set state : Act I ε σ PUnit) :=
  fun _ world relied => ⟨relied, fun guaranteed before => ⟨guaranteed, holds world before⟩⟩

theorem secures_ask (call : I.Call) {post : Except ε (I.Answer call) → World I σ → Prop}
    (holds : ∀ world answer, pre world → rely world.history ⟨call, answer⟩ →
      guarantee world.history ⟨call, answer⟩ ∧
        post (.ok answer) { world with history := world.history ++ [⟨call, answer⟩] }) :
    Secures rely guarantee pre post (ask call : Act I ε σ (I.Answer call)) := by
  intro oracle world relied
  obtain ⟨reliedBefore, isRelied⟩ := (each_concat _ _).mp relied
  refine ⟨reliedBefore, fun guaranteed before => ?_⟩
  obtain ⟨isGuaranteed, after⟩ := holds world _ before isRelied
  exact ⟨(each_concat _ _).mpr ⟨guaranteed, isGuaranteed⟩, after⟩

theorem secures_ite {post : Except ε α → World I σ → Prop} {condition : Prop}
    [Decidable condition] {first second : Act I ε σ α}
    (whenTrue : condition → Secures rely guarantee pre post first)
    (whenFalse : ¬ condition → Secures rely guarantee pre post second) :
    Secures rely guarantee pre post (if condition then first else second) := by
  by_cases holds : condition
  · rw [if_pos holds]
    exact whenTrue holds
  · rw [if_neg holds]
    exact whenFalse holds

theorem Secures.weaken {post post' : Except ε α → World I σ → Prop} {act : Act I ε σ α}
    (secures : Secures rely guarantee pre post act) (before : ∀ world, pre' world → pre world)
    (after : ∀ result world, post result world → post' result world) :
    Secures rely guarantee pre' post' act := fun oracle world relied =>
  (secures oracle world relied).imp_right fun holds guaranteed starts =>
    (holds guaranteed (before world starts)).imp_right (after _ _)

theorem Secures.starting {post : Except ε α → World I σ → Prop} {act : Act I ε σ α}
    (secures : Secures rely guarantee pre post act) (before : ∀ world, pre' world → pre world) :
    Secures rely guarantee pre' post act :=
  secures.weaken before fun _ _ after => after

theorem Secures.given {post : Except ε α → World I σ → Prop} {act : Act I ε σ α}
    (secures : Secures rely guarantee pre post act) (fact : Prop) :
    Secures rely guarantee (fun world => pre world ∧ fact)
      (fun result world => post result world ∧ fact) act := fun oracle world relied =>
  (secures oracle world relied).imp_right fun holds guaranteed starts =>
    (holds guaranteed starts.1).imp_right fun after => ⟨after, starts.2⟩

theorem secures_ask_bind {call : I.Call} (middle : I.Answer call → World I σ → Prop)
    {post : Except ε β → World I σ → Prop} {next : I.Answer call → Act I ε σ β}
    (asked : ∀ world answer, pre world → rely world.history ⟨call, answer⟩ →
      guarantee world.history ⟨call, answer⟩ ∧
        middle answer { world with history := world.history ++ [⟨call, answer⟩] })
    (rest : ∀ answer, Secures rely guarantee (middle answer) post (next answer)) :
    Secures rely guarantee pre post (ask call >>= next) := by
  refine secures_bind (fun result world => ∃ answer, result = .ok answer ∧ middle answer world)
    (secures_ask call fun world answer before relied => ?_) (fun answer => ?_) (fun _ _ => nofun)
  · obtain ⟨guaranteed, after⟩ := asked world answer before relied
    exact ⟨guaranteed, answer, rfl, after⟩
  · refine (rest answer).starting fun world reached => ?_
    obtain ⟨_, same, after⟩ := reached
    cases same
    exact after

theorem secures_of_fact {post : Except ε α → World I σ → Prop} {act : Act I ε σ α} {fact : Prop}
    (grown : Grown act) (whenTrue : fact → Secures rely guarantee pre post act) :
    Secures rely guarantee (fun world => pre world ∧ fact) post act := by
  intro oracle world relied
  obtain ⟨_, ⟨recorded, isGrown, _⟩, _⟩ := grown oracle world trivial
  refine ⟨?_, fun guaranteed starts => ?_⟩
  · rw [isGrown, Each, eachEvent_append] at relied
    exact relied.1
  · exact (whenTrue starts.2 oracle world relied).2 guaranteed starts.1

theorem eachEvent_of_forall {holds : History I → Event I → Prop} {events : History I}
    (all : ∀ event ∈ events, ∀ front, holds front event) (front : History I) :
    EachEvent holds front events := by
  induction events generalizing front with
  | nil => exact trivial
  | cons event rest ih =>
      exact ⟨all event (.head _) front, ih (fun other member => all other (.tail _ member)) _⟩

theorem known_append {allowed : Event I → Prop} {known : History I → Prop}
    (kept : ∀ history event, allowed event → known history → known (history ++ [event]))
    {history recorded : History I} (all : ∀ event ∈ recorded, allowed event)
    (before : known history) : known (history ++ recorded) := by
  induction recorded generalizing history with
  | nil => rwa [List.append_nil]
  | cons event rest ih =>
      rw [List.append_cons]
      exact ih (fun other member => all other (.tail _ member))
        (kept history event (all event (.head _)) before)

/-- A program whose events are guaranteed and change nothing that is known of the history. -/
theorem Keeps.secures {allowed : Event I → Prop} {may : ε → Prop} {act : Act I ε σ α}
    {known : History I → Prop} (keeps : Keeps (fun _ => True) allowed may act)
    (guaranteed : ∀ front event, allowed event → guarantee front event)
    (kept : ∀ history event, allowed event → known history → known (history ++ [event])) :
    Secures rely guarantee (fun world => known world.history)
      (fun result world => known world.history ∧ ∀ error, result = .error error → may error)
      act := by
  intro oracle world relied
  obtain ⟨_, ⟨recorded, grown, all⟩, mayThrow⟩ := keeps oracle world trivial
  rw [grown, Each, eachEvent_append] at relied
  refine ⟨relied.1, fun secured before => ⟨?_, ?_, mayThrow⟩⟩
  · rw [grown, Each, eachEvent_append]
    exact ⟨secured, eachEvent_of_forall (fun event member front =>
      guaranteed front event (all event member)) _⟩
  · rw [grown]
    exact known_append kept all before

theorem secures_runAll {inv : World I σ → Prop} {condition : World I σ → ι → Prop}
    {operation : ι → Act I ε σ α}
    (step : ∀ operand, Secures rely guarantee
      (fun world => inv world ∧ condition world operand) (fun _ => inv) (operation operand))
    (oracle : Oracle I) (operands : List ι) (world : World I σ)
    (met : Throughout operation oracle condition operands world)
    (relied : Each rely (runAll operation oracle operands world).2.history) :
    Each rely world.history ∧
      (Each guarantee world.history → inv world →
        Each guarantee (runAll operation oracle operands world).2.history ∧
          inv (runAll operation oracle operands world).2) := by
  induction operands generalizing world with
  | nil => exact ⟨relied, fun guaranteed holds => ⟨guaranteed, holds⟩⟩
  | cons operand rest ih =>
      obtain ⟨reliedBetween, later⟩ := ih _ met.2 relied
      obtain ⟨reliedBefore, holds⟩ := step operand oracle world reliedBetween
      refine ⟨reliedBefore, fun guaranteed starts => ?_⟩
      obtain ⟨guaranteed, between⟩ := holds guaranteed ⟨starts, met.1⟩
      exact later guaranteed between

end

end Effect.Act
