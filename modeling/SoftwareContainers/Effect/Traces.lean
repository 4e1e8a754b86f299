import SoftwareContainers.Effect.Contract

namespace Effect.Act

variable {I : Interface} {ε σ τ α β κ : Type}

/-! What a program leaves in an account that only some events count for. -/

/-- What is selected of a history, in its order. -/
def traceOf (select : Event I → Option κ) (history : History I) : List κ :=
  history.filterMap select

@[simp] theorem traceOf_append (select : Event I → Option κ) (first second : History I) :
    traceOf select (first ++ second) = traceOf select first ++ traceOf select second :=
  List.filterMap_append

theorem traceOf_eq_nil {select : Event I → Option κ} {history : History I}
    (each : ∀ event ∈ history, select event = none) : traceOf select history = [] :=
  List.filterMap_eq_nil_iff.mpr each

/-- From a state with the invariant, which stays: the result and what is selected of the
new events go together. -/
def Traces (inv : σ → Prop) (select : Event I → Option κ)
    (post : Except ε α → List κ → Prop) (act : Act I ε σ α) : Prop :=
  ∀ oracle world, inv world.state →
    inv (act.run oracle world).2.state ∧
    ∃ recorded, (act.run oracle world).2.history = world.history ++ recorded ∧
      post (act.run oracle world).1 (traceOf select recorded)

section

variable {inv : σ → Prop} {select : Event I → Option κ}

theorem traces_pure {post : Except ε α → List κ → Prop} {value : α}
    (holds : post (.ok value) []) : Traces inv select post (pure value : Act I ε σ α) :=
  fun _ _ kept => ⟨kept, [], by simp, holds⟩

theorem traces_throw {post : Except ε α → List κ → Prop} {error : ε}
    (holds : post (.error error) []) : Traces inv select post (throw error : Act I ε σ α) :=
  fun _ _ kept => ⟨kept, [], by simp, holds⟩

theorem Traces.weaken {post post' : Except ε α → List κ → Prop} {act : Act I ε σ α}
    (traces : Traces inv select post act)
    (after : ∀ result traced, post result traced → post' result traced) :
    Traces inv select post' act := by
  intro oracle world kept
  obtain ⟨keptAfter, recorded, grown, holds⟩ := traces oracle world kept
  exact ⟨keptAfter, recorded, grown, after _ _ holds⟩

theorem traces_bind {middle : Except ε α → List κ → Prop}
    {rest : α → Except ε β → List κ → Prop} {post : Except ε β → List κ → Prop}
    {act : Act I ε σ α} {next : α → Act I ε σ β} (first : Traces inv select middle act)
    (second : ∀ value, Traces inv select (rest value) (next value))
    (ended : ∀ value result early late, middle (.ok value) early → rest value result late →
      post result (early ++ late))
    (thrown : ∀ error early, middle (.error error) early → post (.error error) early) :
    Traces inv select post (act >>= next) := by
  intro oracle world kept
  obtain ⟨keptMiddle, early, grownEarly, holdsMiddle⟩ := first oracle world kept
  rw [run_bind]
  cases ran : act.run oracle world with
  | mk result between =>
      rw [ran] at keptMiddle grownEarly holdsMiddle
      cases result with
      | error error => exact ⟨keptMiddle, early, grownEarly, thrown error _ holdsMiddle⟩
      | ok value =>
          obtain ⟨keptAfter, late, grownLate, holds⟩ := second value oracle between keptMiddle
          refine ⟨keptAfter, early ++ late, ?_, ?_⟩
          · rw [grownLate, grownEarly, List.append_assoc]
          · rw [traceOf_append]
            exact ended value _ _ _ holdsMiddle holds

theorem traces_bind_silent {post : Except ε β → List κ → Prop} {may : ε → Prop}
    {act : Act I ε σ α} {next : α → Act I ε σ β}
    (first : Keeps inv (fun event => select event = none) may act)
    (second : ∀ value, Traces inv select post (next value))
    (thrown : ∀ error, may error → post (.error error) []) :
    Traces inv select post (act >>= next) := by
  have silent : Traces inv select
      (fun result traced => traced = [] ∧ ∀ error, result = .error error → may error) act := by
    intro oracle world kept
    obtain ⟨keptAfter, ⟨recorded, grown, each⟩, mayThrow⟩ := first oracle world kept
    exact ⟨keptAfter, recorded, grown, traceOf_eq_nil each, mayThrow⟩
  refine traces_bind silent second (fun value result early late holds after => ?_)
    fun error early holds => ?_
  · rw [holds.1, List.nil_append]
    exact after
  · rw [holds.1]
    exact thrown error (holds.2 error rfl)

theorem traces_bind_quiet {post : Except ε β → List κ → Prop}
    {act : Act I ε σ α} {next : α → Act I ε σ β}
    (first : Keeps inv (fun event => select event = none) (fun _ => False) act)
    (second : ∀ value, Traces inv select post (next value)) :
    Traces inv select post (act >>= next) :=
  traces_bind_silent first second fun _ never => never.elim

theorem traces_bind_then_silent {middle : Except ε α → List κ → Prop}
    {rest : α → Except ε β → Prop} {post : Except ε β → List κ → Prop}
    {act : Act I ε σ α} {next : α → Act I ε σ β} (first : Traces inv select middle act)
    (second : ∀ value, Traces inv select (fun result traced => traced = [] ∧ rest value result)
      (next value))
    (ended : ∀ value result traced, middle (.ok value) traced → rest value result →
      post result traced)
    (thrown : ∀ error traced, middle (.error error) traced → post (.error error) traced) :
    Traces inv select post (act >>= next) := by
  refine traces_bind first second (fun value result early late holds silent => ?_) thrown
  rw [silent.1, List.append_nil]
  exact ended value result early holds silent.2

theorem traces_bind_then_any {middle : Except ε α → List κ → Prop}
    {post : Except ε β → List κ → Prop} {act : Act I ε σ α} {next : α → Act I ε σ β}
    (first : Traces inv select middle act)
    (second : ∀ value, Traces inv select (fun _ traced => traced = []) (next value))
    (ended : ∀ result result' traced, middle result traced → post result' traced) :
    Traces inv select post (act >>= next) :=
  traces_bind first second
    (fun _ _ _ _ holds silent => by rw [silent, List.append_nil]; exact ended _ _ _ holds)
    fun _ _ holds => ended _ _ _ holds

theorem traces_get_bind {post : Except ε β → List κ → Prop} {next : σ → Act I ε σ β}
    (rest : ∀ state, inv state → Traces inv select post (next state)) :
    Traces inv select post (get >>= next) :=
  fun oracle world kept => rest world.state kept oracle world kept

theorem traces_ask {call : I.Call} {post : Except ε (I.Answer call) → List κ → Prop}
    (holds : ∀ answer, post (.ok answer) (select ⟨call, answer⟩).toList) :
    Traces inv select post (ask call : Act I ε σ (I.Answer call)) := by
  intro oracle world kept
  refine ⟨kept, [⟨call, oracle world.history call⟩], rfl, ?_⟩
  have same : traceOf select [⟨call, oracle world.history call⟩] =
      (select ⟨call, oracle world.history call⟩).toList := by
    cases selected : select ⟨call, oracle world.history call⟩ <;>
      simp [traceOf, selected]
  rw [same]
  exact holds _

theorem traces_ite {post : Except ε α → List κ → Prop} {condition : Prop}
    [Decidable condition] {first second : Act I ε σ α}
    (whenTrue : condition → Traces inv select post first)
    (whenFalse : ¬ condition → Traces inv select post second) :
    Traces inv select post (if condition then first else second) := by
  by_cases holds : condition
  · rw [if_pos holds]
    exact whenTrue holds
  · rw [if_neg holds]
    exact whenFalse holds

theorem Keeps.traces {may : ε → Prop} {act : Act I ε σ α}
    (kept : Keeps inv (fun event => select event = none) may act) :
    Traces inv select (fun _ traced => traced = []) act := by
  intro oracle world before
  obtain ⟨keptAfter, ⟨recorded, grown, each⟩, _⟩ := kept oracle world before
  exact ⟨keptAfter, recorded, grown, traceOf_eq_nil each⟩

theorem traces_zoom {part : τ → Prop} {lens : Lens σ τ}
    {post : Except ε α → List κ → Prop} {act : Act I ε τ α}
    (down : ∀ state, inv state → part (lens.get state))
    (up : ∀ state value, inv state → part value → inv (lens.set value state))
    (traces : Traces part select post act) : Traces inv select post (zoom lens act) := by
  intro oracle world kept
  obtain ⟨keptPart, recorded⟩ :=
    traces oracle ⟨lens.get world.state, world.history⟩ (down _ kept)
  exact ⟨up _ _ kept keptPart, recorded⟩

end

end Effect.Act
