/-! Chains of rules: the first rule that selects a packet decides, and otherwise the
policy does. -/

namespace Filter

variable {π ω ι ν : Type}

structure Rule (π ω : Type) where
  selects : π → Bool
  verdict : ω

structure Chain (π ω : Type) where
  rules : List (Rule π ω)
  policy : ω

def decision (rules : List (Rule π ω)) (packet : π) : Option ω :=
  (rules.find? (·.selects packet)).map Rule.verdict

namespace Chain

def verdict (chain : Chain π ω) (packet : π) : ω :=
  (decision chain.rules packet).getD chain.policy

def empty (policy : ω) : Chain π ω := ⟨[], policy⟩

def append (chain : Chain π ω) (rules : List (Rule π ω)) : Chain π ω :=
  { chain with rules := chain.rules ++ rules }

def setPolicy (chain : Chain π ω) (policy : ω) : Chain π ω := { chain with policy }

@[simp] theorem append_nil (chain : Chain π ω) : chain.append [] = chain := by
  rw [append, List.append_nil]

@[simp] theorem append_append (first second : List (Rule π ω)) (chain : Chain π ω) :
    (chain.append first).append second = chain.append (first ++ second) := by
  rw [append, append, append, List.append_assoc]

theorem foldl_append (rules : ι → List (Rule π ω)) (items : List ι) (chain : Chain π ω) :
    items.foldl (fun chain item => chain.append (rules item)) chain =
      chain.append (items.flatMap rules) := by
  induction items generalizing chain with
  | nil => exact chain.append_nil.symm
  | cons item rest ih => rw [List.foldl_cons, ih, append_append, List.flatMap_cons]

end Chain

@[simp] theorem decision_nil (packet : π) :
    decision ([] : List (Rule π ω)) packet = none := rfl

theorem decision_cons (rule : Rule π ω) (rest : List (Rule π ω)) (packet : π) :
    decision (rule :: rest) packet =
      if rule.selects packet then some rule.verdict else decision rest packet := by
  rw [decision, List.find?_cons]
  cases rule.selects packet <;> rfl

theorem decision_of_uniform {rules : List (Rule π ω)} {verdict : ω}
    (uniform : ∀ rule ∈ rules, rule.verdict = verdict) (packet : π) :
    decision rules packet =
      if rules.any (·.selects packet) then some verdict else none := by
  induction rules with
  | nil => rfl
  | cons rule rest ih =>
      rw [decision_cons, List.any_cons, ih fun later member => uniform later (.tail _ member),
        uniform rule (.head _)]
      cases rule.selects packet <;> rfl

/-! Chains with names. -/

abbrev Table (ν π ω : Type) := ν → Chain π ω

namespace Table

variable [DecidableEq ν]

def change (table : Table ν π ω) (name : ν) (chain : Chain π ω → Chain π ω) : Table ν π ω :=
  fun other => if other = name then chain (table other) else table other

@[simp] theorem change_self (name : ν) (chain : Chain π ω → Chain π ω)
    (table : Table ν π ω) : table.change name chain name = chain (table name) :=
  if_pos rfl

theorem change_of_ne {name other : ν} (apart : other ≠ name) (chain : Chain π ω → Chain π ω)
    (table : Table ν π ω) : table.change name chain other = table other :=
  if_neg apart

theorem change_change (name : ν) (first second : Chain π ω → Chain π ω)
    (table : Table ν π ω) :
    (table.change name first).change name second =
      table.change name fun chain => second (first chain) := by
  funext other
  by_cases same : other = name
  · subst same
    simp
  · rw [change_of_ne same, change_of_ne same, change_of_ne same]

theorem change_id (name : ν) (table : Table ν π ω) :
    table.change name (fun chain => chain) = table := by
  funext other
  exact ite_self _

theorem foldl_change {name : ν} {step : Table ν π ω → ι → Table ν π ω}
    {chain : ι → Chain π ω → Chain π ω} {items : List ι}
    (each : ∀ item ∈ items, ∀ table, step table item = table.change name (chain item))
    (table : Table ν π ω) :
    items.foldl step table =
      table.change name fun before => items.foldl (fun after item => chain item after) before := by
  induction items generalizing table with
  | nil => exact (table.change_id name).symm
  | cons item rest ih =>
      rw [List.foldl_cons, each item (.head _), ih fun later member => each later (.tail _ member),
        change_change]
      rfl

end Table

end Filter
