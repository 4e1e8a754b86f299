import SoftwareContainers.Configuration.Refinement

namespace SoftwareContainers

open Effect

/-! What goes wrong when an array is shared: a program refines the maps only if its statements
are harmless. -/

namespace Objects

variable {self : Objects} {plains : List PlainConfig}

theorem value_of_shared (represents : Represents self plains) {target other : Nat}
    {object otherObject objectAfter : GatewayConfig} {after : JsonHeap} {plain : PlainConfig}
    {id : String} {address : Nat} (found : self.objects[target]? = some object)
    (isOther : self.objects[other]? = some otherObject) (different : other ≠ target)
    (holds : object.Holds id address) (holdsOther : otherObject.Holds id address)
    (holdsAfter : objectAfter.Holds id address)
    (agrees : Agrees ⟨self.objects.set target objectAfter, after⟩ (plains.set target plain)) :
    plain[id]? = (object.value self.heap)[id]? := by
  have isTarget : target < self.objects.length := (List.getElem?_eq_some_iff.mp found).1
  have isTargetPlain : target < plains.length := by
    rw [represents.values, List.length_map]
    exact isTarget
  have shown : objectAfter.config id after = plain[id]? :=
    (agrees.2 target objectAfter plain (List.getElem?_set_self isTarget)
      (List.getElem?_set_self isTargetPlain)).2.2 id
  have shownOther : otherObject.config id after = (otherObject.value self.heap)[id]? := by
    refine (agrees.2 other otherObject (otherObject.value self.heap) ?_ ?_).2.2 id
    · dsimp only
      rw [List.getElem?_set_ne different.symm, isOther]
    · rw [List.getElem?_set_ne different.symm, represents.getElem?, isOther]
      rfl
  have same : objectAfter.config id after = otherObject.config id after := by
    rw [GatewayConfig.config, GatewayConfig.config, holdsAfter, holdsOther]
  rw [← shown, same, shownOther, GatewayConfig.getElem?_value, GatewayConfig.getElem?_value, holds,
    holdsOther]

theorem ne_of_appended {plain before : PlainConfig} {id : String} {elements : List Json}
    (appended : plain[id]? = some (before[id]?.getD [] ++ elements)) (nonempty : elements ≠ []) :
    plain[id]? ≠ before[id]? := by
  intro same
  rw [appended] at same
  cases found : before[id]? with
  | none => rw [found] at same; cases same
  | some old =>
      rw [found, Option.getD_some, Option.some.injEq, List.append_right_eq_self] at same
      exact nonempty same

theorem exclusive_of_agrees (represents : Represents self plains) {target : Nat}
    {object objectAfter : GatewayConfig} {after : JsonHeap} {plain : PlainConfig} {id : String}
    {elements : List Json} (found : self.objects[target]? = some object)
    (kept : ∀ address, object.Holds id address → objectAfter.Holds id address)
    (appended : plain[id]? = some ((object.value self.heap)[id]?.getD [] ++ elements))
    (nonempty : elements ≠ [])
    (agrees : Agrees ⟨self.objects.set target objectAfter, after⟩ (plains.set target plain)) :
    self.Exclusive target id := by
  intro first address isFirst holds other otherObject different isOther holdsOther
  cases found.symm.trans isFirst
  exact ne_of_appended appended nonempty (value_of_shared represents found isOther different
    holds holdsOther (kept address holds) agrees)

theorem harmless_append (represents : Represents self plains) {target : Nat} {id : String}
    {elements : List Json} {plainsAfter : List PlainConfig} {state : Objects}
    (stepped : PlainConfig.step plains (.append target id elements) = some plainsAfter)
    (ended : self.step (.append target id elements) = some state)
    (agrees : state.Agrees plainsAfter) : self.Harmless (.append target id elements) := by
  intro nonempty
  rw [PlainConfig.step, represents.getElem?] at stepped
  cases found : self.objects[target]? with
  | none => rw [found] at stepped; cases stepped
  | some object =>
      rw [found] at stepped
      cases stepped
      obtain ⟨objectAfter, after, isEnded, appended, sameValue⟩ :=
        appended_append represents id elements (List.mem_of_getElem? found)
      simp only [step, found, Option.bind_eq_bind, Option.bind_some, Heap.allocate_fst,
        isEnded] at ended
      cases ended
      refine exclusive_of_agrees represents found (appended.kept id) ?_ nonempty agrees
      rw [PlainConfig.getElem?_append, if_pos rfl]

/-- An append of a configuration that comes to an end reads no array that it writes. -/
theorem unaliased_of_ended (represents : Represents self plains)
    {object sourceObject : GatewayConfig} (member : object ∈ self.objects)
    (sourceMember : sourceObject ∈ self.objects) {ended : GatewayConfig × JsonHeap}
    (isEnded : GatewayConfig.appendAll sourceObject object self.heap = some ended) :
    ∀ item ∈ sourceObject.configMap.toList, ¬ object.Aliased self.heap item := by
  intro item isItem aliased
  have sourceLive := represents.live sourceObject sourceMember
  have stays := GatewayConfig.appendItems_of_aliased (represents.live object member)
    (GatewayConfig.pairwise_toList sourceObject)
    (GatewayConfig.found_of_mem_toList sourceLive)
    (fun id later isLater holds => represents.oneId sourceObject sourceMember object member
      later.1 id later.2 (GatewayConfig.mem_toList.mp isLater) holds) ⟨item, isItem, aliased⟩
  cases stays.symm.trans isEnded

theorem harmless_appendAll (represents : Represents self plains) {target source : Nat}
    {plainsAfter : List PlainConfig} {state : Objects}
    (stepped : PlainConfig.step plains (.appendAll target source) = some plainsAfter)
    (ended : self.step (.appendAll target source) = some state)
    (agrees : state.Agrees plainsAfter) : self.Harmless (.appendAll target source) := by
  intro sourceObject id element elements isSource isConfig
  rw [PlainConfig.step, represents.getElem?, represents.getElem?, isSource] at stepped
  cases found : self.objects[target]? with
  | none => rw [found] at stepped; cases stepped
  | some object =>
      rw [found] at stepped
      cases stepped
      have member := List.mem_of_getElem? found
      have sourceMember := List.mem_of_getElem? isSource
      simp only [step, found, isSource, Option.bind_eq_bind, Option.bind_some] at ended
      obtain ⟨_, isEnded, _⟩ := Option.bind_eq_some_iff.mp ended
      have unaliased := unaliased_of_ended represents member sourceMember isEnded
      obtain ⟨objectAfter, after, isAppended, appended, sameValue⟩ :=
        appended_appendAll represents member sourceMember unaliased
      rw [isAppended] at ended
      cases ended
      have isValue : (sourceObject.value self.heap)[id]? = some (element :: elements) := by
        rw [← GatewayConfig.config_eq_value (represents.live sourceObject sourceMember), isConfig]
      refine ⟨?_, exclusive_of_agrees represents found (appended.kept id) ?_
        (List.cons_ne_nil element elements) agrees⟩
      · rintro rfl
        cases found.symm.trans isSource
        obtain ⟨address, holds, read⟩ := Option.bind_eq_some_iff.mp isConfig
        refine unaliased (id, address) (GatewayConfig.mem_toList.mpr holds) ⟨holds, ?_⟩
        simp [read]
      · rw [PlainConfig.getElem?_appendAll, isValue]

/-- A statement after which the objects say what the maps say is harmless. -/
theorem harmless_of_agrees (represents : Represents self plains) {statement : Statement}
    {plainsAfter : List PlainConfig} {state : Objects}
    (stepped : PlainConfig.step plains statement = some plainsAfter)
    (ended : self.step statement = some state) (agrees : state.Agrees plainsAfter) :
    self.Harmless statement := by
  cases statement with
  | append => exact harmless_append represents stepped ended agrees
  | appendAll => exact harmless_appendAll represents stepped ended agrees
  | _ => exact trivial

theorem step_of_stopped (represents : Represents self plains) {statement : Statement}
    (stopped : PlainConfig.step plains statement = none) :
    self.step statement = none ∧ self.Harmless statement := by
  cases statement with
  | construct => cases stopped
  | copyConstruct source =>
      rw [PlainConfig.step, represents.getElem?] at stopped
      cases isSource : self.objects[source]? with
      | none => exact ⟨by rw [step, isSource]; rfl, trivial⟩
      | some object => rw [isSource] at stopped; cases stopped
  | assign target source =>
      rw [PlainConfig.step, represents.getElem?, represents.getElem?] at stopped
      cases isTarget : self.objects[target]? with
      | none => exact ⟨by rw [step, isTarget]; rfl, trivial⟩
      | some object =>
          cases isSource : self.objects[source]? with
          | none => exact ⟨by rw [step, isTarget, isSource]; rfl, trivial⟩
          | some sourceObject => rw [isTarget, isSource] at stopped; cases stopped
  | append target id elements =>
      rw [PlainConfig.step, represents.getElem?] at stopped
      cases isTarget : self.objects[target]? with
      | none =>
          refine ⟨by rw [step, isTarget]; rfl, fun _ object _ found => ?_⟩
          cases isTarget.symm.trans found
      | some object => rw [isTarget] at stopped; cases stopped
  | appendAll target source =>
      rw [PlainConfig.step, represents.getElem?, represents.getElem?] at stopped
      cases isSource : self.objects[source]? with
      | none =>
          refine ⟨by rw [step, isSource]; rfl, fun object _ _ _ found => ?_⟩
          cases isSource.symm.trans found
      | some sourceObject =>
          cases isTarget : self.objects[target]? with
          | none =>
              refine ⟨by rw [step, isSource, isTarget]; rfl, fun _ _ _ _ found _ => ⟨?_, ?_⟩⟩
              · rintro rfl
                cases isTarget.symm.trans found
              · intro object _ isObject
                cases isTarget.symm.trans isObject
          | some object => rw [isTarget, isSource] at stopped; cases stopped

theorem harmlessRun_of_refines {program : List Statement} (represents : Represents self plains)
    (refines : ∀ early, early <+: program → ∀ plainsAfter,
      PlainConfig.run plains early = some plainsAfter →
        ∃ state, self.run early = some state ∧ state.Agrees plainsAfter) :
    HarmlessRun self program := by
  induction program generalizing self plains with
  | nil => exact .nil
  | cons statement rest ih =>
      cases stepped : PlainConfig.step plains statement with
      | none =>
          obtain ⟨none, harmless⟩ := step_of_stopped represents stepped
          exact .cons harmless fun next isNext => nomatch none.symm.trans isNext
      | some middle =>
          have first : PlainConfig.run plains [statement] = some middle := by
            rw [PlainConfig.run, List.foldlM_cons, stepped]
            rfl
          obtain ⟨state, ran, agrees⟩ :=
            refines [statement] (List.prefix_append [statement] rest) middle first
          have ended : self.step statement = some state := by
            rw [run, List.foldlM_cons] at ran
            cases isNext : self.step statement with
            | none => rw [isNext] at ran; cases ran
            | some next => rw [isNext] at ran; exact ran
          have harmless := harmless_of_agrees represents stepped ended agrees
          obtain ⟨after, isAfter, represented⟩ := represents_step represents harmless stepped
          refine .cons harmless fun next isNext => ?_
          cases isAfter.symm.trans isNext
          refine ih represented fun early isPrefix plainsAfter isRun => ?_
          have whole : PlainConfig.run plains (statement :: early) = some plainsAfter := by
            rw [PlainConfig.run, List.foldlM_cons, stepped]
            exact isRun
          obtain ⟨last, isLast, agreesLast⟩ := refines (statement :: early)
            (List.cons_prefix_cons.mpr ⟨rfl, isPrefix⟩) plainsAfter whole
          rw [run, List.foldlM_cons, isAfter] at isLast
          exact ⟨last, isLast, agreesLast⟩

/-- A program is the same program over plain maps exactly if its statements are harmless. -/
theorem refines_iff_harmless {program : List Statement} :
    Refines program ↔ HarmlessRun start program :=
  ⟨harmlessRun_of_refines represents_start, refines_of_harmless⟩

def copyThenAppend : List Statement :=
  [.construct, .append 0 "env" [.null], .copyConstruct 0, .append 1 "env" [.null],
    .assign 0 1]

theorem refines_iff_harmless_copyThenAppend : Refines copyThenAppend := by
  refine refines_iff_harmless.mpr (.cons trivial fun first isFirst => ?_)
  cases isFirst
  refine .cons (fun _ object address found holds => ?_) fun second isSecond => ?_
  · cases found
    exact absurd holds (GatewayConfig.not_holds_new "env" address)
  · refine .cons trivial fun third isThird => ?_
    refine .cons (fun _ object address found holds other otherObject different isOther => ?_)
      fun fourth isFourth => .cons trivial fun _ _ => .nil
    cases isSecond
    cases isThird
    cases found
    match other, isOther with
    | 0, isOther =>
        cases isOther
        intro shared
        have second : some 2 = some address := holds
        have first : some 1 = some address := shared
        cases second
        cases first
    | 1, _ => exact absurd rfl different
    | _ + 2, isOther => cases isOther

def assignThenAppend : List Statement :=
  [.construct, .append 0 "env" [.null], .construct, .assign 1 0, .append 1 "env" [.null]]

def appendToItself : List Statement :=
  [.construct, .append 0 "env" [.null], .appendAll 0 0]

theorem assigned_objects_are_shared :
    ¬ Refines assignThenAppend ∧ ¬ Refines appendToItself := by
  constructor
  · intro refines
    obtain ⟨state, ended, _, agrees⟩ := refines _ (List.prefix_refl _) _ rfl
    cases ended
    obtain ⟨_, _, config⟩ := agrees 0 _ _ rfl rfl
    have twice := config "env"
    cases twice
  · intro refines
    obtain ⟨state, ended, _⟩ := refines _ (List.prefix_refl _) _ rfl
    cases ended

end Objects

end SoftwareContainers
