import SoftwareContainers.Configuration.Appending

namespace SoftwareContainers

open Effect

/-! Programs over configurations, and the same programs over plain maps. -/

inductive Statement where
  | construct
  | copyConstruct (source : Nat)
  | assign (target source : Nat)
  | append (target : Nat) (id : String) (elements : List Json)
  | appendAll (target source : Nat)

/-- The configurations of a program, in the order they are constructed. -/
structure Objects where
  objects : List GatewayConfig
  heap : JsonHeap

namespace Objects

def start : Objects := ⟨[], .empty⟩

/-- An array that is appended is the caller's own. -/
def step (self : Objects) : Statement → Option Objects
  | .construct => some { self with objects := self.objects ++ [.new] }
  | .copyConstruct source => do
      let (object, heap) ← GatewayConfig.copy (← self.objects[source]?) self.heap
      return ⟨self.objects ++ [object], heap⟩
  | .assign target source => do
      let _ ← self.objects[target]?
      let (object, heap) ← GatewayConfig.assign (← self.objects[source]?) self.heap
      return ⟨self.objects.set target object, heap⟩
  | .append target id elements => do
      let (array, heap) := self.heap.allocate elements
      let (object, heap) ← GatewayConfig.append id array (← self.objects[target]?) heap
      return ⟨self.objects.set target object, heap⟩
  | .appendAll target source => do
      let (object, heap) ←
        GatewayConfig.appendAll (← self.objects[source]?) (← self.objects[target]?) self.heap
      return ⟨self.objects.set target object, heap⟩

def run (self : Objects) (program : List Statement) : Option Objects :=
  program.foldlM step self

end Objects

namespace PlainConfig

def step (self : List PlainConfig) : Statement → Option (List PlainConfig)
  | .construct => some (self ++ [∅])
  | .copyConstruct source => do return self ++ [← self[source]?]
  | .assign target source => do
      let _ ← self[target]?
      return self.set target (← self[source]?)
  | .append target id elements => do
      return self.set target (append (← self[target]?) id elements)
  | .appendAll target source => do
      return self.set target (appendAll (← self[target]?) (← self[source]?))

def run (self : List PlainConfig) (program : List Statement) : Option (List PlainConfig) :=
  program.foldlM step self

end PlainConfig

namespace Objects

/-- The objects stand for the maps, and an array may be shared for one id only. -/
structure Represents (state : Objects) (plains : List PlainConfig) : Prop where
  values : plains = state.objects.map (·.value state.heap)
  live : ∀ object ∈ state.objects, object.Live state.heap
  oneId : ∀ first ∈ state.objects, ∀ second ∈ state.objects, ∀ id other address,
    first.Holds id address → second.Holds other address → id = other

/-- No other object holds the array that the target has for the id. -/
def Exclusive (self : Objects) (target : Nat) (id : String) : Prop :=
  ∀ object address, self.objects[target]? = some object → object.Holds id address →
    ∀ (other : Nat) (otherObject : GatewayConfig), other ≠ target →
      self.objects[other]? = some otherObject → ¬ otherObject.Holds id address

/-- What is appended goes to no array that another object holds, and comes from no array
that it goes to. -/
def Harmless (self : Objects) : Statement → Prop
  | .append target id elements => elements ≠ [] → self.Exclusive target id
  | .appendAll target source => ∀ object id element elements,
      self.objects[source]? = some object →
      object.config id self.heap = some (element :: elements) →
      target ≠ source ∧ self.Exclusive target id
  | _ => True

theorem value_congr {object : GatewayConfig} {first second : JsonHeap}
    (same : ∀ id address, object.Holds id address → first.read address = second.read address) :
    object.value first = object.value second := by
  apply Std.ExtTreeMap.ext_getElem?
  intro id
  rw [GatewayConfig.getElem?_value, GatewayConfig.getElem?_value]
  cases holds : object.configMap[id]? with
  | none => rfl
  | some address => rw [Option.map_some, Option.map_some, same id address holds]

variable {self : Objects} {plains : List PlainConfig}

theorem Represents.below (represents : Represents self plains) {object : GatewayConfig}
    (member : object ∈ self.objects) {id : String} {address : Nat}
    (holds : object.Holds id address) : address < self.heap.next := by
  obtain ⟨_, found⟩ := (represents.live object member).found id address holds
  exact Heap.lt_next found

theorem Represents.reheap (represents : Represents self plains) {after : JsonHeap}
    (same : ∀ address, address < self.heap.next →
      (after.cells address).map Cell.value = (self.heap.cells address).map Cell.value) :
    Represents ⟨self.objects, after⟩ plains where
  values := by
    rw [represents.values]
    refine List.map_congr_left fun object member => value_congr fun id address holds => ?_
    exact (same address (represents.below member holds)).symm
  live := fun object member => ⟨fun id address holds => by
    obtain ⟨cell, found⟩ := (represents.live object member).found id address holds
    have kept := same address (Heap.lt_next found)
    rw [found] at kept
    obtain ⟨cellAfter, isAfter, _⟩ := Option.map_eq_some_iff.mp kept
    exact ⟨cellAfter, isAfter⟩, (represents.live object member).injective⟩
  oneId := represents.oneId

theorem mem_set {α : Type} {items : List α} {target : Nat} {item member : α}
    (isMember : member ∈ items.set target item) :
    member = item ∨ ∃ other : Nat, other ≠ target ∧ items[other]? = some member := by
  obtain ⟨index, found⟩ := List.mem_iff_getElem?.mp isMember
  rw [List.getElem?_set] at found
  split at found
  · split at found
    · exact .inl (Option.some.inj found).symm
    · cases found
  · next different => exact .inr ⟨index, fun same => different same.symm, found⟩

theorem Represents.set (represents : Represents self plains) {target : Nat}
    {object objectAfter : GatewayConfig} {items : List (String × Nat)} {after : JsonHeap}
    (found : self.objects[target]? = some object)
    (appended : GatewayConfig.Appended items object self.heap objectAfter after)
    (untouched : ∀ (other : Nat) (otherObject : GatewayConfig), other ≠ target →
      self.objects[other]? = some otherObject → ∀ id address, otherObject.Holds id address →
      ∀ item ∈ items, object.Holds item.1 address → self.heap.read item.2 = some []) :
    Represents ⟨self.objects.set target objectAfter, after⟩
      (plains.set target (objectAfter.value after)) := by
  have member : object ∈ self.objects := List.mem_of_getElem? found
  have kept : ∀ (other : Nat) (otherObject : GatewayConfig), other ≠ target →
      self.objects[other]? = some otherObject → ∀ id address, otherObject.Holds id address →
      after.cells address = self.heap.cells address := by
    intro other otherObject different isOther id address holds
    refine appended.frame address (represents.below (List.mem_of_getElem? isOther) holds) ?_
    exact untouched other otherObject different isOther id address holds
  refine ⟨?_, ?_, ?_⟩
  · rw [represents.values]
    apply List.ext_getElem?
    intro index
    simp only [List.getElem?_set, List.getElem?_map, List.length_map]
    by_cases same : target = index
    · subst same
      rw [if_pos rfl, if_pos rfl]
      split <;> rfl
    · rw [if_neg same, if_neg same]
      cases isOther : self.objects[index]? with
      | none => rfl
      | some otherObject =>
          refine congrArg some (value_congr fun id address holds => ?_)
          rw [Heap.read, Heap.read,
            kept index otherObject (fun equal => same equal.symm) isOther id address holds]
  · intro first isFirst
    rcases mem_set isFirst with rfl | ⟨other, different, isOther⟩
    · exact appended.live
    · have live := represents.live first (List.mem_of_getElem? isOther)
      refine ⟨fun id address holds => ?_, live.injective⟩
      rw [kept other first different isOther id address holds]
      exact live.found id address holds
  · intro first isFirst second isSecond id otherId address holdsFirst holdsSecond
    have old : ∀ member' ∈ self.objects, ∀ id otherId, member'.Holds id address →
        objectAfter.Holds otherId address → id = otherId := by
      intro member' isMember id otherId holds holdsAfter
      rcases appended.origin otherId address holdsAfter with before | ⟨fresh, _⟩
      · exact represents.oneId member' isMember object member id otherId address holds before
      · exact absurd (represents.below isMember holds) (Nat.not_lt.mpr fresh)
    rcases mem_set isFirst with rfl | ⟨_, _, oldFirst⟩ <;>
      rcases mem_set isSecond with isAfter | ⟨_, _, oldSecond⟩
    · subst isAfter
      exact appended.live.injective id otherId address holdsFirst holdsSecond
    · exact (old second (List.mem_of_getElem? oldSecond) otherId id holdsSecond
        holdsFirst).symm
    · subst isAfter
      exact old first (List.mem_of_getElem? oldFirst) id otherId holdsFirst holdsSecond
    · exact represents.oneId first (List.mem_of_getElem? oldFirst) second
        (List.mem_of_getElem? oldSecond) id otherId address holdsFirst holdsSecond

theorem Represents.getElem? (represents : Represents self plains) (index : Nat) :
    plains[index]? = self.objects[index]?.map (·.value self.heap) := by
  rw [represents.values, List.getElem?_map]

theorem Represents.add (represents : Represents self plains) {object : GatewayConfig}
    {after : JsonHeap} (live : object.Live after)
    (fresh : ∀ id address, object.Holds id address → self.heap.next ≤ address)
    (kept : ∀ address, address < self.heap.next →
      after.cells address = self.heap.cells address) :
    Represents ⟨self.objects ++ [object], after⟩ (plains ++ [object.value after]) := by
  have old : Represents ⟨self.objects, after⟩ plains :=
    represents.reheap fun address below => by rw [kept address below]
  have apart : ∀ first ∈ self.objects, ∀ id other address, first.Holds id address →
      ¬ object.Holds other address := by
    intro first isFirst id other address holds holdsNew
    have := represents.below isFirst holds
    have := fresh other address holdsNew
    omega
  refine ⟨?_, ?_, ?_⟩
  · rw [old.values, List.map_append]
    rfl
  · intro member isMember
    rcases List.mem_append.mp isMember with isOld | isNew
    · exact old.live member isOld
    · cases List.mem_singleton.mp isNew
      exact live
  · intro first isFirst second isSecond id other address holdsFirst holdsSecond
    rcases List.mem_append.mp isFirst with oldFirst | newFirst <;>
      rcases List.mem_append.mp isSecond with oldSecond | newSecond
    · exact represents.oneId first oldFirst second oldSecond id other address holdsFirst
        holdsSecond
    · cases List.mem_singleton.mp newSecond
      exact absurd holdsSecond (apart first oldFirst id other address holdsFirst)
    · cases List.mem_singleton.mp newFirst
      exact absurd holdsFirst (apart second oldSecond other id address holdsSecond)
    · cases List.mem_singleton.mp newFirst
      cases List.mem_singleton.mp newSecond
      exact live.injective id other address holdsFirst holdsSecond

theorem Represents.share (represents : Represents self plains) {target : Nat}
    {object : GatewayConfig} (member : object ∈ self.objects) :
    Represents ⟨self.objects.set target object, self.heap⟩
      (plains.set target (object.value self.heap)) := by
  have old : ∀ first ∈ self.objects.set target object, first ∈ self.objects := by
    intro first isFirst
    rcases mem_set isFirst with rfl | ⟨_, _, found⟩
    · exact member
    · exact List.mem_of_getElem? found
  refine ⟨?_, fun first isFirst => represents.live first (old first isFirst),
    fun first isFirst second isSecond => represents.oneId first (old first isFirst) second
      (old second isSecond)⟩
  rw [represents.values, List.map_set]

theorem represents_copy (represents : Represents self plains) {object : GatewayConfig}
    (member : object ∈ self.objects) :
    ∃ copy after, GatewayConfig.copy object self.heap = some (copy, after) ∧
      Represents ⟨self.objects ++ [copy], after⟩ (plains ++ [object.value self.heap]) := by
  obtain ⟨copy, after, ended, appended⟩ :=
    GatewayConfig.copy_appended (represents.live object member)
  refine ⟨copy, after, ended, ?_⟩
  have sameValue : copy.value after = object.value self.heap := by
    rw [appended.value, GatewayConfig.foldl_toList_value, GatewayConfig.value_new,
      PlainConfig.appendAll_empty]
  rw [← sameValue]
  refine represents.add appended.live ?_ fun address below => appended.frame address below
    fun item _ holds => absurd holds (GatewayConfig.not_holds_new item.1 address)
  intro id address holds
  rcases appended.origin id address holds with before | ⟨fresh, _⟩
  · exact absurd before (GatewayConfig.not_holds_new id address)
  · exact fresh

theorem represents_assign (represents : Represents self plains) (target : Nat)
    {object : GatewayConfig} (member : object ∈ self.objects) :
    ∃ after, GatewayConfig.assign object self.heap = some (object, after) ∧
      Represents ⟨self.objects.set target object, after⟩
        (plains.set target (object.value self.heap)) := by
  obtain ⟨after, ended, next, cells⟩ :=
    GatewayConfig.assign_eq_some (represents.live object member)
  refine ⟨after, ended, (represents.share member).reheap fun address _ => ?_⟩
  rw [cells]
  split
  · cases self.heap.cells address <;> rfl
  · rfl

theorem represents_allocate (represents : Represents self plains) (elements : List Json) :
    Represents ⟨self.objects, (self.heap.allocate elements).2⟩ plains := by
  refine represents.reheap fun address below => ?_
  rw [Heap.cells_allocate_of_lt self.heap elements below]

theorem read_allocate (heap : JsonHeap) (elements : List Json) :
    (heap.allocate elements).2.read heap.next = some elements :=
  GatewayConfig.read_eq_some (Heap.cells_allocate_self heap elements)

theorem appended_append (represents : Represents self plains) (id : String)
    (elements : List Json) {object : GatewayConfig} (member : object ∈ self.objects) :
    ∃ objectAfter after, GatewayConfig.append id self.heap.next object
        (self.heap.allocate elements).2 = some (objectAfter, after) ∧
      GatewayConfig.Appended [(id, self.heap.next)] object (self.heap.allocate elements).2
        objectAfter after ∧
      objectAfter.value after = (object.value self.heap).append id elements := by
  obtain ⟨objectAfter, after, ended, appended⟩ := GatewayConfig.append_appended
    ((represents_allocate represents elements).live object member)
    (Heap.cells_allocate_self self.heap elements)
    fun destination holds same => absurd (represents.below member holds) (by omega)
  refine ⟨objectAfter, after, ended, appended, ?_⟩
  rw [appended.value, List.foldl_cons, List.foldl_nil, read_allocate]
  have kept : object.value (self.heap.allocate elements).2 = object.value self.heap :=
    value_congr fun other address holds => by
      rw [Heap.read, Heap.cells_allocate_of_lt self.heap elements (represents.below member holds),
        Heap.read]
  rw [kept]
  rfl

theorem represents_append (represents : Represents self plains) {target : Nat} {id : String}
    {elements : List Json} (exclusive : elements ≠ [] → self.Exclusive target id)
    {object : GatewayConfig} (found : self.objects[target]? = some object) :
    ∃ objectAfter after, GatewayConfig.append id self.heap.next object
        (self.heap.allocate elements).2 = some (objectAfter, after) ∧
      Represents ⟨self.objects.set target objectAfter, after⟩
        (plains.set target ((object.value self.heap).append id elements)) := by
  have member : object ∈ self.objects := List.mem_of_getElem? found
  obtain ⟨objectAfter, after, ended, appended, sameValue⟩ :=
    appended_append represents id elements member
  refine ⟨objectAfter, after, ended, ?_⟩
  rw [← sameValue]
  refine (represents_allocate represents elements).set found appended ?_
  intro other otherObject different isOther otherId address holds item isItem holdsItem
  cases List.mem_singleton.mp isItem
  rw [read_allocate]
  by_contra nonempty
  have sameId : id = otherId := represents.oneId object member otherObject
    (List.mem_of_getElem? isOther) id otherId address holdsItem holds
  subst sameId
  exact exclusive (fun empty => nonempty (congrArg some empty)) object address found holdsItem
    other otherObject different isOther holds

/-- An append of a configuration comes to an end if no array would be appended to itself. -/
theorem appended_appendAll (represents : Represents self plains)
    {object sourceObject : GatewayConfig} (member : object ∈ self.objects)
    (sourceMember : sourceObject ∈ self.objects)
    (unaliased : ∀ item ∈ sourceObject.configMap.toList, ¬ object.Aliased self.heap item) :
    ∃ objectAfter after,
      GatewayConfig.appendAll sourceObject object self.heap = some (objectAfter, after) ∧
      GatewayConfig.Appended sourceObject.configMap.toList object self.heap objectAfter after ∧
      objectAfter.value after =
        (object.value self.heap).appendAll (sourceObject.value self.heap) := by
  obtain ⟨objectAfter, after, ended, appended⟩ := GatewayConfig.appendAll_appended
    (represents.live object member) (represents.live sourceObject sourceMember) (by
      intro id address holds other holdsSource
      have sameId : other = id := represents.oneId sourceObject sourceMember object member
        other id address holdsSource holds
      subst sameId
      refine ⟨rfl, ?_⟩
      by_contra more
      exact unaliased (other, address) (GatewayConfig.mem_toList.mpr holdsSource) ⟨holds, more⟩)
  refine ⟨objectAfter, after, ended, appended, ?_⟩
  rw [appended.value, GatewayConfig.foldl_toList_value]

theorem represents_appendAll (represents : Represents self plains) {target source : Nat}
    (harmless : self.Harmless (.appendAll target source)) {object sourceObject : GatewayConfig}
    (found : self.objects[target]? = some object)
    (isSource : self.objects[source]? = some sourceObject) :
    ∃ objectAfter after,
      GatewayConfig.appendAll sourceObject object self.heap = some (objectAfter, after) ∧
      Represents ⟨self.objects.set target objectAfter, after⟩
        (plains.set target
          ((object.value self.heap).appendAll (sourceObject.value self.heap))) := by
  have member : object ∈ self.objects := List.mem_of_getElem? found
  have sourceMember : sourceObject ∈ self.objects := List.mem_of_getElem? isSource
  -- An array with an element in it is neither the target's own nor held by another object.
  have exclusive : ∀ id address, sourceObject.Holds id address →
      self.heap.read address = some [] ∨ target ≠ source ∧ self.Exclusive target id := by
    intro id address holds
    obtain ⟨cell, isCell⟩ := (represents.live sourceObject sourceMember).found id address holds
    have read : self.heap.read address = some cell.value := GatewayConfig.read_eq_some isCell
    cases value : cell.value with
    | nil => exact .inl (by rw [read, value])
    | cons element elements =>
        refine .inr (harmless sourceObject id element elements isSource ?_)
        rw [GatewayConfig.config, holds, Option.bind_some, read, value]
  have unaliased : ∀ item ∈ sourceObject.configMap.toList,
      ¬ object.Aliased self.heap item := by
    rintro ⟨id, address⟩ isItem ⟨holds, more⟩
    have holdsSource := GatewayConfig.mem_toList.mp isItem
    obtain ⟨different, alone⟩ := (exclusive id address holdsSource).resolve_left more
    exact alone object address found holds source sourceObject (Ne.symm different) isSource
      holdsSource
  obtain ⟨objectAfter, after, ended, appended, sameValue⟩ :=
    appended_appendAll represents member sourceMember unaliased
  refine ⟨objectAfter, after, ended, ?_⟩
  rw [← sameValue]
  refine represents.set found appended ?_
  intro other otherObject different isOther id address holds item isItem holdsItem
  refine (exclusive item.1 item.2 (GatewayConfig.mem_toList.mp isItem)).resolve_right ?_
  rintro ⟨_, alone⟩
  have sameId : item.1 = id := represents.oneId object member otherObject
    (List.mem_of_getElem? isOther) item.1 id address holdsItem holds
  exact alone object address found holdsItem other otherObject different isOther
    (sameId ▸ holds)

theorem represents_step (represents : Represents self plains) {statement : Statement}
    (harmless : self.Harmless statement) {plainsAfter : List PlainConfig}
    (stepped : PlainConfig.step plains statement = some plainsAfter) :
    ∃ after, self.step statement = some after ∧ Represents after plainsAfter := by
  cases statement with
  | construct =>
      cases stepped
      refine ⟨_, rfl, ?_⟩
      have added := represents.add (GatewayConfig.live_new self.heap)
        (fun id address holds => absurd holds (GatewayConfig.not_holds_new id address))
        fun _ _ => rfl
      rw [GatewayConfig.value_new] at added
      exact added
  | copyConstruct source =>
      rw [PlainConfig.step, represents.getElem?] at stepped
      cases isSource : self.objects[source]? with
      | none => rw [isSource] at stepped; cases stepped
      | some object =>
          rw [isSource] at stepped
          cases stepped
          obtain ⟨copy, after, ended, represents⟩ :=
            represents_copy represents (List.mem_of_getElem? isSource)
          refine ⟨_, ?_, represents⟩
          rw [step, isSource, Option.bind_eq_bind, Option.bind_some, ended]
          rfl
  | assign target source =>
      rw [PlainConfig.step, represents.getElem?, represents.getElem?] at stepped
      cases isTarget : self.objects[target]? with
      | none => rw [isTarget] at stepped; cases stepped
      | some object =>
          cases isSource : self.objects[source]? with
          | none => rw [isTarget, isSource] at stepped; cases stepped
          | some sourceObject =>
              rw [isTarget, isSource] at stepped
              cases stepped
              obtain ⟨after, ended, represents⟩ :=
                represents_assign represents target (List.mem_of_getElem? isSource)
              refine ⟨_, ?_, represents⟩
              rw [step, isTarget, isSource, Option.bind_eq_bind, Option.bind_some,
                Option.bind_eq_bind, Option.bind_some, ended]
              rfl
  | append target id elements =>
      rw [PlainConfig.step, represents.getElem?] at stepped
      cases isTarget : self.objects[target]? with
      | none => rw [isTarget] at stepped; cases stepped
      | some object =>
          rw [isTarget] at stepped
          cases stepped
          obtain ⟨objectAfter, after, ended, represents⟩ :=
            represents_append represents harmless isTarget
          refine ⟨_, ?_, represents⟩
          simp only [step, isTarget, Option.bind_eq_bind, Option.bind_some,
            Heap.allocate_fst]
          rw [ended]
          rfl
  | appendAll target source =>
      rw [PlainConfig.step, represents.getElem?, represents.getElem?] at stepped
      cases isTarget : self.objects[target]? with
      | none => rw [isTarget] at stepped; cases stepped
      | some object =>
          cases isSource : self.objects[source]? with
          | none => rw [isTarget, isSource] at stepped; cases stepped
          | some sourceObject =>
              rw [isTarget, isSource] at stepped
              cases stepped
              obtain ⟨objectAfter, after, ended, represents⟩ :=
                represents_appendAll represents harmless isTarget isSource
              refine ⟨_, ?_, represents⟩
              simp only [step, isTarget, isSource, Option.bind_eq_bind, Option.bind_some]
              rw [ended]
              rfl

/-- What the objects return from `ids`, `empty` and `config` is what the maps say. -/
def Agrees (state : Objects) (plains : List PlainConfig) : Prop :=
  state.objects.length = plains.length ∧
    ∀ (index : Nat) (object : GatewayConfig) (plain : PlainConfig),
      state.objects[index]? = some object → plains[index]? = some plain →
      object.ids = plain.keys ∧ object.isEmpty = plain.isEmpty ∧
        ∀ id, object.config id state.heap = plain[id]?

theorem Represents.agrees (represents : Represents self plains) : Agrees self plains := by
  refine ⟨by rw [represents.values, List.length_map], ?_⟩
  intro index object plain found isPlain
  have member : object ∈ self.objects := List.mem_of_getElem? found
  rw [represents.getElem?, found] at isPlain
  cases isPlain
  refine ⟨Std.ExtTreeMap.keys_map.symm, ?_, fun id => ?_⟩
  · rw [GatewayConfig.isEmpty, ← Std.ExtTreeMap.isEmpty_keys, ← Std.ExtTreeMap.isEmpty_keys]
    exact congrArg List.isEmpty Std.ExtTreeMap.keys_map.symm
  · exact GatewayConfig.config_eq_value (represents.live object member) id

inductive HarmlessRun : Objects → List Statement → Prop
  | nil {state : Objects} : HarmlessRun state []
  | cons {state : Objects} {statement : Statement} {rest : List Statement} :
      state.Harmless statement →
      (∀ next, state.step statement = some next → HarmlessRun next rest) →
      HarmlessRun state (statement :: rest)

theorem represents_run {program : List Statement} (harmless : HarmlessRun self program)
    {early : List Statement} (isPrefix : early <+: program)
    (represents : Represents self plains) {plainsAfter : List PlainConfig}
    (ended : PlainConfig.run plains early = some plainsAfter) :
    ∃ after, self.run early = some after ∧ Represents after plainsAfter := by
  induction harmless generalizing early plains with
  | nil =>
      rw [List.prefix_nil.mp isPrefix] at ended ⊢
      cases ended
      exact ⟨_, rfl, represents⟩
  | @cons state statement rest harmless _ ih =>
      cases early with
      | nil =>
          cases ended
          exact ⟨_, rfl, represents⟩
      | cons first early =>
          obtain ⟨rfl, restPrefix⟩ := List.cons_prefix_cons.mp isPrefix
          rw [PlainConfig.run, List.foldlM_cons] at ended
          cases stepped : PlainConfig.step plains first with
          | none => rw [stepped] at ended; cases ended
          | some middle =>
              rw [stepped] at ended
              obtain ⟨next, isNext, represents⟩ := represents_step represents harmless stepped
              obtain ⟨after, isAfter, represents⟩ := ih next isNext restPrefix represents ended
              refine ⟨after, ?_, represents⟩
              rw [run, List.foldlM_cons, isNext]
              exact isAfter

theorem represents_start : Represents start [] where
  values := rfl
  live _ member := by cases member
  oneId _ member := by cases member

/-- The program and each part of it that it begins with come to an end, and the objects
then say what the maps say. -/
def Refines (program : List Statement) : Prop :=
  ∀ early, early <+: program → ∀ plains, PlainConfig.run [] early = some plains →
    ∃ state, start.run early = some state ∧ state.Agrees plains

/-- A program of harmless statements is the same program over plain maps. -/
theorem refines_of_harmless {program : List Statement}
    (harmless : HarmlessRun start program) : Refines program := by
  intro early isPrefix plains ended
  obtain ⟨state, isState, represents⟩ :=
    represents_run harmless isPrefix represents_start ended
  exact ⟨state, isState, represents.agrees⟩

end Objects

end SoftwareContainers
