import SoftwareContainers.Gateways.DBus

namespace SoftwareContainers

open Effect Effect.Act Hook

/-! Configurations of the D-Bus gateway that are split over elements. -/

def rulesFor (key : String) (element : Json) : List Json :=
  match element.objectGet key with
  | some rules => rules.elements
  | none => []

/-- An element that gives rules for at least one bus, and nothing else under the keys of
the buses. -/
structure GivesRules (element : Json) : Prop where
  isObject : element.isObject = true
  someBus : JSONParser.hasKey element SESSION_CONFIG ∨ JSONParser.hasKey element SYSTEM_CONFIG
  rules : ∀ key ∈ [SESSION_CONFIG, SYSTEM_CONFIG], ∀ value,
    element.objectGet key = some value →
      ∃ rules, value = .array rules ∧ ∀ rule ∈ rules, rule.isObject = true

theorem rulesFor_of_missing {key : String} {element : Json}
    (missing : JSONParser.hasKey element key = false) : rulesFor key element = [] := by
  rw [JSONParser.hasKey, Option.isSome_eq_false_iff, Option.isNone_iff_eq_none] at missing
  rw [rulesFor, missing]

theorem rules_takeWhile_iff (key : String) (elements : List Json) :
    (elements.takeWhile (JSONParser.hasKey · key)).flatMap (rulesFor key) =
        elements.flatMap (rulesFor key) ↔
      (elements.dropWhile (JSONParser.hasKey · key)).flatMap (rulesFor key) = [] := by
  have split : elements.flatMap (rulesFor key) =
      (elements.takeWhile (JSONParser.hasKey · key)).flatMap (rulesFor key) ++
        (elements.dropWhile (JSONParser.hasKey · key)).flatMap (rulesFor key) := by
    rw [← List.flatMap_append, List.takeWhile_append_dropWhile]
  rw [split, List.self_eq_append_right]

namespace DBusGatewayInstance

/-- The instance with the rules of more elements. -/
def take (self : DBusGatewayInstance) (elements : List Json) : DBusGatewayInstance :=
  { self with busConfig := self.busConfig ++ elements.flatMap (rulesFor self.typeStr) }

@[simp] theorem take_nil (self : DBusGatewayInstance) : self.take [] = self := by
  simp [take]

@[simp] theorem take_take (self : DBusGatewayInstance) (first second : List Json) :
    (self.take first).take second = self.take (first ++ second) := by
  simp only [take, List.flatMap_append, List.append_assoc]
  rfl

@[simp] theorem typeStr_take (self : DBusGatewayInstance) (elements : List Json) :
    (self.take elements).typeStr = self.typeStr := rfl

theorem typeStr_mem (self : DBusGatewayInstance) :
    self.typeStr ∈ [SESSION_CONFIG, SYSTEM_CONFIG] := by
  rw [typeStr]
  split <;> simp

theorem takeObjects_of_objects {children : List Json}
    (objects : ∀ child ∈ children, child.isObject = true) :
    takeObjects children = (children, false) := by
  induction children with
  | nil => rfl
  | cons child rest ih =>
      obtain ⟨isObject, others⟩ := List.forall_mem_cons.mp objects
      rw [takeObjects, if_pos isObject, ih others]

section

variable (self : DBusGatewayInstance) (container : Container) (oracle : Oracle Sys)
  (history : History Sys)

theorem run_readConfigElement {element : Json} (gives : GivesRules element) :
    (readConfigElement element).run oracle ⟨(self, container), history⟩ =
      (.ok (JSONParser.hasKey element self.typeStr),
        ⟨(self.take [element], container), history⟩) := by
  cases found : element.objectGet self.typeStr with
  | none =>
      have missing : JSONParser.hasKey element self.typeStr = false := by
        rw [JSONParser.hasKey, found, Option.isSome_none]
      rw [missing, take, List.flatMap_singleton, rulesFor_of_missing missing, List.append_nil]
      simp only [readConfigElement, getGateway, run_bind, run_get, run_pure, found]
  | some value =>
      obtain ⟨rules, rfl, objects⟩ := gives.rules _ self.typeStr_mem value found
      have present : JSONParser.hasKey element self.typeStr = true := by
        rw [JSONParser.hasKey, found, Option.isSome_some]
      have given : rulesFor self.typeStr element = rules := by
        rw [rulesFor, found]
        rfl
      rw [present, take, List.flatMap_singleton, given]
      simp only [readConfigElement, getGateway, modifyGateway, run_bind, run_get, run_pure,
        found, takeObjects_of_objects objects, run_modify, Bool.false_eq_true, if_false]

/-- Reading stops at the first element without the key of the bus. -/
theorem run_readConfigElements {elements : List Json}
    (gives : ∀ element ∈ elements, GivesRules element) :
    (hooks.readConfigElements elements).run oracle ⟨(self, container), history⟩ =
      (.ok (elements.all (JSONParser.hasKey · self.typeStr)),
        ⟨(self.take (elements.takeWhile (JSONParser.hasKey · self.typeStr)), container),
          history⟩) := by
  induction elements generalizing self with
  | nil => simp [GatewayHooks.readConfigElements]
  | cons element rest ih =>
      obtain ⟨givesFirst, givesRest⟩ := List.forall_mem_cons.mp gives
      have read : (hooks.readConfigElement element).run oracle
          ⟨(self, container), history⟩ = _ :=
        run_readConfigElement self container oracle history givesFirst
      rw [GatewayHooks.readConfigElements, if_neg (by simp [givesFirst.isObject]),
        run_bind_ok read]
      cases present : JSONParser.hasKey element self.typeStr with
      | false =>
          have same : self.take [element] = self := by
            rw [take, List.flatMap_singleton, rulesFor_of_missing present, List.append_nil]
          simp [present, same]
      | true =>
          rw [if_neg (by decide), ih (self.take [element]) givesRest]
          simp [present]

theorem run_setConfig (dynamic : self.base.isDynamic = true) {elements : List Json}
    (nonempty : elements ≠ []) (gives : ∀ element ∈ elements, GivesRules element) :
    ∃ base, (hooks.setConfig (.array elements)).run oracle ⟨(self, container), history⟩ =
      (.ok (elements.all (JSONParser.hasKey · self.typeStr)),
        ⟨({ self.take (elements.takeWhile (JSONParser.hasKey · self.typeStr)) with base },
          container), history⟩) := by
  obtain ⟨head, tail, rfl⟩ := List.exists_cons_of_ne_nil nonempty
  have unlocked : ¬ GatewayHooks.Locked (hooks.base.get self) := by
    rintro ⟨_, isStatic⟩
    exact absurd (dynamic.symm.trans isStatic) (by decide)
  rw [GatewayHooks.run_setConfig_array hooks oracle _ head tail unlocked,
    run_bind_ok (run_readConfigElements self container oracle history gives)]
  cases (head :: tail).all (JSONParser.hasKey · self.typeStr) with
  | false => exact ⟨_, rfl⟩
  | true => exact ⟨_, rfl⟩

end

end DBusGatewayInstance

namespace DBusGateway

/-- The two instances are those of the two buses, as they are constructed. -/
structure Buses (gateway : DBusGateway) : Prop where
  sessionType : gateway.sessionBus.type = .sessionProxy
  systemType : gateway.systemBus.type = .systemProxy
  sessionDynamic : gateway.sessionBus.base.isDynamic = true
  systemDynamic : gateway.systemBus.base.isDynamic = true

theorem buses_new (gatewayDir containerId : String) : (new gatewayDir containerId).Buses :=
  ⟨rfl, rfl, rfl, rfl⟩

/-- The configuration is taken, and each bus gets the rules of all elements in order. -/
structure Combines (gateway : DBusGateway) (elements : List Json) (oracle : Oracle Sys)
    (container : Container) (history : History Sys) : Prop where
  accepted : ((setConfig (.array elements)).run oracle ⟨(gateway, container), history⟩).1 =
    .ok true
  session : ((setConfig (.array elements)).run oracle
      ⟨(gateway, container), history⟩).2.state.1.sessionBus.busConfig =
    gateway.sessionBus.busConfig ++ elements.flatMap (rulesFor SESSION_CONFIG)
  system : ((setConfig (.array elements)).run oracle
      ⟨(gateway, container), history⟩).2.state.1.systemBus.busConfig =
    gateway.systemBus.busConfig ++ elements.flatMap (rulesFor SYSTEM_CONFIG)

/-- What `setConfig` does, bus by bus. -/
theorem run_setConfig {gateway : DBusGateway} (buses : gateway.Buses) {elements : List Json}
    (nonempty : elements ≠ []) (gives : ∀ element ∈ elements, GivesRules element)
    (oracle : Oracle Sys) (container : Container) (history : History Sys) :
    ∃ sessionBase systemBase,
      (setConfig (.array elements)).run oracle ⟨(gateway, container), history⟩ =
        (.ok (elements.all (JSONParser.hasKey · SESSION_CONFIG) ||
          elements.all (JSONParser.hasKey · SYSTEM_CONFIG)),
          ⟨({ gateway with
            sessionBus := { gateway.sessionBus.take
              (elements.takeWhile (JSONParser.hasKey · SESSION_CONFIG)) with
                base := sessionBase }
            systemBus := { gateway.systemBus.take
              (elements.takeWhile (JSONParser.hasKey · SYSTEM_CONFIG)) with
                base := systemBase } }, container), history⟩) := by
  have sessionKey : gateway.sessionBus.typeStr = SESSION_CONFIG := by
    rw [DBusGatewayInstance.typeStr, if_pos buses.sessionType]
  have systemKey : gateway.systemBus.typeStr = SYSTEM_CONFIG := by
    rw [DBusGatewayInstance.typeStr, buses.systemType, if_neg (by decide)]
  obtain ⟨sessionBase, sessionEnded⟩ := DBusGatewayInstance.run_setConfig gateway.sessionBus
    container oracle history buses.sessionDynamic nonempty gives
  obtain ⟨systemBase, systemEnded⟩ := DBusGatewayInstance.run_setConfig gateway.systemBus
    container oracle history buses.systemDynamic nonempty gives
  rw [sessionKey] at sessionEnded
  rw [systemKey] at systemEnded
  refine ⟨sessionBase, systemBase, ?_⟩
  rw [setConfig, run_tryCatch, setBothConfigs]
  simp only [run_bind, run_zoom, run_pure, sessionLens, systemLens, sessionEnded, systemEnded]

/-- Splitting a configuration is no harm exactly when one bus is in every element, and
no bus is given rules after an element that leaves it out. -/
theorem combines_iff {gateway : DBusGateway} (buses : gateway.Buses) {elements : List Json}
    (nonempty : elements ≠ []) (gives : ∀ element ∈ elements, GivesRules element)
    (oracle : Oracle Sys) (container : Container) (history : History Sys) :
    gateway.Combines elements oracle container history ↔
      (∃ key ∈ [SESSION_CONFIG, SYSTEM_CONFIG],
        ∀ element ∈ elements, JSONParser.hasKey element key = true) ∧
      ∀ key ∈ [SESSION_CONFIG, SYSTEM_CONFIG],
        (elements.dropWhile (JSONParser.hasKey · key)).flatMap (rulesFor key) = [] := by
  have sessionKey : gateway.sessionBus.typeStr = SESSION_CONFIG := by
    rw [DBusGatewayInstance.typeStr, if_pos buses.sessionType]
  have systemKey : gateway.systemBus.typeStr = SYSTEM_CONFIG := by
    rw [DBusGatewayInstance.typeStr, buses.systemType, if_neg (by decide)]
  obtain ⟨sessionBase, systemBase, ended⟩ :=
    run_setConfig buses nonempty gives oracle container history
  constructor
  · rintro ⟨accepted, session, system⟩
    rw [ended] at accepted session system
    dsimp only [DBusGatewayInstance.take] at session system
    rw [sessionKey, List.append_cancel_left_eq, rules_takeWhile_iff] at session
    rw [systemKey, List.append_cancel_left_eq, rules_takeWhile_iff] at system
    refine ⟨?_, fun key isKey => (List.mem_pair.mp isKey).elim
      (fun same => same ▸ session) fun same => same ▸ system⟩
    rcases Bool.or_eq_true_iff.mp (Except.ok.inj accepted) with all | all
    · exact ⟨SESSION_CONFIG, by simp, by simpa using all⟩
    · exact ⟨SYSTEM_CONFIG, by simp, by simpa using all⟩
  · rintro ⟨⟨key, isKey, all⟩, rest⟩
    refine ⟨?_, ?_, ?_⟩
    · rw [ended]
      refine congrArg Except.ok (Bool.or_eq_true_iff.mpr ?_)
      rcases List.mem_pair.mp isKey with rfl | rfl
      · exact .inl (List.all_eq_true.mpr all)
      · exact .inr (List.all_eq_true.mpr all)
    · rw [ended]
      dsimp only [DBusGatewayInstance.take]
      rw [sessionKey, (rules_takeWhile_iff _ _).mpr (rest SESSION_CONFIG (by simp))]
    · rw [ended]
      dsimp only [DBusGatewayInstance.take]
      rw [systemKey, (rules_takeWhile_iff _ _).mpr (rest SYSTEM_CONFIG (by simp))]

def sessionInBoth : List Json :=
  [.object [(SESSION_CONFIG, .array [.object []]), (SYSTEM_CONFIG, .array [.object []])],
    .object [(SESSION_CONFIG, .array [.object [("talk", .string "*")]])]]

theorem givesRules_sessionInBoth : ∀ element ∈ sessionInBoth, GivesRules element := by
  intro element member
  rcases List.mem_pair.mp member with rfl | rfl
  · refine ⟨rfl, .inl rfl, fun key isKey value found => ?_⟩
    rcases List.mem_pair.mp isKey with rfl | rfl
    · cases found
      exact ⟨_, rfl, by simp [Json.isObject]⟩
    · cases found
      exact ⟨_, rfl, by simp [Json.isObject]⟩
  · refine ⟨rfl, .inl rfl, fun key isKey value found => ?_⟩
    rcases List.mem_pair.mp isKey with rfl | rfl
    · cases found
      exact ⟨_, rfl, by simp [Json.isObject]⟩
    · cases found

theorem combines_iff_sessionInBoth :
    (new "/gateways" "SC-0").Combines sessionInBoth fortunate (.new "SC-0" "" "" false 1)
      [] := by
  refine (combines_iff (buses_new _ _) (by simp [sessionInBoth]) givesRules_sessionInBoth
    fortunate _ []).mpr ⟨⟨SESSION_CONFIG, by simp, fun element member => ?_⟩, fun key isKey => ?_⟩
  · rcases List.mem_pair.mp member with rfl | rfl <;> rfl
  · rcases List.mem_pair.mp isKey with rfl | rfl <;> rfl

def oneElementForEachBus : List Json :=
  [.object [(SESSION_CONFIG, .array [.object []])],
    .object [(SYSTEM_CONFIG, .array [.object []])]]

theorem givesRules_oneElementForEachBus :
    ∀ element ∈ oneElementForEachBus, GivesRules element := by
  intro element member
  rcases List.mem_pair.mp member with rfl | rfl
  · refine ⟨rfl, .inl rfl, fun key isKey value found => ?_⟩
    rcases List.mem_pair.mp isKey with rfl | rfl
    · cases found
      exact ⟨_, rfl, by simp [Json.isObject]⟩
    · cases found
  · refine ⟨rfl, .inr rfl, fun key isKey value found => ?_⟩
    rcases List.mem_pair.mp isKey with rfl | rfl
    · cases found
    · cases found
      exact ⟨_, rfl, by simp [Json.isObject]⟩

/-- Rules for both buses, but in two elements, are rejected. -/
theorem split_config_is_rejected :
    (∀ element ∈ oneElementForEachBus, GivesRules element) ∧
      ¬ (new "/gateways" "SC-0").Combines oneElementForEachBus fortunate
        (.new "SC-0" "" "" false 1) [] := by
  refine ⟨givesRules_oneElementForEachBus, fun combines => ?_⟩
  have rejected : ((setConfig (.array oneElementForEachBus)).run fortunate
      ⟨(new "/gateways" "SC-0", .new "SC-0" "" "" false 1), []⟩).1 = .ok false := rfl
  cases rejected.symm.trans combines.accepted

end DBusGateway

end SoftwareContainers
