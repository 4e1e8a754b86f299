import SoftwareContainers.Network.Parser

namespace SoftwareContainers

open IPTableEntry

/-! What a network configuration writes, and when the parser accepts no more. -/

namespace NetworkGatewayParser

section Written

variable (fits : Int → Bool)

def writtenPort : Json → Option String
  | .integer port => if fits port then some (toString port) else none
  | _ => none

/-- The port specification of an item; `none` when it is malformed. -/
def writtenPorts : Option Json → Option PortFilter
  | none => some .new
  | some (.integer port) =>
      (writtenPort fits (.integer port)).map fun port => ⟨true, false, port⟩
  | some (.string portRange) => some ⟨true, true, portRange⟩
  | some (.array entries) =>
      (entries.mapM (writtenPort fits)).map fun ports =>
        ⟨true, true, commaSeparated ports⟩
  | some _ => none

def writtenProtocol : Json → Option String
  | .string protocol =>
      if protocol ∈ ["tcp", "udp", "icmp"] then some protocol else none
  | _ => none

/-- The protocols of an item; `none` when they are malformed. -/
def writtenProtocols : Option Json → Option (List String)
  | none => some []
  | some (.string protocol) => (writtenProtocol (.string protocol)).map ([·])
  | some (.array entries) => entries.mapM writtenProtocol
  | some _ => none

/-- The rule an item of the `allow` array writes; `none` when it is malformed. -/
def writtenRule (item : Json) : Option Rule :=
  if item.isObject then do
    let host ← JSONParser.readString item "host"
    let ports ← writtenPorts fits (item.objectGet "ports")
    let protocols ← writtenProtocols (item.objectGet "protocols")
    return { host, protocols, ports, target := .accept }
  else
    none

/-- Parsing is defined, and an entry it accepts has exactly the rules written. -/
def FailsClosed (element : Json) : Prop :=
  ∃ parsed entry,
    parseNetworkGatewayConfiguration element .new = .ok (parsed, entry) ∧
    (parsed = true → ∃ items, element.objectGet "allow" = some (.array items) ∧
      items.map (writtenRule fits) = entry.rules.map some)

/-- The items of the `allow` array of an element with a valid direction. -/
def allowedItems (element : Json) : Option (List Json) :=
  match JSONParser.readString element "direction", element.objectGet "allow" with
  | some direction, some (.array items) =>
      if direction = "INCOMING" ∨ direction = "OUTGOING" then some items else none
  | _, _ => none

/-- An object with a host, which is all `parseRule` insists on. -/
def readable (item : Json) : Bool :=
  item.isObject && (JSONParser.readString item "host").isSome

/-- No item that is reached has an empty array of ports, and either some item is
refused for its shape or its host, or every item is well formed. -/
def Sound (element : Json) : Prop :=
  ∀ items, allowedItems element = some items →
    (∀ item ∈ items.takeWhile readable, item.objectGet "ports" ≠ some (.array [])) ∧
    ((∃ item ∈ items, readable item = false) ∨
      ∀ item ∈ items, (writtenRule fits item).isSome)

end Written

/-! One field. -/

section

variable {fits : Int → Bool} (strict : ∀ value, fits value = true → FitsInt value)

include strict in
theorem appendPorts_of_written {entries : List Json} {ports : List String}
    (written : entries.mapM (writtenPort fits) = some ports) (portList : String) :
    appendPorts entries portList =
      some (portList ++ String.join (ports.map (· ++ ","))) := by
  induction entries generalizing ports portList with
  | nil =>
      obtain rfl : [] = ports := by simpa using written
      simp [appendPorts]
  | cons head tail ih =>
      rw [List.mapM_cons] at written
      obtain ⟨port, headWritten, rest⟩ := Option.bind_eq_some_iff.mp written
      obtain ⟨others, tailWritten, same⟩ := Option.bind_eq_some_iff.mp rest
      obtain rfl : port :: others = ports := by simpa using same
      match head, headWritten with
      | .integer value, headWritten =>
          rw [writtenPort] at headWritten
          split at headWritten
          · obtain rfl := Option.some.inj headWritten
            rw [appendPorts, ih tailWritten, toInt_of_fitsInt (strict value ‹_›)]
            simp [String.append_assoc]
          · cases headWritten

include strict in
theorem parsePort_of_written {element : Json} {ports : PortFilter}
    (written : writtenPorts fits (some element) = some ports)
    (nonempty : element ≠ .array []) :
    parsePort element .new = .ok (true, ports) := by
  match element, written, nonempty with
  | .integer port, written, _ =>
      simp only [writtenPorts, writtenPort] at written
      split at written
      · obtain rfl := Option.some.inj written
        rfl
      · cases written
  | .string portRange, written, _ =>
      obtain rfl := Option.some.inj written
      rfl
  | .array (head :: tail), written, _ =>
      obtain ⟨texts, textsWritten, rfl⟩ := Option.map_eq_some_iff.mp written
      match texts, textsWritten with
      | [], textsWritten =>
          simp [List.mapM_cons, Option.bind_eq_some_iff] at textsWritten
      | first :: rest, textsWritten =>
          rw [parsePort, appendPorts_of_written strict textsWritten,
            String.empty_append, join_map_append_comma]
          have popped : popBack (commaSeparated (first :: rest) ++ ",") =
              .ok (commaSeparated (first :: rest)) :=
            popBack_append_singleton _ ','
          dsimp only
          rw [popped]
          rfl
  | .array [], _, nonempty => exact absurd rfl nonempty

theorem appendPorts_eq_some {entries : List Json} {portList appended : String}
    (ended : appendPorts entries portList = some appended) :
    ∃ texts : List String, texts.length = entries.length ∧
      appended = portList ++ String.join (texts.map (· ++ ",")) := by
  induction entries generalizing portList with
  | nil =>
      obtain rfl := Option.some.inj ended
      exact ⟨[], rfl, by simp⟩
  | cons head tail ih =>
      match head, ended with
      | .integer value, ended =>
          obtain ⟨texts, length, rfl⟩ := ih ended
          exact ⟨toString (toInt value) :: texts, by simp [length],
            by simp [String.append_assoc]⟩

theorem parsePort_defined {element : Json} (nonempty : element ≠ .array [])
    (ports : PortFilter) :
    ∃ parsed filter, parsePort element ports = .ok (parsed, filter) := by
  match element, nonempty with
  | .array [], nonempty => exact absurd rfl nonempty
  | .array (head :: tail), _ =>
      rw [parsePort]
      cases appended : appendPorts (head :: tail) "" with
      | none => exact ⟨false, ports, rfl⟩
      | some portList =>
          obtain ⟨texts, length, rfl⟩ := appendPorts_eq_some appended
          match texts, length with
          | first :: rest, _ =>
              have popped : popBack (commaSeparated (first :: rest) ++ ",") =
                  .ok (commaSeparated (first :: rest)) :=
                popBack_append_singleton _ ','
              refine ⟨true, ⟨true, true, commaSeparated (first :: rest)⟩, ?_⟩
              dsimp only
              rw [String.empty_append, join_map_append_comma, popped]
              rfl
  | .integer port, _ => exact ⟨true, _, rfl⟩
  | .string range, _ => exact ⟨true, _, rfl⟩
  | .null, _ | .boolean _, _ | .real _, _ | .object _, _ => exact ⟨false, ports, rfl⟩

theorem appendProtocols_of_written {entries : List Json} {protocols : List String}
    (written : entries.mapM writtenProtocol = some protocols) (proto : List String) :
    appendProtocols entries proto = (true, proto ++ protocols) := by
  induction entries generalizing protocols proto with
  | nil =>
      obtain rfl : [] = protocols := by simpa using written
      simp [appendProtocols]
  | cons head tail ih =>
      rw [List.mapM_cons] at written
      obtain ⟨protocol, headWritten, rest⟩ := Option.bind_eq_some_iff.mp written
      obtain ⟨others, tailWritten, same⟩ := Option.bind_eq_some_iff.mp rest
      obtain rfl : protocol :: others = protocols := by simpa using same
      match head, headWritten with
      | .string text, headWritten =>
          rw [writtenProtocol] at headWritten
          split at headWritten
          · obtain rfl := Option.some.inj headWritten
            have valid : isProtocolValid text = true := by
              simpa [isProtocolValid, or_assoc] using ‹text ∈ ["tcp", "udp", "icmp"]›
            rw [appendProtocols, if_pos valid, ih tailWritten]
            simp
          · cases headWritten

theorem parseProtocol_of_written {element : Json} {protocols : List String}
    (written : writtenProtocols (some element) = some protocols) :
    parseProtocol element [] = (true, protocols) := by
  match element, written with
  | .string text, written =>
      have single : [Json.string text].mapM writtenProtocol = some protocols := by
        rw [List.mapM_cons]
        simpa [writtenProtocols, Option.map_eq_bind, Function.comp_def] using written
      have appended := appendProtocols_of_written single []
      rw [parseProtocol]
      rw [appendProtocols] at appended
      split at appended
      · rw [if_pos ‹_›]
        simpa [appendProtocols] using appended
      · simp at appended
  | .array entries, written =>
      rw [parseProtocol, appendProtocols_of_written written, List.nil_append]

end

/-! One item. -/

theorem rulePorts_defined {fits : Int → Bool}
    (strict : ∀ value, fits value = true → FitsInt value) {item : Json}
    (nonempty : item.objectGet "ports" ≠ some (.array [])) :
    ∃ ports, rulePorts item = .ok ports ∧
      ∀ written, writtenPorts fits (item.objectGet "ports") = some written →
        ports = written := by
  cases found : item.objectGet "ports" with
  | none =>
      exact ⟨.new, by rw [rulePorts, found]; rfl, fun _ same => Option.some.inj same⟩
  | some element =>
      have elementNonempty : element ≠ .array [] := by
        rintro rfl
        exact nonempty found
      obtain ⟨parsed, ports, ended⟩ := parsePort_defined elementNonempty .new
      refine ⟨ports, by rw [rulePorts, found]; dsimp only; rw [ended]; rfl,
        fun written same => ?_⟩
      rw [parsePort_of_written strict same elementNonempty] at ended
      cases ended
      rfl

theorem ruleProtocols_of_written {item : Json} {protocols : List String}
    (written : writtenProtocols (item.objectGet "protocols") = some protocols) :
    ruleProtocols item = protocols := by
  rw [ruleProtocols]
  cases found : item.objectGet "protocols" with
  | none =>
      rw [found] at written
      exact Option.some.inj written
  | some element =>
      rw [found] at written
      dsimp only
      rw [parseProtocol_of_written written]

theorem parseRule_of_no_host {item : Json}
    (unreadable : JSONParser.readString item "host" = none) (rules : List Rule) :
    parseRule item rules = .ok (false, rules) := by
  rw [parseRule, unreadable]
  rfl

theorem parseRule_undefined {item : Json} {host : String}
    (hostRead : JSONParser.readString item "host" = some host)
    (empty : item.objectGet "ports" = some (.array [])) (rules : List Rule) :
    parseRule item rules = .error .undefined := by
  rw [parseRule, hostRead]
  dsimp only
  rw [rulePorts, empty]
  rfl

theorem parseRule_defined {fits : Int → Bool}
    (strict : ∀ value, fits value = true → FitsInt value) {item : Json}
    (isObject : item.isObject = true) {host : String}
    (hostRead : JSONParser.readString item "host" = some host)
    (nonempty : item.objectGet "ports" ≠ some (.array [])) (rules : List Rule) :
    ∃ rule, parseRule item rules = .ok (true, rules ++ [rule]) ∧
      (writtenRule fits item = some rule ↔ (writtenRule fits item).isSome) := by
  obtain ⟨ports, portsEnded, portsWritten⟩ := rulePorts_defined strict nonempty
  refine ⟨{ host, protocols := ruleProtocols item, ports, target := .accept }, ?_, ?_⟩
  · rw [parseRule, hostRead]
    dsimp only
    rw [portsEnded]
    rfl
  · refine ⟨fun same => by rw [same]; rfl, fun wellFormed => ?_⟩
    rw [writtenRule, if_pos isObject, hostRead] at wellFormed ⊢
    cases portsSame : writtenPorts fits (item.objectGet "ports") with
    | none => rw [portsSame] at wellFormed; cases wellFormed
    | some writtenPorts =>
        rw [portsSame] at wellFormed
        cases protocolsSame : writtenProtocols (item.objectGet "protocols") with
        | none => rw [protocolsSame] at wellFormed; cases wellFormed
        | some protocols =>
            rw [portsWritten _ portsSame, ruleProtocols_of_written protocolsSame]
            rfl

/-! The items of the `allow` array. -/

theorem readable_cases (item : Json) :
    (readable item = false ∧
      ∀ rules, ∀ rest : List Json, parseRules (item :: rest) rules = .ok (false, rules)) ∨
    (item.isObject = true ∧ ∃ host, JSONParser.readString item "host" = some host ∧
      readable item = true) := by
  cases isObject : item.isObject with
  | false =>
      refine .inl ⟨by simp [readable, isObject], fun rules rest => ?_⟩
      rw [parseRules, isObject]
      rfl
  | true =>
      cases hostRead : JSONParser.readString item "host" with
      | none =>
          refine .inl ⟨by simp [readable, hostRead], fun rules rest => ?_⟩
          rw [parseRules, if_pos isObject, parseRule_of_no_host hostRead]
          rfl
      | some host =>
          exact .inr ⟨rfl, host, rfl, by simp [readable, isObject, hostRead]⟩

theorem parseRules_undefined {items : List Json} {item : Json}
    (reached : item ∈ items.takeWhile readable)
    (empty : item.objectGet "ports" = some (.array [])) (rules : List Rule) :
    parseRules items rules = .error .undefined := by
  induction items generalizing rules with
  | nil => cases reached
  | cons head tail ih =>
      rcases readable_cases head with ⟨unreadable, _⟩ | ⟨isObject, host, hostRead, readable⟩
      · simp [unreadable] at reached
      · rw [parseRules, if_pos isObject]
        by_cases headEmpty : head.objectGet "ports" = some (.array [])
        · rw [parseRule_undefined hostRead headEmpty]
          rfl
        · obtain ⟨rule, ended, _⟩ := @parseRule_defined (fun _ => false)
            (by simp) head isObject host hostRead headEmpty rules
          rw [List.takeWhile_cons_of_pos readable] at reached
          rcases List.mem_cons.mp reached with rfl | reached
          · exact absurd empty headEmpty
          · rw [ended]
            exact ih reached (rules ++ [rule])

/-- Otherwise parsing ends: it refuses when an item is not readable, and else it
adds the rules written, provided that all items are well formed. -/
theorem parseRules_defined {fits : Int → Bool}
    (strict : ∀ value, fits value = true → FitsInt value) {items : List Json}
    (nonempty : ∀ item ∈ items.takeWhile readable,
      item.objectGet "ports" ≠ some (.array []))
    (rules : List Rule) :
    ∃ added, parseRules items rules = .ok (items.all readable, rules ++ added) ∧
      (items.all readable = true → (items.map (writtenRule fits) = added.map some ↔
        ∀ item ∈ items, (writtenRule fits item).isSome)) := by
  induction items generalizing rules with
  | nil => exact ⟨[], by simp [parseRules, pure, Except.pure], by simp⟩
  | cons head tail ih =>
      rcases readable_cases head with ⟨unreadable, ended⟩ |
        ⟨isObject, host, hostRead, isReadable⟩
      · exact ⟨[], by rw [ended]; simp [unreadable], by simp [unreadable]⟩
      · rw [List.takeWhile_cons_of_pos isReadable] at nonempty
        obtain ⟨rule, headEnded, headWritten⟩ := parseRule_defined strict isObject
          hostRead (nonempty head List.mem_cons_self) rules
        obtain ⟨added, tailEnded, tailWritten⟩ := ih
          (fun item member => nonempty item (List.mem_cons_of_mem _ member))
          (rules ++ [rule])
        refine ⟨rule :: added, ?_, fun allReadable => ?_⟩
        · rw [parseRules, if_pos isObject, headEnded]
          simpa [isReadable, bind, Except.bind] using tailEnded
        · simp only [List.all_cons, isReadable, Bool.true_and] at allReadable
          rw [List.map_cons, List.map_cons, List.cons.injEq, headWritten,
            tailWritten allReadable, List.forall_mem_cons]

/-! The whole element. -/

theorem chainType_isSome_iff {chain : String} :
    (chainType chain).isSome ↔ chain = "INCOMING" ∨ chain = "OUTGOING" := by
  rw [chainType]
  split
  · simp [*]
  · split <;> simp [*]

theorem parse_of_allowedItems {element : Json} {items : List Json}
    (allowed : allowedItems element = some items) :
    element.objectGet "allow" = some (.array items) ∧
      ∃ type, parseNetworkGatewayConfiguration element .new =
        (do
          let (parsed, rules) ← parseRules items []
          return (parsed, { type, rules, defaultTarget := .drop })) := by
  rw [allowedItems] at allowed
  split at allowed
  · rename_i direction entries directionRead allow
    split at allowed
    · obtain rfl := Option.some.inj allowed
      obtain ⟨type, isType⟩ :=
        Option.isSome_iff_exists.mp (chainType_isSome_iff.mpr ‹_›)
      refine ⟨allow, type, ?_⟩
      rw [parseNetworkGatewayConfiguration, directionRead]
      dsimp only
      rw [isType, allow]
      rfl
    · cases allowed
  · cases allowed

theorem parse_of_not_allowedItems {element : Json}
    (notAllowed : allowedItems element = none) :
    ∃ entry, parseNetworkGatewayConfiguration element .new = .ok (false, entry) := by
  rw [parseNetworkGatewayConfiguration]
  cases directionRead : JSONParser.readString element "direction" with
  | none => exact ⟨_, rfl⟩
  | some direction =>
      dsimp only
      cases isType : chainType direction with
      | none => exact ⟨_, rfl⟩
      | some type =>
          cases allow : element.objectGet "allow" with
          | none => exact ⟨_, rfl⟩
          | some value =>
              cases value with
              | array entries =>
                  have valid := chainType_isSome_iff.mp (by rw [isType]; rfl)
                  simp [allowedItems, directionRead, allow, valid] at notAllowed
              | _ => exact ⟨_, rfl⟩

/-- Parsing fails closed exactly for the sound elements, whichever port numbers
are taken to fit, as long as those are values of an `int`. -/
theorem failsClosed_iff_sound (fits : Int → Bool)
    (strict : ∀ value, fits value = true → FitsInt value) (element : Json) :
    FailsClosed fits element ↔ Sound fits element := by
  cases allowed : allowedItems element with
  | none =>
      obtain ⟨entry, ended⟩ := parse_of_not_allowedItems allowed
      exact ⟨fun _ items same => (nomatch allowed.symm.trans same),
        fun _ => ⟨false, entry, ended, nofun⟩⟩
  | some items =>
      obtain ⟨allow, type, ended⟩ := parse_of_allowedItems allowed
      have sound : Sound fits element ↔
          (∀ item ∈ items.takeWhile readable,
            item.objectGet "ports" ≠ some (.array [])) ∧
          ((∃ item ∈ items, readable item = false) ∨
            ∀ item ∈ items, (writtenRule fits item).isSome) := by
        simp [Sound, allowed]
      rw [sound]
      by_cases nonempty : ∀ item ∈ items.takeWhile readable,
          item.objectGet "ports" ≠ some (.array [])
      · obtain ⟨added, rulesEnded, written⟩ := parseRules_defined strict nonempty []
        have parsed : parseNetworkGatewayConfiguration element .new =
            .ok (items.all readable, ⟨type, added, .drop⟩) := by
          rw [ended, rulesEnded]
          rfl
        rw [FailsClosed, parsed]
        by_cases allReadable : items.all readable = true
        · have noneUnreadable : ¬ ∃ item ∈ items, readable item = false := by
            simpa using allReadable
          simp only [allReadable, Except.ok.injEq, Prod.mk.injEq]
          rw [and_iff_right nonempty, or_iff_right noneUnreadable,
            ← written allReadable]
          constructor
          · rintro ⟨_, _, ⟨rfl, rfl⟩, holds⟩
            obtain ⟨items', same, mapped⟩ := holds rfl
            rw [allow] at same
            cases same
            exact mapped
          · intro mapped
            exact ⟨true, _, ⟨rfl, rfl⟩, fun _ => ⟨items, allow, mapped⟩⟩
        · have someUnreadable : ∃ item ∈ items, readable item = false := by
            simpa using allReadable
          exact ⟨fun _ => ⟨nonempty, .inl someUnreadable⟩,
            fun _ => ⟨_, _, rfl, fun isTrue => absurd isTrue allReadable⟩⟩
      · have reachedEmpty : ∃ item ∈ items.takeWhile readable,
            item.objectGet "ports" = some (.array []) := by
          simpa using nonempty
        obtain ⟨item, reached, empty⟩ := reachedEmpty
        rw [FailsClosed, ended, parseRules_undefined reached empty]
        exact ⟨fun ⟨_, _, same, _⟩ => (nomatch same), fun holds => absurd holds.1 nonempty⟩

/-! An item with a misspelt protocol. -/

def misspeltProtocol : Json :=
  .object [("direction", .string "INCOMING"), ("allow", .array
    [.object [("host", .string "*"), ("protocols", .string "tpc")]])]

def portRange (value : Int) : Bool := 0 ≤ value && value ≤ 65535

/-- The configuration is accepted, with a rule for every protocol. -/
theorem misspelt_protocol_is_accepted :
    parseNetworkGatewayConfiguration misspeltProtocol .new =
      .ok (true, ⟨"INPUT", [⟨"*", [], .new, .accept⟩], .drop⟩) ∧
    ¬ FailsClosed portRange misspeltProtocol := by
  refine ⟨rfl, ?_⟩
  rintro ⟨parsed, entry, ended, holds⟩
  cases ended
  obtain ⟨items, allow, mapped⟩ := holds rfl
  cases allow
  cases mapped

theorem failsClosed_iff_sound_misspelt :
    FailsClosed portRange misspeltProtocol ↔ Sound portRange misspeltProtocol :=
  failsClosed_iff_sound portRange (by
    intro value inRange
    simp only [portRange, Bool.and_eq_true, decide_eq_true_eq] at inRange
    constructor <;> omega) misspeltProtocol

end NetworkGatewayParser

end SoftwareContainers
