import SoftwareContainers.Effect.Invariant
import SoftwareContainers.Gateways.Simple

namespace SoftwareContainers

open Effect Effect.Act Hook

/-! What becomes of an environment variable that several elements define. -/

inductive EnvironmentMode where
  | set
  | prepend
  | append
  deriving DecidableEq

namespace EnvironmentMode

def text : EnvironmentMode → String
  | .set => "set"
  | .prepend => "prepend"
  | .append => "append"

def ofText (text : String) : Option EnvironmentMode :=
  if text = "set" then some .set
  else if text = "prepend" then some .prepend
  else if text = "append" then some .append
  else none

theorem eq_text_of_ofText {text : String} {mode : EnvironmentMode}
    (found : ofText text = some mode) : text = mode.text := by
  unfold ofText at found
  split at found
  · cases found
    assumption
  · split at found
    · cases found
      assumption
    · split at found
      · cases found
        assumption
      · cases found

theorem ofText_eq_none_iff {text : String} :
    ofText text = none ↔ text ∉ ["set", "prepend", "append"] := by
  by_cases isSet : text = "set"
  · simp [ofText, isSet]
  · by_cases isPrepend : text = "prepend"
    · simp [ofText, isPrepend]
    · by_cases isAppend : text = "append"
      · simp [ofText, isAppend]
      · simp [ofText, isSet, isPrepend, isAppend]

end EnvironmentMode

/-- What a well-formed element says of a variable. -/
structure EnvironmentDefinition where
  name : String
  value : String
  mode : EnvironmentMode
  separator : String

namespace EnvironmentDefinition

/-- A name and a value that are not empty, with a mode and a separator if there are any. -/
def ofElement (element : Json) : Option EnvironmentDefinition := do
  let name ← (JSONParser.readString element "name").filter (· ≠ "")
  let value ← (JSONParser.readString element "value").filter (· ≠ "")
  let mode ← JSONParser.readOptionalString element "mode" "set"
  let mode ← EnvironmentMode.ofText mode.toLower
  let separator ← JSONParser.readOptionalString element "separator" ""
  return { name, value, mode, separator }

/-- The value of a variable after one more definition; none if it is rejected. -/
def combine (definition : EnvironmentDefinition) : Option String → Option String
  | none => some definition.value
  | some previous =>
      match definition.mode with
      | .set => none
      | .prepend => some (definition.value ++ definition.separator ++ previous)
      | .append => some (previous ++ definition.separator ++ definition.value)

/-- The value that a list of definitions of one variable makes: the first value, before it
all that is prepended later, the last of it first, and behind it all that is appended. -/
def compose : List EnvironmentDefinition → Option String
  | [] => none
  | first :: later => some (
      String.join ((later.filter (·.mode = .prepend)).reverse.map fun definition =>
        definition.value ++ definition.separator) ++ first.value ++
      String.join ((later.filter (·.mode = .append)).map fun definition =>
        definition.separator ++ definition.value))

theorem compose_append (definitions : List EnvironmentDefinition)
    (definition : EnvironmentDefinition) :
    compose (definitions ++ [definition]) =
      (definition.combine (compose definitions)).or (compose definitions) := by
  cases definitions with
  | nil => simp [compose, combine]
  | cons first later =>
      rw [List.cons_append, compose, compose]
      cases mode : definition.mode with
      | set => simp [combine, mode, List.filter_append]
      | prepend =>
          simp [combine, mode, List.filter_append, String.append_assoc]
      | append =>
          simp [combine, mode, List.filter_append, String.append_assoc]

example : compose [⟨"PATH", "/bin", .append, ":"⟩, ⟨"PATH", "/opt", .prepend, ":"⟩,
    ⟨"PATH", "/sbin", .append, ";"⟩, ⟨"PATH", "/lost", .set, ""⟩] =
      some "/opt:/bin;/sbin" := by
  decide +kernel

end EnvironmentDefinition

namespace EnvironmentGateway

theorem requireNonEmptyKeyValue_eq (element : Json) (key : String) :
    requireNonEmptyKeyValue element key =
      (JSONParser.readString element key).filter (· ≠ "") := by
  rw [requireNonEmptyKeyValue]
  cases JSONParser.readString element key with
  | none => rfl
  | some text => by_cases empty : text = "" <;> simp [empty, Option.filter]

theorem parseConfigElement_eq (element : Json) (store : EnvironmentVariables) :
    parseConfigElement element store =
      (EnvironmentDefinition.ofElement element).bind fun definition =>
        (definition.combine store[definition.name]?).map fun value =>
          (definition.name, value) := by
  unfold parseConfigElement EnvironmentDefinition.ofElement
  rw [requireNonEmptyKeyValue_eq, requireNonEmptyKeyValue_eq]
  cases (JSONParser.readString element "name").filter (· ≠ "") with
  | none => rfl
  | some name =>
      cases (JSONParser.readString element "value").filter (· ≠ "") with
      | none => rfl
      | some value =>
          cases JSONParser.readOptionalString element "mode" "set" with
          | none => rfl
          | some text =>
              simp only [bind, Option.bind]
              cases found : EnvironmentMode.ofText text.toLower with
              | none => rw [if_pos (EnvironmentMode.ofText_eq_none_iff.mp found)]
              | some mode =>
                  have isMode : ¬ text.toLower ∉ ["set", "prepend", "append"] := fun notMode => by
                    rw [EnvironmentMode.ofText_eq_none_iff.mpr notMode] at found
                    cases found
                  rw [if_neg isMode, EnvironmentMode.eq_text_of_ofText found]
                  cases JSONParser.readOptionalString element "separator" "" with
                  | none => rfl
                  | some separator =>
                      dsimp only [pure]
                      cases store[name]? with
                      | none => rfl
                      | some previous => cases mode <;> rfl

section

variable (element : Json) (oracle : Oracle Sys)
  (world : World Sys (EnvironmentGateway × Container))

theorem run_readConfigElement :
    (readConfigElement element).run oracle world =
      match (EnvironmentDefinition.ofElement element).bind fun definition =>
          (definition.combine world.state.1.settings[definition.name]?).map fun value =>
            (definition.name, value) with
      | none => (.ok false, world)
      | some (name, value) =>
          (.ok true, ⟨({ world.state.1 with
            settings := world.state.1.settings.insert name value }, world.state.2),
            world.history⟩) := by
  rw [← parseConfigElement_eq, readConfigElement]
  dsimp only [getGateway]
  rw [run_bind_ok (show (_ >>= _ : Hook EnvironmentGateway EnvironmentGateway).run _ _ = _
    from rfl)]
  cases parseConfigElement element world.state.1.settings with
  | none => rfl
  | some variable' => rfl

end

/-- A rejected element is malformed or sets a variable that is defined already, and nothing
else is; what is rejected changes nothing. -/
structure RejectsExactly (oracle : Oracle Sys)
    (world : World Sys (EnvironmentGateway × Container)) (element : Json) : Prop where
  returns : ∃ accepted, ((readConfigElement element).run oracle world).1 = .ok accepted
  rejected : ((readConfigElement element).run oracle world).1 = .ok false ↔
    EnvironmentDefinition.ofElement element = none ∨
      ∃ definition, EnvironmentDefinition.ofElement element = some definition ∧
        definition.mode = .set ∧ definition.name ∈ world.state.1.settings
  unchanged : ((readConfigElement element).run oracle world).1 = .ok false →
    ((readConfigElement element).run oracle world).2.state = world.state

theorem combine_eq_none_iff {definition : EnvironmentDefinition} {previous : Option String} :
    definition.combine previous = none ↔ definition.mode = .set ∧ previous.isSome = true := by
  cases previous with
  | none => simp [EnvironmentDefinition.combine]
  | some previous => cases mode : definition.mode <;> simp [EnvironmentDefinition.combine, mode]

theorem rejectsExactly (oracle : Oracle Sys) (world : World Sys (EnvironmentGateway × Container))
    (element : Json) : RejectsExactly oracle world element := by
  have ran := run_readConfigElement element oracle world
  cases isDefinition : EnvironmentDefinition.ofElement element with
  | none =>
      rw [isDefinition] at ran
      exact ⟨⟨false, by rw [ran]; rfl⟩, ⟨fun _ => .inl isDefinition, fun _ => by rw [ran]; rfl⟩,
        fun _ => by rw [ran]; rfl⟩
  | some definition =>
      rw [isDefinition] at ran
      simp only [Option.bind_some] at ran
      cases combined : definition.combine world.state.1.settings[definition.name]? with
      | none =>
          rw [combined] at ran
          obtain ⟨isSet, defined⟩ := combine_eq_none_iff.mp combined
          rw [← Std.ExtTreeMap.mem_iff_isSome_getElem?] at defined
          exact ⟨⟨false, by rw [ran]; rfl⟩,
            ⟨fun _ => .inr ⟨definition, isDefinition, isSet, defined⟩, fun _ => by rw [ran]; rfl⟩,
            fun _ => by rw [ran]; rfl⟩
      | some value =>
          rw [combined] at ran
          have accepted : ((readConfigElement element).run oracle world).1 = .ok true := by
            rw [ran]
            rfl
          refine ⟨⟨true, accepted⟩, ⟨fun refused => ?_, ?_⟩, fun refused => ?_⟩
          · cases accepted.symm.trans refused
          · rintro (malformed | ⟨other, isOther, isSet, defined⟩)
            · cases isDefinition.symm.trans malformed
            · cases isDefinition.symm.trans isOther
              rw [Std.ExtTreeMap.mem_iff_isSome_getElem?] at defined
              cases combined.symm.trans (combine_eq_none_iff.mpr ⟨isSet, defined⟩)
          · cases accepted.symm.trans refused

def definitionsOf (elements : List Json) (name : String) : List EnvironmentDefinition :=
  (elements.filterMap EnvironmentDefinition.ofElement).filter (·.name = name)

/-- Each variable has the value that the definitions so far make. -/
def Composed (elements : List Json) (settings : EnvironmentVariables) : Prop :=
  ∀ name : String, settings[name]? = EnvironmentDefinition.compose (definitionsOf elements name)

theorem definitionsOf_append_singleton (elements : List Json) (element : Json) (name : String) :
    definitionsOf (elements ++ [element]) name =
      definitionsOf elements name ++
        ((EnvironmentDefinition.ofElement element).toList.filter (·.name = name)) := by
  rw [definitionsOf, List.filterMap_append, List.filter_append, definitionsOf]
  cases isDefinition : EnvironmentDefinition.ofElement element <;> simp [isDefinition]

theorem Composed.readConfigElement {elements : List Json} {oracle : Oracle Sys}
    {world : World Sys (EnvironmentGateway × Container)}
    (composed : Composed elements world.state.1.settings) (element : Json) :
    Composed (elements ++ [element])
      ((readConfigElement element).run oracle world).2.state.1.settings := by
  intro name
  rw [run_readConfigElement, definitionsOf_append_singleton]
  cases isDefinition : EnvironmentDefinition.ofElement element with
  | none =>
      simp only [Option.bind_none, Option.toList_none, List.filter_nil, List.append_nil]
      exact composed name
  | some definition =>
      simp only [Option.bind_some, Option.toList_some]
      by_cases same : definition.name = name
      · have compose := EnvironmentDefinition.compose_append (definitionsOf elements name)
          definition
        rw [← composed name] at compose
        rw [List.filter_cons_of_pos (by simpa using same), List.filter_nil, compose, same]
        cases definition.combine world.state.1.settings[name]? with
        | none => rfl
        | some value => exact Std.ExtTreeMap.getElem?_insert_self
      · rw [List.filter_cons_of_neg (by simpa using same), List.filter_nil, List.append_nil,
          ← composed name]
        cases definition.combine world.state.1.settings[definition.name]? with
        | none => rfl
        | some value =>
            change (world.state.1.settings.insert definition.name value)[name]? = _
            rw [Std.ExtTreeMap.getElem?_insert, if_neg]
            rw [Std.compare_eq_iff_eq]
            exact same

theorem Composed.runAll {earlier : List Json} (oracle : Oracle Sys) (elements : List Json)
    (world : World Sys (EnvironmentGateway × Container))
    (composed : Composed earlier world.state.1.settings) :
    Composed (earlier ++ elements)
        (Act.runAll EnvironmentGateway.readConfigElement oracle elements
          world).2.state.1.settings ∧
      Throughout EnvironmentGateway.readConfigElement oracle (RejectsExactly oracle) elements
        world := by
  induction elements generalizing earlier world with
  | nil =>
      rw [List.append_nil]
      exact ⟨composed, trivial⟩
  | cons element rest ih =>
      obtain ⟨after, others⟩ := ih _ (composed.readConfigElement element)
      rw [List.append_assoc] at after
      exact ⟨after, rejectsExactly oracle world element, others⟩

/-- **Environment variables are composed** of all that was accepted for them, and only what is
malformed or sets a variable once more is rejected. -/
theorem environment_composed (oracle : Oracle Sys) (elements : List Json)
    (container : Container) (history : History Sys) :
    Composed elements (Act.runAll readConfigElement oracle elements
        ⟨(new, container), history⟩).2.state.1.settings ∧
      Throughout readConfigElement oracle (RejectsExactly oracle) elements
        ⟨(new, container), history⟩ := by
  have composed : Composed [] (new : EnvironmentGateway).settings :=
    fun _ => Std.ExtTreeMap.getElem?_empty
  exact composed.runAll oracle elements ⟨(new, container), history⟩

end EnvironmentGateway

end SoftwareContainers
