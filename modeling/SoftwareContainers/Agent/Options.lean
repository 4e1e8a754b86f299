import Mathlib.Data.List.TakeWhile
import SoftwareContainers.Library.Machine

namespace SoftwareContainers

open Effect Effect.Act

/-! The options a container is created with, and their parser. -/

@[ext] structure DynamicContainerOptions where
  writeBufferEnabled : Bool
  temporaryFileSystemWriteBufferEnabled : Bool
  temporaryFileSystemSize : Nat
  deriving DecidableEq, Repr

namespace DynamicContainerOptions

/-- The size has no initializer of its own, and is zero after `new DynamicContainerOptions()`. -/
def new : DynamicContainerOptions := ⟨false, false, 0⟩

def toConfig (self : DynamicContainerOptions) (conf : SoftwareContainerConfig) :
    SoftwareContainerConfig :=
  { conf with writeBufferEnabled := self.writeBufferEnabled }

end DynamicContainerOptions

namespace ContainerOptionParser

abbrev Method := Act Sys Fault DynamicContainerOptions

abbrev DEFAULT_TEMPORARY_FILESYSTEM_SIZE : Int := 100 * 1024 * 1024

def readTemporaryFileSystem (element : Json) : Method PUnit := do
  let enabled :=
    (JSONParser.readBool element "temporaryFileSystemWriteBufferEnabled").getD false
  modify fun options => { options with temporaryFileSystemWriteBufferEnabled := enabled }
  if enabled then
    let size := (JSONParser.readInt element "temporaryFileSystemSize").getD
      DEFAULT_TEMPORARY_FILESYSTEM_SIZE
    modify fun options =>
      { options with temporaryFileSystemSize := (size % 2 ^ 32).toNat }
  else
    return ⟨⟩

def readConfigElement (element : Json) : Method PUnit := do
  if !element.isObject then
    throw (.containerOptionParseError "Configure entry is not an object")
  else
    match JSONParser.readBool element "writeBufferEnabled" with
    | none =>
        throw (.containerOptionParseError
          "Could not parse config due to: 'writeBufferEnabled' not found.")
    | some writeBufferEnabled =>
        modify fun options => { options with writeBufferEnabled }
        if writeBufferEnabled then
          readTemporaryFileSystem element
        else
          return ⟨⟩

def readConfigElements : List Json → Method PUnit
  | [] => return ⟨⟩
  | element :: rest => do
      readConfigElement element
      readConfigElements rest

/-- `jsonLoads` is `json_loads`, with the text of its error.  What has been set before an
error stays set. -/
def parse (jsonLoads : String → Except String Json) (config : String) :
    Method DynamicContainerOptions := do
  if config = "" then
    throw (.containerOptionParseError "Empty JSON config strings are not supported.")
  else
    match jsonLoads config with
    | .error text =>
        throw (.containerOptionParseError ("Could not parse config: " ++ text ++ config))
    | .ok (.array elements) =>
        readConfigElements elements
        let options ← get
        set DynamicContainerOptions.new
        return options
    | .ok _ =>
        throw (.containerOptionParseError "Root JSON element is not an array")

/-! Which strings are accepted. -/

def acceptsElement (element : Json) : Bool :=
  element.isObject && (JSONParser.readBool element "writeBufferEnabled").isSome

def accepts (jsonLoads : String → Except String Json) (config : String) : Bool :=
  config ≠ "" && match jsonLoads config with
    | .ok (.array elements) => elements.all acceptsElement
    | _ => false

/-! What an element that is accepted sets. -/

def enablesWriteBuffer (element : Json) : Bool :=
  (JSONParser.readBool element "writeBufferEnabled").getD false

def enablesTemporaryFileSystem (element : Json) : Bool :=
  (JSONParser.readBool element "temporaryFileSystemWriteBufferEnabled").getD false

def requestedSize (element : Json) : Nat :=
  ((JSONParser.readInt element "temporaryFileSystemSize").getD
    DEFAULT_TEMPORARY_FILESYSTEM_SIZE % 2 ^ 32).toNat

def applyTemporaryFileSystem (options : DynamicContainerOptions) (element : Json) :
    DynamicContainerOptions :=
  if enablesTemporaryFileSystem element then
    { options with
      temporaryFileSystemWriteBufferEnabled := true
      temporaryFileSystemSize := requestedSize element }
  else
    { options with temporaryFileSystemWriteBufferEnabled := false }

def applyElement (options : DynamicContainerOptions) (element : Json) :
    DynamicContainerOptions :=
  if enablesWriteBuffer element then
    applyTemporaryFileSystem { options with writeBufferEnabled := true } element
  else
    { options with writeBufferEnabled := false }

theorem run_readTemporaryFileSystem (element : Json) (oracle : Oracle Sys)
    (world : World Sys DynamicContainerOptions) :
    (readTemporaryFileSystem element).run oracle world =
      (.ok ⟨⟩, ⟨applyTemporaryFileSystem world.state element, world.history⟩) := by
  rw [readTemporaryFileSystem, applyTemporaryFileSystem, enablesTemporaryFileSystem]
  cases (JSONParser.readBool element "temporaryFileSystemWriteBufferEnabled").getD false with
  | false => rfl
  | true => rfl

theorem run_readConfigElement_of_accepts {element : Json}
    (accepted : acceptsElement element = true) (oracle : Oracle Sys)
    (world : World Sys DynamicContainerOptions) :
    (readConfigElement element).run oracle world =
      (.ok ⟨⟩, ⟨applyElement world.state element, world.history⟩) := by
  rw [acceptsElement, Bool.and_eq_true] at accepted
  rw [readConfigElement, applyElement, enablesWriteBuffer, accepted.1]
  cases enabled : JSONParser.readBool element "writeBufferEnabled" with
  | none => simp [enabled] at accepted
  | some writeBufferEnabled =>
      cases writeBufferEnabled with
      | false => rfl
      | true => exact run_readTemporaryFileSystem element oracle _

def elementFault (element : Json) : Fault :=
  .containerOptionParseError
    (if element.isObject then
      "Could not parse config due to: 'writeBufferEnabled' not found."
    else "Configure entry is not an object")

theorem run_readConfigElement_of_not_accepts {element : Json}
    (rejected : acceptsElement element = false) (oracle : Oracle Sys)
    (world : World Sys DynamicContainerOptions) :
    (readConfigElement element).run oracle world =
      (.error (elementFault element), world) := by
  rw [acceptsElement] at rejected
  rw [readConfigElement, elementFault]
  cases isObject : element.isObject with
  | false => rfl
  | true =>
      rw [isObject, Bool.true_and] at rejected
      have missing := Option.isNone_iff_eq_none.mp (Option.isSome_eq_false_iff.mp rejected)
      rw [missing]
      rfl

def readOutcome (elements : List Json) : Except Fault Unit :=
  match elements.find? fun element => !acceptsElement element with
  | none => .ok ⟨⟩
  | some element => .error (elementFault element)

theorem readOutcome_of_all {elements : List Json}
    (accepted : elements.all acceptsElement = true) : readOutcome elements = .ok ⟨⟩ := by
  have none : elements.find? (fun element => !acceptsElement element) = none := by
    rw [List.find?_eq_none]
    intro element member
    simp [List.all_eq_true.mp accepted element member]
  rw [readOutcome, none]

theorem readOutcome_of_not_all {elements : List Json}
    (rejected : elements.all acceptsElement = false) :
    ∃ element, readOutcome elements = .error (elementFault element) := by
  obtain ⟨element, member, notAccepted⟩ := List.all_eq_false.mp rejected
  have found : (elements.find? fun element => !acceptsElement element).isSome := by
    rw [List.find?_isSome]
    exact ⟨element, member, by simpa using notAccepted⟩
  obtain ⟨first, isFirst⟩ := Option.isSome_iff_exists.mp found
  exact ⟨first, by rw [readOutcome, isFirst]⟩

theorem run_readConfigElements (elements : List Json) (oracle : Oracle Sys)
    (world : World Sys DynamicContainerOptions) :
    (readConfigElements elements).run oracle world =
      (readOutcome elements,
        ⟨(elements.takeWhile acceptsElement).foldl applyElement world.state,
          world.history⟩) := by
  induction elements generalizing world with
  | nil => rfl
  | cons element rest ih =>
      rw [readOutcome, List.find?_cons, List.takeWhile_cons, readConfigElements]
      cases accepted : acceptsElement element with
      | false =>
          rw [run_bind_error (run_readConfigElement_of_not_accepts accepted oracle world)]
          rfl
      | true =>
          rw [run_bind_ok (run_readConfigElement_of_accepts accepted oracle world)]
          exact ih ⟨applyElement world.state element, world.history⟩

def elementsOf (jsonLoads : String → Except String Json) (config : String) :
    Except Fault (List Json) :=
  if config = "" then
    .error (.containerOptionParseError "Empty JSON config strings are not supported.")
  else
    match jsonLoads config with
    | .error text =>
        .error (.containerOptionParseError ("Could not parse config: " ++ text ++ config))
    | .ok (.array elements) => .ok elements
    | .ok _ => .error (.containerOptionParseError "Root JSON element is not an array")

theorem elementsOf_error {jsonLoads : String → Except String Json} {config : String}
    {error : Fault} (failed : elementsOf jsonLoads config = .error error) :
    ∃ message, error = .containerOptionParseError message := by
  unfold elementsOf at failed
  split at failed
  · exact ⟨_, (Except.error.inj failed).symm⟩
  · split at failed
    · exact ⟨_, (Except.error.inj failed).symm⟩
    · cases failed
    · exact ⟨_, (Except.error.inj failed).symm⟩

theorem accepts_eq (jsonLoads : String → Except String Json) (config : String) :
    accepts jsonLoads config = match elementsOf jsonLoads config with
      | .ok elements => elements.all acceptsElement
      | .error _ => false := by
  unfold accepts elementsOf
  by_cases empty : config = ""
  · simp [empty]
  · rw [if_neg empty, decide_eq_true empty, Bool.true_and]
    cases jsonLoads config with
    | error text => rfl
    | ok root => cases root <;> rfl

theorem run_parse_of_error {jsonLoads : String → Except String Json} {config : String}
    {error : Fault} (failed : elementsOf jsonLoads config = .error error)
    (oracle : Oracle Sys) (world : World Sys DynamicContainerOptions) :
    (parse jsonLoads config).run oracle world = (.error error, world) := by
  unfold elementsOf at failed
  unfold parse
  by_cases empty : config = ""
  · rw [if_pos empty] at failed ⊢
    cases failed
    rfl
  · rw [if_neg empty] at failed ⊢
    split at failed <;> cases failed <;> rfl

/-- The elements are read into the options; a success takes these and leaves new ones. -/
theorem run_parse_of_elements {jsonLoads : String → Except String Json} {config : String}
    {elements : List Json} (loaded : elementsOf jsonLoads config = .ok elements)
    (oracle : Oracle Sys) (world : World Sys DynamicContainerOptions) :
    (parse jsonLoads config).run oracle world =
      if elements.all acceptsElement then
        (.ok (elements.foldl applyElement world.state), ⟨.new, world.history⟩)
      else
        ((readOutcome elements).map fun _ => .new,
          ⟨(elements.takeWhile acceptsElement).foldl applyElement world.state,
            world.history⟩) := by
  have run : (parse jsonLoads config).run oracle world =
      (do
        readConfigElements elements
        let options ← get
        set DynamicContainerOptions.new
        return options : Method DynamicContainerOptions).run oracle world := by
    unfold elementsOf at loaded
    unfold parse
    by_cases empty : config = ""
    · rw [if_pos empty] at loaded
      cases loaded
    · rw [if_neg empty] at loaded ⊢
      split at loaded <;> cases loaded
      rfl
  rw [run, run_bind, run_readConfigElements]
  cases accepted : elements.all acceptsElement with
  | true =>
      have whole : elements.takeWhile acceptsElement = elements :=
        List.takeWhile_eq_self_iff.mpr (List.all_eq_true.mp accepted)
      rw [readOutcome_of_all accepted, whole]
      rfl
  | false =>
      obtain ⟨element, outcome⟩ := readOutcome_of_not_all accepted
      rw [outcome, if_neg Bool.false_ne_true]
      rfl

theorem parse_alike (jsonLoads : String → Except String Json) (config : String)
    (options : DynamicContainerOptions) (oracle oracle' : Oracle Sys)
    (history history' : History Sys) :
    ((parse jsonLoads config).run oracle ⟨options, history⟩).1 =
      ((parse jsonLoads config).run oracle' ⟨options, history'⟩).1 := by
  cases loaded : elementsOf jsonLoads config with
  | error error => rw [run_parse_of_error loaded, run_parse_of_error loaded]
  | ok elements =>
      rw [run_parse_of_elements loaded, run_parse_of_elements loaded]
      split <;> rfl

/-- A string that is accepted gives options; any other throws a parse error.  Nothing is
asked of the environment. -/
theorem run_parse (jsonLoads : String → Except String Json) (config : String)
    (oracle : Oracle Sys) (world : World Sys DynamicContainerOptions) :
    ∃ after, ((parse jsonLoads config).run oracle world).2 = ⟨after, world.history⟩ ∧
      if accepts jsonLoads config then
        ∃ options, ((parse jsonLoads config).run oracle world).1 = .ok options
      else
        ∃ message, ((parse jsonLoads config).run oracle world).1 =
          .error (.containerOptionParseError message) := by
  rw [accepts_eq]
  cases loaded : elementsOf jsonLoads config with
  | error error =>
      rw [run_parse_of_error loaded]
      exact ⟨world.state, rfl, (elementsOf_error loaded).imp fun _ same => by rw [same]⟩
  | ok elements =>
      rw [run_parse_of_elements loaded]
      dsimp only
      by_cases accepted : elements.all acceptsElement = true
      · rw [if_pos accepted, if_pos accepted]
        exact ⟨.new, rfl, _, rfl⟩
      · obtain ⟨element, outcome⟩ :=
          readOutcome_of_not_all (Bool.not_eq_true _ |>.mp accepted)
        rw [if_neg accepted, if_neg accepted, outcome]
        exact ⟨_, rfl, _, rfl⟩

end ContainerOptionParser

end SoftwareContainers
